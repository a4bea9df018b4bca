import Mathlib.Data.List.Basic
import MotionJpeg.Capture.Jpeg
import MotionJpeg.Proofs.Bytes.Search

/-!
# The size of an image

The frame header of a JPEG stands behind fill bytes, lone markers and segments. Its size is found
in every image that is laid out so, and nothing is taken for a frame header that is none.

* `Jpeg.HasSize` says how an image is laid out up to its frame header.
* `Jpeg.walk?` looks for the frame header from place to place and asks for each byte by its place.
* `Jpeg.dimensions_exact`: the size of the first frame header is found, in no more looks than there
  are bytes, and no byte is asked for that is not there.
-/

namespace MotionJpeg.Jpeg

section Layout

/-- The markers that open a frame header. -/
def IsFrameMarker (marker : UInt8) : Prop :=
  0xC0 ≤ marker ∧ marker ≤ 0xC3 ∨ 0xC5 ≤ marker ∧ marker ≤ 0xC7 ∨
    0xC9 ≤ marker ∧ marker ≤ 0xCB ∨ 0xCD ≤ marker ∧ marker ≤ 0xCF

/-- The markers with nothing of their own behind them. -/
def IsLoneMarker (marker : UInt8) : Prop := marker = 0x01 ∨ 0xD0 ≤ marker ∧ marker ≤ 0xD8

/-- The markers of the segments that are passed over. -/
structure IsSegmentMarker (marker : UInt8) : Prop where
  ne_fill : marker ≠ 0xFF
  not_isLoneMarker : ¬ IsLoneMarker marker
  ne_startOfScan : marker ≠ 0xDA
  not_isFrameMarker : ¬ IsFrameMarker marker

/-- `item` may stand before a frame header, with `rest` behind it. -/
inductive IsItem : Bytes → Bytes → Prop
  /-- A fill byte stands before another one, or before the first byte of a marker. -/
  | fill {rest : Bytes} : IsItem [0xFF] (0xFF :: rest)
  /-- A marker that stands alone. -/
  | lone {marker : UInt8} {rest : Bytes} (hmarker : IsLoneMarker marker) :
      IsItem [0xFF, marker] rest
  /-- A segment tells its length, which counts the two bytes that tell it. -/
  | segment {marker high low : UInt8} {body rest : Bytes} (hmarker : IsSegmentMarker marker)
      (hlength : body.length + 2 = Bytes.pairToNat high low) :
      IsItem (0xFF :: marker :: high :: low :: body) rest

/-- The data are items in a row, with `rest` behind the last one. -/
inductive IsRow (rest : Bytes) : Bytes → Prop
  | nil : IsRow rest rest
  | cons {item data : Bytes} (hitem : IsItem item data) (hrow : IsRow rest data) :
      IsRow rest (item ++ data)

/-- A frame header up to its width. -/
structure FrameHeader where
  marker : UInt8
  /-- The two bytes of the length, which may be any. -/
  length : UInt8 × UInt8
  precision : UInt8
  /-- The two bytes of the height, the high one first. -/
  height : UInt8 × UInt8
  /-- The two bytes of the width, the high one first. -/
  width : UInt8 × UInt8
  isFrameMarker : IsFrameMarker marker

namespace FrameHeader

variable (header : FrameHeader)

/-- A frame header as it stands in an image. -/
def bytes : Bytes := [
  0xFF, header.marker, header.length.1, header.length.2, header.precision,
  header.height.1, header.height.2, header.width.1, header.width.2]

/-- The width and the height. -/
def size : Nat × Nat :=
  (Bytes.pairToNat header.width.1 header.width.2, Bytes.pairToNat header.height.1 header.height.2)

end FrameHeader

/-- The data are items and then a frame header with this size. -/
def LeadsTo (data : Bytes) (size : Nat × Nat) : Prop :=
  ∃ (header : FrameHeader) (rest : Bytes), IsRow (header.bytes ++ rest) data ∧ header.size = size

/-- The data are an image whose frame header has this size. -/
def HasSize (data : Bytes) (size : Nat × Nat) : Prop :=
  ∃ row, data = startOfImage ++ row ∧ LeadsTo row size

end Layout

section Markers

variable {marker : UInt8}

theorem isFrameHeader_iff : isFrameHeader marker = true ↔ IsFrameMarker marker := by
  simp only [isFrameHeader, IsFrameMarker, Bool.and_eq_true, bne_iff_ne, decide_eq_true_eq,
    UInt8.le_iff_toNat_le, ne_eq, ← UInt8.toNat_inj, UInt8.reduceToNat]
  omega

theorem isStandalone_iff : isStandalone marker = true ↔ IsLoneMarker marker := by
  simp [isStandalone, IsLoneMarker]

/-- A frame header is no fill byte and no marker that stands alone. -/
theorem IsFrameMarker.ne_fill (h : IsFrameMarker marker) : marker ≠ 0xFF ∧
    ¬ IsLoneMarker marker := by
  simp only [IsFrameMarker, IsLoneMarker, UInt8.le_iff_toNat_le, ne_eq, ← UInt8.toNat_inj,
    UInt8.reduceToNat] at h ⊢
  omega

/-- A marker that stands alone is no fill byte. -/
theorem IsLoneMarker.ne_fill (h : IsLoneMarker marker) : marker ≠ 0xFF := by
  simp only [IsLoneMarker, UInt8.le_iff_toNat_le, ne_eq, ← UInt8.toNat_inj,
    UInt8.reduceToNat] at h ⊢
  omega

end Markers

section Scan

/-- To skip bytes is to scan what is left without them. -/
theorem scan_eq_scan_drop (skip : Nat) (data : Bytes) :
    scan skip data = scan 0 (data.drop skip) := by
  induction data generalizing skip with
  | nil => rw [List.drop_nil, scan, scan]
  | cons c data ih =>
    cases skip with
    | zero => rfl
    | succ skip => rw [scan, ih, List.drop_succ_cons]

/-- Less than a marker and its length holds no frame header. -/
theorem scan_of_length_lt {data : Bytes} (h : data.length < 4) : scan 0 data = none := by
  match data, h with
  | [], _ | [_], _ | [_, _], _ | [_, _, _], _ => rfl

variable {marker high low : UInt8} {body : Bytes}

theorem scan_fill : scan 0 (0xFF :: 0xFF :: body) = scan 0 (0xFF :: body) := by
  match body with
  | [] | [_] => rfl
  | _ :: _ :: _ => simp [scan]

theorem scan_lone (h : IsLoneMarker marker) : scan 0 (0xFF :: marker :: body) = scan 0 body := by
  match body with
  | [] | [_] => rfl
  | high :: low :: body =>
    rw [scan]
    simp only [ne_eq, not_true_eq_false, if_false, if_neg h.ne_fill, isStandalone_iff.mpr h,
      if_true]
    rw [scan_eq_scan_drop, List.drop_one, List.tail_cons]

theorem scan_segment (h : IsSegmentMarker marker) (hlength : 2 ≤ Bytes.pairToNat high low) :
    scan 0 (0xFF :: marker :: high :: low :: body) =
      scan 0 (body.drop (Bytes.pairToNat high low - 2)) := by
  have hlone : ¬ isStandalone marker = true := fun hmarker =>
    h.not_isLoneMarker (isStandalone_iff.mp hmarker)
  have hframe : ¬ isFrameHeader marker = true := fun hmarker =>
    h.not_isFrameMarker (isFrameHeader_iff.mp hmarker)
  have hend : ¬ (marker = startOfScan ∨ Bytes.pairToNat high low < 2) := by
    rintro (hscan | hshort)
    · exact h.ne_startOfScan hscan
    · omega
  rw [scan]
  simp only [ne_eq, not_true_eq_false, if_false, if_neg h.ne_fill, if_neg hlone, if_neg hframe,
    if_neg hend]
  obtain ⟨n, hn⟩ := Nat.exists_eq_add_of_le hlength
  rw [scan_eq_scan_drop, hn, Nat.add_sub_cancel_left, show 2 + n + 1 = n + 3 by omega]
  rfl

theorem scan_frame (h : IsFrameMarker marker) :
    scan 0 (0xFF :: marker :: high :: low :: body) = frameSize? body := by
  have hlone : ¬ isStandalone marker = true := fun hmarker =>
    h.ne_fill.2 (isStandalone_iff.mp hmarker)
  rw [scan]
  simp only [ne_eq, not_true_eq_false, if_false, if_neg h.ne_fill.1, if_neg hlone,
    isFrameHeader_iff.mpr h, if_true]

/-- Where a marker ought to be, there is another byte. -/
theorem scan_of_ne {c : UInt8} (h : c ≠ 0xFF) :
    scan 0 (c :: marker :: high :: low :: body) = none := by
  rw [scan]
  simp only [if_pos h]

/-- Nothing is looked for behind the scan data and a segment without a length. -/
theorem scan_of_end (hfill : ¬ marker = 0xFF) (hlone : ¬ isStandalone marker = true)
    (hframe : ¬ isFrameHeader marker = true)
    (hend : marker = startOfScan ∨ Bytes.pairToNat high low < 2) :
    scan 0 (0xFF :: marker :: high :: low :: body) = none := by
  rw [scan]
  simp only [ne_eq, not_true_eq_false, if_false, if_neg hfill, if_neg hlone, if_neg hframe,
    if_pos hend]

/-- An item is passed over as a whole. -/
theorem IsItem.scan_append {item data : Bytes} (h : IsItem item data) :
    scan 0 (item ++ data) = scan 0 data := by
  cases h with
  | fill => exact scan_fill
  | lone hmarker => exact scan_lone hmarker
  | segment hmarker hlength =>
    rw [List.cons_append, List.cons_append, List.cons_append, List.cons_append,
      scan_segment hmarker (by omega), ← hlength, Nat.add_sub_cancel, List.drop_left]

/-- What a row of items leads to is found. -/
theorem LeadsTo.scan_eq {data : Bytes} {size : Nat × Nat} (h : LeadsTo data size) :
    scan 0 data = some size := by
  obtain ⟨header, rest, hrow, rfl⟩ := h
  induction hrow with
  | nil => exact scan_frame header.isFrameMarker
  | cons hitem _ ih => rw [hitem.scan_append, ih]

/-- More items may stand in front. -/
theorem LeadsTo.append {item data : Bytes} {size : Nat × Nat} (hitem : IsItem item data)
    (h : LeadsTo data size) : LeadsTo (item ++ data) size := by
  obtain ⟨header, rest, hrow, hsize⟩ := h
  exact ⟨header, rest, .cons hitem hrow, hsize⟩

/-- No data lead to nothing. -/
theorem LeadsTo.ne_nil {data : Bytes} {size : Nat × Nat} (h : LeadsTo data size) : data ≠ [] := by
  rintro rfl
  exact absurd h.scan_eq (by simp [scan])

theorem leadsTo_of_frameSize? {size : Nat × Nat} (hmarker : IsFrameMarker marker)
    (h : frameSize? body = some size) : LeadsTo (0xFF :: marker :: high :: low :: body) size := by
  match body, h with
  | precision :: h :: h' :: w :: w' :: rest, hsize =>
    exact ⟨⟨marker, (high, low), precision, (h, h'), (w, w'), hmarker⟩, rest, .nil,
      Option.some.inj hsize⟩

/-- A size that is found stands in a frame header behind a row of items. -/
theorem leadsTo_of_scan {skip : Nat} {data : Bytes} {size : Nat × Nat}
    (h : scan skip data = some size) : LeadsTo (data.drop skip) size := by
  -- Induction along the scan: what it passes over in one piece is an item.
  fun_induction scan skip data with
  | case1 | case3 | case7 | case9 => cases h
  | case2 c rest skip ih => exact ih h
  | case4 c high low body hc ih =>
    obtain rfl := of_not_not hc
    exact (ih h).append .fill
  | case5 c marker high low body hc _ hlone ih =>
    obtain rfl := of_not_not hc
    exact (ih h).append (.lone (isStandalone_iff.mp hlone))
  | case6 c marker high low body hc _ _ hframe =>
    obtain rfl := of_not_not hc
    exact leadsTo_of_frameSize? (isFrameHeader_iff.mp hframe) h
  | case8 c marker high low body length hc hfill hlone hframe hend ih =>
    obtain rfl := of_not_not hc
    have hmarker : IsSegmentMarker marker :=
      ⟨hfill, fun h => hlone (isStandalone_iff.mpr h), fun h => hend (.inl h),
        fun h => hframe (isFrameHeader_iff.mpr h)⟩
    obtain ⟨n, hn⟩ : ∃ n, length = 2 + n := Nat.exists_eq_add_of_le (by omega)
    have hrest : LeadsTo (body.drop n) size := by
      have hdrop : (marker :: high :: low :: body).drop (length + 1) = body.drop n := by
        rw [hn, show 2 + n + 1 = n + 3 by omega]
        rfl
      exact hdrop ▸ ih h
    -- Something is left behind the segment, so all of it is there.
    have hlength : n < body.length := by
      by_contra hshort
      exact hrest.ne_nil (List.drop_eq_nil_of_le (by omega))
    have hitem : IsItem (0xFF :: marker :: high :: low :: body.take n) (body.drop n) :=
      .segment hmarker (by rw [List.length_take]; omega)
    have happend := hrest.append hitem
    rwa [List.cons_append, List.cons_append, List.cons_append, List.cons_append,
      List.take_append_drop] at happend

/-- A scan finds just the size of the frame header that the data lead to. -/
theorem scan_eq_some_iff {data : Bytes} {size : Nat × Nat} :
    scan 0 data = some size ↔ LeadsTo data size :=
  ⟨leadsTo_of_scan, LeadsTo.scan_eq⟩

/-- The size of an image is that of its frame header. -/
theorem dimensions?_eq_some_iff {data : Bytes} {size : Nat × Nat} :
    dimensions? data = some size ↔ HasSize data size := by
  simp only [dimensions?, HasSize, ← Bytes.after?_eq_some_iff]
  cases startOfImage.after? data with
  | none => simp
  | some row => simp [scan_eq_some_iff]

end Scan

section Walk

/-- What one look at the data comes to. -/
inductive Look where
  /-- Here is the frame header, with this size. -/
  | found (size : Nat × Nat)
  /-- There is no frame header that could be reached from here. -/
  | lost
  /-- The frame header can only stand at this place or behind it. -/
  | further (place : Nat)

/-- A look at a frame header. It fails if a byte is asked for that the data do not have. -/
def lookAtFrame? (data : Bytes) (place : Nat) : Option Look :=
  if data.length < place + 9 then some .lost
  else do
    let height ← data[place + 5]?
    let height' ← data[place + 6]?
    let width ← data[place + 7]?
    let width' ← data[place + 8]?
    return .found (Bytes.pairToNat width width', Bytes.pairToNat height height')

/-- A look at a place of the data. It fails if a byte is asked for that the data do not have. -/
def look? (data : Bytes) (place : Nat) : Option Look :=
  if data.length < place + 4 then some .lost
  else do
    let c ← data[place]?
    if c ≠ 0xFF then return .lost
    let marker ← data[place + 1]?
    if marker = 0xFF then return .further (place + 1)
    if isStandalone marker then return .further (place + 2)
    let high ← data[place + 2]?
    let low ← data[place + 3]?
    if isFrameHeader marker then lookAtFrame? data place
    else if marker = startOfScan ∨ Bytes.pairToNat high low < 2 then return .lost
    else return .further (place + 2 + Bytes.pairToNat high low)

/-- Looks again and again from a place on, so many times at most. It fails if a look does, and if
there would be more of them. -/
def walk? (data : Bytes) : Nat → Nat → Option (Option (Nat × Nat))
  | 0, _ => none
  | looks + 1, place =>
    match look? data place with
    | none => none
    | some (.found size) => some (some size)
    | some .lost => some none
    | some (.further place) => walk? data looks place

/-- Looks for the size of an image, so many times at most. -/
def seek? (data : Bytes) (looks : Nat) : Option (Option (Nat × Nat)) :=
  if isJpeg data then walk? data looks startOfImage.length else some none

/-- What a look tells of the scan from that place on. -/
def Look.Agrees (data : Bytes) (place : Nat) : Look → Prop
  | .found size => scan 0 (data.drop place) = some size
  | .lost => scan 0 (data.drop place) = none
  | .further next =>
    place < next ∧ place < data.length ∧ scan 0 (data.drop place) = scan 0 (data.drop next)

/-- What stands behind the length of a frame header is its size, or too short for one. -/
theorem lookAtFrame?_eq {data body : Bytes} {place : Nat} {c marker high low : UInt8}
    (hdrop : data.drop place = c :: marker :: high :: low :: body) :
    lookAtFrame? data place =
      some (match frameSize? body with | some size => .found size | none => .lost) := by
  have hbyte (k : Nat) : data[place + k]? = (c :: marker :: high :: low :: body)[k]? := by
    rw [← hdrop, List.getElem?_drop]
  have hlength := congrArg List.length hdrop
  simp only [List.length_drop, List.length_cons] at hlength
  rw [lookAtFrame?]
  match body, hlength, hbyte with
  | precision :: height :: height' :: width :: width' :: rest, hlength, hbyte =>
    simp only [List.length_cons] at hlength
    rw [if_neg (by omega), hbyte, hbyte, hbyte, hbyte]
    rfl
  | [], hlength, _ | [_], hlength, _ | [_, _], hlength, _ | [_, _, _], hlength, _
  | [_, _, _, _], hlength, _ =>
    simp only [List.length_cons, List.length_nil] at hlength
    rw [if_pos (by omega)]
    rfl

/-- A look asks for no byte that is not there, and tells the scan from that place on. -/
theorem exists_look?_eq (data : Bytes) (place : Nat) :
    ∃ look, look? data place = some look ∧ look.Agrees data place := by
  by_cases hshort : data.length < place + 4
  · refine ⟨.lost, by rw [look?, if_pos hshort], scan_of_length_lt ?_⟩
    rw [List.length_drop]
    omega
  obtain ⟨c, marker, high, low, body, hdrop⟩ :
      ∃ c marker high low body, data.drop place = c :: marker :: high :: low :: body := by
    have hlength : 4 ≤ (data.drop place).length := by rw [List.length_drop]; omega
    match data.drop place, hlength with
    | c :: marker :: high :: low :: body, _ => exact ⟨c, marker, high, low, body, rfl⟩
  have hbyte (k : Nat) : data[place + k]? = (c :: marker :: high :: low :: body)[k]? := by
    rw [← hdrop, List.getElem?_drop]
  have hrest (k : Nat) : data.drop (place + k) = (c :: marker :: high :: low :: body).drop k := by
    rw [← hdrop, List.drop_drop]
  have hfirst : data[place]? = some c := hbyte 0
  simp only [look?, if_neg hshort, hfirst, hbyte, Option.bind_eq_bind, Option.bind_some,
    List.getElem?_cons_zero, List.getElem?_cons_succ, Option.pure_def]
  by_cases hc : c ≠ 0xFF
  · exact ⟨.lost, if_pos hc, (congrArg (scan 0) hdrop).trans (scan_of_ne hc)⟩
  obtain rfl := of_not_not hc
  rw [if_neg hc]
  by_cases hfill : marker = 0xFF
  · subst hfill
    refine ⟨.further (place + 1), if_pos rfl, by omega, by omega, ?_⟩
    rw [hdrop, hrest]
    exact scan_fill
  rw [if_neg hfill]
  by_cases hlone : isStandalone marker = true
  · refine ⟨.further (place + 2), if_pos hlone, by omega, by omega, ?_⟩
    rw [hdrop, hrest]
    exact scan_lone (isStandalone_iff.mp hlone)
  rw [if_neg hlone]
  by_cases hframe : isFrameHeader marker = true
  · refine ⟨_, (if_pos hframe).trans (lookAtFrame?_eq hdrop), ?_⟩
    have hscan : scan 0 (data.drop place) = frameSize? body := by
      rw [hdrop, scan_frame (isFrameHeader_iff.mp hframe)]
    cases hsize : frameSize? body with
    | none | some => exact hscan.trans hsize
  rw [if_neg hframe]
  by_cases hend : marker = startOfScan ∨ Bytes.pairToNat high low < 2
  · exact ⟨.lost, if_pos hend,
      (congrArg (scan 0) hdrop).trans (scan_of_end hfill hlone hframe hend)⟩
  · obtain ⟨hscan, hlong⟩ := not_or.mp hend
    have hmarker : IsSegmentMarker marker :=
      ⟨hfill, fun h => hlone (isStandalone_iff.mpr h), hscan,
        fun h => hframe (isFrameHeader_iff.mpr h)⟩
    refine ⟨.further (place + 2 + Bytes.pairToNat high low), if_neg hend, by omega, by omega, ?_⟩
    obtain ⟨n, hn⟩ := Nat.exists_eq_add_of_le (Nat.le_of_not_lt hlong)
    rw [hdrop, Nat.add_assoc, hrest, scan_segment hmarker (by omega), hn, Nat.add_sub_cancel_left,
      show 2 + (2 + n) = n + 4 by omega]
    rfl

/-- Every look is behind the one before, so there are no more of them than there are bytes left. -/
theorem walk?_eq {data : Bytes} {looks place : Nat} (h : data.length - place < looks) :
    walk? data looks place = some (scan 0 (data.drop place)) := by
  induction looks generalizing place with
  | zero => exact absurd h (Nat.not_lt_zero _)
  | succ looks ih =>
    obtain ⟨look, hlook, hagrees⟩ := exists_look?_eq data place
    rw [walk?, hlook]
    cases look with
    | found size | lost => exact congrArg some hagrees.symm
    | further next =>
      obtain ⟨hnext, hplace, hscan⟩ := hagrees
      rw [hscan]
      exact ih (by omega)

/-- The size of an image is looked for at no more places than there are bytes. -/
theorem seek?_eq (data : Bytes) : seek? data data.length = some (dimensions? data) := by
  rw [seek?, dimensions?, Bytes.after?, isJpeg]
  by_cases h : startOfImage.isPrefixOf data = true
  · have hlength : startOfImage.length ≤ data.length := (List.isPrefixOf_iff_prefix.mp h).length_le
    simp only [h, if_true]
    exact walk?_eq (by rw [startOfImage, List.length_cons, List.length_singleton] at *; omega)
  · simp only [h, Bool.false_eq_true, if_false]

end Walk

/-- The size of an image is found if and only if a frame header stands behind fill bytes, markers
that stand alone and segments, and then it is the size in that frame header. To find it, or that
there is none, the data are looked at no more often than they have bytes, and every byte that is
asked for is there. -/
theorem dimensions_exact (data : Bytes) :
    (∀ width height, dimensions? data = some (width, height) ↔ HasSize data (width, height)) ∧
      seek? data data.length = some (dimensions? data) :=
  ⟨fun _ _ => dimensions?_eq_some_iff, seek?_eq data⟩

/-- A frame header inside of a segment is not looked at. -/
example : dimensions? [0xFF, 0xD8, 0xFF, 0xFF, 0xE0, 0, 11, 0xFF, 0xC0, 0, 11, 8, 0, 1, 0, 1, 0xFF,
    0xC2, 0, 11, 8, 1, 0xE0, 2, 0x80] = some (640, 480) := by
  decide

end MotionJpeg.Jpeg
