import MotionJpeg.Frame.Registry
import MotionJpeg.Proofs.Bytes.Decimal
import MotionJpeg.Proofs.Bytes.Search
import MotionJpeg.Proofs.Http.Folding
import MotionJpeg.Proofs.Router.StaticFiles

/-!
# The numbers of sources

The number in a path is read to its last digit, whatever its length is, and compared with the number
of sources. A digit string that is too long for a machine word names no source.

* `NumeralText` is a text cut into the parts in which a number is read from it.
* `NumeralText.index?` is the source that the number names.
* `Router.sourceIndex_exact`: this is the source that is found, machine words or not, and every
  source that a request is routed to has a store.
-/

namespace MotionJpeg

/-- The sign of a number. -/
inductive Sign where
  | plus
  | minus
  deriving DecidableEq, Repr

/-- A sign as it is written. -/
def Sign.byte : Sign → UInt8
  | plus => 43
  | minus => 45

/-- A text in the parts in which a number is read from it. Each part is as long as it can be. -/
structure NumeralText where
  blanks : Bytes
  sign : Option Sign
  digits : Bytes
  rest : Bytes
  isBlank : ∀ c ∈ blanks, c = 32 ∨ c = 9
  isDigit : ∀ c ∈ digits, 48 ≤ c ∧ c ≤ 57
  not_isBlank_head :
    ∀ c ∈ ((sign.map Sign.byte).toList ++ digits ++ rest).head?, ¬ (c = 32 ∨ c = 9)
  not_isSign_head : sign = none → ∀ c ∈ (digits ++ rest).head?, ∀ sign : Sign, c ≠ sign.byte
  not_isDigit_head : ∀ c ∈ rest.head?, ¬ (48 ≤ c ∧ c ≤ 57)

namespace NumeralText

variable (text : NumeralText)

/-- The text as a whole. -/
def bytes : Bytes :=
  text.blanks ++ ((text.sign.map Sign.byte).toList ++ text.digits ++ text.rest)

/-- The number that the digits denote, none of them meaning zero. -/
def value : Nat := Nat.ofDigits 10 (text.digits.reverse.map fun c => c.toNat - 48)

/-- The source that the number names, of `count` sources. -/
def index? (count : Nat) : Option Nat :=
  if text.sign = some .minus ∧ text.value ≠ 0 ∨ count ≤ text.value then none else some text.value

/-- The source that the number names, computed in machine words. -/
def wordIndex? (count : UInt64) : Option UInt64 :=
  match Ascii.wordOfDigits? text.digits with
  | none => none
  | some index =>
    if text.sign = some .minus ∧ index ≠ 0 ∨ count ≤ index then none else some index

theorem digitsToNat_digits : Ascii.digitsToNat text.digits = text.value :=
  Ascii.digitsToNat_eq_ofDigits text.digits

/-- A number that is too large for a word names no source. -/
theorem toNat_wordIndex? (count : UInt64) :
    (text.wordIndex? count).map UInt64.toNat = text.index? count.toNat := by
  have hword := Ascii.toNat_wordOfDigits? text.digits
  have hcount := count.toNat_lt
  rw [digitsToNat_digits] at hword
  rw [wordIndex?, index?]
  cases hdigits : Ascii.wordOfDigits? text.digits with
  | none =>
    have hlarge : ¬ text.value < 2 ^ 64 := fun hfits => by
      rw [hdigits, if_pos hfits] at hword
      cases hword
    rw [if_pos (Or.inr (by omega))]
    rfl
  | some index =>
    have hvalue : index.toNat = text.value := by
      rw [hdigits, Option.map_some] at hword
      exact Option.some.inj (Option.ite_none_right_eq_some.mp hword.symm).2.symm
    have hzero : index ≠ 0 ↔ text.value ≠ 0 := by
      rw [← hvalue, ne_eq, ← UInt64.toNat_inj]
      rfl
    simp only [hzero, UInt64.le_iff_toNat_le, hvalue]
    split
    · rfl
    · rw [Option.map_some, hvalue]

end NumeralText

theorem Ascii.isSpaceOrTab_iff {c : UInt8} : isSpaceOrTab c = true ↔ c = 32 ∨ c = 9 := by
  simp [isSpaceOrTab]

theorem Ascii.isDigit_iff {c : UInt8} : isDigit c = true ↔ 48 ≤ c ∧ c ≤ 57 := by simp [isDigit]

/-- The bytes of one kind at the front are taken off. -/
private theorem exists_longest {p : UInt8 → Bool} {q : UInt8 → Prop} (h : ∀ c, p c = true ↔ q c)
    (bytes : Bytes) : ∃ front rest, front ++ rest = bytes ∧ (∀ c ∈ front, q c) ∧
      ∀ c ∈ rest.head?, ¬ q c := by
  refine ⟨bytes.takeWhile p, bytes.dropWhile p, List.takeWhile_append_dropWhile,
    fun c hc => (h c).mp (List.mem_takeWhile_imp hc), fun c hc hq => ?_⟩
  have hhead := List.head?_dropWhile_not p bytes
  rw [hc] at hhead
  exact Bool.false_ne_true (hhead.symm.trans ((h c).mpr hq))

/-- The sign at the front is taken off, if there is one. -/
private theorem exists_sign (bytes : Bytes) :
    ∃ (sign : Option Sign) (rest : Bytes), (sign.map Sign.byte).toList ++ rest = bytes ∧
      (sign = none → ∀ c ∈ rest.head?, ∀ sign : Sign, c ≠ sign.byte) := by
  by_cases h : ∃ sign : Sign, bytes.head? = some sign.byte
  · obtain ⟨sign, hsign⟩ := h
    obtain ⟨rest, rfl⟩ := List.head?_eq_some_iff.mp hsign
    exact ⟨some sign, rest, rfl, nofun⟩
  · exact ⟨none, bytes, rfl, fun _ c hc sign heq => h ⟨sign, heq ▸ hc⟩⟩

namespace NumeralText

/-- Every text can be cut into such parts. -/
theorem exists_bytes_eq (bytes : Bytes) : ∃ text : NumeralText, text.bytes = bytes := by
  obtain ⟨blanks, signed, rfl, hblanks, hsigned⟩ :=
    exists_longest (q := fun c => c = 32 ∨ c = 9) (fun _ => Ascii.isSpaceOrTab_iff) bytes
  obtain ⟨sign, numeral, rfl, hsign⟩ := exists_sign signed
  obtain ⟨digits, rest, rfl, hdigits, hrest⟩ :=
    exists_longest (q := fun c => 48 ≤ c ∧ c ≤ 57) (fun _ => Ascii.isDigit_iff) numeral
  rw [← List.append_assoc] at hsigned
  exact ⟨⟨blanks, sign, digits, rest, hblanks, hdigits, hsigned, hsign, hrest⟩, by simp [bytes]⟩

/-- What is left of a text without its blanks is read as one that begins with its sign. -/
theorem dropWhile_bytes (text : NumeralText) : text.bytes.dropWhile Ascii.isSpaceOrTab =
    (text.sign.map Sign.byte).toList ++ text.digits ++ text.rest := by
  refine Http.dropWhile_blanks_append
    (fun c hc => Ascii.isSpaceOrTab_iff.mpr (text.isBlank c hc)) fun c hc => ?_
  exact Bool.eq_false_iff.mpr fun h => text.not_isBlank_head c hc (Ascii.isSpaceOrTab_iff.mp h)

/-- The digits are those in front of the rest. -/
theorem takeWhile_digits (text : NumeralText) :
    (text.digits ++ text.rest).takeWhile Ascii.isDigit = text.digits := by
  rw [List.takeWhile_append_of_pos fun c hc => Ascii.isDigit_iff.mpr (text.isDigit c hc)]
  cases hrest : text.rest with
  | nil => exact List.append_nil _
  | cons c rest =>
    have hc : ¬ Ascii.isDigit c = true := fun h =>
      text.not_isDigit_head c (by rw [hrest]; rfl) (Ascii.isDigit_iff.mp h)
    rw [List.takeWhile_cons_of_neg hc, List.append_nil]

/-- The first byte behind the blanks tells the sign. -/
theorem head?_beq (text : NumeralText) (sign : Sign) :
    (((text.sign.map Sign.byte).toList ++ text.digits ++ text.rest).head? == some sign.byte) =
      decide (text.sign = some sign) := by
  rw [Bool.eq_iff_iff, beq_iff_eq, decide_eq_true_iff]
  cases hsign : text.sign with
  | none => exact iff_of_false (fun h => text.not_isSign_head hsign _ h sign rfl) nofun
  | some own => cases own <;> cases sign <;> simp [Sign.byte]

/-- The digits come behind the sign, if there is one. -/
theorem unsigned_eq (text : NumeralText) :
    (if decide (text.sign = some .minus) || decide (text.sign = some .plus) then
        ((text.sign.map Sign.byte).toList ++ text.digits ++ text.rest).tail
      else (text.sign.map Sign.byte).toList ++ text.digits ++ text.rest) =
      text.digits ++ text.rest := by
  cases text.sign with
  | none => rfl
  | some sign => cases sign <;> rfl

end NumeralText

namespace Router

/-- The number is read from its text. -/
theorem sourceIndex?_bytes (text : NumeralText) (count : Nat) :
    sourceIndex? text.bytes count = text.index? count := by
  have hminus := text.head?_beq .minus
  have hplus := text.head?_beq .plus
  rw [Sign.byte.eq_def] at hminus hplus
  dsimp only at hminus hplus
  simp only [sourceIndex?, text.dropWhile_bytes, hminus, hplus, text.unsigned_eq,
    text.takeWhile_digits, Ascii.numberBelow?_eq, text.digitsToNat_digits]
  rw [NumeralText.index?]
  by_cases hcount : text.value < count
  · simp only [if_pos hcount, Nat.not_le.mpr hcount, or_false, Bool.and_eq_true, decide_eq_true_eq,
      bne_iff_ne]
  · rw [if_neg hcount, if_pos (Or.inr (Nat.le_of_not_lt hcount))]

/-- The number of a source is less than the number of sources. -/
theorem sourceIndex?_lt {text : Bytes} {count source : Nat}
    (h : sourceIndex? text count = some source) : source < count := by
  obtain ⟨text, rfl⟩ := NumeralText.exists_bytes_eq text
  rw [sourceIndex?_bytes, NumeralText.index?] at h
  obtain ⟨hfits, hsource⟩ := Option.ite_none_left_eq_some.mp h
  rw [← Option.some.inj hsource]
  omega

/-- The path begins with `start` and goes on with the number of the source, of `count` sources. -/
def Names (start path : Bytes) (count source : Nat) : Prop :=
  ∃ text, path = start ++ text ∧ sourceIndex? text count = some source

end Router

/-- A route to a source goes to the one that the path names, and that one has a store. -/
def Route.IsSupplied (path : Bytes) (registry : Registry) : Route → Prop
  | .stream source => Router.Names Router.streamPaths path registry.size source ∧
      ∃ store, registry.get? source = some store
  | .still source => Router.Names Router.stillPaths path registry.size source ∧
      ∃ store, registry.get? source = some store
  | .badRequest | .authRequired | .notFound | .streamInfo | .staticFile .. => True

namespace Router

/-- A route to the source that a path names is supplied, if all that it takes is such a source. -/
theorem isSupplied_sourceRoute {route : Nat → Route} {start path text : Bytes} {registry : Registry}
    (htext : start.after? path = some text)
    (hroute : ∀ source, Names start path registry.size source ∧
      (∃ store, registry.get? source = some store) → (route source).IsSupplied path registry) :
    (sourceRoute route text registry.size).IsSupplied path registry := by
  rw [sourceRoute]
  split
  next source hsource =>
    have hpath : path = start ++ text := Bytes.after?_eq_some_iff.mp htext
    exact hroute source
      ⟨⟨text, hpath, hsource⟩, _, List.getElem?_eq_getElem (sourceIndex?_lt hsource)⟩
  next => trivial

/-- What a path leads to is a source only if the path names it. -/
theorem isSupplied_resource (router : Router) (files : FileSystem) (path : Bytes)
    (registry : Registry) :
    (router.resource files path registry.size).IsSupplied path registry := by
  have hstatic (root : Path) : (staticRoute files root path).IsSupplied path registry := by
    rcases staticRoute_eq_or files root path with hroute | ⟨found, _, number, mediaType, -, hroute⟩
    · rw [hroute]
      trivial
    · rw [hroute]
      trivial
  rw [resource]
  split
  next text htext =>
    split
    · trivial
    · exact isSupplied_sourceRoute htext fun _ => id
  next =>
    split
    next text htext => exact isSupplied_sourceRoute htext fun _ => id
    next =>
      split
      · exact hstatic _
      · trivial

/-- A request is routed to a source only if its path names that source. -/
theorem isSupplied_route (router : Router) (files : FileSystem) (request : Http.Request)
    (registry : Registry) :
    (router.route files request registry.size).IsSupplied request.path registry := by
  rw [route]
  split
  · trivial
  · split
    · trivial
    · exact router.isSupplied_resource files request.path registry

/-- Every text is made of blanks, a sign, digits and a rest, each as long as can be, and it names
the source whose number these digits denote, however many they are, unless there is no such source
or the number is negative. In machine words the same source is found, as a number that does not fit
into a word is that of no source. A request is routed to a source only if its path names that
source, and then there is a store for it. -/
theorem sourceIndex_exact :
    (∀ bytes, ∃ text : NumeralText, text.bytes = bytes) ∧
      (∀ (text : NumeralText) (count : Nat), sourceIndex? text.bytes count = text.index? count) ∧
      (∀ (text : NumeralText) (count : UInt64),
        (text.wordIndex? count).map UInt64.toNat = sourceIndex? text.bytes count.toNat) ∧
      ∀ (router : Router) (files : FileSystem) (request : Http.Request) (registry : Registry),
        (router.route files request registry.size).IsSupplied request.path registry :=
  ⟨NumeralText.exists_bytes_eq, sourceIndex?_bytes,
    fun text count => by rw [text.toNat_wordIndex?, sourceIndex?_bytes], isSupplied_route⟩

/-- Zeros in front change nothing, and what would be 1 in a word that wraps around is no source. -/
example : sourceIndex? (.ofString "\t+000000000000000000000003é") 8 = some 3 ∧
    sourceIndex? (.ofString "18446744073709551617") 8 = none := by
  decide +kernel

end Router

end MotionJpeg
