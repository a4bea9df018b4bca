import Mathlib.Data.Nat.ModEq
import Mathlib.Order.Bounds.Defs
import MotionJpeg.Proofs.Frame.History

/-!
# The window of a store

Which frame a store gives for which sequence, told by its history alone. A sequence of the window
gets its own frame and an older one gets none. For one that is yet to come the store gives the
newest frame whose sequence lies in the same slot.

* `Frame.Carries` says that a frame is that of a payload.
* `Store.Records.look`: all look-ups of a store with a history.
* `Registry.Records.sequencesFor`: the numbers that accepted payloads get.
* `Registry.window_law`: what a source gives after any pushes for any sources.
-/

namespace MotionJpeg

/-- The frame has this sequence, and what is sent of it is made of the payload. -/
structure Frame.Carries (frame : Frame) (sequence : Nat) (payload : Bytes) : Prop where
  sequence_eq : frame.sequence = sequence
  image_eq : frame.image.toBytes = payload
  part_eq : frame.part.toBytes = Multipart.partHeader ++ payload ++ Multipart.partFooter

/-- Every frame carries the payload that it was made of. -/
theorem Frame.carries (frame : Frame) : frame.Carries frame.sequence frame.payload where
  sequence_eq := rfl
  image_eq := frame.toBytes_image
  part_eq := frame.toBytes_part

namespace Store

/-- The largest number in a word of 64 bits. -/
def maxWord : Nat := UInt64.size - 1

/-- The look-up of a sequence in words of 64 bits, where a sum that is too large for a word is the
largest word. -/
def wordGet? (store : Store) (sequence : Nat) : Option Frame :=
  match store.newest? with
  | none => none
  | some newest =>
    if min (sequence + store.capacity) maxWord ≤ newest then none
    else store.slots.get (store.slot sequence)

/-- Words are long enough as long as the number of frames fits into one. -/
theorem wordGet?_eq_get? {store : Store} (haccepted : store.accepted ≤ maxWord) (sequence : Nat) :
    store.wordGet? sequence = store.get? sequence := by
  rw [wordGet?, get?]
  cases hnewest : store.newest? with
  | none => rfl
  | some newest =>
    -- The newest sequence is less than the largest word, so a sum that was cut is beyond it.
    have hlt : newest < maxWord := by
      unfold newest? at hnewest
      split at hnewest
      · cases hnewest
      next hne =>
        obtain rfl := Option.some.inj hnewest
        omega
    have hsame : min (sequence + store.capacity) maxWord ≤ newest ↔
        sequence + store.capacity ≤ newest := by omega
    simp only [hsame]
    rfl

/-- A sequence is stale exactly if there is no frame for it. -/
theorem isStale_iff (store : Store) (sequence : Nat) :
    store.isStale sequence = true ↔ store.get? sequence = none :=
  Option.isNone_iff_eq_none

/-- Sequences that are a whole number of rounds apart share a slot. -/
theorem slot_eq_of_modEq (store : Store) {a b : Nat} (h : a ≡ b [MOD store.capacity]) :
    store.slot a = store.slot b :=
  Fin.ext h

/-- What the look-ups of a store find, told by the payloads that it has accepted. -/
structure Looks (store : Store) (payloads : List Bytes) : Prop where
  ofNil : payloads = [] → ∀ sequence, store.get? sequence = none
  /-- Frames that have left the window are gone. -/
  older : ∀ newest, payloads.length = newest + 1 → ∀ sequence,
    sequence + store.capacity ≤ newest → store.get? sequence = none
  /-- Sequences of the window have their own frames. -/
  inside : ∀ newest, payloads.length = newest + 1 → ∀ sequence ≤ newest,
    newest < sequence + store.capacity → ∃ payload frame,
      payloads[sequence]? = some payload ∧ store.get? sequence = some frame ∧
        frame.Carries sequence payload
  /-- For a sequence that is yet to come there is the newest frame in its slot. -/
  ahead : ∀ newest, payloads.length = newest + 1 → ∀ sequence, newest < sequence → ∀ occupant,
    IsGreatest {other | other ≤ newest ∧ other ≡ sequence [MOD store.capacity]} occupant →
      ∃ payload frame, payloads[occupant]? = some payload ∧
        store.get? sequence = some frame ∧ frame.Carries occupant payload
  /-- A slot that was never used has no frame. -/
  unused : ∀ newest, payloads.length = newest + 1 → ∀ sequence, newest < sequence →
    (∀ other ≤ newest, ¬ other ≡ sequence [MOD store.capacity]) → store.get? sequence = none

namespace Records

variable {store : Store} {payloads : List Bytes} {sequence : Nat}

/-- A sequence that has not left the window gets what lies in its slot. -/
theorem get?_eq_slot (h : store.Records payloads) {newest : Nat}
    (hnewest : payloads.length = newest + 1) (hwindow : newest < sequence + store.capacity) :
    store.get? sequence = store.slots[store.slot sequence] := by
  have hne : payloads ≠ [] := List.ne_nil_of_length_pos (by omega)
  rw [get?, h.newest?_eq, if_neg hne]
  exact if_neg (by omega)

/-- A sequence of the history finds no frame but its own. -/
theorem carries_of_get? (h : store.Records payloads)
    (hsequence : payloads ≠ [] → sequence < payloads.length) {frame : Frame}
    (hframe : store.get? sequence = some frame) :
    ∃ payload, payloads[sequence]? = some payload ∧ frame.Carries sequence payload := by
  have hne : payloads ≠ [] := by
    rintro rfl
    rw [h.get?_of_nil] at hframe
    cases hframe
  have hpayload := List.getElem?_eq_getElem (hsequence hne)
  rw [h.get?_eq hpayload] at hframe
  split at hframe
  · cases hframe
    exact ⟨_, hpayload, Frame.carries _⟩
  · cases hframe

/-- The newest frame in a slot lies in the window. -/
theorem lt_of_isGreatest {newest occupant : Nat}
    (hgreatest : IsGreatest {other | other ≤ newest ∧ other ≡ sequence [MOD store.capacity]}
      occupant) : newest < occupant + store.capacity := by
  -- One round later there would be a newer frame in the slot.
  by_contra hle
  have hlater : occupant + store.capacity ≤ newest ∧
      occupant + store.capacity ≡ sequence [MOD store.capacity] :=
    ⟨Nat.not_lt.mp hle, (Nat.add_modEq_right).trans hgreatest.1.2⟩
  have hmax : occupant + store.capacity ≤ occupant := hgreatest.2 hlater
  have hpos := store.capacity_pos
  omega

/-- A history tells what all look-ups find. -/
theorem look (h : store.Records payloads) : store.Looks payloads where
  ofNil hnil sequence := by
    subst hnil
    exact h.get?_of_nil
  older newest hnewest sequence hold := by
    rw [h.get?_eq (List.getElem?_eq_getElem (by omega)), if_neg (by omega)]
  inside newest hnewest sequence hle hwindow := by
    have hpayload := List.getElem?_eq_getElem (show sequence < payloads.length by omega)
    refine ⟨_, { sequence, payload := _ }, hpayload, ?_, Frame.carries _⟩
    rw [h.get?_eq hpayload, if_pos (by omega)]
  ahead newest hnewest sequence hahead occupant hgreatest := by
    have hwindow := lt_of_isGreatest hgreatest
    obtain ⟨⟨hle, hslot⟩, -⟩ := hgreatest
    have hpayload := List.getElem?_eq_getElem (show occupant < payloads.length by omega)
    refine ⟨_, { sequence := occupant, payload := _ }, hpayload, ?_, Frame.carries _⟩
    rw [h.get?_eq_slot hnewest (by omega)]
    simp only [← store.slot_eq_of_modEq hslot]
    exact h.slot_eq occupant _ hpayload (by omega)
  unused newest hnewest sequence hahead hnone := by
    -- The first sequence for the slot is yet to come, as it is none of the history.
    have hfirst : sequence % store.capacity ≡ sequence [MOD store.capacity] := Nat.mod_modEq _ _
    have hnew : newest < sequence % store.capacity :=
      Nat.not_le.mp fun hle => hnone _ hle hfirst
    rw [h.get?_eq_slot hnewest (by omega)]
    simp only [← store.slot_eq_of_modEq hfirst]
    exact h.slot_eq_none _ (Nat.mod_lt _ store.capacity_pos) (by omega)

end Records

end Store

namespace Registry

/-- The sequences that a source gives for some pushes, in order. -/
def sequencesFor (source : Nat) (registry : Registry) : List Push → List Nat
  | [] => []
  | push :: pushes =>
    let given :=
      if push.source = source then (registry.push push.source push.payload).toOption.map Prod.fst
      else none
    given.toList ++ (registry.pushed push.source push.payload).sequencesFor source pushes

variable {registry : Registry} {source capacity limit : Nat} {payloads : List Bytes}

/-- What a registry with a store does with a payload is what the store does with it. -/
theorem push_eq {store : Store} (hstore : registry.get? source = some store) (payload : Bytes) :
    (∀ failure, store.push payload = .error failure →
      registry.push source payload = .error failure) ∧
    ∀ sequence next, store.push payload = .ok (sequence, next) →
      registry.push source payload = .ok (sequence, registry.pushed source payload) := by
  rw [pushed, push, hstore]
  dsimp only
  refine ⟨fun failure hpush => ?_, fun sequence next hpush => ?_⟩
  · rw [hpush]
    rfl
  · rw [hpush]
    rfl

/-- A source gives a payload that is not too large the next sequence, and refuses any other. -/
theorem Records.push_cases (h : registry.Records source capacity limit payloads)
    (payload : Bytes) :
    (payload.length ≤ limit →
      registry.push source payload = .ok (payloads.length, registry.pushed source payload)) ∧
    (limit < payload.length →
      registry.push source payload = .error (.tooLarge (Frame.partSize payload.length) limit) ∧
        registry.pushed source payload = registry) := by
  obtain ⟨store, hstore, hrecords, -, rfl⟩ := h
  refine ⟨fun hfits => ?_, fun hlarge => ⟨?_, pushed_eq_self hstore hlarge⟩⟩
  · obtain ⟨next, hpush, -⟩ := hrecords.push hfits
    exact (push_eq hstore payload).2 _ _ hpush
  · exact (push_eq hstore payload).1 _ (if_pos hlarge)

/-- Payloads that are accepted get the numbers that follow those of the history. -/
theorem Records.sequencesFor (h : registry.Records source capacity limit payloads)
    (pushes : List Push) : registry.sequencesFor source pushes =
      List.range' payloads.length (acceptedBy source limit pushes).length := by
  induction pushes generalizing registry payloads with
  | nil => rfl
  | cons push pushes ih =>
    have hrest := ih (h.pushed push)
    rw [Registry.sequencesFor, hrest, ← List.singleton_append (l := pushes), acceptedBy_append,
      List.length_append, List.length_append, ← List.range'_append_1]
    congr 1
    by_cases hsource : push.source = source
    · subst hsource
      by_cases hfits : push.payload.length ≤ limit
      · simp [(h.push_cases push.payload).1 hfits, acceptedBy, hfits, Except.toOption]
      · simp [((h.push_cases push.payload).2 (Nat.not_le.mp hfits)).1, acceptedBy, hfits,
          Except.toOption]
    · simp [acceptedBy, hsource]

/-- A push for a source that there is not is refused, and all stores stay as they are. -/
theorem push_of_size_le {other : Nat} (h : registry.size ≤ other) (payload : Bytes) :
    registry.push other payload = .error (.unknownSource other) ∧
      registry.pushed other payload = registry := by
  have hnone : registry.get? other = none := List.getElem?_eq_none h
  rw [pushed, push, hnone]
  exact ⟨rfl, rfl⟩

/-- After any pushes a source has numbered the payloads that it accepts from zero on, and gives for
every sequence the frame that the window law tells. The next payload is accepted or refused by its
length. A payload that is refused, or that is for another source, changes nothing. -/
theorem window_law {sizes : List (Nat × Nat)} (hsize : sizes[source]? = some (capacity, limit))
    (width height : Nat) (pushes : List Push) :
    let registry := (ofSizes sizes width height).pushedAll pushes
    let payloads := acceptedBy source limit pushes
    (ofSizes sizes width height).sequencesFor source pushes = List.range payloads.length ∧
    (∀ payload, payload.length ≤ limit →
      registry.push source payload = .ok (payloads.length, registry.pushed source payload)) ∧
    (∀ payload, limit < payload.length →
      registry.push source payload = .error (.tooLarge (Frame.partSize payload.length) limit) ∧
        registry.pushed source payload = registry) ∧
    (∀ other payload, other ≠ source →
      (registry.pushed other payload).get? source = registry.get? source ∧
      (sizes.length ≤ other → registry.push other payload = .error (.unknownSource other) ∧
        registry.pushed other payload = registry)) ∧
    ∃ store, registry.get? source = some store ∧ store.capacity = max capacity 1 ∧
      store.maxPayload = limit ∧
      store.newest? = (if payloads = [] then none else some (payloads.length - 1)) ∧
      store.Looks payloads ∧ (∀ sequence, store.isStale sequence ↔ store.get? sequence = none) ∧
      (pushes.length < UInt64.size → ∀ sequence,
        store.wordGet? sequence = store.get? sequence) := by
  intro registry payloads
  have hstart := records_ofSizes width height hsize
  have hrecords : registry.Records source (max capacity 1) limit payloads := by
    have h := hstart.pushedAll pushes
    rwa [List.nil_append] at h
  refine ⟨?_, fun payload => (hrecords.push_cases payload).1,
    fun payload => (hrecords.push_cases payload).2, fun other payload hne => ⟨?_, fun hother => ?_⟩,
    ?_⟩
  · rw [hstart.sequencesFor pushes, List.range_eq_range']
    rfl
  · exact get?_pushed_of_ne payload hne
  · refine push_of_size_le ?_ payload
    rwa [size_pushedAll, size, ofSizes, List.length_map]
  · obtain ⟨store, hstore, hhistory, hcapacity, hlimit⟩ := hrecords
    refine ⟨store, hstore, hcapacity, hlimit, hhistory.newest?_eq, hhistory.look,
      store.isStale_iff, fun hcount sequence => Store.wordGet?_eq_get? ?_ sequence⟩
    -- No more payloads are accepted than are pushed.
    have hle : payloads.length ≤ pushes.length := by
      show (acceptedBy source limit pushes).length ≤ pushes.length
      rw [acceptedBy, List.length_map]
      exact List.length_filter_le _ _
    rw [hhistory.accepted_eq, Store.maxWord]
    omega

/-- A store with a window of two frames, asked for in a registry of two sources, after payloads for
both and one that is too large. -/
theorem window_law_twoSources : [(2, 4), (0, 9)][0]? = some (2, 4) ∧
    let pushes : List Push := [⟨0, [1]⟩, ⟨1, [7]⟩, ⟨0, [2]⟩, ⟨0, [0, 0, 0, 0, 0]⟩, ⟨0, [3]⟩]
    let registry := (ofSizes [(2, 4), (0, 9)] 640 480).pushedAll pushes
    let payloads := acceptedBy 0 4 pushes
    payloads = [[1], [2], [3]] ∧
    (ofSizes [(2, 4), (0, 9)] 640 480).sequencesFor 0 pushes = List.range payloads.length ∧
    (∀ payload, payload.length ≤ 4 →
      registry.push 0 payload = .ok (payloads.length, registry.pushed 0 payload)) ∧
    (∀ payload, 4 < payload.length →
      registry.push 0 payload = .error (.tooLarge (Frame.partSize payload.length) 4) ∧
        registry.pushed 0 payload = registry) ∧
    (∀ other payload, other ≠ 0 →
      (registry.pushed other payload).get? 0 = registry.get? 0 ∧
      ([(2, 4), (0, 9)].length ≤ other →
        registry.push other payload = .error (.unknownSource other) ∧
          registry.pushed other payload = registry)) ∧
    ∃ store, registry.get? 0 = some store ∧ store.capacity = max 2 1 ∧
      store.maxPayload = 4 ∧
      store.newest? = (if payloads = [] then none else some (payloads.length - 1)) ∧
      store.Looks payloads ∧ (∀ sequence, store.isStale sequence ↔ store.get? sequence = none) ∧
      (pushes.length < UInt64.size → ∀ sequence,
        store.wordGet? sequence = store.get? sequence) :=
  ⟨rfl, by decide, window_law rfl 640 480 _⟩

end Registry

end MotionJpeg
