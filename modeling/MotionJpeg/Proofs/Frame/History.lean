import MotionJpeg.Proofs.Frame.Ring

/-!
# Histories of sources

Payloads are pushed for all sources in any order. What a source remembers depends on the pushes
for that source alone, and of these only on the ones that its store accepts.

* `Registry.ofSizes` makes the stores that pushes start from.
* `acceptedBy` picks the payloads that a source accepts.
* `Registry.Records.pushedAll`: after any pushes the history of a source is what it accepts.
-/

namespace MotionJpeg

/-- A payload that is offered to the store of a source. -/
structure Push where
  source : Nat
  payload : Bytes
  deriving DecidableEq, Repr

/-- The payloads that a source accepts when none may be longer than `limit`. -/
def acceptedBy (source limit : Nat) (pushes : List Push) : List Bytes :=
  (pushes.filter fun push => push.source = source ∧ push.payload.length ≤ limit).map Push.payload

@[simp]
theorem acceptedBy_append (source limit : Nat) (earlier later : List Push) :
    acceptedBy source limit (earlier ++ later) =
      acceptedBy source limit earlier ++ acceptedBy source limit later := by
  simp [acceptedBy]

namespace Registry

/-- A registry of new stores, with a capacity and a longest payload for each. -/
def ofSizes (sizes : List (Nat × Nat)) (width height : Nat) : Registry :=
  ⟨sizes.map fun size => .empty size.1 size.2, width, height⟩

variable (registry : Registry)

/-- The registry after some pushes. -/
def pushedAll (pushes : List Push) : Registry :=
  pushes.foldl (fun registry push => registry.pushed push.source push.payload) registry

@[simp]
theorem pushedAll_append (earlier later : List Push) :
    registry.pushedAll (earlier ++ later) = (registry.pushedAll earlier).pushedAll later :=
  List.foldl_append

/-- The store of a source has this capacity, this limit for payloads and this history. -/
def Records (source capacity limit : Nat) (payloads : List Bytes) : Prop :=
  ∃ store, registry.get? source = some store ∧ store.Records payloads ∧
    store.capacity = capacity ∧ store.maxPayload = limit

variable {registry} {source capacity limit : Nat} {payloads : List Bytes}

/-- New stores have an empty history. -/
theorem records_ofSizes {sizes : List (Nat × Nat)} (width height : Nat)
    (hsize : sizes[source]? = some (capacity, limit)) :
    (ofSizes sizes width height).Records source (max capacity 1) limit [] := by
  refine ⟨.empty capacity limit, ?_, .empty capacity limit, rfl, rfl⟩
  rw [get?, ofSizes, List.getElem?_map, hsize]
  rfl

/-- A push puts what its store becomes in the place of that store. -/
private theorem pushed_eq {store : Store} (hstore : registry.get? source = some store)
    (payload : Bytes) : registry.pushed source payload =
      match store.push payload with
      | .ok (_, next) => { registry with stores := registry.stores.set source next }
      | .error _ => registry := by
  rw [pushed, push, hstore]
  dsimp only
  cases store.push payload <;> rfl

/-- A push for one source leaves the stores of the others alone. -/
theorem get?_pushed_of_ne {other : Nat} (payload : Bytes) (hne : other ≠ source) :
    (registry.pushed other payload).get? source = registry.get? source := by
  cases hother : registry.get? other with
  | none =>
    rw [pushed, push, hother]
    rfl
  | some store =>
    rw [pushed_eq hother]
    cases store.push payload with
    | error failure => rfl
    | ok accepted => exact List.getElem?_set_ne hne

/-- A push for a source changes its store. -/
theorem get?_pushed_self {store next : Store} {sequence : Nat} {payload : Bytes}
    (hstore : registry.get? source = some store)
    (hpush : store.push payload = .ok (sequence, next)) :
    (registry.pushed source payload).get? source = some next := by
  obtain ⟨hlt, -⟩ := List.getElem?_eq_some_iff.mp hstore
  rw [pushed_eq hstore, hpush]
  exact List.getElem?_set_self hlt

/-- A payload that is too large changes nothing. -/
theorem pushed_eq_self {store : Store} {payload : Bytes}
    (hstore : registry.get? source = some store) (hlarge : store.maxPayload < payload.length) :
    registry.pushed source payload = registry := by
  have hpush : store.push payload =
      .error (.tooLarge (Frame.partSize payload.length) store.maxPayload) := if_pos hlarge
  rw [pushed_eq hstore, hpush]

/-- A push adds to the history of a source if it is for that source and not too large. -/
theorem Records.pushed (h : registry.Records source capacity limit payloads) (push : Push) :
    (registry.pushed push.source push.payload).Records source capacity limit
      (payloads ++ acceptedBy source limit [push]) := by
  obtain ⟨store, hstore, hrecords, hcapacity, hlimit⟩ := h
  by_cases hsource : push.source = source
  · subst hsource
    by_cases hfits : push.payload.length ≤ limit
    · -- The payload is accepted.
      obtain ⟨next, hpush, hnext, hcap, hmax⟩ := hrecords.push (hlimit.symm ▸ hfits)
      refine ⟨next, get?_pushed_self hstore hpush, ?_, hcap.trans hcapacity, hmax.trans hlimit⟩
      simpa [acceptedBy, hfits] using hnext
    · -- The payload is too large, so the history stays what it was.
      rw [pushed_eq_self hstore (by omega)]
      refine ⟨store, hstore, ?_, hcapacity, hlimit⟩
      simpa [acceptedBy, hfits] using hrecords
  · -- The payload is for another source.
    refine ⟨store, ?_, ?_, hcapacity, hlimit⟩
    · rw [get?_pushed_of_ne _ hsource, hstore]
    · simpa [acceptedBy, hsource] using hrecords

/-- A push makes no sources and removes none. -/
@[simp]
theorem size_pushed (registry : Registry) (source : Nat) (payload : Bytes) :
    (registry.pushed source payload).size = registry.size := by
  cases hstore : registry.get? source with
  | none =>
    rw [pushed, push, hstore]
    rfl
  | some store =>
    rw [pushed_eq hstore]
    cases store.push payload with
    | error failure => rfl
    | ok accepted => exact List.length_set

/-- There are as many sources after any pushes as there were before. -/
@[simp]
theorem size_pushedAll (registry : Registry) (pushes : List Push) :
    (registry.pushedAll pushes).size = registry.size := by
  induction pushes generalizing registry with
  | nil => rfl
  | cons push pushes ih => exact (ih _).trans (size_pushed registry push.source push.payload)

/-- After any pushes the history of a source has grown by the payloads that it accepts. -/
theorem Records.pushedAll (h : registry.Records source capacity limit payloads)
    (pushes : List Push) : (registry.pushedAll pushes).Records source capacity limit
      (payloads ++ acceptedBy source limit pushes) := by
  induction pushes generalizing registry payloads with
  | nil => simpa [Registry.pushedAll, acceptedBy] using h
  | cons push pushes ih =>
    have hrest := ih (h.pushed push)
    rwa [List.append_assoc, ← acceptedBy_append] at hrest

/-- Every source has a history, which is what it accepts. -/
theorem exists_records_of_get? {sizes : List (Nat × Nat)} {width height : Nat}
    {pushes : List Push} {store : Store}
    (hstore : ((ofSizes sizes width height).pushedAll pushes).get? source = some store) :
    ∃ capacity limit, sizes[source]? = some (capacity, limit) ∧
      ((ofSizes sizes width height).pushedAll pushes).Records source (max capacity 1) limit
        (acceptedBy source limit pushes) := by
  obtain ⟨hlt, -⟩ := List.getElem?_eq_some_iff.mp hstore
  -- Pushes do not change how many sources there are, so the source had a store from the start.
  have hsize : source < sizes.length := by
    have hcount := size_pushedAll (ofSizes sizes width height) pushes
    rw [size, size, ofSizes, List.length_map] at hcount
    exact hcount ▸ hlt
  refine ⟨_, _, List.getElem?_eq_getElem hsize, ?_⟩
  have hrecords := (records_ofSizes width height (List.getElem?_eq_getElem hsize)).pushedAll pushes
  rwa [List.nil_append] at hrecords

end Registry

end MotionJpeg
