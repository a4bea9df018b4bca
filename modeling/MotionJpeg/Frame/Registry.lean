import MotionJpeg.Frame.Store

/-!
# Registries

The stores of all sources, in the order of the sources, and the size of the frames. Which sources
there are is settled when a registry is made.
-/

namespace MotionJpeg

/-- The stores of a server. -/
structure Registry where
  /-- One store for every source. -/
  stores : List Store
  width : Nat
  height : Nat

namespace Registry

/-- A registry with `count` empty stores. -/
def ofCount (count capacity width height : Nat) : Registry :=
  ⟨List.replicate count (.empty capacity), width, height⟩

variable (registry : Registry)

/-- The number of sources. -/
def size : Nat := registry.stores.length

/-- There is no source at all. -/
def isEmpty : Bool := registry.stores.isEmpty

/-- The store of a source. -/
def get? (source : Nat) : Option Store := registry.stores[source]?

/-- Stores a payload for a source and gives its sequence. -/
def push (source : Nat) (payload : Bytes) : Except Store.PushFailure (Nat × Registry) := do
  match registry.get? source with
  | none => throw (.unknownSource source)
  | some store =>
    let (sequence, store) ← store.push payload
    return (sequence, { registry with stores := registry.stores.set source store })

/-- The registry after a push, the same one if the push was refused. -/
def pushed (source : Nat) (payload : Bytes) : Registry :=
  match registry.push source payload with
  | .ok (_, next) => next
  | .error _ => registry

end Registry

end MotionJpeg
