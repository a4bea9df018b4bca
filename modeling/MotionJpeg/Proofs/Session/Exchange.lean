import Mathlib.Data.List.Induction
import MotionJpeg.Proofs.Frame.History
import MotionJpeg.Session.Receive
import MotionJpeg.Session.Send

/-!
# Exchanges

An exchange is a session together with the stores that it reads from. Events of four kinds come in
any order: a source delivers a payload, the network changes its mind, and the connection becomes
readable or writable. Files may be others at every event.

* `Exchange.step` is what an event does, `Exchange.run` what a list of events does.
* `Exchange.Throughout` says that something holds at every event of a run.
* `Exchange.sources_run`: the stores depend on the pushes alone.
-/

namespace MotionJpeg

/-- A session and the stores that it reads from. -/
structure Exchange where
  session : Session
  sources : Registry

namespace Exchange

/-- A session that was asked for a route begins with the answer. -/
def begin (session : Session) (files : FileSystem) (sources : Registry) (route : Route) :
    Exchange :=
  ⟨session.respond files sources route, sources⟩

/-- Something that happens to a session or to the stores. -/
inductive Event where
  /-- A payload is offered to a store. -/
  | push (offered : Push)
  /-- From here on the connection behaves like `future`. -/
  | network (future : Transport)
  /-- The connection is readable. -/
  | receive (now : Nat) (router : Router) (files : FileSystem)
  /-- The connection is writable. -/
  | send (now : Nat) (files : FileSystem)

/-- The push that an event is. -/
def Event.push? : Event → Option Push
  | push offered => some offered
  | network _ | receive .. | send .. => none

/-- The event is an attempt to read. -/
def Event.isReceive : Event → Bool
  | receive .. => true
  | push _ | network _ | send .. => false

/-- The pushes among some events. -/
def pushes (events : List Event) : List Push := events.filterMap Event.push?

variable (exchange : Exchange)

/-- The exchange after an event. What the peer was given stays given when the network changes. -/
def step : Event → Exchange
  | .push offered =>
    { exchange with sources := exchange.sources.pushed offered.source offered.payload }
  | .network future =>
    { exchange with session.transport :=
        { future with pieces := exchange.session.transport.pieces } }
  | .receive now router files =>
    { exchange with session := (exchange.session.receive now router files exchange.sources).2 }
  | .send now files =>
    { exchange with session := (exchange.session.send now files exchange.sources).2 }

/-- What is to become of the session after an event. -/
def flow : Event → Flow
  | .receive now router files => (exchange.session.receive now router files exchange.sources).1
  | .send now files => (exchange.session.send now files exchange.sources).1
  | .push _ | .network _ => .keep

/-- The newest sequence of a source. -/
def newest? (source : Nat) : Option Nat := (exchange.sources.get? source).bind Store.newest?

/-- The exchange after some events. -/
def run (events : List Event) : Exchange := events.foldl step exchange

@[simp]
theorem run_nil : exchange.run [] = exchange := rfl

/-- A run ends with the step for its last event. -/
@[simp]
theorem run_concat (events : List Event) (event : Event) :
    exchange.run (events ++ [event]) = (exchange.run events).step event :=
  List.foldl_concat ..

@[simp]
theorem pushes_nil : pushes [] = [] := rfl

@[simp]
theorem pushes_append (earlier later : List Event) :
    pushes (earlier ++ later) = pushes earlier ++ pushes later :=
  List.filterMap_append ..

/-- One more event adds its push, if it is one. -/
theorem pushes_concat (events : List Event) (event : Event) :
    pushes (events ++ [event]) = pushes events ++ event.push?.toList := by
  rw [pushes_append]
  cases event <;> rfl

/-- Only a push changes the stores. -/
theorem sources_step (event : Event) :
    (exchange.step event).sources = exchange.sources.pushedAll event.push?.toList := by
  cases event <;> rfl

/-- The stores depend on the pushes alone, and not on what a session does. -/
theorem sources_run (events : List Event) :
    (exchange.run events).sources = exchange.sources.pushedAll (pushes events) := by
  -- Induction from the end, as a run ends with the step for its last event.
  induction events using List.reverseRecOn with
  | nil => rfl
  | append_singleton events event ih =>
    rw [run_concat, sources_step, ih, pushes_concat, Registry.pushedAll_append]

/-- At every event of a run `P` holds of the exchange before it and of the event. -/
def Throughout (P : Exchange → Event → Prop) (events : List Event) : Prop :=
  ∀ done event rest, events = done ++ event :: rest → P (exchange.run done) event

section Throughout

variable {exchange} {P : Exchange → Event → Prop}

@[simp]
theorem throughout_nil : exchange.Throughout P [] :=
  fun done event rest hnil => by simp at hnil

/-- What holds throughout a run holds at its first event, and throughout the run from where this
leads. -/
theorem throughout_cons_iff {event : Event} {events : List Event} :
    exchange.Throughout P (event :: events) ↔
      P exchange event ∧ (exchange.step event).Throughout P events := by
  constructor
  · intro h
    refine ⟨h [] event events rfl, fun done later rest hevents => ?_⟩
    exact h (event :: done) later rest (by rw [hevents]; rfl)
  · rintro ⟨hhead, htail⟩ (_ | ⟨first, done⟩) later rest hevents
    · cases hevents
      exact hhead
    · cases hevents
      exact htail done later rest rfl

/-- What holds throughout a run holds throughout its beginning, and at its last event. -/
theorem throughout_concat_iff {events : List Event} {event : Event} :
    exchange.Throughout P (events ++ [event]) ↔
      exchange.Throughout P events ∧ P (exchange.run events) event := by
  -- Induction from the front, for every exchange that the run may start from.
  induction events generalizing exchange with
  | nil => simp [throughout_cons_iff]
  | cons first events ih =>
    rw [List.cons_append, throughout_cons_iff, throughout_cons_iff, ih, and_assoc]
    rfl

instance decidableThroughout (exchange : Exchange) [∀ exchange, DecidablePred (P exchange)] :
    (events : List Event) → Decidable (exchange.Throughout P events)
  | [] => isTrue throughout_nil
  | event :: events =>
    have := decidableThroughout (exchange.step event) events
    decidable_of_iff _ throughout_cons_iff.symm

end Throughout

end Exchange

end MotionJpeg
