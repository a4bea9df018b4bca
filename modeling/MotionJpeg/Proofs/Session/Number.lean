import MotionJpeg.Proofs.Session.Past

/-!
# Sessions do not look at their numbers

A session keeps the number under which its server knows it. Whatever happens to a session happens
to it under any other number too.

* `Session.numbered` is a session under another number.
* `Session.receive_numbered` and `Session.send_numbered`: the events of a session commute with
  giving it another number.
-/

namespace MotionJpeg.Session

/-- The session under another number. -/
def numbered (number : Nat) (session : Session) : Session := { session with id := number }

/-- What comes of an event for the session under another number. -/
def outcomeUnder {Result : Type} (number : Nat) (outcome : Result × Session) : Result × Session :=
  (outcome.1, outcome.2.numbered number)

variable (session : Session) (number : Nat)

/-- Two sessions that have counted the same at the same time differ in their numbers alone. -/
theorem samePresent_iff_eq_numbered {other : Session} :
    SamePresent number {} Eq session other ↔ other = session.numbered number := by
  simp only [SamePresent, SessionStats.empty_plus]
  constructor
  · rintro ⟨last, rfl, rfl⟩
    rfl
  · rintro rfl
    exact ⟨_, rfl, rfl⟩

/-- The same comes of an event for two such sessions. -/
theorem eq_outcomeUnder {Result : Type} {outcome other : Result × Session}
    (h : SameOutcome number {} Eq outcome other) : other = outcomeUnder number outcome :=
  Prod.ext h.1.symm ((samePresent_iff_eq_numbered _ number).mp h.2)

variable (now : Nat) (files : FileSystem) (sources : Registry)

/-- A writable session does the same under another number. -/
theorem send_numbered :
    (session.numbered number).send now files sources =
      outcomeUnder number (session.send now files sources) :=
  have hsame := (session.samePresent_iff_eq_numbered number).mpr rfl
  eq_outcomeUnder number (hsame.send rfl files sources)

/-- A readable session does the same under another number. -/
theorem receive_numbered (router : Router) :
    (session.numbered number).receive now router files sources =
      outcomeUnder number (session.receive now router files sources) :=
  have hsame := (session.samePresent_iff_eq_numbered number).mpr rfl
  eq_outcomeUnder number (hsame.receive rfl router files sources)

end MotionJpeg.Session
