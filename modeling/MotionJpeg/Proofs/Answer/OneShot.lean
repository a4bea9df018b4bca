import Mathlib.Data.List.Infix
import MotionJpeg.Proofs.Frame.History
import MotionJpeg.Session.Basic

/-!
# Answers that are given once

All answers but streams are a head and at most one body, which is the image of a frame or a file.
What the answer is in full depends on the route alone, except that a still may ask for the first
frame of a source before there is one.

* `Body` says where a body comes from, `Body.bytes` what it is.
* `OneShot` is a whole answer.
* `Route.oneShot?` is the answer that is begun for a route.
-/

namespace MotionJpeg

/-- Where the body of an answer comes from. -/
inductive Body where
  /-- Everything stands in the head. -/
  | none
  /-- The body is the image of a frame. -/
  | frame (source sequence : Nat)
  /-- The body is the contents with this number. -/
  | file (number : Nat)
  deriving DecidableEq, Repr

namespace Body

/-- The bytes of a body after some pushes. They are none as long as its frame was not stored. -/
def bytes (files : FileSystem) (sizes : List (Nat × Nat)) (pushes : List Push) : Body → Bytes
  | none => []
  | frame source sequence =>
    match sizes[source]? with
    | some (_, limit) => ((acceptedBy source limit pushes)[sequence]?).getD []
    | .none => []
  | file number => (files.content number).toList

/-- The body has a frame that was not stored yet or was overwritten. -/
def IsMissing (sizes : List (Nat × Nat)) (pushes : List Push) : Body → Prop
  | frame source sequence =>
    ∃ capacity limit, sizes[source]? = some (capacity, limit) ∧
      ((acceptedBy source limit pushes).length ≤ sequence ∨
        sequence + max capacity 1 < (acceptedBy source limit pushes).length)
  | none | file _ => False

/-- Answers of this kind have such a body. -/
def IsFor : Body → RouteKind → Prop
  | none, kind => kind.isCanned = true
  | frame .., kind => kind = .still
  | file _, kind => kind = .staticFile

/-- The session has come to this place of the body. -/
def IsAt (session : Session) (offset : Nat) : Body → Prop
  | none => True
  | frame source sequence => session.cursor = some ⟨source, sequence, offset⟩
  | file number => session.file = some (.file number offset)

/-- The stores and the files have this much of a body, unless it is missing. -/
def IsSupplied (files : FileSystem) (sources : Registry) (bytes : Bytes) (missing : Prop) :
    Body → Prop
  | none => bytes = [] ∧ ¬ missing
  | frame source sequence =>
    ∃ store payloads, sources.get? source = some store ∧ store.Records payloads ∧
      (payloads ≠ [] → sequence < payloads.length) ∧ bytes = (payloads[sequence]?).getD [] ∧
      (missing ↔ payloads.length ≤ sequence ∨ sequence + store.capacity < payloads.length)
  | file number => bytes = (files.content number).toList ∧ ¬ missing

/-- Where a session is in a body depends on its cursor and its file alone. -/
theorem IsAt.congr {body : Body} {session next : Session} {offset : Nat}
    (h : body.IsAt session offset) (hcursor : next.cursor = session.cursor)
    (hfile : next.file = session.file) : body.IsAt next offset := by
  cases body with
  | none => trivial
  | frame source sequence => exact hcursor.trans h
  | file number => exact hfile.trans h

variable (body : Body) (files : FileSystem) (sizes : List (Nat × Nat)) (pushes later : List Push)

/-- Payloads that are pushed later do not change what there is of a body. -/
theorem bytes_prefix_append :
    body.bytes files sizes pushes <+: body.bytes files sizes (pushes ++ later) := by
  cases body with
  | none => exact List.prefix_rfl
  | file number => exact List.prefix_rfl
  | frame source sequence =>
    rw [bytes, bytes]
    cases sizes[source]? with
    | none => exact List.prefix_rfl
    | some size =>
      obtain ⟨capacity, limit⟩ := size
      dsimp only
      rw [acceptedBy_append]
      -- A payload keeps its sequence, and one that is still to come has no bytes yet.
      by_cases hlt : sequence < (acceptedBy source limit pushes).length
      · rw [List.getElem?_append_left hlt]
      · rw [List.getElem?_eq_none (Nat.not_lt.mp hlt)]
        exact List.nil_prefix

/-- A body that is there stays the same. -/
theorem bytes_append_of_not_isMissing (h : ¬ body.IsMissing sizes pushes) :
    body.bytes files sizes (pushes ++ later) = body.bytes files sizes pushes := by
  cases body with
  | none => rfl
  | file number => rfl
  | frame source sequence =>
    rw [bytes, bytes]
    cases hsize : sizes[source]? with
    | none => rfl
    | some size =>
      obtain ⟨capacity, limit⟩ := size
      dsimp only
      have hlt : sequence < (acceptedBy source limit pushes).length := by
        by_contra hle
        exact h ⟨capacity, limit, hsize, Or.inl (Nat.not_lt.mp hle)⟩
      rw [acceptedBy_append, List.getElem?_append_left hlt]

end Body

/-- An answer with at most one body. -/
structure OneShot where
  kind : RouteKind
  head : Bytes
  body : Body
  /-- Answers of this kind have such a body. -/
  isFor : body.IsFor kind

namespace OneShot

/-- All bytes of an answer, as far as they are known after some pushes. -/
def bytes (answer : OneShot) (files : FileSystem) (sizes : List (Nat × Nat))
    (pushes : List Push) : Bytes :=
  answer.head ++ answer.body.bytes files sizes pushes

/-- An answer that stands in its head. -/
def canned (kind : RouteKind) (head : Bytes) (h : kind.isCanned = true) : OneShot where
  kind
  head
  body := .none
  isFor := h

end OneShot

/-- The answer that is begun for a route. Streams go on for ever, and there is no answer for a
source or a file that is not there. -/
def Route.oneShot? (files : FileSystem) (sources : Registry) : Route → Option OneShot
  | .badRequest => some (.canned .badRequest Http.Reply.badRequest rfl)
  | .authRequired => some (.canned .authRequired Http.Reply.authRequired rfl)
  | .notFound => some (.canned .notFound Http.Reply.notFound rfl)
  | .streamInfo =>
    some (.canned .streamInfo
      (Http.Reply.streamInfo sources.size sources.width sources.height) rfl)
  | .stream _ => none
  | .still source =>
    (sources.get? source).map fun store =>
      ⟨.still, Http.Reply.stillHeader, .frame source (store.newest?.getD 0), rfl⟩
  | .staticFile path length mediaType =>
    match files.openFile path with
    | .ok (.file number 0) =>
      some ⟨.staticFile, Http.Reply.fileHeader length mediaType, .file number, rfl⟩
    | _ => none

end MotionJpeg
