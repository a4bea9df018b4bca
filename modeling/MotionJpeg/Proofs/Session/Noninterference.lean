import Mathlib.Data.List.Infix
import MotionJpeg.Proofs.Bytes.Search
import MotionJpeg.Proofs.Session.Exchange
import MotionJpeg.Proofs.Session.Reading
import MotionJpeg.Proofs.Session.Steps

/-!
# Sources are hidden from clients without credentials

A client that never sends the secret of the server gets refusals and public files. Nothing that it
can see depends on the sources: neither the bytes and the times at which they come, nor how many
sources there are or how large their frames.

* `Phase.usesSources` marks the phases in which a session looks at the stores.
* `Router.route_congr`: a request without credentials is routed without the sources.
* `Session.receive_congr` and `Session.send_congr`: an event of such a session does not depend on
  the stores either, and does not lead to a phase that uses them.
* `Exchange.trace_eq_of_unauthorized`: two runs whose sources differ are the same for the client.
-/

namespace MotionJpeg

/-- The answer for a route of this kind is made from the sources. -/
def RouteKind.usesSources : RouteKind → Bool
  | streamInfo | stream | still => true
  | badRequest | authRequired | notFound | staticFile => false

/-- The session sends something that is made from the sources. -/
def Phase.usesSources : Phase → Bool
  | draining kind => kind.usesSources
  | streaming => true
  | awaitingHeaders | closed => false

namespace Router

/-- What begins with a text does not begin with another one that parts from it. -/
private theorem after?_eq_none {start other path : Bytes} (hpath : start <+: path)
    (hlength : start.length ≤ other.length) (hother : ¬ start <+: other) :
    other.after? path = none := by
  refine if_neg fun hprefix => hother ?_
  exact List.prefix_of_prefix_length_le hpath (List.isPrefixOf_iff_prefix.mp hprefix) hlength

/-- A path is public if nothing leads up again behind the start of the public ones. -/
theorem isPublic_iff {path : Bytes} : isPublic path = true ↔
    ∃ rest, path = publicPaths ++ rest ∧ Path.dotDot ∉ Path.segments rest := by
  simp only [← Bytes.after?_eq_some_iff, isPublic, Path.segments]
  cases publicPaths.after? path with
  | none => simp
  | some rest => simp

/-- Public paths are those of files. -/
theorem resource_of_isPublic (router : Router) (files : FileSystem) {path : Bytes}
    (h : isPublic path = true) (sources : Nat) : router.resource files path sources =
      router.staticRoot.elim .notFound fun root => staticRoute files root path := by
  obtain ⟨rest, rfl, -⟩ := isPublic_iff.mp h
  have hpath := List.prefix_append publicPaths rest
  rw [resource, after?_eq_none hpath (by decide) (by decide),
    after?_eq_none hpath (by decide) (by decide)]
  cases router.staticRoot <;> rfl

/-- A file below the root, or nothing, is found without the sources. -/
theorem usesSources_staticRoute (files : FileSystem) (root : Path) (path : Bytes) :
    (staticRoute files root path).kind.usesSources = false := by
  unfold staticRoute
  dsimp only
  split
  · rfl
  · split
    · split <;> rfl
    · rfl

/-- A request without the credentials that are asked for is routed without the sources, to an
answer that is not made from them. -/
theorem route_congr (router : Router) (files : FileSystem) {request : Http.Request}
    (h : Http.BasicAuth.permits router.secret request.authorization = false) (left right : Nat) :
    router.route files request left = router.route files request right ∧
      (router.route files request left).kind.usesSources = false := by
  rw [route, route, h]
  split
  · exact ⟨rfl, rfl⟩
  · cases hpublic : isPublic request.path with
    | false => exact ⟨rfl, rfl⟩
    | true =>
      simp only [Bool.not_true, Bool.false_and, Bool.false_eq_true, if_false,
        router.resource_of_isPublic files hpublic]
      refine ⟨trivial, ?_⟩
      cases router.staticRoot with
      | none => rfl
      | some root => exact usesSources_staticRoute files root _

end Router

namespace Session

/-- The session sends nothing that is made from the sources, and has no place in them. -/
structure Blind (session : Session) : Prop where
  usesSources_eq : session.phase.usesSources = false
  cursor_eq : session.cursor = none

/-- The request that the next attempt to read hands to the router, if it completes one. -/
def routed? (session : Session) : Option Http.Request :=
  if session.wantsRead then
    match (session.transport.read session.readSize).1 with
    | .ok bytes =>
      if bytes.isEmpty then none
      else
        let request := session.request ++ bytes
        (Http.headEnd? request).map fun e => .parse (request.take e)
    | .error _ => none
  else none

variable {session : Session} (now : Nat) (files : FileSystem) (left right : Registry)

/-- A new session is blind. -/
theorem blind_new (id : Nat) (peer : SocketAddress) (transport : Transport)
    (headerLimit chunkSize now : Nat) :
    (Session.new id peer transport headerLimit chunkSize now).Blind :=
  ⟨rfl, rfl⟩

/-- Whether there is something to send is seen without the stores. -/
theorem wantsWrite_congr (h : session.Blind) :
    session.wantsWrite left = session.wantsWrite right := by
  have huses := h.usesSources_eq
  rw [wantsWrite, wantsWrite]
  cases hphase : session.phase with
  | streaming =>
    rw [hphase] at huses
    cases huses
  | awaitingHeaders | draining | closed => rfl

/-- An answer that is not made from the sources begins without them. -/
theorem respond_congr {route : Route} (h : route.kind.usesSources = false) :
    session.respond files left route = session.respond files right route ∧
      (session.respond files left route).Blind := by
  cases route with
  | badRequest | authRequired | notFound => exact ⟨rfl, rfl, rfl⟩
  | streamInfo | stream | still => cases h
  | staticFile path length mediaType =>
    rw [respond, respond]
    cases files.openFile path <;> exact ⟨rfl, rfl, rfl⟩

/-- What was read begins an answer without the sources, unless it completes a request that is let
in. -/
theorem gather_congr (h : session.Blind) {router : Router} {bytes : Bytes}
    (hrouted : ∀ e, Http.headEnd? (session.request ++ bytes) = some e →
      Http.BasicAuth.permits router.secret
        (Http.Request.parse ((session.request ++ bytes).take e)).authorization = false) :
    session.gather router files left bytes = session.gather router files right bytes ∧
      (session.gather router files left bytes).Blind := by
  rw [gather, gather]
  cases hend : Http.headEnd? (session.request ++ bytes) with
  | none =>
    -- No request is complete, so at most the refusal of a long one begins.
    simp only
    split
    · exact respond_congr files left right rfl
    · exact ⟨rfl, h.usesSources_eq, h.cursor_eq⟩
  | some e =>
    obtain ⟨hroute, hkind⟩ := router.route_congr files (hrouted e hend) left.size right.size
    simp only
    rw [← hroute]
    exact respond_congr files left right hkind

/-- A session does not look at the stores when it reads, unless it reads a request that is let
in. -/
theorem receive_congr (h : session.Blind) {router : Router}
    (hrouted : ∀ request, session.routed? = some request →
      Http.BasicAuth.permits router.secret request.authorization = false) :
    session.receive now router files left = session.receive now router files right ∧
      (session.receive now router files left).2.Blind := by
  have hread (transport : Transport) : Blind { session with transport } := ⟨h.1, h.2⟩
  unfold routed? at hrouted
  unfold receive
  cases hwants : session.wantsRead with
  | false => exact ⟨rfl, h⟩
  | true =>
    cases hresult : session.transport.read session.readSize with
    | mk result transport =>
      cases result with
      | error error =>
        cases htransient : error.isTransient with
        | false => exact ⟨rfl, by simpa [htransient] using ⟨rfl, h.cursor_eq⟩⟩
        | true => exact ⟨rfl, by simpa [htransient] using hread transport⟩
      | ok bytes =>
        cases hempty : bytes.isEmpty with
        | true => simpa [hempty] using hread transport
        | false =>
          simp only [hwants, hresult, hempty, Bool.false_eq_true, if_false, if_true] at hrouted
          have hafter : Blind (session.afterRead now transport bytes) := ⟨h.1, h.2⟩
          have hgather := gather_congr files left right hafter
            fun e hend => hrouted _ (Option.map_eq_some_iff.mpr ⟨e, hend, rfl⟩)
          simpa [hempty, afterRead] using hgather

/-- To offer bytes to the client changes neither the phase nor the cursor. -/
theorem Blind.offer (h : session.Blind) (bytes : Slice) :
    (session.offer now bytes).2.Blind := by
  rcases session.offer_cases now bytes with ⟨-, transport, -, hoffer⟩ | ⟨-, count, transport, -, -,
    hoffer⟩
  · rw [hoffer]
    exact ⟨h.1, h.2⟩
  · rw [hoffer]
    exact ⟨h.1, h.2⟩

/-- A session that sends a file stays blind. -/
theorem Blind.sendFile (h : session.Blind) : (session.sendFile now files).2.Blind := by
  cases hfile : session.file with
  | none =>
    rw [Session.sendFile, hfile]
    exact ⟨rfl, h.cursor_eq⟩
  | some file =>
    cases hread : files.readSome session.chunkSize file with
    | error fault =>
      rw [Session.sendFile, hfile]
      simp only [hread]
      exact ⟨rfl, h.cursor_eq⟩
    | ok bytes =>
      rcases session.sendFile_cases now files hfile hread with
        ⟨-, hresult⟩ | ⟨-, ⟨-, transport, -, hresult⟩ | ⟨-, count, transport, -, -, hresult⟩⟩
      · rw [hresult]
        exact ⟨rfl, rfl⟩
      · rw [hresult]
        exact ⟨rfl, h.cursor_eq⟩
      · rw [hresult]
        exact ⟨h.1, h.2⟩

/-- What follows the head of an answer that is not made from the sources is sent without them. -/
theorem sendBody_congr (h : session.Blind) {kind : RouteKind} (hkind : kind.usesSources = false) :
    session.sendBody now files left kind = session.sendBody now files right kind ∧
      (session.sendBody now files left kind).2.Blind := by
  cases kind with
  | badRequest | authRequired | notFound => exact ⟨rfl, rfl, h.cursor_eq⟩
  | staticFile => exact ⟨rfl, h.sendFile now files⟩
  | streamInfo | stream | still => cases hkind

/-- An answer that is not made from the sources is sent without them. -/
theorem sendAnswer_congr (h : session.Blind) {kind : RouteKind}
    (hkind : kind.usesSources = false) :
    session.sendAnswer now files left kind = session.sendAnswer now files right kind ∧
      (session.sendAnswer now files left kind).2.Blind := by
  rw [sendAnswer, sendAnswer]
  split
  · have hoffer := h.offer now (session.response.drop session.responseSent)
    dsimp only
    cases (session.offer now (session.response.drop session.responseSent)).1 with
    | none => exact ⟨rfl, rfl, hoffer.cursor_eq⟩
    | some count =>
      dsimp only
      split
      · exact ⟨rfl, hoffer.1, hoffer.2⟩
      · refine sendBody_congr now files left right ?_ hkind
        exact ⟨hoffer.1, hoffer.2⟩
  · exact sendBody_congr now files left right h hkind

/-- What the phase of a blind session calls for is sent without the sources. -/
theorem sendPhase_congr (h : session.Blind) :
    session.sendPhase now files left = session.sendPhase now files right ∧
      (session.sendPhase now files left).2.Blind := by
  have huses := h.usesSources_eq
  cases hphase : session.phase with
  | awaitingHeaders =>
    rw [session.sendPhase_of_awaitingHeaders now files left hphase,
      session.sendPhase_of_awaitingHeaders now files right hphase]
    exact ⟨rfl, h⟩
  | closed =>
    rw [session.sendPhase_of_closed now files left hphase,
      session.sendPhase_of_closed now files right hphase]
    exact ⟨rfl, h⟩
  | draining kind =>
    rw [session.sendPhase_of_draining now files left hphase,
      session.sendPhase_of_draining now files right hphase]
    rw [hphase] at huses
    exact sendAnswer_congr now files left right h huses
  | streaming =>
    rw [hphase] at huses
    cases huses

/-- A session does not look at the stores when it sends anything but what is made from them. -/
theorem send_congr (h : session.Blind) :
    session.send now files left = session.send now files right ∧
      (session.send now files left).2.Blind := by
  by_cases hfails : Transport.FailsHard session.transport.flush.1
  · rw [session.send_eq_fail now files left hfails, session.send_eq_fail now files right hfails]
    exact ⟨rfl, rfl, h.cursor_eq⟩
  · rw [session.send_eq_sendPhase now files left hfails,
      session.send_eq_sendPhase now files right hfails]
    refine sendPhase_congr now files left right ?_
    exact ⟨h.1, h.2⟩

end Session

namespace Exchange

variable (exchange : Exchange)

/-- What there is to see of a session, and whether it has something to send. -/
structure Sight where
  flow : Flow
  session : Session
  wantsWrite : Bool
  deriving DecidableEq, Repr

/-- What there is to see after an event. -/
def sight (event : Event) : Sight :=
  let next := exchange.step event
  ⟨exchange.flow event, next.session, next.session.wantsWrite next.sources⟩

/-- What there is to see along a run, after every event but the pushes. -/
def trace (exchange : Exchange) : List Event → List Sight
  | [] => []
  | .push offered :: events => (exchange.step (.push offered)).trace events
  | event :: events => exchange.sight event :: (exchange.step event).trace events

/-- The events of a run without the pushes. -/
def quiet (events : List Event) : List Event := events.filter fun event => event.push?.isNone

/-- The session does not hand a request to the router that has the credentials which the router
asks for. -/
def Event.IsUnauthorized (session : Session) : Event → Prop
  | receive _ router _ => ∀ request ∈ session.routed?,
      Http.BasicAuth.permits router.secret request.authorization = false
  | push _ | network _ | send .. => True

instance (session : Session) : DecidablePred (Event.IsUnauthorized session)
  | .receive _ router _ => inferInstanceAs (Decidable (∀ request ∈ session.routed?,
      Http.BasicAuth.permits router.secret request.authorization = false))
  | .push _ | .network _ | .send .. => inferInstanceAs (Decidable True)

/-- No request that is routed along a run has the credentials that its router asks for. -/
def Unauthorized (events : List Event) : Prop :=
  exchange.Throughout (fun exchange event => event.IsUnauthorized exchange.session) events

instance (events : List Event) : Decidable (exchange.Unauthorized events) :=
  decidableThroughout exchange events

/-- A run without credentials is an event without them and such a run from where it leads. -/
theorem unauthorized_cons_iff {exchange : Exchange} {event : Event} {events : List Event} :
    exchange.Unauthorized (event :: events) ↔
      event.IsUnauthorized exchange.session ∧ (exchange.step event).Unauthorized events :=
  throughout_cons_iff

variable {left right : Exchange}

/-- An event of a session without credentials is the same for all sources. -/
theorem sight_congr (h : left.session.Blind) (hsame : left.session = right.session) {event : Event}
    (hevent : event.IsUnauthorized left.session) :
    left.sight event = right.sight event ∧
      (left.step event).session = (right.step event).session ∧
      (left.step event).session.Blind := by
  obtain ⟨session, left⟩ := left
  obtain ⟨_, right⟩ := right
  obtain rfl : session = _ := hsame
  -- It is enough that the flow and the session are the same, as a blind session tells without the
  -- stores whether it has something to send.
  suffices hstep : (Exchange.mk session left).flow event = (Exchange.mk session right).flow event ∧
      ((Exchange.mk session left).step event).session =
        ((Exchange.mk session right).step event).session ∧
      ((Exchange.mk session left).step event).session.Blind by
    obtain ⟨hflow, hsession, hblind⟩ := hstep
    refine ⟨?_, hsession, hblind⟩
    rw [sight, sight, hflow, hsession, Session.wantsWrite_congr _
      ((Exchange.mk session right).step event).sources (hsession ▸ hblind)]
  cases event with
  | push offered => exact ⟨rfl, rfl, h⟩
  | network future => exact ⟨rfl, rfl, h.1, h.2⟩
  | receive now router files =>
    obtain ⟨hsame, hblind⟩ := Session.receive_congr now files left right h hevent
    exact ⟨congrArg Prod.fst hsame, congrArg Prod.snd hsame, hblind⟩
  | send now files =>
    obtain ⟨hsame, hblind⟩ := Session.send_congr now files left right h
    exact ⟨congrArg Prod.fst hsame, congrArg Prod.snd hsame, hblind⟩

/-- Whether requests have credentials does not depend on the sources and the pushes. -/
theorem unauthorized_quiet_iff (h : left.session.Blind) (hsame : left.session = right.session)
    (events : List Event) : left.Unauthorized events ↔ right.Unauthorized (quiet events) := by
  induction events generalizing left right with
  | nil => exact iff_of_true throughout_nil throughout_nil
  | cons event events ih =>
    rw [unauthorized_cons_iff]
    cases event with
    | push offered =>
      have hrest : (left.step (.push offered)).Unauthorized events ↔
          right.Unauthorized (quiet events) := ih h hsame
      exact ⟨fun hall => hrest.mp hall.2, fun hall => ⟨trivial, hrest.mpr hall⟩⟩
    | network | receive | send =>
      refine Iff.trans ?_ unauthorized_cons_iff.symm
      rw [← hsame]
      refine and_congr_right fun hevent => ?_
      obtain ⟨-, hstep, hblind⟩ := sight_congr h hsame hevent
      exact ih hblind hstep

/-- A run of a session without credentials looks like the run without the pushes, for any
sources. -/
theorem trace_eq_quiet (h : left.session.Blind) (hsame : left.session = right.session)
    {events : List Event} (hunauthorized : left.Unauthorized events) :
    left.trace events = right.trace (quiet events) ∧
      (∀ sight ∈ left.trace events, sight.session.Blind) ∧
      (left.run events).session = (right.run (quiet events)).session := by
  induction events generalizing left right with
  | nil => exact ⟨rfl, by simp [trace], hsame⟩
  | cons event events ih =>
    obtain ⟨hevent, hrest⟩ := unauthorized_cons_iff.mp hunauthorized
    obtain ⟨hsight, hstep, hblind⟩ := sight_congr h hsame hevent
    cases event with
    | push offered =>
      -- A push is left out, and the session stays what it was.
      exact ih h hsame hrest
    | network | receive | send =>
      obtain ⟨htrace, hall, hfinal⟩ := ih hblind hstep hrest
      refine ⟨?_, List.forall_mem_cons.mpr ⟨hblind, hall⟩, hfinal⟩
      exact congrArg₂ List.cons hsight htrace

/-- A client that never sends the secret of its server cannot tell by anything which sources the
server has. With other sources and other pushes in between it gets the same bytes, its session goes
through the same phases and closes at the same event for the same reason. No answer that is made
from the sources is ever begun. -/
theorem trace_eq_of_unauthorized (id : Nat) (peer : SocketAddress) (transport : Transport)
    (headerLimit chunkSize now : Nat) (left right : Registry) (events others : List Event)
    (hquiet : quiet events = quiet others)
    (hunauthorized :
      Unauthorized ⟨.new id peer transport headerLimit chunkSize now, left⟩ events) :
    let session := Session.new id peer transport headerLimit chunkSize now
    (Exchange.mk session left).trace events = (Exchange.mk session right).trace others ∧
      ((Exchange.mk session left).run events).session =
        ((Exchange.mk session right).run others).session ∧
      ∀ sight ∈ (Exchange.mk session left).trace events,
        sight.session.phase.usesSources = false ∧ sight.session.cursor = none := by
  intro session
  have hblind : session.Blind := Session.blind_new id peer transport headerLimit chunkSize now
  let first : Exchange := ⟨session, left⟩
  let second : Exchange := ⟨session, right⟩
  have hfirst : first.session = first.session := rfl
  have hsecond : second.session = first.session := rfl
  have hothers : second.Unauthorized others := by
    have hsilent := (unauthorized_quiet_iff hblind hfirst events).mp hunauthorized
    rw [hquiet] at hsilent
    exact (unauthorized_quiet_iff hblind hsecond others).mpr hsilent
  -- Both runs look like the run without the pushes.
  obtain ⟨htrace, hall, hfinal⟩ := trace_eq_quiet hblind hfirst hunauthorized
  obtain ⟨htrace', -, hfinal'⟩ := trace_eq_quiet hblind hsecond hothers
  refine ⟨?_, ?_, fun sight hsight => ?_⟩
  · exact htrace.trans (hquiet ▸ htrace'.symm)
  · exact hfinal.trans (hquiet ▸ hfinal'.symm)
  · exact ⟨(hall sight hsight).usesSources_eq, (hall sight hsight).cursor_eq⟩

section UninvitedViewer

/-- A connection on which a public file is asked for, and after it a still with a wrong token. -/
def uninvited : Transport where
  arrivals := [
    .data (.ofString "GET /img/a HTTP/1.1\x0d\n\x0d\n"),
    .data (.ofString "GET /still/0 HTTP/1.0\x0d\nAuthorization: Basic eA==\x0d\n\x0d\n")]

/-- A root with one public file. -/
def publicFiles : FileSystem where
  entries := [([[119]], .directory), ([[119], .ofString "img"], .directory),
    ([[119], .ofString "img", [97]], .file 0)]
  contents := [#[104, 105]]

/-- A server with a secret. -/
def guarded : Router where
  staticRoot := some (.ofString "/w")
  secret := some (Http.BasicAuth.secret "user:pass")

/-- What happens to the uninvited viewer, but for the pushes. -/
def uninvitedEvents : List Event := [
  .receive 1 guarded publicFiles, .send 2 publicFiles, .send 3 publicFiles,
  .receive 4 guarded publicFiles, .send 5 publicFiles]

/-- The uninvited viewer gets the file and a refusal, whether the server has a frame for the still
or no source at all. -/
theorem trace_eq_of_unauthorized_uninvited :
    let session := Session.new 1 (.v4 .loopback 5000) uninvited 4096 16384 0
    let left := Registry.ofSizes [(1, 8)] 640 480
    let right := Registry.ofSizes [] 320 240
    let events := .push ⟨0, [255, 216]⟩ :: uninvitedEvents
    quiet events = quiet uninvitedEvents ∧ (Exchange.mk session left).Unauthorized events ∧
    ((Exchange.mk session left).run events).session.transport.sent =
      Http.Reply.fileHeader 2 "application/octet" ++ [104, 105] ++ Http.Reply.authRequired ∧
    (Exchange.mk session left).trace events =
      (Exchange.mk session right).trace uninvitedEvents ∧
      ((Exchange.mk session left).run events).session =
        ((Exchange.mk session right).run uninvitedEvents).session ∧
      ∀ sight ∈ (Exchange.mk session left).trace events,
        sight.session.phase.usesSources = false ∧ sight.session.cursor = none := by
  intro session left right events
  have hunauthorized : (Exchange.mk session left).Unauthorized events := by decide +kernel
  refine ⟨rfl, hunauthorized, by decide +kernel, ?_⟩
  exact trace_eq_of_unauthorized 1 (.v4 .loopback 5000) uninvited 4096 16384 0 left right events
    uninvitedEvents rfl hunauthorized

end UninvitedViewer

end Exchange

end MotionJpeg
