import MotionJpeg.Proofs.Server.Restriction

/-!
# Clients do not influence each other

What becomes of a client, with every byte that it is given, depends on what happens to it and to the
sources. It depends neither on the other clients nor on the order in which a tick attends to them.

* `Service.fate?` is what has become of a client, its number aside.
* `Service.Event.concerning` picks what happens to a client.
* `Service.clients_isolated`: the fate of a client is the one that it has without the others.
-/

namespace MotionJpeg

/-- What has become of a client, whatever its number is. -/
inductive Fate where
  /-- The session goes on. -/
  | connected (session : Session)
  /-- The session was removed. -/
  | ended (reason : CloseReason) (session : Session)
  deriving DecidableEq

/-- What became of the client whose session ended. -/
def Ending.fate (ending : Ending) : Fate := .ended ending.reason (ending.session.numbered 0)

namespace Service

/-- A tick for which nothing is ready. -/
def Event.isSilent : Event → Bool
  | tick _ _ _ ready => ready.size = 0
  | capture | push _ | network .. | shutdown => false

/-- What happens to the client with this number, to the sources and to all clients alike, when
`next` is the number of the first client to be admitted. -/
def Event.concerning (id next : Nat) (events : List Event) : List Event :=
  (restrictAll (· = id) next events).filter fun event => !event.isSilent

/-- The events are the same, but the ready clients may come in another order. -/
inductive Event.Reorders : Event → Event → Prop where
  | refl (event : Event) : Reorders event event
  | tick (now later : Nat) (files : FileSystem) (accepted : List Connection)
      {readable writable readable' writable' : List Nat} (hreadable : readable.Perm readable')
      (hwritable : writable.Perm writable') :
      Reorders (.tick now later files { accepted, readable, writable })
        (.tick now later files { accepted, readable := readable', writable := writable' })

section Definitions

variable (service : Service) (id : Nat)

/-- What has become of the client with this number, if there was one. -/
def fate? : Option Fate :=
  match service.server.sessions.lookup id with
  | some session => some (.connected (session.numbered 0))
  | none => (service.endings.find? fun ending => ending.id = id).map Ending.fate

/-- The client with this number was idle for too long. -/
def TimedOut : Prop := ∃ ending ∈ service.endings, ending.id = id ∧ ending.reason = .timedOut

end Definitions

section Restrict

variable {stays : Nat → Prop} [DecidablePred stays] {id : Nat}

/-- How a client that stays has ended is found under its new number. -/
theorem find?_restrictEndings (endings : List Ending) (h : stays id) :
    ((Server.restrictEndings stays endings).find? fun ending =>
        ending.id = Server.renumber stays id).map Ending.fate =
      (endings.find? fun ending => ending.id = id).map Ending.fate := by
  induction endings with
  | nil => rfl
  | cons ending rest ih =>
    -- One ending at a time, whether it is left out or not.
    rw [← List.singleton_append, Server.restrictEndings_append, Server.restrictEndings_singleton]
    by_cases hid : stays ending.id
    · rw [if_pos hid, List.singleton_append, List.singleton_append]
      by_cases heq : ending.id = id
      · rw [List.find?_cons_of_pos (by simp [heq]), List.find?_cons_of_pos (by simp [heq])]
        rfl
      · have hnew := Server.renumber_ne hid h heq
        rw [List.find?_cons_of_neg (by simp [hnew]), List.find?_cons_of_neg (by simp [heq]), ih]
    · have hne := (Server.ne_of_leaves h hid).symm
      rw [if_neg hid, List.nil_append, List.singleton_append,
        List.find?_cons_of_neg (by simp [hne]), ih]

/-- To leave other clients out of a service does not change what has become of a client. -/
theorem fate?_restrict (service : Service) (h : stays id) :
    (service.restrict stays).fate? (Server.renumber stays id) = service.fate? id := by
  have hlookup : (service.restrict stays).server.sessions.lookup (Server.renumber stays id) = _ :=
    Server.lookup_restrictTable service.server.sessions h
  unfold fate?
  rw [hlookup]
  cases service.server.sessions.lookup id with
  | some session => rfl
  | none => exact find?_restrictEndings service.endings h

end Restrict

section Silence

variable (service : Service)

/-- What has ended stays so. -/
theorem endings_step (event : Event) : service.endings <+: (service.step event).endings := by
  cases event with
  | capture | push => exact List.prefix_rfl
  | network | tick | shutdown => exact List.prefix_append ..

theorem endings_run (events : List Event) : service.endings <+: (service.run events).endings := by
  induction events generalizing service with
  | nil => exact List.prefix_rfl
  | cons event rest ih => exact (service.endings_step event).trans (ih _)

/-- A sweep that ends no session changes nothing. -/
theorem sweep_of_nil {server : Server} {now : Nat} (h : (server.sweep now).1 = []) :
    (server.sweep now).2 = server := by
  rw [Server.sweep_eq] at h ⊢
  have hidle := List.filter_eq_nil_iff.mp (List.map_eq_nil_iff.mp h)
  have hbusy : server.sessions.filter (fun entry =>
      !entry.2.isIdle now (server.config.keepAliveTimeout * Server.clockRate)) = server.sessions := by
    apply List.filter_eq_self.mpr
    intro entry hentry
    simpa using hidle entry hentry
  rw [hbusy]

/-- A tick for which nothing is ready is a sweep. -/
theorem tick_silent (server : Server) (now later : Nat) (files : FileSystem) :
    server.tick now later files { accepted := [], readable := [], writable := [] } =
      server.sweep later := by
  have hwelcome : server.welcomeAll now [] = server := by
    unfold Server.welcomeAll
    split <;> rfl
  have hattend (receive send : Session → Flow × Session) (sweep : Server → List Ending × Server) :
      server.attend receive send sweep {} = sweep server := rfl
  rw [Server.tick_eq, hwelcome]
  exact hattend ..

/-- A tick for which nothing is ready changes nothing, unless it finds that a client was idle for
too long. -/
theorem step_of_isSilent {event : Event} (hsilent : event.isSilent)
    (h : ∀ ending ∈ (service.step event).endings, ending.reason ≠ .timedOut) :
    service.step event = service := by
  cases event with
  | capture | push | network | shutdown => cases hsilent
  | tick now later files ready =>
    obtain ⟨accepted, readable, writable⟩ := ready
    have hsize : accepted.length + readable.length + writable.length = 0 := by
      simpa [Event.isSilent, Readiness.size] using hsilent
    obtain rfl : accepted = [] := List.eq_nil_of_length_eq_zero (by omega)
    obtain rfl : readable = [] := List.eq_nil_of_length_eq_zero (by omega)
    obtain rfl : writable = [] := List.eq_nil_of_length_eq_zero (by omega)
    rw [step, tick_silent] at h ⊢
    -- Whoever a sweep removes was idle for too long.
    have hnil : (service.server.sweep later).1 = [] := by
      apply List.eq_nil_iff_forall_not_mem.mpr
      intro ending hending
      refine h ending (List.mem_append_right _ hending) ?_
      rw [Server.sweep_eq] at hending
      obtain ⟨entry, -, rfl⟩ := List.mem_map.mp hending
      rfl
    unfold goOn
    rw [hnil, sweep_of_nil hnil, List.append_nil]

/-- Nothing is lost with the ticks for which nothing is ready, as long as no client is idle for too
long. -/
theorem run_filter_isSilent (events : List Event)
    (h : ∀ ending ∈ (service.run events).endings, ending.reason ≠ .timedOut) :
    service.run (events.filter fun event => !event.isSilent) = service.run events := by
  induction events generalizing service with
  | nil => rfl
  | cons event rest ih =>
    have hrest := ih (service.step event) h
    by_cases hsilent : event.isSilent
    · rw [List.filter_cons_of_neg (by simp [hsilent])]
      -- What has ended at this tick has ended at the end of the run too.
      have hstep := service.step_of_isSilent hsilent fun ending hending =>
        h ending (((service.step event).endings_run rest).subset hending)
      rw [hstep] at hrest
      rw [hrest]
      exact congrArg (run · rest) hstep.symm
    · rw [List.filter_cons_of_pos (by simp [hsilent])]
      exact hrest

end Silence

section Reorder

variable {id : Nat}

/-- The order of some ready clients does not matter to one of them. -/
theorem restrictIds_eq_of_perm {ids ids' : List Nat} (h : ids.Perm ids') :
    Server.restrictIds (· = id) ids = Server.restrictIds (· = id) ids' := by
  unfold Server.restrictIds
  rw [List.filter_eq, List.filter_eq, h.count_eq]

/-- When ready clients come in another order, the same happens to each of them. -/
theorem restrictAll_eq_of_reorders {events reordered : List Event}
    (h : List.Forall₂ Event.Reorders events reordered) (next : Nat) :
    Event.restrictAll (· = id) next events = Event.restrictAll (· = id) next reordered := by
  induction h generalizing next with
  | nil => rfl
  | cons hhead _ ih =>
    unfold Event.restrictAll
    rw [ih]
    cases hhead with
    | refl => rfl
    | tick now later files accepted hreadable hwritable =>
      rw [Event.restrict?, Event.restrict?, Server.restrictReadiness, Server.restrictReadiness,
        restrictIds_eq_of_perm hreadable, restrictIds_eq_of_perm hwritable]
      rfl

end Reorder

/-- The fate of a client that stays is the one that it has without the others. -/
theorem fate?_run_restrictAll (service : Service) (events : List Event)
    {stays : Nat → Prop} [DecidablePred stays] {id : Nat} (h : stays id) :
    ((service.restrict stays).run (Event.restrictAll stays service.server.nextId events)).fate?
        (Server.renumber stays id) =
      (service.run events).fate? id := by
  rw [service.run_restrictAll events fun _ => rfl, fate?_restrict _ h]

/-- The fate of a client is the one that it has alone. -/
theorem fate?_run_alone (service : Service) (events : List Event) (id : Nat) :
    ((service.restrict (· = id)).run
        (Event.restrictAll (· = id) service.server.nextId events)).fate?
        (Server.renumber (· = id) id) =
      (service.run events).fate? id :=
  service.fate?_run_restrictAll events rfl

/-- Nobody else was idle for too long where only one client is left. -/
theorem ne_timedOut_of_mem_restrict {service : Service} {id : Nat} (h : ¬ service.TimedOut id)
    {ending : Ending} (hending : ending ∈ (service.restrict (· = id)).endings) :
    ending.reason ≠ .timedOut := by
  obtain ⟨found, hfound, rfl⟩ := List.mem_map.mp hending
  obtain ⟨hmem, hid⟩ := List.mem_filter.mp hfound
  intro hreason
  exact h ⟨found, hmem, by simpa using hid, hreason⟩

/-- Clients do not influence each other. Unless it is idle for too long, the fate of a client comes
from what happens to it, to the sources and to all clients alike. In every case its fate is the same
when ready clients come in another order, and when other clients are left out of the run. -/
theorem clients_isolated (service : Service) (events : List Event) (id : Nat) :
    (¬ (service.run events).TimedOut id →
      (service.run events).fate? id =
        ((service.restrict (· = id)).run
          (Event.concerning id service.server.nextId events)).fate?
            (Server.renumber (· = id) id)) ∧
    (∀ reordered, List.Forall₂ Event.Reorders events reordered →
      (service.run reordered).fate? id = (service.run events).fate? id) ∧
    (∀ (stays : Nat → Prop) [DecidablePred stays], stays id →
      ((service.restrict stays).run
          (Event.restrictAll stays service.server.nextId events)).fate?
            (Server.renumber stays id) =
        (service.run events).fate? id) := by
  refine ⟨fun hactive => ?_, fun reordered h => ?_, fun stays _ hid => ?_⟩
  · -- Alone, the client is the only one that could have been idle for too long.
    rw [← service.fate?_run_alone events id]
    unfold Event.concerning
    rw [run_filter_isSilent]
    intro ending hending
    rw [service.run_restrictAll events fun _ => rfl] at hending
    exact ne_timedOut_of_mem_restrict hactive hending
  · -- On its own, the client does not see in which order the others come.
    rw [← service.fate?_run_alone events id, ← service.fate?_run_alone reordered id,
      restrictAll_eq_of_reorders h]
  · exact service.fate?_run_restrictAll events hid

section TwoViewers

/-- A server with one source, on which nobody is connected. -/
def lobby : Service where
  server :=
    { config := {}
      router := { staticRoot := none, secret := none }
      sources := .ofSizes [(2, 8)] 640 480
      capture := []
      listeners := [.v4 .loopback 8000] }

/-- Two clients connect at once. The first one asks for a still, and the second one hangs up and is
found writable all the same. -/
def twoViewers : List Event :=
  let asking : Transport :=
    { arrivals := [.data (.ofString "GET /still/0 HTTP/1.0\x0d\n\x0d\n")] }
  [.push ⟨0, [255, 216]⟩,
    .tick 0 1 {} { accepted := [⟨.v4 .loopback 5000, asking⟩, ⟨.v4 .loopback 5001, {}⟩] },
    .network 2 { hasEnded := true },
    .tick 2 3 {} { readable := [2, 1], writable := [2, 1] }]

/-- The client that hangs up is skipped when it is found writable, and the other one gets what it
gets without it. -/
theorem clients_isolated_twoViewers :
    (lobby.run twoViewers).endings.map (fun ending => (ending.id, ending.reason)) =
      [(2, .peerClosed), (1, .responseComplete)] ∧
    ((lobby.restrict (· ≠ 2)).run (Event.restrictAll (· ≠ 2) 1 twoViewers)).fate?
        (Server.renumber (· ≠ 2) 1) =
      (lobby.run twoViewers).fate? 1 :=
  ⟨by decide +kernel, (clients_isolated lobby twoViewers 1).2.2 (· ≠ 2) (by decide)⟩

end TwoViewers

end Service

end MotionJpeg
