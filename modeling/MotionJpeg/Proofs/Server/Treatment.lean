import MotionJpeg.Proofs.Server.Restriction

/-!
# What is done to the sessions of a server

A server works through lists of numbers, and what it finds under a number may have been changed or
removed by what it did before. For every session it comes to the same as if this session was treated
on its own.

* A `Treatment` is what is done to the session of every number, `Treatment.kept` and
  `Treatment.ended` are what is left of a table then, and which sessions have ended.
* `Server.Treats` says that the outcome of some work is that of a treatment.
* `Server.treats_attend`: one tick reads from every session, writes to it and looks whether it was
  idle, until something of this ends it.
-/

namespace MotionJpeg

/-- What is done to the session of every number. It goes on, or it is to be removed. -/
abbrev Treatment := Nat → Session → Flow × Session

namespace Treatment

section Definitions

/-- Nothing is done. -/
def leave : Treatment := fun _ session => (.keep, session)

/-- The event happens to the session of one number. -/
def only (id : Nat) (event : Session → Flow × Session) : Treatment :=
  fun key session => if key = id then event session else (.keep, session)

/-- The second treatment follows for the sessions that go on after the first. -/
def followedBy (first second : Treatment) : Treatment := fun id session =>
  match first id session with
  | (.keep, next) => second id next
  | (.close reason, next) => (.close reason, next)

/-- The event happens as often as the number of the session is in the list, or until it closes the
session. -/
def each (event : Session → Flow × Session) (ids : List Nat) : Treatment :=
  fun id session => attempt (ids.count id) session
where
  /-- The event happens this often, or until it closes the session. -/
  attempt : Nat → Session → Flow × Session
    | 0, session => (.keep, session)
    | count + 1, session =>
      match event session with
      | (.keep, next) => attempt count next
      | (.close reason, next) => (.close reason, next)

/-- A session that was idle for too long ends. -/
def expire (now timeout : Nat) : Treatment := fun _ session =>
  if session.isIdle now timeout then (.close .timedOut, session) else (.keep, session)

/-- Every session ends for this reason. -/
def endAll (reason : CloseReason) : Treatment := fun _ session => (.close reason, session)

variable (treat : Treatment)

/-- The sessions of a table that go on, as they are then. -/
def kept (table : List (Nat × Session)) : List (Nat × Session) :=
  table.filterMap fun (id, session) =>
    match treat id session with
    | (.keep, next) => some (id, next)
    | (.close _, _) => none

/-- The sessions of a table that end, as they are then. -/
def ended (table : List (Nat × Session)) : List Ending :=
  table.filterMap fun (id, session) =>
    match treat id session with
    | (.keep, _) => none
    | (.close reason, session) => some { id, reason, session }

/-- What is true of a session is true of it again if it goes on. -/
def Preserves (stands : Nat → Session → Prop) : Prop :=
  ∀ id session next, stands id session → treat id session = (.keep, next) → stands id next

end Definitions

section Tables

variable {treat : Treatment} {id : Nat} {session next : Session} {reason : CloseReason}
  (table : List (Nat × Session))

theorem kept_cons_of_keep (h : treat id session = (.keep, next)) :
    treat.kept ((id, session) :: table) = (id, next) :: treat.kept table :=
  List.filterMap_cons_some (by dsimp only; rw [h])

theorem kept_cons_of_close (h : treat id session = (.close reason, next)) :
    treat.kept ((id, session) :: table) = treat.kept table :=
  List.filterMap_cons_none (by dsimp only; rw [h])

theorem ended_cons_of_keep (h : treat id session = (.keep, next)) :
    treat.ended ((id, session) :: table) = treat.ended table :=
  List.filterMap_cons_none (by dsimp only; rw [h])

theorem ended_cons_of_close (h : treat id session = (.close reason, next)) :
    treat.ended ((id, session) :: table) = ⟨id, reason, next⟩ :: treat.ended table :=
  List.filterMap_cons_some (by dsimp only; rw [h])

theorem kept_append (other : List (Nat × Session)) :
    treat.kept (table ++ other) = treat.kept table ++ treat.kept other :=
  List.filterMap_append

theorem ended_append (other : List (Nat × Session)) :
    treat.ended (table ++ other) = treat.ended table ++ treat.ended other :=
  List.filterMap_append

@[simp]
theorem kept_leave : leave.kept table = table := List.filterMap_some

@[simp]
theorem ended_leave : leave.ended table = [] :=
  List.filterMap_eq_nil_iff.mpr fun _ _ => rfl

/-- Every session of a table goes on or ends, and is not there twice. -/
theorem perm_keys (treat : Treatment) (table : List (Nat × Session)) :
    ((treat.ended table).map Ending.id ++ (treat.kept table).map Prod.fst).Perm
      (table.map Prod.fst) := by
  induction table with
  | nil => rfl
  | cons entry rest ih =>
    obtain ⟨id, session⟩ := entry
    rcases htreat : treat id session with ⟨_ | reason, next⟩
    · rw [kept_cons_of_keep rest htreat, ended_cons_of_keep rest htreat]
      exact List.perm_middle.trans (ih.cons id)
    · rw [kept_cons_of_close rest htreat, ended_cons_of_close rest htreat]
      exact ih.cons id

/-- The sessions that go on keep their order. -/
theorem sublist_keys (treat : Treatment) (table : List (Nat × Session)) :
    ((treat.kept table).map Prod.fst).Sublist (table.map Prod.fst) := by
  induction table with
  | nil => exact .slnil
  | cons entry rest ih =>
    obtain ⟨id, session⟩ := entry
    rcases htreat : treat id session with ⟨_ | reason, next⟩
    · rw [kept_cons_of_keep rest htreat]
      exact ih.cons_cons id
    · rw [kept_cons_of_close rest htreat]
      exact ih.cons id

variable {table}

/-- What a treatment preserves is true of all sessions that go on. -/
theorem Preserves.forall_mem_kept {stands : Nat → Session → Prop}
    (hpreserves : treat.Preserves stands) (h : ∀ entry ∈ table, stands entry.1 entry.2) :
    ∀ entry ∈ treat.kept table, stands entry.1 entry.2 := by
  intro entry hentry
  obtain ⟨⟨id, session⟩, hmem, hkept⟩ := List.mem_filterMap.mp hentry
  rcases htreat : treat id session with ⟨_ | reason, next⟩
  · simp only [htreat, Option.some.injEq] at hkept
    subst hkept
    exact hpreserves id session next (h _ hmem) htreat
  · simp only [htreat, reduceCtorEq] at hkept

end Tables

section FollowedBy

variable {first second : Treatment} {id : Nat} {session next : Session}

theorem followedBy_of_keep (h : first id session = (.keep, next)) :
    first.followedBy second id session = second id next := by
  rw [followedBy, h]

theorem followedBy_of_close {reason : CloseReason} (h : first id session = (.close reason, next)) :
    first.followedBy second id session = (.close reason, next) := by
  rw [followedBy, h]

/-- Two treatments of a table are two treatments of every session. -/
theorem kept_followedBy (first second : Treatment) (table : List (Nat × Session)) :
    (first.followedBy second).kept table = second.kept (first.kept table) := by
  -- Session by session: the second treatment does not see those that the first has closed.
  induction table with
  | nil => rfl
  | cons entry rest ih =>
    obtain ⟨id, session⟩ := entry
    rcases hfirst : first id session with ⟨_ | reason, next⟩
    · rw [kept_cons_of_keep rest hfirst]
      rcases hsecond : second id next with ⟨_ | reason, last⟩
      · rw [kept_cons_of_keep _ hsecond, ← ih]
        exact kept_cons_of_keep rest ((followedBy_of_keep hfirst).trans hsecond)
      · rw [kept_cons_of_close _ hsecond, ← ih]
        exact kept_cons_of_close rest ((followedBy_of_keep hfirst).trans hsecond)
    · rw [kept_cons_of_close rest hfirst, ← ih]
      exact kept_cons_of_close rest (followedBy_of_close hfirst)

/-- The sessions that end in the first treatment come before those that end in the second. -/
theorem perm_ended_followedBy (first second : Treatment) (table : List (Nat × Session)) :
    (first.ended table ++ second.ended (first.kept table)).Perm
      ((first.followedBy second).ended table) := by
  induction table with
  | nil => rfl
  | cons entry rest ih =>
    obtain ⟨id, session⟩ := entry
    rcases hfirst : first id session with ⟨_ | reason, next⟩
    · rw [kept_cons_of_keep rest hfirst, ended_cons_of_keep rest hfirst]
      rcases hsecond : second id next with ⟨_ | reason, last⟩
      · rw [ended_cons_of_keep _ hsecond,
          ended_cons_of_keep rest ((followedBy_of_keep hfirst).trans hsecond)]
        exact ih
      · rw [ended_cons_of_close _ hsecond,
          ended_cons_of_close rest ((followedBy_of_keep hfirst).trans hsecond)]
        exact List.perm_middle.trans (ih.cons _)
    · rw [kept_cons_of_close rest hfirst, ended_cons_of_close rest hfirst,
        ended_cons_of_close rest (followedBy_of_close hfirst)]
      exact ih.cons _

end FollowedBy

section Only

variable {id : Nat} {table : List (Nat × Session)} (event : Session → Flow × Session)

theorem kept_congr {first second : Treatment}
    (h : ∀ entry ∈ table, first entry.1 entry.2 = second entry.1 entry.2) :
    first.kept table = second.kept table := by
  apply List.filterMap_congr
  rintro ⟨key, session⟩ hentry
  dsimp only
  rw [h _ hentry]

theorem ended_congr {first second : Treatment}
    (h : ∀ entry ∈ table, first entry.1 entry.2 = second entry.1 entry.2) :
    first.ended table = second.ended table := by
  apply List.filterMap_congr
  rintro ⟨key, session⟩ hentry
  dsimp only
  rw [h _ hentry]

/-- Nothing happens to a table without a session of this number. -/
private theorem only_eq_leave (hid : id ∉ table.map Prod.fst) :
    ∀ entry ∈ table, only id event entry.1 entry.2 = leave entry.1 entry.2 := by
  intro entry hentry
  apply if_neg
  rintro rfl
  exact hid (List.mem_map_of_mem hentry)

theorem kept_only_of_notMem (hid : id ∉ table.map Prod.fst) : (only id event).kept table = table :=
  (kept_congr (only_eq_leave event hid)).trans (kept_leave table)

theorem ended_only_of_notMem (hid : id ∉ table.map Prod.fst) : (only id event).ended table = [] :=
  (ended_congr (only_eq_leave event hid)).trans (ended_leave table)

end Only

section Each

variable (event : Session → Flow × Session)

theorem each_nil : each event [] = leave := rfl

/-- An event that happens to the clients of a list happens to the first one and then to the
others. -/
theorem each_cons (id : Nat) (rest : List Nat) :
    each event (id :: rest) = (only id event).followedBy (each event rest) := by
  funext key session
  rw [each]
  by_cases hkey : key = id
  · subst hkey
    rw [List.count_cons_self, followedBy, only, if_pos rfl]
    rfl
  · rw [List.count_cons_of_ne (Ne.symm hkey), followedBy, only, if_neg hkey]
    rfl

end Each

section Expire

variable (now timeout : Nat) (table : List (Nat × Session))

/-- Who was idle for too long ends, and everybody else stays as it is. -/
theorem expire_eq :
    (expire now timeout).kept table = table.filter (fun entry => !entry.2.isIdle now timeout) ∧
      (expire now timeout).ended table =
        (table.filter fun entry => entry.2.isIdle now timeout).map fun entry =>
          { id := entry.1, reason := .timedOut, session := entry.2 } := by
  induction table with
  | nil => exact ⟨rfl, rfl⟩
  | cons entry rest ih =>
    obtain ⟨id, session⟩ := entry
    obtain ⟨hkept, hended⟩ := ih
    by_cases hidle : session.isIdle now timeout
    · have hexpire : expire now timeout id session = (.close .timedOut, session) := if_pos hidle
      rw [kept_cons_of_close rest hexpire, ended_cons_of_close rest hexpire, hkept, hended]
      simp [hidle]
    · have hexpire : expire now timeout id session = (.keep, session) := if_neg hidle
      rw [kept_cons_of_keep rest hexpire, ended_cons_of_keep rest hexpire, hkept, hended]
      simp [hidle]

/-- Nobody stays when all sessions end. -/
theorem endAll_eq (reason : CloseReason) :
    (endAll reason).kept table = [] ∧
      (endAll reason).ended table =
        table.map fun entry => { id := entry.1, reason, session := entry.2 } :=
  ⟨List.filterMap_eq_nil_iff.mpr fun _ _ => rfl,
    congrFun List.filterMap_eq_map table⟩

end Expire

namespace Preserves

variable {stands : Nat → Session → Prop} {first second : Treatment}

/-- Two treatments preserve what each of them does. -/
theorem followedBy (hfirst : first.Preserves stands) (hsecond : second.Preserves stands) :
    (first.followedBy second).Preserves stands := by
  intro id session last hstands hlast
  rcases htreat : first id session with ⟨_ | reason, next⟩
  · rw [followedBy_of_keep htreat] at hlast
    exact hsecond id next last (hfirst id session next hstands htreat) hlast
  · rw [followedBy_of_close htreat] at hlast
    cases hlast

theorem leave (stands : Nat → Session → Prop) : Treatment.leave.Preserves stands := by
  rintro id session _ hstands ⟨⟩
  exact hstands

variable {event : Session → Flow × Session}

/-- The event of one client preserves what it does for all. -/
theorem only (hevent : ∀ id session next, stands id session → event session = (.keep, next) →
      stands id next) (id : Nat) : (Treatment.only id event).Preserves stands := by
  intro key session next hstands hnext
  by_cases hkey : key = id
  · rw [Treatment.only, if_pos hkey] at hnext
    exact hevent key session next hstands hnext
  · rw [Treatment.only, if_neg hkey] at hnext
    cases hnext
    exact hstands

/-- Events of several clients preserve what one does. -/
theorem each (hevent : ∀ id session next, stands id session → event session = (.keep, next) →
      stands id next) (ids : List Nat) : (Treatment.each event ids).Preserves stands := by
  induction ids with
  | nil => exact leave stands
  | cons id rest ih =>
    rw [each_cons]
    exact (only hevent id).followedBy ih

theorem expire (stands : Nat → Session → Prop) (now timeout : Nat) :
    (Treatment.expire now timeout).Preserves stands := by
  intro id session next hstands hnext
  by_cases hidle : session.isIdle now timeout
  · rw [Treatment.expire, if_pos hidle] at hnext
    cases hnext
  · rw [Treatment.expire, if_neg hidle] at hnext
    cases hnext
    exact hstands

end Preserves

end Treatment

namespace Server

/-- The outcome of some work is what the treatment makes of every session of the server. The
sessions may have ended in another order. -/
structure Treats (server : Server) (treat : Treatment) (outcome : List Ending × Server) : Prop where
  sessions_eq : outcome.2.sessions = treat.kept server.sessions
  endings_perm : outcome.1.Perm (treat.ended server.sessions)

variable {server : Server}

/-- No number is there twice after some work, if none was before. -/
theorem Treats.nodup {treat : Treatment} {outcome : List Ending × Server}
    (h : server.Treats treat outcome) (hkeys : (server.sessions.map Prod.fst).Nodup) :
    (outcome.2.sessions.map Prod.fst).Nodup := by
  rw [h.sessions_eq]
  exact hkeys.sublist (treat.sublist_keys server.sessions)

/-- Every session that was there goes on or ends. -/
theorem Treats.perm_keys {treat : Treatment} {outcome : List Ending × Server}
    (h : server.Treats treat outcome) :
    (outcome.1.map Ending.id ++ outcome.2.sessions.map Prod.fst).Perm
      (server.sessions.map Prod.fst) := by
  rw [h.sessions_eq]
  exact ((h.endings_perm.map Ending.id).append_right _).trans (treat.perm_keys server.sessions)

/-- Work after other work treats the sessions that the first has left. -/
theorem Treats.followedBy {first second : Treatment} {outcome next : List Ending × Server}
    (h : server.Treats first outcome) (hnext : outcome.2.Treats second next) :
    server.Treats (first.followedBy second) (outcome.1 ++ next.1, next.2) where
  sessions_eq := by
    rw [Treatment.kept_followedBy, ← h.sessions_eq]
    exact hnext.sessions_eq
  endings_perm := by
    have hended := hnext.endings_perm
    rw [h.sessions_eq] at hended
    exact (h.endings_perm.append hended).trans (Treatment.perm_ended_followedBy ..)

/-- A table with a session of this number has others before it and after it. -/
private theorem exists_table_eq {id : Nat} {session : Session}
    (hkeys : (server.sessions.map Prod.fst).Nodup)
    (hlookup : server.sessions.lookup id = some session) :
    ∃ before after, server.sessions = before ++ (id, session) :: after ∧
      id ∉ before.map Prod.fst ∧ id ∉ after.map Prod.fst := by
  obtain ⟨before, after, htable, -⟩ := List.lookup_eq_some_iff.mp hlookup
  rw [htable, List.map_append, List.map_cons, List.nodup_middle, List.nodup_cons] at hkeys
  exact ⟨before, after, htable, fun hmem => hkeys.1 (List.mem_append_left _ hmem),
    fun hmem => hkeys.1 (List.mem_append_right _ hmem)⟩

section Lookup

variable {id : Nat} {table : List (Nat × Session)}

private theorem ne_of_notMem_keys (hid : id ∉ table.map Prod.fst) {entry : Nat × Session}
    (hentry : entry ∈ table) : entry.1 ≠ id := by
  rintro rfl
  exact hid (List.mem_map_of_mem hentry)

private theorem map_update_of_notMem (hid : id ∉ table.map Prod.fst) (session : Session) :
    table.map (fun (key, old) => (key, if key = id then session else old)) = table := by
  refine (List.map_congr_left ?_).trans (List.map_id table)
  intro entry hentry
  dsimp only
  rw [if_neg (ne_of_notMem_keys hid hentry)]
  rfl

private theorem filter_remove_of_notMem (hid : id ∉ table.map Prod.fst) :
    table.filter (fun (key, _) => key != id) = table := by
  apply List.filter_eq_self.mpr
  intro entry hentry
  simpa using ne_of_notMem_keys hid hentry

end Lookup

variable {event : Session → Flow × Session} {id : Nat} {session next : Session}

theorem handle_of_none (hlookup : server.sessions.lookup id = none) :
    server.handle event id = ([], server) := by
  rw [handle, hlookup]

theorem handle_of_keep (hlookup : server.sessions.lookup id = some session)
    (hevent : event session = (.keep, next)) :
    server.handle event id = ([], server.update id next) := by
  rw [handle, hlookup]
  dsimp only
  rw [hevent]

theorem handle_of_close {reason : CloseReason} (hlookup : server.sessions.lookup id = some session)
    (hevent : event session = (.close reason, next)) :
    server.handle event id = ([{ id, reason, session := next }], server.remove id) := by
  rw [handle, hlookup]
  dsimp only
  rw [hevent]

/-- An event of a client happens to its session alone. -/
theorem treats_handle (hkeys : (server.sessions.map Prod.fst).Nodup)
    (event : Session → Flow × Session) (id : Nat) :
    server.Treats (.only id event) (server.handle event id) := by
  rcases hlookup : server.sessions.lookup id with _ | session
  · have hid : id ∉ server.sessions.map Prod.fst := by
      intro hmem
      obtain ⟨entry, hentry, rfl⟩ := List.mem_map.mp hmem
      simpa using List.lookup_eq_none_iff.mp hlookup entry hentry
    rw [handle_of_none hlookup]
    refine ⟨(Treatment.kept_only_of_notMem event hid).symm, ?_⟩
    rw [Treatment.ended_only_of_notMem event hid]
  · -- The entries before and after that of the client stay as they are.
    obtain ⟨before, after, htable, hbefore, hafter⟩ := exists_table_eq hkeys hlookup
    have honly : Treatment.only id event id session = event session := if_pos rfl
    rcases hevent : event session with ⟨_ | reason, next⟩
    · rw [handle_of_keep hlookup hevent]
      refine ⟨?_, ?_⟩
      · unfold update
        rw [htable, Treatment.kept_append, Treatment.kept_cons_of_keep _ (honly.trans hevent),
          Treatment.kept_only_of_notMem event hbefore, Treatment.kept_only_of_notMem event hafter,
          List.map_append, List.map_cons, map_update_of_notMem hbefore, map_update_of_notMem hafter]
        dsimp only
        rw [if_pos rfl]
      · rw [htable, Treatment.ended_append, Treatment.ended_cons_of_keep _ (honly.trans hevent),
          Treatment.ended_only_of_notMem event hbefore, Treatment.ended_only_of_notMem event hafter]
        rfl
    · rw [handle_of_close hlookup hevent]
      refine ⟨?_, ?_⟩
      · unfold remove
        rw [htable, Treatment.kept_append, Treatment.kept_cons_of_close _ (honly.trans hevent),
          Treatment.kept_only_of_notMem event hbefore, Treatment.kept_only_of_notMem event hafter,
          List.filter_append, List.filter_cons_of_neg (by simp), filter_remove_of_notMem hbefore,
          filter_remove_of_notMem hafter]
      · rw [htable, Treatment.ended_append, Treatment.ended_cons_of_close _ (honly.trans hevent),
          Treatment.ended_only_of_notMem event hbefore, Treatment.ended_only_of_notMem event hafter]
        rfl

/-- Events of several clients happen to every session as often as its number is in the list. -/
theorem treats_handleAll (hkeys : (server.sessions.map Prod.fst).Nodup)
    (event : Session → Flow × Session) (ids : List Nat) :
    server.Treats (.each event ids) (server.handleAll event ids) := by
  induction ids generalizing server with
  | nil =>
    rw [Treatment.each_nil]
    refine ⟨(Treatment.kept_leave _).symm, ?_⟩
    rw [Treatment.ended_leave]
    rfl
  | cons id rest ih =>
    have hfirst := treats_handle hkeys event id
    rw [handleAll_cons, Treatment.each_cons]
    exact hfirst.followedBy (ih (hfirst.nodup hkeys))

/-- A sweep ends the sessions that were idle for too long. -/
theorem treats_sweep (server : Server) (now : Nat) :
    server.Treats (.expire now (server.config.keepAliveTimeout * clockRate))
      (server.sweep now) := by
  obtain ⟨hkept, hended⟩ :=
    Treatment.expire_eq now (server.config.keepAliveTimeout * clockRate) server.sessions
  rw [sweep_eq]
  exact ⟨hkept.symm, .of_eq hended.symm⟩

/-- A shutdown ends every session. -/
theorem treats_shutdown (server : Server) :
    server.Treats (.endAll .shutdown) server.shutdown := by
  obtain ⟨hkept, hended⟩ := Treatment.endAll_eq server.sessions .shutdown
  exact ⟨hkept.symm, .of_eq hended.symm⟩

/-- A session that is attended to is read from, then written to and at last looked at, until
something of this ends it. -/
theorem treats_attend (hkeys : (server.sessions.map Prod.fst).Nodup)
    (receive send : Session → Flow × Session) {sweep : Server → List Ending × Server}
    {expire : Treatment} (hsweep : ∀ next, SameRest server next → next.Treats expire (sweep next))
    (ready : Readiness) :
    server.Treats
      (((Treatment.each receive ready.readable).followedBy (.each send ready.writable)).followedBy
        expire)
      (server.attend receive send sweep ready) := by
  -- Each part finds the table that the parts before it have left, with no number in it twice.
  have hread := treats_handleAll hkeys receive ready.readable
  have hwritten := treats_handleAll (hread.nodup hkeys) send ready.writable
  have hrest := (server.sameRest_handleAll receive ready.readable).trans
    (sameRest_handleAll _ send ready.writable)
  exact (hread.followedBy hwritten).followedBy (hsweep _ hrest)

end Server

end MotionJpeg
