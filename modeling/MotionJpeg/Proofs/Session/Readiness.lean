import MotionJpeg.Proofs.Session.Audience

/-!
# When a session wants to write

Before a connection is watched the session is asked whether it wants to write, and the answer is
exact. A session that does not want to write is not changed by an attempt to send; one that does
gets on with it, at the latest at the second attempt.

* `Cursor.hasPending_iff` says when a stream has something to send, told by the history.
* `Session.Progresses` is what an attempt to send may come to if something was moved.
* `Session.send_eq_self` and `Session.send_progresses`: the two halves for one session.
* `Audience.wantsWrite_exact`: both, for every session of every run.
-/

namespace MotionJpeg

namespace Cursor

variable {cursor : Cursor} {store : Store} {payloads : List Bytes}

/-- Something is pending when the frame was overwritten, when some of it is left, or when there is a
newer one. -/
theorem hasPending_iff (h : store.Records payloads) (hwithin : cursor.IsWithin payloads) :
    cursor.hasPending store = true ↔ payloads ≠ [] ∧
      (cursor.sequence + store.capacity < payloads.length ∨
        cursor.offset < (wholePart payloads cursor.sequence).length ∨
        cursor.sequence + 1 < payloads.length) := by
  rw [hasPending, h.newest?_eq]
  by_cases hnil : payloads = []
  · simp [hnil]
  · have hpayload := List.getElem?_eq_getElem (hwithin.sequence_lt hnil)
    rw [if_neg hnil, h.get?_eq hpayload]
    by_cases hwindow : payloads.length ≤ cursor.sequence + store.capacity
    · simp only [if_pos hwindow, Frame.size_eq, wholePart_of_getElem? hpayload, Frame.length_part,
        Bool.or_eq_true, decide_eq_true_eq, ne_eq, hnil, not_false_eq_true, true_and]
      omega
    · simp only [if_neg hwindow, true_iff]
      exact ⟨hnil, Or.inl (Nat.not_le.mp hwindow)⟩

/-- No part is empty, so a cursor at the start of the newest one is not at its end. -/
theorem offset_toNewest_lt (cursor : Cursor) (hne : payloads ≠ []) :
    (cursor.toNewest payloads).offset <
      (wholePart payloads (cursor.toNewest payloads).sequence).length := by
  have hpos := List.length_pos_iff.mpr hne
  have hnewest := List.getElem?_eq_getElem (show payloads.length - 1 < payloads.length by omega)
  rw [toNewest, wholePart_of_getElem? hnewest, Frame.length_part]
  exact Frame.partSize_pos _

/-- A cursor whose frame was overwritten, or is not sent to the end, finds something to send. -/
theorem exists_unsent (h : store.Records payloads) (hwithin : cursor.IsWithin payloads)
    (hne : payloads ≠ []) (hleft : cursor.sequence + store.capacity < payloads.length ∨
      cursor.offset < (wholePart payloads cursor.sequence).length) :
    ∃ bytes, (cursor.caughtUp store).unsent? store = some bytes ∧ bytes.isEmpty = false ∧
      bytes.toBytes = (wholePart payloads (cursor.caughtUp store).sequence).drop
        (cursor.caughtUp store).offset := by
  have hlt := hwithin.sequence_lt hne
  obtain ⟨hlt', hwindow'⟩ := cursor.caughtUp_inWindow h hlt
  obtain ⟨bytes, hbytes, hrest⟩ := (cursor.caughtUp store).unsent?_eq h hlt' hwindow'
  refine ⟨bytes, hbytes, ?_, hrest⟩
  -- Either way the cursor is now before the end of its part.
  have hshort : (cursor.caughtUp store).offset <
      (wholePart payloads (cursor.caughtUp store).sequence).length := by
    rw [cursor.caughtUp_eq h hlt]
    by_cases hwindow : payloads.length ≤ cursor.sequence + store.capacity
    · rw [if_pos hwindow]
      omega
    · rw [if_neg hwindow]
      exact offset_toNewest_lt cursor hne
  rw [Bool.eq_false_iff, ne_eq, bytes.isEmpty_iff, hrest, List.drop_eq_nil_iff]
  omega

end Cursor

/-- Something is left of bytes that were not sent to their end. -/
theorem Slice.isEmpty_drop_of_lt {bytes : Slice} {sent : Nat} (h : sent < bytes.length) :
    (bytes.drop sent).isEmpty = false := by
  rw [Bool.eq_false_iff, ne_eq, isEmpty_iff, toBytes_drop, List.drop_eq_nil_iff, length_toBytes]
  omega

/-- A write that ends so takes at least one byte, if it is offered any. -/
def WriteOutcome.TakesSome : WriteOutcome → Prop
  | all => True
  | upTo limit => 0 < limit
  | failure _ => False

instance : DecidablePred WriteOutcome.TakesSome
  | .all => isTrue trivial
  | .upTo limit => inferInstanceAs (Decidable (0 < limit))
  | .failure _ => isFalse not_false

namespace Transport

/-- Every write takes at least one byte. -/
def AcceptsSome (transport : Transport) : Prop :=
  ∀ outcome ∈ transport.usualOutcome :: transport.outcomes, outcome.TakesSome

instance : DecidablePred AcceptsSome := fun _ => inferInstanceAs (Decidable (∀ _ ∈ _, _))

variable {transport : Transport}

/-- A flush does not change how writes end. -/
theorem AcceptsSome.flush (h : transport.AcceptsSome) : transport.flush.2.AcceptsSome := by
  rw [transport.flush_eq]
  exact h

/-- A flush that goes through leaves the connection as it is. -/
theorem flush_of_ok (h : transport.flush.1 = .ok ()) : transport.flush.2 = transport := by
  rw [Transport.flush] at h ⊢
  cases herrors : transport.flushErrors with
  | nil => rfl
  | cons error rest =>
    rw [herrors] at h
    cases h

/-- A write takes at least one byte, if it is offered any. -/
theorem AcceptsSome.exists_write_eq_ok (h : transport.AcceptsSome) {bytes : Slice}
    (hbytes : bytes.isEmpty = false) :
    ∃ count, (transport.write bytes).1 = .ok count ∧ 0 < count := by
  have hpos : 0 < bytes.length := by
    rw [Slice.isEmpty, beq_eq_false_iff_ne] at hbytes
    exact Nat.pos_of_ne_zero hbytes
  have hmem : transport.nextOutcome.1 ∈ transport.usualOutcome :: transport.outcomes := by
    rw [nextOutcome]
    cases transport.outcomes with
    | nil => exact List.mem_cons_self
    | cons outcome rest => exact List.mem_cons_of_mem _ List.mem_cons_self
  have htakes := h _ hmem
  rw [Transport.write]
  generalize transport.nextOutcome = attempt at htakes
  obtain ⟨outcome, next⟩ := attempt
  cases outcome with
  | all => exact ⟨_, rfl, hpos⟩
  | upTo limit => exact ⟨_, rfl, Nat.lt_min.mpr ⟨htakes, hpos⟩⟩
  | failure error => exact False.elim htakes

end Transport

namespace Session

/-- An attempt to send has moved something: bytes were sent, or the session is over, or it waits for
another request. -/
def Progresses (session : Session) (result : Flow × Session) : Prop :=
  session.transport.sent.length < result.2.transport.sent.length ∨
    result.1 ≠ .keep ∧ result.2.phase = .closed ∨ result.2.phase = .awaitingHeaders

instance (session : Session) (result : Flow × Session) : Decidable (session.Progresses result) :=
  inferInstanceAs (Decidable (_ ∨ _))

variable {session : Session} {sources : Registry} {history : Nat → List Bytes}

/-- A failure is the end of a session. -/
theorem progresses_fail (session other : Session) : session.Progresses other.fail :=
  Or.inr (Or.inl ⟨Flow.noConfusion, rfl⟩)

/-- An answer that is complete is the end of a session. -/
theorem progresses_finish (session other : Session) : session.Progresses other.finish :=
  Or.inr (Or.inl ⟨Flow.noConfusion, rfl⟩)

/-- The connection has taken more bytes than before. -/
theorem progresses_of_sent {result : Flow × Session} {bytes : Bytes} (hbytes : 0 < bytes.length)
    (hsent : result.2.transport.sent = session.transport.sent ++ bytes) :
    session.Progresses result := by
  refine Or.inl ?_
  rw [hsent, List.length_append]
  omega

/-- What counts is what the peer was given before. -/
theorem Progresses.congr {other : Session} {result : Flow × Session}
    (h : session.Progresses result) (hsent : session.transport.sent = other.transport.sent) :
    other.Progresses result := by
  rwa [Progresses, ← hsent]

section Moves

variable (now : Nat)

/-- What is offered is sent in part at least. -/
theorem offer_of_acceptsSome (h : session.transport.AcceptsSome) {bytes : Slice}
    (hbytes : bytes.isEmpty = false) : ∃ count transport, 0 < count ∧ count ≤ bytes.length ∧
      transport.sent = session.transport.sent ++ bytes.toBytes.take count ∧
      session.offer now bytes = (some count, session.afterWrite now transport count) := by
  obtain ⟨taken, htaken, hpos⟩ := h.exists_write_eq_ok hbytes
  rcases session.transport.write_cases bytes with
    ⟨error, transport, hwrite, -⟩ | ⟨count, transport, hwrite, hle, hsent⟩
  · rw [hwrite] at htaken
    cases htaken
  · rw [hwrite] at htaken
    obtain rfl : count = taken := Except.ok.inj htaken
    exact ⟨count, transport, hpos, hle, hsent, by simp [offer, hwrite, afterWrite, hpos.ne']⟩

/-- To send the front of an offer moves something. -/
theorem progresses_of_offer {count : Nat} {bytes : Slice} (hpos : 0 < count)
    (hle : count ≤ bytes.length) {result : Flow × Session} (later : Bytes)
    (hsent : result.2.transport.sent = session.transport.sent ++ bytes.toBytes.take count ++ later) :
    session.Progresses result := by
  rw [List.append_assoc] at hsent
  refine progresses_of_sent ?_ hsent
  rw [List.length_append, List.length_take, Slice.length_toBytes]
  omega

/-- A stream that finds something sends some of it. -/
theorem sendFrames_progresses (h : session.transport.AcceptsSome) {cursor : Cursor} {store : Store}
    (hcursor : session.cursor = some cursor) (hstore : sources.get? cursor.source = some store)
    {bytes : Slice} (hfound : (cursor.caughtUp store).unsent? store = some bytes)
    (hbytes : bytes.isEmpty = false) : session.Progresses (session.sendFrames now sources) := by
  obtain ⟨count, transport, hpos, hle, hsent, hoffer⟩ := offer_of_acceptsSome now h hbytes
  refine progresses_of_offer hpos hle [] ?_
  rw [sendFrames, hcursor]
  simp only [hstore, hfound, hbytes, Bool.false_eq_true, if_false, hoffer, List.append_nil]
  exact hsent

/-- As long as nothing was stored a stream waits. -/
theorem sendFrames_of_nil {cursor : Cursor} {store : Store} (hcursor : session.cursor = some cursor)
    (hstore : sources.get? cursor.source = some store) (hrecords : store.Records []) :
    session.sendFrames now sources = (.keep, session) := by
  rw [sendFrames, hcursor]
  simp only [hstore, cursor.caughtUp_of_nil hrecords, cursor.unsent?_of_nil hrecords, ← hcursor]

/-- At the end of a frame a stream sends nothing and goes to the newest frame, if that is
another. -/
theorem sendFrames_of_end {cursor : Cursor} {store : Store} {payloads : List Bytes}
    (hcursor : session.cursor = some cursor) (hstore : sources.get? cursor.source = some store)
    (hrecords : store.Records payloads) (hlt : cursor.sequence < payloads.length)
    (hwindow : payloads.length ≤ cursor.sequence + store.capacity)
    (hend : cursor.offset = (wholePart payloads cursor.sequence).length) :
    session.sendFrames now sources = (.keep,
      { session with
        cursor := some (if cursor.sequence + 1 < payloads.length then cursor.toNewest payloads
          else cursor) }) := by
  have hstays : cursor.caughtUp store = cursor := by
    rw [cursor.caughtUp_eq hrecords hlt, if_pos hwindow]
  obtain ⟨bytes, hfound, hrest⟩ := cursor.unsent?_eq hrecords hlt hwindow
  -- Nothing is left of the part, so the connection is not asked.
  have hempty : bytes.isEmpty = true := by
    rw [bytes.isEmpty_iff, hrest, hend, List.drop_length]
  have hnothing : cursor.offset + 0 ≤ (wholePart payloads cursor.sequence).length := by omega
  have hadvance := cursor.advance_eq hrecords hlt hwindow hnothing
  simp only [Nat.add_zero, hend, Nat.lt_irrefl, and_false, decide_false, true_and] at hadvance
  rw [sendFrames, hcursor]
  simp only [hstore, hstays, hfound, hempty, if_true, hadvance]
  simp only [← hend]
  rfl

/-- A still sends some of its image, or it is over. -/
theorem sendStill_progresses (h : session.transport.AcceptsSome) {cursor : Cursor} {store : Store}
    (hcursor : session.cursor = some cursor) (hstore : sources.get? cursor.source = some store) :
    session.Progresses (session.sendStill now sources) := by
  rcases session.sendStill_cases now sources hcursor hstore with
    ⟨-, hresult⟩ | ⟨bytes, hfound, ⟨-, hresult⟩ | ⟨hbytes, -⟩⟩
  · rw [hresult]
    exact Or.inr (Or.inl ⟨Flow.noConfusion, rfl⟩)
  · rw [hresult]
    exact progresses_finish session session
  · obtain ⟨count, transport, hpos, hle, hsent, hoffer⟩ := offer_of_acceptsSome now h hbytes
    refine progresses_of_offer hpos hle [] ?_
    rw [sendStill, hcursor]
    simp only [Option.bind_some, hstore, hfound, Option.map_some, hbytes, Bool.false_eq_true,
      if_false, hoffer, List.append_nil]
    split <;> exact hsent

variable (files : FileSystem)

/-- A file is sent in part, or it is at its end, or it cannot be read. -/
theorem sendFile_progresses (h : session.transport.AcceptsSome) {file : OpenFile}
    (hfile : session.file = some file) : session.Progresses (session.sendFile now files) := by
  rw [sendFile, hfile]
  cases hread : files.readSome session.chunkSize file with
  | error fault => simpa only [hread] using progresses_fail session session
  | ok bytes =>
    simp only [hread]
    cases hbytes : bytes.isEmpty with
    | true => exact Or.inr (Or.inr rfl)
    | false =>
      obtain ⟨count, transport, hpos, hle, hsent, hoffer⟩ := offer_of_acceptsSome now h hbytes
      refine progresses_of_offer hpos hle [] ?_
      simp only [Bool.false_eq_true, if_false, hoffer, List.append_nil]
      exact hsent

/-- What follows the head of an answer moves on, unless it is a stream that waits. -/
theorem sendBody_progresses (h : session.transport.AcceptsSome) (hsound : session.Sound sources)
    {kind : RouteKind} (hphase : session.phase = .draining kind) (hkind : kind ≠ .stream) :
    session.Progresses (session.sendBody now files sources kind) := by
  cases kind with
  | badRequest | authRequired | notFound | streamInfo => exact progresses_finish session session
  | still =>
    obtain ⟨cursor, store, hcursor, hstore, -⟩ := hsound.exists_store (by simp [hphase])
    exact sendStill_progresses now h hcursor hstore
  | staticFile =>
    obtain ⟨file, hfile⟩ := hsound.exists_file hphase
    exact sendFile_progresses now files h hfile
  | stream => exact absurd rfl hkind

variable (hplaced : session.Placed sources history) (hmemory : sources.Remembers history)

include hplaced hmemory

/-- An answer always moves on. -/
theorem sendAnswer_progresses (h : session.transport.AcceptsSome) (hsound : session.Sound sources)
    {kind : RouteKind} (hphase : session.phase = .draining kind) :
    session.Progresses (session.sendAnswer now files sources kind) := by
  by_cases hleft : session.responseSent < session.response.length
  · obtain ⟨count, transport, hpos, hle, hsent, hoffer⟩ :=
      offer_of_acceptsSome now h (Slice.isEmpty_drop_of_lt hleft)
    rw [sendAnswer, if_pos hleft, hoffer]
    dsimp only
    split
    · exact progresses_of_offer hpos hle [] (by rwa [List.append_nil])
    · -- What follows in the same event only adds to what was sent.
      have hcount : session.responseSent + count ≤ session.response.length := by
        rw [← Slice.length_toBytes, Slice.toBytes_drop, List.length_drop, Slice.length_toBytes]
          at hle
        omega
      obtain ⟨body, hbody⟩ :=
        hplaced.sendBody_afterHead now files hmemory hsound hphase transport hcount
      refine progresses_of_offer hpos hle body (hbody.sent_eq.trans ?_)
      rw [List.nil_append, ← hsent]
      rfl
  · -- The phase of a stream has changed before, together with the last byte of the head.
    have hkind : kind ≠ .stream := by
      rintro rfl
      exact hleft (hplaced.responseSent_lt hphase)
    rw [sendAnswer, if_neg hleft]
    exact sendBody_progresses now files h hsound hphase hkind

/-- A stream with something pending sends some of it, or goes to the start of a newer frame. -/
theorem sendFrames_cases_of_hasPending (h : session.transport.AcceptsSome) {cursor : Cursor}
    {store : Store} (hcursor : session.cursor = some cursor)
    (hstore : sources.get? cursor.source = some store) (hpending : cursor.hasPending store = true) :
    session.Progresses (session.sendFrames now sources) ∨
      history cursor.source ≠ [] ∧ session.sendFrames now sources =
        (.keep, { session with cursor := some (cursor.toNewest (history cursor.source)) }) := by
  have hrecords := hmemory _ _ hstore
  have hwithin := hplaced.isWithin cursor hcursor
  obtain ⟨hne, hwhy⟩ := (Cursor.hasPending_iff hrecords hwithin).mp hpending
  by_cases hleft : cursor.sequence + store.capacity < (history cursor.source).length ∨
      cursor.offset < (wholePart (history cursor.source) cursor.sequence).length
  · obtain ⟨bytes, hfound, hbytes, -⟩ := Cursor.exists_unsent hrecords hwithin hne hleft
    exact Or.inl (sendFrames_progresses now h hcursor hstore hfound hbytes)
  · have hend := hwithin.offset_le
    refine Or.inr ⟨hne, ?_⟩
    rw [sendFrames_of_end now hcursor hstore hrecords (hwithin.sequence_lt hne) (by omega)
      (by omega), if_pos (by omega)]

end Moves

section Send

variable (now : Nat) (files : FileSystem)

/-- An attempt to send moves on if its phase does, whatever the flush before it comes to. -/
theorem send_progresses_of_sendPhase
    (h : Session.Progresses { session with transport := session.transport.flush.2 }
      ({ session with transport := session.transport.flush.2 }.sendPhase now files sources)) :
    session.Progresses (session.send now files sources) := by
  by_cases hfails : Transport.FailsHard session.transport.flush.1
  · rw [session.send_eq_fail now files sources hfails]
    exact progresses_fail session _
  · rw [session.send_eq_sendPhase now files sources hfails]
    exact h.congr session.transport.sent_flush

/-- A session that does not want to write is not changed by an attempt to send. -/
theorem send_eq_self (hplaced : session.Placed sources history)
    (hmemory : sources.Remembers history) (hsound : session.Sound sources)
    (hwants : session.wantsWrite sources = false) (hflush : session.transport.flush.1 = .ok ()) :
    session.send now files sources =
      (if session.phase = .closed then .close .responseComplete else .keep, session) := by
  have hstands : ¬ Transport.FailsHard session.transport.flush.1 := by
    rw [hflush]
    exact Transport.not_failsHard_ok ()
  have hsend : session.send now files sources = session.sendPhase now files sources := by
    rw [session.send_eq_sendPhase now files sources hstands, Transport.flush_of_ok hflush]
  rw [hsend]
  cases hphase : session.phase with
  | awaitingHeaders => exact session.sendPhase_of_awaitingHeaders now files sources hphase
  | draining kind =>
    rw [wantsWrite, hphase] at hwants
    cases hwants
  | closed => exact session.sendPhase_of_closed now files sources hphase
  | streaming =>
    obtain ⟨cursor, store, hcursor, hstore, -⟩ := hsound.exists_store (by simp [hphase])
    have hrecords := hmemory _ _ hstore
    have hwithin := hplaced.isWithin cursor hcursor
    rw [wantsWrite, hphase, hcursor] at hwants
    simp only [hstore, Option.any_some] at hwants
    rw [Bool.eq_false_iff, ne_eq, Cursor.hasPending_iff hrecords hwithin] at hwants
    rw [session.sendPhase_of_streaming now files sources hphase]
    by_cases hnil : history cursor.source = []
    · -- The stream still waits for its first frame.
      rw [hnil] at hrecords
      rw [sendFrames_of_nil now hcursor hstore hrecords]
      rfl
    · -- The stream is at the end of the newest frame.
      have hquiet := not_and.mp hwants hnil
      have hend := hwithin.offset_le
      rw [sendFrames_of_end now hcursor hstore hrecords (hwithin.sequence_lt hnil) (by omega)
        (by omega), if_neg (by omega), ← hcursor]
      rfl

variable (hplaced : session.Placed sources history) (hmemory : sources.Remembers history)
  (hsound : session.Sound sources) (haccepts : session.transport.AcceptsSome)

include hplaced hmemory hsound haccepts

/-- A session that has not sent its answer moves on at every attempt to send. -/
theorem send_progresses_of_draining {kind : RouteKind} (hphase : session.phase = .draining kind) :
    session.Progresses (session.send now files sources) := by
  have hflushed : Session.Placed { session with transport := session.transport.flush.2 } sources
      history := hplaced.congr rfl rfl rfl hplaced.responseSent_lt
  refine send_progresses_of_sendPhase now files ?_
  rw [sendPhase_of_draining _ now files sources (by exact hphase)]
  exact sendAnswer_progresses now files hflushed hmemory haccepts.flush
    (hsound.onTransport session.transport.flush.2) hphase

/-- A session that wants to write moves on at the first or at the second attempt to send. -/
theorem send_progresses (hwants : session.wantsWrite sources = true) (later : Nat)
    (laterFiles : FileSystem) :
    session.Progresses (session.send now files sources) ∨
      (session.send now files sources).2.Progresses
        ((session.send now files sources).2.send later laterFiles sources) := by
  have hflushed : Session.Placed { session with transport := session.transport.flush.2 } sources
      history := hplaced.congr rfl rfl rfl hplaced.responseSent_lt
  cases hphase : session.phase with
  | awaitingHeaders | closed =>
    rw [wantsWrite, hphase] at hwants
    cases hwants
  | draining kind =>
    exact Or.inl
      (send_progresses_of_draining now files hplaced hmemory hsound haccepts hphase)
  | streaming =>
    obtain ⟨cursor, store, hcursor, hstore, -⟩ := hsound.exists_store (by simp [hphase])
    have hrecords := hmemory _ _ hstore
    rw [wantsWrite, hphase, hcursor] at hwants
    simp only [hstore, Option.any_some] at hwants
    rcases sendFrames_cases_of_hasPending now hflushed hmemory haccepts.flush hcursor hstore
      hwants with hmoves | ⟨hne, hgoes⟩
    · refine Or.inl (send_progresses_of_sendPhase now files ?_)
      rwa [sendPhase_of_streaming _ now files sources (by exact hphase)]
    · by_cases hfails : Transport.FailsHard session.transport.flush.1
      · rw [session.send_eq_fail now files sources hfails]
        exact Or.inl (progresses_fail session _)
      · -- The cursor is at the start of the newest frame, which the second attempt sends some of.
        refine Or.inr ?_
        rw [session.send_eq_sendPhase now files sources hfails,
          sendPhase_of_streaming _ now files sources (by exact hphase), hgoes]
        refine send_progresses_of_sendPhase later laterFiles ?_
        rw [sendPhase_of_streaming _ later laterFiles sources (by exact hphase)]
        have hwithin := Cursor.IsWithin.toNewest cursor hne
        obtain ⟨bytes, hfound, hbytes, -⟩ := Cursor.exists_unsent hrecords hwithin hne
          (Or.inr (Cursor.offset_toNewest_lt cursor hne))
        exact sendFrames_progresses later haccepts.flush.flush rfl hstore hfound hbytes

end Send

end Session

namespace Audience

/-- Along every run of any number of sessions that share their stores: a session that does not want
to write is the same after an attempt to send that could flush, and nothing was sent. One that
does, and whose connection takes at least a byte of every write, has sent something, is over, or
waits for a request after two attempts at most. -/
theorem wantsWrite_exact (sizes : List (Nat × Nat)) (width height : Nat) (events : List Event)
    {session : Session}
    (hmem : session ∈ ((opened sizes width height).run events).sessions) :
    let sources := ((opened sizes width height).run events).sources
    (session.wantsWrite sources = false → session.transport.flush.1 = .ok () → ∀ now files,
      session.send now files sources =
        (if session.phase = .closed then .close .responseComplete else .keep, session)) ∧
    (session.wantsWrite sources = true → session.transport.AcceptsSome →
      ∀ now files later laterFiles,
        session.Progresses (session.send now files sources) ∨
          (session.send now files sources).2.Progresses
            ((session.send now files sources).2.send later laterFiles sources)) := by
  intro sources
  have hrun := InPlace.run sizes width height events
  have hplaced := hrun.placed session hmem
  have hsound := hrun.sound session hmem
  refine ⟨fun hwants hflush now files => ?_, fun hwants haccepts now files later laterFiles => ?_⟩
  · exact Session.send_eq_self now files hplaced hrun.remembers hsound hwants hflush
  · exact Session.send_progresses now files hplaced hrun.remembers hsound haccepts hwants later
      laterFiles

section TwoStreams

/-- One stream has sent a frame to its end when the next one comes; another still waits for the first
frame of its source. -/
def twoStreamsEvents : List Event := [
  .join 1 (.v4 .loopback 5000) {} 4096 16384 0, .begin 0 {} (.stream 0),
  .join 2 (.v4 .loopback 5001) {} 4096 16384 0, .begin 1 {} (.stream 1),
  .meet 0 (.push ⟨0, [1]⟩), .meet 0 (.send 1 {}), .meet 1 (.send 1 {}), .meet 0 (.push ⟨0, [2]⟩)]

/-- The first stream sends something at the second attempt only, and the other one has nothing to
send. -/
theorem wantsWrite_exact_twoStreams :
    let audience := (opened [(2, 4), (2, 4)] 640 480).run twoStreamsEvents
    let sources := audience.sources
    (∃ session ∈ audience.sessions,
      (session.wantsWrite sources = true ∧ session.transport.AcceptsSome) ∧
      ¬ session.Progresses (session.send 2 {} sources) ∧
      (session.send 2 {} sources).2.Progresses
        ((session.send 2 {} sources).2.send 3 {} sources)) ∧
    ∃ session ∈ audience.sessions,
      (session.wantsWrite sources = false ∧ session.transport.flush.1 = .ok ()) ∧
      session.phase = .streaming ∧ ∀ now files, session.send now files sources = (.keep, session) := by
  intro audience sources
  obtain ⟨parked, hparked, hwants, haccepts, hrests⟩ : ∃ session ∈ audience.sessions[0]?,
      session.wantsWrite sources = true ∧ session.transport.AcceptsSome ∧
        ¬ session.Progresses (session.send 2 {} sources) := by decide +kernel
  obtain ⟨waiting, hwaiting, hidle, hflush, hphase⟩ : ∃ session ∈ audience.sessions[1]?,
      session.wantsWrite sources = false ∧ session.transport.flush.1 = .ok () ∧
        session.phase = .streaming := by decide +kernel
  have hmem := List.mem_of_getElem? hparked
  have hmem' := List.mem_of_getElem? hwaiting
  refine ⟨⟨parked, hmem, ⟨hwants, haccepts⟩, hrests, ?_⟩,
    waiting, hmem', ⟨hidle, hflush⟩, hphase, fun now files => ?_⟩
  · have hexact := wantsWrite_exact [(2, 4), (2, 4)] 640 480 twoStreamsEvents hmem
    exact (hexact.2 hwants haccepts 2 {} 3 {}).resolve_left hrests
  · have hexact := wantsWrite_exact [(2, 4), (2, 4)] 640 480 twoStreamsEvents hmem'
    have hsend := hexact.1 hidle hflush now files
    rwa [hphase] at hsend

end TwoStreams

end Audience

end MotionJpeg
