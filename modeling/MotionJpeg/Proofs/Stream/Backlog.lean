import MotionJpeg.Proofs.Session.Cooperation

/-!
# What a stream has left to send

When nothing more is stored, a stream sends the rest of its frame and then the newest one, and has
nothing to do after that. The number of attempts that it takes is bounded by the bytes that are
left and by the one time that the cursor goes from frame to frame.

* `Cursor.backlog` is the bound.
* `Cursor.backlog_caughtUp_le`, `Cursor.backlog_advance_lt` and `Cursor.backlog_toNewest_lt`: what
  brings a cursor on.
* `Session.Follows` is a session that sends a stream, `Session.Follows.send` is what an attempt to
  send comes to.
* `Session.Follows.rests`: where a stream is when it has nothing to do.
-/

namespace MotionJpeg

/-- How many bytes a stream sends for a sequence, none if its frame is not there. -/
def Store.sentSize (store : Store) (sequence : Nat) : Nat :=
  ((store.get? sequence).map Frame.size).getD 0

namespace Cursor

/-- The rest of the frame of a cursor and, if there is a newer one, the way to the newest frame and
all of that. -/
def backlog (cursor : Cursor) (store : Store) : Nat :=
  store.sentSize cursor.sequence - cursor.offset +
    match store.newest? with
    | some newest => if cursor.sequence < newest then store.sentSize newest + 1 else 0
    | none => 0

/-- No more is left than the frame of a cursor, the newest one and the way between them. -/
theorem backlog_le (cursor : Cursor) (store : Store) : cursor.backlog store ≤
    store.sentSize cursor.sequence + (store.newest?.map store.sentSize).getD 0 + 1 := by
  rw [backlog]
  cases store.newest? with
  | none => exact Nat.le_trans (Nat.sub_le _ _) (Nat.le_add_right _ _)
  | some newest =>
    dsimp only [Option.map_some, Option.getD_some]
    split <;> omega

variable {cursor : Cursor} {store : Store} {payloads : List Bytes}
  (h : store.Records payloads) (hlt : cursor.sequence < payloads.length)

include h

/-- For a frame that was not overwritten a stream sends its part. -/
theorem sentSize_eq {sequence : Nat} (hlt : sequence < payloads.length) :
    store.sentSize sequence =
      if payloads.length ≤ sequence + store.capacity then (wholePart payloads sequence).length
      else 0 := by
  have hpayload := List.getElem?_eq_getElem hlt
  rw [Store.sentSize, h.get?_eq hpayload, wholePart_of_getElem? hpayload, Frame.length_part]
  split
  · rw [Option.map_some, Option.getD_some, Frame.size_eq]
  · rfl

include hlt

/-- What is left, told by the history. -/
theorem backlog_eq : cursor.backlog store =
    (if payloads.length ≤ cursor.sequence + store.capacity then
      (wholePart payloads cursor.sequence).length else 0) - cursor.offset +
    if cursor.sequence + 1 < payloads.length then
      (wholePart payloads (payloads.length - 1)).length + 1 else 0 := by
  have hne : payloads ≠ [] := List.ne_nil_of_length_pos (by omega)
  have hpos := store.capacity_pos
  have hnewest : store.sentSize (payloads.length - 1) =
      (wholePart payloads (payloads.length - 1)).length := by
    rw [sentSize_eq h (by omega), if_pos (by omega)]
  have hnewer : cursor.sequence < payloads.length - 1 ↔ cursor.sequence + 1 < payloads.length := by
    omega
  rw [backlog, sentSize_eq h hlt, h.newest?_eq, if_neg hne]
  simp only [hnewer, hnewest]

/-- At the start of the newest frame all of that is left. -/
theorem backlog_toNewest : (cursor.toNewest payloads).backlog store =
    (wholePart payloads (payloads.length - 1)).length := by
  have hpos := store.capacity_pos
  have hsequence : (cursor.toNewest payloads).sequence = payloads.length - 1 := rfl
  have hoffset : (cursor.toNewest payloads).offset = 0 := rfl
  rw [backlog_eq h (by omega), hsequence, hoffset, if_pos (by omega), if_neg (by omega)]
  rfl

/-- To go to the newest frame is to get on. -/
theorem backlog_toNewest_lt (hnewer : cursor.sequence + 1 < payloads.length) :
    (cursor.toNewest payloads).backlog store < cursor.backlog store := by
  rw [backlog_toNewest h hlt, backlog_eq h hlt, if_pos hnewer]
  omega

/-- To catch up is not to fall back. -/
theorem backlog_caughtUp_le : (cursor.caughtUp store).backlog store ≤ cursor.backlog store := by
  have hpos := store.capacity_pos
  rw [cursor.caughtUp_eq h hlt]
  split
  · exact Nat.le_refl _
  · exact Nat.le_of_lt (backlog_toNewest_lt h hlt (by omega))

/-- To send some bytes is to get on. -/
theorem backlog_advance_lt (hwindow : payloads.length ≤ cursor.sequence + store.capacity)
    {written : Nat} (hpos : 0 < written)
    (hwritten : cursor.offset + written ≤ (wholePart payloads cursor.sequence).length) :
    (cursor.advance store written).2.backlog store < cursor.backlog store := by
  rw [cursor.advance_eq h hlt hwindow hwritten]
  dsimp only
  split
  -- With the last byte of its frame the cursor may leave for the newest one at once.
  next hleaves => exact backlog_toNewest_lt h hlt hleaves.2
  next =>
    have hmoved : Cursor.backlog { cursor with offset := cursor.offset + written } store = _ :=
      backlog_eq h hlt
    rw [hmoved, backlog_eq h hlt, if_pos hwindow]
    dsimp only
    omega

/-- What a cursor has sent of its frame is still what was sent last when it has caught up. -/
theorem segment_caughtUp_suffix {sent : Bytes} (hsent : (cursor.segment payloads).sent <:+ sent) :
    ((cursor.caughtUp store).segment payloads).sent <:+ sent := by
  rw [cursor.caughtUp_eq h hlt]
  split
  · exact hsent
  · exact List.nil_suffix

/-- What a cursor has sent of its frame is what was sent last when it has sent some more. -/
theorem segment_advance_suffix (hwindow : payloads.length ≤ cursor.sequence + store.capacity)
    {sent : Bytes} (hsent : (cursor.segment payloads).sent <:+ sent) {written : Nat}
    (hwritten : cursor.offset + written ≤ (wholePart payloads cursor.sequence).length) :
    ((cursor.advance store written).2.segment payloads).sent <:+
      sent ++ ((wholePart payloads cursor.sequence).drop cursor.offset).take written := by
  rw [cursor.advance_eq h hlt hwindow hwritten]
  dsimp only
  split
  · exact List.nil_suffix
  · rw [segment, List.take_add]
    exact List.suffix_append_self_iff.mpr hsent

omit hlt in
/-- A cursor with nothing pending is at the end of the newest frame, if there is one. -/
theorem eq_of_not_hasPending (hwithin : cursor.IsWithin payloads) (hne : payloads ≠ [])
    (hnothing : cursor.hasPending store = false) :
    cursor = ⟨cursor.source, payloads.length - 1,
      (wholePart payloads (payloads.length - 1)).length⟩ := by
  have hquiet := mt (hasPending_iff h hwithin).mpr (by simp [hnothing])
  have hnewest := not_and.mp hquiet hne
  have hlt := hwithin.sequence_lt hne
  have hend := hwithin.offset_le
  have hsequence : cursor.sequence = payloads.length - 1 := by omega
  have hoffset : cursor.offset = (wholePart payloads cursor.sequence).length := by omega
  rw [← hsequence, ← hoffset]

end Cursor

namespace Session

/-- The session sends a stream over a connection that takes something, and its cursor is here in a
store with this history. What it has sent of the frame was sent last. -/
structure Follows (session : Session) (payloads : List Bytes) (cursor : Cursor) : Prop where
  cooperates : session.transport.Cooperates
  /-- Nothing is sent of a frame before the head is out. -/
  phase : (session.phase = .draining .stream ∧ session.responseSent < session.response.length ∧
    cursor.offset = 0) ∨ session.phase = .streaming
  cursor_eq : session.cursor = some cursor
  isWithin : cursor.IsWithin payloads
  segment_suffix : (cursor.segment payloads).sent <:+ session.transport.sent

/-- How many bytes of the head are left. -/
def headLeft (session : Session) : Nat := session.response.length - session.responseSent

/-- The session goes on with its stream. It has less to do than before if it wants to go on at
once. -/
structure GetsOn (session : Session) (sources : Registry) (store : Store) (payloads : List Bytes)
    (cursor next : Cursor) (result : Flow × Session) : Prop where
  flow_eq : result.1 = .keep
  follows : result.2.Follows payloads next
  source_eq : next.source = cursor.source
  less : result.2.wantsWrite sources = true →
    result.2.headLeft + next.backlog store < session.headLeft + cursor.backlog store

/-- What is less than was left of a head is less than was left of a longer one. -/
theorem GetsOn.of_headLeft_le {session other : Session} {sources : Registry} {store : Store}
    {payloads : List Bytes} {cursor next : Cursor} {result : Flow × Session}
    (h : session.GetsOn sources store payloads cursor next result)
    (hle : session.headLeft ≤ other.headLeft) :
    other.GetsOn sources store payloads cursor next result :=
  { h with less := fun hwants => Nat.lt_of_lt_of_le (h.less hwants) (Nat.add_le_add_right hle _) }

/-- A session that has begun an answer wants to write. -/
theorem wantsWrite_of_draining {session : Session} {kind : RouteKind}
    (hphase : session.phase = .draining kind) (sources : Registry) :
    session.wantsWrite sources = true := by
  rw [wantsWrite, hphase]

/-- A session that streams wants to write exactly if something is pending for its cursor. -/
theorem wantsWrite_of_streaming {session : Session} {sources : Registry} {store : Store}
    {cursor : Cursor} (hphase : session.phase = .streaming) (hcursor : session.cursor = some cursor)
    (hstore : sources.get? cursor.source = some store) :
    session.wantsWrite sources = cursor.hasPending store := by
  rw [wantsWrite, hphase, hcursor]
  simp only [hstore, Option.any_some]

namespace Follows

variable {session : Session} {sources : Registry} {store : Store} {payloads : List Bytes}
  {cursor : Cursor}

variable (h : session.Follows payloads cursor)
  (hstore : sources.get? cursor.source = some store) (hrecords : store.Records payloads)

include h hstore hrecords

/-- A stream that does not want to write has sent its head, and it has sent the newest frame last
if there is one. -/
theorem rests (hquiet : session.wantsWrite sources = false) :
    session.phase = .streaming ∧ ∀ newest, store.newest? = some newest → ∃ frame,
      store.get? newest = some frame ∧ cursor = ⟨cursor.source, newest, frame.size⟩ ∧
        frame.part.toBytes <:+ session.transport.sent := by
  have hphase : session.phase = .streaming := by
    rcases h.phase with ⟨hdraining, -⟩ | hstreaming
    · cases hquiet.symm.trans (wantsWrite_of_draining hdraining sources)
    · exact hstreaming
  refine ⟨hphase, fun newest hnewest => ?_⟩
  have hne : payloads ≠ [] := by
    rintro rfl
    rw [hrecords.newest?_eq] at hnewest
    cases hnewest
  have hlt := Nat.sub_lt (List.length_pos_iff.mpr hne) Nat.one_pos
  rw [hrecords.newest?_eq, if_neg hne, Option.some.injEq] at hnewest
  subst hnewest
  rw [wantsWrite_of_streaming hphase h.cursor_eq hstore] at hquiet
  have hplace := Cursor.eq_of_not_hasPending hrecords h.isWithin hne hquiet
  have hpayload := List.getElem?_eq_getElem hlt
  have hframe := hrecords.get?_eq hpayload
  have hpos := store.capacity_pos
  rw [if_pos (by omega)] at hframe
  refine ⟨_, hframe, ?_, ?_⟩
  · rwa [Frame.size_eq, ← Frame.length_part, ← wholePart_of_getElem? hpayload]
  · have hsent := h.segment_suffix
    rw [hplace, Cursor.segment, List.take_length, wholePart_of_getElem? hpayload] at hsent
    rwa [Frame.toBytes_part]

variable (now : Nat)

/-- A stream that has sent its head gets on with the frames, or rests. -/
theorem sendFrames (hphase : session.phase = .streaming) : ∃ next,
    session.GetsOn sources store payloads cursor next (session.sendFrames now sources) := by
  by_cases hnil : payloads = []
  · -- The stream still waits for its first frame.
    rw [sendFrames_of_nil now h.cursor_eq hstore (hnil ▸ hrecords)]
    refine ⟨cursor, rfl, h, rfl, fun hwants => ?_⟩
    rw [wantsWrite_of_streaming hphase h.cursor_eq hstore,
      Cursor.hasPending_iff hrecords h.isWithin] at hwants
    exact absurd hnil hwants.1
  have hlt := h.isWithin.sequence_lt hnil
  by_cases hleft : cursor.sequence + store.capacity < payloads.length ∨
      cursor.offset < (wholePart payloads cursor.sequence).length
  · -- Something is sent, and the cursor moves along its frame or goes to the newest one.
    obtain ⟨bytes, hfound, hbytes, hrest⟩ :=
      Cursor.exists_unsent hrecords h.isWithin hnil hleft
    obtain ⟨count, transport, hpos, hle, hcooperates, hsent, hoffer⟩ :=
      exists_offer h.cooperates now hbytes
    obtain ⟨hlt', hwindow⟩ := cursor.caughtUp_inWindow hrecords hlt
    have hwithin := h.isWithin.caughtUp hrecords
    have hcount : (cursor.caughtUp store).offset + count ≤
        (wholePart payloads (cursor.caughtUp store).sequence).length := by
      have hoffset := hwithin.offset_le
      rw [← Slice.length_toBytes, hrest, List.length_drop] at hle
      omega
    rw [Session.sendFrames, h.cursor_eq]
    simp only [hstore, hfound, hbytes, Bool.false_eq_true, if_false, hoffer]
    refine ⟨_, rfl, ⟨hcooperates, Or.inr hphase, rfl, ?_, ?_⟩, ?_, fun _ => ?_⟩
    · exact hwithin.advance hrecords hnil hwindow hcount
    · have hsuffix := Cursor.segment_caughtUp_suffix hrecords hlt h.segment_suffix
      have hmoved := Cursor.segment_advance_suffix hrecords hlt' hwindow hsuffix hcount
      rwa [← hrest, ← hsent] at hmoved
    · rw [Cursor.source_advance, Cursor.source_caughtUp]
    · refine Nat.add_lt_add_left (Nat.lt_of_lt_of_le ?_
        (Cursor.backlog_caughtUp_le hrecords hlt)) _
      exact Cursor.backlog_advance_lt hrecords hlt' hwindow hpos hcount
  · -- The frame was sent to its end, so nothing is sent and the cursor may go to a newer one.
    have hoffset := h.isWithin.offset_le
    rw [sendFrames_of_end now h.cursor_eq hstore hrecords hlt (by omega) (by omega)]
    by_cases hnewer : cursor.sequence + 1 < payloads.length
    · rw [if_pos hnewer]
      refine ⟨_, rfl, ⟨h.cooperates, Or.inr hphase, rfl, .toNewest cursor hnil, ?_⟩, rfl,
        fun _ => Nat.add_lt_add_left (Cursor.backlog_toNewest_lt hrecords hlt hnewer) _⟩
      exact List.nil_suffix
    · rw [if_neg hnewer, ← h.cursor_eq]
      refine ⟨cursor, rfl, h, rfl, fun hwants => ?_⟩
      have hpending := (wantsWrite_of_streaming hphase h.cursor_eq hstore).symm.trans hwants
      rw [Cursor.hasPending_iff hrecords h.isWithin] at hpending
      omega

/-- A stream gets on at every attempt to send, or rests. -/
theorem send (files : FileSystem) : ∃ next,
    session.GetsOn sources store payloads cursor next (session.send now files sources) := by
  rw [session.send_eq_sendPhase now files sources h.cooperates.not_failsHard_flush]
  let flushed : Session := { session with transport := session.transport.flush.2 }
  have hflushed : flushed.Follows payloads cursor :=
    { h with
      cooperates := Transport.keeps_cooperates.flush h.cooperates
      segment_suffix := by
        rw [show flushed.transport.sent = _ from session.transport.sent_flush]
        exact h.segment_suffix }
  suffices hsends : ∃ next, flushed.GetsOn sources store payloads cursor next
      (flushed.sendPhase now files sources) by
    obtain ⟨next, hnext⟩ := hsends
    exact ⟨next, hnext.of_headLeft_le (Nat.le_refl _)⟩
  rcases h.phase with ⟨hphase, hleft, hoffset⟩ | hphase
  · obtain ⟨count, transport, hpos, hcooperates, hanswer⟩ :=
      exists_sendAnswer hflushed.cooperates now files sources .stream (by exact hleft)
    -- Of the frame nothing was sent, so whatever was sent ends with that.
    have hsegment {sent : Bytes} : (cursor.segment payloads).sent <:+ sent := by
      rw [Cursor.segment, hoffset]
      exact List.nil_suffix
    rw [sendPhase_of_draining _ now files sources (by exact hphase), hanswer]
    by_cases hshort : flushed.responseSent + count < flushed.response.length
    · rw [if_pos hshort]
      refine ⟨cursor, rfl, ⟨hcooperates, Or.inl ⟨hphase, hshort, hoffset⟩, h.cursor_eq, h.isWithin,
        hsegment⟩, rfl, fun _ => Nat.add_lt_add_right ?_ _⟩
      rw [headLeft, headLeft]
      exact Nat.sub_lt_sub_left hleft (Nat.lt_add_of_pos_right hpos)
    · -- The event that sends the last of the head goes on with the frames.
      rw [if_neg hshort]
      have hstreams : { flushed.afterHead now transport count with
          phase := .streaming }.Follows payloads cursor :=
        ⟨hcooperates, Or.inr rfl, h.cursor_eq, h.isWithin, hsegment⟩
      obtain ⟨next, hnext⟩ := hstreams.sendFrames hstore hrecords now rfl
      exact ⟨next, hnext.of_headLeft_le (Nat.sub_le_sub_left (Nat.le_add_right _ _) _)⟩
  · rw [sendPhase_of_streaming _ now files sources (by exact hphase)]
    exact hflushed.sendFrames hstore hrecords now hphase

end Follows

end Session

end MotionJpeg
