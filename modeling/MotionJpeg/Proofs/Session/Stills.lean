import MotionJpeg.Proofs.Session.Place

/-!
# Stills are counted once

A still counts as a frame when the last byte of its image was sent. A frame without any payload is
never counted. For that, a session that has sent some of an image must have something left of it.

* `Session.HasMore` says that a still is not at the end of its image.
* `Session.CompletesStill` is the end of an attempt that has sent all of an image.
* `Session.Shows` is what an attempt to send comes to for a session without a stream.
* `Session.shows_send`: nothing but a completed still is counted.
-/

namespace MotionJpeg.Session

/-- The payload of the frame at the session's cursor, as long as its store has it. -/
def payload? (session : Session) (sources : Registry) : Option Bytes :=
  session.cursor.bind fun cursor => (sources.get? cursor.source).bind fun store =>
    (store.get? cursor.sequence).map Frame.payload

/-- A still of which something was sent has something left to send. -/
def HasMore (session : Session) (history : Nat → List Bytes) : Prop :=
  session.phase = .draining .still → ∀ cursor, session.cursor = some cursor → cursor.offset = 0 ∨
    cursor.offset < (((history cursor.source)[cursor.sequence]?).getD []).length

/-- An attempt of this session that ends like this has sent the last byte of an image. -/
def CompletesStill (session : Session) (sources : Registry) (flow : Flow) : Prop :=
  session.phase = .draining .still ∧ flow = .close .responseComplete ∧
    (session.payload? sources).any (!·.isEmpty) = true

instance (session : Session) (sources : Registry) :
    DecidablePred (session.CompletesStill sources) :=
  fun _ => inferInstanceAs (Decidable (_ ∧ _ ∧ _))

/-- An attempt to send comes to this, and a frame is counted if it is that of a still. -/
structure Shows (session : Session) (sources : Registry) (history : Nat → List Bytes)
    (result : Flow × Session) : Prop where
  hasMore : result.2.HasMore history
  framesSent_eq : result.2.stats.framesSent = session.stats.framesSent +
    if session.CompletesStill sources result.1 then 1 else 0

section Shows

variable {session next : Session} {sources : Registry} {history : Nat → List Bytes}

/-- A session that does not give a still is not in the middle of one. -/
theorem HasMore.of_ne (hphase : session.phase ≠ .draining .still) : session.HasMore history :=
  fun hstill => absurd hstill hphase

/-- Payloads that are accepted later do not take away what is left of an image. -/
theorem HasMore.mono (h : session.HasMore history) (hplaced : session.Placed sources history)
    {longer : Nat → List Bytes} (hgrows : ∀ source, history source <+: longer source) :
    session.HasMore longer := by
  intro hstill cursor hcursor
  obtain ⟨later, heq⟩ := hgrows cursor.source
  have hwithin := hplaced.isWithin cursor hcursor
  by_cases hnil : history cursor.source = []
  · exact Or.inl (hwithin.offset_eq_zero hnil)
  · rw [← heq, List.getElem?_append_left (hwithin.sequence_lt hnil)]
    exact h hstill cursor hcursor

/-- Nothing is counted at an end that is not that of a still. -/
theorem Shows.of_eq {flow : Flow} (hmore : next.HasMore history)
    (hframes : next.stats.framesSent = session.stats.framesSent)
    (hincomplete : ¬ session.CompletesStill sources flow) :
    session.Shows sources history (flow, next) :=
  ⟨hmore, by rw [hframes, if_neg hincomplete]; rfl⟩

/-- A session that goes on has completed nothing. -/
theorem not_completesStill_keep : ¬ session.CompletesStill sources .keep :=
  fun h => Flow.noConfusion h.2.1

/-- A session that has failed has completed nothing. -/
theorem shows_fail (hframes : next.stats.framesSent = session.stats.framesSent) :
    session.Shows sources history next.fail :=
  .of_eq (.of_ne Phase.noConfusion) hframes fun h => by cases h.2.1

/-- A completed still is counted. -/
theorem Shows.of_completes {flow : Flow} (hmore : next.HasMore history)
    (hframes : next.stats.framesSent = session.stats.framesSent + 1)
    (hcomplete : session.CompletesStill sources flow) :
    session.Shows sources history (flow, next) :=
  ⟨hmore, by rw [hframes, if_pos hcomplete]⟩

/-- What a still finds is the rest of its payload, and it finds nothing left only if the payload is
empty. -/
theorem HasMore.exists_payload (h : session.HasMore history)
    (hplaced : session.Placed sources history) (hmemory : sources.Remembers history)
    (hphase : session.phase = .draining .still) {cursor : Cursor} {store : Store}
    (hcursor : session.cursor = some cursor) (hstore : sources.get? cursor.source = some store)
    {bytes : Slice} (hbytes : cursor.unsentPayload? store = some bytes) :
    ∃ payload, session.payload? sources = some payload ∧
      (history cursor.source)[cursor.sequence]? = some payload ∧
      bytes.toBytes = payload.drop cursor.offset ∧ (bytes.isEmpty = true ↔ payload = []) := by
  obtain ⟨frame, hframe, rfl⟩ := Option.map_eq_some_iff.mp hbytes
  have hwithin := hplaced.isWithin cursor hcursor
  obtain ⟨payload, hhistory, hcarries⟩ :=
    (hmemory _ _ hstore).carries_of_get? hwithin.sequence_lt hframe
  -- The payload of the frame is the one that was accepted under the sequence.
  obtain rfl : frame.payload = payload := frame.toBytes_image.symm.trans hcarries.image_eq
  have hrest : (frame.image.drop cursor.offset).toBytes = frame.payload.drop cursor.offset := by
    rw [Slice.toBytes_drop, frame.toBytes_image]
  refine ⟨frame.payload, by simp [payload?, hcursor, hstore, hframe], hhistory, hrest, ?_⟩
  have hmore := h hphase cursor hcursor
  rw [hhistory, Option.getD_some] at hmore
  rw [Slice.isEmpty_iff, hrest, List.drop_eq_nil_iff, ← List.length_eq_zero_iff]
  omega

variable (now : Nat) (files : FileSystem)

/-- A still counts when its image is sent, and only if there was something to send. -/
theorem shows_sendStill (h : session.HasMore history) (hplaced : session.Placed sources history)
    (hmemory : sources.Remembers history) (hsound : session.Sound sources)
    (hphase : session.phase = .draining .still) :
    session.Shows sources history (session.sendStill now sources) := by
  obtain ⟨cursor, store, hcursor, hstore, -⟩ := hsound.exists_store (by simp [hphase])
  rcases session.sendStill_cases now sources hcursor hstore with
    ⟨-, hresult⟩ | ⟨bytes, hbytes, hfound⟩
  · rw [hresult]
    exact .of_eq (.of_ne Phase.noConfusion) rfl fun h => by cases h.2.1
  · obtain ⟨payload, hpayload, hhistory, hrest, hempty_iff⟩ :=
      h.exists_payload hplaced hmemory hphase hcursor hstore hbytes
    have hcompletes_iff : session.CompletesStill sources (.close .responseComplete) ↔
        payload ≠ [] := by simp [CompletesStill, hphase, hpayload]
    rcases hfound with ⟨hempty, hresult⟩ | ⟨hempty, ⟨-, transport, -, hresult⟩ |
      ⟨-, count, transport, hcount, -, hresult⟩⟩
    · rw [hresult]
      refine .of_eq (.of_ne Phase.noConfusion) rfl ?_
      rw [hcompletes_iff, not_not]
      exact hempty_iff.mp hempty
    · rw [hresult]
      exact shows_fail rfl
    · rw [hresult]
      split
      next hshort =>
        -- Something of the image is left, so the cursor has not come to its end.
        refine .of_eq ?_ rfl not_completesStill_keep
        rintro - place hplace
        obtain rfl : _ = place := Option.some.inj hplace
        refine Or.inr ?_
        dsimp only
        rw [hhistory, Option.getD_some]
        rw [← Slice.length_toBytes, hrest, List.length_drop] at hshort
        omega
      next =>
        refine .of_completes (.of_ne Phase.noConfusion) rfl ?_
        rw [hcompletes_iff]
        rintro hnone
        rw [hempty_iff.mpr hnone] at hempty
        cases hempty

/-- A file is no frame. -/
theorem shows_sendFile (hsound : session.Sound sources)
    (hphase : session.phase = .draining .staticFile) :
    session.Shows sources history (session.sendFile now files) := by
  obtain ⟨file, hfile⟩ := hsound.exists_file hphase
  cases hread : files.readSome session.chunkSize file with
  | error fault =>
    rw [Session.sendFile, hfile]
    simp only [hread]
    exact shows_fail rfl
  | ok bytes =>
    rcases session.sendFile_cases now files hfile hread with
      ⟨-, hresult⟩ | ⟨-, ⟨-, transport, -, hresult⟩ | ⟨-, count, transport, -, -, hresult⟩⟩
    · rw [hresult]
      exact .of_eq (.of_ne Phase.noConfusion) rfl not_completesStill_keep
    · rw [hresult]
      exact shows_fail rfl
    · rw [hresult]
      refine .of_eq (.of_ne ?_) rfl not_completesStill_keep
      exact fun hstill => Phase.noConfusion (hphase.symm.trans hstill) fun h => by cases h

/-- What follows a head is counted if it is a still. -/
theorem shows_sendBody (h : session.HasMore history) (hplaced : session.Placed sources history)
    (hmemory : sources.Remembers history) (hsound : session.Sound sources) {kind : RouteKind}
    (hphase : session.phase = .draining kind) (hkind : kind ≠ .stream) :
    session.Shows sources history (session.sendBody now files sources kind) := by
  have hfinish (hstill : kind ≠ .still) : session.Shows sources history session.finish := by
    refine .of_eq (.of_ne Phase.noConfusion) rfl fun hcompletes => hstill ?_
    exact Phase.draining.inj (hphase.symm.trans hcompletes.1)
  cases kind with
  | badRequest | authRequired | notFound | streamInfo => exact hfinish (by decide)
  | still => exact shows_sendStill now h hplaced hmemory hsound hphase
  | staticFile => exact shows_sendFile now files hsound hphase
  | stream => exact absurd rfl hkind

/-- The head of an answer is no frame, and the body may follow in the same event. -/
theorem shows_sendAnswer (h : session.HasMore history) (hplaced : session.Placed sources history)
    (hmemory : sources.Remembers history) (hsound : session.Sound sources) {kind : RouteKind}
    (hphase : session.phase = .draining kind) (hkind : kind ≠ .stream) :
    session.Shows sources history (session.sendAnswer now files sources kind) := by
  by_cases hleft : session.responseSent < session.response.length
  · rcases session.sendAnswer_cases now files sources kind hleft with
      ⟨-, transport, -, hresult⟩ | ⟨-, count, transport, hcount, -, -, hresult⟩
    · rw [hresult]
      exact shows_fail rfl
    · rw [hresult]
      split
      · exact .of_eq h rfl not_completesStill_keep
      · have hhead : (session.afterHead now transport count).Placed sources history := by
          refine hplaced.congr rfl rfl rfl fun hstream => absurd ?_ hkind
          exact Phase.draining.inj (hphase.symm.trans hstream)
        have hsound' : (session.afterHead now transport count).Sound sources :=
          ⟨hsound.1, hsound.2, hcount⟩
        have hmore : (session.afterHead now transport count).HasMore history := h
        have hbody := shows_sendBody now files hmore hhead hmemory hsound' hphase hkind
        exact ⟨hbody.1, hbody.2⟩
  · rw [sendAnswer, if_neg hleft]
    exact shows_sendBody now files h hplaced hmemory hsound hphase hkind

/-- Each phase but those of a stream counts what it completes. -/
theorem shows_sendPhase (h : session.HasMore history) (hplaced : session.Placed sources history)
    (hmemory : sources.Remembers history) (hsound : session.Sound sources)
    (hstream : session.phase ∉ [.draining .stream, .streaming]) :
    session.Shows sources history (session.sendPhase now files sources) := by
  cases hphase : session.phase with
  | awaitingHeaders =>
    rw [session.sendPhase_of_awaitingHeaders now files sources hphase]
    exact .of_eq h rfl not_completesStill_keep
  | closed =>
    rw [session.sendPhase_of_closed now files sources hphase]
    refine .of_eq h rfl fun hcompletes => ?_
    cases hphase.symm.trans hcompletes.1
  | streaming => simp [hphase] at hstream
  | draining kind =>
    rw [session.sendPhase_of_draining now files sources hphase]
    refine shows_sendAnswer now files h hplaced hmemory hsound hphase ?_
    rintro rfl
    simp [hphase] at hstream

/-- Whatever an attempt to send comes to, a session without a stream counts a frame exactly if it
completes a still. -/
theorem shows_send (h : session.HasMore history) (hplaced : session.Placed sources history)
    (hmemory : sources.Remembers history) (hsound : session.Sound sources)
    (hstream : session.phase ∉ [.draining .stream, .streaming]) :
    session.Shows sources history (session.send now files sources) := by
  by_cases hfails : Transport.FailsHard session.transport.flush.1
  · rw [session.send_eq_fail now files sources hfails]
    exact shows_fail rfl
  · -- A flush moves nothing but the queue of its own failures.
    have hflushed :
        { session with transport := session.transport.flush.2 }.Placed sources history :=
      hplaced.congr rfl rfl rfl hplaced.responseSent_lt
    have hmore : { session with transport := session.transport.flush.2 }.HasMore history := h
    have hshows := shows_sendPhase now files hmore hflushed hmemory (hsound.onTransport _) hstream
    rw [session.send_eq_sendPhase now files sources hfails]
    exact ⟨hshows.1, hshows.2⟩

end Shows

section Receive

variable (session : Session) (files : FileSystem) (sources : Registry)

/-- A session that begins with a still has sent nothing of it. -/
theorem hasMore_respond (history : Nat → List Bytes) (route : Route) :
    (session.respond files sources route).HasMore history := by
  intro hstill cursor hcursor
  cases route with
  | badRequest | authRequired | notFound | streamInfo => cases hcursor
  | stream source | still source =>
    rw [respond] at hcursor
    split at hcursor
    · cases hcursor
    · obtain rfl := Option.some.inj hcursor
      exact Or.inl rfl
  | staticFile path length mediaType =>
    rw [respond] at hcursor
    split at hcursor <;> cases hcursor

/-- What was read is kept, or an answer begins. -/
theorem gather_goesOn_or_responds (router : Router) (bytes : Bytes) :
    (∃ request, session.gather router files sources bytes = { session with request }) ∨
      ∃ route, session.gather router files sources bytes =
        { session with request := [] }.respond files sources route := by
  rw [gather]
  dsimp only
  split
  · exact Or.inr ⟨_, rfl⟩
  · split
    · exact Or.inr ⟨_, rfl⟩
    · exact Or.inl ⟨_, rfl⟩

/-- An attempt to read goes on with the session as it was, or begins with an answer. No frame is
counted, and nothing is sent. -/
theorem receive_goesOn_or_responds (now : Nat) (router : Router) :
    let next := (session.receive now router files sources).2
    (next.phase = session.phase ∨ next.phase = .closed) ∧ next.cursor = session.cursor ∧
        next.stats.framesSent = session.stats.framesSent ∨
      ∃ (origin : Session) (route : Route), next = origin.respond files sources route ∧
        origin.transport.sent = session.transport.sent ∧
        origin.stats.framesSent = session.stats.framesSent := by
  intro next
  by_cases hphase : session.phase = .awaitingHeaders
  · have hsent := session.transport.sent_read session.readSize
    simp only [next, receive_of_awaitingHeaders hphase]
    generalize session.transport.read session.readSize = attempt at hsent ⊢
    obtain ⟨_ | bytes, transport⟩ := attempt
    · dsimp only
      split
      · exact Or.inl ⟨Or.inl rfl, rfl, rfl⟩
      · exact Or.inl ⟨Or.inr rfl, rfl, rfl⟩
    · dsimp only
      split
      · exact Or.inl ⟨Or.inl rfl, rfl, rfl⟩
      · rcases (session.afterRead now transport bytes).gather_goesOn_or_responds files sources
          router bytes with ⟨request, hgather⟩ | ⟨route, hgather⟩
        · rw [hgather]
          exact Or.inl ⟨Or.inl rfl, rfl, rfl⟩
        · rw [hgather]
          exact Or.inr ⟨_, route, rfl, hsent, rfl⟩
  · have hsame : next = session := session.receive_eq_self hphase now router files sources
    exact Or.inl ⟨Or.inl (by rw [hsame]), by rw [hsame], by rw [hsame]⟩

/-- After an attempt to read no still is at the end of its image. -/
theorem HasMore.receive {session : Session} {history : Nat → List Bytes}
    (h : session.HasMore history) (files : FileSystem) (sources : Registry) (now : Nat)
    (router : Router) : (session.receive now router files sources).2.HasMore history := by
  rcases session.receive_goesOn_or_responds files sources now router with
    ⟨hphase | hphase, hcursor, -⟩ | ⟨origin, route, hnext, -⟩
  · intro hstill
    rw [hcursor]
    exact h (hphase.symm.trans hstill)
  · exact .of_ne (by simp [hphase])
  · rw [hnext]
    exact origin.hasMore_respond files sources history route

end Receive

end MotionJpeg.Session
