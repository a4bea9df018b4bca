import MotionJpeg.Proofs.Frame.Window
import MotionJpeg.Proofs.Session.LifeCycle
import MotionJpeg.Proofs.Stream.Segment

/-!
# Where a session is in its store

For a sequence that is yet to come a store gives the frame of another sequence, so a session must
never be ahead of its store. A cursor starts at the newest frame or waits for the first one, goes
on with the newest one only, and is never moved beyond the end of what it sends.

* `Session.Placed` is what holds of a session, its cursor and the histories of the sources.
* `Session.Draws` says which bytes of which frame a session takes from a store.
* `Session.Placed.receive` and `Session.Placed.send`: no event moves a session out of its place,
  and what is sent after the head is drawn from the session's own frame.
-/

namespace MotionJpeg

/-- Every source has the history that is given for it. -/
def Registry.Remembers (sources : Registry) (history : Nat → List Bytes) : Prop :=
  ∀ source store, sources.get? source = some store → store.Records (history source)

/-- These bytes are taken of one frame, for the still or the stream of a cursor in a store with this
history. The frame is the one that was accepted under the sequence that the store is asked for. -/
inductive Cursor.Draws (cursor : Cursor) (store : Store) (payloads : List Bytes) (isStill : Prop) :
    Bytes → Prop where
  | nothing : Draws cursor store payloads isStill []
  /-- The image goes on at the cursor. -/
  | image {frame : Frame} {payload bytes : Bytes} (hstill : isStill)
      (hframe : store.get? cursor.sequence = some frame)
      (hpayload : payloads[cursor.sequence]? = some payload)
      (hcarries : frame.Carries cursor.sequence payload)
      (hbytes : bytes <+: frame.image.toBytes.drop cursor.offset) :
      Draws cursor store payloads isStill bytes
  /-- The part goes on at the cursor. -/
  | part {frame : Frame} {payload bytes : Bytes} (hstream : ¬ isStill)
      (hframe : store.get? cursor.sequence = some frame)
      (hpayload : payloads[cursor.sequence]? = some payload)
      (hcarries : frame.Carries cursor.sequence payload)
      (hbytes : bytes <+: frame.part.toBytes.drop cursor.offset) :
      Draws cursor store payloads isStill bytes
  /-- The frame of the cursor was overwritten, and the newest part begins. -/
  | newest {newest : Nat} {frame : Frame} {payload bytes : Bytes} (hstream : ¬ isStill)
      (hstale : store.get? cursor.sequence = none) (hnewest : store.newest? = some newest)
      (hframe : store.get? newest = some frame) (hpayload : payloads[newest]? = some payload)
      (hcarries : frame.Carries newest payload) (hbytes : bytes <+: frame.part.toBytes) :
      Draws cursor store payloads isStill bytes

namespace Session

/-- The session gives a still, or has given one. The head tells it, also when the session is over. -/
def IsStill (session : Session) : Prop := session.response = .ofBytes Http.Reply.stillHeader

/-- The head of a stream is not that of a still. -/
theorem not_isStill_of_streamHeader {session : Session}
    (h : session.response = .ofBytes Http.Reply.streamHeader) : ¬ session.IsStill := by
  intro hstill
  have hbytes := congrArg Slice.toBytes (h.symm.trans hstill)
  rw [Slice.toBytes_ofBytes, Slice.toBytes_ofBytes] at hbytes
  exact absurd hbytes (by decide)

/-- The head of a stream is not empty. -/
theorem length_streamHeader_pos : 0 < (Slice.ofBytes Http.Reply.streamHeader).length := by
  rw [Slice.length_ofBytes, List.length_pos_iff]
  decide

/-- The place of a session in its store is one that it may ask for. -/
structure Placed (session : Session) (sources : Registry) (history : Nat → List Bytes) : Prop where
  source_lt : ∀ cursor, session.cursor = some cursor → cursor.source < sources.size
  isWithin : ∀ cursor, session.cursor = some cursor → cursor.IsWithin (history cursor.source)
  /-- Of a still only the image is sent, which is shorter than its part. -/
  offset_le : session.IsStill → ∀ cursor, session.cursor = some cursor →
    cursor.offset ≤ (((history cursor.source)[cursor.sequence]?).getD []).length
  isStill : session.phase = .draining .still → session.IsStill
  not_isStill : session.phase ∈ [.draining .stream, .streaming] → ¬ session.IsStill
  /-- A file is sent without a cursor. -/
  cursor_eq_none : session.phase = .draining .staticFile → session.cursor = none
  /-- The phase changes together with the last byte of the head of a stream. -/
  responseSent_lt : session.phase = .draining .stream →
    session.responseSent < session.response.length

/-- The session sends `head`, which is left of the head of its answer, and then `body`, which it
draws from its store. After that it is in its place. -/
structure Delivers (session : Session) (sources : Registry) (history : Nat → List Bytes)
    (head body : Bytes) (next : Session) : Prop where
  sent_eq : next.transport.sent = session.transport.sent ++ (head ++ body)
  head_prefix : head <+: session.response.toBytes.drop session.responseSent
  draws : ∀ cursor store, session.cursor = some cursor →
    sources.get? cursor.source = some store →
    cursor.Draws store (history cursor.source) session.IsStill body
  placed : next.Placed sources history

namespace Placed

variable {session next : Session} {sources : Registry} {history : Nat → List Bytes}

section Moves

/-- A place depends on the phase, the cursor and the head alone. -/
theorem congr (h : session.Placed sources history) (hphase : next.phase = session.phase)
    (hcursor : next.cursor = session.cursor) (hresponse : next.response = session.response)
    (hsent : session.phase = .draining .stream → next.responseSent < next.response.length) :
    next.Placed sources history where
  source_lt := hcursor ▸ h.source_lt
  isWithin := hcursor ▸ h.isWithin
  offset_le hstill := hcursor ▸ h.offset_le (hresponse.symm.trans hstill)
  isStill heq := hresponse.trans (h.isStill (hphase.symm.trans heq))
  not_isStill heq hstill := h.not_isStill (hphase ▸ heq) (hresponse.symm.trans hstill)
  cursor_eq_none heq := hcursor.trans (h.cursor_eq_none (hphase.symm.trans heq))
  responseSent_lt heq := hsent (hphase.symm.trans heq)

/-- A session that is over stays in its place. -/
theorem close (h : session.Placed sources history) (hphase : next.phase = .closed)
    (hcursor : next.cursor = session.cursor) (hresponse : next.response = session.response) :
    next.Placed sources history where
  source_lt := hcursor ▸ h.source_lt
  isWithin := hcursor ▸ h.isWithin
  offset_le hstill := hcursor ▸ h.offset_le (hresponse.symm.trans hstill)
  isStill := by simp [hphase]
  not_isStill := by simp [hphase]
  cursor_eq_none := by simp [hphase]
  responseSent_lt := by simp [hphase]

/-- A session without a cursor may be in any phase but those that send frames. -/
theorem of_cursor_eq_none (hcursor : session.cursor = none)
    (hphase : session.phase ∉ [.draining .stream, .draining .still, .streaming]) :
    session.Placed sources history where
  source_lt := by simp [hcursor]
  isWithin := by simp [hcursor]
  offset_le := by simp [hcursor]
  isStill heq := by simp [heq] at hphase
  not_isStill heq := by simp_all
  cursor_eq_none _ := hcursor
  responseSent_lt heq := by simp [heq] at hphase

/-- Payloads that are accepted later leave a session in its place. -/
theorem mono (h : session.Placed sources history) {others : Registry}
    (hsize : others.size = sources.size) {longer : Nat → List Bytes}
    (hgrows : ∀ source, history source <+: longer source) : session.Placed others longer where
  source_lt := hsize ▸ h.source_lt
  isWithin cursor hcursor := by
    obtain ⟨later, heq⟩ := hgrows cursor.source
    exact heq ▸ (h.isWithin cursor hcursor).append later
  offset_le hstill cursor hcursor := by
    obtain ⟨later, heq⟩ := hgrows cursor.source
    have hwithin := h.isWithin cursor hcursor
    -- Of a frame that is still to come nothing was sent, and any other one has its payload.
    by_cases hnil : history cursor.source = []
    · rw [hwithin.offset_eq_zero hnil]
      exact Nat.zero_le _
    · rw [← heq, List.getElem?_append_left (hwithin.sequence_lt hnil)]
      exact h.offset_le hstill cursor hcursor
  isStill := h.isStill
  not_isStill := h.not_isStill
  cursor_eq_none := h.cursor_eq_none
  responseSent_lt := h.responseSent_lt

/-- A session that waits for a request needs no place. -/
theorem of_awaitingHeaders (hcursor : session.cursor = none)
    (hphase : session.phase = .awaitingHeaders) : session.Placed sources history :=
  of_cursor_eq_none hcursor (by simp [hphase])

/-- A cursor that was just bound is in its place. -/
theorem bind (hmemory : sources.Remembers history) {source : Nat} {store : Store}
    (hstore : sources.get? source = some store)
    (hcursor : session.cursor = some (.bind source store))
    (hkind : session.phase = .draining .still ∧ session.IsStill ∨
      session.phase = .draining .stream ∧ ¬ session.IsStill ∧
        session.responseSent < session.response.length) : session.Placed sources history where
  source_lt := by
    rintro cursor heq
    cases hcursor.symm.trans heq
    exact (List.getElem?_eq_some_iff.mp hstore).1
  isWithin := by
    rintro cursor heq
    cases hcursor.symm.trans heq
    exact .of_bind source (hmemory source store hstore)
  offset_le _ := by
    rintro cursor heq
    cases hcursor.symm.trans heq
    exact Nat.zero_le _
  isStill heq := by
    rcases hkind with ⟨-, hstill⟩ | ⟨hphase, -⟩
    · exact hstill
    · cases heq.symm.trans hphase
  not_isStill heq := by
    rcases hkind with ⟨hphase, -⟩ | ⟨-, hstream, -⟩
    · simp [hphase] at heq
    · exact hstream
  cursor_eq_none heq := by
    rcases hkind with ⟨hphase, -⟩ | ⟨hphase, -⟩ <;> cases heq.symm.trans hphase
  responseSent_lt heq := by
    rcases hkind with ⟨hphase, -⟩ | ⟨-, -, hlt⟩
    · cases heq.symm.trans hphase
    · exact hlt

/-- A session that was asked for a route is in its place. -/
theorem respond (hmemory : sources.Remembers history) (session : Session) (files : FileSystem)
    (route : Route) : (session.respond files sources route).Placed sources history := by
  have hcanned {kind : RouteKind} (hkind : kind.isCanned = true) (head : Bytes) :
      (session.answering kind head).Placed sources history := by
    refine of_cursor_eq_none rfl ?_
    cases kind <;> simp_all [answering, RouteKind.isCanned]
  cases route with
  | badRequest | authRequired | notFound | streamInfo => exact hcanned rfl _
  | stream source =>
    rw [Session.respond]
    cases hstore : sources.get? source with
    | none => exact hcanned rfl _
    | some store =>
      exact bind hmemory hstore rfl
        (Or.inr ⟨rfl, not_isStill_of_streamHeader rfl, length_streamHeader_pos⟩)
  | still source =>
    rw [Session.respond]
    cases hstore : sources.get? source with
    | none => exact hcanned rfl _
    | some store => exact bind hmemory hstore rfl (Or.inl ⟨rfl, rfl⟩)
  | staticFile path length mediaType =>
    rw [Session.respond]
    cases files.openFile path with
    | error fault => exact hcanned rfl _
    | ok file => exact of_cursor_eq_none rfl (by simp [answering])

/-- An attempt to read leaves a session in its place, or brings it to a new one. -/
theorem receive (h : session.Placed sources history) (hmemory : sources.Remembers history)
    (now : Nat) (router : Router) (files : FileSystem) :
    (session.receive now router files sources).2.Placed sources history := by
  by_cases hphase : session.phase = .awaitingHeaders
  · rw [receive_of_awaitingHeaders hphase]
    cases session.transport.read session.readSize with
    | mk result transport =>
      cases result with
      | error error =>
        dsimp only
        split
        · exact h.congr rfl rfl rfl h.responseSent_lt
        · exact h.close rfl rfl rfl
      | ok bytes =>
        dsimp only
        split
        · exact h.congr rfl rfl rfl h.responseSent_lt
        · rw [Session.gather]
          dsimp only
          split
          · exact respond hmemory _ files _
          · split
            · exact respond hmemory _ files _
            · exact h.congr rfl rfl rfl h.responseSent_lt
  · rw [receive_of_ne hphase]
    exact h

end Moves

section Send

variable (now : Nat)

/-- Nothing is sent, and the session stays in its place. -/
theorem delivers_nil (h : next.Placed sources history)
    (hsent : next.transport.sent = session.transport.sent) :
    session.Delivers sources history [] [] next :=
  ⟨by rw [hsent, List.append_nil, List.append_nil], List.nil_prefix, fun _ _ _ _ => .nothing, h⟩

/-- A stream takes its bytes from the frame of its cursor, or from the newest one if that frame
was overwritten. -/
theorem draws_of_unsent? {store : Store} {payloads : List Bytes} {cursor : Cursor} {isStill : Prop}
    (hstream : ¬ isStill) (hstore : store.Records payloads)
    (hwithin : cursor.IsWithin payloads) {bytes : Slice}
    (hbytes : (cursor.caughtUp store).unsent? store = some bytes) (count : Nat) :
    cursor.Draws store payloads isStill (bytes.toBytes.take count) := by
  obtain ⟨frame, hframe, rfl⟩ := Option.map_eq_some_iff.mp hbytes
  obtain ⟨payload, hpayload, hcarries⟩ :=
    hstore.carries_of_get? (hwithin.caughtUp hstore).sequence_lt hframe
  rw [Slice.toBytes_drop]
  cases hown : store.get? cursor.sequence with
  | some own =>
    have hstay : cursor.caughtUp store = cursor := by
      simp [Cursor.caughtUp, Store.isStale, hown]
    rw [hstay] at hframe hpayload hcarries ⊢
    exact .part hstream hframe hpayload hcarries (List.take_prefix _ _)
  | none =>
    cases hnewest : store.newest? with
    | none =>
      -- A store without a newest frame has none at all.
      rw [Store.get?, hnewest] at hframe
      cases hframe
    | some newest =>
      have hjump : cursor.caughtUp store = { cursor with sequence := newest, offset := 0 } := by
        simp [Cursor.caughtUp, Store.isStale, hown, hnewest]
      rw [hjump] at hframe hpayload hcarries ⊢
      exact .newest hstream hown hnewest hframe hpayload hcarries (List.take_prefix _ _)

/-- A still takes its bytes from the frame of its cursor. -/
theorem draws_of_unsentPayload? {store : Store} {payloads : List Bytes} {cursor : Cursor}
    {isStill : Prop} (hstill : isStill) (hstore : store.Records payloads)
    (hwithin : cursor.IsWithin payloads) {bytes : Slice}
    (hbytes : cursor.unsentPayload? store = some bytes) (count : Nat) :
    cursor.Draws store payloads isStill (bytes.toBytes.take count) := by
  obtain ⟨frame, hframe, rfl⟩ := Option.map_eq_some_iff.mp hbytes
  obtain ⟨payload, hpayload, hcarries⟩ := hstore.carries_of_get? hwithin.sequence_lt hframe
  rw [Slice.toBytes_drop]
  exact .image hstill hframe hpayload hcarries (List.take_prefix _ _)

/-- A stream whose cursor has moved on is in its place. -/
theorem of_streaming {cursor : Cursor} (hphase : next.phase = .streaming)
    (hstream : ¬ next.IsStill) (hcursor : next.cursor = some cursor)
    (hsource : cursor.source < sources.size) (hwithin : cursor.IsWithin (history cursor.source)) :
    next.Placed sources history where
  source_lt place hplace := by cases hcursor.symm.trans hplace; exact hsource
  isWithin place hplace := by cases hcursor.symm.trans hplace; exact hwithin
  offset_le hstill := absurd hstill hstream
  isStill := by simp [hphase]
  not_isStill _ := hstream
  cursor_eq_none := by simp [hphase]
  responseSent_lt := by simp [hphase]

/-- A still whose cursor has moved on is in its place. -/
theorem of_still {cursor : Cursor}
    (hphase : next.phase = .draining .still ∨ next.phase = .closed) (hstill : next.IsStill)
    (hcursor : next.cursor = some cursor) (hsource : cursor.source < sources.size)
    (hwithin : cursor.IsWithin (history cursor.source))
    (hoffset : cursor.offset ≤ (((history cursor.source)[cursor.sequence]?).getD []).length) :
    next.Placed sources history where
  source_lt place hplace := by cases hcursor.symm.trans hplace; exact hsource
  isWithin place hplace := by cases hcursor.symm.trans hplace; exact hwithin
  offset_le _ place hplace := by cases hcursor.symm.trans hplace; exact hoffset
  isStill _ := hstill
  not_isStill heq := by rcases hphase with hphase | hphase <;> simp [hphase] at heq
  cursor_eq_none heq := by rcases hphase with hphase | hphase <;> cases heq.symm.trans hphase
  responseSent_lt heq := by rcases hphase with hphase | hphase <;> cases heq.symm.trans hphase

/-- A stream sends bytes of its own frames, and its cursor stays in its place. -/
theorem sendFrames (h : session.Placed sources history) (hmemory : sources.Remembers history)
    (hsound : session.Sound sources) (hphase : session.phase = .streaming) :
    ∃ body, session.Delivers sources history [] body (session.sendFrames now sources).2 := by
  obtain ⟨cursor, store, hcursor, hstore, hsource⟩ := hsound.exists_store (by simp [hphase])
  have hrecords := hmemory _ _ hstore
  have hwithin := h.isWithin cursor hcursor
  have hstream := h.not_isStill (by simp [hphase])
  rcases session.sendFrames_cases now sources hcursor hstore with
    ⟨-, hresult⟩ | ⟨bytes, hbytes, ⟨transport, hsent, hresult⟩ |
      ⟨count, transport, hcount, hsent, hresult⟩⟩
  · rw [hresult]
    refine ⟨[], delivers_nil (of_streaming hphase hstream rfl ?_ ?_) rfl⟩
    · rwa [Cursor.source_caughtUp]
    · rw [Cursor.source_caughtUp]
      exact hwithin.caughtUp hrecords
  · rw [hresult]
    exact ⟨[], delivers_nil (h.close rfl rfl rfl) hsent⟩
  · rw [hresult]
    refine ⟨_, hsent, List.nil_prefix, fun place other hplace hother => ?_,
      of_streaming hphase hstream rfl ?_ ?_⟩
    · cases hcursor.symm.trans hplace
      cases hstore.symm.trans hother
      exact draws_of_unsent? hstream hrecords hwithin hbytes count
    · rwa [Cursor.source_advance, Cursor.source_caughtUp]
    · -- Something was found, so there is a history and the cursor has caught up with it.
      have hne : history cursor.source ≠ [] := by
        intro hnil
        rw [hnil] at hrecords
        rw [cursor.caughtUp_of_nil hrecords, cursor.unsent?_of_nil hrecords] at hbytes
        cases hbytes
      obtain ⟨hlt, hwindow⟩ := cursor.caughtUp_inWindow hrecords (hwithin.sequence_lt hne)
      obtain ⟨found, hfound, hrest⟩ := (cursor.caughtUp store).unsent?_eq hrecords hlt hwindow
      cases hbytes.symm.trans hfound
      have hoffset := (hwithin.caughtUp hrecords).offset_le
      rw [← Slice.length_toBytes, hrest, List.length_drop] at hcount
      rw [Cursor.source_advance, Cursor.source_caughtUp]
      exact (hwithin.caughtUp hrecords).advance hrecords hne hwindow (by omega)

/-- A still sends bytes of its own image, and its cursor stays in its place. -/
theorem sendStill (h : session.Placed sources history) (hmemory : sources.Remembers history)
    (hsound : session.Sound sources) (hphase : session.phase = .draining .still) :
    ∃ body, session.Delivers sources history [] body (session.sendStill now sources).2 := by
  obtain ⟨cursor, store, hcursor, hstore, hsource⟩ := hsound.exists_store (by simp [hphase])
  have hrecords := hmemory _ _ hstore
  have hwithin := h.isWithin cursor hcursor
  have hstill := h.isStill hphase
  rcases session.sendStill_cases now sources hcursor hstore with
    ⟨-, hresult⟩ | ⟨bytes, hbytes, ⟨-, hresult⟩ | ⟨-, ⟨-, transport, hsent, hresult⟩ |
      ⟨-, count, transport, hcount, hsent, hresult⟩⟩⟩
  · rw [hresult]
    exact ⟨[], delivers_nil (h.close rfl rfl rfl) rfl⟩
  · rw [hresult]
    exact ⟨[], delivers_nil (h.close rfl rfl rfl) rfl⟩
  · rw [hresult]
    exact ⟨[], delivers_nil (h.close rfl rfl rfl) hsent⟩
  · -- What is offered is the rest of the image, so the cursor does not pass its end.
    have hrest := cursor.toBytes_of_unsentPayload? hrecords hwithin.sequence_lt hbytes
    have hoffset := h.offset_le hstill cursor hcursor
    have hmoved : cursor.offset + count ≤
        (((history cursor.source)[cursor.sequence]?).getD []).length := by
      rw [← Slice.length_toBytes, hrest, List.length_drop] at hcount
      omega
    have hplace := hwithin.withOffset hmoved
    rw [hresult]
    refine ⟨bytes.toBytes.take count, ?_, List.nil_prefix, fun place other hplaced hother => ?_, ?_⟩
    · split <;> exact hsent
    · cases hcursor.symm.trans hplaced
      cases hstore.symm.trans hother
      exact draws_of_unsentPayload? hstill hrecords hwithin hbytes count
    · split
      · exact of_still (Or.inl hphase) hstill rfl hsource hplace hmoved
      · exact of_still (Or.inr rfl) hstill rfl hsource hplace hmoved

variable (files : FileSystem)

/-- A file is not drawn from a store. -/
theorem sendFile (h : session.Placed sources history) (hsound : session.Sound sources)
    (hphase : session.phase = .draining .staticFile) :
    ∃ body, session.Delivers sources history [] body (session.sendFile now files).2 := by
  obtain ⟨file, hfile⟩ := hsound.exists_file hphase
  have hnone := h.cursor_eq_none hphase
  cases hread : files.readSome session.chunkSize file with
  | error fault =>
    rw [Session.sendFile, hfile]
    simp only [hread]
    exact ⟨[], delivers_nil (h.close rfl rfl rfl) rfl⟩
  | ok bytes =>
    rcases session.sendFile_cases now files hfile hread with
      ⟨-, hresult⟩ | ⟨-, ⟨-, transport, hsent, hresult⟩ | ⟨-, count, transport, -, hsent, hresult⟩⟩
    · rw [hresult]
      exact ⟨[], delivers_nil (of_awaitingHeaders rfl rfl) rfl⟩
    · rw [hresult]
      exact ⟨[], delivers_nil (h.close rfl rfl rfl) hsent⟩
    · rw [hresult]
      refine ⟨_, hsent, List.nil_prefix, fun place other hplace => ?_, ?_⟩
      · cases hnone.symm.trans hplace
      · exact h.congr rfl rfl rfl h.responseSent_lt

/-- What follows the head of an answer is drawn from the store, unless it is a file. -/
theorem sendBody (h : session.Placed sources history) (hmemory : sources.Remembers history)
    (hsound : session.Sound sources) {kind : RouteKind} (hphase : session.phase = .draining kind)
    (hkind : kind ≠ .stream) : ∃ body,
      session.Delivers sources history [] body (session.sendBody now files sources kind).2 := by
  cases kind with
  | badRequest | authRequired | notFound | streamInfo =>
    exact ⟨[], delivers_nil (h.close rfl rfl rfl) rfl⟩
  | still => exact h.sendStill now hmemory hsound hphase
  | staticFile => exact h.sendFile now files hsound hphase
  | stream => exact absurd rfl hkind

/-- The body follows once the head is sent, for a stream after the change of its phase. -/
theorem sendBody_afterHead (h : session.Placed sources history)
    (hmemory : sources.Remembers history) (hsound : session.Sound sources) {kind : RouteKind}
    (hphase : session.phase = .draining kind) (transport : Transport) {count : Nat}
    (hcount : session.responseSent + count ≤ session.response.length) :
    ∃ body, (session.afterHead now transport count).Delivers sources history [] body
      ((session.afterHead now transport count).sendBody now files sources kind).2 := by
  by_cases hkind : kind = .stream
  · subst hkind
    obtain ⟨cursor, hcursor, hsource⟩ := hsound.exists_cursor (by simp [hphase])
    have hstreams : { session.afterHead now transport count with
        phase := .streaming }.Placed sources history :=
      of_streaming rfl (h.not_isStill (by simp [hphase])) hcursor hsource (h.isWithin cursor hcursor)
    obtain ⟨body, hbody⟩ := hstreams.sendFrames now hmemory
      ⟨fun _ => ⟨cursor, hcursor, hsource⟩, nofun, hcount⟩ rfl
    exact ⟨body, hbody.sent_eq, hbody.head_prefix, hbody.draws, hbody.placed⟩
  · have hplaced : (session.afterHead now transport count).Placed sources history := by
      refine h.congr rfl rfl rfl fun hstream => absurd ?_ hkind
      exact Phase.draining.inj (hphase.symm.trans hstream)
    exact hplaced.sendBody now files hmemory ⟨hsound.1, hsound.2, hcount⟩ hphase hkind

/-- One event sends the rest of the head, and the body after it. -/
theorem sendAnswer (h : session.Placed sources history) (hmemory : sources.Remembers history)
    (hsound : session.Sound sources) {kind : RouteKind} (hphase : session.phase = .draining kind) :
    ∃ head body, session.Delivers sources history head body
      (session.sendAnswer now files sources kind).2 := by
  by_cases hleft : session.responseSent < session.response.length
  · rcases session.sendAnswer_cases now files sources kind hleft with
      ⟨-, transport, hsent, hresult⟩ | ⟨-, count, transport, hcount, hsent, -, hresult⟩
    · rw [hresult]
      exact ⟨[], [], delivers_nil (h.close rfl rfl rfl) hsent⟩
    · have hprefix := List.take_prefix count (session.response.toBytes.drop session.responseSent)
      rw [hresult]
      by_cases hshort : session.responseSent + count < session.response.length
      · rw [if_pos hshort]
        refine ⟨_, [], by rwa [List.append_nil], hprefix, fun _ _ _ _ => .nothing, ?_⟩
        exact h.congr rfl rfl rfl fun _ => hshort
      · rw [if_neg hshort]
        obtain ⟨body, hbody⟩ :=
          h.sendBody_afterHead now files hmemory hsound hphase transport hcount
        refine ⟨_, body, hbody.sent_eq.trans ?_, hprefix, hbody.draws, hbody.placed⟩
        rw [List.nil_append, ← List.append_assoc, ← hsent]
        rfl
  · -- The phase of a stream has changed before, together with the last byte of the head.
    have hkind : kind ≠ .stream := by
      rintro rfl
      exact hleft (h.responseSent_lt hphase)
    rw [Session.sendAnswer, if_neg hleft]
    obtain ⟨body, hbody⟩ := h.sendBody now files hmemory hsound hphase hkind
    exact ⟨[], body, hbody⟩

/-- Each phase sends what it may take. -/
theorem sendPhase (h : session.Placed sources history) (hmemory : sources.Remembers history)
    (hsound : session.Sound sources) : ∃ head body,
      session.Delivers sources history head body (session.sendPhase now files sources).2 := by
  cases hphase : session.phase with
  | awaitingHeaders =>
    rw [session.sendPhase_of_awaitingHeaders now files sources hphase]
    exact ⟨[], [], delivers_nil h rfl⟩
  | draining kind =>
    rw [session.sendPhase_of_draining now files sources hphase]
    exact h.sendAnswer now files hmemory hsound hphase
  | streaming =>
    rw [session.sendPhase_of_streaming now files sources hphase]
    obtain ⟨body, hbody⟩ := h.sendFrames now hmemory hsound hphase
    exact ⟨[], body, hbody⟩
  | closed =>
    rw [session.sendPhase_of_closed now files sources hphase]
    exact ⟨[], [], delivers_nil h rfl⟩

/-- Whatever an attempt to send comes to, what is sent after the head is drawn from the session's
own frame, and the session is in its place afterwards. -/
theorem send (h : session.Placed sources history) (hmemory : sources.Remembers history)
    (hsound : session.Sound sources) : ∃ head body,
      session.Delivers sources history head body (session.send now files sources).2 := by
  by_cases hfails : Transport.FailsHard session.transport.flush.1
  · rw [session.send_eq_fail now files sources hfails]
    exact ⟨[], [], delivers_nil (h.close rfl rfl rfl) session.transport.sent_flush⟩
  · rw [session.send_eq_sendPhase now files sources hfails]
    -- A flush moves nothing but the queue of its own failures.
    have hflushed : { session with transport := session.transport.flush.2 }.Placed sources history :=
      h.congr rfl rfl rfl h.responseSent_lt
    obtain ⟨head, body, hbody⟩ :=
      hflushed.sendPhase now files hmemory (hsound.onTransport session.transport.flush.2)
    refine ⟨head, body, ?_, hbody.head_prefix, hbody.draws, hbody.placed⟩
    rw [hbody.sent_eq, session.transport.sent_flush]

end Send

end Placed

end Session

end MotionJpeg
