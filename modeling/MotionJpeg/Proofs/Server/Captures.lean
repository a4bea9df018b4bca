import Mathlib.Data.List.Induction
import MotionJpeg.Proofs.Frame.Window
import MotionJpeg.Proofs.Server.Service

/-!
# What the sources of a server give

Every source is captured from once at every tick of the captures. What comes of its captures and
what its store holds is told by its own results, and by the payloads that were pushed directly for
it. Neither other sources nor clients have a part in it.

* `Source.results` are the results of the next captures from a source.
* `Store.held` are the frames that a store gives, the oldest first.
* `Server.captureAll_at`: a tick of the captures does at every index what `CaptureSlot.captureInto`
  does with the source and the store of this index.
* `Service.captures_accounted`: the counters and the stores after any events.
-/

namespace MotionJpeg

section Definitions

/-- The results of the next captures from a source, this many of them. -/
def Source.results (source : Source) : Nat → List (Except CaptureFailure Bytes)
  | 0 => []
  | count + 1 => source.capture.1 :: source.capture.2.results count

/-- The frames among some results that are not longer than `limit`. -/
def storedFrames (limit : Nat) (results : List (Except CaptureFailure Bytes)) : List Bytes :=
  (results.filterMap Except.toOption).filter fun frame => frame.length ≤ limit

/-- The capture failed, or its frame is longer than `limit`. -/
def isLost (limit : Nat) : Except CaptureFailure Bytes → Bool
  | .error _ => true
  | .ok frame => limit < frame.length

/-- The counters of a source after some results, when no frame may be longer than `limit`. -/
def CaptureStats.ofResults (limit : Nat) (results : List (Except CaptureFailure Bytes)) :
    CaptureStats where
  captured := (storedFrames limit results).length
  dropped := results.countP (isLost limit)
  lastSize := ((storedFrames limit results).getLast?.map List.length).getD 0

/-- A capture from a source into a store, as if there were no other source. -/
def CaptureSlot.captureInto (slot : CaptureSlot) (store : Store) : CaptureSlot × Store :=
  let (result, source) := slot.source.capture
  match result with
  | .error _ => ({ source, stats := slot.stats.recordDrop }, store)
  | .ok frame =>
    match store.push frame with
    | .ok (_, next) => ({ source, stats := slot.stats.recordFrame frame.length }, next)
    | .error _ => ({ source, stats := slot.stats.recordDrop }, store)

/-- The frames that a store gives, the oldest first. -/
def Store.held (store : Store) : List Frame := (List.range store.accepted).filterMap store.get?

end Definitions

/-- Every capture has a result. -/
theorem Source.length_results (source : Source) (count : Nat) :
    (source.results count).length = count := by
  induction count generalizing source with
  | zero => rfl
  | succ count ih => rw [results, List.length_cons, ih]

section Held

/-- The end of a list is what is found there. -/
private theorem filterMap_range_eq_drop (payloads : List Bytes) (start : Nat) :
    (List.range payloads.length).filterMap
        (fun place => if start ≤ place then payloads[place]? else none) =
      payloads.drop start := by
  -- Induction from the back, where the range grows.
  induction payloads using List.reverseRecOn with
  | nil => simp
  | append_singleton payloads last ih =>
    have hearlier : (List.range payloads.length).filterMap
          (fun place => if start ≤ place then (payloads ++ [last])[place]? else none) =
        payloads.drop start := by
      rw [← ih]
      apply List.filterMap_congr
      intro place hplace
      rw [List.getElem?_append_left (List.mem_range.mp hplace)]
    rw [List.length_append, List.length_singleton, List.range_succ, List.filterMap_append, hearlier]
    by_cases hstart : start ≤ payloads.length
    · simp [hstart, List.drop_append_of_le_length]
    · have hshort : (payloads ++ [last]).length ≤ start := by
        rw [List.length_append, List.length_singleton]
        omega
      rw [List.drop_eq_nil_of_le (by omega), List.drop_eq_nil_of_le hshort]
      simp [hstart]

/-- A store holds the last payloads that it has accepted, as many as it has room for. -/
theorem Store.Records.held_eq {store : Store} {payloads : List Bytes} (h : store.Records payloads) :
    store.held.map Frame.payload = payloads.drop (payloads.length - store.capacity) := by
  rw [held, h.accepted_eq, List.map_filterMap, ← filterMap_range_eq_drop]
  apply List.filterMap_congr
  intro sequence hsequence
  have hpayload := List.getElem?_eq_getElem (List.mem_range.mp hsequence)
  rw [h.get?_eq hpayload]
  by_cases hwindow : payloads.length ≤ sequence + store.capacity
  · rw [if_pos hwindow, if_pos (by omega), hpayload]
    rfl
  · rw [if_neg hwindow, if_neg (by omega)]
    rfl

/-- The newest sequence tells how many payloads were accepted. -/
theorem Store.Records.succ_newest? {store : Store} {payloads : List Bytes}
    (h : store.Records payloads) : (store.newest?.map (· + 1)).getD 0 = payloads.length := by
  rw [h.newest?_eq]
  cases payloads with
  | nil => rfl
  | cons payload rest => rfl

end Held

section Counters

variable (limit : Nat) (results : List (Except CaptureFailure Bytes))

@[simp]
theorem storedFrames_append (earlier later : List (Except CaptureFailure Bytes)) :
    storedFrames limit (earlier ++ later) =
      storedFrames limit earlier ++ storedFrames limit later := by
  simp [storedFrames]

theorem storedFrames_cons (result : Except CaptureFailure Bytes) :
    storedFrames limit (result :: results) =
      storedFrames limit [result] ++ storedFrames limit results :=
  storedFrames_append limit [result] results

@[simp]
theorem storedFrames_error (failure : CaptureFailure) :
    storedFrames limit [.error failure] = [] := rfl

@[simp]
theorem storedFrames_ok (frame : Bytes) :
    storedFrames limit [.ok frame] = if frame.length ≤ limit then [frame] else [] := by
  by_cases hfits : frame.length ≤ limit <;> simp [storedFrames, Except.toOption, hfits]

namespace CaptureStats

/-- A capture that fails is one more that is lost. -/
theorem ofResults_concat_error (failure : CaptureFailure) :
    ofResults limit (results ++ [.error failure]) = (ofResults limit results).recordDrop := by
  simp [ofResults, isLost, recordDrop]

variable {limit} {frame : Bytes}

/-- A frame that is too large is lost. -/
theorem ofResults_concat_large (hlarge : limit < frame.length) :
    ofResults limit (results ++ [.ok frame]) = (ofResults limit results).recordDrop := by
  simp [ofResults, isLost, recordDrop, hlarge, Nat.not_le.mpr hlarge]

/-- Any other frame is stored, and is the last one. -/
theorem ofResults_concat_ok (hfits : frame.length ≤ limit) :
    ofResults limit (results ++ [.ok frame]) =
      (ofResults limit results).recordFrame frame.length := by
  simp [ofResults, isLost, recordFrame, hfits, Nat.not_lt.mpr hfits]

variable (limit)

/-- Every capture stores a frame or is lost. -/
theorem captured_add_dropped :
    (ofResults limit results).captured + (ofResults limit results).dropped = results.length := by
  induction results using List.reverseRecOn with
  | nil => rfl
  | append_singleton results result ih =>
    rw [List.length_append, List.length_singleton, ← ih]
    cases result with
    | error failure =>
      rw [ofResults_concat_error]
      rfl
    | ok frame =>
      by_cases hfits : frame.length ≤ limit
      · rw [ofResults_concat_ok _ hfits, recordFrame]
        dsimp only
        omega
      · rw [ofResults_concat_large _ (Nat.lt_of_not_le hfits)]
        rfl

end CaptureStats

end Counters

section Bind

variable {files : FileSystem} {config : Config}

/-- Where several steps have a result, the first one has and so have the others after it. -/
private theorem exists_of_bind {α β ε : Type} {first : Except ε α} {next : α → Except ε β} {b : β}
    (h : (first >>= next) = .ok b) : ∃ a, first = .ok a ∧ next a = .ok b := by
  cases first with
  | error failure => cases h
  | ok a => exact ⟨a, rfl, h⟩

/-- A configuration that can be met keeps frames. Of its settings the check changes the static root
alone. -/
theorem Config.check_eq_ok {checked : Config} (h : config.check files = .ok checked) :
    0 < config.frameBufferLength ∧ ∃ staticRoot, checked = { config with staticRoot } := by
  unfold check at h
  obtain ⟨staticRoot, -, h⟩ := exists_of_bind h
  simp only [bind, Except.bind, pure, Except.pure, throw, throwThe, MonadExceptOf.throw] at h
  grind

/-- A new server has no counts and an empty store for every source. -/
theorem Server.bind_eq_ok {network : Network} {engine : TlsEngine} {sources : List Source}
    {server : Server} (h : bind network engine files config sources = .ok server) :
    0 < config.frameBufferLength ∧
      server.capture = sources.map (fun source => { source }) ∧
      server.sources.stores =
        sources.map fun _ => .empty config.frameBufferLength config.maxFrameSize := by
  unfold bind at h
  obtain ⟨checked, hchecked, h⟩ := exists_of_bind h
  have hcheck : config.check files = .ok checked := by
    generalize config.check files = result at hchecked ⊢
    cases result with
    | error fault => cases hchecked
    | ok _ =>
      cases hchecked
      rfl
  obtain ⟨hpos, staticRoot, rfl⟩ := config.check_eq_ok hcheck
  -- What is left are the TLS material, if there is any, and the addresses.
  dsimp only at h
  split at h
  · obtain ⟨_, -, h⟩ := exists_of_bind h
    obtain ⟨listeners, -, h⟩ := exists_of_bind h
    obtain rfl := Except.ok.inj h
    exact ⟨hpos, rfl, rfl⟩
  · obtain ⟨listeners, -, h⟩ := exists_of_bind h
    obtain rfl := Except.ok.inj h
    exact ⟨hpos, rfl, rfl⟩

end Bind

namespace CaptureSlot

variable {slot : CaptureSlot} {store : Store} {next : Source} {frame : Bytes}

/-- A capture that fails leaves the store as it is. -/
theorem captureInto_error (store : Store) {failure : CaptureFailure}
    (htaken : slot.source.capture = (.error failure, next)) :
    slot.captureInto store = ({ source := next, stats := slot.stats.recordDrop }, store) := by
  rw [captureInto, htaken]

/-- A frame that is accepted is the newest one of the store. -/
theorem captureInto_ok {sequence : Nat} {after : Store}
    (htaken : slot.source.capture = (.ok frame, next))
    (hpush : store.push frame = .ok (sequence, after)) :
    slot.captureInto store =
      ({ source := next, stats := slot.stats.recordFrame frame.length }, after) := by
  rw [captureInto, htaken]
  dsimp only
  rw [hpush]

/-- A frame that is too large leaves the store as it is. -/
theorem captureInto_large (htaken : slot.source.capture = (.ok frame, next))
    (hlarge : store.maxPayload < frame.length) :
    slot.captureInto store = ({ source := next, stats := slot.stats.recordDrop }, store) := by
  have hpush : store.push frame =
      .error (.tooLarge (Frame.partSize frame.length) store.maxPayload) := if_pos hlarge
  rw [captureInto, htaken]
  dsimp only
  rw [hpush]

end CaptureSlot

namespace Server

section Tick

variable {registry : Registry} {index : Nat} {slot : CaptureSlot} {store : Store}

/-- A capture changes the stores like the push of its frame. -/
theorem captureFrom_fst (registry : Registry) (index : Nat) (slot : CaptureSlot) :
    (captureFrom registry index slot).1 =
      match slot.source.capture.1 with
      | .error _ => registry
      | .ok frame => registry.pushed index frame := by
  unfold captureFrom Registry.pushed
  obtain ⟨_ | frame, source⟩ := slot.source.capture
  · rfl
  · dsimp only
    cases registry.push index frame <;> rfl

/-- A capture touches the store of its own source alone. -/
theorem get?_captureFrom_of_ne {other : Nat} (registry : Registry) (slot : CaptureSlot)
    (hne : other ≠ index) :
    (captureFrom registry other slot).1.get? index = registry.get? index := by
  rw [captureFrom_fst]
  cases slot.source.capture.1 with
  | error failure => rfl
  | ok frame => exact Registry.get?_pushed_of_ne frame hne

/-- Captures make no sources and remove none. -/
theorem size_captureSlots (registry : Registry) (first : Nat) (slots : List CaptureSlot) :
    (captureSlots registry first slots).1.size = registry.size := by
  induction slots generalizing registry first with
  | nil => rfl
  | cons slot rest ih =>
    have hhead : (captureFrom registry first slot).1.size = registry.size := by
      rw [captureFrom_fst]
      cases slot.source.capture.1 with
      | error failure => rfl
      | ok frame => exact Registry.size_pushed registry first frame
    exact (ih _ _).trans hhead

/-- A capture from a source that has a store is one into this store. -/
theorem captureFrom_self (hstore : registry.get? index = some store) :
    (captureFrom registry index slot).2 = (slot.captureInto store).1 ∧
      (captureFrom registry index slot).1.get? index = some (slot.captureInto store).2 := by
  rw [captureFrom_fst]
  unfold captureFrom CaptureSlot.captureInto
  obtain ⟨_ | frame, source⟩ := slot.source.capture
  · exact ⟨rfl, hstore⟩
  · -- The registry gives the source what its store gives it.
    dsimp only
    cases hpush : store.push frame with
    | error failure =>
      have hrefused := (Registry.push_eq hstore frame).1 failure hpush
      rw [Registry.pushed, hrefused]
      exact ⟨rfl, hstore⟩
    | ok accepted =>
      obtain ⟨sequence, next⟩ := accepted
      rw [(Registry.push_eq hstore frame).2 sequence next hpush]
      exact ⟨rfl, Registry.get?_pushed_self hstore hpush⟩

/-- Captures from later sources leave a store alone. -/
theorem get?_captureSlots_of_lt (registry : Registry) (slots : List CaptureSlot) {first : Nat}
    (hlt : index < first) :
    (captureSlots registry first slots).1.get? index = registry.get? index := by
  induction slots generalizing registry first with
  | nil => rfl
  | cons slot rest ih =>
    exact (ih _ (Nat.lt_succ_of_lt hlt)).trans
      (get?_captureFrom_of_ne registry slot (Nat.ne_of_gt hlt))

/-- Captures from some sources are, at every index, one from its source into its store. Whether the
captures before it gave a frame makes no difference. -/
theorem captureSlots_at {slots : List CaptureSlot} {first position : Nat}
    (hslot : slots[position]? = some slot)
    (hstore : registry.get? (first + position) = some store) :
    (captureSlots registry first slots).2[position]? = some (slot.captureInto store).1 ∧
      (captureSlots registry first slots).1.get? (first + position) =
        some (slot.captureInto store).2 := by
  -- Induction on the sources, of which the first one has been captured from when the others are.
  induction slots generalizing registry first position with
  | nil => cases hslot
  | cons head rest ih =>
    cases position with
    | zero =>
      obtain rfl : head = slot := Option.some.inj hslot
      obtain ⟨hnext, hheld⟩ := captureFrom_self hstore
      refine ⟨congrArg some hnext, ?_⟩
      exact (get?_captureSlots_of_lt _ rest (Nat.lt_succ_self first)).trans hheld
    | succ position =>
      have hbefore :
          (captureFrom registry first head).1.get? (first + 1 + position) = some store := by
        rw [get?_captureFrom_of_ne registry head (by omega), ← hstore, Nat.add_right_comm,
          Nat.add_assoc]
      have hrest := ih hslot hbefore
      rwa [Nat.add_right_comm first 1, Nat.add_assoc first] at hrest

end Tick

variable {server : Server} {index : Nat}

/-- A tick of the captures does at every index what a capture from the source of this index does
into the store of this index. -/
theorem captureAll_at {slot : CaptureSlot} {store : Store}
    (hslot : server.capture[index]? = some slot) (hstore : server.sources.get? index = some store) :
    server.captureAll.capture[index]? = some (slot.captureInto store).1 ∧
      server.captureAll.sources.get? index = some (slot.captureInto store).2 := by
  have hstart : server.sources.get? (0 + index) = some store := by rwa [Nat.zero_add]
  have hat := captureSlots_at hslot hstart
  rwa [Nat.zero_add] at hat

end Server

namespace Service

/-- A tick of the captures. -/
def Event.isCapture : Event → Bool
  | capture => true
  | push _ | network .. | tick .. | shutdown => false

/-- The payload that is pushed directly. -/
def Event.pushed? : Event → Option Push
  | push offered => some offered
  | capture | network .. | tick .. | shutdown => none

/-- The payloads that come to the stores in order, by direct pushes for any source and by captures
from the source with this index, which is `source` at first. -/
def Event.offers (index : Nat) (source : Source) : List Event → List Push
  | [] => []
  | capture :: rest =>
    source.capture.1.toOption.toList.map (Push.mk index) ++ offers index source.capture.2 rest
  | push offered :: rest => offered :: offers index source rest
  | network .. :: rest | tick .. :: rest | shutdown :: rest => offers index source rest

theorem Event.countP_isCapture_cons (rest : List Event) :
    (.capture :: rest : List Event).countP isCapture = rest.countP isCapture + 1 :=
  List.countP_cons_of_pos rfl

/-- At this index the source has come this far. It has the counters of these results, and its store
has accepted these payloads. -/
structure Accounts (service : Service) (index capacity limit : Nat) (source : Source)
    (results : List (Except CaptureFailure Bytes)) (accepted : List Bytes) : Prop where
  slot_eq : service.server.capture[index]? = some { source, stats := .ofResults limit results }
  records : service.server.sources.Records index capacity limit accepted

variable {service : Service} {index capacity limit : Nat} {source : Source}
  {results : List (Except CaptureFailure Bytes)} {accepted : List Bytes}

/-- Clients have no part in the sources. -/
theorem sources_step_of_clients {event : Event} (hcapture : event.isCapture = false)
    (hpush : event.pushed? = none) :
    (service.step event).server.capture = service.server.capture ∧
      (service.step event).server.sources = service.server.sources := by
  cases event with
  | capture => cases hcapture
  | push offered => cases hpush
  | network id future =>
    have hrest := service.server.sameRest_handle (fun session => (.keep, session.reroute future)) id
    exact ⟨congrArg (·.capture) hrest, congrArg (·.sources) hrest⟩
  | tick now later files ready =>
    have hrest := service.server.sameRest_tick now later files ready
    obtain ⟨newcomers, hwelcome, -⟩ := service.server.welcomeAll_eq now ready.accepted
    rw [hwelcome] at hrest
    exact ⟨congrArg (·.capture) hrest, congrArg (·.sources) hrest⟩
  | shutdown => exact ⟨rfl, rfl⟩

theorem Accounts.ofClients (h : service.Accounts index capacity limit source results accepted)
    (event : Event) (hcapture : event.isCapture = false) (hpush : event.pushed? = none) :
    (service.step event).Accounts index capacity limit source results accepted := by
  obtain ⟨hslots, hstores⟩ := service.sources_step_of_clients hcapture hpush
  exact ⟨hslots ▸ h.slot_eq, hstores ▸ h.records⟩

/-- A tick of the captures adds one result, and its frame if there is one. -/
theorem Accounts.capture (h : service.Accounts index capacity limit source results accepted) :
    (service.step .capture).Accounts index capacity limit source.capture.2
      (results ++ [source.capture.1])
      (accepted ++
        acceptedBy index limit (source.capture.1.toOption.toList.map (Push.mk index))) := by
  obtain ⟨hslot, store, hstore, hrecords, hcapacity, hlimit⟩ := h
  obtain ⟨hnext, hheld⟩ := Server.captureAll_at hslot hstore
  -- The capture fails, its frame is stored, or the frame is too large.
  rcases htaken : source.capture with ⟨failure | frame, next⟩
  · rw [CaptureSlot.captureInto_error store htaken] at hnext hheld
    refine ⟨?_, store, hheld, ?_, hcapacity, hlimit⟩
    · rw [CaptureStats.ofResults_concat_error]
      exact hnext
    · simpa [acceptedBy, Except.toOption] using hrecords
  · by_cases hfits : frame.length ≤ limit
    · obtain ⟨after, hpush, hafter, hcap, hmax⟩ := hrecords.push (hlimit.symm ▸ hfits)
      rw [CaptureSlot.captureInto_ok htaken hpush] at hnext hheld
      refine ⟨?_, after, hheld, ?_, hcap.trans hcapacity, hmax.trans hlimit⟩
      · rw [CaptureStats.ofResults_concat_ok _ hfits]
        exact hnext
      · simpa [acceptedBy, Except.toOption, hfits] using hafter
    · have hlarge : limit < frame.length := Nat.lt_of_not_le hfits
      rw [CaptureSlot.captureInto_large htaken (hlimit.symm ▸ hlarge)] at hnext hheld
      refine ⟨?_, store, hheld, ?_, hcapacity, hlimit⟩
      · rw [CaptureStats.ofResults_concat_large _ hlarge]
        exact hnext
      · simpa [acceptedBy, Except.toOption, hfits] using hrecords

/-- A direct push adds its payload if it is for this source and not too large. -/
theorem Accounts.push (h : service.Accounts index capacity limit source results accepted)
    (offered : Push) :
    (service.step (.push offered)).Accounts index capacity limit source results
      (accepted ++ acceptedBy index limit [offered]) :=
  ⟨h.slot_eq, h.records.pushed offered⟩

/-- After any events the results of a source are those of as many captures as there were, and its
store has accepted what came to it. -/
theorem Accounts.run (h : service.Accounts index capacity limit source results accepted)
    (events : List Event) :
    ∃ last, (service.run events).Accounts index capacity limit last
      (results ++ source.results (events.countP Event.isCapture))
      (accepted ++ acceptedBy index limit (Event.offers index source events)) := by
  -- Induction from the front, with the source as the captures before have left it.
  induction events generalizing service source results accepted with
  | nil =>
    refine ⟨source, ?_⟩
    show service.Accounts index capacity limit source (results ++ []) (accepted ++ [])
    rwa [List.append_nil, List.append_nil]
  | cons event rest ih =>
    cases event with
    | capture =>
      obtain ⟨last, hlast⟩ := ih h.capture
      refine ⟨last, ?_⟩
      rw [List.append_assoc, List.append_assoc, ← acceptedBy_append] at hlast
      rwa [Event.countP_isCapture_cons, Source.results, Event.offers]
    | push offered =>
      obtain ⟨last, hlast⟩ := ih (h.push offered)
      refine ⟨last, ?_⟩
      rw [List.append_assoc, ← acceptedBy_append] at hlast
      exact hlast
    | network id future => exact ih (h.ofClients (.network id future) rfl rfl)
    | tick now later files ready => exact ih (h.ofClients (.tick now later files ready) rfl rfl)
    | shutdown => exact ih (h.ofClients .shutdown rfl rfl)

/-- A store has accepted the frames that were captured for it and the payloads that were pushed
directly, and no others. -/
theorem length_acceptedBy_offers (index limit : Nat) (source : Source) (events : List Event) :
    (acceptedBy index limit (Event.offers index source events)).length =
      (storedFrames limit (source.results (events.countP Event.isCapture))).length +
        (acceptedBy index limit (events.filterMap Event.pushed?)).length := by
  induction events generalizing source with
  | nil => rfl
  | cons event rest ih =>
    cases event with
    | capture =>
      have htaken : (acceptedBy index limit
          (source.capture.1.toOption.toList.map (Push.mk index))).length =
            (storedFrames limit [source.capture.1]).length := by
        cases source.capture.1 with
        | error failure => rfl
        | ok frame =>
          by_cases hfits : frame.length ≤ limit <;> simp [acceptedBy, Except.toOption, hfits]
      rw [Event.countP_isCapture_cons, Event.offers, Source.results, acceptedBy_append,
        List.length_append, htaken, ih, storedFrames_cons limit (source.capture.2.results _),
        List.length_append, Nat.add_assoc]
      rfl
    | push offered =>
      have hpushes : (.push offered :: rest : List Event).filterMap Event.pushed? =
          [offered] ++ rest.filterMap Event.pushed? := rfl
      rw [Event.offers, ← List.singleton_append, acceptedBy_append, List.length_append, ih, hpushes,
        acceptedBy_append, List.length_append, Nat.add_left_comm]
      rfl
    | network | tick | shutdown => exact ih source

/-- On a new server no source has been captured from, and no store has accepted anything. -/
theorem accounts_of_bind {network : Network} {engine : TlsEngine} {files : FileSystem}
    {config : Config} {sources : List Source}
    (hbind : Server.bind network engine files config sources = .ok service.server)
    (hsource : sources[index]? = some source) :
    service.Accounts index config.frameBufferLength config.maxFrameSize source [] [] := by
  obtain ⟨hpos, hslots, hstores⟩ := Server.bind_eq_ok hbind
  refine ⟨?_, .empty config.frameBufferLength config.maxFrameSize, ?_, .empty _ _, ?_, rfl⟩
  · rw [hslots, List.getElem?_map, hsource]
    rfl
  · rw [Registry.get?, hstores, List.getElem?_map, hsource]
    rfl
  · exact Nat.max_eq_left hpos

/-- The counters and the store of every source are those of its own captures and of the payloads
that were pushed directly for it. Every capture is counted once, as one that stored a frame or as
one that was lost. The store numbers what it accepts without gaps and holds the last payloads in
order. The next tick of the captures does at every index what it would do there without the others,
whatever these give. -/
theorem captures_accounted {network : Network} {engine : TlsEngine} {files : FileSystem}
    {config : Config} {sources : List Source}
    (hbind : Server.bind network engine files config sources = .ok service.server)
    (events : List Event) :
    let server := (service.run events).server
    let count := events.countP Event.isCapture
    let limit := config.maxFrameSize
    (∀ index source, sources[index]? = some source →
      let results := source.results count
      let direct := acceptedBy index limit (events.filterMap Event.pushed?)
      let history := acceptedBy index limit (Event.offers index source events)
      ∃ stats store, server.captureStats? index = some stats ∧
        server.sources.get? index = some store ∧
        stats.captured + stats.dropped = count ∧
        stats.dropped = results.countP (isLost limit) ∧
        stats.lastSize = ((storedFrames limit results).getLast?.map List.length).getD 0 ∧
        (store.newest?.map (· + 1)).getD 0 = stats.captured + direct.length ∧
        store.held.map Frame.payload = history.drop (history.length - config.frameBufferLength)) ∧
    ∀ index slot store, server.capture[index]? = some slot →
      server.sources.get? index = some store →
      server.captureAll.capture[index]? = some (slot.captureInto store).1 ∧
        server.captureAll.sources.get? index = some (slot.captureInto store).2 := by
  intro server count limit
  constructor
  swap
  -- That the next capture looks at one index at a time is true of every server.
  · intro index slot store hslot hstore
    exact Server.captureAll_at hslot hstore
  intro index source hsource results direct history
  obtain ⟨last, hslot, store, hstore, hrecords, hcapacity, -⟩ :=
    (accounts_of_bind hbind hsource).run events
  rw [List.nil_append] at hslot hrecords
  have hstats : server.captureStats? index = some (.ofResults limit results) := by
    rw [Server.captureStats?, hslot]
    rfl
  refine ⟨.ofResults limit results, store, hstats, hstore, ?_, rfl, rfl, ?_, ?_⟩
  · rw [CaptureStats.captured_add_dropped, Source.length_results]
  · have hlength : history.length = (storedFrames limit results).length + direct.length :=
      length_acceptedBy_offers index limit source events
    rw [hrecords.succ_newest?, hlength]
    rfl
  · rw [hrecords.held_eq, hcapacity]

section TwoCameras

/-- Frames end at four bytes, and one of them is kept. -/
def studioConfig : Config := { frameBufferLength := 1, maxFrameSize := 4 }

/-- The first camera gives a frame, fails and then gives a frame that is too large. The second one
is late. -/
def cameras : List Source :=
  [.recording ⟨[.inr [1, 2], .inl (.io "unplugged"), .inr [1, 2, 3, 4, 5]], 0, 0⟩,
    .recording ⟨[.inl .noFrame, .inr [7], .inr [8, 8, 8]], 0, 0⟩]

/-- A new server for both cameras. -/
def studio : Service where
  server :=
    { config := studioConfig
      router := { staticRoot := none, secret := none }
      sources := ⟨[.empty 1 4, .empty 1 4], 640, 480⟩
      capture := cameras.map fun source => { source }
      listeners := [.v6 .unspecified 0 8000, .v4 .unspecified 8000] }

/-- Three captures, and pushes for the first camera between them, one of which is refused. -/
def studioEvents : List Event :=
  [.capture, .push ⟨0, [5, 5, 5, 5, 5]⟩, .capture, .push ⟨0, [6]⟩, .capture]

/-- The first camera has one frame that was stored. The payload that was pushed after it has taken
its place. -/
theorem captures_accounted_twoCameras :
    Server.bind .isolated TlsMaterial.refuseAll {} studioConfig cameras = .ok studio.server ∧
      let server := (studio.run studioEvents).server
      ∃ stats store, server.captureStats? 0 = some stats ∧ server.sources.get? 0 = some store ∧
        stats.captured + stats.dropped = 3 ∧ stats.dropped = 2 ∧ stats.lastSize = 2 ∧
        (store.newest?.map (· + 1)).getD 0 = stats.captured + 1 ∧
        store.held.map Frame.payload = [[6]] := by
  have hbind : Server.bind .isolated TlsMaterial.refuseAll {} studioConfig cameras =
      .ok studio.server := rfl
  exact ⟨hbind, (captures_accounted hbind studioEvents).1 0 _ rfl⟩

end TwoCameras

end Service

end MotionJpeg
