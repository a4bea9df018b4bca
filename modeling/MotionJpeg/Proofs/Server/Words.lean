import MotionJpeg.Proofs.Server.Captures
import MotionJpeg.Proofs.Session.Exchange
import MotionJpeg.Proofs.Session.Past

/-!
# Counters in words

A machine keeps its counters in words of 64 bits, where a sum that does not fit begins again from
zero. Such words tell the counters as long as these fit, in however many steps they were counted.

* `SessionStats.Words` and `CaptureStats.Words` are counters in words.
* `Exchange.stats_eq_wordStats`: words tell the counters of a session along every run.
* `Service.captureStats?_eq_ofResults`: they tell those of a source after any events.
-/

namespace MotionJpeg

namespace SessionStats

/-- The counters of a client in words. -/
structure Words where
  bytesReceived : UInt64 := 0
  bytesSent : UInt64 := 0
  framesSent : UInt64 := 0
  requestsServed : UInt64 := 0
  deriving DecidableEq, Repr

namespace Words

/-- The numbers in the words. -/
def toStats (words : Words) : SessionStats where
  bytesReceived := words.bytesReceived.toNat
  bytesSent := words.bytesSent.toNat
  framesSent := words.framesSent.toNat
  requestsServed := words.requestsServed.toNat

/-- What is counted further is added word by word. -/
def plus (words : Words) (later : SessionStats) : Words where
  bytesReceived := words.bytesReceived + .ofNat later.bytesReceived
  bytesSent := words.bytesSent + .ofNat later.bytesSent
  framesSent := words.framesSent + .ofNat later.framesSent
  requestsServed := words.requestsServed + .ofNat later.requestsServed

end Words

/-- What words keep of the counters. -/
def toWords (stats : SessionStats) : Words where
  bytesReceived := .ofNat stats.bytesReceived
  bytesSent := .ofNat stats.bytesSent
  framesSent := .ofNat stats.framesSent
  requestsServed := .ofNat stats.requestsServed

/-- Every counter fits into a word. -/
structure Fits (stats : SessionStats) : Prop where
  bytesReceived_lt : stats.bytesReceived < UInt64.size
  bytesSent_lt : stats.bytesSent < UInt64.size
  framesSent_lt : stats.framesSent < UInt64.size
  requestsServed_lt : stats.requestsServed < UInt64.size

variable {stats : SessionStats}

theorem plus_empty (stats : SessionStats) : stats.plus {} = stats := by simp [plus]

/-- Words keep of a sum what they make of it themselves. -/
theorem toWords_plus (earlier later : SessionStats) :
    (earlier.plus later).toWords = earlier.toWords.plus later := by
  simp [plus, toWords, Words.plus, UInt64.ofNat_add]

theorem Fits.toStats_toWords (h : stats.Fits) : stats.toWords.toStats = stats := by
  simp only [toWords, Words.toStats, UInt64.toNat_ofNat_of_lt' h.bytesReceived_lt,
    UInt64.toNat_ofNat_of_lt' h.bytesSent_lt, UInt64.toNat_ofNat_of_lt' h.framesSent_lt,
    UInt64.toNat_ofNat_of_lt' h.requestsServed_lt]

end SessionStats

namespace Exchange

variable (exchange : Exchange)

/-- What an event counts, told by a session that has counted nothing before. -/
def gain (event : Event) : SessionStats :=
  (Exchange.step ⟨{ exchange.session with stats := {} }, exchange.sources⟩ event).session.stats

/-- An event adds what it counts to what was counted before. -/
theorem stats_step (event : Event) :
    (exchange.step event).session.stats = exchange.session.stats.plus (exchange.gain event) := by
  -- But for its counters the session is the one that has counted nothing.
  have hpresent : Session.SamePresent exchange.session.id exchange.session.stats (· = ·)
      { exchange.session with stats := {} } exchange.session :=
    ⟨exchange.session.lastActivity, rfl, by rw [SessionStats.plus_empty]⟩
  cases event with
  | push offered => exact (SessionStats.plus_empty _).symm
  | network future => exact (SessionStats.plus_empty _).symm
  | receive now router files =>
    obtain ⟨-, last, -, hnext⟩ := hpresent.receive (rfl : now = now) router files exchange.sources
    rw [step, hnext]
    rfl
  | send now files =>
    obtain ⟨-, last, -, hnext⟩ := hpresent.send (rfl : now = now) files exchange.sources
    rw [step, hnext]
    rfl

/-- The counters in words after some events, each of which adds what it counts. -/
def wordStats (words : SessionStats.Words) (exchange : Exchange) :
    List Event → SessionStats.Words
  | [] => words
  | event :: events => (exchange.step event).wordStats (words.plus (exchange.gain event)) events

/-- Along every run words keep of the counters what they make of them themselves. -/
theorem wordStats_toWords (events : List Event) :
    exchange.wordStats exchange.session.stats.toWords events =
      (exchange.run events).session.stats.toWords := by
  induction events generalizing exchange with
  | nil => rfl
  | cons event events ih =>
    rw [wordStats, ← SessionStats.toWords_plus, ← stats_step, ih]
    rfl

/-- Words tell the counters of a session after any events, as long as these fit into them. -/
theorem stats_eq_wordStats {events : List Event}
    (h : (exchange.run events).session.stats.Fits) : (exchange.run events).session.stats =
      (exchange.wordStats exchange.session.stats.toWords events).toStats := by
  rw [wordStats_toWords, h.toStats_toWords]

end Exchange

namespace CaptureStats

/-- The counters of a source in words. -/
structure Words where
  captured : UInt64 := 0
  dropped : UInt64 := 0
  lastSize : UInt64 := 0
  deriving DecidableEq, Repr

namespace Words

/-- The numbers in the words. -/
def toStats (words : Words) : CaptureStats where
  captured := words.captured.toNat
  dropped := words.dropped.toNat
  lastSize := words.lastSize.toNat

/-- A frame of this size was stored. -/
def recordFrame (words : Words) (size : Nat) : Words :=
  { words with captured := words.captured + 1, lastSize := .ofNat size }

/-- A capture failed or its frame was refused. -/
def recordDrop (words : Words) : Words := { words with dropped := words.dropped + 1 }

/-- One more result is recorded, when no frame may be longer than `limit`. -/
def record (limit : Nat) (words : Words) : Except CaptureFailure Bytes → Words
  | .error _ => words.recordDrop
  | .ok frame => if frame.length ≤ limit then words.recordFrame frame.length else words.recordDrop

/-- The counters in words after some results. -/
def ofResults (limit : Nat) (results : List (Except CaptureFailure Bytes)) : Words :=
  results.foldl (record limit) {}

end Words

/-- What words keep of the counters. -/
def toWords (stats : CaptureStats) : Words where
  captured := .ofNat stats.captured
  dropped := .ofNat stats.dropped
  lastSize := .ofNat stats.lastSize

variable (stats : CaptureStats) (limit : Nat) (results : List (Except CaptureFailure Bytes))

theorem toWords_recordFrame (size : Nat) :
    (stats.recordFrame size).toWords = stats.toWords.recordFrame size := by
  simp [recordFrame, toWords, Words.recordFrame, UInt64.ofNat_add]

theorem toWords_recordDrop : stats.recordDrop.toWords = stats.toWords.recordDrop := by
  simp [recordDrop, toWords, Words.recordDrop, UInt64.ofNat_add]

/-- Words keep of the counters what they make of the results themselves. -/
theorem toWords_ofResults : (ofResults limit results).toWords = .ofResults limit results := by
  induction results using List.reverseRecOn with
  | nil => rfl
  | append_singleton results result ih =>
    rw [Words.ofResults, List.foldl_concat, ← Words.ofResults, ← ih]
    cases result with
    | error failure => rw [ofResults_concat_error, toWords_recordDrop, Words.record]
    | ok frame =>
      rw [Words.record]
      by_cases hfits : frame.length ≤ limit
      · rw [if_pos hfits, ofResults_concat_ok _ hfits, toWords_recordFrame]
      · rw [if_neg hfits, ofResults_concat_large _ (Nat.lt_of_not_le hfits), toWords_recordDrop]

/-- The last frame that was stored is not too large. -/
theorem lastSize_ofResults_le : (ofResults limit results).lastSize ≤ limit := by
  rw [ofResults]
  cases hlast : (storedFrames limit results).getLast? with
  | none => exact Nat.zero_le limit
  | some frame =>
    have hmem := List.mem_filter.mp (List.mem_of_getLast? hlast)
    exact of_decide_eq_true hmem.2

/-- Words tell the counters of a source after some results, if there are not too many of them. -/
theorem ofResults_eq_toStats (hcount : results.length < UInt64.size)
    (hlimit : limit < UInt64.size) :
    ofResults limit results = (Words.ofResults limit results).toStats := by
  have hsum := captured_add_dropped limit results
  have hlast := lastSize_ofResults_le limit results
  have hcaptured : (ofResults limit results).captured < UInt64.size := by omega
  have hdropped : (ofResults limit results).dropped < UInt64.size := by omega
  rw [← toWords_ofResults, toWords, Words.toStats, UInt64.toNat_ofNat_of_lt' hcaptured,
    UInt64.toNat_ofNat_of_lt' hdropped,
    UInt64.toNat_ofNat_of_lt' (Nat.lt_of_le_of_lt hlast hlimit)]

end CaptureStats

/-- Words tell the counters of every source after any events, if there were not too many
captures. -/
theorem Service.captureStats?_eq_ofResults {service : Service} {network : Network}
    {engine : TlsEngine} {files : FileSystem} {config : Config} {sources : List Source}
    (hbind : Server.bind network engine files config sources = .ok service.server)
    {index : Nat} {source : Source} (hsource : sources[index]? = some source)
    (hlimit : config.maxFrameSize < UInt64.size) {events : List Event}
    (hcount : events.countP Event.isCapture < UInt64.size) :
    (service.run events).server.captureStats? index =
      some (CaptureStats.Words.ofResults config.maxFrameSize
        (source.results (events.countP Event.isCapture))).toStats := by
  obtain ⟨last, hlast⟩ := (accounts_of_bind hbind hsource).run events
  rw [← CaptureStats.ofResults_eq_toStats _ _ (by rwa [Source.length_results]) hlimit,
    Server.captureStats?, hlast.slot_eq]
  rfl

end MotionJpeg
