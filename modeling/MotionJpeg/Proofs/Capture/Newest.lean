import Mathlib.Data.List.DropRight
import MotionJpeg.Proofs.Capture.Mailbox

/-!
# A capture keeps the newest frame

Whatever the producers and the source do, and in which order, the frames that were accepted since
the last capture tell what happens next: whether another one is accepted, and what a capture gives.

* `Feed.Event` is something that happened, and a list of them is a history.
* `Feed.next` says what happens after a history.
* `Mailbox.history_eq`: any queue that is first in, first out makes the history of a channel.
* `Channel.IsAfter.step_fst`, `Channel.IsAfter.step_snd`: what one step does to a channel.
* `Channel.IsAfter.isHistory_history`: what a run does.
* `Mailbox.captures_newest`: which frames come back, and which are lost.
-/

namespace MotionJpeg

namespace Feed

/-- What a producer or the source does. -/
inductive Operation where
  | send (frame : Bytes)
  | addSender
  | dropSender
  | capture
  deriving DecidableEq, Repr

/-- What a producer or the source did, and what came of it. -/
inductive Event where
  | sent (frame : Bytes) (outcome : Channel.SendOutcome)
  | senderAdded
  | senderDropped
  | captured (result : Except CaptureFailure Bytes)
  deriving DecidableEq, Repr

namespace Event

/-- What was done. -/
def operation : Event → Operation
  | sent frame _ => .send frame
  | senderAdded => .addSender
  | senderDropped => .dropSender
  | captured _ => .capture

def isCapture : Event → Bool
  | captured _ => true
  | _ => false

/-- The frame that was accepted. -/
def accepted? : Event → Option Bytes
  | sent frame .accepted => some frame
  | _ => none

/-- The frame that a capture gave. -/
def returned? : Event → Option Bytes
  | captured (.ok frame) => some frame
  | _ => none

/-- How many producers there are after an event. -/
def sendersAfter (senders : Nat) : Event → Nat
  | senderAdded => if senders = 0 then 0 else senders + 1
  | senderDropped => senders - 1
  | _ => senders

end Event

/-- The frames that were accepted. -/
def accepted (events : List Event) : List Bytes := events.filterMap Event.accepted?

/-- The frames that captures gave. -/
def returned (events : List Event) : List Bytes := events.filterMap Event.returned?

/-- The frames that were accepted after the last capture. -/
def fresh (events : List Event) : List Bytes :=
  accepted (events.rtakeWhile fun event => !event.isCapture)

/-- For each capture, the frames that were accepted between the capture before and this one. -/
def batches (events : List Event) : List (List Bytes) :=
  (List.range events.length).filterMap fun i =>
    if events[i]?.any Event.isCapture then some (fresh (events.take i)) else none

/-- How many producers there are, of which the first one is there from the beginning. -/
def senders (events : List Event) : Nat := events.foldl Event.sendersAfter 1

/-- What happens in a queue of this capacity after a history. -/
def next (capacity : Nat) (past : List Event) : Operation → Event
  | .send frame => .sent frame <|
    if senders past = 0 then .noSender
    else if (fresh past).length < capacity then .accepted
    else .full
  | .addSender => .senderAdded
  | .dropSender => .senderDropped
  | .capture => .captured <|
    (fresh past).getLast?.elim
      (.error (if senders past = 0 then Channel.producerGone else .noFrame)) .ok

/-- What happens step by step. -/
def history {σ : Type} (step : σ → Operation → Event × σ) : σ → List Operation → List Event
  | _, [] => []
  | s, operation :: operations =>
    (step s operation).1 :: history step (step s operation).2 operations

section History

variable (past : List Event) (event : Event)

theorem senders_concat : senders (past ++ [event]) = event.sendersAfter (senders past) := by
  rw [senders, List.foldl_concat, senders]

theorem accepted_concat : accepted (past ++ [event]) = accepted past ++ event.accepted?.toList := by
  rw [accepted, List.filterMap_append, accepted]
  cases h : event.accepted? <;> simp [h]

theorem fresh_concat : fresh (past ++ [event]) =
    if event.isCapture then [] else fresh past ++ event.accepted?.toList := by
  rw [fresh, List.rtakeWhile_concat]
  cases h : event.isCapture
  · exact accepted_concat _ event
  · rfl

/-- A capture completes a batch. -/
theorem batches_concat : batches (past ++ [event]) =
    batches past ++ if event.isCapture then [fresh past] else [] := by
  rw [batches, List.length_append, List.length_singleton, List.range_succ, List.filterMap_append]
  congr 1
  · -- The captures of the past have the same events before them.
    refine List.filterMap_congr fun i hi => ?_
    rw [List.mem_range] at hi
    rw [List.getElem?_append_left hi, List.take_append_of_le_length hi.le]
  · cases h : event.isCapture <;> simp [h]

/-- As long as there is no capture, frames gather. -/
theorem fresh_append {between : List Event} (h : ∀ event ∈ between, event.isCapture = false) :
    fresh (past ++ between) = fresh past ++ accepted between := by
  -- What is fresh is counted from the end, so the history grows there.
  induction between using List.reverseRecOn with
  | nil => simp [accepted]
  | append_singleton between event ih =>
    rw [List.forall_mem_append, List.forall_mem_singleton] at h
    rw [← List.append_assoc, fresh_concat, h.2, ih h.1, accepted_concat, List.append_assoc]
    rfl

/-- An accepted frame belongs to the batch of a capture, or none came after it. -/
theorem accepted_eq : accepted past = (batches past).flatten ++ fresh past := by
  induction past using List.reverseRecOn with
  | nil => rfl
  | append_singleton past event ih =>
    rw [accepted_concat, batches_concat, fresh_concat, ih]
    cases event <;> simp [Event.isCapture, Event.accepted?]

end History

/-- Each thing that happened is what happens after the things before it. -/
def IsHistory (capacity : Nat) (events : List Event) : Prop :=
  ∀ before event after, events = before ++ event :: after →
    event = next capacity before event.operation

namespace IsHistory

variable {capacity : Nat} {events : List Event} (h : IsHistory capacity events)

include h

theorem of_append {before after : List Event} (heq : events = before ++ after) :
    IsHistory capacity before := by
  rintro start event rest rfl
  exact h start event (rest ++ after) (by simp [heq])

/-- A history goes on with what happens next. -/
theorem concat {event : Event} (hevent : event = next capacity events event.operation) :
    IsHistory capacity (events ++ [event]) := by
  intro before last after heq
  rcases List.eq_nil_or_concat' after with rfl | ⟨after, final, rfl⟩
  · obtain ⟨rfl, hlast⟩ := List.append_inj' heq rfl
    cases hlast
    exact hevent
  · rw [← List.cons_append, ← List.append_assoc] at heq
    exact h before last after (List.append_inj' heq rfl).1

/-- A capture gives the last frame of its batch. -/
theorem returned_eq : returned events = (batches events).filterMap List.getLast? := by
  induction events using List.reverseRecOn with
  | nil => rfl
  | append_singleton past event ih =>
    have hevent := h past event [] rfl
    rw [returned, List.filterMap_append, ← returned, ih (h.of_append rfl), batches_concat,
      List.filterMap_append]
    congr 1
    cases event with
    | captured result =>
      -- Nothing is returned exactly if the batch is empty.
      rw [Event.operation, next, Event.captured.injEq] at hevent
      cases hlast : (fresh past).getLast? <;>
        simp [hevent, hlast, Event.isCapture, Event.returned?]
    | _ => rfl

/-- The capture after a frame gives that frame, unless a later one took its place. -/
theorem superseded_eq {before between after : List Event} {frame : Bytes}
    {result : Except CaptureFailure Bytes}
    (heq : events = before ++ .sent frame .accepted :: (between ++ .captured result :: after))
    (hbetween : ∀ event ∈ between, event.isCapture = false) :
    result = .ok ((accepted between).getLast?.getD frame) := by
  have hevent := h (before ++ .sent frame .accepted :: between) (.captured result) after
    (by simp [heq])
  have hfresh : fresh (before ++ .sent frame .accepted :: between) =
      fresh before ++ frame :: accepted between := by
    rw [← List.singleton_append, ← List.append_assoc, fresh_append _ hbetween, fresh_concat]
    simp [Event.isCapture, Event.accepted?]
  rw [Event.operation, next, hfresh, Event.captured.injEq, List.getLast?_append_cons,
    List.getLast?_cons] at hevent
  exact hevent

end IsHistory

end Feed

open Feed (Operation Event)

/-- A producer or the source does something. -/
def Channel.step (channel : Channel) : Operation → Event × Channel
  | .send frame => (.sent frame (channel.send frame).1, (channel.send frame).2)
  | .addSender => (.senderAdded, channel.addSender)
  | .dropSender => (.senderDropped, channel.dropSender)
  | .capture => (.captured channel.capture.1, channel.capture.2)

/-- What is done is what was to be done. -/
theorem Channel.operation_step (channel : Channel) (operation : Operation) :
    (channel.step operation).1.operation = operation := by
  cases operation <;> rfl

theorem Channel.map_operation_history (channel : Channel) (operations : List Operation) :
    (Feed.history step channel operations).map Event.operation = operations := by
  induction operations generalizing channel with
  | nil => rfl
  | cons operation operations ih =>
    rw [Feed.history, List.map_cons, operation_step, ih]

namespace Mailbox

variable (mailbox : Mailbox)

/-- A producer or the source does something. Without producers nothing is sent, and no producer is
made or goes away. -/
def step (s : mailbox.State) : Operation → Event × mailbox.State
  | .send frame =>
    if (mailbox.view s).senders = 0 then (.sent frame .noSender, s)
    else
      (.sent frame (if (mailbox.trySend s frame).1 then .accepted else .full),
        (mailbox.trySend s frame).2)
  | .addSender =>
    (.senderAdded, if (mailbox.view s).senders = 0 then s else mailbox.addSender s)
  | .dropSender =>
    (.senderDropped, if (mailbox.view s).senders = 0 then s else mailbox.dropSender s)
  | .capture => (.captured (mailbox.capture s).1, (mailbox.capture s).2)

/-- The loop captures what the queue of a channel has at its end. -/
theorem step_capture_eq {s : mailbox.State} {channel : Channel}
    (h : mailbox.view s = channel.toQueue) :
    (mailbox.step s .capture).1 = (channel.step .capture).1 ∧
      mailbox.view (mailbox.step s .capture).2 = (channel.step .capture).2.toQueue := by
  rw [step, Channel.step, (mailbox.capture_eq s).1, (mailbox.capture_eq s).2, h,
    Channel.capture_eq]
  exact ⟨rfl, rfl⟩

/-- What happens in a mailbox happens in a channel with the same queue. -/
theorem step_eq {s : mailbox.State} {channel : Channel} (h : mailbox.view s = channel.toQueue)
    (operation : Operation) :
    (mailbox.step s operation).1 = (channel.step operation).1 ∧
      mailbox.view (mailbox.step s operation).2 = (channel.step operation).2.toQueue := by
  have hsenders : (mailbox.view s).senders = channel.senders := by rw [h, Channel.toQueue]
  -- What the queue does is known only while there is a producer.
  by_cases hgone : (mailbox.view s).senders = 0
  case pos =>
    have hchannel : channel.senders = 0 := hsenders.symm.trans hgone
    cases operation with
    | send frame =>
      rw [step, if_pos hgone, Channel.step, Channel.send_of_senders_eq_zero hchannel]
      exact ⟨rfl, h⟩
    | addSender =>
      rw [step, if_pos hgone, Channel.step, Channel.addSender, if_pos hchannel]
      exact ⟨rfl, h⟩
    | dropSender =>
      rw [step, if_pos hgone, h, Channel.step, Channel.dropSender, hchannel, Channel.toQueue,
        hchannel]
      exact ⟨rfl, rfl⟩
    | capture => exact mailbox.step_capture_eq h
  case neg =>
    have hchannel : channel.senders ≠ 0 := fun hzero => hgone (hsenders.trans hzero)
    cases operation with
    | send frame =>
      rw [step, if_neg hgone, Channel.step]
      rcases Nat.lt_or_ge channel.queue.length channel.capacity with hlength | hlength
      · obtain ⟨haccepted, hview⟩ := mailbox.trySend_of_lt s frame hgone (by rw [h]; exact hlength)
        rw [Channel.send_of_lt hchannel hlength, haccepted, hview, h]
        exact ⟨rfl, rfl⟩
      · obtain ⟨hfull, hview⟩ := mailbox.trySend_of_le s frame hgone (by rw [h]; exact hlength)
        rw [Channel.send_of_le hchannel hlength, hfull, hview, h]
        exact ⟨rfl, rfl⟩
    | addSender =>
      rw [step, if_neg hgone, mailbox.view_addSender s hgone, h, Channel.step,
        Channel.addSender_of_senders_ne_zero hchannel]
      exact ⟨rfl, rfl⟩
    | dropSender =>
      rw [step, if_neg hgone, mailbox.view_dropSender s hgone, h]
      exact ⟨rfl, rfl⟩
    | capture => exact mailbox.step_capture_eq h

/-- Any queue that is first in, first out has the history of a channel. -/
theorem history_eq {s : mailbox.State} {channel : Channel} (h : mailbox.view s = channel.toQueue)
    (operations : List Operation) :
    Feed.history mailbox.step s operations = Feed.history Channel.step channel operations := by
  induction operations generalizing s channel with
  | nil => rfl
  | cons operation operations ih =>
    obtain ⟨hevent, hview⟩ := mailbox.step_eq h operation
    rw [Feed.history, hevent, ih hview, Feed.history]

end Mailbox

namespace Channel

/-- The channel has a queue of this capacity and this history. -/
structure IsAfter (channel : Channel) (capacity : Nat) (past : List Event) : Prop where
  capacity_eq : channel.capacity = capacity
  queue_eq : channel.queue = Feed.fresh past
  senders_eq : channel.senders = Feed.senders past

theorem isAfter_new (capacity width height : Nat) :
    (new capacity width height).IsAfter (max capacity 1) [] := ⟨rfl, rfl, rfl⟩

namespace IsAfter

variable {channel : Channel} {capacity : Nat} {past : List Event}
  (h : channel.IsAfter capacity past)

include h

/-- What happens in a channel is what happens after its history. -/
theorem step_fst (operation : Operation) :
    (channel.step operation).1 = Feed.next capacity past operation := by
  cases operation with
  | send frame =>
    rw [step, Feed.next, send, h.senders_eq, h.queue_eq, h.capacity_eq]
    split
    · rfl
    · split <;> rfl
  | addSender => rfl
  | dropSender => rfl
  | capture => rw [step, Feed.next, capture_eq, h.senders_eq, h.queue_eq]

/-- An event that is no capture and accepts nothing leaves the queue as it is. -/
theorem concat {event : Event} (hcapture : event.isCapture = false)
    (haccepted : event.accepted? = none) {senders : Nat}
    (hsenders : senders = event.sendersAfter channel.senders) :
    IsAfter { channel with senders } capacity (past ++ [event]) where
  capacity_eq := h.capacity_eq
  queue_eq := by
    rw [Feed.fresh_concat, hcapture, haccepted, ← h.queue_eq]
    exact (List.append_nil _).symm
  senders_eq := by rw [Feed.senders_concat, ← h.senders_eq, hsenders]

/-- The queue stays what the history says. -/
theorem step_snd (operation : Operation) : (channel.step operation).2.IsAfter capacity
    (past ++ [(channel.step operation).1]) := by
  cases operation with
  | send frame =>
    rw [step]
    by_cases hgone : channel.senders = 0
    · rw [send_of_senders_eq_zero hgone]
      exact h.concat rfl rfl rfl
    · rcases Nat.lt_or_ge channel.queue.length channel.capacity with hlength | hlength
      · rw [send_of_lt hgone hlength]
        refine ⟨h.capacity_eq, ?_, ?_⟩
        · rw [Feed.fresh_concat, ← h.queue_eq]
          rfl
        · rw [Feed.senders_concat, ← h.senders_eq]
          rfl
      · rw [send_of_le hgone hlength]
        exact h.concat rfl rfl rfl
  | addSender =>
    rw [step, addSender]
    split
    case isTrue hgone => exact h.concat rfl rfl (by rw [Event.sendersAfter, if_pos hgone, hgone])
    case isFalse hgone => exact h.concat rfl rfl (by rw [Event.sendersAfter, if_neg hgone])
  | dropSender => exact h.concat rfl rfl rfl
  | capture =>
    rw [step, capture_eq]
    refine ⟨h.capacity_eq, ?_, ?_⟩
    · rw [Feed.fresh_concat]
      rfl
    · rw [Feed.senders_concat, ← h.senders_eq]
      rfl

/-- A whole run goes on like the history before it. -/
theorem isHistory_history (operations : List Operation) (hpast : Feed.IsHistory capacity past) :
    Feed.IsHistory capacity (past ++ Feed.history step channel operations) := by
  -- Along the operations, each event joins the past of those after it.
  induction operations generalizing channel past with
  | nil => rwa [Feed.history, List.append_nil]
  | cons operation operations ih =>
    have hnext := h.step_snd operation
    rw [Feed.history, List.append_cons]
    refine ih hnext (hpast.concat ?_)
    rw [operation_step, h.step_fst]

end IsAfter

/-- What happens in a new channel is a history. -/
theorem isHistory_new (capacity width height : Nat) (operations : List Operation) :
    Feed.IsHistory (max capacity 1)
      (Feed.history step (new capacity width height) operations) := by
  have hempty : Feed.IsHistory (max capacity 1) [] := by
    intro before event after heq
    simp at heq
  exact (isAfter_new capacity width height).isHistory_history operations hempty

end Channel

/-- Which frames a queue of this capacity takes, and which of them come back. -/
structure Feed.KeepsNewest (capacity : Nat) (events : List Event) : Prop where
  /-- A producer hands over a frame exactly if not too many were accepted since the last capture. -/
  sent_eq : ∀ before frame outcome after, events = before ++ .sent frame outcome :: after →
    outcome =
      if senders before = 0 then .noSender
      else if (fresh before).length < capacity then .accepted
      else .full
  /-- A capture gives the last frame accepted since the capture before, also if the producers are
  gone. Without one it matters whether they are. -/
  captured_eq : ∀ before result after, events = before ++ .captured result :: after →
    result = (fresh before).getLast?.elim
      (.error (if senders before = 0 then Channel.producerGone else .noFrame)) .ok
  /-- The capture after a frame gives that frame, unless a later one took its place. -/
  superseded_eq : ∀ before frame between result after,
    events = before ++ .sent frame .accepted :: (between ++ .captured result :: after) →
    (∀ event ∈ between, event.isCapture = false) →
    result = .ok ((accepted between).getLast?.getD frame)
  /-- Every accepted frame is in the batch of one capture, or waits for the next. -/
  accepted_eq : accepted events = (batches events).flatten ++ fresh events
  /-- Of each batch, the last frame is returned and no other. -/
  returned_eq : returned events = (batches events).filterMap List.getLast?

theorem Feed.IsHistory.keepsNewest {capacity : Nat} {events : List Event}
    (h : IsHistory capacity events) : KeepsNewest capacity events where
  sent_eq before frame outcome after heq := by
    have hevent := h before _ after heq
    rw [Event.operation, next, Event.sent.injEq] at hevent
    exact hevent.2
  captured_eq before result after heq := by
    have hevent := h before _ after heq
    rwa [Event.operation, next, Event.captured.injEq] at hevent
  superseded_eq _ _ _ _ _ heq hbetween := h.superseded_eq heq hbetween
  accepted_eq := Feed.accepted_eq events
  returned_eq := h.returned_eq

/-- Whatever producers and the source do in whichever order, captures through a queue that is first
in, first out return the newest frames, and a channel does the same. -/
theorem Mailbox.captures_newest (mailbox : Mailbox) (capacity width height : Nat)
    (operations : List Operation) :
    ∃ events : List Event,
      (mailbox.new (max capacity 1)).map (Feed.history mailbox.step · operations) =
        (if max capacity 1 ≤ mailbox.maxCapacity then some events else none) ∧
      Feed.history Channel.step (Channel.new capacity width height) operations = events ∧
      events.map Event.operation = operations ∧
      Feed.KeepsNewest (max capacity 1) events := by
  refine ⟨Feed.history Channel.step (Channel.new capacity width height) operations, ?_, rfl,
    Channel.map_operation_history _ operations,
    (Channel.isHistory_new capacity width height operations).keepsNewest⟩
  by_cases hle : max capacity 1 ≤ mailbox.maxCapacity
  · have hpos : 0 < max capacity 1 := Nat.lt_of_lt_of_le Nat.one_pos (le_max_right _ _)
    obtain ⟨s, hnew, hview⟩ := mailbox.exists_new _ hpos hle
    rw [if_pos hle, hnew, Option.map_some]
    exact congrArg some (mailbox.history_eq hview operations)
  · rw [if_neg hle, mailbox.new_eq_none _ (Nat.not_le.mp hle), Option.map_none]

/-- A second frame takes the place of the first one, a third one finds no place, and the captures
after the producers are gone give the second frame and then a broken pipe. -/
theorem Mailbox.captures_newest_producerGone :
    let operations : List Operation :=
      [.capture, .send [1], .send [2], .send [3], .addSender, .dropSender, .dropSender, .capture,
        .capture, .send [4]]
    let events : List Event :=
      [.captured (.error .noFrame), .sent [1] .accepted, .sent [2] .accepted, .sent [3] .full,
        .senderAdded, .senderDropped, .senderDropped, .captured (.ok [2]),
        .captured (.error (.io { reason := "frame producer went away", kind := .brokenPipe })),
        .sent [4] .noSender]
    ((Channel.mailbox 640 480).new 2).map
        (Feed.history (Channel.mailbox 640 480).step · operations) = some events ∧
      Feed.KeepsNewest 2 events := by
  intro operations events
  obtain ⟨_, hmailbox, hchannel, _, hnewest⟩ :=
    captures_newest (Channel.mailbox 640 480) 2 640 480 operations
  have hevents : Feed.history Channel.step (Channel.new 2 640 480) operations = events := by
    decide +kernel
  have hle : max 2 1 ≤ (Channel.mailbox 640 480).maxCapacity := by decide
  rw [← hchannel, hevents] at hmailbox hnewest
  rw [if_pos hle] at hmailbox
  exact ⟨hmailbox, hnewest⟩

end MotionJpeg
