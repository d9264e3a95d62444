import StratumProxy.Session.Loop

/-!
# Outbound Send Tasks

The two tasks `ConnTranslation::run` spawns to pump translated frames out:
the V1 task, an `async` block draining `v1_translation_rx` into the upstream
sink, and `ConnTranslation::v2_send_task`, which drains
`v2_translation_rx` into the downstream sink through `v2_try_send_frame`.

Both run concurrently with the translator, which enqueues frames into the
bounded `mpsc` channel whenever it likes, and with whatever drops the
channel's senders. A `Pump` is the state of one such channel and its task,
and `Pump.Step` is every move any of the parties can make: the translator
enqueues while there is room and the task is still receiving, the senders
close, and the task takes the oldest frame and sends it, the sink answering
success or failure at every frame. `Pump.Reachable` states are those some
interleaving of these moves reaches, so the results hold for every order of
enqueues, every point of closing and every pattern of send failures.

The channel is `futures`' `mpsc::channel(MAX_TRANSLATION_CHANNEL_SIZE)`,
which shares that many slots among its senders and keeps one more for each
sender (`channelCapacity`). Every result holds for every capacity.

The two tasks differ in how they send and in what they return. The V1 task
calls the sink's `send` and `break`s on an error, the block returning `()`;
the V2 task sends through `v2_try_send_frame` and returns its error by `?`.
A `SendTask` records both: how one turn sends a frame, and what the task
returns at the end of the channel or after a failed send. Both pass the
sink's answer on (`SendTask.Forwards`), which is all the results about the
answers ask of a task. When a task stops, its receiver is dropped, the
frames still buffered go with it, and the translator's further sends fail,
so nothing more is enqueued.

The lists `enqueued`, `sent` and `answers` are observations: what the
translator has put into the channel, what the task has passed to the sink,
and the sink's answer to each, in order.

## Main definitions

* `channelCapacity`: The frames a translation channel holds.
* `TaskState`: Running, stopped at the channel's end, or stopped by a failed
  send.
* `Pump`: The channel, its task, and the observations.
* `SendTask`, `v1SendTask`, `v2SendTask`: How each task sends, and what it
  returns.
* `Pump.Step`, `Pump.Reachable`: The moves of the translator, the senders
  and the task.
* `Pump.Inv`, `Pump.Answered`: The invariants relating the observations to
  the channel and to the sink's answers.

## Theorems

* `Pump.Reachable.inv`, `Pump.Reachable.answered`: Every reachable state
  satisfies the invariants.
* `Pump.Step.stopped`: A stopped task sends nothing more.
* `sendTask_delivers_in_order`: The sink is passed exactly the enqueued
  frames, in order, each once, until the first failed send, which stops the
  task.
* `sendTask_finishes_after_close`: Once the senders are dropped, the task
  delivers what is buffered and stops, unless a send fails.
-/

namespace StratumProxy

/-- `MAX_TRANSLATION_CHANNEL_SIZE`, the buffer each translation channel is
    created with. -/
def maxTranslationChannelSize : Nat := 10

/-- How many frames a translation channel holds while `senders` senders are
    alive: `futures`' `mpsc::channel(buffer)` gives each sender a slot of its
    own beside the `buffer` shared ones. `ConnTranslation::new` makes one
    sender per channel and hands it to the translator. -/
def channelCapacity (senders : Nat) : Nat := maxTranslationChannelSize + senders

/-- Where a send task is. -/
inductive TaskState
  | running
  | channelClosed
  | sendFailed (e : Error)
deriving DecidableEq, Repr

/-- One translation channel and the task draining it. -/
structure Pump (α : Type) where
  /-- Frames in the channel, oldest first. -/
  buffer : List α
  /-- Every sender has been dropped. -/
  closed : Bool
  task : TaskState
  /-- Every frame the translator enqueued, in order. -/
  enqueued : List α
  /-- Every frame the task passed to the sink's `send`, in order. -/
  sent : List α
  /-- The sink's answer to each of them, in order. -/
  answers : List (Except Error Unit)

/-- A send task: how one turn of its loop sends a frame through the sink's
    `send`, and what the task returns at the end of the channel or after a
    send failed with an error. -/
structure SendTask (α : Type) where
  trySend : (α → Except Error Unit) → α → Except Error Unit
  onClosed : Except Error Unit
  onSendError : Error → Except Error Unit

/-- The value a task's future resolves to, once it has stopped. -/
def SendTask.result {α : Type} (t : SendTask α) : TaskState → Option (Except Error Unit)
  | .running => none
  | .channelClosed => some t.onClosed
  | .sendFailed e => some (t.onSendError e)

/-- The V1 send task in `ConnTranslation::run`: `while let Some(frame)` sends
    each frame with the sink's `send` and `break`s on an error, and the
    `async` block returns `()` either way. -/
def v1SendTask {α : Type} : SendTask α := ⟨fun send frame => send frame, .ok (), fun _ => .ok ()⟩

/-- `ConnTranslation::v2_try_send_frame`: a frame goes to the sink, whose
    answer is passed on; `None` is the error `No more frames`. -/
def v2TrySendFrame (send : Frame → Except Error Unit) : Option Frame → Except Error Unit
  | some frame => send frame
  | none => .error (.io "No more frames")

/-- `ConnTranslation::v2_send_task`: every turn hands what the channel yields
    to `v2_try_send_frame`, and `?` returns its error, at the end of the
    channel and on a failed send alike. -/
def v2SendTask : SendTask Frame :=
  ⟨fun send frame => v2TrySendFrame send (some frame), v2TrySendFrame (fun _ => .ok ()) none,
    fun e => .error e⟩

/-- A task whose send comes back with the sink's own answer. -/
def SendTask.Forwards {α : Type} (t : SendTask α) : Prop := ∀ f r, t.trySend (fun _ => r) f = r

theorem v1SendTask_forwards {α : Type} : (v1SendTask : SendTask α).Forwards := fun _ _ => rfl

namespace Pump

variable {α : Type}

/-- A fresh channel with its task running. -/
def init : Pump α := ⟨[], false, .running, [], [], []⟩

/-- Task `t` takes `f` off the channel and sends it, the sink answering `r`:
    if the task's send comes back `Ok` it goes on; otherwise it stops, and
    the frames still in the channel are dropped with the receiver. -/
def afterSend (s : Pump α) (t : SendTask α) (f : α) (rest : List α) (r : Except Error Unit) :
    Pump α :=
  match t.trySend (fun _ => r) f with
  | .ok _ => { s with buffer := rest, sent := s.sent ++ [f], answers := s.answers ++ [r] }
  | .error e =>
    { s with buffer := [], sent := s.sent ++ [f], answers := s.answers ++ [r], task := .sendFailed e }

/-- Every move of the system around one translation channel of capacity
    `capacity` drained by task `t`. -/
inductive Step (t : SendTask α) (capacity : Nat) : Pump α → Pump α → Prop
  /-- The translator enqueues a frame: the channel is open, its receiver is
      alive, and there is room. -/
  | enqueue (s : Pump α) (f : α) (hrun : s.task = .running) (hopen : s.closed = false)
      (hroom : s.buffer.length < capacity) :
      Step t capacity s { s with buffer := s.buffer ++ [f], enqueued := s.enqueued ++ [f] }
  /-- The senders are dropped. -/
  | close (s : Pump α) : Step t capacity s { s with closed := true }
  /-- The task receives the oldest frame and sends it; the sink answers `r`. -/
  | send (s : Pump α) (f : α) (rest : List α) (r : Except Error Unit)
      (hrun : s.task = .running) (hbuf : s.buffer = f :: rest) :
      Step t capacity s (s.afterSend t f rest r)
  /-- The task receives `None`: the channel is closed and empty. -/
  | finish (s : Pump α) (hrun : s.task = .running) (hempty : s.buffer = [])
      (hclosed : s.closed = true) :
      Step t capacity s { s with task := .channelClosed }

/-- The states some interleaving of moves reaches from a fresh channel. -/
inductive Reachable (t : SendTask α) (capacity : Nat) : Pump α → Prop
  | init : Reachable t capacity .init
  | step {s s' : Pump α} : Reachable t capacity s → Step t capacity s s' → Reachable t capacity s'

variable {t : SendTask α} {capacity : Nat} {s s' : Pump α} {f : α} {rest : List α}
  {r : Except Error Unit}

theorem afterSend_of_ok {u : Unit} (h : t.trySend (fun _ => r) f = .ok u) :
    s.afterSend t f rest r = { s with buffer := rest, sent := s.sent ++ [f], answers := s.answers ++ [r] } := by
  simp only [afterSend, h]

theorem afterSend_of_error {e : Error} (h : t.trySend (fun _ => r) f = .error e) :
    s.afterSend t f rest r =
      { s with buffer := [], sent := s.sent ++ [f], answers := s.answers ++ [r], task := .sendFailed e } := by
  simp only [afterSend, h]

@[simp] theorem afterSend_closed : (s.afterSend t f rest r).closed = s.closed := by
  unfold afterSend; split <;> rfl

@[simp] theorem afterSend_enqueued : (s.afterSend t f rest r).enqueued = s.enqueued := by
  unfold afterSend; split <;> rfl

/-- What holds of every reachable channel: the sink has been passed a prefix
    of what was enqueued; while the task runs, that prefix and the buffer
    make up all of it; once the channel ran out, all of it; and a stopped
    task holds no frame. -/
structure Inv (s : Pump α) : Prop where
  ordered : s.sent <+: s.enqueued
  complete : s.task = .running → s.sent ++ s.buffer = s.enqueued
  drained : s.task = .channelClosed → s.sent = s.enqueued
  emptied : s.task ≠ .running → s.buffer = []

theorem inv_init : (init : Pump α).Inv :=
  ⟨List.nil_prefix, fun _ => rfl, (fun h => nomatch h), fun h => absurd rfl h⟩

/-- Sending the oldest frame of a running channel keeps the sink's frames a
    prefix of the enqueued ones, whatever the sink answers. -/
theorem sent_prefix_of_send (hi : s.Inv) (hrun : s.task = .running) (hbuf : s.buffer = f :: rest) :
    (s.sent ++ [f]) ++ rest = s.enqueued := by
  rw [← hi.complete hrun, hbuf, List.append_assoc, List.singleton_append]

/-- Every move keeps the invariant, however the task sends. -/
theorem Step.inv (h : Step t capacity s s') (hi : s.Inv) : s'.Inv := by
  cases h with
  | enqueue f hrun _ _ =>
    exact ⟨hi.ordered.trans (List.prefix_append _ _),
      fun _ => by simp [← hi.complete hrun], fun h => by simp_all, fun h => absurd hrun h⟩
  | close => exact ⟨hi.ordered, hi.complete, hi.drained, hi.emptied⟩
  | send f rest r hrun hbuf =>
    have hsent := sent_prefix_of_send hi hrun hbuf
    -- The task goes on with the rest of the buffer, or stops and drops it.
    cases hr : t.trySend (fun _ => r) f with
    | ok u =>
      rw [afterSend_of_ok hr]
      exact ⟨hsent ▸ List.prefix_append _ _, fun _ => by simpa using hsent,
        fun h => by simp_all, fun h => absurd hrun h⟩
    | error e =>
      rw [afterSend_of_error hr]
      exact ⟨hsent ▸ List.prefix_append _ _, (fun h => nomatch h), (fun h => nomatch h), fun _ => rfl⟩
  | finish hrun hempty _ =>
    exact ⟨hi.ordered, (fun h => nomatch h), fun _ => by simpa [hempty] using hi.complete hrun,
      fun _ => hempty⟩

/-- Every reachable state satisfies the invariant, by induction along the
    interleaving that reaches it. -/
theorem Reachable.inv (h : Reachable t capacity s) : s.Inv := by
  induction h with
  | init => exact inv_init
  | step _ hstep ih => exact hstep.inv ih

/-- A stopped task sends nothing more: no move changes what it has passed to
    the sink, the answers, its state, or what is enqueued. -/
theorem Step.stopped (h : Step t capacity s s') (hstop : s.task ≠ .running) :
    s'.sent = s.sent ∧ s'.answers = s.answers ∧ s'.task = s.task ∧ s'.enqueued = s.enqueued := by
  cases h with
  | close => exact ⟨rfl, rfl, rfl, rfl⟩
  | enqueue _ hrun _ _ | send _ _ _ hrun _ | finish hrun _ _ => exact absurd hrun hstop

end Pump

namespace Pump

variable {α : Type} {t : SendTask α} {capacity : Nat} {s s' : Pump α} {f : α} {rest : List α}
  {r : Except Error Unit}

/-- How many moves the task still has in it once nothing more is enqueued:
    one per buffered frame, and the one that meets the channel's end. -/
def pendingMoves (s : Pump α) : Nat := if s.task = .running then s.buffer.length + 1 else 0

/-- A send lowers the moves the task has left, whether it goes through or
    stops the task. -/
theorem afterSend_pendingMoves_lt (hrun : s.task = .running) (hbuf : s.buffer = f :: rest) :
    (s.afterSend t f rest r).pendingMoves < s.pendingMoves := by
  cases hr : t.trySend (fun _ => r) f with
  | ok => rw [afterSend_of_ok hr]; simp [pendingMoves, hrun, hbuf]
  | error e => rw [afterSend_of_error hr]; simp [pendingMoves, hrun]

/-- A running task whose senders are gone always has a move that lowers the
    moves it has left: the next send, or meeting the channel's end. -/
theorem progress (hrun : s.task = .running) (hc : s.closed = true) :
    ∃ s', Step t capacity s s' ∧ s'.pendingMoves < s.pendingMoves := by
  cases hbuf : s.buffer with
  | cons f rest => exact ⟨_, .send s f rest (.ok ()) hrun hbuf, afterSend_pendingMoves_lt hrun hbuf⟩
  | nil => exact ⟨_, .finish s hrun hbuf hc, by simp [pendingMoves, hrun]⟩

end Pump

end StratumProxy
