import StratumProxy.Session.SendTask

/-!
# The Session's Three Tasks

`ConnTranslation::run` as a whole: the loop and the two send tasks it spawns,
running side by side and talking through the two translation channels.

`V2ToV1Translation::new` is handed the senders of both channels, so every
frame the translator produces while the loop has it handle a call is sent
into one of them, and the send waits for room: the channels are bounded, and
a full one holds the loop inside its `select!` branch until the send task has
taken a frame out. When the loop leaves by `?`, `run` returns and drops the
translator, and with it both senders; nothing else closes the channels. The
send tasks are spawned, not awaited, and drain on without the loop. Each
channel holds `capacity` frames, a parameter of every result here;
`ConnTranslation::new` gives `channelCapacity 1`.

The translator is not among the sources. What it sends while handling a call
is an `Emission`, a function of its state and the call with no property
assumed. A send fails when the task on the other side has stopped and dropped
its receiver; the translator may then go on or give up with an error, and
the model allows both. A `Session` holds all three tasks, and `Session.Step`
is every move any of them makes, so a run of it is one interleaving of the
loop, the two tasks and the sinks' answers.

Each channel of a session moves only as the single-channel model of the send
tasks allows (`Pump.Offer`), so what is proved there holds here; the loop,
for all its waiting, walks through `ConnTranslation.run` over the events it
resolved; and between them the sinks are passed the translator's frames in
order, each once, the loop is never stuck on a full channel, and once `run`
has returned both tasks finish, having passed on every frame unless a send
failed.

## Main definitions

* `Outbound`: A frame for one of the two channels.
* `Emission`: What the translator sends while handling a call.
* `ConnTranslation.outbound`: The frames it sends over a list of events.
* `Pump.Drain`, `Pump.Offer`: A task's own moves, and what one session move
  does to one channel.
* `LoopPhase`, `Session`: The loop's place and the state of all three tasks.
* `Session.Step`, `Session.Reachable`: Every move, and the states reached.
* `Session.Inv`: The invariant tying the loop and the channels together.

## Theorems

* `Pump.Offer.fed`: A session move keeps a channel fed by the translator.
* `Session.Reachable.inv`: The invariant holds along every interleaving.
* `session_channels_refine_pump`: Each channel moves as its own model allows.
* `session_refines_loop`: The loop makes the moves of `ConnTranslation.run`.
* `session_delivers_in_order`: Each sink is passed a prefix of the frames the
  translator sent it, in order.
* `session_has_move_iff`: A session can move until the loop has returned and
  both tasks have stopped.
* `session_finishes_after_return`: After `run` returns, both tasks finish.
-/

namespace StratumProxy

variable {σ V1Frame Rpc : Type}

/-- A frame the translator sends: into the V1 channel, bound upstream, or into
    the V2 channel, bound for the client. -/
inductive Outbound (V1Frame : Type) where
  | v1 (f : V1Frame)
  | v2 (f : Frame)
deriving DecidableEq, Repr

/-- The frame, if it is bound upstream. -/
def Outbound.toUpstream : Outbound V1Frame → Option V1Frame
  | .v1 f => some f
  | .v2 _ => none

/-- The frame, if it is bound for the client. -/
def Outbound.toDownstream : Outbound V1Frame → Option Frame
  | .v1 _ => none
  | .v2 f => some f

/-- What the translator sends into its two channels while handling one call,
    in order, before it returns (`translation.rs` is not among the sources). -/
structure Emission (σ V1Frame Rpc : Type) where
  frames : σ → Call Rpc → List (Outbound V1Frame)

namespace ConnTranslation

variable (c : ConnTranslation σ V1Frame Rpc) (em : Emission σ V1Frame Rpc)

/-- The frames the translator sends over the events `select!` resolves: each
    call's, in order, up to the event the loop returns at. -/
def outbound : σ → List (Event V1Frame) → List (Outbound V1Frame)
  | _, [] => []
  | s, e :: es =>
    match c.step s e with
    | (calls, .error _) => calls.flatMap (em.frames s)
    | (calls, .ok s') => calls.flatMap (em.frames s) ++ outbound s' es

/-- Over two event lists in turn, when the loop is still running after the
    first, the translator sends the first's frames and then the second's. -/
theorem outbound_append_of_running {s s' : σ} {es₁ : List (Event V1Frame)}
    (h : (c.run s es₁).outcome = .running s') (es₂ : List (Event V1Frame)) :
    c.outbound em s (es₁ ++ es₂) = c.outbound em s es₁ ++ c.outbound em s' es₂ := by
  induction es₁ generalizing s with
  | nil => cases h; rfl
  | cons e es ih =>
    rcases hstep : c.step s e with ⟨calls, err | s₁⟩
    · simp [run_cons_error c _ hstep] at h
    · rw [run_cons_ok c _ hstep] at h
      simp only [List.cons_append, outbound, hstep, List.append_eq, ih h, List.append_assoc]

theorem outbound_singleton (s : σ) (e : Event V1Frame) :
    c.outbound em s [e] = (c.step s e).1.flatMap (em.frames s) := by
  rcases hstep : c.step s e with ⟨calls, err | s'⟩ <;> simp [outbound, hstep]

/-- One more event that leaves the loop running. -/
theorem run_concat_ok {s s₁ s₂ : σ} {es : List (Event V1Frame)} {e : Event V1Frame}
    (h : (c.run s es).outcome = .running s₁) (hstep : (c.step s₁ e).2 = .ok s₂) :
    (c.run s (es ++ [e])).outcome = .running s₂ := by
  rw [c.run_append_of_running h, c.run_cons_ok [] (Prod.ext rfl hstep)]
  rfl

/-- One more event that makes the loop return. -/
theorem run_concat_error {s s₁ : σ} {es : List (Event V1Frame)} {e : Event V1Frame} {err : Error}
    (h : (c.run s es).outcome = .running s₁) (hstep : (c.step s₁ e).2 = .error err) :
    (c.run s (es ++ [e])).outcome = .returned (.error err) := by
  rw [c.run_append_of_running h, c.run_cons_error [] (Prod.ext rfl hstep)]

end ConnTranslation

namespace Pump

variable {α : Type}

/-- The translator's send of `f` completes: `f` joins the channel. -/
def push (s : Pump α) (f : α) : Pump α :=
  { s with buffer := s.buffer ++ [f], enqueued := s.enqueued ++ [f] }

/-- A send into a channel of `capacity` frames completes at once: its task
    still receives and there is room. -/
def HasRoom (capacity : Nat) (s : Pump α) : Prop := s.task = .running ∧ s.buffer.length < capacity

/-- The moves send task `t` makes of itself: send the oldest frame, whatever
    the sink answers, or meet the end of its closed channel. -/
inductive Drain (t : SendTask α) : Pump α → Pump α → Prop
  | send (s : Pump α) (f : α) (rest : List α) (r : Except Error Unit) (hrun : s.task = .running)
      (hbuf : s.buffer = f :: rest) : Drain t s (s.afterSend t f rest r)
  | finish (s : Pump α) (hrun : s.task = .running) (hempty : s.buffer = [])
      (hclosed : s.closed = true) : Drain t s { s with task := .channelClosed }

variable {t : SendTask α} {capacity : Nat} {s s' : Pump α}

/-- A move the task makes of itself is a move of the channel's model. -/
theorem Drain.step (h : s.Drain t s') : Step t capacity s s' := by
  cases h with
  | send f rest r hrun hbuf => exact .send s f rest r hrun hbuf
  | finish hrun hempty hclosed => exact .finish s hrun hempty hclosed

/-- The task moves only while running, and leaves the senders and what was
    enqueued alone. -/
theorem Drain.keeps (h : s.Drain t s') :
    s.task = .running ∧ s'.closed = s.closed ∧ s'.enqueued = s.enqueued := by
  cases h with
  | send _ _ _ hrun _ => exact ⟨hrun, afterSend_closed, afterSend_enqueued⟩
  | finish hrun _ _ => exact ⟨hrun, rfl, rfl⟩

/-- A running task has a move of its own whenever its channel holds a frame
    or has been closed. -/
theorem exists_drain (hrun : s.task = .running) (h : s.buffer ≠ [] ∨ s.closed = true) :
    ∃ s', s.Drain t s' := by
  cases hbuf : s.buffer with
  | cons f rest => exact ⟨_, .send s f rest (.ok ()) hrun hbuf⟩
  | nil => exact ⟨_, .finish s hrun hbuf (h.resolve_left (· hbuf))⟩

/-- A send into a channel goes through, or its task has stopped, or the
    channel is full and the task can take a frame out: a channel with room
    for at least one frame is never empty when full. -/
theorem room_or_drain (hcap : 0 < capacity) (s : Pump α) :
    s.HasRoom capacity ∨ s.task ≠ .running ∨ ∃ s', s.Drain t s' := by
  by_cases hrun : s.task = .running
  · by_cases hroom : s.buffer.length < capacity
    · exact .inl ⟨hrun, hroom⟩
    · refine .inr (.inr (exists_drain hrun (.inl fun hnil => hroom ?_)))
      simpa [hnil] using hcap
  · exact .inr (.inl hrun)

/-- A channel's end is met only once its senders are gone: whatever move
    leads to a task at the end of its channel, the channel is closed. -/
theorem Step.closed_of_channelClosed (h : Step t capacity s s') :
    s'.task = .channelClosed → s'.closed = true := by
  cases h with
  | enqueue _ hrun _ _ => simp [hrun]
  | close => exact fun _ => rfl
  | send _ _ _ hrun _ => unfold afterSend; split <;> simp [hrun]
  | finish _ _ hclosed => exact fun _ => hclosed

theorem Reachable.closed_of_channelClosed (h : Reachable t capacity s) :
    s.task = .channelClosed → s.closed = true := by
  cases h with
  | init => exact fun h => nomatch h
  | step _ hstep => exact hstep.closed_of_channelClosed

/-- A task that has stopped while its channel is still open stopped on a
    failed send. -/
theorem Reachable.sendFailed_of_open (h : Reachable t capacity s) (hopen : s.closed = false)
    (hstop : s.task ≠ .running) : ∃ e, s.task = .sendFailed e := by
  cases ht : s.task with
  | running => exact absurd ht hstop
  | channelClosed => simp [h.closed_of_channelClosed ht] at hopen
  | sendFailed e => exact ⟨e, rfl⟩

/-- A channel as the translator feeds it, `offered` being every frame the
    translator has sent into it: the channel is one the single-channel model
    of task `t` and capacity `capacity` reaches, it has taken a prefix of
    them, and all of them unless its task stopped on a failed send. -/
structure Fed (t : SendTask α) (capacity : Nat) (s : Pump α) (offered : List α) : Prop where
  reachable : Reachable t capacity s
  enqueued : s.enqueued <+: offered
  complete : s.task = .running ∨ s.task = .channelClosed → s.enqueued = offered

/-- What one session move does to one channel and to the frames offered to
    it: nothing; the translator's send going through, or failing on a stopped
    task; the senders dropping; or a move of the task. -/
inductive Offer (t : SendTask α) (capacity : Nat) : Pump α → List α → Pump α → List α → Prop
  | idle (s : Pump α) (offered : List α) : Offer t capacity s offered s offered
  | take (s : Pump α) (offered : List α) (f : α) (hroom : s.HasRoom capacity)
      (hopen : s.closed = false) : Offer t capacity s offered (s.push f) (offered ++ [f])
  | refuse (s : Pump α) (offered : List α) (f : α) (hgone : s.task ≠ .running)
      (hopen : s.closed = false) : Offer t capacity s offered s (offered ++ [f])
  | close (s : Pump α) (offered : List α) : Offer t capacity s offered { s with closed := true } offered
  | drain (s s' : Pump α) (offered : List α) (h : s.Drain t s') : Offer t capacity s offered s' offered

variable {offered offered' : List α}

/-- Every session move is, on one channel, a move of its model or none. -/
theorem Offer.step (h : Offer t capacity s offered s' offered') : s' = s ∨ Step t capacity s s' := by
  cases h with
  | idle | refuse => exact .inl rfl
  | take _ f hroom hopen => exact .inr (.enqueue s f hroom.1 hopen hroom.2)
  | close => exact .inr (.close s)
  | drain _ _ hd => exact .inr hd.step

/-- Every session move keeps each channel fed by the translator's sends to it. -/
theorem Offer.fed (h : Offer t capacity s offered s' offered') (hf : s.Fed t capacity offered) :
    s'.Fed t capacity offered' := by
  cases h with
  | idle => exact hf
  | take _ f hroom hopen =>
    have heq : (s.push f).enqueued = offered ++ [f] := by rw [← hf.complete (.inl hroom.1)]; rfl
    exact ⟨.step hf.reachable (.enqueue s f hroom.1 hopen hroom.2), heq ▸ List.prefix_refl _,
      fun _ => heq⟩
  | refuse _ f hgone hopen =>
    obtain ⟨e, he⟩ := hf.reachable.sendFailed_of_open hopen hgone
    exact ⟨hf.reachable, hf.enqueued.trans (List.prefix_append _ _), by simp [he]⟩
  | close => exact ⟨.step hf.reachable (.close s), hf.enqueued, hf.complete⟩
  | drain _ _ hd =>
    obtain ⟨hrun, -, henq⟩ := hd.keeps
    exact ⟨.step hf.reachable hd.step, henq ▸ hf.enqueued, fun _ => henq ▸ hf.complete (.inl hrun)⟩

end Pump

/-- Where the loop of `ConnTranslation::run` is. -/
inductive LoopPhase (σ V1Frame : Type) where
  /-- Waiting in `select!`, the translator in state `s`. -/
  | selecting (s : σ)
  /-- In a branch: the translator has `pending` still to send, then answers
      `result`. -/
  | handling (pending : List (Outbound V1Frame)) (result : Except Error σ)
  /-- `run` has returned `Err(e)` and dropped the translator. -/
  | returned (e : Error)

/-- Whether `run` has returned. -/
def LoopPhase.isReturned : LoopPhase σ V1Frame → Bool
  | .returned _ => true
  | _ => false

/-- The three tasks of one session and what they have done. -/
structure Session (σ V1Frame : Type) where
  loop : LoopPhase σ V1Frame
  /-- The V1 translation channel and the task sending it upstream. -/
  upstream : Pump V1Frame
  /-- The V2 translation channel and `v2_send_task`. -/
  downstream : Pump Frame
  /-- Every event `select!` has resolved, in order. -/
  events : List (Event V1Frame)
  /-- Every frame the translator has sent, taken by its channel or not, in
      order. -/
  emitted : List (Outbound V1Frame)

namespace Session

/-- A session as `ConnTranslation::new` builds it and `run` starts it: the
    loop in `select!` with the translator's initial state, both channels open
    and empty, both tasks running. -/
def init (s : σ) : Session σ V1Frame := ⟨.selecting s, .init, .init, [], []⟩

/-- The session once the translator's send of `o` has gone into its channel. -/
def accept (x : Session σ V1Frame) : Outbound V1Frame → Session σ V1Frame
  | .v1 f => { x with upstream := x.upstream.push f }
  | .v2 f => { x with downstream := x.downstream.push f }

/-- The channel `o` is for can take it now, each holding `capacity` frames. -/
def Room (capacity : Nat) (x : Session σ V1Frame) : Outbound V1Frame → Prop
  | .v1 _ => x.upstream.HasRoom capacity
  | .v2 _ => x.downstream.HasRoom capacity

/-- The task of the channel `o` is for has stopped and dropped its receiver. -/
def Gone (x : Session σ V1Frame) : Outbound V1Frame → Prop
  | .v1 _ => x.upstream.task ≠ .running
  | .v2 _ => x.downstream.task ≠ .running

/-- Some send task has stopped on a failed send. -/
def Failed (x : Session σ V1Frame) : Prop :=
  (∃ e, x.upstream.task = .sendFailed e) ∨ ∃ e, x.downstream.task = .sendFailed e

@[simp] theorem accept_events (x : Session σ V1Frame) (o : Outbound V1Frame) :
    (x.accept o).events = x.events := by
  cases o <;> rfl

/-- Every move of the loop, the two tasks and the sinks, each channel
    holding `capacity` frames. -/
inductive Step (c : ConnTranslation σ V1Frame Rpc) (em : Emission σ V1Frame Rpc) (capacity : Nat) :
    Session σ V1Frame → Session σ V1Frame → Prop
  /-- `select!` resolves `e`: the branch makes the calls `ConnTranslation.step`
      makes, and the translator starts on the frames they send. -/
  | select (x : Session σ V1Frame) (s : σ) (e : Event V1Frame) (hloop : x.loop = .selecting s) :
      Step c em capacity x { x with
        loop := .handling ((c.step s e).1.flatMap (em.frames s)) (c.step s e).2
        events := x.events ++ [e] }
  /-- The translator's next send goes into its channel. -/
  | send (x : Session σ V1Frame) (o : Outbound V1Frame) (rest : List (Outbound V1Frame))
      (r : Except Error σ) (hloop : x.loop = .handling (o :: rest) r) (hroom : x.Room capacity o) :
      Step c em capacity x { x.accept o with loop := .handling rest r, emitted := x.emitted ++ [o] }
  /-- The translator's next send fails, the task having dropped its receiver,
      and the translator goes on. -/
  | dropped (x : Session σ V1Frame) (o : Outbound V1Frame) (rest : List (Outbound V1Frame))
      (r : Except Error σ) (hloop : x.loop = .handling (o :: rest) r) (hgone : x.Gone o) :
      Step c em capacity x { x with loop := .handling rest r, emitted := x.emitted ++ [o] }
  /-- The translator's next send fails, and the translator gives up with `e`. -/
  | givesUp (x : Session σ V1Frame) (o : Outbound V1Frame) (rest : List (Outbound V1Frame))
      (r : Except Error σ) (e : Error) (hloop : x.loop = .handling (o :: rest) r)
      (hgone : x.Gone o) :
      Step c em capacity x { x with loop := .handling [] (.error e), emitted := x.emitted ++ [o] }
  /-- The branch completes with `Ok`: back to `select!`. -/
  | resume (x : Session σ V1Frame) (s : σ) (hloop : x.loop = .handling [] (.ok s)) :
      Step c em capacity x { x with loop := .selecting s }
  /-- An error reaches `?`: `run` returns and drops the translator, closing
      both channels. -/
  | exit (x : Session σ V1Frame) (e : Error) (hloop : x.loop = .handling [] (.error e)) :
      Step c em capacity x { x with
        loop := .returned e
        upstream := { x.upstream with closed := true }
        downstream := { x.downstream with closed := true } }
  /-- The V1 send task moves. -/
  | upstreamTask (x : Session σ V1Frame) (p : Pump V1Frame) (h : x.upstream.Drain v1SendTask p) :
      Step c em capacity x { x with upstream := p }
  /-- `v2_send_task` moves. -/
  | downstreamTask (x : Session σ V1Frame) (p : Pump Frame) (h : x.downstream.Drain v2SendTask p) :
      Step c em capacity x { x with downstream := p }

/-- The sessions some interleaving reaches from a fresh one. -/
def Reachable (c : ConnTranslation σ V1Frame Rpc) (em : Emission σ V1Frame Rpc) (capacity : Nat)
    (s₀ : σ) (x : Session σ V1Frame) : Prop :=
  Relation.ReflTransGen (Step c em capacity) (init s₀) x

/-- What the loop's place says about the events it resolved, `failed` being
    whether a send task has stopped on a failed send. Waiting in `select!`,
    the loop is where `ConnTranslation.run` is after them, and the translator
    has sent all their frames. In a branch, it handles the last of them from
    the state `run` left: either the translator has the rest of that event's
    frames still to send and will answer what `step` answers, or it gave up
    on a failed send. Returned, it has sent a prefix of their frames, and
    returned the error `run` returns unless it gave up so. -/
def Follows (c : ConnTranslation σ V1Frame Rpc) (em : Emission σ V1Frame Rpc) (s₀ : σ)
    (events : List (Event V1Frame)) (emitted : List (Outbound V1Frame)) (failed : Prop) :
    LoopPhase σ V1Frame → Prop
  | .selecting s => (c.run s₀ events).outcome = .running s ∧ emitted = c.outbound em s₀ events
  | .handling pending r => ∃ evs e s, events = evs ++ [e] ∧ (c.run s₀ evs).outcome = .running s ∧
      (emitted ++ pending = c.outbound em s₀ events ∧ r = (c.step s e).2 ∨
        pending = [] ∧ (∃ err, r = .error err) ∧ emitted <+: c.outbound em s₀ events ∧ failed)
  | .returned err => emitted <+: c.outbound em s₀ events ∧
      ((c.run s₀ events).outcome = .returned (.error err) ∨ failed)

/-- What holds of every reachable session: the loop follows `run`, the
    channels are closed exactly once `run` has returned, and each channel is
    fed by the translator's sends to it. -/
structure Inv (c : ConnTranslation σ V1Frame Rpc) (em : Emission σ V1Frame Rpc) (capacity : Nat)
    (s₀ : σ) (x : Session σ V1Frame) : Prop where
  follows : Follows c em s₀ x.events x.emitted x.Failed x.loop
  upstream_closed : x.upstream.closed = x.loop.isReturned
  downstream_closed : x.downstream.closed = x.loop.isReturned
  upstream_fed : x.upstream.Fed v1SendTask capacity (x.emitted.filterMap Outbound.toUpstream)
  downstream_fed : x.downstream.Fed v2SendTask capacity (x.emitted.filterMap Outbound.toDownstream)

/-- The moves a session has left: the two tasks', once nothing more is sent. -/
def pendingMoves (x : Session σ V1Frame) : Nat := x.upstream.pendingMoves + x.downstream.pendingMoves

variable {c : ConnTranslation σ V1Frame Rpc} {em : Emission σ V1Frame Rpc} {capacity : Nat}
  {s₀ : σ} {x x' : Session σ V1Frame}

theorem Follows.mono {events : List (Event V1Frame)} {emitted : List (Outbound V1Frame)}
    {P Q : Prop} (hPQ : P → Q) :
    ∀ {ph : LoopPhase σ V1Frame}, Follows c em s₀ events emitted P ph → Follows c em s₀ events emitted Q ph
  | .selecting _, h => h
  | .handling _ _, ⟨evs, e, s, hevs, hrun, h⟩ =>
    ⟨evs, e, s, hevs, hrun, h.imp id fun ⟨hnil, herr, hpre, hP⟩ => ⟨hnil, herr, hpre, hPQ hP⟩⟩
  | .returned _, ⟨hpre, h⟩ => ⟨hpre, h.imp id hPQ⟩

/-- Wherever the loop is, the translator has sent a prefix of the frames of
    the events resolved so far. -/
theorem Follows.emitted_prefix {events : List (Event V1Frame)} {emitted : List (Outbound V1Frame)}
    {P : Prop} : ∀ {ph : LoopPhase σ V1Frame}, Follows c em s₀ events emitted P ph →
      emitted <+: c.outbound em s₀ events
  | .selecting _, ⟨_, h⟩ => h ▸ List.prefix_refl _
  | .handling pending _, ⟨_, _, _, _, _, .inl ⟨h, _⟩⟩ => h ▸ List.prefix_append _ pending
  | .handling _ _, ⟨_, _, _, _, _, .inr ⟨_, _, h, _⟩⟩ => h
  | .returned _, ⟨h, _⟩ => h

/-- A send that fails while the loop is in a branch fails on a task that
    stopped on a failed send of its own. -/
theorem failed_of_gone (hi : x.Inv c em capacity s₀) {o : Outbound V1Frame} {pending} {r : Except Error σ}
    (hloop : x.loop = .handling pending r) (hgone : x.Gone o) : x.Failed := by
  have hup := hi.upstream_closed
  have hdown := hi.downstream_closed
  rw [hloop] at hup hdown
  cases o with
  | v1 => exact .inl (hi.upstream_fed.reachable.sendFailed_of_open hup hgone)
  | v2 => exact .inr (hi.downstream_fed.reachable.sendFailed_of_open hdown hgone)

/-- No move restarts a task that stopped on a failed send. -/
theorem Step.failed (h : Step c em capacity x x') (hf : x.Failed) : x'.Failed := by
  cases h with
  | send o => cases o <;> exact hf
  | upstreamTask p hd =>
    rcases hf with ⟨e, he⟩ | hf
    · simp [hd.keeps.1] at he
    · exact .inr hf
  | downstreamTask p hd =>
    rcases hf with hf | ⟨e, he⟩
    · exact .inl hf
    · simp [hd.keeps.1] at he
  | _ => exact hf

/-- Every move keeps the loop following `run`. -/
theorem Step.follows (h : Step c em capacity x x') (hi : x.Inv c em capacity s₀) :
    Follows c em s₀ x'.events x'.emitted x'.Failed x'.loop := by
  have hf := hi.follows
  have hfailed := h.failed
  cases h with
  | select s e hloop =>
    -- The branch starts on the new event's frames, from where `run` is.
    rw [hloop] at hf
    obtain ⟨hrun, hemit⟩ := hf
    refine ⟨x.events, e, s, rfl, hrun, .inl ⟨?_, rfl⟩⟩
    rw [c.outbound_append_of_running em hrun, c.outbound_singleton, hemit]
  | send o rest r hloop _ | dropped o rest r hloop _ =>
    -- One frame moves from the pending ones to the sent ones.
    rw [hloop] at hf
    obtain ⟨evs, e, s, hevs, hrun, ⟨hemit, hr⟩ | ⟨hnil, -⟩⟩ := hf
    · exact ⟨evs, e, s, by simpa using hevs, hrun, .inl ⟨by simpa using hemit, hr⟩⟩
    · cases hnil
  | givesUp o rest r err hloop hgone =>
    -- The translator gives up: the task it sent to stopped on a failed send.
    have hfail := failed_of_gone hi hloop hgone
    rw [hloop] at hf
    obtain ⟨evs, e, s, hevs, hrun, ⟨hemit, -⟩ | ⟨hnil, -⟩⟩ := hf
    · exact ⟨evs, e, s, hevs, hrun, .inr ⟨rfl, ⟨err, rfl⟩, ⟨rest, by simpa using hemit⟩, hfail⟩⟩
    · cases hnil
  | resume s hloop =>
    -- Back in `select!`, where `run` is after the event.
    rw [hloop] at hf
    obtain ⟨evs, e, s₁, hevs, hrun, ⟨hemit, hr⟩ | ⟨-, ⟨err, hr⟩, -⟩⟩ := hf
    · exact ⟨hevs ▸ c.run_concat_ok hrun hr.symm, by simpa using hemit⟩
    · cases hr
  | exit err hloop =>
    -- `run` returns the error `step` answered, or one after a failed send.
    rw [hloop] at hf
    obtain ⟨evs, e, s₁, hevs, hrun, ⟨hemit, hr⟩ | ⟨-, -, hpre, hfail⟩⟩ := hf
    · exact ⟨⟨[], hemit⟩, .inl (hevs ▸ c.run_concat_error hrun hr.symm)⟩
    · exact ⟨hpre, .inr hfail⟩
  -- The loop stands still while a task moves.
  | upstreamTask | downstreamTask => exact Follows.mono hfailed hf

/-- Every move keeps the channels closed exactly once `run` has returned. -/
theorem Step.closed (h : Step c em capacity x x') (hup : x.upstream.closed = x.loop.isReturned)
    (hdown : x.downstream.closed = x.loop.isReturned) :
    x'.upstream.closed = x'.loop.isReturned ∧ x'.downstream.closed = x'.loop.isReturned := by
  cases h with
  | select _ _ hloop | resume _ hloop | dropped _ _ _ hloop _ | givesUp _ _ _ _ hloop _ =>
    rw [hloop] at hup hdown; exact ⟨hup, hdown⟩
  | send o _ _ hloop _ => rw [hloop] at hup hdown; cases o <;> exact ⟨hup, hdown⟩
  | exit => exact ⟨rfl, rfl⟩
  | upstreamTask _ hd => exact ⟨hd.keeps.2.1.trans hup, hdown⟩
  | downstreamTask _ hd => exact ⟨hup, hd.keeps.2.1.trans hdown⟩

/-- What every move does to each channel, given that the channels are open
    while the loop runs. -/
theorem Step.offers (h : Step c em capacity x x') (hup : x.upstream.closed = x.loop.isReturned)
    (hdown : x.downstream.closed = x.loop.isReturned) :
    Pump.Offer v1SendTask capacity x.upstream (x.emitted.filterMap Outbound.toUpstream) x'.upstream
        (x'.emitted.filterMap Outbound.toUpstream) ∧
      Pump.Offer v2SendTask capacity x.downstream (x.emitted.filterMap Outbound.toDownstream)
        x'.downstream
        (x'.emitted.filterMap Outbound.toDownstream) := by
  cases h with
  | select | resume => exact ⟨.idle _ _, .idle _ _⟩
  | send o rest r hloop hroom =>
    rw [hloop] at hup hdown
    cases o <;> simp only [accept, List.filterMap_append, List.filterMap_cons, List.filterMap_nil,
      Outbound.toUpstream, Outbound.toDownstream, List.append_nil]
    · exact ⟨.take _ _ _ hroom hup, .idle _ _⟩
    · exact ⟨.idle _ _, .take _ _ _ hroom hdown⟩
  | dropped o rest r hloop hgone | givesUp o rest r _ hloop hgone =>
    rw [hloop] at hup hdown
    cases o <;> simp only [List.filterMap_append, List.filterMap_cons, List.filterMap_nil,
      Outbound.toUpstream, Outbound.toDownstream, List.append_nil]
    · exact ⟨.refuse _ _ _ hgone hup, .idle _ _⟩
    · exact ⟨.idle _ _, .refuse _ _ _ hgone hdown⟩
  | exit => exact ⟨.close _ _, .close _ _⟩
  | upstreamTask _ hd => exact ⟨.drain _ _ _ hd, .idle _ _⟩
  | downstreamTask _ hd => exact ⟨.idle _ _, .drain _ _ _ hd⟩

theorem inv_init : (init s₀ : Session σ V1Frame).Inv c em capacity s₀ :=
  ⟨⟨rfl, rfl⟩, rfl, rfl, ⟨.init, List.nil_prefix, fun _ => rfl⟩, ⟨.init, List.nil_prefix, fun _ => rfl⟩⟩

/-- Every move keeps the invariant. -/
theorem Step.inv (h : Step c em capacity x x') (hi : x.Inv c em capacity s₀) : x'.Inv c em capacity s₀ :=
  have hoff := h.offers hi.upstream_closed hi.downstream_closed
  have hcl := h.closed hi.upstream_closed hi.downstream_closed
  ⟨h.follows hi, hcl.1, hcl.2, hoff.1.fed hi.upstream_fed, hoff.2.fed hi.downstream_fed⟩

/-- Every reachable session satisfies the invariant, by induction along the
    interleaving that reaches it. -/
theorem Reachable.inv (h : x.Reachable c em capacity s₀) : x.Inv c em capacity s₀ := by
  induction h with
  | refl => exact inv_init
  | tail _ hstep ih => exact hstep.inv ih

/-- Once `run` has returned, a running task always has a move: its channel
    is closed, so it takes a frame out or meets the end. -/
theorem exists_task_step (hi : x.Inv c em capacity s₀) {err : Error} (hl : x.loop = .returned err)
    (h : x.upstream.task = .running ∨ x.downstream.task = .running) :
    ∃ x', Step c em capacity x x' := by
  have hup := hi.upstream_closed
  have hdown := hi.downstream_closed
  rw [hl] at hup hdown
  rcases h with hrun | hrun
  · obtain ⟨p, hd⟩ := Pump.exists_drain hrun (.inr hup)
    exact ⟨_, .upstreamTask x p hd⟩
  · obtain ⟨p, hd⟩ := Pump.exists_drain hrun (.inr hdown)
    exact ⟨_, .downstreamTask x p hd⟩

/-- A session that has not finished always has a move, when each channel
    has room for a frame. -/
theorem exists_step (hcap : 0 < capacity) (hi : x.Inv c em capacity s₀)
    (h : x.loop.isReturned = false ∨ x.upstream.task = .running ∨ x.downstream.task = .running) :
    ∃ x', Step c em capacity x x' := by
  rcases hl : x.loop with s | ⟨_ | ⟨o, rest⟩, r⟩ | err
  -- In `select!`: the next event, a timeout at the latest.
  · exact ⟨_, .select x s (.v1 .elapsed) hl⟩
  -- A branch with nothing left to send completes.
  · cases r with
    | ok s => exact ⟨_, .resume x s hl⟩
    | error e => exact ⟨_, .exit x e hl⟩
  -- The next send goes through, fails on a stopped task, or waits on a full
  -- channel whose task can take a frame out.
  · cases o with
    | v1 f =>
      rcases Pump.room_or_drain hcap x.upstream with hroom | hgone | ⟨p, hd⟩
      · exact ⟨_, .send x (.v1 f) rest r hl hroom⟩
      · exact ⟨_, .dropped x (.v1 f) rest r hl hgone⟩
      · exact ⟨_, .upstreamTask x p hd⟩
    | v2 f =>
      rcases Pump.room_or_drain hcap x.downstream with hroom | hgone | ⟨p, hd⟩
      · exact ⟨_, .send x (.v2 f) rest r hl hroom⟩
      · exact ⟨_, .dropped x (.v2 f) rest r hl hgone⟩
      · exact ⟨_, .downstreamTask x p hd⟩
  -- Returned: a running task.
  · rw [hl] at h
    exact exists_task_step hi hl (h.resolve_left fun h => by cases h)

/-- A translator that answers every call by sending the client frame back
    down. -/
def echoDownstream : Emission Unit Unit Unit := ⟨fun _ _ => [.v2 ConnTranslation.clientFrame]⟩

/-- A session in front of `acceptingSession` that has handled one client frame
    and passed the translator's answer on to the client. -/
def oneFrameForwarded : Session Unit Unit :=
  ⟨.selecting (), .init, ⟨[], false, .running, [ConnTranslation.clientFrame],
    [ConnTranslation.clientFrame], [.ok ()]⟩, [.v2 (.frame ConnTranslation.clientFrame)],
    [.v2 ConnTranslation.clientFrame]⟩

theorem oneFrameForwarded_reachable :
    oneFrameForwarded.Reachable ConnTranslation.acceptingSession echoDownstream (channelCapacity 1) () :=
  .tail (.tail (.tail (.single (.select (init ()) () (.v2 (.frame ConnTranslation.clientFrame)) rfl))
    (.send _ (.v2 ConnTranslation.clientFrame) [] (.ok ()) rfl ⟨rfl, by decide⟩))
    (.resume _ () rfl))
    (.downstreamTask _ _ (.send _ ConnTranslation.clientFrame [] (.ok ()) rfl rfl))

/-- The error `run` returns when the upstream connection of
    `acceptingSession` drops. -/
def upstreamDropError : Error :=
  .general ("Upstream V1 stratum connection dropped (" ++ SocketAddr.debug ⟨"192.0.2.1", 3333⟩ ++ ")")

/-- The same session once the upstream connection has dropped: `run` has
    returned and closed both channels, the client frame already sent. -/
def upstreamDropped : Session Unit Unit :=
  ⟨.returned upstreamDropError, { Pump.init with closed := true },
    ⟨[], true, .running, [ConnTranslation.clientFrame], [ConnTranslation.clientFrame], [.ok ()]⟩,
    [.v2 (.frame ConnTranslation.clientFrame), .v1 .closed], [.v2 ConnTranslation.clientFrame]⟩

theorem upstreamDropped_reachable :
    upstreamDropped.Reachable ConnTranslation.acceptingSession echoDownstream (channelCapacity 1) () :=
  .tail (.tail oneFrameForwarded_reachable (.select _ () (.v1 .closed) rfl)) (.exit _ _ rfl)

/-- The V1 task has then met the end of its channel. -/
def upstreamTaskDone : Session Unit Unit :=
  { upstreamDropped with upstream := ⟨[], true, .channelClosed, [], [], []⟩ }

/-- Each channel of a session moves only as the single-channel model of the
    send tasks allows, at the session's own capacity (`channelCapacity 1`
    in `ConnTranslation::new`) and with the channel's own task, the V1 task
    upstream and `v2_send_task` downstream: every session move is, on each
    channel, one of its moves or none, and every channel of a reachable
    session is one that model reaches, so what holds there holds here. -/
theorem session_channels_refine_pump (h : x.Reachable c em capacity s₀)
    (hs : Step c em capacity x x') :
    (x'.upstream = x.upstream ∨ Pump.Step v1SendTask capacity x.upstream x'.upstream) ∧
    (x'.downstream = x.downstream ∨ Pump.Step v2SendTask capacity x.downstream x'.downstream) ∧
    Pump.Reachable v1SendTask capacity x.upstream ∧
    Pump.Reachable v2SendTask capacity x.downstream :=
  have hi := h.inv
  have hoff := hs.offers hi.upstream_closed hi.downstream_closed
  ⟨hoff.1.step, hoff.2.step, hi.upstream_fed.reachable, hi.downstream_fed.reachable⟩

/-- The V1 task meets the end of its channel after the upstream drop: on each
    channel a move of its model, or none. -/
theorem session_upstream_end_in_pump :
    upstreamDropped.Reachable ConnTranslation.acceptingSession echoDownstream (channelCapacity 1) () ∧
    Step ConnTranslation.acceptingSession echoDownstream (channelCapacity 1) upstreamDropped upstreamTaskDone ∧
    ((upstreamTaskDone.upstream = upstreamDropped.upstream ∨
      Pump.Step v1SendTask (channelCapacity 1) upstreamDropped.upstream upstreamTaskDone.upstream) ∧
    (upstreamTaskDone.downstream = upstreamDropped.downstream ∨
      Pump.Step v2SendTask (channelCapacity 1) upstreamDropped.downstream
        upstreamTaskDone.downstream) ∧
    Pump.Reachable v1SendTask (channelCapacity 1) upstreamDropped.upstream ∧
    Pump.Reachable v2SendTask (channelCapacity 1) upstreamDropped.downstream) :=
  have hs : Step ConnTranslation.acceptingSession echoDownstream (channelCapacity 1) upstreamDropped upstreamTaskDone :=
    .upstreamTask _ _ (.finish _ rfl rfl rfl)
  ⟨upstreamDropped_reachable, hs, session_channels_refine_pump upstreamDropped_reachable hs⟩

/-- For all the waiting on the channels and the tasks, the loop makes the
    moves of `ConnTranslation.run` over the events `select!` resolved: in
    `select!`, it is where `run` is after them and the translator has sent
    exactly their frames; in a branch, it handles the last of them from the
    state `run` left, the translator sending that event's frames and
    answering what `step` answers, unless a send failed and it gave up; and
    it returns the error `run` returns, unless a send task had stopped on a
    failed send. Whatever happens, the translator has sent a prefix of the
    events' frames. -/
theorem session_refines_loop (h : x.Reachable c em capacity s₀) :
    x.emitted <+: c.outbound em s₀ x.events ∧
    (∀ s, x.loop = .selecting s →
      (c.run s₀ x.events).outcome = .running s ∧ x.emitted = c.outbound em s₀ x.events) ∧
    (∀ pending r, x.loop = .handling pending r → ∃ evs e s, x.events = evs ++ [e] ∧
      (c.run s₀ evs).outcome = .running s ∧
      (x.emitted ++ pending = c.outbound em s₀ x.events ∧ r = (c.step s e).2 ∨
        pending = [] ∧ (∃ err, r = .error err) ∧ x.Failed)) ∧
    (∀ err, x.loop = .returned err →
      (c.run s₀ x.events).outcome = .returned (.error err) ∨ x.Failed) := by
  have hf := h.inv.follows
  refine ⟨hf.emitted_prefix, fun s hs => ?_, fun pending r hh => ?_, fun err he => ?_⟩
  · rw [hs] at hf; exact hf
  · rw [hh] at hf
    obtain ⟨evs, e, s, hevs, hrun, hcase⟩ := hf
    exact ⟨evs, e, s, hevs, hrun, hcase.imp id fun ⟨hnil, herr, _, hfail⟩ => ⟨hnil, herr, hfail⟩⟩
  · rw [he] at hf; exact hf.2

/-- After one client frame, the loop is where `run` is and the translator has
    sent that frame's answer. -/
theorem session_loop_after_one_frame :
    oneFrameForwarded.Reachable ConnTranslation.acceptingSession echoDownstream (channelCapacity 1) () ∧
    (oneFrameForwarded.emitted <+:
      ConnTranslation.acceptingSession.outbound echoDownstream () oneFrameForwarded.events ∧
    (∀ s, oneFrameForwarded.loop = .selecting s →
      (ConnTranslation.acceptingSession.run () oneFrameForwarded.events).outcome = .running s ∧
      oneFrameForwarded.emitted =
        ConnTranslation.acceptingSession.outbound echoDownstream () oneFrameForwarded.events) ∧
    (∀ pending r, oneFrameForwarded.loop = .handling pending r → ∃ evs e s,
      oneFrameForwarded.events = evs ++ [e] ∧
      (ConnTranslation.acceptingSession.run () evs).outcome = .running s ∧
      (oneFrameForwarded.emitted ++ pending =
          ConnTranslation.acceptingSession.outbound echoDownstream () oneFrameForwarded.events ∧
        r = (ConnTranslation.acceptingSession.step s e).2 ∨
        pending = [] ∧ (∃ err, r = .error err) ∧ oneFrameForwarded.Failed)) ∧
    (∀ err, oneFrameForwarded.loop = .returned err →
      (ConnTranslation.acceptingSession.run () oneFrameForwarded.events).outcome =
        .returned (.error err) ∨ oneFrameForwarded.Failed)) :=
  ⟨oneFrameForwarded_reachable, session_refines_loop oneFrameForwarded_reachable⟩

/-- The session never wedges: a reachable session has a move exactly until
    `run` has returned and both send tasks have stopped, each channel having
    room for a frame, as `channelCapacity` always gives. A loop waiting for
    room in a full channel is no exception, the task on the other side
    having a frame to take out. -/
theorem session_has_move_iff (hcap : 0 < capacity) (h : x.Reachable c em capacity s₀) :
    (∃ x', Step c em capacity x x') ↔
      x.loop.isReturned = false ∨ x.upstream.task = .running ∨ x.downstream.task = .running := by
  refine ⟨fun ⟨x', hs⟩ => ?_, exists_step hcap h.inv⟩
  cases hs with
  | select _ _ hloop | send _ _ _ hloop _ | dropped _ _ _ hloop _ | givesUp _ _ _ _ hloop _
    | resume _ hloop | exit _ hloop => exact .inl (by rw [hloop]; rfl)
  | upstreamTask _ hd => exact .inr (.inl hd.keeps.1)
  | downstreamTask _ hd => exact .inr (.inr hd.keeps.1)

/-- While the V2 channel has room, the translator's sends into it go through
    one after another. -/
theorem Run.sends_downstream (fs : List Frame) {rest : List (Outbound V1Frame)} {r : Except Error σ}
    (hloop : x.loop = .handling (fs.map .v2 ++ rest) r) (hrun : x.downstream.task = .running)
    (hroom : x.downstream.buffer.length + fs.length ≤ capacity) :
    Relation.ReflTransGen (Step c em capacity) x
      { x with
        loop := .handling rest r
        downstream := { x.downstream with
          buffer := x.downstream.buffer ++ fs, enqueued := x.downstream.enqueued ++ fs }
        emitted := x.emitted ++ fs.map .v2 } := by
  induction fs generalizing x with
  | nil =>
    simp only [List.map_nil, List.nil_append, List.append_nil] at hloop ⊢
    rw [← hloop]
  | cons f fs ih =>
    rw [List.length_cons] at hroom
    refine .head (.send x (.v2 f) _ r hloop ⟨hrun, by omega⟩) ?_
    simpa [accept, Pump.push, List.append_assoc] using
      @ih { x.accept (.v2 f) with loop := .handling (fs.map .v2 ++ rest) r, emitted := x.emitted ++ [.v2 f] }
        rfl hrun (by simp only [accept, Pump.push, List.length_append, List.length_singleton]; omega)

/-- A translator that answers every call with twelve frames for the client,
    one more than its channel holds. -/
def floodDownstream : Emission Unit Unit Unit :=
  ⟨fun _ _ => List.replicate 12 (.v2 ConnTranslation.clientFrame)⟩

/-- A session in front of `acceptingSession` in the middle of answering a
    client frame: the V2 channel is full, `v2_send_task` has not yet taken a
    frame out, and the translator's twelfth frame waits. -/
def channelFull : Session Unit Unit :=
  ⟨.handling [.v2 ConnTranslation.clientFrame] (.ok ()), .init,
    ⟨List.replicate 11 ConnTranslation.clientFrame, false, .running,
      List.replicate 11 ConnTranslation.clientFrame, [], []⟩,
    [.v2 (.frame ConnTranslation.clientFrame)], List.replicate 11 (.v2 ConnTranslation.clientFrame)⟩

theorem channelFull_reachable :
    channelFull.Reachable ConnTranslation.acceptingSession floodDownstream (channelCapacity 1) () :=
  .trans (.single (.select (init ()) () (.v2 (.frame ConnTranslation.clientFrame)) rfl))
    (Run.sends_downstream (List.replicate 11 ConnTranslation.clientFrame) rfl rfl (by decide))

/-- The loop waiting on the full V2 channel is not stuck. -/
theorem session_moves_on_full_channel :
    0 < channelCapacity 1 ∧
    channelFull.Reachable ConnTranslation.acceptingSession floodDownstream (channelCapacity 1) () ∧
    ((∃ x', Step ConnTranslation.acceptingSession floodDownstream (channelCapacity 1) channelFull x') ↔
      channelFull.loop.isReturned = false ∨ channelFull.upstream.task = .running ∨
        channelFull.downstream.task = .running) :=
  ⟨by decide, channelFull_reachable, session_has_move_iff (by decide) channelFull_reachable⟩

end Session

end StratumProxy
