import StratumProxy.Session.Loop

/-!
# Read Timeouts of the Session Loop

When the loop's two timeouts fire, over a trace of frames stamped with their
arrival times.

Each turn of the `select!` in `ConnTranslation::run` builds both
`conn_rx.next().timeout(..)` futures afresh, so both deadlines are armed when
the turn starts: at the session start, and after that at the arrival of the
frame the previous turn handled, whichever stream it came from. A frame on
one stream therefore re-arms the other stream's deadline too. The timeouts
bound the silence of the session as a whole, not of each direction:
`v2_traffic_rearms_v1_deadline` keeps the V1 stream silent for ninety seconds
while V2 frames arrive every thirty, and every frame is handled.

The timed loop is the untimed one run on the events `select!` observes:
`observed` lets through each arrival that beats its turn's deadline and, at
the first that does not, puts the timeout in its place. Handling a frame takes
no time in this model. When both timeouts expire at the same
instant `select!` may resolve either branch; both yield the same error, and
`observed` names the V1 one.

## Main definitions

* `ConnTranslation.v1UpstreamTimeout`, `ConnTranslation.v2DownstreamTimeout`:
  The two read timeouts, in nanoseconds.
* `Timed`: An event stamped with its arrival time.
* `ConnTranslation.deadline`: When a turn started at a given time times out.
* `ConnTranslation.observed`: The events `select!` resolves, timeouts
  included.
* `ConnTranslation.timedRun`: The loop over a timed trace.
* `ConnTranslation.Prompt`: Every arrival beats its turn's deadline.

## Theorems

* `ConnTranslation.observed_of_prompt`: A prompt trace is observed as it is.
* `ConnTranslation.observed_late`: A late arrival is observed as a timeout.
* `ConnTranslation.timedRun_rearms_both_deadlines`: A frame in either
  direction re-arms both deadlines; the session times out only after a
  silence of both.
* `ConnTranslation.v2_traffic_rearms_v1_deadline`: V2 traffic alone keeps a
  silent V1 stream from timing out.
* `ConnTranslation.timedRun_calls_prefix`: Timeouts only cut a session short.
-/

namespace StratumProxy

/-- An event stamped with the time it arrives, in nanoseconds since the
    session started. -/
structure Timed (α : Type) where
  time : Nat
  event : α

namespace ConnTranslation

variable {σ V1Frame Rpc : Type}

/-- `time::Duration::from_secs`, in nanoseconds. -/
def durationFromSecs (secs : Nat) : Nat := secs * 1000000000

/-- `V1_UPSTREAM_TIMEOUT`. -/
def v1UpstreamTimeout : Nat := durationFromSecs 60

/-- `V2_DOWNSTREAM_TIMEOUT`. -/
def v2DownstreamTimeout : Nat := durationFromSecs 60

/-- The instant the first of the two timeouts armed by a turn starting at
    `start` expires. -/
def deadline (start : Nat) : Nat := start + min v1UpstreamTimeout v2DownstreamTimeout

/-- The events the loop's `select!` resolves, turn by turn, when the events
    of the trace arrive at their times: each turn starts when the previous
    one handled its event, and an arrival no earlier than the turn's deadline
    loses to the timeout. -/
def observed (start : Nat) : List (Timed (Event V1Frame)) → List (Event V1Frame)
  | [] => []
  | a :: rest => if a.time < deadline start then a.event :: observed a.time rest else [.v1 .elapsed]

/-- `ConnTranslation::run` over a timed trace, starting at `start`. -/
def timedRun (c : ConnTranslation σ V1Frame Rpc) (s : σ) (start : Nat)
    (trace : List (Timed (Event V1Frame))) : Run σ Rpc :=
  c.run s (observed start trace)

/-- Every arrival of the trace comes before the deadline of the turn waiting
    for it: less than sixty seconds after the arrival before it, on either
    stream, or after `start`. -/
def Prompt (start : Nat) : List (Timed α) → Prop
  | [] => True
  | a :: rest => a.time < deadline start ∧ Prompt a.time rest

instance instDecidablePrompt {α : Type} :
    (start : Nat) → (trace : List (Timed α)) → Decidable (Prompt start trace)
  | _, [] => isTrue trivial
  | _, a :: rest =>
    have := instDecidablePrompt a.time rest
    inferInstanceAs (Decidable (_ ∧ _))

/-- The arrival time of the last event of the trace, or `start`. -/
def lastArrival (start : Nat) : List (Timed α) → Nat
  | [] => start
  | a :: rest => lastArrival a.time rest

/-- A prompt trace is observed as it arrives, with no timeout among it. -/
theorem observed_of_prompt {start : Nat} {trace : List (Timed (Event V1Frame))}
    (h : Prompt start trace) : observed start trace = trace.map Timed.event := by
  induction trace generalizing start with
  | nil => rfl
  | cons a rest ih => simp [observed, h.1, ih h.2]

/-- After a prompt stretch, an arrival at or past its turn's deadline is
    observed as the timeout, and nothing after it is observed at all. -/
theorem observed_late {start : Nat} {pre : List (Timed (Event V1Frame))}
    (a : Timed (Event V1Frame)) (post : List (Timed (Event V1Frame)))
    (h : Prompt start pre) (hlate : deadline (lastArrival start pre) ≤ a.time) :
    observed start (pre ++ a :: post) = pre.map Timed.event ++ [.v1 .elapsed] := by
  induction pre generalizing start with
  | nil =>
    simp only [lastArrival] at hlate
    simp [observed, Nat.not_lt.mpr hlate]
  | cons b rest ih => simp [observed, h.1, ih h.2 hlate]

/-- Each turn re-arms both read timeouts, so the deadline that ends the
    session runs from the last frame in either direction. Over a stretch in
    which every frame arrives within sixty seconds of the one before it, the
    timed loop is the untimed loop on those frames; the first frame arriving
    sixty seconds or more after the last one is never handled, the loop's
    timeout taking its place, and a loop still running then returns the
    timeout error. -/
theorem timedRun_rearms_both_deadlines (c : ConnTranslation σ V1Frame Rpc) (s : σ)
    (start : Nat) (pre : List (Timed (Event V1Frame))) (h : Prompt start pre) :
    c.timedRun s start pre = c.run s (pre.map Timed.event) ∧
    ∀ a post, deadline (lastArrival start pre) ≤ a.time →
      c.timedRun s start (pre ++ a :: post) = c.run s (pre.map Timed.event ++ [.v1 .elapsed]) ∧
      ∀ s', (c.run s (pre.map Timed.event)).outcome = .running s' →
        (c.timedRun s start (pre ++ a :: post)).outcome = .returned (.error .timeout) := by
  refine ⟨congrArg (c.run s) (observed_of_prompt h), fun a post hlate => ?_⟩
  have hobs : c.timedRun s start (pre ++ a :: post) =
      c.run s (pre.map Timed.event ++ [.v1 .elapsed]) :=
    congrArg (c.run s) (observed_late a post h hlate)
  refine ⟨hobs, fun s' hrun => ?_⟩
  rw [hobs, c.run_append_of_running hrun]
  rfl

/-- V2 frames every thirty seconds keep a V1 stream that never sends from
    timing out: the frame at ninety seconds, more than sixty seconds after the
    session started with no V1 frame at all, is handed to the translator like
    the two before it, and the loop is still running. -/
theorem v2_traffic_rearms_v1_deadline :
    0 + v1UpstreamTimeout < durationFromSecs 90 ∧
    acceptingSession.timedRun () 0
      [⟨durationFromSecs 30, .v2 (.frame clientFrame)⟩, ⟨durationFromSecs 60, .v2 (.frame clientFrame)⟩,
        ⟨durationFromSecs 90, .v2 (.frame clientFrame)⟩] =
      ⟨[.handleV2 clientFrame, .handleV2 clientFrame, .handleV2 clientFrame], .running ()⟩ :=
  ⟨by decide, rfl⟩

/-- Frames thirty seconds apart, one from each stream, form a prompt trace,
    and the timed loop hands both to the translator as the untimed one does. -/
theorem timedRun_prompt_two_streams :
    Prompt 0 [(⟨durationFromSecs 30, .v2 (.frame clientFrame)⟩ : Timed (Event Unit)),
      ⟨durationFromSecs 60, .v1 (.frame ())⟩] ∧
    acceptingSession.timedRun () 0 [⟨durationFromSecs 30, .v2 (.frame clientFrame)⟩,
      ⟨durationFromSecs 60, .v1 (.frame ())⟩] =
      acceptingSession.run () [.v2 (.frame clientFrame), .v1 (.frame ())] :=
  ⟨by decide, (timedRun_rearms_both_deadlines acceptingSession () 0 _ (by decide)).1⟩

/-- The timeouts only ever cut a session short: over every timed trace, the
    calls the timed loop makes into the translator are a prefix of those the
    untimed loop makes on the same frames. A timeout adds no call, drops none
    from the middle and reorders none. -/
theorem timedRun_calls_prefix (c : ConnTranslation σ V1Frame Rpc) (s : σ) (start : Nat)
    (trace : List (Timed (Event V1Frame))) :
    (c.timedRun s start trace).calls <+: (c.run s (trace.map Timed.event)).calls := by
  induction trace generalizing s start with
  | nil => exact List.prefix_refl _
  | cons a rest ih =>
    unfold timedRun at ih ⊢
    by_cases hlate : a.time < deadline start
    · simp only [observed, hlate, if_true, List.map_cons]
      rcases hstep : c.step s a.event with ⟨calls, err | s'⟩
      · rw [c.run_cons_error _ hstep, c.run_cons_error _ hstep]
      · rw [c.run_cons_ok _ hstep, c.run_cons_ok _ hstep]
        exact (List.prefix_append_right_inj _).2 (ih s' a.time)
    · simp [observed, hlate, run, step]

end ConnTranslation

end StratumProxy
