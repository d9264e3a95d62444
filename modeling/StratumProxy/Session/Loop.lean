import StratumProxy.Wire.FrameCodec

/-!
# The Translation Session Loop

`ConnTranslation::run`, the loop that feeds both connections of one session
into the translator.

Each turn of the loop is a `select!` over the two read halves, each read
wrapped in a timeout. Whichever branch resolves first is handled and the
loop goes round again; `?` is the only way out, so the loop can end with an
error and never with `Ok(())`. The order in which `select!` resolves the two
branches is arbitrary, and a list of `Event`s is one such order: the model
quantifies over every list, so over every interleaving of the two streams.

The translator and the V1 RPC layer are not among the sources. They enter as
a `Translation`, three functions with no property assumed, so every result
holds for whatever the translator does, including failing at any point.
`run` records the calls the loop makes into it, in order.

`v2_handle_frame` compares the whole `extension_type` against `BASE`. The
channel-message flag lives in the high bit of that field, so every channel
message of the catalog, share submissions included, is taken for a frame of
another extension and dropped: `run_drops_share_submission`,
`client_stream_drops_channel_messages`.

## Main definitions

* `Error`: The proxy's error values, as far as the sources build them.
* `Received`: What one read of a framed stream, under its timeout, yields.
* `Event`: One resolution of the loop's `select!`.
* `Translation`: The translator behind the loop.
* `ConnTranslation`: A session and its step, `run` iterating it.
* `ConnTranslation.expected`: The calls an event is handled with.

## Theorems

* `ConnTranslation.step_calls`: A step makes the calls its event asks for.
* `ConnTranslation.run_append_of_running`: Running two event lists in turn.
* `ConnTranslation.run_calls_prefix`: The calls made are those of the events
  so far.
* `ConnTranslation.run_running`: A loop still running has handled every event.
* `ConnTranslation.run_returned`: A loop that returned stopped at its first
  fatal event.
* `ConnTranslation.step_error_iff`: The events the loop does not survive.
* `run_drops_share_submission`: A client's share submission never reaches
  the translator.
* `client_stream_drops_channel_messages`: Of the catalog messages a client
  writes, the translator sees only the connection-level ones.
-/

namespace StratumProxy

/-- Modelled from the spec: a socket address, by the parts its `Debug`
    rendering shows (`std::net::SocketAddr` is not part of this
    development). -/
structure SocketAddr where
  ip : String
  port : Nat
deriving DecidableEq, Repr, Inhabited

/-- The `{:?}` rendering of an address, `ip:port`. -/
def SocketAddr.debug (a : SocketAddr) : String := a.ip ++ ":" ++ toString a.port

/-- Modelled from the spec: the proxy's `Error` (`error.rs` is not among the
    sources), by the variants the sources build or convert into: a message,
    an I/O error, an elapsed timeout, and an error of the stratum library's
    framing, handshake or RPC layers. -/
inductive Error
  | general (msg : String)
  | io (msg : String)
  | timeout
  | stratum (msg : String)
deriving DecidableEq, Repr

/-- What `conn_rx.next().timeout(..)` resolves to: a frame, a read or decode
    error of the framed stream, the end of the stream, or the timeout. -/
inductive Received (α : Type) where
  | frame (f : α)
  | error (e : Error)
  | closed
  | elapsed
deriving DecidableEq, Repr

/-- One resolution of the `select!` in `ConnTranslation::run`: the V1 branch
    or the V2 branch. -/
inductive Event (V1Frame : Type) where
  | v1 (r : Received V1Frame)
  | v2 (r : Received Frame)
deriving DecidableEq, Repr

/-- The translator `ConnTranslation::run` drives, with the V1 RPC decoding in
    front of it (`translation.rs` and `v1::rpc` are not among the sources):
    `Rpc::try_from`, `handle_v1` and `handle_v2`, each free to fail. -/
structure Translation (σ V1Frame Rpc : Type) where
  rpcTryFrom : V1Frame → Except Error Rpc
  handleV1 : σ → Rpc → Except Error σ
  handleV2 : σ → Frame → Except Error σ

/-- A call the loop makes into the translator. -/
inductive Call (Rpc : Type) where
  | handleV1 (rpc : Rpc)
  | handleV2 (frame : Frame)
deriving DecidableEq, Repr

/-- Where the loop is after the events it has been given: still waiting in
    `select!` with the translator's state, or returned. -/
inductive Outcome (σ : Type) where
  | running (s : σ)
  | returned (r : Except Error Unit)

/-- The calls a stretch of the loop made, and where it ended up. -/
structure Run (σ Rpc : Type) where
  calls : List (Call Rpc)
  outcome : Outcome σ

variable {σ V1Frame Rpc : Type}

namespace Translation

variable (tr : Translation σ V1Frame Rpc)

/-- `ConnTranslation::v1_handle_frame`: decode the RPC, then hand it to the
    translator. -/
def v1HandleFrame (s : σ) (frame : V1Frame) : List (Call Rpc) × Except Error σ :=
  match tr.rpcTryFrom frame with
  | .error e => ([], .error e)
  | .ok rpc => ([.handleV1 rpc], tr.handleV1 s rpc)

/-- `ConnTranslation::v2_handle_frame`: a frame whose `extension_type` is
    `BASE` goes to the translator; any other is logged as an unsupported
    extension and dropped. -/
def v2HandleFrame (s : σ) (frame : Frame) : List (Call Rpc) × Except Error σ :=
  if frame.header.extensionType = BASE then ([.handleV2 frame], tr.handleV2 s frame)
  else ([], .ok s)

end Translation

/-- `ConnTranslation`, by what its loop reads besides the two streams: the
    translator and the two peer addresses its error texts name. -/
structure ConnTranslation (σ V1Frame Rpc : Type) where
  translation : Translation σ V1Frame Rpc
  v1PeerAddr : SocketAddr
  v2PeerAddr : SocketAddr

namespace ConnTranslation

variable (c : ConnTranslation σ V1Frame Rpc)

/-- One turn of the loop in `ConnTranslation::run`: handle the branch
    `select!` resolved, or leave the loop with the error `?` propagates. -/
def step (s : σ) : Event V1Frame → List (Call Rpc) × Except Error σ
  | .v1 (.frame f) => c.translation.v1HandleFrame s f
  | .v1 (.error e) => ([], .error e)
  | .v1 .closed =>
    ([], .error (.general ("Upstream V1 stratum connection dropped (" ++ c.v1PeerAddr.debug ++ ")")))
  | .v1 .elapsed => ([], .error .timeout)
  | .v2 (.frame f) => c.translation.v2HandleFrame s f
  | .v2 (.error e) => ([], .error e)
  | .v2 .closed => ([], .error (.general ("V2 client disconnected (" ++ c.v2PeerAddr.debug ++ ")")))
  | .v2 .elapsed => ([], .error .timeout)

/-- `ConnTranslation::run` over the events `select!` resolves, in order. -/
def run : σ → List (Event V1Frame) → Run σ Rpc
  | s, [] => ⟨[], .running s⟩
  | s, e :: es =>
    match c.step s e with
    | (calls, .error err) => ⟨calls, .returned (.error err)⟩
    | (calls, .ok s') => ⟨calls ++ (run s' es).calls, (run s' es).outcome⟩

/-- The calls an event is handled with: a V1 frame that decodes is handed to
    `handle_v1`, a V2 frame whose `extension_type` is `BASE` to `handle_v2`,
    and nothing else reaches the translator. -/
def expected : Event V1Frame → List (Call Rpc)
  | .v1 (.frame f) =>
    match c.translation.rpcTryFrom f with
    | .ok rpc => [.handleV1 rpc]
    | .error _ => []
  | .v2 (.frame f) => if f.header.extensionType = BASE then [.handleV2 f] else []
  | _ => []

/-- A translator that accepts every RPC and every frame and keeps no state. -/
def acceptAll : Translation Unit Unit Unit := ⟨fun _ => .ok (), fun s _ => .ok s, fun s _ => .ok s⟩

/-- A session in front of `acceptAll`. -/
def acceptingSession : ConnTranslation Unit Unit Unit :=
  ⟨acceptAll, ⟨"192.0.2.1", 3333⟩, ⟨"192.0.2.2", 3336⟩⟩

/-- A base-extension frame from the client. -/
def clientFrame : Frame := Frame.fromSerializablePayload false BASE SetupConnection.ID []

/-- A step makes exactly the calls its event asks for, whatever state the
    translator is in. -/
theorem step_calls (s : σ) (e : Event V1Frame) : (c.step s e).1 = c.expected e := by
  rcases e with (f | _ | _ | _) | (f | _ | _ | _) <;> try rfl
  · simp only [step, expected, Translation.v1HandleFrame]
    cases c.translation.rpcTryFrom f <;> rfl
  · by_cases h : f.header.extensionType = BASE <;>
      simp [step, expected, Translation.v2HandleFrame, h]

theorem run_cons_ok {s s' : σ} {e : Event V1Frame} {calls : List (Call Rpc)}
    (es : List (Event V1Frame)) (h : c.step s e = (calls, .ok s')) :
    c.run s (e :: es) = ⟨calls ++ (c.run s' es).calls, (c.run s' es).outcome⟩ := by
  simp only [run, h]

theorem run_cons_error {s : σ} {e : Event V1Frame} {calls : List (Call Rpc)} {err : Error}
    (es : List (Event V1Frame)) (h : c.step s e = (calls, .error err)) :
    c.run s (e :: es) = ⟨calls, .returned (.error err)⟩ := by
  simp only [run, h]

/-- Running two event lists in turn, when the loop is still running after the
    first: the second picks up from the state the first left. -/
theorem run_append_of_running {s s' : σ} {es₁ : List (Event V1Frame)}
    (h : (c.run s es₁).outcome = .running s') (es₂ : List (Event V1Frame)) :
    c.run s (es₁ ++ es₂) =
      ⟨(c.run s es₁).calls ++ (c.run s' es₂).calls, (c.run s' es₂).outcome⟩ := by
  induction es₁ generalizing s with
  | nil => cases h; simp [run]
  | cons e es ih =>
    rcases hstep : c.step s e with ⟨calls, err | s₁⟩
    · simp [run_cons_error c _ hstep] at h
    · rw [run_cons_ok c _ hstep] at h
      rw [List.cons_append, run_cons_ok c _ hstep, run_cons_ok c _ hstep, ih h, List.append_assoc]

/-- A loop still waiting in `select!` has handled every event it was given,
    each with exactly the calls the event asks for, in arrival order. -/
theorem run_running {s s' : σ} {es : List (Event V1Frame)}
    (h : (c.run s es).outcome = .running s') : (c.run s es).calls = es.flatMap c.expected := by
  induction es generalizing s with
  | nil => rfl
  | cons e es ih =>
    rcases hstep : c.step s e with ⟨calls, err | s₁⟩
    · simp [run_cons_error c _ hstep] at h
    · rw [run_cons_ok c _ hstep] at h ⊢
      rw [List.flatMap_cons, ← ih h, ← c.step_calls s e, hstep]

/-- A V1 frame and a base frame, both handled, and the loop still waiting. -/
theorem run_running_both_streams :
    (acceptingSession.run () [.v1 (.frame ()), .v2 (.frame clientFrame)]).outcome = .running () ∧
    (acceptingSession.run () [.v1 (.frame ()), .v2 (.frame clientFrame)]).calls =
      [.v1 (.frame ()), .v2 (.frame clientFrame)].flatMap acceptingSession.expected :=
  ⟨rfl, run_running acceptingSession rfl⟩

/-- A loop that returned did so at its first fatal event: every event before
    it was handled and left the loop running, that event's step failed with
    the error the loop returned, and nothing after it was looked at. -/
theorem run_returned {s : σ} {es : List (Event V1Frame)} {r : Except Error Unit}
    (h : (c.run s es).outcome = .returned r) :
    ∃ pre e post s₁ err, es = pre ++ e :: post ∧
      c.run s pre = ⟨pre.flatMap c.expected, .running s₁⟩ ∧
      (c.step s₁ e).2 = .error err ∧ r = .error err ∧
      (c.run s es).calls = pre.flatMap c.expected ++ c.expected e := by
  induction es generalizing s with
  | nil => simp [run] at h
  | cons e es ih =>
    have hcalls := c.step_calls s e
    rcases hstep : c.step s e with ⟨calls, err | s₁⟩ <;> rw [hstep] at hcalls <;> subst hcalls
    · rw [run_cons_error c _ hstep] at h ⊢
      cases h
      exact ⟨[], e, es, s, err, rfl, rfl, by rw [hstep], rfl, rfl⟩
    · rw [run_cons_ok c _ hstep] at h ⊢
      obtain ⟨pre, e', post, s₂, err, rfl, hpre, hfail, rfl, hcalls⟩ := ih h
      refine ⟨e :: pre, e', post, s₂, err, rfl, ?_, hfail, rfl, ?_⟩
      · rw [run_cons_ok c _ hstep, hpre, List.flatMap_cons]
      · rw [hcalls, List.flatMap_cons, List.append_assoc]

/-- The upstream stream ends between two client frames: the loop returns at
    the end of the stream, and the second frame is never handled. -/
theorem run_returned_at_upstream_close :
    (acceptingSession.run () [.v2 (.frame clientFrame), .v1 .closed, .v2 (.frame clientFrame)]).outcome =
      .returned (.error (.general "Upstream V1 stratum connection dropped (192.0.2.1:3333)")) ∧
    ∃ pre e post s₁ err,
      [.v2 (.frame clientFrame), .v1 .closed, .v2 (.frame clientFrame)] = pre ++ e :: post ∧
      acceptingSession.run () pre = ⟨pre.flatMap acceptingSession.expected, .running s₁⟩ ∧
      (acceptingSession.step s₁ e).2 = .error err ∧
      Except.error (.general "Upstream V1 stratum connection dropped (192.0.2.1:3333)") =
        (.error err : Except Error Unit) ∧
      (acceptingSession.run () [.v2 (.frame clientFrame), .v1 .closed, .v2 (.frame clientFrame)]).calls =
        pre.flatMap acceptingSession.expected ++ acceptingSession.expected e :=
  ⟨rfl, run_returned acceptingSession rfl⟩

/-- Whatever happens, the calls the loop has made are those of the events it
    has handled, in order: a prefix of what the whole list asks for, whether
    the loop is still running or has returned. -/
theorem run_calls_prefix (s : σ) (es : List (Event V1Frame)) :
    (c.run s es).calls <+: es.flatMap c.expected := by
  induction es generalizing s with
  | nil => exact List.prefix_refl _
  | cons e es ih =>
    rcases hstep : c.step s e with ⟨calls, err | s'⟩
    · rw [run_cons_error c _ hstep, List.flatMap_cons, ← c.step_calls s e, hstep]
      exact List.prefix_append _ _
    · rw [run_cons_ok c _ hstep, List.flatMap_cons, ← c.step_calls s e, hstep]
      exact (List.prefix_append_right_inj _).2 (ih s')

end ConnTranslation

/-- A frame built by a catalog conversion carries the type's channel flag as
    the whole of its `extension_type`: `0x8000` or `BASE`. -/
theorem toFrame_extensionType (t : MessageType) (m : t.Carrier) :
    (t.conversion.toFrame m).header.extensionType =
      if t.isChannelMsg then Header.channelMsgBit else BASE := by
  simp

/-- A share submission arriving from the client is dropped: the loop makes no
    call into the translator and keeps waiting, whatever the translator and
    its state. -/
theorem run_drops_share_submission (c : ConnTranslation σ V1Frame Rpc) (s : σ) :
    c.run s [.v2 (.frame (SubmitSharesStandard.conversion.toFrame ⟨1, 0, 7, 0x5c3a1e20, 0x5f2c4d10,
      0x20000000⟩))] = ⟨[], .running s⟩ := by
  have hext := toFrame_extensionType .submitSharesStandard ⟨1, 0, 7, 0x5c3a1e20, 0x5f2c4d10,
    0x20000000⟩
  have hne : Header.channelMsgBit ≠ BASE := by decide
  simp only [MessageType.conversion, MessageType.isChannelMsg, if_true] at hext
  simp [ConnTranslation.run, ConnTranslation.step, Translation.v2HandleFrame, hext, hne]

/-- How a catalog frame from the client is handled: handed to `handle_v2` if
    it is a connection-level message, dropped if it is a channel message. -/
theorem expected_catalog_frame (c : ConnTranslation σ V1Frame Rpc) (m : CatalogMessage) :
    c.expected (.v2 (.frame m.toFrame)) =
      if m.kind.isChannelMsg then [] else [.handleV2 m.toFrame] := by
  have hne : Header.channelMsgBit ≠ BASE := by decide
  cases h : m.kind.isChannelMsg <;>
    simp [ConnTranslation.expected, CatalogMessage.toFrame, toFrame_extensionType, h, hne]

/-- A client that writes catalog messages, followed by bytes that are not yet
    a whole frame: its read half yields their frames in order, and whatever
    the translator does, it is handed at most the connection-level messages
    among them, in order and each once. No channel message, share submissions
    included, ever reaches it. -/
theorem client_stream_drops_channel_messages (c : ConnTranslation σ V1Frame Rpc) (s : σ)
    (ms : List CatalogMessage) (tail : List UInt8) (htail : decode maxFrameSize tail = .needMore) :
    (decodeStream maxFrameSize ((ms.map CatalogMessage.toFrame).flatMap Frame.encode ++ tail)).1 =
      ms.map CatalogMessage.toFrame ∧
    (c.run s ((ms.map CatalogMessage.toFrame).map fun f => .v2 (.frame f))).calls <+:
      (ms.filter fun m => !m.kind.isChannelMsg).map fun m => .handleV2 m.toFrame := by
  have hfs : ∀ f ∈ ms.map CatalogMessage.toFrame, f.Fits maxFrameSize := by
    simp only [List.mem_map]
    rintro _ ⟨m, -, rfl⟩
    exact toFrame_fits m.kind m.msg
  have hcalls : ((ms.map CatalogMessage.toFrame).map fun f => .v2 (.frame f)).flatMap c.expected =
      (ms.filter fun m => !m.kind.isChannelMsg).map fun m => .handleV2 m.toFrame := by
    induction ms with
    | nil => rfl
    | cons m ms ih =>
      simp only [List.map_cons, List.flatMap_cons, expected_catalog_frame, List.filter_cons,
        ih fun f hf => hfs f (List.mem_cons_of_mem _ hf)]
      cases m.kind.isChannelMsg <;> rfl
  refine ⟨congrArg Prod.fst (decodeFrames_encodeAll (by decide) hfs htail
    (Nat.le_trans (length_le_length_flatMap_encode _) (by simp))), ?_⟩
  exact hcalls ▸ c.run_calls_prefix s _

/-- A connection-level message, then a share submission. -/
def endpointThenShare : List CatalogMessage :=
  [⟨.channelEndpointChanged, (⟨5⟩ : ChannelEndpointChanged)⟩,
    ⟨.submitSharesStandard, (⟨1, 0, 7, 0, 0, 0x20000000⟩ : SubmitSharesStandard)⟩]

/-- Of a client's `ChannelEndpointChanged` and share submission, the
    translator is handed at most the first. -/
theorem client_stream_endpoint_then_share :
    decode maxFrameSize [] = .needMore ∧
    (decodeStream maxFrameSize ((endpointThenShare.map CatalogMessage.toFrame).flatMap Frame.encode ++
      [])).1 = endpointThenShare.map CatalogMessage.toFrame ∧
    (ConnTranslation.acceptingSession.run ()
        ((endpointThenShare.map CatalogMessage.toFrame).map fun f => .v2 (.frame f))).calls <+:
      (endpointThenShare.filter fun m => !m.kind.isChannelMsg).map fun m => .handleV2 m.toFrame :=
  have htail : decode maxFrameSize [] = .needMore := by decide
  ⟨htail, client_stream_drops_channel_messages _ () endpointThenShare [] htail⟩

end StratumProxy
