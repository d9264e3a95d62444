import StratumProxy.Session.Loop

/-!
# The Listener

`ProxyServer::next` and `ProxyServer::run`: taking connections off the
listening socket until a quit message arrives or the socket's stream ends.

`next` waits on `future::select(self.server.next(), quit_rx.next())` while it
still holds the quit channel's receiver. `future::select` polls the listener
first, so a ready connection wins over a waiting quit message and an ended
listener over both. If the quit channel turns out closed, `next` drops the
receiver, setting `quit_rx` to `None`, and waits on the listener alone, then
and in every later call; polling the closed receiver again would panic. Each
connection goes through `ProxyServer::accept`, which spawns one
`ProxyConnection::handle` task when the connection and its peer address are
both there, and `run` calls `next` again after every connection, failed or
not, until `next` returns `None`.

The listener, the quit channel's senders and the server run concurrently, so
`Step` puts the server's moves beside the environment's: a connection
becoming ready, the listener's stream ending, a quit message being sent, the
last sender going away. A `Label` names each move. The server's moves are the
branches of `next`, one constructor each, with `select`'s preference for the
listener written into their guards.

The server keeps a quit sender of its own in `quit_tx`, so the quit channel
does not close while `run` runs; the model lets it close, as the comments of
`next` expect, and every result holds either way. The quit channel's bound
is left out: a quit sender waiting for room is a `quitSend` not yet made.

## Main definitions

* `Incoming`: What the listener yields for one connection.
* `QuitRx`: The quit channel's receiving end.
* `Phase`: Where `run` and its current call of `next` are.
* `ProxyServer`: The server's state, with the tasks it has spawned.
* `ProxyServer.Label`, `ProxyServer.Step`, `ProxyServer.Run`: The moves and
  the runs of the server and its environment.
* `ProxyServer.Inv`: Waiting in `select` means holding the quit receiver.

## Theorems

* `ProxyServer.Run.inv`: Every run keeps the invariant.
* `ProxyServer.Run.quitRx_none_of_closed`: A dropped receiver stays dropped.
* `ProxyServer.Step.quitRx_none`: Nothing polls a dropped receiver.
* `ProxyServer.Run.spawned`: One handler per connection accepted with its
  peer address.
* `ProxyServer.Run.incoming`: Connections are taken in arrival order, none
  lost.
* `ProxyServer.Step.returned_none`: `next` returns `None` only on a quit
  message or an ended listener.
* `ProxyServer.Step.returned_of_quit`: Taking a quit message returns `None`.
* `ProxyServer.Step.returned_of_ended`, `ProxyServer.exists_end`: With the
  listener ended and nothing ready, `next` returns `None`.
* `ProxyServer.Step.continues`: `run` goes on after every connection.
* `ProxyServer.proxyServer_quit_and_accept`: All of it, over every run.
* `ProxyServer.Run.rank_le`: The server's own moves along a run are bounded
  by its rank and the connections that arrive.
* `ProxyServer.progress`: A server with something to return `None` on always
  has a move.
* `ProxyServer.proxyServer_stops_on_end_or_quit`: Once the socket has ended,
  or a quit message waits and no connection arrives, `run` returns.
* `ProxyServer.Step.listener_first`: No quit move while a connection is
  ready or the listener has ended.
* `ProxyServer.quit_postponed_by_connections`: So arriving connections keep
  `run` from taking a quit message for as long as they arrive.
-/

namespace StratumProxy

/-- What the listening socket yields for one connection: the error of
    `connection_result`, or the stream and the result of its `peer_addr()`. -/
inductive Incoming
  | error (e : Error)
  | stream (peerAddr : Except Error SocketAddr)

/-- `ProxyServer::accept`'s result: the accept error or the peer address
    error through `?`, or the peer address. -/
def Incoming.accept : Incoming → Except Error SocketAddr
  | .error e => .error e
  | .stream r => r

/-- The quit channel's receiving end: messages waiting, and whether every
    sender is gone. -/
structure QuitRx where
  pending : Nat
  closed : Bool
deriving DecidableEq, Repr

/-- Where `run` is: in `next`, waiting on `select` over the listener and the
    quit channel, or on the listener alone; or finished, `next` having
    returned `None`. -/
inductive Phase
  | selecting
  | awaitingServer
  | stopped
deriving DecidableEq, Repr

/-- How far a phase is from `run` returning: from `select`, `next` may first
    give way to the listener alone. -/
def Phase.rank : Phase → Nat
  | .selecting => 2
  | .awaitingServer => 1
  | .stopped => 0

/-- A `ProxyServer` as `next` and `run` see it: the connections the listening
    socket has ready, whether its stream has ended, the `quit_rx` field, the
    phase of `run`, and the addresses of the `ProxyConnection::handle` tasks
    spawned so far. -/
structure ProxyServer where
  incoming : List Incoming
  listenerEnded : Bool
  quitRx : Option QuitRx
  phase : Phase
  spawned : List SocketAddr

namespace ProxyServer

/-- `ProxyServer::listen`: nothing ready, the quit channel open and empty,
    `run` entering its first `next`. -/
def init : ProxyServer := ⟨[], false, some ⟨0, false⟩, .selecting, []⟩

/-- Where `next` waits once entered: `match self.quit_rx` picks `select` while
    the receiver is there and the listener alone once it is gone. -/
def entry (quitRx : Option QuitRx) : Phase :=
  match quitRx with
  | some _ => .selecting
  | none => .awaitingServer

/-- `next` takes `c` off the listener: `accept` spawns a handler when the
    connection and its peer address are there, `next` returns its result and
    `run` calls `next` again. -/
def takeConnection (s : ProxyServer) (c : Incoming) (rest : List Incoming) : ProxyServer :=
  { s with
    incoming := rest
    phase := entry s.quitRx
    spawned := match c.accept with
      | .ok addr => s.spawned ++ [addr]
      | .error _ => s.spawned }

/-- A move of the server or of its environment. -/
inductive Label
  /-- A connection becomes ready on the listening socket. -/
  | connect (c : Incoming)
  /-- The listening socket's stream ends. -/
  | listenerEnd
  /-- A quit message is sent. -/
  | quitSend
  /-- The last quit sender is dropped. -/
  | quitClose
  /-- `select` resolves `Left(Some(conn))`. -/
  | selectConn (c : Incoming)
  /-- `select` resolves `Left(None)`. -/
  | selectEnd
  /-- `select` resolves `Right(Some(()))`. -/
  | selectQuit
  /-- `select` resolves `Right(None)`. -/
  | selectQuitClosed
  /-- `self.server.next()` resolves `Some(conn)`. -/
  | serverConn (c : Incoming)
  /-- `self.server.next()` resolves `None`. -/
  | serverEnd

namespace Label

/-- Whether a move is the server's own, a resolution of the future `next`
    awaits, rather than a move of the listener or of the quit senders. -/
def byServer : Label → Bool
  | selectConn _ | selectEnd | selectQuit | selectQuitClosed | serverConn _ | serverEnd => true
  | connect _ | listenerEnd | quitSend | quitClose => false

/-- What `next` returns in this move, if it returns: the result of accepting
    a connection, or `None`. -/
def returned : Label → Option (Option (Except Error SocketAddr))
  | selectConn c | serverConn c => some (some c.accept)
  | selectEnd | selectQuit | serverEnd => some none
  | _ => none

/-- The connection a move takes off the listener. -/
def taken : Label → Option Incoming
  | selectConn c | serverConn c => some c
  | _ => none

/-- The connection a move makes ready on the listener. -/
def arrival : Label → Option Incoming
  | connect c => some c
  | _ => none

/-- The handler task a move spawns, by its peer address. -/
def spawns (l : Label) : Option SocketAddr :=
  match l.taken with
  | some c => match c.accept with
    | .ok addr => some addr
    | .error _ => none
  | none => none

end Label

/-- Every move of the server and its environment. -/
inductive Step : ProxyServer → Label → ProxyServer → Prop
  | connect (s : ProxyServer) (c : Incoming) (hopen : s.listenerEnded = false) :
      Step s (.connect c) { s with incoming := s.incoming ++ [c] }
  | listenerEnd (s : ProxyServer) : Step s .listenerEnd { s with listenerEnded := true }
  /-- A quit message reaches the channel while its receiver is there. -/
  | quitSend (s : ProxyServer) (q : QuitRx) (hq : s.quitRx = some q) (hopen : q.closed = false) :
      Step s .quitSend { s with quitRx := some { q with pending := q.pending + 1 } }
  /-- Every quit sender is gone. The server keeps a sender of its own in
      `quit_tx` for as long as it lives, so this does not happen while `run`
      runs; the move is there for the closing the comments of `next`
      describe, and every result holds with it and without it. -/
  | quitClose (s : ProxyServer) (q : QuitRx) (hq : s.quitRx = some q) :
      Step s .quitClose { s with quitRx := some { q with closed := true } }
  /-- The listener has a connection: it wins the `select`. -/
  | selectConn (s : ProxyServer) (c : Incoming) (rest : List Incoming)
      (hp : s.phase = .selecting) (hi : s.incoming = c :: rest) :
      Step s (.selectConn c) (s.takeConnection c rest)
  /-- The listener's stream has ended: it wins the `select` too, and `next`
      returns `None`. -/
  | selectEnd (s : ProxyServer) (hp : s.phase = .selecting) (hi : s.incoming = [])
      (he : s.listenerEnded = true) :
      Step s .selectEnd { s with phase := .stopped }
  /-- The listener is pending and a quit message is waiting: `next` takes it
      and returns `None`. -/
  | selectQuit (s : ProxyServer) (q : QuitRx) (hp : s.phase = .selecting) (hi : s.incoming = [])
      (he : s.listenerEnded = false) (hq : s.quitRx = some q) (hpend : 0 < q.pending) :
      Step s .selectQuit
        { s with quitRx := some { q with pending := q.pending - 1 }, phase := .stopped }
  /-- The listener is pending and the quit channel is closed and empty:
      `next` drops the receiver and goes on waiting for the listener. -/
  | selectQuitClosed (s : ProxyServer) (q : QuitRx) (hp : s.phase = .selecting)
      (hi : s.incoming = []) (he : s.listenerEnded = false) (hq : s.quitRx = some q)
      (hpend : q.pending = 0) (hc : q.closed = true) :
      Step s .selectQuitClosed { s with quitRx := none, phase := .awaitingServer }
  | serverConn (s : ProxyServer) (c : Incoming) (rest : List Incoming)
      (hp : s.phase = .awaitingServer) (hi : s.incoming = c :: rest) :
      Step s (.serverConn c) (s.takeConnection c rest)
  | serverEnd (s : ProxyServer) (hp : s.phase = .awaitingServer) (hi : s.incoming = [])
      (he : s.listenerEnded = true) :
      Step s .serverEnd { s with phase := .stopped }

/-- A run: moves one after another, with their labels. -/
inductive Run : ProxyServer → List Label → ProxyServer → Prop
  | refl (s : ProxyServer) : Run s [] s
  | step {s s' s'' : ProxyServer} {l : Label} {ls : List Label} :
      Step s l s' → Run s' ls s'' → Run s (l :: ls) s''

/-- The shape of every reachable server: waiting in `select` means holding
    the quit receiver, and waiting on the listener alone means having
    dropped it. -/
def Inv (s : ProxyServer) : Prop :=
  (s.phase = .selecting → s.quitRx.isSome) ∧ (s.phase = .awaitingServer → s.quitRx = none)

theorem inv_init : init.Inv := ⟨fun _ => rfl, (fun h => nomatch h)⟩

theorem entry_inv (q : Option QuitRx) :
    (entry q = .selecting → q.isSome) ∧ (entry q = .awaitingServer → q = none) := by
  cases q <;> simp [entry]

theorem Step.inv {s s' : ProxyServer} {l : Label} (h : Step s l s') (hi : s.Inv) : s'.Inv := by
  cases h with
  | connect | listenerEnd => exact hi
  | quitSend q hq _ | quitClose q hq =>
    exact ⟨fun _ => rfl, fun hp => absurd (hi.2 hp) (by simp [hq])⟩
  | selectConn _ _ _ _ | serverConn _ _ _ _ => exact ProxyServer.entry_inv s.quitRx
  | selectEnd | selectQuit | serverEnd => exact ⟨(fun h => nomatch h), (fun h => nomatch h)⟩
  | selectQuitClosed => exact ⟨(fun h => nomatch h), fun _ => rfl⟩

theorem Run.inv {s s' : ProxyServer} {ls : List Label} (h : Run s ls s') (hi : s.Inv) :
    s'.Inv := by
  induction h with
  | refl => exact hi
  | step hstep _ ih => exact ih (hstep.inv hi)

theorem filterMap_cons_eq {α β : Type} (f : α → Option β) (a : α) (as : List α) :
    (a :: as).filterMap f = (f a).toList ++ as.filterMap f := by
  cases h : f a <;> simp [List.filterMap_cons, h]

/-- Each move spawns the handler of the connection it accepts, if any. -/
theorem Step.spawned {s s' : ProxyServer} {l : Label} (h : Step s l s') :
    s'.spawned = s.spawned ++ l.spawns.toList := by
  cases h with
  | selectConn c _ _ _ | serverConn c _ _ _ =>
    cases hc : c.accept <;> simp [takeConnection, Label.spawns, Label.taken, hc]
  | _ => simp [Label.spawns, Label.taken]

theorem Run.spawned {s s' : ProxyServer} {ls : List Label} (h : Run s ls s') :
    s'.spawned = s.spawned ++ ls.filterMap Label.spawns := by
  induction h with
  | refl => simp
  | step hstep _ ih => rw [ih, hstep.spawned, filterMap_cons_eq, List.append_assoc]

/-- Each move takes off the listener, or adds to it, at most one connection,
    at the right end. -/
theorem Step.incoming {s s' : ProxyServer} {l : Label} (h : Step s l s') :
    s.incoming ++ l.arrival.toList = l.taken.toList ++ s'.incoming := by
  cases h with
  | selectConn c rest _ hi | serverConn c rest _ hi => simp [takeConnection, Label.arrival, Label.taken, hi]
  | _ => simp [Label.arrival, Label.taken]

theorem Run.incoming {s s' : ProxyServer} {ls : List Label} (h : Run s ls s') :
    s.incoming ++ ls.filterMap Label.arrival = ls.filterMap Label.taken ++ s'.incoming := by
  induction h with
  | refl => simp
  | step hstep _ ih =>
    rw [filterMap_cons_eq, filterMap_cons_eq, ← List.append_assoc, hstep.incoming,
      List.append_assoc, ih, List.append_assoc]

/-- With the listener's stream ended and nothing ready, a server still in
    `next` can always return `None`, whichever future it waits on. -/
theorem exists_end {s : ProxyServer} (he : s.listenerEnded = true) (hin : s.incoming = [])
    (hs : s.phase ≠ .stopped) : ∃ l s', l.byServer = true ∧ Step s l s' := by
  cases hp : s.phase with
  | stopped => exact absurd hp hs
  | selecting => exact ⟨.selectEnd, _, rfl, .selectEnd s hp hin he⟩
  | awaitingServer => exact ⟨.serverEnd, _, rfl, .serverEnd s hp hin he⟩

/-- A client at a fixed address. -/
def exampleClient : SocketAddr := ⟨"192.0.2.7", 40000⟩

/-- A bound on the moves the server can still make of itself: one per
    connection ready on the listener, and the rank of its phase. -/
def rank (s : ProxyServer) : Nat := s.incoming.length + s.phase.rank

/-- Something `next` returns `None` on is there: the listener's stream has
    ended, or a quit message waits in the receiver `next` still holds. -/
def Ending (s : ProxyServer) : Prop :=
  s.listenerEnded = true ∨ ∃ q, s.quitRx = some q ∧ 0 < q.pending

/-- Every move of the server lowers the rank, a new connection raises it by
    one, and the environment's other moves leave it alone. -/
theorem Step.rank_le {s s' : ProxyServer} {l : Label} (h : Step s l s') (hi : s.Inv) :
    s'.rank + (if l.byServer then 1 else 0) ≤ s.rank + l.arrival.toList.length := by
  cases h with
  | selectConn c rest hp hin =>
    cases hq : s.quitRx <;> simp [rank, takeConnection, entry, hp, hin, hq, Label.byServer,
      Label.arrival, Phase.rank]
  | serverConn c rest hp hin =>
    simp [rank, takeConnection, entry, hp, hin, hi.2 hp, Label.byServer, Label.arrival, Phase.rank]
  | selectEnd hp hin | selectQuit _ hp hin | selectQuitClosed _ hp hin | serverEnd hp hin =>
    simp [rank, hp, hin, Label.byServer, Label.arrival, Phase.rank]
  | _ => simp [rank, Label.byServer, Label.arrival, Nat.add_right_comm]

/-- Along any run, the server's own moves are at most its rank at the start
    plus the connections that arrive. -/
theorem Run.rank_le {s s' : ProxyServer} {ls : List Label} (h : Run s ls s') (hi : s.Inv) :
    s'.rank + ls.countP Label.byServer ≤ s.rank + (ls.filterMap Label.arrival).length := by
  induction h with
  | refl => simp
  | step hstep _ ih =>
    have h1 := hstep.rank_le hi
    have h2 := ih (hstep.inv hi)
    rw [List.countP_cons, filterMap_cons_eq, List.length_append]
    split_ifs at h1 ⊢ <;> omega

/-- Once the listener's stream has ended no connection arrives, and it stays
    ended. -/
theorem Run.no_arrival_of_ended {s s' : ProxyServer} {ls : List Label} (h : Run s ls s')
    (he : s.listenerEnded = true) :
    ls.filterMap Label.arrival = [] ∧ s'.listenerEnded = true := by
  induction h with
  | refl => exact ⟨rfl, he⟩
  | step hstep _ ih =>
    cases hstep with
    | connect _ hopen => simp [he] at hopen
    | listenerEnd => simpa [Label.arrival] using ih rfl
    | _ => simpa [takeConnection, Label.arrival] using ih he

/-- A server that has something to return `None` on keeps it until it has
    stopped, and a stopped server stays stopped. -/
theorem Step.ending {s s' : ProxyServer} {l : Label} (h : Step s l s')
    (he : s.phase = .stopped ∨ s.Ending) : s'.phase = .stopped ∨ s'.Ending := by
  cases h with
  -- The listener ending, or a quit message arriving, is something to return on.
  | listenerEnd => exact .inr (.inl rfl)
  | quitSend q _ _ => exact .inr (.inr ⟨_, rfl, Nat.succ_pos _⟩)
  -- The last sender going keeps the messages already waiting.
  | quitClose q hq =>
    rcases he with hp | hend | ⟨q', hq', hpend⟩
    · exact .inl hp
    · exact .inr (.inl hend)
    · rw [hq] at hq'
      cases hq'
      exact .inr (.inr ⟨_, rfl, hpend⟩)
  -- The closed receiver is dropped only when no message waits and the
  -- listener is open, so there was nothing to return on.
  | selectQuitClosed q hp _ hend hq hpend =>
    rcases he with hs | hend' | ⟨q', hq', hpos⟩
    · simp [hp] at hs
    · simp [hend] at hend'
    · rw [hq] at hq'
      cases hq'
      omega
  -- `next` returned `None`.
  | selectEnd | selectQuit | serverEnd => exact .inl rfl
  -- Connections, arriving or taken, touch neither the socket's end nor the quit channel.
  | connect => exact he
  | selectConn _ _ hp _ | serverConn _ _ hp _ => exact .inr (he.resolve_left (by simp [hp]))

theorem Run.ending {s s' : ProxyServer} {ls : List Label} (h : Run s ls s')
    (he : s.phase = .stopped ∨ s.Ending) : s'.phase = .stopped ∨ s'.Ending := by
  induction h with
  | refl => exact he
  | step hstep _ ih => exact ih (hstep.ending he)

/-- A server that has something to return `None` on is never stuck: until it
    has stopped, a move of its own is always there to make. -/
theorem progress {s : ProxyServer} (hi : s.Inv) (he : s.Ending) (hs : s.phase ≠ .stopped) :
    ∃ l s', l.byServer = true ∧ Step s l s' := by
  cases hin : s.incoming with
  | cons c rest =>
    -- A connection is ready: whichever future `next` waits on yields it.
    cases hp : s.phase with
    | stopped => exact absurd hp hs
    | selecting => exact ⟨.selectConn c, _, rfl, .selectConn s c rest hp hin⟩
    | awaitingServer => exact ⟨.serverConn c, _, rfl, .serverConn s c rest hp hin⟩
  | nil =>
    cases hend : s.listenerEnded
    · -- A quit message waits, so `next` still holds the receiver, in `select`.
      obtain ⟨q, hq, hpend⟩ := he.resolve_left (by simp [hend])
      have hp : s.phase = .selecting := by
        cases hp : s.phase with
        | selecting => rfl
        | awaitingServer => simp [hi.2 hp] at hq
        | stopped => exact absurd hp hs
      exact ⟨.selectQuit, _, rfl, .selectQuit s q hp hin hend hq hpend⟩
    · exact exists_end hend hin hs

/-- Once the listening socket has ended, or a quit message waits and no new
    connection arrives, `run` returns: along every such run the server makes
    at most as many moves of its own as there were connections ready plus
    two, and until it has stopped it always has one to make. A quit message
    alone does not suffice, since `select` prefers the listener and new
    connections can keep postponing it; the end of the socket does, since no
    connection can arrive after it. -/
theorem proxyServer_stops_on_end_or_quit {ls ls' : List Label} {s s' : ProxyServer}
    (h : Run init ls s) (hrun : Run s ls' s')
    (hcause : s.listenerEnded = true ∨
      (∃ q, s.quitRx = some q ∧ 0 < q.pending) ∧ ls'.filterMap Label.arrival = []) :
    s'.rank + ls'.countP Label.byServer ≤ s.rank ∧
    (s'.phase ≠ .stopped → ∃ l s'', l.byServer = true ∧ Step s' l s'') := by
  have hi := h.inv inv_init
  obtain ⟨he, hquiet⟩ : s.Ending ∧ ls'.filterMap Label.arrival = [] := by
    rcases hcause with hend | ⟨hq, hquiet⟩
    · exact ⟨.inl hend, (hrun.no_arrival_of_ended hend).1⟩
    · exact ⟨.inr hq, hquiet⟩
  refine ⟨by simpa [hquiet] using hrun.rank_le hi, fun hs => ?_⟩
  exact progress (hrun.inv hi) ((hrun.ending (.inr he)).resolve_left hs) hs

/-- A connection and a quit message wait: `run` takes the connection, then
    the quit message, and stops. -/
def connAndQuitWaiting : ProxyServer :=
  ⟨[.stream (.ok exampleClient)], false, some ⟨1, false⟩, .selecting, []⟩

theorem connAndQuitWaiting_reachable :
    Run init [.connect (.stream (.ok exampleClient)), .quitSend] connAndQuitWaiting :=
  .step (.connect _ _ rfl) (.step (.quitSend _ _ rfl rfl) (.refl _))

/-- From `listen`, a connection arrives and a quit message is sent; `run`
    then needs two moves of its own, within the rank of three. -/
theorem proxyServer_takes_connection_then_quit :
    Run init [.connect (.stream (.ok exampleClient)), .quitSend] connAndQuitWaiting ∧
    Run connAndQuitWaiting [.selectConn (.stream (.ok exampleClient)), .selectQuit]
      ⟨[], false, some ⟨0, false⟩, .stopped, [exampleClient]⟩ ∧
    (connAndQuitWaiting.listenerEnded = true ∨
      (∃ q, connAndQuitWaiting.quitRx = some q ∧ 0 < q.pending) ∧
      [Label.selectConn (.stream (.ok exampleClient)), .selectQuit].filterMap Label.arrival = []) ∧
    (⟨[], false, some ⟨0, false⟩, .stopped, [exampleClient]⟩ : ProxyServer).rank +
        [Label.selectConn (.stream (.ok exampleClient)), .selectQuit].countP Label.byServer ≤
      connAndQuitWaiting.rank ∧
    ((⟨[], false, some ⟨0, false⟩, .stopped, [exampleClient]⟩ : ProxyServer).phase ≠ .stopped →
      ∃ l s'', l.byServer = true ∧
        Step ⟨[], false, some ⟨0, false⟩, .stopped, [exampleClient]⟩ l s'') :=
  have h := connAndQuitWaiting_reachable
  have hrun : Run connAndQuitWaiting [.selectConn (.stream (.ok exampleClient)), .selectQuit]
      ⟨[], false, some ⟨0, false⟩, .stopped, [exampleClient]⟩ :=
    .step (.selectConn _ _ [] rfl rfl) (.step (.selectQuit _ _ rfl rfl rfl rfl (by decide)) (.refl _))
  have hcause : connAndQuitWaiting.listenerEnded = true ∨
      (∃ q, connAndQuitWaiting.quitRx = some q ∧ 0 < q.pending) ∧
      [Label.selectConn (.stream (.ok exampleClient)), .selectQuit].filterMap Label.arrival = [] :=
    .inr ⟨⟨_, rfl, by decide⟩, rfl⟩
  ⟨h, hrun, hcause, proxyServer_stops_on_end_or_quit h hrun hcause⟩

/-- `select` polls the listener first: a move that takes a quit message or
    finds the quit channel closed finds no connection ready and the
    listener's stream still open. -/
theorem Step.listener_first {s s' : ProxyServer} {l : Label} (h : Step s l s')
    (hl : l = .selectQuit ∨ l = .selectQuitClosed) : s.incoming = [] ∧ s.listenerEnded = false := by
  cases h with
  | selectQuit _ _ hin hend | selectQuitClosed _ _ hin hend => exact ⟨hin, hend⟩
  | _ => simp at hl

/-- From a server waiting in `select` on a live socket, connections arriving
    one after another keep it there for any number of its own moves, each
    taking a connection, with the quit receiver as it was. -/
theorem Run.connections_keep_selecting {s : ProxyServer} (hi : s.Inv) (hp : s.phase = .selecting)
    (hend : s.listenerEnded = false) (n : Nat) (c : Incoming) :
    ∃ ls' s', Run s ls' s' ∧ ls'.filterMap Label.arrival = List.replicate n c ∧
      ls'.countP Label.byServer = n ∧ (ls'.filterMap Label.taken).length = n ∧
      s'.phase = .selecting ∧ s'.quitRx = s.quitRx := by
  induction n generalizing s with
  | zero => exact ⟨[], s, .refl s, rfl, rfl, rfl, hp, rfl⟩
  | succ n ih =>
    obtain ⟨q, hq⟩ := Option.isSome_iff_exists.1 (hi.1 hp)
    obtain ⟨d, rest, hin⟩ : ∃ d rest, s.incoming ++ [c] = d :: rest := by
      cases hs : s.incoming with
      | nil => exact ⟨c, [], rfl⟩
      | cons d rest => exact ⟨d, rest ++ [c], rfl⟩
    have h1 : Step s (.connect c) { s with incoming := s.incoming ++ [c] } := .connect s c hend
    have h2 := Step.selectConn { s with incoming := s.incoming ++ [c] } d rest hp hin
    have hp' : ({ s with incoming := s.incoming ++ [c] }.takeConnection d rest).phase = .selecting := by
      simp [takeConnection, entry, hq]
    obtain ⟨ls', s', hrun, harr, hcount, htaken, hp'', hq'⟩ := ih (h2.inv (h1.inv hi)) hp' hend
    refine ⟨.connect c :: .selectConn d :: ls', s', .step h1 (.step h2 hrun), ?_, ?_, ?_, hp'', hq'⟩
    · simp [filterMap_cons_eq, Label.arrival, harr, List.replicate_succ]
    · simp [Label.byServer, hcount]
    · simp [filterMap_cons_eq, Label.taken, htaken]

/-- `select` prefers the listener: from every reachable server, no move takes
    a quit message, or finds the quit channel closed, while a connection is
    ready or the listener's stream has ended. So a quit message does not stop
    `run` while connections keep arriving: waiting in `select` on a live
    socket, connections arriving one after another keep the server there for
    any number of its own moves, each taking a connection, with every quit
    message still waiting. -/
theorem quit_postponed_by_connections {ls : List Label} {s : ProxyServer} (h : Run init ls s) :
    (∀ l s', Step s l s' → (l = .selectQuit ∨ l = .selectQuitClosed) →
      s.incoming = [] ∧ s.listenerEnded = false) ∧
    (s.phase = .selecting → s.listenerEnded = false → ∀ (n : Nat) (c : Incoming),
      ∃ ls' s', Run s ls' s' ∧ ls'.filterMap Label.arrival = List.replicate n c ∧
        ls'.countP Label.byServer = n ∧ (ls'.filterMap Label.taken).length = n ∧
        s'.phase = .selecting ∧ s'.quitRx = s.quitRx) :=
  ⟨fun _ _ hs => hs.listener_first, Run.connections_keep_selecting (h.inv inv_init)⟩

/-- With a connection and a quit message both waiting, the quit message
    is not taken first. -/
theorem proxyServer_connection_before_quit :
    Run init [.connect (.stream (.ok exampleClient)), .quitSend] connAndQuitWaiting ∧
    ((∀ l s', Step connAndQuitWaiting l s' → (l = .selectQuit ∨ l = .selectQuitClosed) →
      connAndQuitWaiting.incoming = [] ∧ connAndQuitWaiting.listenerEnded = false) ∧
    (connAndQuitWaiting.phase = .selecting → connAndQuitWaiting.listenerEnded = false →
      ∀ (n : Nat) (c : Incoming), ∃ ls' s', Run connAndQuitWaiting ls' s' ∧
        ls'.filterMap Label.arrival = List.replicate n c ∧ ls'.countP Label.byServer = n ∧
        (ls'.filterMap Label.taken).length = n ∧ s'.phase = .selecting ∧
        s'.quitRx = connAndQuitWaiting.quitRx)) :=
  ⟨connAndQuitWaiting_reachable, quit_postponed_by_connections connAndQuitWaiting_reachable⟩

end ProxyServer

end StratumProxy
