import StratumProxy.Session.Loop

/-!
# Handling One Connection

`ProxyConnection::handle` and `ProxyConnection::do_handle`: what happens to a
downstream connection between the listener and the translation session, and
the PROXY protocol configuration that steers it.

`do_handle` is a chain of `?`: read a PROXY header if configured, dial the
upstream pool once, pass a PROXY header upstream if configured and both
original addresses are known, ask the upstream socket for its address, run
the Noise handshake if the server has a security context, and only then hand
both connections to the session handler. The collaborators of each step (the
PROXY acceptor and connector, the upstream client, the Noise responder, the
handler) are not among the sources; their outcomes on one connection are a
`Collaborators` value, any of them free to fail.

`Logged` runs the chain as the sources do: a failed step stops it with that
step's error, and the steps taken so far are recorded as `Effect`s.

Which path the chain takes is fixed by the configuration, by whether the
server is secure, and by which collaborator fails first; the model records
what each step reads and the order of the steps.

## Main definitions

* `ProxyProtocolVersion`, `ProxyProtocolVersion.fromStr`: The versions and
  their parsing.
* `ProxyConfig`, `ProxyConfig.default`: The PROXY protocol configuration.
* `Effect`, `Logged`: The observable steps, and computations that record
  them.
* `acceptorSettings`, `passProxyProtocol`: The PROXY acceptor's settings and
  the upstream PROXY header.
* `ProxyConnection.doHandle`, `ProxyConnection.handle`: One connection.
-/

namespace StratumProxy

/-- `ProxyProtocolVersion`. -/
inductive ProxyProtocolVersion
  | V1
  | V2
  | Both
deriving DecidableEq, Repr

namespace ProxyProtocolVersion

/-- `ProxyProtocolVersion::from_str`. -/
def fromStr (s : String) : Except Error ProxyProtocolVersion :=
  if s = "v1" then .ok V1
  else if s = "v2" then .ok V2
  else if s = "both" then .ok Both
  else .error (.general "Invalid PROXY protocol version")

end ProxyProtocolVersion

/-- `ProxyConfig`. -/
structure ProxyConfig where
  acceptProxyProtocol : Bool
  proxyProtocolOptional : Bool
  acceptedProxyProtocolVersions : ProxyProtocolVersion
  passProxyProtocol : Option ProxyProtocolVersion
deriving DecidableEq, Repr

/-- `ProxyConfig::default`. -/
def ProxyConfig.default : ProxyConfig := ⟨false, false, .Both, none⟩

/-- The settings `do_handle` gives the PROXY `Acceptor`. -/
structure AcceptorSettings where
  supportV1 : Bool
  supportV2 : Bool
  requireProxyHeader : Bool
deriving DecidableEq, Repr

/-- The original addresses a connection reports through `WithProxyInfo`. -/
structure ProxyInfo where
  originalPeerAddr : Option SocketAddr
  originalDestinationAddr : Option SocketAddr
deriving DecidableEq, Repr, Inhabited

/-- A step of handling a connection, as seen from outside. -/
inductive Effect
  /-- `Acceptor::accept`, reading a PROXY header off the downstream socket. -/
  | acceptProxy (settings : AcceptorSettings)
  /-- `v1_client.next()`, the one attempt at the upstream pool. -/
  | dialUpstream
  /-- `Connector::connect_to`, writing a PROXY header upstream. -/
  | passProxy (useV2 : Bool) (src dst : SocketAddr)
  /-- The warning that the original addresses are missing. -/
  | warnNoOriginalAddrs
  /-- The Noise responder's handshake, over a PROXY stream or a plain one. -/
  | noiseHandshake (overProxy : Bool)
  /-- The session handler, given both connections. -/
  | runHandler
deriving DecidableEq, Repr

/-- A computation that records its observable steps, in order, and stops at
    the first error, keeping what it recorded up to it. -/
structure Logged (α : Type) where
  effects : List Effect
  result : Except Error α

namespace Logged

variable {α β : Type}

instance : Monad Logged where
  pure a := ⟨[], .ok a⟩
  bind x f := match x.result with
    | .ok a => ⟨x.effects ++ (f a).effects, (f a).result⟩
    | .error e => ⟨x.effects, .error e⟩

/-- One observable step with its outcome. -/
def call (e : Effect) (r : Except Error α) : Logged α := ⟨[e], r⟩

/-- An outcome with no observable step. -/
def lift (r : Except Error α) : Logged α := ⟨[], r⟩

end Logged

/-- The PROXY acceptor's settings in `do_handle`: the configured versions, and
    a header required unless it is optional. -/
def acceptorSettings (cfg : ProxyConfig) : AcceptorSettings :=
  let (supportV1, supportV2) := match cfg.acceptedProxyProtocolVersions with
    | .V1 => (true, false)
    | .V2 => (false, true)
    | .Both => (true, true)
  ⟨supportV1, supportV2, !cfg.proxyProtocolOptional⟩

/-- The upstream PROXY header of `do_handle`: written with the original
    addresses when passing is configured and both are known, version 2 only
    for `V2`; a warning and nothing written when an address is missing. -/
def passProxyProtocol (pass : Option ProxyProtocolVersion) (info : ProxyInfo)
    (connect : Bool → SocketAddr → SocketAddr → Except Error Unit) : Logged Unit :=
  match pass with
  | none => pure ()
  | some version =>
    match info.originalPeerAddr, info.originalDestinationAddr with
    | some src, some dst =>
      Logged.call (.passProxy (version == .V2) src dst) (connect (version == .V2) src dst)
    | _, _ => Logged.call .warnNoOriginalAddrs (.ok ())

/-- The outcomes of `do_handle`'s collaborators on one connection. -/
structure Collaborators where
  /-- `Acceptor::accept` with the given settings: the addresses the header carried. -/
  acceptProxy : AcceptorSettings → Except Error ProxyInfo
  /-- What a plain `TcpStream` reports through `WithProxyInfo`. -/
  tcpInfo : ProxyInfo
  /-- `v1_client.next()`. -/
  dialUpstream : Except Error Unit
  /-- `Connector::connect_to`, given the version and the original addresses. -/
  passProxy : Bool → SocketAddr → SocketAddr → Except Error Unit
  /-- `v1_conn.peer_addr()`. -/
  v1PeerAddr : Except Error SocketAddr
  /-- The Noise responder's handshake. -/
  noiseHandshake : Except Error Unit
  /-- The connection handler's result. -/
  handler : Except Error Unit
  /-- `self.v2_conn.peer_addr()`, read by `handle`. -/
  v2PeerAddr : Except Error SocketAddr

/-- `ProxyConnection`'s part that steers `do_handle`: the PROXY configuration
    and whether the server has a `SecurityContext`. -/
structure ProxyConnection where
  proxyConfig : ProxyConfig
  secure : Bool

namespace ProxyConnection

variable (conn : ProxyConnection) (env : Collaborators)

/-- The incoming downstream stream: through the PROXY acceptor when
    `accept_proxy_protocol` is set, else the plain socket. The flag says
    which, and the addresses are what the stream reports. -/
def incoming : Logged (Bool × ProxyInfo) :=
  if conn.proxyConfig.acceptProxyProtocol then do
    let settings := acceptorSettings conn.proxyConfig
    let info ← Logged.call (.acceptProxy settings) (env.acceptProxy settings)
    pure (true, info)
  else pure (false, env.tcpInfo)

/-- `ProxyConnection::do_handle`. -/
def doHandle : Logged Unit := do
  let (overProxy, info) ← conn.incoming env
  Logged.call .dialUpstream env.dialUpstream
  passProxyProtocol conn.proxyConfig.passProxyProtocol info env.passProxy
  let _ ← Logged.lift env.v1PeerAddr
  if conn.secure then Logged.call (.noiseHandshake overProxy) env.noiseHandshake
  Logged.call .runHandler env.handler

/-- `ProxyConnection::handle`: nothing is done for a downstream connection
    whose peer address cannot be read. -/
def handle : Logged Unit :=
  match env.v2PeerAddr with
  | .error e => ⟨[], .error e⟩
  | .ok _ => conn.doHandle env

end ProxyConnection

end StratumProxy
