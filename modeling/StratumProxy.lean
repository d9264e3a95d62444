import StratumProxy.Wire.Codec
import StratumProxy.Wire.Framing
import StratumProxy.Wire.Messages
import StratumProxy.Wire.FrameCodec
import StratumProxy.Session.Loop
import StratumProxy.Session.Timeout
import StratumProxy.Session.SendTask
import StratumProxy.Session.Concurrent
import StratumProxy.Server.Listener
import StratumProxy.Server.Connection
