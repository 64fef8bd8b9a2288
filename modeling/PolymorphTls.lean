import PolymorphTls.InputStream
import PolymorphTls.Notify
import PolymorphTls.SendOrder
import PolymorphTls.SendWakeups
import PolymorphTls.SendPermit
import PolymorphTls.SendFlush
import PolymorphTls.ReceiveProducer
import PolymorphTls.GuestSocket
import PolymorphTls.HostSocket
import PolymorphTls.Pump
import PolymorphTls.PumpReceive
import PolymorphTls.NullTls
import PolymorphTls.PumpSend
import PolymorphTls.PumpHandshake
import PolymorphTls.PumpTransmit
import PolymorphTls.PumpChunks
import PolymorphTls.Connection
import PolymorphTls.ConnectionFutures
import PolymorphTls.Resolve
import PolymorphTls.Handles
import PolymorphTls.Store
import PolymorphTls.ChaCha20
import PolymorphTls.HeaderProtection
import PolymorphTls.HeaderRoundTrip
import PolymorphTls.PacketProtection
import PolymorphTls.Rpk
import PolymorphTls.ReceiveEnd
import PolymorphTls.SendConsumer
import PolymorphTls.TunnelConnect
import PolymorphTls.Channel
import PolymorphTls.PlainTls
import PolymorphTls.Loopback
import PolymorphTls.Shutdown
import PolymorphTls.SendSettle
import PolymorphTls.GuestTunnel
import PolymorphTls.Handshaking
import PolymorphTls.Polling
import PolymorphTls.Noq
import PolymorphTls.PlainQuic
import PolymorphTls.QuicDriver
import PolymorphTls.Halves
import PolymorphTls.TunnelEndToEnd
import PolymorphTls.SendEnd
import PolymorphTls.TunnelLife
import PolymorphTls.Parts
