import Rstream.Channel.DrainingTransport
import Rstream.Channel.ProxyAnswers
import Rstream.Channel.ProxyOwnership
import Rstream.Channel.TunnelAccounting
import Rstream.Command.ReconcilerCorrectness
import Rstream.Command.Reconnect
import Rstream.Command.TerminalText
import Rstream.Config.Confinement
import Rstream.Filesystem.Durability
import Rstream.Http.ApiRequests
import Rstream.Http.CorsEnforcement
import Rstream.Http.EngineDiscovery
import Rstream.Mtlsexec.Containment
import Rstream.Net.FramedPackets
import Rstream.Net.MasqueDeadlines
import Rstream.Net.PacketDeadline
import Rstream.Transcript.Bounds
import Rstream.Transcript.Erase
import Rstream.Transcript.Printable
import Rstream.Transcript.Splitting
import Rstream.Transport.AutoBarrier
import Rstream.Transport.Datagrams
import Rstream.Transport.DialRaceAccounting
import Rstream.Transport.QuicErrors
import Rstream.Turn.Credentials
import Rstream.WebTTY.EndToEnd
import Rstream.WebTTY.Framing
import Rstream.WebTTY.HandshakeAgreement
import Rstream.WebTTY.InputConfidentiality
import Rstream.WebTTY.KeyTexts
import Rstream.WebTTY.RecordedIdentity
import Rstream.WebTTY.RejectedOpen
import Rstream.WebTTY.Transcripts
import Rstream.WebTTY.WireOrder.Session
import Rstream.Workspace.CredentialSoundness
