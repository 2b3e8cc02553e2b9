import Sonde.Gateway.ProviderFailure
import Sonde.Node.NonceReuse
import Sonde.Bpf.PanicFreedom
import Sonde.Gateway.SessionReplay
import Sonde.Gateway.LostUpdate
import Sonde.Gateway.Removal
import Sonde.System.UpdateIntegrity
import Sonde.Gateway.Registration
import Sonde.Gateway.DeferredReplies
import Sonde.Gateway.WakeReplay
import Sonde.System.ScheduleDelivery
import Sonde.Modem.SecondClient
import Sonde.Modem.PairingApproval
import Sonde.Node.AsyncDelivery
import Sonde.System.ReadOnlyMaps
import Sonde.System.Enrolment
import Sonde.System.Divergence
import Sonde.Bpf.StackFrames
import Sonde.Bpf.PointerTags
import Sonde.Bpf.SpillTracking
import Sonde.Node.AtomicInstall
import Sonde.Node.ForeignFrames
import Sonde.Node.SelfHealing
import Sonde.Gateway.RotationPayload
import Sonde.System.WakeForwarding
import Sonde.System.DisplayTransfer
import Sonde.System.PayloadSizes
import Sonde.System.MapAccess
import Sonde.Gateway.HandlerProcess
import Sonde.Modem.PeerTable
import Sonde.Modem.ButtonScanner
import Sonde.Azure.Calendar
import Sonde.Gateway.HexParsing
import Sonde.Kicad.SExpr
