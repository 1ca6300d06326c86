import EspNowNet.AttemptOrder
import EspNowNet.DuplicateWindow
import EspNowNet.Network
import EspNowNet.RadioInvariant
import EspNowNet.ClientTransactions
import EspNowNet.SenderOwnership
import EspNowNet.MessageConsumption
import EspNowNet.DeliverySettlement
import EspNowNet.CommandDeadline
import EspNowNet.CancelledResults
import EspNowNet.RuntimeCalls
import EspNowNet.ChecksumDetection
import EspNowNet.FrameSafety
import EspNowNet.EncodedFragments
import EspNowNet.SenderDeliveries
import EspNowNet.RuntimeAnswers
import EspNowNet.RadioStability
import EspNowNet.ReconnectSuppression
import EspNowNet.BackgroundResults
import EspNowNet.QueueInterleaving
import EspNowNet.ResultCanonical
import EspNowNet.DeclarativeHandler
import EspNowNet.PeerConfiguration
import EspNowNet.CommandIdentity
import EspNowNet.ExecutionStarted
import EspNowNet.RadioSpacing
import EspNowNet.DriverPeers
import EspNowNet.AckDeadline
import EspNowNet.HeartbeatAccounting
import EspNowNet.PayloadCodecs
import EspNowNet.InterruptibleTransactionPair
import EspNowNet.HexParsing
import EspNowNet.RecoveryHistory
import EspNowNet.CommandDelivery
import EspNowNet.HeartbeatNetwork
import EspNowNet.WifiPeerRecovery
import EspNowNet.ReconnectTimetable
import EspNowNet.LightCompletion
import EspNowNet.RestartRequests
import EspNowNet.RefreshTurns
import EspNowNet.ResultDelivery
import EspNowNet.LongMessages
import EspNowNet.InboundConfiguration
import EspNowNet.DeliveryTime
