import PaperboatTunnel.Auth.Snapshot
import PaperboatTunnel.Cmd.CarrierComponent
import PaperboatTunnel.ConnectorProtocol.Correctness.Fencing
import PaperboatTunnel.ConnectorProtocol.Correctness.ServerGenerations
import PaperboatTunnel.ConnectorProtocol.Correctness.ServerLease
import PaperboatTunnel.ConnectorProtocol.Correctness.Closed
import PaperboatTunnel.ConnectorProtocol.Correctness.Drain
import PaperboatTunnel.ConnectorProtocol.Correctness.NegativeAcks
import PaperboatTunnel.ConnectorProtocol.Correctness.Prepared
import PaperboatTunnel.ConnectorProtocol.Correctness.GapRecovery
import PaperboatTunnel.ConnectorProtocol.Correctness.Answered
import PaperboatTunnel.ConnectorProtocol.Correctness.JointReadiness
import PaperboatTunnel.ConnectorProtocol.Correctness.LivenessStamp
import PaperboatTunnel.ConnectorProtocol.Correctness.RotationGate
import PaperboatTunnel.ConnectorProtocol.Correctness.RotationRecovery
import PaperboatTunnel.ConnectorProtocol.Correctness.RotationOrder
import PaperboatTunnel.ConnectorProtocol.Correctness.RotationOverlap
import PaperboatTunnel.Route.Selection
import PaperboatTunnel.Route.Correctness.StreamLeases
import PaperboatTunnel.Datacarrier.Correctness.ServerPermits
import PaperboatTunnel.Datacarrier.Correctness.ControlSlot
import PaperboatTunnel.Datacarrier.Correctness.SessionStreams
import PaperboatTunnel.Datacarrier.Correctness.ClientAccounts
import PaperboatTunnel.Datacarrier.Correctness.EdgeAuthorizer
import PaperboatTunnel.Datacarrier.Correctness.PeerBinding
import PaperboatTunnel.Runtime.Correctness.ProbeAdmission
import PaperboatTunnel.Runtime.Correctness.DetachLedger
import PaperboatTunnel.Runtime.Correctness.SelectionOrder
import PaperboatTunnel.Runtime.Correctness.TunnelIsolation
import PaperboatTunnel.Operation.Correctness.SingleUse
import PaperboatTunnel.Usage.Correctness.CrashRecovery
import PaperboatTunnel.Runtime.Correctness.FinalAccounting
import PaperboatTunnel.EdgeHTTP.Correctness.ExactLimits
import PaperboatTunnel.EdgeHTTP.Refresh
import PaperboatTunnel.Node.Correctness.DrainAccounting
import PaperboatTunnel.PeerRelay.CopyLimited
import PaperboatTunnel.PeerRelay.Correctness.Bounds
import PaperboatTunnel.PeerRelay.Correctness.Released
import PaperboatTunnel.PeerRelay.Correctness.SingleAllocation
import PaperboatTunnel.TLSCert.Correctness.Ownership
import PaperboatTunnel.TLSCert.Correctness.Revocation
import PaperboatTunnel.PeerSignalingProtocol.Grammar
import PaperboatTunnel.PeerSignaling.Correctness.Delivery
import PaperboatTunnel.PeerSignaling.Correctness.Credentials
import PaperboatTunnel.EdgeHTTP.MeteredTransfer
import PaperboatTunnel.EdgeHTTP.CompositeRouteMatcher
import PaperboatTunnel.Caddymodules.PaperboatQUIC
import PaperboatTunnel.EdgeHTTP.RequestTelemetry
import PaperboatTunnel.EdgeHTTP.Correctness.ListenerLimit
import PaperboatTunnel.EdgeHTTP.IngressStreams
