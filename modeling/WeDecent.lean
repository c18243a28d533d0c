import WeDecent.Admission
import WeDecent.DownloadClient
import WeDecent.DownloadHandshake
import WeDecent.DownloadResult
import WeDecent.DownloadServer
import WeDecent.FileClient
import WeDecent.FileIsolation
import WeDecent.FileLink
import WeDecent.FileRequest
import WeDecent.FileServer
import WeDecent.Forwarder
import WeDecent.ForwarderSessions
import WeDecent.ForwarderSteps
import WeDecent.ForwarderTunnel
import WeDecent.ForwardingGate
import WeDecent.InstallerPackage
import WeDecent.Library.Calendar
import WeDecent.Library.Codec
import WeDecent.Library.CreditLoop
import WeDecent.Library.Decimal
import WeDecent.Library.Duplex
import WeDecent.Library.Fallible
import WeDecent.Library.GoIO
import WeDecent.Library.GoJson
import WeDecent.Library.GoText
import WeDecent.Library.GoTime
import WeDecent.Library.GoUnmarshal
import WeDecent.Library.JavaScript
import WeDecent.Library.Json
import WeDecent.Library.ReplayWindow
import WeDecent.Library.Runs
import WeDecent.Library.Timestamp
import WeDecent.Library.Utf8
import WeDecent.Library.Weights
import WeDecent.Mesh
import WeDecent.MuxChild
import WeDecent.ReplayStore
import WeDecent.RouteAuthorization
import WeDecent.RouteControl
import WeDecent.RouteIssuer
import WeDecent.RouteJson
import WeDecent.RouteVerifier
import WeDecent.StreamProtocol
import WeDecent.StreamRegistry
import WeDecent.TerminalClient
import WeDecent.TerminalIsolation
import WeDecent.TerminalLink
import WeDecent.TerminalOutput
import WeDecent.TerminalServer
import WeDecent.UploadCommit
import WeDecent.RouteAgreement
import WeDecent.Library.Cells
import WeDecent.Library.SingleFlight
import WeDecent.CoreRequests
import WeDecent.TerminalWriteIdempotency
import WeDecent.ConnectIdempotency
import WeDecent.RecoveringCore
import WeDecent.TerminalInput
import WeDecent.ConnectionService
import WeDecent.ConnectionObligations
import WeDecent.ConnectionOwnership
import WeDecent.FailedDisconnect
import WeDecent.FileTransferService
import WeDecent.FileOperationOwnership
import WeDecent.DownloadHandle
import WeDecent.CoreDownload
import WeDecent.DownloadDelivery
import WeDecent.Library.Streams
import WeDecent.SessionFrame
import WeDecent.GrantReplay
import WeDecent.Library.ReadCommitted
import WeDecent.ControlPlane
import WeDecent.RoutedAccess
import WeDecent.Library.Exclusion
import WeDecent.Library.Pairing
import WeDecent.Library.ByteDigits
import WeDecent.Library.JsJson
import WeDecent.Library.Linear
import WeDecent.UpdateState
import WeDecent.UpdateRollback
import WeDecent.TrustStore
import WeDecent.TrustUpdates
import WeDecent.Relay
import WeDecent.RelaySlots
import WeDecent.RelayOwner
import WeDecent.RelayBytes
import WeDecent.CloudRelay
import WeDecent.CloudPairing
import WeDecent.TicketIssuer
import WeDecent.TokenBucket
import WeDecent.AccountSession
import WeDecent.TicketVerifier
import WeDecent.TicketEncoding
import WeDecent.TicketAgreement
import WeDecent.FinalOwner
import WeDecent.Library.FirstLeast
import WeDecent.RoutePlanner
import WeDecent.AuditLog
import WeDecent.Discovery
