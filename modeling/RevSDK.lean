import RevSDK.Foundation.Runs
import RevSDK.Foundation.Outbox
import RevSDK.Stats.Delivery
import RevSDK.Stats.LogEvents
import RevSDK.Protocol.TesterAttribution
import RevSDK.Model.Recovery
import RevSDK.Model.ConfigurationPersistence
import RevSDK.Model.ControlGroup
import RevSDK.Model.DomainFilter
import RevSDK.Model.ReportMode
import RevSDK.Model.ReportOnce
import RevSDK.Connection.TruncatedResponse
import RevSDK.Connection.SessionRequests
import RevSDK.Utils.ConfigurationAgreement
import RevSDK.Interception.OriginDelivery
import RevSDK.Connection.RedirectTerminal
import RevSDK.Connection.SessionDialogue
import RevSDK.Connection.StreamDiscipline
import RevSDK.Protocol.FailoverDecision
import RevSDK.Protocol.ConfiguredOrder
import RevSDK.Connection.LoggedConnections
import RevSDK.Interception.RequestRecords
import RevSDK.Connection.QUICAnchors
import RevSDK.Interception.ProcessedRequests
import RevSDK.Interception.RedirectChain
import RevSDK.Debug.LoggedText
import RevSDK.Model.Monitoring
import RevSDK.Stats.DeletedRecords
import RevSDK.Connection.StreamTimeout
import RevSDK.Connection.LateChunks
import RevSDK.Connection.RequestBody
import RevSDK.Interception.HostReplacement
import RevSDK.Connection.RedirectResolution
import RevSDK.Interception.OriginalHost
import RevSDK.Utils.ConfigurationDefaults
import RevSDK.Debug.DebugUsageTracker
import RevSDK.Protocol.StoredWindow
import RevSDK.Model.QuietPass
import RevSDK.Stats.PackedRecords
import RevSDK.Interception.ProvisionedHosts
import RevSDK.Interception.RecordedURL
import RevSDK.Quic.BufferAgreement
import RevSDK.Quic.ConversationRuns
import RevSDK.Quic.QuicConfig
