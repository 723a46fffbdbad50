import Sepigs.Lib.Runs
import Sepigs.Lib.KeyMap
import Sepigs.Lib.Resumption
import Sepigs.Lib.AsyncMethod
import Sepigs.Lib.JsString
import Sepigs.Config.Types
import Sepigs.Outbound.RuntimeRegistry
import Sepigs.Outbound.RegistryOperations
import Sepigs.Outbound.ReferenceCounting
import Sepigs.Router.Generation
import Sepigs.Lib.JsMap
import Sepigs.Lib.Accumulate
import Sepigs.Lib.Dialogue
import Sepigs.Lib.Buffer
import Sepigs.Lib.Decoder
import Sepigs.Utils.BufferedSocketReader
import Sepigs.Utils.BufferQueue
import Sepigs.Protocol.Address
import Sepigs.Protocol.Shadowsocks
import Sepigs.Protocol.ShadowsocksReceive
import Sepigs.Protocol.ShadowsocksSend
import Sepigs.Protocol.ShadowsocksStream
import Sepigs.Inbound.Socks5
import Sepigs.Inbound.Socks5Negotiation
import Sepigs.Inbound.Handshake
import Sepigs.Inbound.Http
import Sepigs.Inbound.HttpTunnel
import Sepigs.Inbound.HttpForward
import Sepigs.Dns.FakeIpPool
import Sepigs.Dns.FakeIp
import Sepigs.Dns.FakeIpMapping
import Sepigs.Dns.GenerationStore
import Sepigs.Reload.Transaction
import Sepigs.Reload.Executor
import Sepigs.Reload.Compensation
import Sepigs.Reload.RuntimeAdapters
import Sepigs.Core.Construction
import Sepigs.Reload.RuntimeIntegration
import Sepigs.Reload.ExecutorRule
import Sepigs.Reload.Requests
import Sepigs.Reload.RuntimeOperations
import Sepigs.Reload.RuntimeTransaction
import Sepigs.Reload.RuntimeTransactionSteps
import Sepigs.Reload.RuntimeTransactionProof
import Sepigs.Reload.Atomicity
import Sepigs.Reload.Ownership
import Sepigs.Core.Engine
import Sepigs.Core.ConnectionManager
import Sepigs.Core.ConnectionAccounting
import Sepigs.Core.EngineLifecycle
import Sepigs.Inbound.ConnectHandler
import Sepigs.Router.GenerationRuns
import Sepigs.Router.GenerationUsage
import Sepigs.Router.GenerationPublishers
import Sepigs.Lib.Checked
import Sepigs.Router.Matcher
import Sepigs.Lib.IpValue
import Sepigs.Lib.JsNumber
import Sepigs.Router.Cidr
import Sepigs.Config.Readers
import Sepigs.Config.Accepted
import Sepigs.Router.Routing
import Sepigs.Router.GenerationConstruction
import Sepigs.Lib.IpText
import Sepigs.Config.Exposure
import Sepigs.Config.Redaction
import Sepigs.Reload.ChangeDetection
import Sepigs.Plugin.FactoryOwnership
import Sepigs.Protocol.AddressCodec
import Sepigs.Lib.JsonDiff
import Sepigs.Lib.JsonOrder
import Sepigs.Plugin.PluginManager
import Sepigs.Dns.Generation
import Sepigs.Dns.Resolver
import Sepigs.Dns.ResolverFlights
import Sepigs.Plugin.Runner
import Sepigs.Plugin.RunnerIsolation
import Sepigs.Dns.GenerationUsage
import Sepigs.Reload.DnsNumbering
import Sepigs.Core.DnsHistory
import Sepigs.Reload.ProgramRule
import Sepigs.Reload.ExecutorOutcome
import Sepigs.Reload.RoutingAcceptance
import Sepigs.Lib.Preference
import Sepigs.Router.Policy
import Sepigs.Router.PolicyOrder
import Sepigs.Lib.Reading
import Sepigs.Dns.Message
import Sepigs.Dns.Response
import Sepigs.Dns.Query
import Sepigs.Lib.Recency
import Sepigs.Dns.CacheRecency
import Sepigs.Dns.CacheCarryover
import Sepigs.Inbound.Socks5Address
import Sepigs.Dns.FakeIpRecency
import Sepigs.Dns.FakeIpEviction
import Sepigs.Dns.FakeIpPersistence
import Sepigs.Dns.FakeIpRestart
import Sepigs.Lib.IndexBy
import Sepigs.Transport.RelayTruncation
import Sepigs.Core.UdpSessionManager
import Sepigs.Core.PoolExclusivity
import Sepigs.Subscription.Normalize
import Sepigs.Subscription.UniqueTags
import Sepigs.Outbound.GenerationBuilder
import Sepigs.Outbound.OutboundDiff
import Sepigs.Dns.UpstreamRules
import Sepigs.Inbound.HttpAuthority
import Sepigs.Inbound.HttpForms
import Sepigs.Inbound.HttpRewrite
import Sepigs.Reload.Sanitize
import Sepigs.Reload.PairScan
import Sepigs.Reload.Redaction
import Sepigs.Reload.Userinfo
import Sepigs.Reload.Secrets
import Sepigs.Lib.Fifo
import Sepigs.Utils.BufferQueueFifo
import Sepigs.Lib.JsBits
import Sepigs.Lib.CyclicSearch
import Sepigs.Dns.FakeIpSearch
import Sepigs.Protocol.ShadowsocksNonces
import Sepigs.Inbound.InboundReload
import Sepigs.Lib.WorkerPool
import Sepigs.Router.ActiveProber
import Sepigs.Core.Dispatch
import Sepigs.Reload.ControlPlane
import Sepigs.Reload.ControlRuns
import Sepigs.Reload.ControlStages
import Sepigs.Reload.ControlMethods
import Sepigs.Reload.ControlUnwinding
import Sepigs.Reload.ControlExecution
import Sepigs.Reload.ControlRecovery
import Sepigs.Reload.ControlTransaction
import Sepigs.Workers.WorkerPool
import Sepigs.Workers.PoolCalls
import Sepigs.Outbound.ProxyRequests
import Sepigs.Core.Failover
import Sepigs.Inbound.UdpAssociate
import Sepigs.Inbound.UdpRelayAccounting
import Sepigs.Inbound.UdpReplies
import Sepigs.Dashboard.Server
import Sepigs.Config.Loader
