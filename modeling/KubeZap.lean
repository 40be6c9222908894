import KubeZap.Foundation.Program
import KubeZap.Foundation.Protocol
import KubeZap.Foundation.Versioned
import KubeZap.Foundation.Keyed
import KubeZap.Foundation.Scan
import KubeZap.Foundation.IdleCache
import KubeZap.Api.Types
import KubeZap.Api.Runtime
import KubeZap.Api.Integration
import KubeZap.Controller.TemplateSecrets
import KubeZap.Controller.Absorbing
import KubeZap.Controller.Completeness
import KubeZap.Controller.AtMostOnce
import KubeZap.Controller.FailStop
import KubeZap.Controller.StepDeadline
import KubeZap.Controller.FlowTimeout
import KubeZap.Controller.Release
import KubeZap.Foundation.Newest
import KubeZap.Controller.CountLimits
import KubeZap.Controller.Cancellation
import KubeZap.Controller.Kafka
import KubeZap.Foundation.ReverseIndex
import KubeZap.Api.Trigger
import KubeZap.Gateway.Routes
import KubeZap.Gateway.Watcher
import KubeZap.Foundation.Run
import KubeZap.Gateway.RouteTable
import KubeZap.Api.Triggered
import KubeZap.Gateway.Handler
import KubeZap.Gateway.ClientAddress
import KubeZap.Gateway.FailClosed
import KubeZap.Foundation.SlidingWindow
import KubeZap.Gateway.RateLimit
import KubeZap.Foundation.Epochs
import KubeZap.Controller.CronScheduler
import KubeZap.Controller.CronCooldown
import KubeZap.Foundation.Informer
import KubeZap.Controller.ResourceWatcher
import KubeZap.Controller.ResourceEmission
import KubeZap.Controller.ResourceCooldown
import KubeZap.Controller.TriggerReconcile
import KubeZap.Controller.TriggerEffects
import KubeZap.Controller.TriggerOwnership
import KubeZap.Gateway.KafkaConsumer
import KubeZap.Gateway.KafkaDelivery
import KubeZap.Gateway.AmqpConsumer
import KubeZap.Gateway.AmqpTls
import KubeZap.Gateway.NatsDelivery
import KubeZap.Plugin.SqsDelivery
import KubeZap.Executor.BlockedRanges
import KubeZap.Executor.TwoChecks
import KubeZap.Gateway.BrokerWatcher
import KubeZap.Gateway.BrokerKinds
import KubeZap.Gateway.BrokerLedger
import KubeZap.Gateway.ConsumerIdentity
import KubeZap.Gateway.SubscriptionConfig
import KubeZap.Gateway.LateSecrets
import KubeZap.Gateway.SubscriptionRace
import KubeZap.Controller.IntegrationGateways
import KubeZap.Gateway.GatewaySelection
import KubeZap.Controller.TimeToLive
import KubeZap.Gateway.AcceptedRequests
import KubeZap.Gateway.Revocation
import KubeZap.Foundation.Certificates
import KubeZap.Certs.CertUtil
import KubeZap.Controller.ExecutorMTLS
import KubeZap.Controller.PluginMTLS
import KubeZap.Foundation.Objects
import KubeZap.Foundation.Replicas
import KubeZap.Certs.WebhookCerts
import KubeZap.Certs.ReplicaCerts
import KubeZap.Workload.Objects
import KubeZap.Workload.WebhookGateway
import KubeZap.Workload.IntegrationControl
import KubeZap.Workload.ReplicaCounts
import KubeZap.Controller.RootOrder
import KubeZap.Controller.KafkaProducers
import KubeZap.Plugin.SqsHealth
import KubeZap.Gateway.PayloadCapture
import KubeZap.Gateway.FlowRunMetadata
import KubeZap.Gateway.StoredCredentials
import KubeZap.Controller.StepMessages
import KubeZap.Controller.RetryBackoff
import KubeZap.Controller.ConstantParams
import KubeZap.Controller.MapOrder
import KubeZap.Controller.CredentialRedirects
import KubeZap.Controller.CronTicks
import KubeZap.Gateway.SecretIndex
import KubeZap.Gateway.EmptyCredentials
import KubeZap.Controller.WatchedFields
import KubeZap.Controller.DeletedRuns
import KubeZap.Controller.StoredEntries
import KubeZap.Controller.Attempts
