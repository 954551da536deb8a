import Sentel.Configuration.Config
import Sentel.Event.Transport
import Sentel.Shiro.Isolation
import Sentel.Shiro.RoleStore
import Sentel.Shiro.PrincipalCollection
import Sentel.Registry.UniqueKeys
import Sentel.Registry.ShadowDevice
import Sentel.ApiServer.OwnerAccess
import Sentel.ApiServer.DeviceProps
import Sentel.ApiServer.BulkRegistration
import Sentel.IotManager.TenantServices
import Sentel.IotManager.Recovery
import Sentel.Discovery.Watcher
import Sentel.Kafka.Consumer
import Sentel.Mns.StoreMaps
import Sentel.Mns.QueueOperations
import Sentel.Mns.Signature
import Sentel.Mns.QpsMonitor
import Sentel.IotManager.Deployments
import Sentel.IotManager.SwarmCluster
import Sentel.Auth.FlavorChanges
import Sentel.Auth.SecretCache
import Sentel.Queue.CleanQueue
import Sentel.Queue.Interchange
import Sentel.Metric.MetricService
import Sentel.Quto.LruCache
import Sentel.Quto.QutoService
import Sentel.SessionMgr.TopicIndex
import Sentel.SessionMgr.RetainedMessages
import Sentel.Mqtt.RequestOptions
import Sentel.Mqtt.PartialWrites
import Sentel.Mqtt.FieldCodec
import Sentel.IotHub.MqttParser
import Sentel.Mqtt.ParseSafety
import Sentel.Mqtt.ConnectExact
import Sentel.Mqtt.PacketIdentifiers
import Sentel.Mqtt.Draining
import Sentel.Mqtt.Retransmission
import Sentel.Mqtt.SessionLife
import Sentel.Mqtt.Replication
import Sentel.Concurrency.WaitCycle
import Sentel.Concurrency.ClosedChannel
import Sentel.Shiro.SharedRoles
