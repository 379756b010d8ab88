import AkashicSystem.Amtp.SerializerReserved
import AkashicSystem.Playlog.StoreQueueSettles
import AkashicSystem.Playlog.PlaylogStoreDurability
import AkashicSystem.Amtp.ServerGate
import AkashicSystem.PlaylogServer.PermissionUpdates
import AkashicSystem.Playlog.MigrationFaults
import AkashicSystem.Playlog.PlayClosing
import AkashicSystem.Amtp.SendReady
import AkashicSystem.Amtp.Crossing
import AkashicSystem.PlaylogServer.CapacityConservation
import AkashicSystem.Playlog.PlaylogMetadata
import AkashicSystem.PlaylogServer.HolderClose
import AkashicSystem.PlaylogServer.HolderConsumers
import AkashicSystem.PlaylogServer.HolderLifetime
import AkashicSystem.PlaylogServer.PlayReferences
import AkashicSystem.Playlog.ExcludedReads
import AkashicSystem.PlaylogServer.CachedTicks
import AkashicSystem.PlaylogServer.EngineSessions
import AkashicSystem.AmqpUtils.ChannelHolder
import AkashicSystem.Playlog.QueueSubscriptions
import AkashicSystem.PlaylogServer.SessionResumption
import AkashicSystem.PlaylogServer.EventLimits
import AkashicSystem.PlaylogServer.TokenPurge
import AkashicSystem.PlaylogClient.BufferedPipe
import AkashicSystem.PlaylogClient.ClientPushes
import AkashicSystem.ClusterMaster.SeatPromotion
import AkashicSystem.ClusterMaster.MonitorAgreement
import AkashicSystem.ClusterMaster.Designator
import AkashicSystem.Play.PlayChildren
import AkashicSystem.SystemApiServer.PlayAgreement
import AkashicSystem.SystemApiServer.InstanceOperations
import AkashicSystem.PlaylogServer.TokenPermits
import AkashicSystem.Tapper.BigQuery
import AkashicSystem.ActiveRecord.ConnectionContexts
import AkashicSystem.AmqpUtils.AmqpConnection
import AkashicSystem.MasterAgentRpc.ClientBase
import AkashicSystem.PlaylogClient.Socket
import AkashicSystem.PlaylogServer.EventConsumers
import AkashicSystem.PlaylogClient.SessionCallbacks
import AkashicSystem.PlaylogServer.CorrectedLists
import AkashicSystem.PlaylogServer.EngineAuthentications
import AkashicSystem.ClusterMaster.InstanceEnds
import AkashicSystem.PlaylogServer.StartPointRequests
import AkashicSystem.PlaylogServer.TokenIndexes
import AkashicSystem.ClusterMaster.Mutex
import AkashicSystem.ClusterMaster.TraitSearches
import AkashicSystem.PlaylogServer.ChildPermissions
import AkashicSystem.AmflowMessage.EncodedTickLists
import AkashicSystem.Js.Json
import AkashicSystem.MasterAgentRpc.Converters
import AkashicSystem.Play.AncestorSearch
import AkashicSystem.Play.PlayRelationStores
import AkashicSystem.StorageCore.GameExternalStorage
import AkashicSystem.StorageCore.RankingPages
import AkashicSystem.StorageCore.StorageKeys
import AkashicSystem.StorageCore.Increments
import AkashicSystem.StorageCore.WrittenValues
import AkashicSystem.Amtp.Elections
import AkashicSystem.Dispatching.Candidates
import AkashicSystem.Dispatching.DispatcherCaches
import AkashicSystem.PlaylogServer.WriteLocks
import AkashicSystem.PlaylogServer.KeepAlive
import AkashicSystem.Amtp.Handshake
