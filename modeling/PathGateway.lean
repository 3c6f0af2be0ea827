import PathGateway.ArchivalIndex
import PathGateway.ArchivalStatus
import PathGateway.BenchEnd
import PathGateway.DrainedEndpoints
import PathGateway.DrainsConverge
import PathGateway.LostSignals
import PathGateway.Outvoting
import PathGateway.HeightReset
import PathGateway.FailedArchivalCheck
import PathGateway.PassedArchivalCheck
import PathGateway.RpcTypeDetection
import PathGateway.ServedBatch
import PathGateway.ReplicaHeights
import PathGateway.HeightPoisoning
import PathGateway.ResetSync
import PathGateway.EpochPoisoning
import PathGateway.EpochReset
import PathGateway.GoodNews
import PathGateway.StaleEndpoints
import PathGateway.SubscriptionIDs
import PathGateway.TransparentBridge
import PathGateway.Demultiplexing
import PathGateway.StallWatchdog
import PathGateway.ConnectionMoves
import PathGateway.ForcedRebind
import PathGateway.BrokenDomains
import PathGateway.CapabilityBudget
import PathGateway.ServedResponse
import PathGateway.FailureGate
import PathGateway.ServiceClear
import PathGateway.LeaseExpiry
import PathGateway.IdleEviction
import PathGateway.SeriesCap
import PathGateway.DrainExpiry
import PathGateway.HealthCheckCycle
import PathGateway.RedisRefresh
import PathGateway.ChronicFailure
import PathGateway.ReconciledBatch
import PathGateway.RecordedIDs
import PathGateway.WebsocketLimiter
import PathGateway.SessionRollover
import PathGateway.SessionExhaustion
import PathGateway.MergedConfig
import PathGateway.HedgeWinner
import PathGateway.UpdateOrder
