import Tickr.AllNats.Formation
import Tickr.CompactionStaging.Agreement
import Tickr.Events.Polling
import Tickr.LatestRun.Resolver
import Tickr.Lite.Startup
import Tickr.LiteCaptures.Seeding
import Tickr.LocalPickup.Fences
import Tickr.LocalScope.Laws
import Tickr.LocalScope.Snapshots
import Tickr.LogStaging.Retention
import Tickr.Parser.Captures
import Tickr.Parser.Durations
import Tickr.Pickup.Fences
import Tickr.Pickup.Selections
import Tickr.RedisRoles.CancellationSelection
import Tickr.RedisRoles.CapabilityFence
import Tickr.RedisRoles.CommandBus
import Tickr.RedisRoles.CompactionStaging
import Tickr.RedisRoles.WatchdogAccounts
import Tickr.Replay.Lifecycle
import Tickr.Replay.Rehydration
import Tickr.Replay.Seeding
import Tickr.Routing.Forwarding
import Tickr.Scope.Runs
import Tickr.Signals.Answers
import Tickr.Signals.GateRebuild
import Tickr.Signals.Gates
import Tickr.Signals.Isolation
import Tickr.Signals.Retention
import Tickr.Signals.SubscriptionIndex
