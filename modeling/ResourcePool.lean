import ResourcePool.Address.Literal
import ResourcePool.Main
import ResourcePool.Scenario.Session
import ResourcePool.Store.Trial
import ResourcePool.Proofs.Store.Sound
import ResourcePool.Proofs.Store.Identity
import ResourcePool.Proofs.Store.Idle
import ResourcePool.Proofs.Store.Conservation
import ResourcePool.Proofs.Books.Changes
import ResourcePool.Proofs.Books.Acquire
import ResourcePool.Proofs.Books.Counting
import ResourcePool.Proofs.Books.Account
import ResourcePool.Proofs.Upkeep.Work
import ResourcePool.Proofs.Upkeep.Keeper
import ResourcePool.Proofs.Upkeep.Health
import ResourcePool.Proofs.Upkeep.Policy
import ResourcePool.Proofs.Upkeep.Job
import ResourcePool.Proofs.Upkeep.Counting
import ResourcePool.Proofs.Upkeep.Batch
import ResourcePool.Proofs.Upkeep.Tick
import ResourcePool.Proofs.Custody.Basic
import ResourcePool.Proofs.Custody.Exclusive
import ResourcePool.Proofs.Custody.Loss
import ResourcePool.Proofs.Custody.Origin
import ResourcePool.Proofs.Custody.Identity
import ResourcePool.Proofs.System.Transaction
import ResourcePool.Proofs.System.Passage
import ResourcePool.Proofs.System.Clearing
import ResourcePool.Proofs.System.Eviction
import ResourcePool.Proofs.System.Leases
import ResourcePool.Proofs.System.Identity
import ResourcePool.Proofs.System.EvictionCount
import ResourcePool.Proofs.System.LeaseLedger
import ResourcePool.Proofs.System.FactoryLedger
import ResourcePool.Proofs.System.Postings
import ResourcePool.Proofs.System.Selection
import ResourcePool.Proofs.System.Abandonment
import ResourcePool.Proofs.System.Inspection
import ResourcePool.Proofs.Holdings.References
import ResourcePool.Proofs.Jobs.Enabled
import ResourcePool.Proofs.Jobs.Waiting
import ResourcePool.Proofs.Jobs.StopAll
import ResourcePool.Proofs.Jobs.Failing
import ResourcePool.Proofs.Jobs.Lifetime
import ResourcePool.Proofs.Jobs.Watching
import ResourcePool.Proofs.Jobs.FirstFind
import ResourcePool.Proofs.Jobs.Cycling
import ResourcePool.Proofs.Jobs.KeeperCycle
import ResourcePool.Proofs.Jobs.HealthCycle
import ResourcePool.Proofs.Reclearing.Runs
import ResourcePool.Proofs.Nap
import ResourcePool.Proofs.Exposition.RoundTrip
