import ConnectionPool.Builder
import ConnectionPool.Scenario.Scheduler
import ConnectionPool.Trial.Record
import ConnectionPool.Trial.Server
import ConnectionPool.Trial.Walk
import ConnectionPool.Proofs.Closing
import ConnectionPool.Proofs.Draining
import ConnectionPool.Proofs.Fates
import ConnectionPool.Proofs.WakeUps
import ConnectionPool.Proofs.Exclusion
import ConnectionPool.Proofs.Accounting
import ConnectionPool.Proofs.Discarding
import ConnectionPool.Proofs.FirstShutdown
import ConnectionPool.Proofs.Retirement
import ConnectionPool.Proofs.Settlement
import ConnectionPool.Proofs.Bookkeeping
import ConnectionPool.Proofs.Assertions
import ConnectionPool.Proofs.Cycles
import ConnectionPool.Proofs.FailedCreations
import ConnectionPool.Proofs.Decisions
import ConnectionPool.Proofs.Transfers
import ConnectionPool.Proofs.Records
import ConnectionPool.Proofs.Requests
import ConnectionPool.Proofs.Checkouts
import ConnectionPool.Proofs.Stamps
import ConnectionPool.Proofs.Spacing
import ConnectionPool.Proofs.Demand
import ConnectionPool.Proofs.Agreement
import ConnectionPool.Proofs.Overlapping
import ConnectionPool.Proofs.Validity
import ConnectionPool.Proofs.Rearrangement
