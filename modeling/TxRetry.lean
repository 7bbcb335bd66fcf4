import TxRetry.Config.Decoding
import TxRetry.Config.Description
import TxRetry.Config.Environment
import TxRetry.Rehearsal.Scenario
import TxRetry.Rehearsal.Session
import TxRetry.Proofs.Call.Attempt
import TxRetry.Proofs.Call.Decision
import TxRetry.Proofs.Call.History
import TxRetry.Proofs.Call.Outcome
import TxRetry.Proofs.Call.Bracket
import TxRetry.Proofs.Law
import TxRetry.Proofs.Postgres.Handle
import TxRetry.Proofs.Postgres.Connector
import TxRetry.Proofs.Postgres.SingleCommit
import TxRetry.Proofs.Postgres.FaithfulCommit
import TxRetry.Proofs.Postgres.Statement
import TxRetry.Proofs.Call.Simulation
import TxRetry.Proofs.Postgres.Opening
import TxRetry.Proofs.Postgres.Simulation
import TxRetry.Proofs.Postgres.FullSetup
import TxRetry.Proofs.Postgres.PlanGate
import TxRetry.Proofs.Postgres.Transparency
import TxRetry.Proofs.Call.Law
import TxRetry.Proofs.Postgres.IdleConnection
import TxRetry.Proofs.Call.Nesting
import TxRetry.Proofs.Sql.Reading
import TxRetry.Proofs.Setup.Limit
import TxRetry.Proofs.Setup.Claims
import TxRetry.Proofs.Postgres.Clock
import TxRetry.Proofs.Postgres.Deadline
import TxRetry.Proofs.Plan.Defects
import TxRetry.Proofs.Postgres.Lifecycle
import TxRetry.Proofs.Postgres.StatementLog
import TxRetry.Proofs.Setup.ExactLimit
import TxRetry.Proofs.Postgres.StatementLimit
import TxRetry.Proofs.Plan.Weight
import TxRetry.Proofs.Sql.Scanner
import TxRetry.Proofs.Call.PanicGuard
import TxRetry.Proofs.Call.Reports
import TxRetry.Proofs.Context.LastWrite
import TxRetry.Proofs.Config.Objects
import TxRetry.Proofs.Config.Positions
import TxRetry.Proofs.Setup.ClaimNames
import TxRetry.Proofs.Error.Causes
import TxRetry.Proofs.Config.Overrides
import TxRetry.Proofs.Json.RoundTrip
