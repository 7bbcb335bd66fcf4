import TxRetry.Log
import TxRetry.Mode
import TxRetry.Time.Clock

/-!
# Configuration

How transactions are opened and retried.  The defaults are safe in production: serializable
transactions that may write, no check of plan costs, sequential scans allowed.

## Main definitions

* `Config` — the configuration, with its defaults
* `positiveCost?` — the one rule that decides whether a number is a budget
* `Config.withMaxPlanCost`, `Config.effectiveMaxPlanCost` — a budget set, and the budget in force
-/

namespace TxRetry

/-- The code of a serialization failure. -/
def serializationFailureCode : String := "40001"

/-- The configuration of transactions. -/
structure Config where
  isolation : IsolationLevel := .serializable
  accessMode : AccessMode := .readWrite
  /-- Refuse any transaction that would not be serializable. -/
  requireSerializable : Bool := true
  /-- The codes that restart a whole transaction. -/
  retryCodes : List String := [serializationFailureCode]
  /-- The number of attempts allowed in one call. -/
  maxRetries : UInt32 := 50
  /-- Added to the time left before a deadline when the server is told its limit. -/
  statementTimeoutGrace : Duration := .ofSecs 20
  /-- The largest plan cost of a statement; without one there is no check. -/
  maxPlanCost : Option Float := none
  disableSeqscan : Bool := false
  statementLogLevel : LogLevel := .debug

instance : Inhabited Config := ⟨{}⟩

/-- A **number is a budget when it is finite and positive.** -/
def positiveCost? (cost : Float) : Option Float :=
  if cost.isFinite && 0 < cost then some cost else none

theorem positiveCost?_eq_some_iff {cost budget : Float} :
    positiveCost? cost = some budget ↔ cost = budget ∧ budget.isFinite = true ∧ 0 < budget := by
  unfold positiveCost?
  constructor
  · intro positive
    split at positive
    · rename_i valid
      obtain rfl := Option.some.inj positive
      simpa using valid
    · cases positive
  · rintro ⟨rfl, valid⟩
    exact if_pos (by simpa using valid)

namespace Config

/-- Set the budget; a number that is no budget clears it. -/
def withMaxPlanCost (config : Config) (cost : Float) : Config :=
  { config with maxPlanCost := positiveCost? cost }

/-- The budget in force: a number that is no budget counts as none. -/
def effectiveMaxPlanCost (config : Config) : Option Float :=
  config.maxPlanCost.bind positiveCost?

end Config

end TxRetry
