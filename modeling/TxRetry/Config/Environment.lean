import TxRetry.Config.Basic
import TxRetry.Decimal.Reading

/-!
# Configuration from the environment

Five variables override defaults.  A variable that is unset, that is not text, or whose value is
rejected leaves its default in force; no variable has a say in another one's field.

## Main definitions

* `Environment` — the bytes of the variables that are set
* `Environment.text?` — a variable that is set and holds text
* `Config.ofEnvironment` — the defaults with the overrides
-/

namespace TxRetry

/-- The bytes of each variable that is set. -/
def Environment := String → Option ByteArray

namespace Environment

/-- The **text of a variable.**  Bytes that are not UTF-8 are no text, and count as an unset
variable. -/
def text? (env : Environment) (name : String) : Option String :=
  (env name).bind String.fromUTF8?

/-- The number of attempts: a 32-bit number other than zero. -/
def maxRetries? (env : Environment) : Option UInt32 := do
  let text ← env.text? "TRANSACTOR_MAX_RETRIES"
  let n ← readUnsigned? UInt32.size text
  if n = 0 then none else some (UInt32.ofNat n)

/-- The grace in whole seconds: a 64-bit number. -/
def timeoutGrace? (env : Environment) : Option Duration := do
  let text ← env.text? "TRANSACTOR_TIMEOUT_GRACE_SECS"
  let n ← readUnsigned? UInt64.size text
  some (.ofSecs n)

/-- The budget: a number that is one. -/
def maxPlanCost? (env : Environment) : Option Float := do
  let text ← env.text? "TRANSACTOR_MAX_PLAN_COST"
  let cost ← readFloat? text
  positiveCost? cost

/-- Whether sequential scans are disabled: a word for yes or no, in any letter case. -/
def disableSeqscan? (env : Environment) : Option Bool := do
  let text ← env.text? "TRANSACTOR_DISABLE_SEQSCAN"
  let word := String.ofList (text.toList.map Char.toLower)
  if word ∈ ["1", "true", "on", "yes"] then some true
  else if word ∈ ["0", "false", "off", "no"] then some false
  else none

/-- The level at which statements are logged, by its name. -/
def statementLogLevel? (env : Environment) : Option LogLevel := do
  let text ← env.text? "TRANSACTOR_STATEMENT_LOG_LEVEL"
  LogLevel.ofName? text

end Environment

/-- The **defaults, overridden by the environment.** -/
def Config.ofEnvironment (env : Environment) : Config :=
  let defaults : Config := {}
  { defaults with
    maxRetries := env.maxRetries?.getD defaults.maxRetries
    statementTimeoutGrace := env.timeoutGrace?.getD defaults.statementTimeoutGrace
    maxPlanCost := env.maxPlanCost?
    disableSeqscan := env.disableSeqscan?.getD defaults.disableSeqscan
    statementLogLevel := env.statementLogLevel?.getD defaults.statementLogLevel }

end TxRetry
