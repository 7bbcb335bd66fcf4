import TxRetry.Config.Basic
import TxRetry.Text.Quoted

/-!
# Descriptions of a configuration

The text in which a driver shows itself to a programmer: every field by its name, and whether the
two hooks are there.
-/

namespace TxRetry

def IsolationLevel.describe : IsolationLevel → String
  | .readCommitted => "ReadCommitted"
  | .repeatableRead => "RepeatableRead"
  | .serializable => "Serializable"

def AccessMode.describe : AccessMode → String
  | .readWrite => "ReadWrite"
  | .readOnly => "ReadOnly"

def LogLevel.describe : LogLevel → String
  | .error => "Error"
  | .warn => "Warn"
  | .info => "Info"
  | .debug => "Debug"
  | .trace => "Trace"

namespace Text

def describeBool (b : Bool) : String := if b then "true" else "false"

def describeOptionalFloat : Option Float → String
  | none => "None"
  | some x => "Some(" ++ FloatNotation.exact.render x ++ ")"

/-- Named fields of a value, or of a part of it. -/
def describeFields (fields : List (String × String)) : String :=
  String.intercalate ", " (fields.map fun (name, value) => name ++ ": " ++ value)

end Text

open Text

/-- The description of a configuration. -/
def Config.describe (config : Config) : String :=
  "PgDriverConfig \x7b " ++ describeFields
    [("isolation", config.isolation.describe),
      ("access_mode", config.accessMode.describe),
      ("require_serializable", describeBool config.requireSerializable),
      ("serialization_failure_codes", listed (config.retryCodes.map quoted)),
      ("max_retries", toString config.maxRetries.toNat),
      ("statement_timeout_grace", config.statementTimeoutGrace.text),
      ("max_plan_cost", describeOptionalFloat config.maxPlanCost),
      ("disable_seqscan", describeBool config.disableSeqscan),
      ("statement_log_level", config.statementLogLevel.describe)] ++ " \x7d"

/-- The **description of a driver**: its configuration and which hooks it has. -/
def describeDriver (config : Config) (hasBeginHook hasPreCommitHook : Bool) : String :=
  "PgDriver \x7b " ++ describeFields
    [("config", config.describe),
      ("begin_hook", describeBool hasBeginHook),
      ("pre_commit_hook", describeBool hasPreCommitHook)] ++ ", .. \x7d"

end TxRetry
