import TxRetry.Config.Basic
import TxRetry.Json.Printer
import TxRetry.Text.Quoted

/-!
# Configuration from a document

A configuration is written as a JSON object with nine known keys, or as an array with the same nine
fields by position.  Absent fields have their defaults and unknown keys are ignored.

## Main definitions

* `Config.Defect` — why a document is refused, and `Defect.message`
* `Config.Field` — the nine fields, with their keys
* `Config.Field.decode` — one field of a configuration set from a value
* `Config.ofJson` — the configuration that a document describes

## Design notes

**A field is a value.**  Each field knows its key, and how a value changes a configuration.  The
object form goes through the fields in the order of their keys, the array form in the order in
which the fields are declared; both are folds of the same function, so they can only differ in
which of several defects they meet first.
-/

namespace TxRetry.Config

/-- What a field accepts, in the words of its refusal. -/
inductive Expectation where
  | unsigned
  | float
  | boolean
  | string
  | sequence
  | stringOrMap
  | unit
  | configuration
  deriving DecidableEq, Repr

def Expectation.text : Expectation → String
  | .unsigned => "u32"
  | .float => "f64"
  | .boolean => "a boolean"
  | .string => "a string"
  | .sequence => "a sequence"
  | .stringOrMap => "string or map"
  | .unit => "unit"
  | .configuration => "struct PgDriverConfig"

/-- Why a **document is no configuration.** -/
inductive Defect where
  | wrongType (found : Json) (expected : Expectation)
  | outOfRange (n : Int)
  | unknownChoice (name : String) (choices : List String)
  | notOneKey
  | seconds (defect : Duration.SecondsDefect)
  | tooManyElements (length : Nat)
  deriving Repr

/-- The kind of a value, with the value itself where it is short. -/
def kindText : Json → String
  | .null => "null"
  | .bool b => "boolean `" ++ (if b then "true" else "false") ++ "`"
  | .number (.integer n) => "integer `" ++ toString n ++ "`"
  | .number (.float x) => "floating point `" ++ FloatNotation.json.render x ++ "`"
  | .string s => "string " ++ Text.quoted s
  | .array _ => "sequence"
  | .object _ => "map"

/-- The choices of an enumeration: two are joined by `or`, more are listed. -/
def choicesText : List String → String
  | [a, b] => "expected `" ++ a ++ "` or `" ++ b ++ "`"
  | names => "expected one of " ++ String.intercalate ", " (names.map fun n => "`" ++ n ++ "`")

/-- The wording of a refusal. -/
def Defect.message : Defect → String
  | .wrongType found expected =>
    "invalid type: " ++ kindText found ++ ", expected " ++ expected.text
  | .outOfRange n => "invalid value: integer `" ++ toString n ++ "`, expected u32"
  | .unknownChoice name choices => "unknown variant `" ++ name ++ "`, " ++ choicesText choices
  | .notOneKey => "invalid value: map, expected map with a single key"
  | .seconds defect => defect.message
  | .tooManyElements length =>
    "invalid length " ++ toString length ++ ", expected fewer elements in array"

/-! ### Readers of single values -/

def readBool : Json → Except Defect Bool
  | .bool b => .ok b
  | found => .error (.wrongType found .boolean)

def readString : Json → Except Defect String
  | .string s => .ok s
  | found => .error (.wrongType found .string)

/-- A whole number of 32 bits; a double is refused even if it is whole. -/
def readCount : Json → Except Defect UInt32
  | .number (.integer n) =>
    if 0 ≤ n ∧ n < UInt32.size then .ok (UInt32.ofNat n.toNat) else .error (.outOfRange n)
  | found => .error (.wrongType found .unsigned)

/-- A number of either kind. -/
def readFloat : Json → Except Defect Float
  | .number n => .ok n.toFloat
  | found => .error (.wrongType found .float)

/-- A number of seconds that a duration can hold. -/
def readSeconds (value : Json) : Except Defect Duration := do
  let x ← readFloat value
  match Duration.ofSeconds? x with
  | .ok d => return d
  | .error defect => throw (.seconds defect)

/-- A number, or nothing where `null` stands. -/
def readOptionalFloat : Json → Except Defect (Option Float)
  | .null => .ok none
  | value => (readFloat value).map some

/-- The strings of an array; the first element that is none is reported. -/
def readStrings : Json → Except Defect (List String)
  | .array elements => elements.mapM readString
  | found => .error (.wrongType found .sequence)

/-- One of **several choices**, written as its name or as an object that has the name as its only
key and nothing under it.  The name is looked at before what is under it. -/
def readChoice {α : Type} (choices : List String) (ofName? : String → Option α) :
    Json → Except Defect α
  | .string name => named name
  | .object [(name, content)] => do
    let choice ← named name
    match content with
    | .null => return choice
    | found => throw (.wrongType found .unit)
  | .object _ => .error .notOneKey
  | found => .error (.wrongType found .stringOrMap)
where
  /-- The choice with a name. -/
  named (name : String) : Except Defect α :=
    match ofName? name with
    | some choice => .ok choice
    | none => .error (.unknownChoice name choices)

def isolationNames : List (String × IsolationLevel) :=
  [("read_committed", .readCommitted), ("repeatable_read", .repeatableRead),
    ("serializable", .serializable)]

def accessModeNames : List (String × AccessMode) :=
  [("read_write", .readWrite), ("read_only", .readOnly)]

def readIsolation : Json → Except Defect IsolationLevel :=
  readChoice (isolationNames.map (·.1)) (isolationNames.lookup ·)

def readAccessMode : Json → Except Defect AccessMode :=
  readChoice (accessModeNames.map (·.1)) (accessModeNames.lookup ·)

/-- A log level, in any letter case. -/
def readLogLevel : Json → Except Defect LogLevel :=
  readChoice (LogLevel.all.map LogLevel.name) LogLevel.ofName?

/-! ### Fields -/

/-- The **fields of a configuration.** -/
inductive Field where
  | isolation
  | accessMode
  | requireSerializable
  | retryCodes
  | maxRetries
  | statementTimeoutGrace
  | maxPlanCost
  | disableSeqscan
  | statementLogLevel
  deriving DecidableEq, Repr

namespace Field

/-- The key of a field in the object form. -/
def key : Field → String
  | .isolation => "isolation"
  | .accessMode => "access_mode"
  | .requireSerializable => "require_serializable"
  | .retryCodes => "serialization_failure_codes"
  | .maxRetries => "max_retries"
  | .statementTimeoutGrace => "statement_timeout_grace"
  | .maxPlanCost => "max_plan_cost"
  | .disableSeqscan => "disable_seqscan"
  | .statementLogLevel => "statement_log_level"

/-- The fields by their position in the array form. -/
def declared : List Field :=
  [.isolation, .accessMode, .requireSerializable, .retryCodes, .maxRetries,
    .statementTimeoutGrace, .maxPlanCost, .disableSeqscan, .statementLogLevel]

/-- The fields in the order of their keys. -/
def byKey : List Field :=
  [.accessMode, .disableSeqscan, .isolation, .maxPlanCost, .maxRetries, .requireSerializable,
    .retryCodes, .statementLogLevel, .statementTimeoutGrace]

/-- A **field set from a value**; the other fields stay. -/
def decode (config : Config) (field : Field) (value : Json) : Except Defect Config :=
  match field with
  | .isolation => (readIsolation value).map fun v => { config with isolation := v }
  | .accessMode => (readAccessMode value).map fun v => { config with accessMode := v }
  | .requireSerializable => (readBool value).map fun v => { config with requireSerializable := v }
  | .retryCodes => (readStrings value).map fun v => { config with retryCodes := v }
  | .maxRetries => (readCount value).map fun v => { config with maxRetries := v }
  | .statementTimeoutGrace =>
    (readSeconds value).map fun v => { config with statementTimeoutGrace := v }
  | .maxPlanCost => (readOptionalFloat value).map fun v => { config with maxPlanCost := v }
  | .disableSeqscan => (readBool value).map fun v => { config with disableSeqscan := v }
  | .statementLogLevel => (readLogLevel value).map fun v => { config with statementLogLevel := v }

end Field

/-! ### Documents -/

/-- A configuration with some fields set from the values that are there for them. -/
def decodeFields (valueOf : Field → Option Json) : Config → List Field → Except Defect Config
  | config, [] => .ok config
  | config, field :: rest =>
    match valueOf field with
    | none => decodeFields valueOf config rest
    | some value => do
      let config ← field.decode config value
      decodeFields valueOf config rest

/-- A configuration with fields set from values by position. -/
def decodePositions : Config → List Field → List Json → Except Defect Config
  | config, field :: fields, value :: values => do
    let config ← field.decode config value
    decodePositions config fields values
  | config, _, _ => .ok config

/-- The **configuration that a document describes.**  An object is read in the order of its keys.
An array may have fewer elements than there are fields but not more, which is looked at last. -/
def ofJson : Json → Except Defect Config
  | .object members =>
    decodeFields (fun field => members.lookup field.key) {} Field.byKey
  | .array elements => do
    let config ← decodePositions {} Field.declared elements
    if elements.length ≤ Field.declared.length then return config
    else throw (.tooManyElements elements.length)
  | found => .error (.wrongType found .configuration)

end TxRetry.Config
