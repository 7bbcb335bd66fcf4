import Mathlib.Data.List.Basic
import TxRetry.Config.Decoding
import TxRetry.Setup

/-!
# The server's limit on statements

When a context has a deadline, the setup of its transaction tells the server how long a statement
may take.  The limit is the backstop for statements that nobody waits for any more, so it should be
there for every deadline; a limit of zero would be none at all.

## Main definitions

* `hookStatements` — what the begin hook contributes to the setup
* `timeoutSql` — the statement that sets a limit
* `LimitedByServer` — setup sets exactly one limit of its own, and it is one

## Main statements

* `one_le_statementTimeout_iff` — the limit is at least one exactly when time or grace is left
* `limitedByServer_iff` — so is there a limit
* `not_limitedByServer_of_noGrace` — without either, there is none

## Design notes

**A limit is read off the statement,** so `timeoutSql` is shown to tell any two limits apart.
-/

namespace TxRetry

/-! ### The limit as a number -/

namespace Duration

/-- Rounding up keeps a length of time from vanishing. -/
theorem one_le_ceilMillis_iff {d : Duration} : 1 ≤ d.ceilMillis ↔ 0 < d.nanos := by
  unfold ceilMillis
  omega

/-- The largest length of time does not come into play where lengths of time are small. -/
theorem saturatingAdd_pos_iff {a b : Duration} :
    0 < (a.saturatingAdd b).nanos ↔ 0 < a.nanos ∨ 0 < b.nanos := by
  have longest : 0 < longest.nanos := by decide
  simp only [saturatingAdd]
  omega

end Duration

/-- The server accepts the limit. -/
theorem statementTimeout_le (remaining grace : Duration) :
    statementTimeout remaining grace ≤ longestStatementTimeout := Nat.min_le_right _ _

/-- **The limit is one exactly when time or grace is left.** -/
theorem one_le_statementTimeout_iff (remaining grace : Duration) :
    1 ≤ statementTimeout remaining grace ↔ 0 < remaining.nanos ∨ 0 < grace.nanos := by
  have cap : 1 ≤ longestStatementTimeout := by decide
  rw [statementTimeout, Nat.le_min, Duration.one_le_ceilMillis_iff, Duration.saturatingAdd_pos_iff]
  exact and_iff_left cap

/-! ### The limit as a statement -/

/-- The statement that **limits statements to a number of milliseconds.** -/
def timeoutSql (millis : Nat) : String := "SET LOCAL statement_timeout = " ++ toString millis

/-- The characters of a text with a number at its end. -/
theorem toList_append_toString (text : String) (n : Nat) :
    (text ++ toString n).toList = text.toList ++ Nat.toDigits 10 n := by
  rw [String.toList_append, Nat.toString_eq_ofList_toDigits, String.toList_ofList]

/-- A number at the end of a text is read back from its digits. -/
theorem append_toString_injective {text : String} {m n : Nat}
    (same : text ++ toString m = text ++ toString n) : m = n := by
  have chars := congrArg String.toList same
  rw [toList_append_toString, toList_append_toString] at chars
  have digits := congrArg (Nat.ofDigitChars 10 · 0) (List.append_cancel_left chars)
  simpa using digits

/-- Statements that set different limits are different. -/
theorem timeoutSql_injective {m n : Nat} (same : timeoutSql m = timeoutSql n) : m = n :=
  append_toString_injective same

section Setup

variable {ctx : Context} {hook? : Option BeginHook} {hooked : List String}
variable {options : SetupOptions} {now deadline : Instant}

/-- A context with a deadline has one statement timeout. -/
theorem timeoutStatements_of_deadline (timed : ctx.deadline = some deadline) :
    timeoutStatements ctx options now =
      [timeoutSql (statementTimeout (deadline.remainingAt now) options.statementTimeoutGrace)] := by
  rw [timeoutStatements, Context.remaining, timed]
  rfl

/-- The hint against sequential scans sets no limit. -/
theorem timeoutSql_not_mem_seqscanStatements (millis : Nat) :
    timeoutSql millis ∉ seqscanStatements options := by
  -- The two texts differ in the name of the setting, from its first character on.
  have ofLimit : (timeoutSql millis).toList[10]? = some 's' := by
    unfold timeoutSql
    rw [toList_append_toString, List.getElem?_append_left (by decide)]
    decide
  have ofHint : "SET LOCAL enable_seqscan = off".toList[10]? = some 'e' := by decide
  unfold seqscanStatements
  split
  · intro among
    rw [List.mem_singleton.mp among, ofHint] at ofLimit
    cases ofLimit
  · exact List.not_mem_nil

/-- What the begin hook, if there is one, **contributes to the setup.** -/
def hookStatements (hook? : Option BeginHook) (ctx : Context) : Ending (List String) :=
  match hook? with
  | none => .returned []
  | some hook => hook ctx []

/-- After the statements of the hook come those that the library makes. -/
theorem setupStatements_of_returned (hooks : hookStatements hook? ctx = .returned hooked) :
    setupStatements ctx hook? options now =
      .returned (hooked ++ (timeoutStatements ctx options now ++ seqscanStatements options)) := by
  show (hookStatements hook? ctx).map _ = _
  rw [hooks, Ending.map, List.append_assoc]

/-- **The server limits statements**: after those of the hook, `hooked`, setup has exactly one
statement timeout, and it is a limit that the server takes for one. -/
def LimitedByServer (ctx : Context) (hook? : Option BeginHook) (hooked : List String)
    (options : SetupOptions) (now : Instant) : Prop :=
  ∃ millis later,
    setupStatements ctx hook? options now = .returned (hooked ++ timeoutSql millis :: later) ∧
      (∀ other, timeoutSql other ∉ later) ∧ 1 ≤ millis ∧ millis ≤ longestStatementTimeout

/-- **A deadline makes the server limit statements, unless neither time nor grace is left.** -/
theorem limitedByServer_iff (timed : ctx.deadline = some deadline)
    (hooks : hookStatements hook? ctx = .returned hooked) :
    LimitedByServer ctx hook? hooked options now ↔
      now.nanos < deadline.nanos ∨ 0 < options.statementTimeoutGrace.nanos := by
  have limit := one_le_statementTimeout_iff (deadline.remainingAt now)
    options.statementTimeoutGrace
  rw [show 0 < (deadline.remainingAt now).nanos ↔ now.nanos < deadline.nanos from
    Nat.sub_pos_iff_lt] at limit
  rw [← limit, LimitedByServer, setupStatements_of_returned hooks,
    timeoutStatements_of_deadline timed, List.singleton_append]
  constructor
  · rintro ⟨millis, later, same, -, least, -⟩
    have first := List.append_cancel_left (Ending.returned.inj same)
    rwa [timeoutSql_injective (List.cons.inj first).1]
  · intro least
    exact ⟨_, _, rfl, timeoutSql_not_mem_seqscanStatements, least, statementTimeout_le _ _⟩

/-- A deadline that is still to come makes the server limit statements, without any grace. -/
theorem limitedByServer_of_pending :
    (Context.fresh.withDeadline ⟨1⟩).deadline = some ⟨1⟩ ∧
      hookStatements (some (.scripted ["SELECT 1"] none none)) (Context.fresh.withDeadline ⟨1⟩) =
        .returned ["SELECT 1"] ∧
      LimitedByServer (Context.fresh.withDeadline ⟨1⟩) (some (.scripted ["SELECT 1"] none none))
        ["SELECT 1"] ⟨⟨0⟩, true⟩ ⟨0⟩ :=
  ⟨rfl, rfl, (limitedByServer_iff rfl rfl).mpr (.inl (by decide))⟩

/-- **Without time and without grace there is no limit.**  A configuration may say that there is no
grace; once the deadline has come, the statement timeout is zero then. -/
theorem not_limitedByServer_of_noGrace :
    ∃ config, Config.ofJson (.object [("statement_timeout_grace", .ofInt 0)]) = .ok config ∧
      let options : SetupOptions := ⟨config.statementTimeoutGrace, config.disableSeqscan⟩
      let ctx := Context.fresh.withDeadline .base
      setupStatements ctx none options .base = .returned ["SET LOCAL statement_timeout = 0"] ∧
        ¬ LimitedByServer ctx none [] options .base := by
  have read : (Config.ofJson (.object [("statement_timeout_grace", .ofInt 0)])).toOption.map
      (fun config => (config.statementTimeoutGrace, config.disableSeqscan)) =
        some (⟨0⟩, false) := by
    decide +kernel
  have limits : setupStatements (Context.fresh.withDeadline .base) none ⟨⟨0⟩, false⟩ .base =
      .returned [timeoutSql 0] := by
    have zero : statementTimeout (Instant.base.remainingAt .base) ⟨0⟩ = 0 := by decide
    rw [setupStatements_of_returned rfl, timeoutStatements_of_deadline rfl, zero]
    rfl
  cases decoded : Config.ofJson (.object [("statement_timeout_grace", .ofInt 0)]) with
  | error defect =>
      rw [decoded] at read
      cases read
  | ok config =>
      rw [decoded] at read
      obtain ⟨noGrace, noHint⟩ := Prod.mk.inj (Option.some.inj read)
      refine ⟨config, rfl, ?_⟩
      rw [noGrace, noHint]
      refine ⟨limits, ?_⟩
      rintro ⟨millis, later, same, -, least, -⟩
      rw [limits] at same
      have zero := timeoutSql_injective (List.cons.inj (Ending.returned.inj same)).1
      omega

end Setup

end TxRetry
