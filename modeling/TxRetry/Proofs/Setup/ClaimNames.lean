import Mathlib.Data.Char
import TxRetry.Proofs.Setup.Claims

/-!
# Names that the server can read

The statement for a claim names its setting without quotes, so the name has to be one that the server
reads: identifiers with one dot between any two.  The check of names stops whatever holds another
character or an empty part.  It asks for no more than that, and lets parts through that begin with a
digit.  The server reads a number there, and refuses the statement with the batch that it is in.

## Main definitions

* `Sql.Identifier`, `Sql.DottedIdentifiers` — what the server reads as a name
* `Sql.DigitLed` — some part begins with a digit
* `NameChecked` — what is expected of the check of a name, and of the hook that relies on it

## Main statements

* `Sql.dottedIdentifiers_iff` — dotted identifiers are the names of which no part begins with a digit
* `nameChecked_iff` — the check of a name is exact unless it lets such a part through
* `not_nameChecked_of_digitLed` — a name with such a part

## Design notes

**Key words are left aside.**  The rule is about spelling; which words a server keeps for itself
differs from one version to the next.
-/

namespace TxRetry

namespace Sql

/-! ### Identifiers -/

/-- The characters with which an identifier **begins**: ASCII letters and the underscore. -/
def InitialChar (c : Char) : Prop :=
  ('a' ≤ c ∧ c ≤ 'z') ∨ ('A' ≤ c ∧ c ≤ 'Z') ∨ c = '_'

/-- What the server reads as **one part of a name**. -/
def Identifier (part : List Char) : Prop :=
  ∃ first rest, part = first :: rest ∧ InitialChar first ∧ ∀ c ∈ rest, NameChar c

/-- What the server reads as **a name**: identifiers, with one dot between any two. -/
def DottedIdentifiers (name : String) : Prop :=
  ∃ parts : List (List Char), parts ≠ [] ∧ (∀ part ∈ parts, Identifier part) ∧
    name.toList = ['.'].intercalate parts

/-- A part of a name **begins with a digit.** -/
def BeginsWithDigit (part : List Char) : Prop :=
  ∃ digit rest, part = digit :: rest ∧ '0' ≤ digit ∧ digit ≤ '9'

/-- Some part of a name does so. -/
def DigitLed (name : String) : Prop :=
  ∃ part ∈ name.toList.splitOn '.', BeginsWithDigit part

theorem initialChar_iff {c : Char} :
    InitialChar c ↔ NameChar c ∧ ¬ ('0' ≤ c ∧ c ≤ '9') := by
  constructor
  · intro initial
    -- In the order of characters, the digits are before all the others.
    have later : '9' < c := by
      obtain ⟨small, -⟩ | ⟨capital, -⟩ | rfl := initial
      · exact lt_of_lt_of_le (by decide) small
      · exact lt_of_lt_of_le (by decide) capital
      · decide
    refine ⟨?_, fun digit => absurd digit.2 later.not_ge⟩
    obtain small | capital | underscore := initial
    · exact .inl small
    · exact .inr (.inl capital)
    · exact .inr (.inr (.inr underscore))
  · rintro ⟨small | capital | digit | underscore, noDigit⟩
    · exact .inl small
    · exact .inr (.inl capital)
    · exact absurd digit noDigit
    · exact .inr (.inr underscore)

/-- An identifier has characters of names only, at least one, and **no digit in front.** -/
theorem identifier_iff {part : List Char} :
    Identifier part ↔ (part ≠ [] ∧ ∀ c ∈ part, NameChar c) ∧ ¬ BeginsWithDigit part := by
  cases part with
  | nil => simp [Identifier]
  | cons first rest => simp [Identifier, BeginsWithDigit, initialChar_iff, and_right_comm]

/-- **Dotted identifiers are the names of which no part begins with a digit.** -/
theorem dottedIdentifiers_iff {name : String} :
    DottedIdentifiers name ↔ DottedName name ∧ ¬ DigitLed name := by
  have apart (part : List Char) (identifier : Identifier part) : '.' ∉ part := fun dot => by
    simpa [NameChar] using (identifier_iff.mp identifier).1.2 '.' dot
  rw [DottedIdentifiers, exists_joined_iff apart, dottedName_iff, DigitLed]
  simp only [identifier_iff, forall_and, not_exists, not_and]

end Sql

/-! ### The check of a name -/

variable {ctx : Context} {name key : String} {options : SetupOptions} {now : Instant}

/-- What is expected of **the check of a name**, and of the hook that relies on it. -/
structure NameChecked (name : String) : Prop where
  /-- It lets exactly those names through that the server can read. -/
  exact : Sql.isSettingName name = true ↔ Sql.DottedIdentifiers name
  /-- If the hook makes a statement, the server can read its name. -/
  emitted : ∀ key ctx before statements,
    BeginHook.claims name key ctx before = .returned statements →
    statements = before ∨ Sql.DottedIdentifiers name ∧
      ∃ statement, statements = before ++ [statement] ∧ ClaimStatement ctx (name, key) statement
  /-- Otherwise the hook reports the name, and there is no batch that the server could refuse. -/
  reported : ∀ key (ctx : Context) options now, ctx.hasClaim (name, key) = true →
    ¬ Sql.DottedIdentifiers name →
    setupBatch ctx (some (.claims name key)) options now = .failed (badClaimName name)

/-- A hook that fails leaves **no batch.** -/
theorem setupBatch_of_failed {hook : BeginHook} {error : Error}
    (failed : hook ctx [] = .failed error) :
    setupBatch ctx (some hook) options now = .failed error := by
  have setup : setupStatements ctx (some hook) options now = .failed error := by
    show (hook ctx []).map _ = _
    rw [failed]
    rfl
  rw [setupBatch, setup]
  rfl

/-- The hook makes **one statement or none**, if it does not fail. -/
theorem claims_cases {before statements : List String}
    (returned : BeginHook.claims name key ctx before = .returned statements) :
    statements = before ∨ Sql.DottedName name ∧
      ∃ statement, statements = before ++ [statement] ∧
        ClaimStatement ctx (name, key) statement := by
  cases present : ctx.hasClaim (name, key) with
  | false =>
      rw [claims_of_absent present] at returned
      exact .inl (Ending.returned.inj returned).symm
  | true =>
      by_cases named : Sql.DottedName name
      · obtain ⟨statement, made, ofClaim⟩ := claims_of_named present named before
        rw [made] at returned
        exact .inr ⟨named, statement, (Ending.returned.inj returned).symm, ofClaim⟩
      · rw [claims_of_unnamed present named] at returned
        cases returned

/-- A name with a part that begins with a digit is let through, but **the server cannot read it.** -/
theorem not_nameChecked_of_named (named : Sql.DottedName name) (digitLed : Sql.DigitLed name) :
    ¬ NameChecked name := by
  intro checked
  have readable : Sql.DottedIdentifiers name := checked.exact.mp (Sql.isSettingName_iff.mpr named)
  exact (Sql.dottedIdentifiers_iff.mp readable).2 digitLed

/-- **The check of a name is exact unless it lets a part through that begins with a digit.** -/
theorem nameChecked_iff (name : String) :
    NameChecked name ↔ ¬ (Sql.DottedName name ∧ Sql.DigitLed name) := by
  constructor
  · rintro checked ⟨named, digitLed⟩
    exact not_nameChecked_of_named named digitLed checked
  · intro noneLed
    have readable : Sql.DottedName name ↔ Sql.DottedIdentifiers name := by
      rw [Sql.dottedIdentifiers_iff, iff_self_and]
      exact fun named digitLed => noneLed ⟨named, digitLed⟩
    refine ⟨Sql.isSettingName_iff.trans readable, ?emitted, ?reported⟩
    case emitted =>
      intro key ctx before statements returned
      rw [← readable]
      exact claims_cases returned
    case reported =>
      intro key ctx options now present unreadable
      exact setupBatch_of_failed (claims_of_unnamed present (mt readable.mp unreadable))

theorem not_nameChecked_of_digitLed : ¬ NameChecked "request.2fa" := by
  have passes : Sql.isSettingName "request.2fa" = true := by decide
  have digitLed : Sql.DigitLed "request.2fa" := ⟨['2', 'f', 'a'], by decide, '2', _, rfl, by decide⟩
  exact not_nameChecked_of_named (Sql.isSettingName_iff.mp passes) digitLed

end TxRetry
