import Mathlib.Data.List.Forall2
import TxRetry.Proofs.Setup.Limit
import TxRetry.Proofs.Sql.Reading

/-!
# Claims in the setup of a transaction

The claims of a request are copied into settings of the session, by statements that hold whatever
the request says about itself.  The server reads exactly these statements, and each value stays
inside its literal.

## Main definitions

* `BeginHook.claimed` — the hook that copies several claims
* `ClaimStatement` — a statement that gives a setting the value of a claim
* `ClaimsContained` — what the server reads in the setup of a transaction, claims included

## Main statements

* `claimed_cases` — the hook makes one statement for each claim, or refuses a name
* `batchText_read` — the statements of a batch are read back
* `claimsContained` — claims stay contained
-/

namespace TxRetry

/-- The hook that **copies several claims**, each given by the setting of the session and the key of
the context. -/
def BeginHook.claimed (claims : List (String × String)) : BeginHook :=
  BeginHook.chain (claims.map fun (name, key) => BeginHook.claims name key)

/-- Whether a context has the value of a claim. -/
def Context.hasClaim (ctx : Context) (claim : String × String) : Bool :=
  (ctx.setting claim.2).isSome

/-- The error about a bad name. -/
def badClaimName (name : String) : Error := .other ("invalid setting name for claims: " ++ name)

/-- A **statement that gives a setting the value of a claim**: one literal after the name of the
setting, which stands for the JSON text of the value. -/
structure ClaimStatement (ctx : Context) (claim : String × String) (statement : String) : Prop where
  named : Sql.DottedName claim.1
  valued : ∃ value literal, ctx.setting claim.2 = some value ∧
    statement = "SET LOCAL " ++ claim.1 ++ " = " ++ literal ∧
      Sql.readLiteral? literal = some value.compact

variable {ctx : Context} {claims : List (String × String)} {options : SetupOptions} {now : Instant}

/-! ### The hook -/

section Hook

variable {claim : String × String} {before : List String}

/-- After the first claim the hook goes on with the others. -/
theorem claimed_cons_of_returned {statements : List String}
    (first : BeginHook.claims claim.1 claim.2 ctx before = .returned statements) :
    BeginHook.claimed (claim :: claims) ctx before = BeginHook.claimed claims ctx statements := by
  simp only [BeginHook.claimed, BeginHook.chain, List.map_cons, first]

/-- After a claim that is refused it does not. -/
theorem claimed_cons_of_failed {error : Error}
    (first : BeginHook.claims claim.1 claim.2 ctx before = .failed error) :
    BeginHook.claimed (claim :: claims) ctx before = .failed error := by
  simp only [BeginHook.claimed, BeginHook.chain, List.map_cons, first]

/-- Without a value in the context, a claim makes no statement. -/
theorem claims_of_absent (absent : ctx.hasClaim claim = false) :
    BeginHook.claims claim.1 claim.2 ctx before = .returned before := by
  rw [Context.hasClaim, Option.isSome_eq_false_iff, Option.isNone_iff_eq_none] at absent
  rw [BeginHook.claims, absent]

/-- With a value and a good name, a claim makes one statement. -/
theorem claims_of_named (present : ctx.hasClaim claim = true) (named : Sql.DottedName claim.1)
    (before : List String) :
    ∃ statement, BeginHook.claims claim.1 claim.2 ctx before = .returned (before ++ [statement]) ∧
      ClaimStatement ctx claim statement := by
  obtain ⟨value, valued⟩ := Option.isSome_iff_exists.mp present
  refine ⟨"SET LOCAL " ++ claim.1 ++ " = " ++ Sql.quoteLiteral value.compact, ?_, named,
    value, _, valued, rfl, Sql.readLiteral?_eq_some_iff.mpr rfl⟩
  rw [BeginHook.claims, valued]
  exact if_pos (Sql.isSettingName_iff.mpr named)

/-- With a value and a bad name, a claim is refused. -/
theorem claims_of_unnamed (present : ctx.hasClaim claim = true)
    (unnamed : ¬ Sql.DottedName claim.1) :
    BeginHook.claims claim.1 claim.2 ctx before = .failed (badClaimName claim.1) := by
  obtain ⟨value, valued⟩ := Option.isSome_iff_exists.mp present
  rw [BeginHook.claims, valued]
  exact if_neg (mt Sql.isSettingName_iff.mp unnamed)

end Hook

/-- The hook makes **one statement for each claim** that the context has a value for, in order, or
it refuses the name of such a claim. -/
theorem claimed_cases (ctx : Context) (claims : List (String × String)) (before : List String) :
    (∃ made, BeginHook.claimed claims ctx before = .returned (before ++ made) ∧
      List.Forall₂ (ClaimStatement ctx) (claims.filter ctx.hasClaim) made) ∨
    ∃ claim ∈ claims.filter ctx.hasClaim, ¬ Sql.DottedName claim.1 ∧
      BeginHook.claimed claims ctx before = .failed (badClaimName claim.1) := by
  induction claims generalizing before with
  | nil => exact .inl ⟨[], by simp [BeginHook.claimed, BeginHook.chain], .nil⟩
  | cons claim claims ih =>
      cases present : ctx.hasClaim claim with
      | false =>
          rw [claimed_cons_of_returned (claims_of_absent present),
            List.filter_cons_of_neg (by simp [present])]
          exact ih before
      | true =>
          rw [List.filter_cons_of_pos present]
          by_cases named : Sql.DottedName claim.1
          · obtain ⟨statement, first, ofClaim⟩ := claims_of_named present named before
            rw [claimed_cons_of_returned first]
            rcases ih (before ++ [statement]) with ⟨made, returned, each⟩ | ⟨bad, among, refused⟩
            · refine .inl ⟨statement :: made, ?_, .cons ofClaim each⟩
              rw [returned, List.append_assoc, List.singleton_append]
            · exact .inr ⟨bad, List.mem_cons_of_mem claim among, refused⟩
          · exact .inr ⟨claim, List.mem_cons_self, named,
              claimed_cons_of_failed (claims_of_unnamed present named)⟩

/-! ### The batch -/

theorem batchText_eq_none_iff {statements : List String} :
    batchText statements = none ↔ statements = [] := by
  cases statements <;> simp [batchText]

/-- **The statements of a batch are read back.** -/
theorem batchText_read {statements : List String} {batch : String}
    (whole : ∀ statement ∈ statements, Sql.Whole statement.toList)
    (joined : batchText statements = some batch) : Sql.statementsIn? batch = some statements := by
  cases statements with
  | nil => cases joined
  | cons first later =>
      obtain rfl := Option.some.inj joined
      exact Sql.statementsIn?_intercalate _ whole

/-- The statement for a claim is whole, **whatever its value is.** -/
theorem ClaimStatement.whole {claim : String × String} {statement : String}
    (made : ClaimStatement ctx claim statement) : Sql.Whole statement.toList := by
  obtain ⟨value, literal, -, rfl, read⟩ := made.valued
  rw [Sql.readLiteral?_eq_some_iff.mp read, String.toList_append]
  have plain : Sql.Plain ("SET LOCAL " ++ claim.1 ++ " = ").toList := by
    rw [String.toList_append, String.toList_append, Sql.plain_append, Sql.plain_append]
    exact ⟨⟨by decide, made.named.plain⟩, by decide⟩
  refine Sql.whole_append_literal
    ⟨'S', "ET LOCAL ".toList ++ claim.1.toList ++ " = ".toList, ?_, rfl⟩ plain value.compact
  simp

/-- So is the statement that sets a limit. -/
theorem whole_timeoutSql (millis : Nat) : Sql.Whole (timeoutSql millis).toList := by
  unfold timeoutSql
  rw [toList_append_toString]
  refine Sql.whole_of_plain ⟨'S', _, rfl, rfl⟩ (Sql.plain_append.mpr ⟨by decide, fun c among => ?_⟩)
  have digit := Nat.isDigit_of_mem_toDigits (by decide) (by decide) among
  refine ⟨?_, ?_⟩ <;>
  · rintro rfl
    cases digit

/-- The statements that the library makes of its own accord are whole. -/
theorem whole_of_generated {statement : String}
    (among : statement ∈ timeoutStatements ctx options now ++ seqscanStatements options) :
    Sql.Whole statement.toList := by
  rcases List.mem_append.mp among with limit | hint
  · cases timed : ctx.deadline with
    | none =>
        rw [timeoutStatements, Context.remaining, timed] at limit
        cases limit
    | some deadline =>
        rw [timeoutStatements_of_deadline timed] at limit
        obtain rfl := List.mem_singleton.mp limit
        exact whole_timeoutSql _
  · unfold seqscanStatements at hint
    split at hint
    · obtain rfl := List.mem_singleton.mp hint
      exact Sql.whole_of_plain ⟨'S', _, rfl, rfl⟩ (by decide)
    · cases hint

/-! ### The setup -/

/-- What the server **reads in the setup of a transaction** whose hook copies claims. -/
structure ClaimsContained (claims : List (String × String)) (ctx : Context)
    (options : SetupOptions) (now : Instant) : Prop where
  /-- If setup succeeds, its statements are those for the claims that the context has values for,
  one for each and in their order, and after them those that the library makes. -/
  made : ∀ statements,
    setupStatements ctx (some (.claimed claims)) options now = .returned statements →
    ∃ ofClaims, List.Forall₂ (ClaimStatement ctx) (claims.filter ctx.hasClaim) ofClaims ∧
      statements = ofClaims ++ (timeoutStatements ctx options now ++ seqscanStatements options)
  /-- The batch is there if there are statements, and it is read as exactly these. -/
  read : ∀ statements,
    setupStatements ctx (some (.claimed claims)) options now = .returned statements →
    ∃ batch?, setupBatch ctx (some (.claimed claims)) options now = .returned batch? ∧
      (batch? = none ↔ statements = []) ∧
        ∀ batch, batch? = some batch → Sql.statementsIn? batch = some statements
  /-- A bad name makes setup fail with no batch, if the context has a value for its claim. -/
  refused : ∀ claim ∈ claims.filter ctx.hasClaim, ¬ Sql.DottedName claim.1 →
    ∃ bad, setupStatements ctx (some (.claimed claims)) options now = .failed (badClaimName bad) ∧
      setupBatch ctx (some (.claimed claims)) options now = .failed (badClaimName bad)
  /-- Nothing else makes it fail. -/
  accepted : (∀ claim ∈ claims.filter ctx.hasClaim, Sql.DottedName claim.1) →
    ∃ statements, setupStatements ctx (some (.claimed claims)) options now = .returned statements

/-- **Claims stay contained**: whatever the values of a context are, the server reads the statements
of the setup, and in each of them nothing but the value of its claim. -/
theorem claimsContained (claims : List (String × String)) (ctx : Context) (options : SetupOptions)
    (now : Instant) : ClaimsContained claims ctx options now := by
  rcases claimed_cases ctx claims [] with ⟨ofClaims, hooks, each⟩ | ⟨bad, among, unnamed, failed⟩
  · -- All names are good, so setup succeeds.
    have named : ∀ claim ∈ claims.filter ctx.hasClaim, Sql.DottedName claim.1 :=
      ((List.forall₂_and_left _ _).mp (each.imp fun _ _ made => ⟨made.named, made⟩)).1
    have whole : ∀ statement ∈ ofClaims, Sql.Whole statement.toList :=
      ((List.forall₂_and_left _ _).mp (each.flip.imp fun _ _ made => ⟨made.whole, made⟩)).1
    have setup : setupStatements ctx (some (.claimed claims)) options now = .returned
        (ofClaims ++ (timeoutStatements ctx options now ++ seqscanStatements options)) :=
      setupStatements_of_returned hooks
    refine ⟨?_, ?_, ?_, fun _ => ⟨_, setup⟩⟩
    · intro statements returned
      exact ⟨ofClaims, each, Ending.returned.inj (returned.symm.trans setup)⟩
    · intro statements returned
      obtain rfl := Ending.returned.inj (returned.symm.trans setup)
      refine ⟨batchText _, by rw [setupBatch, setup]; rfl, batchText_eq_none_iff, ?_⟩
      intro batch joined
      refine batchText_read (fun statement among => ?_) joined
      rcases List.mem_append.mp among with ofClaim | generated
      · exact whole statement ofClaim
      · exact whole_of_generated generated
    · intro claim among unnamed
      exact absurd (named claim among) unnamed
  · -- A bad name makes the hook fail, and setup with it.
    have setup : setupStatements ctx (some (.claimed claims)) options now =
        .failed (badClaimName bad.1) := by
      show (BeginHook.claimed claims ctx []).map _ = _
      rw [failed]
      rfl
    have batch : setupBatch ctx (some (.claimed claims)) options now =
        .failed (badClaimName bad.1) := by
      rw [setupBatch, setup]
      rfl
    refine ⟨?_, ?_, fun _ _ _ => ⟨bad.1, setup, batch⟩, fun named => ?_⟩
    · intro statements returned
      cases setup.symm.trans returned
    · intro statements returned
      cases setup.symm.trans returned
    · exact absurd (named bad among) unnamed

end TxRetry
