import Mathlib.Data.List.Dedup
import Anyam.Kernel.Delivery
import Anyam.Lib.Guards

/-!
# Migration plans

`delivery/migration-plan.ts`: the normalized Migration Plan of a Release, and
whether a failed Promotion of it may be rolled back automatically. The SHA-256
digest of a plan's fields is given.
-/

namespace Anyam.Delivery

open Anyam.Lib Anyam.Kernel

inductive MigrationPlanErrorCode
  | invalid | incomplete | incompatible
deriving DecidableEq, Repr

structure MigrationPlanError where
  code : MigrationPlanErrorCode
  message : String
  recoveryAction : String
  receipt : String
deriving DecidableEq, Repr

structure MigrationPlanInput where
  strategy : Option MigrationStrategy := none
  beforeSchemaDigest : Option String := none
  afterSchemaDigest : Option String := none
  compatibility : Option MigrationCompatibility := none
  rollback : Option MigrationRollback := none
  migrationArtifactIds : Option (List String) := none
  requiredEvidenceKeys : Option (List String) := none
  planDigest : Option String := none
deriving DecidableEq, Repr

/-- A plan, given back as the input it could have been made from. -/
def MigrationPlanInput.ofPlan (plan : MigrationPlan) : MigrationPlanInput where
  strategy := some plan.strategy
  beforeSchemaDigest := plan.beforeSchemaDigest
  afterSchemaDigest := plan.afterSchemaDigest
  compatibility := some plan.compatibility
  rollback := some plan.rollback
  migrationArtifactIds := some plan.migrationArtifactIds
  requiredEvidenceKeys := some plan.requiredEvidenceKeys
  planDigest := some plan.planDigest

/-- `unique`: the trimmed entries, none of them blank and no two equal. -/
def uniqueEntries (values : List String) (field : String) :
    Except MigrationPlanError (List String) := do
  require (∀ value ∈ values, trim value ≠ "") {
    code := .invalid
    message := s!"{field} must contain only non-empty strings."
    recoveryAction := s!"repair {field} and retry"
    receipt := s!"migration={field}-invalid" }
  let normalized := values.map trim
  require normalized.Nodup {
    code := .invalid
    message := s!"{field} contains duplicate entries."
    recoveryAction := s!"remove duplicate {field} entries and retry"
    receipt := s!"migration={field}-duplicate" }
  return normalized

/-- `value ? nonEmpty(value, field) : absent`. -/
def optionalDigest (value : Option String) (field : String) :
    Except MigrationPlanError (Option String) :=
  match truthy value with
  | none => return none
  | some digest => do
    require (trim digest ≠ "") {
      code := .invalid
      message := s!"{field} must be a non-empty digest or identity."
      recoveryAction := s!"record a non-empty {field} and retry"
      receipt := s!"migration={field}-missing" }
    return some (trim digest)

/-- How a receipt names a schema digest. -/
def presence (value : Option String) : String :=
  if (truthy value).isSome then "present" else "missing"

variable (planDigest : MigrationPlanBody → String)

def createMigrationPlan (input : MigrationPlanInput) : Except MigrationPlanError MigrationPlan := do
  let strategy := input.strategy.getD .none
  let compatibility := input.compatibility.getD
    (if strategy = .none then .backwardCompatible else .unknown)
  let rollback := input.rollback.getD (if strategy = .none then .safe else .blocked)
  let migrationArtifactIds ← uniqueEntries (input.migrationArtifactIds.getD []) "migrationArtifactIds"
  let requiredEvidenceKeys ← uniqueEntries (input.requiredEvidenceKeys.getD []) "requiredEvidenceKeys"
  require (¬ (strategy = .none ∧ (migrationArtifactIds ≠ [] ∨ requiredEvidenceKeys ≠ []))) {
    code := .invalid
    message := "A no-migration plan cannot require migration Artifacts or Evidence."
    recoveryAction := "use a migration strategy or clear migration-specific inputs"
    receipt := "migration=strategy-none; migrationInputs=unexpected" }
  let before := presence input.beforeSchemaDigest
  let after := presence input.afterSchemaDigest
  require (¬ (strategy = .expandContract ∧ (input.beforeSchemaDigest = none ∨
      input.afterSchemaDigest = none ∨ compatibility ≠ .bidirectional))) {
    code := .incomplete
    message := "Expand/contract migration requires before and after schema digests plus bidirectional compatibility."
    recoveryAction := "record both schema digests and prove old/new versions can overlap"
    receipt := s!"migration=strategy-expand-contract; before={before}; after={after}; compatibility={compatibility}" }
  let body : MigrationPlanBody := {
    strategy
    beforeSchemaDigest := ← optionalDigest input.beforeSchemaDigest "beforeSchemaDigest"
    afterSchemaDigest := ← optionalDigest input.afterSchemaDigest "afterSchemaDigest"
    compatibility
    rollback
    migrationArtifactIds
    requiredEvidenceKeys }
  let received := input.planDigest.getD "undefined"
  let expected := planDigest body
  require (input.planDigest = none ∨ input.planDigest = some expected) {
    code := .invalid
    message := "Migration Plan digest does not match its fields."
    recoveryAction := "recompute planDigest from the normalized migration plan and retry"
    receipt := s!"migration=plan-digest-mismatch; expected={expected}; received={received}" }
  return { body with planDigest := expected }

def defaultMigrationPlan : Except MigrationPlanError MigrationPlan :=
  createMigrationPlan planDigest { strategy := some .none }

inductive AutomaticMigrationRollbackDecision
  | allowed (receipt : String)
  | blocked (recoveryAction receipt : String)
deriving DecidableEq, Repr

/-- `automaticMigrationRollbackDecision`, after its plan was normalized. -/
def rollbackDecision (plan : MigrationPlan) : AutomaticMigrationRollbackDecision :=
  if plan.rollback = .safe then
    .allowed s!"migrationRollback=safe; automaticRollback=allowed; planDigest={plan.planDigest}"
  else if plan.rollback = .applicationOnly ∧
      (plan.compatibility = .backwardCompatible ∨ plan.compatibility = .bidirectional) then
    .allowed s!"migrationRollback=application-only; compatibility={plan.compatibility}; automaticRollback=allowed; planDigest={plan.planDigest}"
  else
    .blocked
      (if plan.rollback = .applicationOnly then
        "prove backward-compatible or bidirectional migration compatibility before allowing application rollback"
      else
        "complete the required data recovery action and attach fresh Evidence before retrying rollback")
      s!"migrationRollback={plan.rollback}; compatibility={plan.compatibility}; automaticRollback=blocked; planDigest={plan.planDigest}"

def automaticMigrationRollbackDecision (plan : MigrationPlan) :
    Except MigrationPlanError AutomaticMigrationRollbackDecision :=
  (createMigrationPlan planDigest (.ofPlan plan)).map rollbackDecision

/-- `automaticMigrationRollbackDecision(release.migrationPlan ?? defaultMigrationPlan())`. -/
def rollbackDecisionFor (release : Release) :
    Except MigrationPlanError AutomaticMigrationRollbackDecision :=
  match release.migrationPlan with
  | some plan => automaticMigrationRollbackDecision planDigest plan
  | none => defaultMigrationPlan planDigest >>= automaticMigrationRollbackDecision planDigest

/-- The plan of the Release, if it has one, is one that normalizes again, as every
plan a Release was sealed with does. -/
def PlanAccepted (release : Release) : Prop :=
  ∀ plan ∈ release.migrationPlan, (createMigrationPlan planDigest (.ofPlan plan)).isOk = true

instance (release : Release) : Decidable (PlanAccepted planDigest release) :=
  inferInstanceAs (Decidable (∀ plan ∈ release.migrationPlan, _))

variable {planDigest}

/-- The decision is taken for a plan exactly when the plan normalizes again. -/
theorem automaticMigrationRollbackDecision_eq_ok {plan : MigrationPlan}
    {decision : AutomaticMigrationRollbackDecision} :
    automaticMigrationRollbackDecision planDigest plan = .ok decision ↔
      ∃ normalized, createMigrationPlan planDigest (.ofPlan plan) = .ok normalized ∧
        rollbackDecision normalized = decision :=
  map_eq_ok

/-- The plan of a Release that names none. -/
def noMigration (planDigest : MigrationPlanBody → String) : MigrationPlan where
  strategy := .none
  beforeSchemaDigest := none
  afterSchemaDigest := none
  compatibility := .backwardCompatible
  rollback := .safe
  migrationArtifactIds := []
  requiredEvidenceKeys := []
  planDigest := planDigest ⟨.none, none, none, .backwardCompatible, .safe, [], []⟩

theorem defaultMigrationPlan_eq :
    defaultMigrationPlan planDigest = .ok (noMigration planDigest) := by
  simp [defaultMigrationPlan, createMigrationPlan, noMigration, uniqueEntries, optionalDigest,
    require, Functor.map, Except.map]

/-- The default plan is its own normal form. -/
theorem createMigrationPlan_noMigration :
    createMigrationPlan planDigest (.ofPlan (noMigration planDigest)) =
      .ok (noMigration planDigest) := by
  simp [createMigrationPlan, MigrationPlanInput.ofPlan, noMigration, uniqueEntries, optionalDigest,
    require, Functor.map, Except.map]

/-- The automatic rollback decision is taken for every Release that was sealed. -/
theorem exists_rollbackDecision {release : Release} (haccepted : PlanAccepted planDigest release) :
    ∃ decision, rollbackDecisionFor planDigest release = .ok decision := by
  unfold rollbackDecisionFor
  cases hplan : release.migrationPlan with
  | some plan =>
    obtain ⟨normalized, hnormalized⟩ := isOk_iff.mp (haccepted plan hplan)
    exact ⟨_, automaticMigrationRollbackDecision_eq_ok.mpr ⟨normalized, hnormalized, rfl⟩⟩
  | none =>
    exact ⟨_, bind_eq_ok.mpr ⟨_, defaultMigrationPlan_eq,
      automaticMigrationRollbackDecision_eq_ok.mpr ⟨_, createMigrationPlan_noMigration, rfl⟩⟩⟩

end Anyam.Delivery
