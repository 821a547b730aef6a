import Anyam.Delivery.MigrationPlan

/-!
# Normalizing a Migration Plan again

A Migration Plan is normalized when it is made, and again wherever it is read: before it goes to a
sensitive Target, and when a deployment of it has failed.

- `NormalPlan`: what every plan that was made satisfies.
- `createMigrationPlan_ofPlan_iff`: when a normal plan is made from itself.
- **`renormalizes_iff`**: a plan that was made normalizes again, unless an expand/contract plan was
  accepted with an empty schema digest.
-/

namespace Anyam.Delivery

open Anyam.Lib Anyam.Kernel

/-! ## Where a plan is normalized again -/

def ProductionSensitive (environment : TargetEnvironment) (dataClass : Option TargetDataClass) :
    Prop :=
  environment = .production ∨ environment = .custom ∨ dataClass = some .production ∨
    dataClass = some .productionShaped ∨ dataClass = some .custom

instance (environment : TargetEnvironment) (dataClass : Option TargetDataClass) :
    Decidable (ProductionSensitive environment dataClass) :=
  inferInstanceAs (Decidable (_ ∨ _))

/-- `assertMigrationPlanSafeForTarget`, after its plan was normalized. -/
def safeForTarget (normalized : MigrationPlan) (environment : TargetEnvironment)
    (dataClass : Option TargetDataClass) : Except MigrationPlanError Unit :=
  if ProductionSensitive environment dataClass then do
    require (¬ (normalized.compatibility = .unknown ∨ normalized.compatibility = .incompatible)) {
      code := .incompatible
      message := s!"Production-sensitive Target cannot consume migration compatibility {normalized.compatibility}."
      recoveryAction := "prove compatibility with the required migration Verifiers or keep the Release out of production-sensitive Targets"
      receipt := s!"migration=production-blocked; compatibility={normalized.compatibility}; planDigest={normalized.planDigest}" }
    require (normalized.rollback ≠ .blocked) {
      code := .incompatible
      message := "Production-sensitive Target cannot consume a Release with blocked data rollback behavior."
      recoveryAction := "provide a manual data recovery runbook or select a Release with a supported rollback mode"
      receipt := s!"migration=production-blocked; rollback=blocked; planDigest={normalized.planDigest}" }
  else return ()

def assertMigrationPlanSafeForTarget (planDigest : MigrationPlanBody → String)
    (plan : MigrationPlan) (environment : TargetEnvironment) (dataClass : Option TargetDataClass) :
    Except MigrationPlanError Unit := do
  let normalized ← createMigrationPlan planDigest (.ofPlan plan)
  safeForTarget normalized environment dataClass

/-- The plan is made from itself, and where it is normalized again only the checks of a plan are
left. -/
structure Renormalizes (planDigest : MigrationPlanBody → String) (plan : MigrationPlan) : Prop where
  again : createMigrationPlan planDigest (.ofPlan plan) = .ok plan
  rollback : automaticMigrationRollbackDecision planDigest plan = .ok (rollbackDecision plan)
  target : ∀ environment dataClass,
    assertMigrationPlanSafeForTarget planDigest plan environment dataClass =
      safeForTarget plan environment dataClass

/-! ## Normal plans -/

/-- Trimmed entries, none blank, no two equal. -/
structure NormalEntries (values : List String) : Prop where
  trimmed : ∀ value ∈ values, trim value = value
  present : "" ∉ values
  nodup : values.Nodup

structure NormalPlan (planDigest : MigrationPlanBody → String) (plan : MigrationPlan) : Prop where
  artifacts : NormalEntries plan.migrationArtifactIds
  evidence : NormalEntries plan.requiredEvidenceKeys
  unmigrated : plan.strategy = .none →
    plan.migrationArtifactIds = [] ∧ plan.requiredEvidenceKeys = []
  overlap : plan.strategy = .expandContract → plan.compatibility = .bidirectional
  before : ∀ digest ∈ plan.beforeSchemaDigest, digest ≠ "" ∧ trim digest = digest
  after : ∀ digest ∈ plan.afterSchemaDigest, digest ≠ "" ∧ trim digest = digest
  digest : plan.planDigest = planDigest plan.toMigrationPlanBody

variable {planDigest : MigrationPlanBody → String} {input : MigrationPlanInput}
  {plan : MigrationPlan} {field : String}

theorem uniqueEntries_eq_ok {values entries : List String} :
    uniqueEntries values field = .ok entries ↔
      (∀ value ∈ values, trim value ≠ "") ∧ (values.map trim).Nodup ∧
        values.map trim = entries := by
  simp only [uniqueEntries, bind_eq_ok, require_eq_ok, pure_eq_ok, exists_and_left,
    exists_const]

theorem normal_of_uniqueEntries {values entries : List String}
    (h : uniqueEntries values field = .ok entries) : NormalEntries entries := by
  obtain ⟨hpresent, hnodup, rfl⟩ := uniqueEntries_eq_ok.mp h
  refine ⟨fun value hvalue => ?_, fun hempty => ?_, hnodup⟩
  · obtain ⟨source, -, rfl⟩ := List.mem_map.mp hvalue
    exact trim_trim source
  · obtain ⟨source, hsource, hblank⟩ := List.mem_map.mp hempty
    exact hpresent source hsource hblank

theorem NormalEntries.map_trim {values : List String} (h : NormalEntries values) :
    values.map trim = values :=
  List.map_congr_left h.trimmed |>.trans (List.map_id values)

theorem NormalEntries.again {values : List String} (h : NormalEntries values) :
    uniqueEntries values field = .ok values := by
  refine uniqueEntries_eq_ok.mpr ⟨fun value hvalue hblank => ?_, ?_, h.map_trim⟩
  · rw [h.trimmed value hvalue] at hblank
    exact h.present (hblank ▸ hvalue)
  · rw [h.map_trim]
    exact h.nodup

theorem optionalDigest_eq_ok {value found : Option String} :
    optionalDigest value field = .ok found ↔
      (∀ digest ∈ truthy value, trim digest ≠ "") ∧ (truthy value).map trim = found := by
  unfold optionalDigest
  cases truthy value with
  | none => simp
  | some digest =>
    simp only [bind_eq_ok, require_eq_ok, pure_eq_ok, exists_and_left, exists_const,
      Option.mem_def, Option.some.injEq, forall_eq', Option.map_some]

theorem normal_of_optionalDigest {value found : Option String}
    (h : optionalDigest value field = .ok found) :
    ∀ digest ∈ found, digest ≠ "" ∧ trim digest = digest := by
  obtain ⟨hpresent, rfl⟩ := optionalDigest_eq_ok.mp h
  intro digest hdigest
  obtain ⟨source, hsource, rfl⟩ := Option.map_eq_some_iff.mp hdigest
  exact ⟨hpresent source hsource, trim_trim source⟩

theorem optionalDigest_again {value : Option String}
    (h : ∀ digest ∈ value, digest ≠ "" ∧ trim digest = digest) :
    optionalDigest value field = .ok value := by
  cases value with
  | none => rfl
  | some digest =>
    obtain ⟨hpresent, htrim⟩ := h digest rfl
    have htruthy : truthy (some digest) = some digest := truthy_eq_some.mpr ⟨rfl, hpresent⟩
    refine optionalDigest_eq_ok.mpr ⟨?_, ?_⟩
    · rw [htruthy]
      rintro _ ⟨⟩
      rwa [htrim]
    · rw [htruthy, Option.map_some, htrim]

/-- What an input is accepted for, and the plan that is made of it. -/
structure Makes (planDigest : MigrationPlanBody → String) (input : MigrationPlanInput)
    (plan : MigrationPlan) : Prop where
  strategy : plan.strategy = input.strategy.getD .none
  compatibility : plan.compatibility = input.compatibility.getD
    (if input.strategy.getD .none = .none then .backwardCompatible else .unknown)
  rollback : plan.rollback =
    input.rollback.getD (if input.strategy.getD .none = .none then .safe else .blocked)
  artifacts : uniqueEntries (input.migrationArtifactIds.getD []) "migrationArtifactIds" =
    .ok plan.migrationArtifactIds
  evidence : uniqueEntries (input.requiredEvidenceKeys.getD []) "requiredEvidenceKeys" =
    .ok plan.requiredEvidenceKeys
  unmigrated : plan.strategy = .none →
    plan.migrationArtifactIds = [] ∧ plan.requiredEvidenceKeys = []
  overlap : plan.strategy = .expandContract → input.beforeSchemaDigest ≠ none ∧
    input.afterSchemaDigest ≠ none ∧ plan.compatibility = .bidirectional
  before : optionalDigest input.beforeSchemaDigest "beforeSchemaDigest" = .ok plan.beforeSchemaDigest
  after : optionalDigest input.afterSchemaDigest "afterSchemaDigest" = .ok plan.afterSchemaDigest
  digest : plan.planDigest = planDigest plan.toMigrationPlanBody
  given : input.planDigest = none ∨ input.planDigest = some plan.planDigest

theorem createMigrationPlan_eq_ok :
    createMigrationPlan planDigest input = .ok plan ↔ Makes planDigest input plan := by
  simp only [createMigrationPlan, bind_eq_ok, require_eq_ok, pure_eq_ok, exists_and_left,
    exists_const]
  constructor
  · rintro ⟨artifacts, hartifacts, evidence, hevidence, hunmigrated, hexpand, before, hbefore,
      after, hafter, hgiven, rfl⟩
    refine ⟨rfl, rfl, rfl, hartifacts, hevidence, fun hnone => ?_, fun hstrategy => ?_, hbefore,
      hafter, rfl, hgiven⟩
    · by_contra hsome
      exact hunmigrated ⟨hnone, by tauto⟩
    · by_contra hmissing
      exact hexpand ⟨hstrategy, by tauto⟩
  · intro h
    obtain ⟨⟨strategy, _, _, compatibility, rollback, artifacts, evidence⟩, digest⟩ := plan
    obtain ⟨hstrategy, hcompatibility, hrollback, hartifacts, hevidence, hunmigrated, hoverlap,
      hbefore, hafter, hdigest, hgiven⟩ := h
    dsimp only at *
    subst hstrategy hcompatibility hrollback hdigest
    refine ⟨_, hartifacts, _, hevidence, ?_, ?_, _, hbefore, _, hafter, hgiven, rfl⟩
    · rintro ⟨hnone, hinputs⟩
      have hempty := hunmigrated hnone
      tauto
    · rintro ⟨hstrategy, hmissing⟩
      have hdeclared := hoverlap hstrategy
      tauto

theorem Makes.normal (h : Makes planDigest input plan) : NormalPlan planDigest plan where
  artifacts := normal_of_uniqueEntries h.artifacts
  evidence := normal_of_uniqueEntries h.evidence
  unmigrated := h.unmigrated
  overlap hstrategy := (h.overlap hstrategy).2.2
  before := normal_of_optionalDigest h.before
  after := normal_of_optionalDigest h.after
  digest := h.digest

/-- A schema digest is left out of a plan exactly when none, or an empty one, was given. -/
theorem Makes.before_eq_none (h : Makes planDigest input plan) :
    plan.beforeSchemaDigest = none ↔ truthy input.beforeSchemaDigest = none := by
  rw [← (optionalDigest_eq_ok.mp h.before).2]
  exact Option.map_eq_none_iff

theorem Makes.after_eq_none (h : Makes planDigest input plan) :
    plan.afterSchemaDigest = none ↔ truthy input.afterSchemaDigest = none := by
  rw [← (optionalDigest_eq_ok.mp h.after).2]
  exact Option.map_eq_none_iff

theorem Makes.expandContract_iff (h : Makes planDigest input plan) :
    plan.strategy = .expandContract ↔ input.strategy = some .expandContract := by
  rw [h.strategy]
  cases input.strategy with
  | none => decide
  | some strategy => simp

/-! ## Normalizing again -/

/-- A normal plan is made from itself unless it is an expand/contract plan without one of its
schema digests. -/
theorem createMigrationPlan_ofPlan_iff (h : NormalPlan planDigest plan) :
    createMigrationPlan planDigest (.ofPlan plan) = .ok plan ↔
      (plan.strategy = .expandContract →
        plan.beforeSchemaDigest ≠ none ∧ plan.afterSchemaDigest ≠ none) := by
  rw [createMigrationPlan_eq_ok]
  constructor
  · intro hmakes hexpand
    obtain ⟨hbefore, hafter, -⟩ := hmakes.overlap hexpand
    exact ⟨hbefore, hafter⟩
  · intro hdeclared
    exact {
      strategy := rfl
      compatibility := rfl
      rollback := rfl
      artifacts := h.artifacts.again
      evidence := h.evidence.again
      unmigrated := h.unmigrated
      overlap := fun hexpand =>
        ⟨(hdeclared hexpand).1, (hdeclared hexpand).2, h.overlap hexpand⟩
      before := optionalDigest_again h.before
      after := optionalDigest_again h.after
      digest := h.digest
      -- the digest that comes with the plan is the one of its fields
      given := .inr rfl }

theorem renormalizes_of_again (h : createMigrationPlan planDigest (.ofPlan plan) = .ok plan) :
    Renormalizes planDigest plan where
  again := h
  rollback := automaticMigrationRollbackDecision_eq_ok.mpr ⟨plan, h, rfl⟩
  target environment dataClass := by
    rw [assertMigrationPlanSafeForTarget, h]
    rfl

/-- **A plan that was made normalizes again to itself**, unless it was accepted as an
expand/contract plan with an empty schema digest. -/
theorem renormalizes_iff (h : createMigrationPlan planDigest input = .ok plan) :
    Renormalizes planDigest plan ↔
      ¬ (input.strategy = some .expandContract ∧
        (input.beforeSchemaDigest = some "" ∨ input.afterSchemaDigest = some "")) := by
  have hmakes := createMigrationPlan_eq_ok.mp h
  have hagain := createMigrationPlan_ofPlan_iff hmakes.normal
  rw [hmakes.expandContract_iff, ne_eq, hmakes.before_eq_none, ne_eq, hmakes.after_eq_none,
    truthy_eq_none, truthy_eq_none] at hagain
  constructor
  · rintro hrenormalizes ⟨hexpand, hempty⟩
    obtain ⟨hnotBefore, hnotAfter⟩ := hagain.mp hrenormalizes.again hexpand
    rcases hempty with hempty | hempty
    · exact hnotBefore (.inr hempty)
    · exact hnotAfter (.inr hempty)
  · intro hdigests
    refine renormalizes_of_again (hagain.mpr fun hexpand => ?_)
    obtain ⟨hdeclaredBefore, hdeclaredAfter, -⟩ :=
      hmakes.overlap (hmakes.expandContract_iff.mpr hexpand)
    constructor
    · rintro (hnone | hempty)
      · exact hdeclaredBefore hnone
      · exact hdigests ⟨hexpand, .inl hempty⟩
    · rintro (hnone | hempty)
      · exact hdeclaredAfter hnone
      · exact hdigests ⟨hexpand, .inr hempty⟩

def additivePlan : MigrationPlan where
  strategy := .expandContract
  beforeSchemaDigest := some "sha256:one"
  afterSchemaDigest := some "sha256:two"
  compatibility := .bidirectional
  rollback := .blocked
  migrationArtifactIds := ["artifact:ddl"]
  requiredEvidenceKeys := []
  planDigest := "sha256:plan"

theorem renormalizes_iff_additivePlan : Renormalizes (fun _ => "sha256:plan") additivePlan := by
  have hmade : createMigrationPlan (fun _ => "sha256:plan") {
      strategy := some .expandContract
      beforeSchemaDigest := some " sha256:one"
      afterSchemaDigest := some "sha256:two"
      compatibility := some .bidirectional
      migrationArtifactIds := some ["artifact:ddl "] } = .ok additivePlan := by
    decide +kernel
  exact (renormalizes_iff hmade).mpr (by decide)

/-- An empty schema digest passes as one, is left out, and is missed when the plan is read. -/
theorem empty_digest_not_renormalized :
    let plan := { additivePlan with beforeSchemaDigest := none, migrationArtifactIds := [] }
    createMigrationPlan (fun _ => "sha256:plan") {
        strategy := some .expandContract
        beforeSchemaDigest := some ""
        afterSchemaDigest := some "sha256:two"
        compatibility := some .bidirectional } = .ok plan ∧
      (createMigrationPlan (fun _ => "sha256:plan") (.ofPlan plan)).isOk = false ∧
      (automaticMigrationRollbackDecision (fun _ => "sha256:plan") plan).isOk = false ∧
      (assertMigrationPlanSafeForTarget (fun _ => "sha256:plan") plan .preview none).isOk = false := by
  decide +kernel

end Anyam.Delivery
