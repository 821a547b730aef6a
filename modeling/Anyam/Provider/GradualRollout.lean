import Mathlib.Data.List.Sort
import Mathlib.Data.Rat.Defs
import Mathlib.Algebra.Order.Ring.Rat
import Mathlib.Tactic.Linarith

/-!
# Gradual rollouts of a Worker

`apply` of `CloudflareWorkerTargetAdapter` (`cloudflare/worker-target.ts`) at a provider that is
faithful: it reports the deployment that was put last, and a request that is lost took effect or not.
The other version of a split is derived from the deployment that is active when the call starts. The
version of the Release is found again by every call. Percentages are exact numbers here.

- `deploymentVersions`, `applyStep`, `apply`: one call, with what it asks of the provider.
- `Split`, `split_apply`: every deployment splits the traffic between the new and the known version.
- **`rollout_retry_iff`**: a call after any failed ones succeeds when there is no split to make, or a
  version to split with.
- **`retry_after_completion_fails`**: a rollout that went through and was not recorded.
-/

namespace Anyam.Provider.Rollout

structure RolloutStep where
  percentage : ℚ
  minimumObservationMs : ℚ
deriving DecidableEq, Repr

structure RolloutPolicy where
  steps : List RolloutStep
deriving DecidableEq, Repr

/-- The steps go on from a percentage up to 100. -/
def StepsFrom : ℚ → List RolloutStep → Prop
  | previous, [] => previous = 100
  | previous, step :: steps =>
    previous < step.percentage ∧ step.percentage ≤ 100 ∧ 0 ≤ step.minimumObservationMs ∧
      StepsFrom step.percentage steps

/-- `validateRolloutPolicy`. -/
def RolloutPolicy.Valid (policy : RolloutPolicy) : Prop :=
  policy.steps ≠ [] ∧ StepsFrom 0 policy.steps

/-- The part of the traffic that a version of a deployment serves. -/
structure Share where
  versionId : String
  percentage : ℚ
deriving DecidableEq, Repr

/-- It throws when a split needs another version and none is active. -/
def deploymentVersions (versionId : String) (percentage : ℚ) (activeVersions : List Share) :
    Option (List Share) :=
  if percentage = 100 then some [⟨versionId, 100⟩]
  else
    let others := activeVersions.filter fun entry =>
      entry.versionId ≠ versionId ∧ 0 < entry.percentage
    (others.mergeSort fun left right => right.percentage ≤ left.percentage).head?.map fun previous =>
      [⟨versionId, percentage⟩, ⟨previous.versionId, 100 - percentage⟩]

/-! ## One call -/

inductive ApplyErrorCode
  | preparation | activeDeployment | activeDeploymentMissing | baseMissing | transport | provider
  | observerMissing | observer | aborted | ledger
deriving DecidableEq, Repr

/-- What becomes of a request for a deployment. -/
inductive Answer
  | answered | lost | lostAfterEffect | refused
deriving DecidableEq, Repr

inductive Observation
  | continues | aborts | throws
deriving DecidableEq, Repr

/-- What a call meets. Without a version or a credential it stops before it asks anything. -/
structure Attempt where
  prepared : Bool
  lookup : Answer
  answers : Nat → Answer
  observer : Option (Nat → Observation)
  ledgerSaved : Bool

/-- The active deployment, and the deployments that were asked for. -/
structure Progress where
  active : List Share
  requested : List (List Share)
deriving DecidableEq, Repr

/-- The observation of a step that took effect. -/
def observe (attempt : Attempt) (index : Nat) (step : RolloutStep) : Option ApplyErrorCode :=
  if 0 < step.minimumObservationMs then
    match attempt.observer with
    | none => some .observerMissing
    | some observer =>
      match observer index with
      | .continues => none
      | .aborts => some .aborted
      | .throws => some .observer
  else none

def applyStep (versionId : String) (activeVersions : List Share) (attempt : Attempt) (index : Nat)
    (step : RolloutStep) (progress : Progress) : Progress × Option ApplyErrorCode :=
  match deploymentVersions versionId step.percentage activeVersions with
  | none => (progress, some .baseMissing)
  | some versions =>
    let requested := progress.requested ++ [versions]
    match attempt.answers index with
    | .lost => ({ progress with requested }, some .transport)
    | .lostAfterEffect => (⟨versions, requested⟩, some .transport)
    | .refused => ({ progress with requested }, some .provider)
    | .answered => (⟨versions, requested⟩, observe attempt index step)

def applySteps (versionId : String) (activeVersions : List Share) (attempt : Attempt) :
    Nat → List RolloutStep → Progress → Progress × Option ApplyErrorCode
  | _, [], progress => (progress, none)
  | index, step :: steps, progress =>
    match applyStep versionId activeVersions attempt index step progress with
    | (progress, none) => applySteps versionId activeVersions attempt (index + 1) steps progress
    | (progress, some code) => (progress, some code)

/-- All steps, and the record of the deployment in the ledger. -/
def applyFrom (policy : RolloutPolicy) (versionId : String) (activeVersions : List Share)
    (attempt : Attempt) (progress : Progress) : Progress × Option ApplyErrorCode :=
  match applySteps versionId activeVersions attempt 0 policy.steps progress with
  | (progress, none) => (progress, if attempt.ledgerSaved then none else some .ledger)
  | (progress, some code) => (progress, some code)

def apply (policy : RolloutPolicy) (versionId : String) (attempt : Attempt) (progress : Progress) :
    Progress × Option ApplyErrorCode :=
  if attempt.prepared = false then (progress, some .preparation)
  else if policy.steps.any (fun step => step.percentage < 100) then
    match attempt.lookup with
    | .lost | .lostAfterEffect => (progress, some .activeDeployment)
    | .refused => (progress, some .provider)
    | .answered =>
      if progress.active = [] then (progress, some .activeDeploymentMissing)
      else applyFrom policy versionId progress.active attempt progress
  else applyFrom policy versionId [] attempt progress

/-- Calls one after another. -/
def rollout (policy : RolloutPolicy) (versionId : String) (attempts : List Attempt)
    (progress : Progress) : Progress :=
  attempts.foldl (fun progress attempt => (apply policy versionId attempt progress).1) progress

/-- Nothing fails any more. -/
structure Attempt.Clean (attempt : Attempt) : Prop where
  prepared : attempt.prepared = true
  lookup : attempt.lookup = .answered
  answers : ∀ index, attempt.answers index = .answered
  observer : ∃ observer, attempt.observer = some observer ∧ ∀ index, observer index = .continues
  ledgerSaved : attempt.ledgerSaved = true

/-! ## Splits -/

/-- All traffic goes to the two versions. -/
structure Split (versionId knownGood : String) (versions : List Share) : Prop where
  total : (versions.map Share.percentage).sum = 100
  serves : ∀ share ∈ versions, 0 < share.percentage ∧
    (share.versionId = versionId ∨ share.versionId = knownGood)

variable {versionId knownGood : String} {policy : RolloutPolicy}

theorem Split.ne_nil {versions : List Share} (h : Split versionId knownGood versions) :
    versions ≠ [] := by
  rintro rfl
  have htotal := h.total
  norm_num at htotal

/-- The deployments of a call split as the active one does. -/
theorem split_deploymentVersions {percentage : ℚ} {active versions : List Share}
    (hactive : ∀ share ∈ active, share.versionId = versionId ∨ share.versionId = knownGood)
    (hlow : 0 < percentage) (hhigh : percentage ≤ 100)
    (h : deploymentVersions versionId percentage active = some versions) :
    Split versionId knownGood versions := by
  rw [deploymentVersions] at h
  split at h
  · cases h
    refine ⟨by norm_num, fun share hshare => ?_⟩
    cases List.mem_singleton.mp hshare
    exact ⟨by norm_num, .inl rfl⟩
  · next hne =>
    obtain ⟨previous, hprevious, rfl⟩ := Option.map_eq_some_iff.mp h
    have hmem := List.mem_mergeSort.mp (List.mem_of_head? hprevious)
    obtain ⟨hin, -⟩ := List.mem_filter.mp hmem
    have hless : percentage < 100 := lt_of_le_of_ne hhigh hne
    refine ⟨by simp, fun share hshare => ?_⟩
    rcases List.mem_cons.mp hshare with rfl | hshare
    · exact ⟨hlow, .inl rfl⟩
    · cases List.mem_singleton.mp hshare
      exact ⟨by linarith, hactive previous hin⟩

/-- The active deployment and every one that was asked for split the traffic. -/
structure Kept (versionId knownGood : String) (progress : Progress) : Prop where
  active : Split versionId knownGood progress.active
  requested : ∀ versions ∈ progress.requested, Split versionId knownGood versions

theorem kept_applyStep {active : List Share} {attempt : Attempt} {index : Nat} {step : RolloutStep}
    {progress : Progress}
    (hactive : ∀ share ∈ active, share.versionId = versionId ∨ share.versionId = knownGood)
    (hlow : 0 < step.percentage) (hhigh : step.percentage ≤ 100)
    (h : Kept versionId knownGood progress) :
    Kept versionId knownGood (applyStep versionId active attempt index step progress).1 := by
  unfold applyStep
  cases hversions : deploymentVersions versionId step.percentage active with
  | none => exact h
  | some versions =>
    have hsplit := split_deploymentVersions hactive hlow hhigh hversions
    have hrequested : ∀ asked ∈ progress.requested ++ [versions],
        Split versionId knownGood asked := by
      intro asked hasked
      rcases List.mem_append.mp hasked with hasked | hasked
      · exact h.requested asked hasked
      · cases List.mem_singleton.mp hasked
        exact hsplit
    cases attempt.answers index with
    | answered => exact ⟨hsplit, hrequested⟩
    | lost => exact ⟨h.active, hrequested⟩
    | lostAfterEffect => exact ⟨hsplit, hrequested⟩
    | refused => exact ⟨h.active, hrequested⟩

theorem kept_applySteps {active : List Share} {attempt : Attempt} {steps : List RolloutStep}
    (hactive : ∀ share ∈ active, share.versionId = versionId ∨ share.versionId = knownGood)
    {previous : ℚ} (hprevious : 0 ≤ previous) (hsteps : StepsFrom previous steps) (index : Nat)
    {progress : Progress} (h : Kept versionId knownGood progress) :
    Kept versionId knownGood (applySteps versionId active attempt index steps progress).1 := by
  induction steps generalizing previous index progress with
  | nil => exact h
  | cons step steps ih =>
    obtain ⟨hless, hhigh, -, hrest⟩ := hsteps
    have hlow : 0 < step.percentage := by linarith
    have hstep : Kept versionId knownGood
        (applyStep versionId active attempt index step progress).1 :=
      kept_applyStep hactive hlow hhigh h
    unfold applySteps
    split
    · next progress' hresult =>
      rw [hresult] at hstep
      exact ih hlow.le hrest (index + 1) hstep
    · next progress' code hresult =>
      rw [hresult] at hstep
      exact hstep

theorem kept_applyFrom (hvalid : policy.Valid) {active : List Share} {attempt : Attempt}
    (hactive : ∀ share ∈ active, share.versionId = versionId ∨ share.versionId = knownGood)
    {progress : Progress} (h : Kept versionId knownGood progress) :
    Kept versionId knownGood (applyFrom policy versionId active attempt progress).1 := by
  have hsteps : Kept versionId knownGood
      (applySteps versionId active attempt 0 policy.steps progress).1 :=
    kept_applySteps hactive le_rfl hvalid.2 0 h
  unfold applyFrom
  split
  · next progress' hresult => rwa [hresult] at hsteps
  · next progress' code hresult => rwa [hresult] at hsteps

theorem kept_apply (hvalid : policy.Valid) (attempt : Attempt) {progress : Progress}
    (h : Kept versionId knownGood progress) :
    Kept versionId knownGood (apply policy versionId attempt progress).1 := by
  have hactive := fun share hshare => (h.active.serves share hshare).2
  unfold apply
  split_ifs with _ _ hnil
  · exact h
  · exact absurd hnil h.active.ne_nil
  · cases attempt.lookup with
    | answered => exact kept_applyFrom hvalid hactive h
    | lost => exact h
    | lostAfterEffect => exact h
    | refused => exact h
  · exact kept_applyFrom hvalid (fun share hshare => absurd hshare List.not_mem_nil) h

/-- Calls one after another keep the splits. -/
theorem kept_rollout (hvalid : policy.Valid) (attempts : List Attempt) {progress : Progress}
    (h : Kept versionId knownGood progress) :
    Kept versionId knownGood (rollout policy versionId attempts progress) := by
  induction attempts generalizing progress with
  | nil => exact h
  | cons attempt attempts ih => exact ih (kept_apply hvalid attempt h)

/-! ## A call in which nothing fails -/

/-- Another version has a part of the traffic. -/
def OtherActive (versionId : String) (active : List Share) : Prop :=
  ∃ share ∈ active, share.versionId ≠ versionId ∧ 0 < share.percentage

instance (versionId : String) (active : List Share) : Decidable (OtherActive versionId active) :=
  inferInstanceAs (Decidable (∃ share ∈ active, _))

/-- A deployment can be made when it is no split or another version is active. -/
theorem deploymentVersions_isSome_iff {percentage : ℚ} {active : List Share} :
    (deploymentVersions versionId percentage active).isSome ↔
      percentage = 100 ∨ OtherActive versionId active := by
  rw [deploymentVersions]
  split
  · next heq => simp [heq]
  · next hne =>
    rw [Option.isSome_map, List.isSome_head?, ne_eq, List.eq_nil_iff_forall_not_mem]
    simp [OtherActive, hne]

theorem observe_clean {attempt : Attempt} (hclean : attempt.Clean) (index : Nat)
    (step : RolloutStep) : observe attempt index step = none := by
  obtain ⟨observer, hobserver, hcontinues⟩ := hclean.observer
  rw [observe, hobserver]
  simp [hcontinues]

theorem applySteps_clean {attempt : Attempt} (hclean : attempt.Clean) {active : List Share}
    {steps : List RolloutStep} (hmade : ∀ step ∈ steps,
      (deploymentVersions versionId step.percentage active).isSome)
    {previous : ℚ} (hsteps : StepsFrom previous steps) (index : Nat) (progress : Progress)
    (hlast : previous = 100 → progress.active = [⟨versionId, 100⟩]) :
    (applySteps versionId active attempt index steps progress).2 = none ∧
      (applySteps versionId active attempt index steps progress).1.active = [⟨versionId, 100⟩] := by
  induction steps generalizing previous index progress with
  | nil => exact ⟨rfl, hlast hsteps⟩
  | cons step steps ih =>
    obtain ⟨versions, hversions⟩ := Option.isSome_iff_exists.mp (hmade step List.mem_cons_self)
    have hstep : applyStep versionId active attempt index step progress =
        (⟨versions, progress.requested ++ [versions]⟩, none) := by
      simp only [applyStep, hversions, hclean.answers index, observe_clean hclean]
    rw [applySteps, hstep]
    refine ih (fun step hmem => hmade step (List.mem_cons_of_mem _ hmem)) hsteps.2.2.2 _ _ ?_
    intro hpercentage
    rw [deploymentVersions, if_pos hpercentage] at hversions
    exact (Option.some.inj hversions).symm

/-- The call has succeeded with the new version at 100%. -/
def Succeeds (policy : RolloutPolicy) (versionId : String) (attempt : Attempt)
    (progress : Progress) : Prop :=
  (apply policy versionId attempt progress).2 = none ∧
    (apply policy versionId attempt progress).1.active = [⟨versionId, 100⟩]

theorem applyFrom_clean (hvalid : policy.Valid) {attempt : Attempt} (hclean : attempt.Clean)
    {active : List Share} (hmade : ∀ step ∈ policy.steps,
      (deploymentVersions versionId step.percentage active).isSome) (progress : Progress) :
    (applyFrom policy versionId active attempt progress).2 = none ∧
      (applyFrom policy versionId active attempt progress).1.active = [⟨versionId, 100⟩] := by
  have hsteps := applySteps_clean hclean hmade hvalid.2 0 progress (fun h => by norm_num at h)
  unfold applyFrom
  split
  · next progress' hresult =>
    rw [hresult] at hsteps
    exact ⟨by rw [hclean.ledgerSaved]; rfl, hsteps.2⟩
  · next progress' code hresult =>
    rw [hresult] at hsteps
    exact absurd hsteps.1 (by simp)

theorem percentage_le {previous : ℚ} {steps : List RolloutStep} (h : StepsFrom previous steps) :
    ∀ step ∈ steps, step.percentage ≤ 100 := by
  induction steps generalizing previous with
  | nil => exact fun step hmem => nomatch hmem
  | cons first steps ih =>
    intro step hmem
    rcases List.mem_cons.mp hmem with rfl | hmem
    · exact h.2.1
    · exact ih h.2.2.2 step hmem

/-- A policy with one step makes no split, and one with more starts with a split. -/
theorem RolloutPolicy.Valid.splits_iff (hvalid : policy.Valid) :
    policy.steps.length = 1 ↔ ∀ step ∈ policy.steps, step.percentage = 100 := by
  obtain ⟨steps⟩ := policy
  obtain ⟨hne, hsteps⟩ := hvalid
  rcases steps with _ | ⟨first, _ | ⟨second, rest⟩⟩
  · exact absurd rfl hne
  · have hlast : first.percentage = 100 := hsteps.2.2.2
    simp [hlast]
  · have hless : first.percentage < 100 := lt_of_lt_of_le hsteps.2.2.2.1 hsteps.2.2.2.2.1
    simp [hless.ne]

/-- Without another version the first step of a policy with a split throws. -/
theorem applyFrom_stuck (hvalid : policy.Valid)
    (hsplits : ¬ ∀ step ∈ policy.steps, step.percentage = 100) {active : List Share}
    (hnone : ¬ OtherActive versionId active) (attempt : Attempt) (progress : Progress) :
    (applyFrom policy versionId active attempt progress).2 ≠ none := by
  obtain ⟨steps⟩ := policy
  obtain ⟨hne, hsteps⟩ := hvalid
  rcases steps with _ | ⟨first, rest⟩
  · exact absurd rfl hne
  · have hfirst : first.percentage ≠ 100 := by
      intro hfull
      rcases rest with _ | ⟨second, rest⟩
      · exact hsplits (by simp [hfull])
      · have hless := hsteps.2.2.2.1
        have hhigh := hsteps.2.2.2.2.1
        linarith
    have hthrows : deploymentVersions versionId first.percentage active = none := by
      rw [← Option.not_isSome_iff_eq_none, deploymentVersions_isSome_iff, not_or]
      exact ⟨hfirst, hnone⟩
    simp [applyFrom, applySteps, applyStep, hthrows]

/-- **A call succeeds** when nothing fails and there is no split to make, or a version to split with. -/
theorem succeeds_iff (hvalid : policy.Valid) {attempt : Attempt} (hclean : attempt.Clean)
    {progress : Progress} (hactive : progress.active ≠ []) :
    Succeeds policy versionId attempt progress ↔
      policy.steps.length = 1 ∨ OtherActive versionId progress.active := by
  have happly : apply policy versionId attempt progress =
      if policy.steps.any (fun step => step.percentage < 100) then
        applyFrom policy versionId progress.active attempt progress
      else applyFrom policy versionId [] attempt progress := by
    rw [apply, hclean.prepared, hclean.lookup, if_neg (by simp), if_neg hactive]
  rw [Succeeds, happly, hvalid.splits_iff]
  split
  · next hsplits =>
    obtain ⟨step, hstep, hless⟩ := List.any_eq_true.mp hsplits
    have hsome : ¬ ∀ step ∈ policy.steps, step.percentage = 100 := fun hall =>
      (decide_eq_true_eq.mp hless).ne (hall step hstep)
    constructor
    · intro hsucceeds
      by_contra hno
      rw [not_or] at hno
      exact absurd hsucceeds.1 (applyFrom_stuck hvalid hsome hno.2 attempt progress)
    · intro hcondition
      have hother := hcondition.resolve_left hsome
      exact applyFrom_clean hvalid hclean
        (fun step _ => deploymentVersions_isSome_iff.mpr (.inr hother)) progress
  · next hsplits =>
    have hall : ∀ step ∈ policy.steps, step.percentage = 100 := by
      intro step hstep
      by_contra hne
      have hless := lt_of_le_of_ne (percentage_le hvalid.2 step hstep) hne
      exact hsplits (List.any_eq_true.mpr ⟨step, hstep, decide_eq_true hless⟩)
    refine ⟨fun _ => .inl hall, fun _ => ?_⟩
    exact applyFrom_clean hvalid hclean
      (fun step hstep => deploymentVersions_isSome_iff.mpr (.inl (hall step hstep))) progress

/-- **Rollouts and retries**: from a known version at 100%, whatever fails in the calls, every
deployment that is asked for splits the traffic between the two versions; and a call in which nothing
fails succeeds exactly when the policy has one step or a version to split with is still active. -/
theorem rollout_retry_iff (hvalid : policy.Valid) (versionId knownGood : String)
    (attempts : List Attempt) :
    let progress := rollout policy versionId attempts ⟨[⟨knownGood, 100⟩], []⟩
    (∀ versions ∈ progress.requested, Split versionId knownGood versions) ∧
      ∀ attempt : Attempt, attempt.Clean →
        (∀ versions ∈ (apply policy versionId attempt progress).1.requested,
          Split versionId knownGood versions) ∧
        (Succeeds policy versionId attempt progress ↔
          policy.steps.length = 1 ∨ OtherActive versionId progress.active) := by
  intro progress
  have hstart : Kept versionId knownGood ⟨[⟨knownGood, 100⟩], []⟩ := by
    refine ⟨⟨by norm_num, fun share hshare => ?_⟩, fun versions h => absurd h List.not_mem_nil⟩
    cases List.mem_singleton.mp hshare
    exact ⟨by norm_num, .inr rfl⟩
  have hkept : Kept versionId knownGood progress := kept_rollout hvalid attempts hstart
  refine ⟨hkept.requested, fun attempt hclean => ⟨?_, ?_⟩⟩
  · exact (kept_apply hvalid attempt hkept).requested
  · exact succeeds_iff hvalid hclean hkept.active.ne_nil

namespace Sample

/-- Half of the traffic, and then all of it. -/
def halves : RolloutPolicy := ⟨[⟨50, 0⟩, ⟨100, 0⟩]⟩

/-- A call whose deployments all take effect, with the ledger's answer. -/
def attempt (ledgerSaved : Bool) : Attempt where
  prepared := true
  lookup := .answered
  answers := fun _ => .answered
  observer := some fun _ => .continues
  ledgerSaved := ledgerSaved

theorem valid : halves.Valid := by
  refine ⟨by decide, ?_⟩
  norm_num [halves, StepsFrom]

theorem clean : (attempt true).Clean :=
  ⟨rfl, rfl, fun _ => rfl, ⟨_, rfl, fun _ => rfl⟩, rfl⟩

end Sample

/-- A first call succeeds. -/
theorem rollout_retry_iff_sample :
    Succeeds Sample.halves "version:2" (Sample.attempt true) ⟨[⟨"version:1", 100⟩], []⟩ := by
  refine (((rollout_retry_iff Sample.valid "version:2" "version:1" []).2 _ Sample.clean).2).mpr ?_
  exact .inr ⟨_, List.mem_cons_self, by decide, by norm_num⟩

/-- **A retry after completion fails**: the ledger did not save a rollout that went through, and the
next call, in which nothing fails, finds no version to split with. -/
theorem retry_after_completion_fails :
    Sample.halves.Valid ∧ (Sample.attempt true).Clean ∧
      (rollout Sample.halves "version:2" [Sample.attempt false] ⟨[⟨"version:1", 100⟩], []⟩).active =
        [⟨"version:2", 100⟩] ∧
      ¬ Succeeds Sample.halves "version:2" (Sample.attempt true)
        (rollout Sample.halves "version:2" [Sample.attempt false] ⟨[⟨"version:1", 100⟩], []⟩) := by
  have hactive : (rollout Sample.halves "version:2" [Sample.attempt false]
      ⟨[⟨"version:1", 100⟩], []⟩).active = [⟨"version:2", 100⟩] := by
    decide +kernel
  refine ⟨Sample.valid, Sample.clean, hactive, fun h => ?_⟩
  have hcondition := (succeeds_iff Sample.valid Sample.clean (by rw [hactive]; simp)).mp h
  rw [hactive] at hcondition
  simp [OtherActive, Sample.halves] at hcondition

end Anyam.Provider.Rollout
