import Anyam.Delivery.PointerSwap
import Anyam.Delivery.PublicationSwap

/-!
# Restoring a stored Target

Both coordinators append to a Target's history under one rule, that a Release is not
repeated at its end, and both restore constructors read it under another, that it has
no Release twice.

- **`restorable_of_run`**: the Target a run leaves can be restored exactly when every
  Release the run completed was new to the history, or its last one.
- `rolled_back_target_is_lost`: going back to an earlier Release leaves a Target of
  either kind that its own constructor refuses.
-/

namespace Anyam.Delivery

open Anyam.Lib Anyam.Kernel

variable {services : ProfileServices} {workerDigest : String → WorkerTargetCapabilities → String}

/-! ## Worker Targets -/

/-- The input a stored Worker Target is restored with. -/
def WorkerTarget.restoreInput (target : WorkerTarget) (contractDigest : Option String) :
    CreateWorkerTargetInput where
  target := target.toTarget
  capabilities := target.capabilities
  currentReleaseId := target.currentReleaseId
  releaseHistory := target.releaseHistory
  contractDigest

/-- The Target is restored with its own pointer and history, under the contract digest
it was created with or the one it shows. -/
def WorkerTarget.Restorable (services : ProfileServices)
    (workerDigest : String → WorkerTargetCapabilities → String) (input : CreateWorkerTargetInput)
    (target : WorkerTarget) : Prop :=
  ∀ contractDigest, contractDigest = input.contractDigest ∨ contractDigest = some target.contractDigest →
    ∃ restored, createWorkerTarget services workerDigest (target.restoreInput contractDigest) =
        .ok restored ∧
      restored.currentReleaseId = target.currentReleaseId ∧
      restored.releaseHistory = target.releaseHistory

theorem createWorkerTarget_eq_ok {input : CreateWorkerTargetInput} {target : WorkerTarget} :
    createWorkerTarget services workerDigest input = .ok target ↔
      trim input.target.projectId ≠ "" ∧ trim input.target.adapterId ≠ "" ∧
      input.releaseHistory.Nodup ∧ (∀ id ∈ truthy input.currentReleaseId, id ∈ input.releaseHistory) ∧
      ∃ contractDigest, workerContractDigest services workerDigest input = .ok contractDigest ∧
        { input.target with
          currentReleaseId := input.currentReleaseId
          releaseHistory := input.releaseHistory
          capabilities := input.capabilities
          contractDigest } = target := by
  simp only [createWorkerTarget, requireNonEmpty, requireUniqueIds, bind_eq_ok, require_eq_ok,
    exists_unit, pure_eq_ok]

/-- The contract digest of a Target depends on its state in no other way than through
the digest function. -/
theorem exists_workerContractDigest {input input' : CreateWorkerTargetInput} {contractDigest : String}
    (h : workerContractDigest services workerDigest input = .ok contractDigest)
    (hid : input'.target.id = input.target.id)
    (hprofile : input'.target.deploymentProfile = input.target.deploymentProfile)
    (hdigest : input'.contractDigest = input.contractDigest ∨ input'.contractDigest ≠ none) :
    ∃ contractDigest', workerContractDigest services workerDigest input' = .ok contractDigest' := by
  unfold workerContractDigest at h ⊢
  cases hgiven : input'.contractDigest with
  | some digest => exact ⟨digest, rfl⟩
  | none =>
    have hnone : input.contractDigest = none := by
      rcases hdigest with hsame | hsome
      · rw [← hsame, hgiven]
      · exact absurd hgiven hsome
    simp only [hnone, bind_eq_ok, mapError_eq_ok, pure_eq_ok, targetDeploymentContractDigest,
      targetDeploymentProfile] at h
    simp only [bind_eq_ok, mapError_eq_ok, pure_eq_ok, targetDeploymentContractDigest,
      targetDeploymentProfile, hid, hprofile]
    obtain ⟨_, ⟨profile, hprofile, -⟩, -⟩ := h
    exact ⟨_, _, ⟨profile, hprofile, rfl⟩, rfl⟩

/-- A Target that differs from a created one in its pointer, its history and its state
is restored exactly when its history repeats nothing. -/
theorem WorkerTarget.restorable_iff {input : CreateWorkerTargetInput} {start target : WorkerTarget}
    (hcreated : createWorkerTarget services workerDigest input = .ok start)
    (hkept : target = { start with
      currentReleaseId := target.currentReleaseId
      releaseHistory := target.releaseHistory
      state := target.state })
    (hcurrent : ∀ id ∈ truthy target.currentReleaseId, id ∈ target.releaseHistory) :
    target.Restorable services workerDigest input ↔ target.releaseHistory.Nodup := by
  obtain ⟨hproject, hadapter, -, -, contractDigest, hdigest, rfl⟩ :=
    createWorkerTarget_eq_ok.mp hcreated
  have hid : target.id = input.target.id := by rw [hkept]
  have hprojectId : target.projectId = input.target.projectId := by rw [hkept]
  have hadapterId : target.adapterId = input.target.adapterId := by rw [hkept]
  have hprofile : target.deploymentProfile = input.target.deploymentProfile := by rw [hkept]
  constructor
  · intro hrestorable
    obtain ⟨restored, hrestored, -⟩ := hrestorable _ (.inr rfl)
    exact (createWorkerTarget_eq_ok.mp hrestored).2.2.1
  · intro hnodup given hgiven
    have hinput : (target.restoreInput given).contractDigest = input.contractDigest ∨
        (target.restoreInput given).contractDigest ≠ none :=
      hgiven.imp_right fun h => by simp [WorkerTarget.restoreInput, h]
    obtain ⟨digest, hcomputed⟩ := exists_workerContractDigest hdigest hid hprofile hinput
    refine ⟨_, createWorkerTarget_eq_ok.mpr
      ⟨?_, ?_, hnodup, hcurrent, digest, hcomputed, rfl⟩, rfl, rfl⟩
    · exact hprojectId ▸ hproject
    · exact hadapterId ▸ hadapter

namespace WorkerPromotionCoordinator

variable {s s' : WorkerPromotionCoordinator} {planDigest : MigrationPlanBody → String}
  {op : PromotionOperation} {tr : List PromotionTransition} {projectId : String}
  {target : WorkerTarget}

/-- The Release whose Promotion an operation completes. -/
def completing (s : WorkerPromotionCoordinator) (op : PromotionOperation) : Option String :=
  (s.verifying op).map fun v => v.2.release.id

/-- Every completed Promotion is of a Release new to the history, or its last one. -/
def CompletesNewOrLast (tr : List PromotionTransition) : Prop :=
  ∀ t ∈ tr, ∀ releaseId ∈ t.pre.completing t.op,
    NewOrLast t.pre.target.releaseHistory releaseId

/-- A health check answered with a healthy observation moves the pointer. -/
theorem movedTo_of_verifying (hs : s.Sound) {id : String} {release : ImmutableRelease}
    (h : s.verifying op = some (id, release)) :
    (step planDigest op s).2.target = s.target.movedTo release.release.id := by
  unfold verifying at h
  split at h
  · rename_i id' answer
    obtain ⟨release', hfiltered, hpair⟩ := Option.map_eq_some_iff.mp h
    obtain ⟨rfl, rfl⟩ := Prod.mk.inj hpair
    obtain ⟨hchecking, hverifies⟩ := Option.filter_eq_some_iff.mp hfiltered
    replace hverifies := of_decide_eq_true hverifies
    obtain ⟨value, hwaiting⟩ := checking_eq_some.mp hchecking
    have hawaits : (Stage.health value).Awaits answer := by
      obtain ⟨health, hobserved, -⟩ := hverifies
      cases answer with
      | health => exact trivial
      | preview => cases hobserved
      | deployment => cases hobserved
    obtain ⟨p, p', e, target, -, -, hanswered, hfiles⟩ :=
      @resume_answered _ planDigest hs _ _ _ _ hwaiting hawaits
    refine hfiles.target.trans ?_
    -- a verified health check has one outcome
    cases hanswered with
    | completed => rfl
    | refused hstage => rcases hstage with hstage | hstage <;> cases hstage
    | recovering _ hfails => exact absurd hverifies hfails
    | unrecovered _ hfails => exact absurd hverifies hfails
    | undecided _ hfails => exact absurd hverifies hfails
    | abandoned hstage => rcases hstage with hstage | ⟨_, hstage⟩ <;> cases hstage
  · cases h

/-- One operation records the Release it completes, and only that. -/
theorem Effect.history (h : Effect planDigest s op (step planDigest op s).2) (hs : s.Sound) :
    (step planDigest op s).2.target.releaseHistory =
      recordIn s.target.releaseHistory (s.completing op) := by
  unfold completing
  cases hverifying : s.verifying op with
  | some v => rw [movedTo_of_verifying hs hverifying]; rfl
  | none =>
    rcases h.keeps_or_completes hs with ⟨-, hkept⟩ | ⟨id, answer, release, value, rfl, hwaiting, hverifies, -⟩
    · exact hkept
    · rw [verifying_of_waiting hwaiting hverifies] at hverifying
      cases hverifying

/-- The current Release is in the history, and the Target is the one the run started
with in everything but its pointer, its history and its state. -/
theorem target_of_run (hrun : RunFrom planDigest projectId target Fresh tr s)
    (hcurrent : ∀ id ∈ truthy target.currentReleaseId, id ∈ target.releaseHistory) :
    s.target = { target with
        currentReleaseId := s.target.currentReleaseId
        releaseHistory := s.target.releaseHistory
        state := s.target.state } ∧
      ∀ id ∈ truthy s.target.currentReleaseId, id ∈ s.target.releaseHistory := by
  refine (sound_invariant (fun _ s => s.target = { target with
      currentReleaseId := s.target.currentReleaseId
      releaseHistory := s.target.releaseHistory
      state := s.target.state } ∧
    ∀ id ∈ truthy s.target.currentReleaseId, id ∈ s.target.releaseHistory)
    (fun _ _ => id) ⟨rfl, hcurrent⟩ ?_ hrun).2
  rintro tr s op hs - ⟨hkept, hmem⟩ heffect
  refine ⟨?_, fun id hid => ?_⟩
  · rw [heffect.target_eq, hkept]
  · rcases heffect.keeps_or_completes hs with ⟨hsame, hhistory⟩ | ⟨_, _, release, _, -, -, -, hmoved⟩
    · rw [hhistory]
      exact hmem id (hsame ▸ hid)
    · rw [hmoved] at hid ⊢
      obtain ⟨hsome, -⟩ := truthy_eq_some.mp hid
      cases hsome
      exact mem_appendUnlessLast _ _

/-- **A Worker Target can be restored** exactly when the run completed only Releases that
were new to its history, or its last one. -/
theorem restorable_iff_of_run {input : CreateWorkerTargetInput}
    (hcreated : createWorkerTarget services workerDigest input = .ok target)
    (hrun : RunFrom planDigest projectId target Fresh tr s) :
    s.target.Restorable services workerDigest input ↔ CompletesNewOrLast tr := by
  obtain ⟨-, -, hnodup, hcurrent, _, -, hfields⟩ := createWorkerTarget_eq_ok.mp hcreated
  obtain ⟨hkept, hmem⟩ := target_of_run hrun (by subst hfields; exact hcurrent)
  rw [WorkerTarget.restorable_iff hcreated hkept hmem,
    hrun.nodup_log_iff (fun s => s.target.releaseHistory) completing ?_]
  · exact and_iff_right (by subst hfields; exact hnodup)
  · intro t ht
    obtain ⟨hs, -, heffect⟩ := effect_of_mem (fun _ _ => id) hrun ht
    obtain ⟨tr₁, tr₂, rfl⟩ := List.append_of_mem ht
    obtain ⟨-, heq, -⟩ := hrun.split
    rw [heq] at heffect ⊢
    exact heffect.history hs

end WorkerPromotionCoordinator

/-! ## Release asset Targets -/

/-- The input a stored release asset Target is restored with. -/
def ReleaseAssetTarget.restoreInput (target : ReleaseAssetTarget) (contractDigest : Option String) :
    ReleaseAssetTargetInput where
  target := target.toTarget
  currentReleaseId := target.currentReleaseId
  currentArtifactId := target.currentArtifactId
  releaseHistory := target.releaseHistory
  publicationState := some target.publicationState
  contractDigest

/-- The Target is restored with its own pointers and history, under any contract digest. -/
def ReleaseAssetTarget.Restorable (services : ProfileServices) (target : ReleaseAssetTarget) : Prop :=
  ∀ contractDigest, ∃ restored,
    createReleaseAssetTarget services (target.restoreInput contractDigest) = .ok restored ∧
      restored.currentReleaseId = target.currentReleaseId ∧
      restored.currentArtifactId = target.currentArtifactId ∧
      restored.releaseHistory = target.releaseHistory

theorem createReleaseAssetTarget_eq_ok {input : ReleaseAssetTargetInput} {target : ReleaseAssetTarget} :
    createReleaseAssetTarget services input = .ok target ↔
      trim input.target.id ≠ "" ∧ trim input.target.projectId ≠ "" ∧
      trim input.target.adapterId ≠ "" ∧ input.releaseHistory.Nodup ∧
      (input.currentReleaseId = none ↔ input.currentArtifactId = none) ∧
      (∀ id ∈ truthy input.currentReleaseId, id ∈ input.releaseHistory) ∧
      ∃ profile, targetDeploymentProfile services input.target = .ok profile ∧
        ∃ contractDigest, assetContractDigest services input = .ok contractDigest ∧
          { input.target with
            deploymentProfile := some profile
            currentReleaseId := input.currentReleaseId
            currentArtifactId := input.currentArtifactId
            releaseHistory := input.releaseHistory
            publicationState := input.publicationState.getD .configured
            contractDigest } = target := by
  simp only [createReleaseAssetTarget, requireTargetField, bind_eq_ok, require_eq_ok, exists_unit,
    pure_eq_ok, mapError_eq_ok]

/-- What a created Target keeps for as long as a coordinator works on it. -/
structure ReleaseAssetTarget.Restores (target : ReleaseAssetTarget) : Prop where
  id : trim target.id ≠ ""
  projectId : trim target.projectId ≠ ""
  adapterId : trim target.adapterId ≠ ""
  profile : target.deploymentProfile ≠ none
  pair : target.currentReleaseId = none ↔ target.currentArtifactId = none
  current : ∀ id ∈ truthy target.currentReleaseId, id ∈ target.releaseHistory

theorem restores_of_created {input : ReleaseAssetTargetInput} {target : ReleaseAssetTarget}
    (hcreated : createReleaseAssetTarget services input = .ok target) :
    target.Restores ∧ target.releaseHistory.Nodup := by
  obtain ⟨hid, hproject, hadapter, hnodup, hpair, hcurrent, profile, -, contractDigest, -, rfl⟩ :=
    createReleaseAssetTarget_eq_ok.mp hcreated
  exact ⟨⟨hid, hproject, hadapter, nofun, hpair, hcurrent⟩, hnodup⟩

/-- A Target with a profile is restored exactly when its history repeats nothing. -/
theorem ReleaseAssetTarget.Restores.restorable_iff {target : ReleaseAssetTarget}
    (h : target.Restores) : target.Restorable services ↔ target.releaseHistory.Nodup := by
  constructor
  · intro hrestorable
    obtain ⟨restored, hrestored, -⟩ := hrestorable none
    exact (createReleaseAssetTarget_eq_ok.mp hrestored).2.2.2.1
  · intro hnodup given
    obtain ⟨profile, hprofile⟩ := Option.ne_none_iff_exists'.mp h.profile
    have hread : targetDeploymentProfile services target.toTarget = .ok profile := by
      unfold targetDeploymentProfile
      rw [hprofile]
    obtain ⟨digest, hdigest⟩ :
        ∃ digest, assetContractDigest services (target.restoreInput given) = .ok digest := by
      unfold assetContractDigest
      cases given with
      | some digest => exact ⟨digest, rfl⟩
      | none =>
        refine ⟨services.contractDigest { target.toTarget with deploymentProfile := some profile } profile, ?_⟩
        show defaultContractDigest services target.toTarget = .ok _
        simp only [defaultContractDigest, bind_eq_ok, pure_eq_ok, targetDeploymentContractDigest]
        exact ⟨profile, hread, profile, rfl, rfl⟩
    exact ⟨_, createReleaseAssetTarget_eq_ok.mpr ⟨h.id, h.projectId, h.adapterId, hnodup, h.pair,
      h.current, profile, hread, digest, hdigest, rfl⟩, rfl, rfl, rfl⟩

/-- The reported states of a Target decide nothing. -/
theorem ReleaseAssetTarget.Restores.withPublicationState {target : ReleaseAssetTarget}
    (h : target.Restores) (publicationState : TargetPublicationState) :
    ReleaseAssetTarget.Restores { target with publicationState } :=
  ⟨h.id, h.projectId, h.adapterId, h.profile, h.pair, h.current⟩

theorem ReleaseAssetTarget.Restores.published {target : ReleaseAssetTarget} (h : target.Restores)
    (releaseId artifactId : String) : (target.published releaseId artifactId).Restores where
  id := h.id
  projectId := h.projectId
  adapterId := h.adapterId
  profile := h.profile
  pair := ⟨nofun, nofun⟩
  current id hid := by
    obtain ⟨hsome, -⟩ := truthy_eq_some.mp hid
    exact Option.some.inj hsome ▸ mem_appendUnlessLast _ _

namespace ReleasePublicationCoordinator

variable {s s' : ReleasePublicationCoordinator} {op : PublicationOperation}
  {tr : List PublicationTransition} {projectId : String} {target : ReleaseAssetTarget}

/-- The Release whose publication an operation accepts. -/
def publishing (s : ReleasePublicationCoordinator) (op : PublicationOperation) : Option String :=
  (s.accepting op).map ReleasePublicationRecord.releaseId

/-- Every accepted publication is of a Release new to the history, or its last one. -/
def PublishesNewOrLast (tr : List PublicationTransition) : Prop :=
  ∀ t ∈ tr, ∀ releaseId ∈ t.pre.publishing t.op,
    NewOrLast t.pre.target.releaseHistory releaseId

/-- What accepts no publication changes nothing of the Target but its reported state. -/
theorem Effect.declined_target (h : Effect s op s') (hs : s.Sound) (hdeclined : s.accepting op = none) :
    ∃ publicationState, s'.target = { s.target with publicationState } := by
  have hstarts : ∀ {s s' : ReleasePublicationCoordinator} {p}, s.Starts p s' → s'.target = s.target := by
    rintro s s' p ⟨-, -, -, -, -, hfiles⟩
    exact hfiles.target
  cases h with
  | unchanged => exact ⟨_, rfl⟩
  | registered => exact ⟨_, rfl⟩
  | requested _ hrequest => exact ⟨_, hrequest.leaves.target⟩
  | started _ hrequest hstart => exact ⟨_, (hstarts hstart).trans hrequest.leaves.target⟩
  | taken _ hstart => exact ⟨_, hstarts hstart⟩
  | retried hretry hstart => exact ⟨_, (hstarts hstart).trans hretry.leaves.target⟩
  | retriedRegistered hretry => exact ⟨_, hretry.leaves.target⟩
  | answered hp hwaiting hsame hanswered hfiles =>
    cases hanswered with
    | refused publicationState => exact ⟨publicationState, hfiles.target⟩
    | @accepted value receipt _ hmatches hpublished =>
      have haccepts : s.Accepts (.answer _ (.returned (.succeeded value receipt))) _ _ s' :=
        accepts_of_files hs hp hwaiting hmatches hsame.toSameLineage hpublished hfiles
      rw [haccepts.accepting] at hdeclined
      cases hdeclined
  | cleaned => exact ⟨_, rfl⟩

/-- One operation records the Release it publishes, and only that. -/
theorem Effect.history (h : Effect s op (step op s).2) (hs : s.Sound) (hrestores : s.target.Restores) :
    (step op s).2.target.releaseHistory = recordIn s.target.releaseHistory (s.publishing op) ∧
      (step op s).2.target.Restores := by
  unfold publishing
  cases haccepting : s.accepting op with
  | some p =>
    obtain ⟨p', haccepts⟩ := accepts_of_accepting hs haccepting
    rw [haccepts.files.target]
    exact ⟨rfl, hrestores.published _ _⟩
  | none =>
    obtain ⟨publicationState, htarget⟩ := h.declined_target hs haccepting
    rw [htarget]
    exact ⟨rfl, hrestores.withPublicationState _⟩

theorem restores_of_run (hrun : RunFrom projectId target Fresh tr s) (hrestores : target.Restores) :
    s.target.Restores :=
  (sound_invariant (fun _ s => s.target.Restores) (fun _ _ => id) hrestores
    (fun _ _ _ hs _ hkept heffect => (heffect.history hs hkept).2) hrun).2

/-- **A release asset Target can be restored** exactly when the run published only
Releases that were new to its history, or its last one. -/
theorem restorable_iff_of_run {input : ReleaseAssetTargetInput}
    (hcreated : createReleaseAssetTarget services input = .ok target)
    (hrun : RunFrom projectId target Fresh tr s) :
    s.target.Restorable services ↔ PublishesNewOrLast tr := by
  obtain ⟨hrestores, hnodup⟩ := restores_of_created hcreated
  rw [(restores_of_run hrun hrestores).restorable_iff,
    hrun.nodup_log_iff (fun s => s.target.releaseHistory) publishing ?_]
  · exact and_iff_right hnodup
  · intro t ht
    obtain ⟨hs, -, heffect⟩ := effect_of_mem (fun _ _ => id) hrun ht
    obtain ⟨tr₁, tr₂, rfl⟩ := List.append_of_mem ht
    obtain ⟨hbefore, heq, -⟩ := hrun.split
    rw [heq] at heffect ⊢
    exact (heffect.history hs (restores_of_run hbefore hrestores)).1

end ReleasePublicationCoordinator

/-! ## Both coordinators -/

/-- **The Target a run leaves can be restored** exactly when every Release the run
completed was new to the history, or its last one. -/
theorem restorable_of_run {workerInput : CreateWorkerTargetInput} {workerTarget : WorkerTarget}
    {assetInput : ReleaseAssetTargetInput} {assetTarget : ReleaseAssetTarget}
    {planDigest : MigrationPlanBody → String} {workerProject assetProject : String}
    {promotions : List WorkerPromotionCoordinator.PromotionTransition}
    {publications : List ReleasePublicationCoordinator.PublicationTransition}
    {worker : WorkerPromotionCoordinator} {asset : ReleasePublicationCoordinator}
    (hworker : createWorkerTarget services workerDigest workerInput = .ok workerTarget)
    (hasset : createReleaseAssetTarget services assetInput = .ok assetTarget)
    (hpromotions : WorkerPromotionCoordinator.RunFrom planDigest workerProject workerTarget
      WorkerPromotionCoordinator.Fresh promotions worker)
    (hpublications : ReleasePublicationCoordinator.RunFrom assetProject assetTarget
      ReleasePublicationCoordinator.Fresh publications asset) :
    (worker.target.Restorable services workerDigest workerInput ↔
        WorkerPromotionCoordinator.CompletesNewOrLast promotions) ∧
      (asset.target.Restorable services ↔
        ReleasePublicationCoordinator.PublishesNewOrLast publications) :=
  ⟨WorkerPromotionCoordinator.restorable_iff_of_run hworker hpromotions,
    ReleasePublicationCoordinator.restorable_iff_of_run hasset hpublications⟩

namespace Sample

def profileServices : ProfileServices where
  scanCredentialMaterial := fun _ _ => none
  profileDigest := fun _ => "profile"
  contractDigest := fun _ _ => "contract"

def workerInput : CreateWorkerTargetInput :=
  { target := target.toTarget, capabilities := target.capabilities, contractDigest := some "contract" }

def assetInput : ReleaseAssetTargetInput :=
  { target := { assetTarget.toTarget with deploymentProfile := some profile } }

/-- The sample release asset Target, as its constructor leaves it. -/
def createdAssetTarget : ReleaseAssetTarget := { assetTarget with deploymentProfile := some profile }

/-- The trace and final state of a list of operations on the created Target. -/
def createdRan (ops : List PublicationOperation) :
    List ReleasePublicationCoordinator.PublicationTransition × ReleasePublicationCoordinator :=
  exec ReleasePublicationCoordinator.step (.initial "project" createdAssetTarget) ops

/-- Promote two Releases in turn, and roll back to the first. -/
def rolledBack : List PromotionOperation :=
  promotedInTurn ++ [.rollbackToPrevious "3" actor "3", previewed "3" "a", deployed "3" "a",
    observed "3" "a" .healthy]

/-- Publish two packages in turn, and the first one again. -/
def republished : List PublicationOperation :=
  publishedInTurn ++ [publish "a" "3", echoed "a" "3"]

end Sample

theorem restorable_of_run_sample :
    ((Sample.ran Sample.promotedInTurn).2.target.Restorable Sample.profileServices (fun _ _ => "worker")
          Sample.workerInput ↔
        WorkerPromotionCoordinator.CompletesNewOrLast (Sample.ran Sample.promotedInTurn).1) ∧
      ((Sample.createdRan Sample.publishedInTurn).2.target.Restorable Sample.profileServices ↔
        ReleasePublicationCoordinator.PublishesNewOrLast
          (Sample.createdRan Sample.publishedInTurn).1) :=
  restorable_of_run (by decide +kernel)
    (show createReleaseAssetTarget Sample.profileServices Sample.assetInput =
      .ok Sample.createdAssetTarget by decide +kernel)
    (run_exec (by decide +kernel)) (run_exec (by decide +kernel))

/-- Going back to the first Release leaves both Targets with a history that their
constructors refuse. -/
theorem rolled_back_target_is_lost :
    (createWorkerTarget Sample.profileServices (fun _ _ => "worker") Sample.workerInput =
        .ok Sample.target ∧
      Admits (WorkerPromotionCoordinator.step Sample.planDigest) WorkerPromotionCoordinator.Fresh
        (.initial "project" Sample.target) Sample.rolledBack ∧
      ¬ (Sample.ran Sample.rolledBack).2.target.Restorable Sample.profileServices
        (fun _ _ => "worker") Sample.workerInput) ∧
    createReleaseAssetTarget Sample.profileServices Sample.assetInput =
        .ok Sample.createdAssetTarget ∧
      Admits ReleasePublicationCoordinator.step ReleasePublicationCoordinator.Fresh
        (.initial "project" Sample.createdAssetTarget) Sample.republished ∧
      ¬ (Sample.createdRan Sample.republished).2.target.Restorable Sample.profileServices := by
  refine ⟨⟨by decide +kernel, by decide +kernel, fun hrestorable => ?_⟩,
    by decide +kernel, by decide +kernel, fun hrestorable => ?_⟩
  · obtain ⟨restored, hrestored, -⟩ := hrestorable _ (.inr rfl)
    exact absurd (createWorkerTarget_eq_ok.mp hrestored).2.2.1 (by decide +kernel)
  · obtain ⟨restored, hrestored, -⟩ := hrestorable none
    exact absurd (createReleaseAssetTarget_eq_ok.mp hrestored).2.2.2.1 (by decide +kernel)

end Anyam.Delivery
