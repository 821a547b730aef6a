import Anyam.Authority.System

/-!
# Sealing a Release

`sealVerifiedRelease` of `delivery/promotion.ts`: the exact Release, Artifacts and Evidence that a
Target may consume, and the checks before they are sealed. The digest of what is sealed is given.

- `Acceptable`: what a Release is sealed for. It reads the Evidence as a set, and the order of the
  Artifacts only where the Release names the digests in an order.
- **`seal_order_free`**: what is sealed is acceptable. Where the records of a required key are bound
  alike, what is acceptable is sealed, in every order.
-/

namespace Anyam.Authority

open Anyam.Lib Anyam.Kernel Anyam.Delivery

/-! ## What is sealed -/

/-- A Release that is not sealed yet. One of an older protocol names no input set and no Migration
Plan. -/
structure UnsealedRelease where
  id : String
  projectRevisionId : String
  artifactIds : List String
  evidenceIds : List String
  configurationDigests : List String
  stateAssumptions : List String
  policyVersion : String
  status : ReleaseStatus
  name : Option String := none
  changeRevisionId : Option String := none
  provenanceDigest : Option String := none
  inputSet : Option ReleaseInputSet := none
  migrationPlan : Option MigrationPlan := none
  receipt : String
deriving DecidableEq, Repr

/-- The Release with the input set and the Migration Plan it is sealed with. -/
def UnsealedRelease.sealed (r : UnsealedRelease) (inputSet : ReleaseInputSet)
    (migrationPlan : MigrationPlan) : Release where
  id := r.id
  projectRevisionId := r.projectRevisionId
  artifactIds := r.artifactIds
  evidenceIds := r.evidenceIds
  configurationDigests := r.configurationDigests
  stateAssumptions := r.stateAssumptions
  policyVersion := r.policyVersion
  status := r.status
  name := r.name
  changeRevisionId := r.changeRevisionId
  provenanceDigest := r.provenanceDigest
  inputSet := inputSet
  migrationPlan := migrationPlan
  receipt := r.receipt

/-- `contractDigest` is the one of a Worker Target. -/
structure SealInput where
  projectId : String
  release : UnsealedRelease
  artifacts : List Artifact
  evidence : List Evidence
  target : Kernel.Target
  contractDigest : Option String := none
deriving DecidableEq, Repr

/-- What the digest of a sealed Release is taken over. -/
structure SealClaims where
  projectId : String
  targetId : String
  targetContractDigest : String
  release : Release
  artifacts : List Artifact
  evidence : List Evidence
deriving DecidableEq, Repr

structure VerifiedRelease where
  id : String
  projectId : String
  release : Release
  artifacts : List Artifact
  evidence : List Evidence
  releaseDigest : String
  receipt : String
deriving DecidableEq, Repr

inductive SealError
  | delivery (error : DeliveryError)
  | releaseInput (error : ReleaseInputError)
deriving DecidableEq, Repr

structure SealServices extends AuthorityServices where
  sealDigest : SealClaims → String

/-! ## The checks -/

def invalidRelease (message affectedObject recoveryAction receipt : String) : SealError :=
  .delivery (.promotion { code := .invalidRelease, message, affectedObject, recoveryAction, receipt })

def statusText : ReleaseStatus → String
  | .draft => "draft"
  | .ready => "ready"
  | .promoted => "promoted"
  | .recalled => "recalled"

section

variable (services : SealServices) (input : SealInput)

/-- The checks of the Release itself, and of the ids on both sides. -/
def checkRelease : Except SealError Unit := do
  let release := input.release
  (requireNonEmpty input.projectId "projectId" release.id).mapError .delivery
  (requireNonEmpty release.id "release.id" release.id).mapError .delivery
  (requireNonEmpty release.projectRevisionId "release.projectRevisionId" release.id).mapError
    .delivery
  (requireNonEmpty release.policyVersion "release.policyVersion" release.id).mapError .delivery
  require (release.configurationDigests ≠ []) (invalidRelease
    s!"Release {release.id} has no configuration digest." release.id
    "bind the exact Project configuration digest during Release assembly"
    s!"release={release.id}; configurationDigests=0")
  let status := statusText release.status
  require (release.status = .ready) (invalidRelease
    s!"Release {release.id} is {status}; only a ready Release can be promoted." release.id
    "run the required Actions and Verifiers, then create a ready Release"
    s!"release={release.id}; status={status}; required=ready")
  (requireUniqueIds release.artifactIds "release.artifactIds" release.id).mapError .delivery
  (requireUniqueIds release.evidenceIds "release.evidenceIds" release.id).mapError .delivery
  (requireUniqueIds (input.artifacts.map fun artifact => artifact.id) "artifacts"
    release.id).mapError .delivery
  (requireUniqueIds (input.evidence.map Evidence.id) "evidence" release.id).mapError .delivery
  require (release.artifactIds ≠ []) (invalidRelease
    s!"Release {release.id} has no Artifacts for Target {input.target.id}." release.id
    "build and attach at least one Target-compatible Artifact"
    s!"release={release.id}; artifacts=0; target={input.target.id}")

/-- `artifactById`. -/
def artifactById : OrderedMap String Artifact :=
  OrderedMap.ofList (input.artifacts.map fun artifact => (artifact.id, artifact))

/-- `evidenceById`. -/
def evidenceById : OrderedMap String Evidence :=
  OrderedMap.ofList (input.evidence.map fun record => (record.id, record))

def checkArtifact (artifactId : String) : Except SealError Unit := do
  let release := input.release
  let artifact ← orThrow ((artifactById input).get? artifactId) (invalidRelease
    s!"Release {release.id} references missing Artifact {artifactId}." release.id
    "attach the complete Artifact set produced by the Release assembly"
    s!"release={release.id}; missingArtifact={artifactId}")
  require (artifact.projectRevisionId = release.projectRevisionId) (invalidRelease
    s!"Artifact {artifact.id} belongs to {artifact.projectRevisionId}, not Release revision {release.projectRevisionId}."
    artifact.id "rebuild the Release from one exact Project Revision"
    s!"artifact={artifact.id}; artifactRevision={artifact.projectRevisionId}; releaseRevision={release.projectRevisionId}")
  (requireNonEmpty artifact.digest "artifact.digest" artifact.id).mapError .delivery
  let accepted := joined input.target.acceptedArtifactTypes
  require (artifact.type ∈ input.target.acceptedArtifactTypes) (invalidRelease
    s!"Target {input.target.id} does not accept Artifact type {artifact.type}." artifact.id
    "declare an Artifact type accepted by the Target or select another Target"
    s!"target={input.target.id}; accepted={accepted}; artifactType={artifact.type}")

def checkEvidence (evidenceId : String) : Except SealError Unit := do
  let release := input.release
  let record ← orThrow ((evidenceById input).get? evidenceId) (invalidRelease
    s!"Release {release.id} references missing Evidence {evidenceId}." release.id
    "attach the Evidence records produced for this Release assembly"
    s!"release={release.id}; missingEvidence={evidenceId}")
  require (record.projectRevisionId = release.projectRevisionId ∧ record.outcome = .passed)
    (invalidRelease
      s!"Evidence {record.id} is not passed Evidence for Release revision {release.projectRevisionId}."
      record.id "rerun the stale or failed Verifier against the exact Release revision"
      s!"evidence={record.id}; outcome={record.outcome}; evidenceRevision={record.projectRevisionId}; releaseRevision={release.projectRevisionId}")

/-- `evidence.find((candidate) => candidate.key === key)`. -/
def firstRecord (key : String) : Option Evidence :=
  input.evidence.find? fun candidate => candidate.key = key

/-- The check of a key that the Target requires. -/
def checkTargetKey (requiredKey : String) : Except SealError Unit := do
  let release := input.release
  let record := firstRecord input requiredKey
  let present := if record.isSome then "true" else "false"
  let bound := if record.bind Evidence.targetId = some input.target.id then "true" else "false"
  require (∃ found ∈ record, found.outcome = .passed ∧
      found.projectRevisionId = release.projectRevisionId ∧
      found.targetId = some input.target.id) (invalidRelease
    s!"Target {input.target.id} requires passed Evidence {requiredKey} bound to this Release revision."
    input.target.id
    s!"produce Evidence key {requiredKey} with targetId={input.target.id} for the exact Project Revision"
    s!"target={input.target.id}; requiredEvidence={requiredKey}; present={present}; targetBound={bound}")

/-- `release.inputSet`, checked, or the derived one. -/
def sealedInputSet : Except SealError ReleaseInputSet :=
  match input.release.inputSet with
  | none => (deriveReleaseInputSet services.toAuthorityServices input.release.configurationDigests
      input.artifacts input.evidence).mapError .releaseInput
  | some inputSet => do
    (assertReleaseInputSetMatches services.toAuthorityServices inputSet
      input.release.configurationDigests input.artifacts input.evidence).mapError .releaseInput
    return inputSet

def migrationError (error : MigrationPlanError) : SealError := .delivery (.migration error)

/-- `createMigrationPlan(release.migrationPlan ?? defaultMigrationPlan())`. -/
def sealedMigrationPlan : Except SealError MigrationPlan := do
  let migrationPlan ← match input.release.migrationPlan with
    | some plan => .ok plan
    | none => (defaultMigrationPlan services.planDigest).mapError migrationError
  (createMigrationPlan services.planDigest (.ofPlan migrationPlan)).mapError migrationError

def checkMigrationArtifact (migrationArtifactId : String) : Except SealError Unit := do
  let release := input.release
  let declared := if migrationArtifactId ∈ release.artifactIds then "true" else "false"
  let provided := if ((artifactById input).get? migrationArtifactId).isSome then "true" else "false"
  require (((artifactById input).get? migrationArtifactId).isSome ∧
      migrationArtifactId ∈ release.artifactIds) (invalidRelease
    s!"Migration Plan references Artifact {migrationArtifactId}, but that Artifact is not part of Release {release.id}."
    release.id "attach the exact migration Artifact to the Release before Promotion"
    s!"release={release.id}; migrationArtifact={migrationArtifactId}; declared={declared}; provided={provided}")

/-- The check of a key that the Migration Plan requires. -/
def checkMigrationKey (requiredKey : String) : Except SealError Unit := do
  let release := input.release
  let record := firstRecord input requiredKey
  let present := if record.isSome then "true" else "false"
  let declared := if (∃ found ∈ record, found.id ∈ release.evidenceIds) then "true" else "false"
  let outcome := (record.map fun found => toString found.outcome).getD "missing"
  require (∃ found ∈ record, found.id ∈ release.evidenceIds ∧ found.outcome = .passed ∧
      found.projectRevisionId = release.projectRevisionId ∧
      (found.targetId = none ∨ found.targetId = some input.target.id)) (invalidRelease
    s!"Migration Plan requires passed Evidence {requiredKey} for Target {input.target.id}."
    release.id
    "produce the required migration Evidence for the exact Project Revision and Target before Promotion"
    s!"release={release.id}; migrationEvidence={requiredKey}; present={present}; declared={declared}; outcome={outcome}")

/-- `assertMigrationPlanSafeForTarget`. -/
def assertMigrationPlanSafeForTarget (planDigest : MigrationPlanBody → String)
    (plan : MigrationPlan) (environment : TargetEnvironment) (dataClass : TargetDataClass) :
    Except MigrationPlanError Unit := do
  let normalized ← createMigrationPlan planDigest (.ofPlan plan)
  if ¬ (environment = .production ∨ environment = .custom ∨ dataClass = .production ∨
      dataClass = .productionShaped ∨ dataClass = .custom) then
    return ()
  require (¬ (normalized.compatibility = .unknown ∨ normalized.compatibility = .incompatible)) {
    code := .incompatible
    message := s!"Production-sensitive Target cannot consume migration compatibility {normalized.compatibility}."
    recoveryAction := "prove compatibility with the required migration Verifiers or keep the Release out of production-sensitive Targets"
    receipt := s!"migration=production-blocked; compatibility={normalized.compatibility}; planDigest={normalized.planDigest}" }
  require (normalized.rollback ≠ .blocked) {
    code := .incompatible
    message := "Production-sensitive Target cannot consume a Release with blocked data rollback behavior."
    recoveryAction := "provide a manual data recovery runbook or select a Release with a supported rollback mode"
    receipt := s!"migration=production-blocked; rollback=blocked; planDigest={normalized.planDigest}" }

/-- The digest a Worker Target carries, or the one of the Target's contract. -/
def sealedContractDigest : Except SealError String :=
  match input.contractDigest with
  | some digest => .ok digest
  | none => (targetDeploymentContractDigest services.profile input.target).mapError
      fun error => .delivery (.profile error)

/-! ## The seal -/

def sealVerifiedRelease (uuid : String) : Except SealError VerifiedRelease := do
  let release := input.release
  checkRelease input
  forM release.artifactIds (checkArtifact input)
  let providedArtifacts := (artifactById input).keys.length
  require (providedArtifacts = release.artifactIds.length) (invalidRelease
    s!"Release {release.id} did not provide exactly its declared Artifacts." release.id
    "pass the complete, non-duplicated Artifact set referenced by the Release"
    s!"declaredArtifacts={release.artifactIds.length}; providedArtifacts={providedArtifacts}")
  forM release.evidenceIds (checkEvidence input)
  forM input.target.requiredEvidenceKeys (checkTargetKey input)
  let providedEvidence := (evidenceById input).keys.length
  require (providedEvidence = release.evidenceIds.length) (invalidRelease
    s!"Release {release.id} did not provide exactly its declared Evidence." release.id
    "pass the complete, non-duplicated Evidence set referenced by the Release"
    s!"declaredEvidence={release.evidenceIds.length}; providedEvidence={providedEvidence}")
  let inputSet ← sealedInputSet services input
  let migrationPlan ← sealedMigrationPlan services input
  forM migrationPlan.migrationArtifactIds (checkMigrationArtifact input)
  forM migrationPlan.requiredEvidenceKeys (checkMigrationKey input)
  let profile ← (targetDeploymentProfile services.profile input.target).mapError
    fun error => .delivery (.profile error)
  (assertMigrationPlanSafeForTarget services.planDigest migrationPlan profile.environment
    profile.dataClass).mapError migrationError
  let targetContractDigest ← sealedContractDigest services input
  let releaseDigest := services.sealDigest {
    projectId := input.projectId
    targetId := input.target.id
    targetContractDigest
    release := release.sealed inputSet migrationPlan
    artifacts := input.artifacts
    evidence := input.evidence }
  return {
    id := opaqueId "verified-release" uuid
    projectId := input.projectId
    release := release.sealed inputSet migrationPlan
    artifacts := input.artifacts
    evidence := input.evidence
    releaseDigest
    receipt := s!"release={release.id}; projectRevision={release.projectRevisionId}; artifacts={input.artifacts.length}; evidence={input.evidence.length}; digest={releaseDigest}" }

/-! ## What may be sealed -/

/-- What is asked of the Release itself. -/
structure ReleaseFits : Prop where
  project : trim input.projectId ≠ ""
  id : trim input.release.id ≠ ""
  revision : trim input.release.projectRevisionId ≠ ""
  policy : trim input.release.policyVersion ≠ ""
  configuration : input.release.configurationDigests ≠ []
  status : input.release.status = .ready
  artifactIds : input.release.artifactIds.Nodup
  evidenceIds : input.release.evidenceIds.Nodup
  artifacts : input.release.artifactIds ≠ []

/-- What is asked of an Artifact. -/
structure ArtifactFits (artifact : Artifact) : Prop where
  revision : artifact.projectRevisionId = input.release.projectRevisionId
  digest : trim artifact.digest ≠ ""
  type : artifact.type ∈ input.target.acceptedArtifactTypes

/-- What is asked of an Evidence record. -/
structure EvidenceFits (record : Evidence) : Prop where
  revision : record.projectRevisionId = input.release.projectRevisionId
  outcome : record.outcome = .passed

/-- The input closure is derived, and the Release names no other one. -/
def ClosureFits : Prop :=
  ∃ inputSet, deriveReleaseInputSet services.toAuthorityServices
      input.release.configurationDigests input.artifacts input.evidence = .ok inputSet ∧
    ∀ named ∈ input.release.inputSet, named = inputSet

/-- The Migration Plan is made of Artifacts of the Release and safe for the Target. -/
structure PlanFits (plan : MigrationPlan) : Prop where
  normalized : sealedMigrationPlan services input = .ok plan
  artifacts : ∀ id ∈ plan.migrationArtifactIds, id ∈ input.release.artifactIds
  safe : ∃ profile, targetDeploymentProfile services.profile input.target = .ok profile ∧
    (assertMigrationPlanSafeForTarget services.planDigest plan profile.environment
      profile.dataClass).isOk = true

/-- The record is bound to the Target. -/
def BoundTo (record : Evidence) : Prop := record.targetId = some input.target.id

/-- The record is bound to the Target or to none. -/
def NotElsewhere (record : Evidence) : Prop :=
  record.targetId = none ∨ record.targetId = some input.target.id

/-- The Release may be sealed, where `satisfied` says whether the Evidence of a key is bound as the
key requires. -/
structure Sealable (satisfied : String → (Evidence → Prop) → Prop) : Prop where
  release : ReleaseFits input
  declaredArtifacts : (input.artifacts.map fun artifact => artifact.id).Perm
    input.release.artifactIds
  declaredEvidence : (input.evidence.map Evidence.id).Perm input.release.evidenceIds
  artifacts : ∀ artifact ∈ input.artifacts, ArtifactFits input artifact
  evidence : ∀ record ∈ input.evidence, EvidenceFits input record
  targetKeys : ∀ key ∈ input.target.requiredEvidenceKeys, satisfied key (BoundTo input)
  closure : ClosureFits services input
  plan : ∃ plan, PlanFits services input plan ∧
    ∀ key ∈ plan.requiredEvidenceKeys, satisfied key (NotElsewhere input)

/-- The first record of the key is bound as required. -/
def FirstBound (key : String) (bound : Evidence → Prop) : Prop :=
  ∃ record ∈ firstRecord input key, bound record

/-- Some record of the key is bound as required. -/
def SomeBound (key : String) (bound : Evidence → Prop) : Prop :=
  ∃ record ∈ input.evidence, record.key = key ∧ bound record

/-- **What a Release is sealed for**, whatever the order of the lists. -/
def Acceptable : Prop := Sealable services input (SomeBound input)

/-- All records of the key are bound as required, or none is. -/
def Unanimous (key : String) (bound : Evidence → Prop) : Prop :=
  (∀ record ∈ input.evidence, record.key = key → bound record) ∨
    ∀ record ∈ input.evidence, record.key = key → ¬ bound record

/-- The records of every required key are bound alike. -/
structure KeysUnanimous : Prop where
  target : ∀ key ∈ input.target.requiredEvidenceKeys, Unanimous input key (BoundTo input)
  migration : ∀ plan, sealedMigrationPlan services input = .ok plan →
    ∀ key ∈ plan.requiredEvidenceKeys, Unanimous input key (NotElsewhere input)

/-! ## The checks, one by one -/

variable {services : SealServices} {input : SealInput}

@[simp] theorem requireNonEmpty_eq_ok {value field affectedObject : String} {u : Unit} :
    requireNonEmpty value field affectedObject = .ok u ↔ trim value ≠ "" := by
  simp only [requireNonEmpty, require_eq_ok]

@[simp] theorem requireUniqueIds_eq_ok {ids : List String} {field affectedObject : String} {u : Unit} :
    requireUniqueIds ids field affectedObject = .ok u ↔ ids.Nodup := by
  simp only [requireUniqueIds, require_eq_ok]

theorem checkRelease_ok : checkRelease input = .ok () ↔
    ReleaseFits input ∧ (input.artifacts.map fun artifact => artifact.id).Nodup ∧
      (input.evidence.map Evidence.id).Nodup := by
  simp only [checkRelease, bind_eq_ok, mapError_eq_ok, require_eq_ok, requireNonEmpty_eq_ok,
    requireUniqueIds_eq_ok, exists_unit]
  constructor
  · rintro ⟨hproject, hid, hrevision, hpolicy, hconfiguration, hstatus, hartifactIds, hevidenceIds,
      hartifacts, hevidence, hsome⟩
    exact ⟨⟨hproject, hid, hrevision, hpolicy, hconfiguration, hstatus, hartifactIds, hevidenceIds,
      hsome⟩, hartifacts, hevidence⟩
  · rintro ⟨h, hartifacts, hevidence⟩
    exact ⟨h.project, h.id, h.revision, h.policy, h.configuration, h.status, h.artifactIds,
      h.evidenceIds, hartifacts, hevidence, h.artifacts⟩

theorem checkArtifact_ok {artifactId : String} : checkArtifact input artifactId = .ok () ↔
    ∃ artifact, (artifactById input).get? artifactId = some artifact ∧
      ArtifactFits input artifact := by
  simp only [checkArtifact, bind_eq_ok, mapError_eq_ok, orThrow_eq_ok, require_eq_ok,
    requireNonEmpty_eq_ok, exists_unit]
  constructor
  · rintro ⟨artifact, hget, hrevision, hdigest, htype⟩
    exact ⟨artifact, hget, hrevision, hdigest, htype⟩
  · rintro ⟨artifact, hget, hfits⟩
    exact ⟨artifact, hget, hfits.revision, hfits.digest, hfits.type⟩

theorem checkEvidence_ok {evidenceId : String} : checkEvidence input evidenceId = .ok () ↔
    ∃ record, (evidenceById input).get? evidenceId = some record ∧ EvidenceFits input record := by
  simp only [checkEvidence, bind_eq_ok, orThrow_eq_ok, require_eq_ok]
  constructor
  · rintro ⟨record, hget, hrevision, houtcome⟩
    exact ⟨record, hget, hrevision, houtcome⟩
  · rintro ⟨record, hget, hfits⟩
    exact ⟨record, hget, hfits.revision, hfits.outcome⟩

/-- Of Evidence that all passed, a Target key asks for the Target only. -/
theorem checkTargetKey_ok (hfits : ∀ record ∈ input.evidence, EvidenceFits input record)
    {key : String} : checkTargetKey input key = .ok () ↔ FirstBound input key (BoundTo input) := by
  simp only [checkTargetKey, require_eq_ok]
  constructor
  · rintro ⟨record, hfirst, -, -, hbound⟩
    exact ⟨record, hfirst, hbound⟩
  · rintro ⟨record, hfirst, hbound⟩
    have hrecord := hfits record (List.mem_of_find?_eq_some hfirst)
    exact ⟨record, hfirst, hrecord.outcome, hrecord.revision, hbound⟩

theorem checkMigrationKey_ok (hfits : ∀ record ∈ input.evidence, EvidenceFits input record)
    (hdeclared : (input.evidence.map Evidence.id).Perm input.release.evidenceIds) {key : String} :
    checkMigrationKey input key = .ok () ↔ FirstBound input key (NotElsewhere input) := by
  simp only [checkMigrationKey, require_eq_ok]
  constructor
  · rintro ⟨record, hfirst, -, -, -, hbound⟩
    exact ⟨record, hfirst, hbound⟩
  · rintro ⟨record, hfirst, hbound⟩
    have hmem := List.mem_of_find?_eq_some hfirst
    have hrecord := hfits record hmem
    refine ⟨record, hfirst, ?_, hrecord.outcome, hrecord.revision, hbound⟩
    exact hdeclared.subset (List.mem_map_of_mem hmem)

/-! ## What is declared is what is passed -/

section Declared

variable {α : Type} {key : α → String} {l : List α} {ids : List String}

theorem get?_byKey (hnodup : (l.map key).Nodup) {id : String} {a : α} :
    (OrderedMap.ofList (l.map fun a => (key a, a))).get? id = some a ↔ a ∈ l ∧ key a = id := by
  rw [OrderedMap.get?_ofList_iff (by simpa [Function.comp_def] using hnodup)]
  simp only [List.mem_map, Prod.mk.injEq]
  constructor
  · rintro ⟨b, hb, hkey, rfl⟩
    exact ⟨hb, hkey⟩
  · rintro ⟨ha, hkey⟩
    exact ⟨a, ha, hkey, rfl⟩

theorem length_keys_byKey (hnodup : (l.map key).Nodup) :
    (OrderedMap.ofList (l.map fun a => (key a, a))).keys.length = l.length := by
  have hentries : (OrderedMap.ofList (l.map fun a => (key a, a))).entries =
      l.map fun a => (key a, a) :=
    OrderedMap.entries_foldl_set (m := OrderedMap.empty)
      (by simpa [OrderedMap.empty, Function.comp_def] using hnodup)
  simp [OrderedMap.keys, hentries]

/-- Every declared record is passed and fits, and no more are passed than declared. -/
theorem declared_iff {fits : α → Prop} (hids : ids.Nodup) (hnodup : (l.map key).Nodup) :
    ((∀ id ∈ ids, ∃ a, (OrderedMap.ofList (l.map fun a => (key a, a))).get? id = some a ∧ fits a) ∧
      (OrderedMap.ofList (l.map fun a => (key a, a))).keys.length = ids.length) ↔
      (l.map key).Perm ids ∧ ∀ a ∈ l, fits a := by
  rw [length_keys_byKey hnodup]
  simp only [get?_byKey hnodup]
  constructor
  · rintro ⟨hdeclared, hlength⟩
    have hsubset : ids ⊆ l.map key := by
      intro id hid
      obtain ⟨a, ⟨ha, hkey⟩, -⟩ := hdeclared id hid
      exact hkey ▸ List.mem_map_of_mem ha
    have hperm : ids.Perm (l.map key) :=
      (List.subperm_of_subset hids hsubset).perm_of_length_le (by simp [hlength])
    refine ⟨hperm.symm, fun a ha => ?_⟩
    obtain ⟨b, ⟨hb, hkey⟩, hfits⟩ := hdeclared (key a) (hperm.mem_iff.mpr (List.mem_map_of_mem ha))
    exact List.inj_on_of_nodup_map hnodup hb ha hkey ▸ hfits
  · rintro ⟨hperm, hfits⟩
    refine ⟨fun id hid => ?_, by simpa using hperm.length_eq⟩
    obtain ⟨a, ha, hkey⟩ := List.mem_map.mp (hperm.mem_iff.mpr hid)
    exact ⟨a, ⟨ha, hkey⟩, hfits a ha⟩

end Declared

/-! ## The seal is what may be sealed -/

/-- The input set that is sealed is the derived one. -/
theorem sealedInputSet_ok {inputSet : ReleaseInputSet} :
    sealedInputSet services input = .ok inputSet ↔
      deriveReleaseInputSet services.toAuthorityServices input.release.configurationDigests
          input.artifacts input.evidence = .ok inputSet ∧
        ∀ named ∈ input.release.inputSet, named = inputSet := by
  unfold sealedInputSet
  cases hnamed : input.release.inputSet with
  | none => simp [mapError_eq_ok]
  | some named =>
    simp only [assertReleaseInputSetMatches, bind_eq_ok, mapError_eq_ok, require_eq_ok, exists_unit,
      pure_eq_ok, Option.mem_def, Option.some.injEq, forall_eq']
    constructor
    · rintro ⟨⟨expected, hderived, hdigest, hbody⟩, rfl⟩
      have hsame : named = expected := by
        cases named
        cases expected
        cases hdigest
        cases hbody
        rfl
      exact ⟨hsame ▸ hderived, rfl⟩
    · rintro ⟨hderived, rfl⟩
      exact ⟨⟨named, hderived, rfl, rfl⟩, rfl⟩

theorem closureFits_iff :
    (∃ inputSet, sealedInputSet services input = .ok inputSet) ↔ ClosureFits services input := by
  simp only [sealedInputSet_ok, ClosureFits]

theorem checkMigrationArtifact_ok
    (hdeclared : (input.artifacts.map fun artifact => artifact.id).Perm input.release.artifactIds)
    (hnodup : (input.artifacts.map fun artifact => artifact.id).Nodup) {id : String} :
    checkMigrationArtifact input id = .ok () ↔ id ∈ input.release.artifactIds := by
  simp only [checkMigrationArtifact, require_eq_ok, and_iff_right_iff_imp]
  intro hid
  obtain ⟨artifact, hmem, hkey⟩ := List.mem_map.mp (hdeclared.mem_iff.mpr hid)
  exact Option.isSome_iff_exists.mpr ⟨artifact, (get?_byKey hnodup).mpr ⟨hmem, hkey⟩⟩

/-- The contract of a Target whose profile is read has a digest. -/
theorem sealedContractDigest_ok {profile : TargetDeploymentProfile}
    (h : targetDeploymentProfile services.profile input.target = .ok profile) :
    ∃ digest, sealedContractDigest services input = .ok digest := by
  unfold sealedContractDigest
  cases input.contractDigest with
  | some digest => exact ⟨digest, rfl⟩
  | none =>
    simp only [mapError_eq_ok, targetDeploymentContractDigest, bind_eq_ok, pure_eq_ok]
    exact ⟨_, profile, h, rfl⟩

/-- **A Release is sealed exactly when it may be**, by the first record of each required key. -/
theorem seal_isOk_iff {uuid : String} : (sealVerifiedRelease services input uuid).isOk = true ↔
    Sealable services input (FirstBound input) := by
  rw [isOk_iff]
  simp only [sealVerifiedRelease, bind_eq_ok, mapError_eq_ok, require_eq_ok, forM_eq_ok,
    exists_unit, pure_eq_ok, checkRelease_ok, checkArtifact_ok, checkEvidence_ok]
  constructor
  · rintro ⟨sealed, ⟨hrelease, hartifactNodup, hevidenceNodup⟩, hartifacts, hartifactSize, hevidence,
      htargetKeys, hevidenceSize, inputSet, hinputSet, plan, hplan, hmigrationArtifacts,
      hmigrationKeys, profile, hprofile, hsafe, digest, hdigest, rfl⟩
    obtain ⟨hdeclaredArtifacts, hartifactFits⟩ :=
      (declared_iff hrelease.artifactIds hartifactNodup).mp ⟨hartifacts, hartifactSize⟩
    obtain ⟨hdeclaredEvidence, hevidenceFits⟩ :=
      (declared_iff hrelease.evidenceIds hevidenceNodup).mp ⟨hevidence, hevidenceSize⟩
    refine ⟨hrelease, hdeclaredArtifacts, hdeclaredEvidence, hartifactFits, hevidenceFits,
      fun key hkey => (checkTargetKey_ok hevidenceFits).mp (htargetKeys key hkey),
      closureFits_iff.mp ⟨inputSet, hinputSet⟩, plan, ⟨hplan, fun id hid => ?_,
        profile, hprofile, isOk_iff.mpr ⟨(), hsafe⟩⟩, fun key hkey => ?_⟩
    · exact (checkMigrationArtifact_ok hdeclaredArtifacts hartifactNodup).mp
        (hmigrationArtifacts id hid)
    · exact (checkMigrationKey_ok hevidenceFits hdeclaredEvidence).mp (hmigrationKeys key hkey)
  · intro h
    have hartifactNodup := h.declaredArtifacts.nodup_iff.mpr h.release.artifactIds
    have hevidenceNodup := h.declaredEvidence.nodup_iff.mpr h.release.evidenceIds
    obtain ⟨hartifacts, hartifactSize⟩ := (declared_iff h.release.artifactIds hartifactNodup).mpr
      ⟨h.declaredArtifacts, h.artifacts⟩
    obtain ⟨hevidence, hevidenceSize⟩ := (declared_iff h.release.evidenceIds hevidenceNodup).mpr
      ⟨h.declaredEvidence, h.evidence⟩
    obtain ⟨inputSet, hinputSet⟩ := closureFits_iff.mpr h.closure
    obtain ⟨plan, hplan, hmigrationKeys⟩ := h.plan
    obtain ⟨profile, hprofile, hsafe⟩ := hplan.safe
    obtain ⟨⟨⟩, hsafe⟩ := isOk_iff.mp hsafe
    obtain ⟨digest, hdigest⟩ := sealedContractDigest_ok hprofile
    refine ⟨_, ⟨h.release, hartifactNodup, hevidenceNodup⟩, hartifacts, hartifactSize, hevidence,
      fun key hkey => (checkTargetKey_ok h.evidence).mpr (h.targetKeys key hkey), hevidenceSize,
      inputSet, hinputSet, plan, hplan.normalized, fun id hid => ?_, fun key hkey => ?_, profile,
      hprofile, hsafe, digest, hdigest, rfl⟩
    · exact (checkMigrationArtifact_ok h.declaredArtifacts hartifactNodup).mpr
        (hplan.artifacts id hid)
    · exact (checkMigrationKey_ok h.evidence h.declaredEvidence).mpr (hmigrationKeys key hkey)

/-! ## The order of the lists -/

theorem Sealable.imp {satisfied satisfied' : String → (Evidence → Prop) → Prop}
    (h : Sealable services input satisfied)
    (htarget : ∀ key ∈ input.target.requiredEvidenceKeys,
      satisfied key (BoundTo input) → satisfied' key (BoundTo input))
    (hmigration : ∀ plan, sealedMigrationPlan services input = .ok plan →
      ∀ key ∈ plan.requiredEvidenceKeys,
        satisfied key (NotElsewhere input) → satisfied' key (NotElsewhere input)) :
    Sealable services input satisfied' := by
  obtain ⟨plan, hplan, hkeys⟩ := h.plan
  exact ⟨h.release, h.declaredArtifacts, h.declaredEvidence, h.artifacts, h.evidence,
    fun key hkey => htarget key hkey (h.targetKeys key hkey), h.closure, plan, hplan,
    fun key hkey => hmigration plan hplan.normalized key hkey (hkeys key hkey)⟩

theorem someBound_of_firstBound {key : String} {bound : Evidence → Prop}
    (h : FirstBound input key bound) : SomeBound input key bound := by
  obtain ⟨record, hfirst, hbound⟩ := h
  exact ⟨record, List.mem_of_find?_eq_some hfirst, by simpa using List.find?_some hfirst, hbound⟩

/-- Where the records of a key are bound alike, the first one is as good as any. -/
theorem firstBound_of_someBound {key : String} {bound : Evidence → Prop}
    (hunanimous : Unanimous input key bound) (h : SomeBound input key bound) :
    FirstBound input key bound := by
  obtain ⟨record, hmem, hkey, hbound⟩ := h
  have hall : ∀ record ∈ input.evidence, record.key = key → bound record := by
    rcases hunanimous with hall | hnone
    · exact hall
    · exact absurd hbound (hnone record hmem hkey)
  have hfound : (firstRecord input key).isSome := by
    rw [firstRecord, List.find?_isSome]
    exact ⟨record, hmem, by simpa using hkey⟩
  obtain ⟨first, hfirst⟩ := Option.isSome_iff_exists.mp hfound
  refine ⟨first, hfirst, hall first (List.mem_of_find?_eq_some hfirst) ?_⟩
  simpa using List.find?_some hfirst

theorem acceptable_of_sealed {uuid : String}
    (h : (sealVerifiedRelease services input uuid).isOk = true) : Acceptable services input :=
  (seal_isOk_iff.mp h).imp (fun _ _ => someBound_of_firstBound)
    (fun _ _ _ _ => someBound_of_firstBound)

theorem seal_isOk_iff_acceptable {uuid : String} (hkeys : KeysUnanimous services input) :
    (sealVerifiedRelease services input uuid).isOk = true ↔ Acceptable services input := by
  constructor
  · exact acceptable_of_sealed
  · intro h
    refine seal_isOk_iff.mpr (h.imp (fun key hkey => ?_) (fun plan hplan key hkey => ?_))
    · exact firstBound_of_someBound (hkeys.target key hkey)
    · exact firstBound_of_someBound (hkeys.migration plan hplan key hkey)

/-! ### The input closure -/

/-- A list has one distinct value when all its entries are that value. -/
theorem distinct_eq_singleton {values : List String} {value : String} :
    distinct values = [value] ↔ values ≠ [] ∧ ∀ v ∈ values, v = value := by
  constructor
  · intro h
    have hmem : ∀ v, v ∈ values ↔ v = value := by
      intro v
      rw [← mem_distinct, h, List.mem_singleton]
    exact ⟨List.ne_nil_of_mem ((hmem value).mpr rfl), fun v hv => (hmem v).mp hv⟩
  · rintro ⟨hne, hall⟩
    have hsame : ∀ v ∈ distinct values, v = value := fun v hv => hall v (mem_distinct.mp hv)
    obtain ⟨first, hfirst⟩ := List.exists_mem_of_ne_nil values hne
    have hnodup : (distinct values).Nodup := nodup_dedupeBy
    match hvalues : distinct values with
    | [] =>
      rw [← mem_distinct, hvalues] at hfirst
      cases hfirst
    | [v] => rw [hsame v (by rw [hvalues]; exact List.mem_singleton_self v)]
    | v :: w :: rest =>
      rw [hvalues] at hnodup hsame
      have hv := hsame v (by simp)
      have hw := hsame w (by simp)
      simp [hv, hw] at hnodup

/-- The Evidence has one value for a field. -/
theorem commonEvidenceDigest_ok {evidence : List Evidence} {read : Evidence → String}
    {field digest : String} :
    commonEvidenceDigest evidence read field = .ok digest ↔
      evidence ≠ [] ∧ ∃ value, (∀ record ∈ evidence, read record = value) ∧
        requiredInput value field = .ok digest := by
  have hone : ∀ values : List String, ∀ value,
      (values.head?.filter fun _ => values.length = 1) = some value ↔ values = [value] := by
    intro values value
    match values with
    | [] => simp
    | [v] => simp
    | v :: w :: rest => simp
  simp only [commonEvidenceDigest, bind_eq_ok, require_eq_ok, exists_unit, orThrow_eq_ok, hone,
    distinct_eq_singleton]
  simp only [ne_eq, List.map_eq_nil_iff, List.mem_map, forall_exists_index, and_imp,
    forall_apply_eq_imp_iff₂]
  constructor
  · rintro ⟨hne, value, ⟨-, hall⟩, hdigest⟩
    exact ⟨hne, value, hall, hdigest⟩
  · rintro ⟨hne, value, hall, hdigest⟩
    exact ⟨hne, value, ⟨hne, hall⟩, hdigest⟩

theorem commonEvidenceDigest_perm {evidence evidence' : List Evidence} {read : Evidence → String}
    {field digest : String} (hperm : evidence.Perm evidence') :
    commonEvidenceDigest evidence read field = .ok digest ↔
      commonEvidenceDigest evidence' read field = .ok digest := by
  simp only [commonEvidenceDigest_ok, ne_eq, hperm.mem_iff]
  rw [← List.isEmpty_iff, ← List.isEmpty_iff, hperm.isEmpty_eq]

/-- The order of the Evidence is not part of the input closure; that of the Artifact digests is. -/
theorem deriveReleaseInputSet_perm {authority : AuthorityServices} {digests : List String}
    {artifacts artifacts' : List Artifact} {evidence evidence' : List Evidence}
    {inputSet : ReleaseInputSet} (hevidence : evidence.Perm evidence')
    (hartifacts : (artifacts.map fun artifact => artifact.digest) =
      artifacts'.map fun artifact => artifact.digest) :
    deriveReleaseInputSet authority digests artifacts evidence = .ok inputSet ↔
      deriveReleaseInputSet authority digests artifacts' evidence' = .ok inputSet := by
  simp only [deriveReleaseInputSet, bind_eq_ok, commonEvidenceDigest_perm hevidence, hartifacts]

/-- Whether there is an input closure does not depend on the order of the Artifacts either. -/
theorem exists_derived_perm {authority : AuthorityServices} {digests : List String}
    {artifacts artifacts' : List Artifact} {evidence evidence' : List Evidence}
    (hevidence : evidence.Perm evidence') (hartifacts : artifacts.Perm artifacts') :
    (∃ inputSet, deriveReleaseInputSet authority digests artifacts evidence = .ok inputSet) →
      ∃ inputSet, deriveReleaseInputSet authority digests artifacts' evidence' = .ok inputSet := by
  simp only [deriveReleaseInputSet, createReleaseInputSet, normalizeDigests, bind_eq_ok,
    require_eq_ok, exists_unit, pure_eq_ok, commonEvidenceDigest_perm hevidence]
  rintro ⟨-, build, hbuild, dependency, hdependency, toolchain, htoolchain, environment,
    henvironment, build', hbuild', dependency', hdependency', toolchain', htoolchain',
    environment', henvironment', -, ⟨hnonblank, -⟩, -⟩
  refine ⟨_, build, hbuild, dependency, hdependency, toolchain, htoolchain, environment,
    henvironment, build', hbuild', dependency', hdependency', toolchain', htoolchain',
    environment', henvironment', _, ⟨fun value hvalue => ?_, rfl⟩, rfl⟩
  exact hnonblank value ((hartifacts.map _).mem_iff.mpr hvalue)

/-! ### Acceptance -/

/-- The same request with the lists in another order. -/
def reordered (input : SealInput) (artifacts : List Artifact) (evidence : List Evidence) :
    SealInput :=
  { input with artifacts, evidence }

variable {artifacts : List Artifact} {evidence : List Evidence}

/-- The new order of the Artifacts is not one that the Release names another of. -/
def KeepsDigests (input : SealInput) (artifacts : List Artifact) : Prop :=
  input.release.inputSet = none ∨
    (input.artifacts.map fun artifact => artifact.digest) =
      artifacts.map fun artifact => artifact.digest

theorem ClosureFits.reorder (h : ClosureFits services input)
    (hartifacts : input.artifacts.Perm artifacts) (hevidence : input.evidence.Perm evidence)
    (hkeeps : KeepsDigests input artifacts) :
    ClosureFits services (reordered input artifacts evidence) := by
  obtain ⟨inputSet, hderived, hnamed⟩ := h
  rcases hkeeps with hnone | hdigests
  · obtain ⟨inputSet', hderived'⟩ := exists_derived_perm hevidence hartifacts ⟨inputSet, hderived⟩
    refine ⟨inputSet', hderived', ?_⟩
    show ∀ named ∈ input.release.inputSet, named = inputSet'
    rw [hnone]
    exact nofun
  · exact ⟨inputSet, (deriveReleaseInputSet_perm hevidence hdigests).mp hderived, hnamed⟩

theorem Acceptable.reorder (h : Acceptable services input)
    (hartifacts : input.artifacts.Perm artifacts) (hevidence : input.evidence.Perm evidence)
    (hkeeps : KeepsDigests input artifacts) :
    Acceptable services (reordered input artifacts evidence) := by
  have hbound : ∀ {key : String} {bound : Evidence → Prop}, SomeBound input key bound →
      SomeBound (reordered input artifacts evidence) key bound := by
    rintro key bound ⟨record, hmem, hrecord⟩
    exact ⟨record, hevidence.mem_iff.mp hmem, hrecord⟩
  obtain ⟨plan, hplan, hkeys⟩ := h.plan
  exact {
    release := ⟨h.release.project, h.release.id, h.release.revision, h.release.policy,
      h.release.configuration, h.release.status, h.release.artifactIds, h.release.evidenceIds,
      h.release.artifacts⟩
    declaredArtifacts := (hartifacts.map _).symm.trans h.declaredArtifacts
    declaredEvidence := (hevidence.map _).symm.trans h.declaredEvidence
    artifacts := fun artifact hmem =>
      have hfits := h.artifacts artifact (hartifacts.mem_iff.mpr hmem)
      ⟨hfits.revision, hfits.digest, hfits.type⟩
    evidence := fun record hmem =>
      have hfits := h.evidence record (hevidence.mem_iff.mpr hmem)
      ⟨hfits.revision, hfits.outcome⟩
    targetKeys := fun key hkey => hbound (h.targetKeys key hkey)
    closure := h.closure.reorder hartifacts hevidence hkeeps
    plan := ⟨plan, ⟨hplan.normalized, hplan.artifacts, hplan.safe⟩,
      fun key hkey => hbound (hkeys key hkey)⟩ }

theorem KeysUnanimous.reorder (h : KeysUnanimous services input)
    (hevidence : input.evidence.Perm evidence) :
    KeysUnanimous services (reordered input artifacts evidence) := by
  have hkey : ∀ {key : String} {bound : Evidence → Prop}, Unanimous input key bound →
      Unanimous (reordered input artifacts evidence) key bound := by
    rintro key bound (hall | hnone)
    · exact .inl fun record hmem => hall record (hevidence.mem_iff.mpr hmem)
    · exact .inr fun record hmem => hnone record (hevidence.mem_iff.mpr hmem)
  exact ⟨fun key hmem => hkey (h.target key hmem),
    fun plan hplan key hmem => hkey (h.migration plan hplan key hmem)⟩

theorem seal_isOk_reorder {uuid : String} (hkeys : KeysUnanimous services input)
    (hartifacts : input.artifacts.Perm artifacts) (hevidence : input.evidence.Perm evidence)
    (hkeeps : KeepsDigests input artifacts) :
    (sealVerifiedRelease services (reordered input artifacts evidence) uuid).isOk = true ↔
      (sealVerifiedRelease services input uuid).isOk = true := by
  rw [seal_isOk_iff_acceptable hkeys, seal_isOk_iff_acceptable (hkeys.reorder hevidence)]
  constructor
  · intro h
    exact h.reorder hartifacts.symm hevidence.symm (hkeeps.imp id Eq.symm)
  · exact fun h => h.reorder hartifacts hevidence hkeeps

/-- **Sealing does not depend on the order** of the Evidence, nor on that of the Artifacts where no
order of their digests is named. What is sealed is acceptable; where the records of each required
key are bound alike, what is acceptable is sealed. -/
theorem seal_order_free (services : SealServices) (input : SealInput) (uuid : String) :
    ((sealVerifiedRelease services input uuid).isOk = true → Acceptable services input) ∧
    (KeysUnanimous services input →
      (Acceptable services input → (sealVerifiedRelease services input uuid).isOk = true) ∧
      ∀ artifacts evidence, input.artifacts.Perm artifacts → input.evidence.Perm evidence →
        KeepsDigests input artifacts →
        ((sealVerifiedRelease services (reordered input artifacts evidence) uuid).isOk = true ↔
          (sealVerifiedRelease services input uuid).isOk = true)) := by
  refine ⟨acceptable_of_sealed, fun hkeys => ⟨(seal_isOk_iff_acceptable hkeys).mpr, ?_⟩⟩
  intro artifacts evidence hartifacts hevidence hkeeps
  exact seal_isOk_reorder hkeys hartifacts hevidence hkeeps

end

/-! ## Two orders of one Release -/

namespace SealSample

/-- The digest of a closure shows the Artifact digests in their order. -/
def services : SealServices where
  toAuthorityServices :=
    { Sample.services with inputClosureDigest := fun body => joined body.artifactDigests }
  sealDigest claims := claims.release.id

def target : Kernel.Target where
  id := "target:production"
  projectId := "project:1"
  name := "Production"
  adapterId := "adapter:1"
  acceptedArtifactTypes := ["worker"]
  requiredEvidenceKeys := ["smoke"]
  state := .configured
  deploymentProfile := none

def artifact (id : String) : Artifact where
  id := id
  type := "worker"
  digest := "sha256:" ++ id
  projectRevisionId := "revision:1"
  changeRevisionId := none
  runId := none
  actionId := none
  outputPath := none
  provenanceDigest := none
  disclosure := none

/-- The passed smoke test of a Target. -/
def smoke (id targetId : String) : Evidence where
  id := id
  key := "smoke"
  criterion := "smoke"
  outcome := .passed
  validityKey := "sha256:validity"
  actionId := "action:1"
  verifierId := "verifier:1"
  toolchainDigest := "sha256:toolchain"
  dependencyDigest := "sha256:dependency"
  environmentDigest := "sha256:environment"
  inputDigests := []
  effectDigests := []
  outputDigest := "sha256:output"
  createdAt := "2026-01-01T00:00:00.000Z"
  projectRevisionId := "revision:1"
  projectViewId := "view:1"
  changeRevisionId := none
  runId := "run:1"
  actor := ⟨"principal:1", "actor:1", "session:1", "client:1"⟩
  runnerId := "runner:1"
  policyVersion := "policy:1"
  authorizationEpoch := "1"
  capabilityGrantId := "grant:1"
  disclosure := ⟨"projection:1", "public"⟩
  receipt := "evidence=passed"
  invalidators := []
  owner := "owner:1"
  targetId := some targetId

def production : Evidence := smoke "evidence:production" "target:production"

def staging : Evidence := smoke "evidence:staging" "target:staging"

/-- A Release of two Artifacts. -/
def request (inputSet : Option ReleaseInputSet) (artifacts evidence : List String)
    (records : List Evidence) : SealInput where
  projectId := "project:1"
  release := {
    id := "release:1"
    projectRevisionId := "revision:1"
    artifactIds := ["a", "b"]
    evidenceIds := evidence
    configurationDigests := ["sha256:configuration"]
    stateAssumptions := []
    policyVersion := "policy:1"
    status := .ready
    inputSet
    receipt := "release=ready" }
  artifacts := artifacts.map artifact
  evidence := records
  target := target

/-- The input set that names the Artifacts as `a` and then `b`. -/
def named : ReleaseInputSet where
  buildDefinitionDigest := "sha256:configuration"
  dependencyDigest := "sha256:dependency"
  toolchainDigest := "sha256:toolchain"
  environmentDigest := "sha256:environment"
  artifactDigests := ["sha256:a", "sha256:b"]
  inputClosureDigest := "sha256:a,sha256:b"

end SealSample

open SealSample in
/-- A Release that names no input set is sealed with its Artifacts the other way round. -/
theorem seal_order_free_reversed :
    (sealVerifiedRelease SealSample.services (reordered
      (request none ["a", "b"] ["evidence:production"] [production])
      [artifact "b", artifact "a"] [production]) "1").isOk = true := by
  have hkeys : KeysUnanimous SealSample.services
      (request none ["a", "b"] ["evidence:production"] [production]) := by
    constructor
    · intro key _
      refine .inl fun record hmem _ => ?_
      rw [List.mem_singleton.mp hmem]
      rfl
    · intro plan hplan key hkey
      have hnone : sealedMigrationPlan SealSample.services
          (request none ["a", "b"] ["evidence:production"] [production]) =
          .ok (noMigration SealSample.services.planDigest) := by decide +kernel
      rw [hnone] at hplan
      cases hplan
      cases hkey
  have hfree := (seal_order_free SealSample.services
    (request none ["a", "b"] ["evidence:production"] [production]) "1").2 hkeys
  refine (hfree.2 _ _ (List.Perm.swap _ _ _) (List.Perm.refl _) (.inl rfl)).mpr ?_
  decide +kernel

open SealSample in
/-- A Release that names its input set is sealed with its Artifacts in that order and not the other
way round. With Evidence of two Targets under one key, the first record decides. -/
theorem seal_depends_on_order :
    ((sealVerifiedRelease SealSample.services
        (request (some named) ["a", "b"] ["evidence:production"] [production]) "1").isOk = true ∧
      (sealVerifiedRelease SealSample.services
        (request (some named) ["b", "a"] ["evidence:production"] [production]) "1").isOk = false) ∧
    (sealVerifiedRelease SealSample.services
        (request none ["a", "b"] ["evidence:production", "evidence:staging"]
          [production, staging]) "1").isOk = true ∧
      (sealVerifiedRelease SealSample.services
        (request none ["a", "b"] ["evidence:production", "evidence:staging"]
          [staging, production]) "1").isOk = false := by
  decide +kernel

end Anyam.Authority
