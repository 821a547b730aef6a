import Anyam.Authority.Runs

/-!
# Release, Target and Promotion commands

`AuthorityPlaneCoordinator.apply` on `release.create`, `target.configure` and `promotion.request`,
with the input closure of a Release (`delivery/release-input.ts`). A Release is made of the current
canonical Project Revision of its Project; each attached Artifact and Evidence names that
Revision by its id.

- **`releaseCreate_ok`**: what a Release was checked for.
- **`targetConfigure_ok`**, **`promotionRequest_ok`**: what an accepted command files.
-/

namespace Anyam.Authority

open Anyam.Lib Anyam.Kernel Anyam.Delivery

/-! ## The input closure of a Release -/

inductive ReleaseInputErrorCode
  | missing | mismatch | invalid
deriving DecidableEq, Repr

structure ReleaseInputError where
  code : ReleaseInputErrorCode
  message : String
  recoveryAction : String
  receipt : String
deriving DecidableEq, Repr

/-- A trimmed input that is not blank. -/
def requiredInput (value field : String) : Except ReleaseInputError String := do
  require (trim value ≠ "") {
    code := .missing
    message := s!"Release input {field} is missing."
    recoveryAction := s!"record the exact {field} before creating or promoting a Release"
    receipt := s!"inputClosure={field}-missing" }
  return trim value

def normalizeDigests (values : List String) : Except ReleaseInputError (List String) := do
  require (∀ value ∈ values, trim value ≠ "") {
    code := .invalid
    message := "Release input Artifact digests must be non-empty strings."
    recoveryAction := "record every exact Artifact digest before creating the Release"
    receipt := "inputClosure=artifact-digest-invalid" }
  return values.map trim

def createReleaseInputSet (services : AuthorityServices) (input : ReleaseInputBody) :
    Except ReleaseInputError ReleaseInputSet := do
  let body : ReleaseInputBody := {
    buildDefinitionDigest := ← requiredInput input.buildDefinitionDigest "buildDefinitionDigest"
    dependencyDigest := ← requiredInput input.dependencyDigest "dependencyDigest"
    toolchainDigest := ← requiredInput input.toolchainDigest "toolchainDigest"
    environmentDigest := ← requiredInput input.environmentDigest "environmentDigest"
    artifactDigests := ← normalizeDigests input.artifactDigests }
  return { body with inputClosureDigest := services.inputClosureDigest body }

/-- The one value the Evidence has for a field. -/
def commonEvidenceDigest (evidence : List Evidence) (read : Evidence → String) (field : String) :
    Except ReleaseInputError String := do
  require (evidence ≠ []) {
    code := .missing
    message := s!"Release input {field} cannot be derived without Evidence."
    recoveryAction := "attach passed Evidence from the exact Release build before creating a ready Release"
    receipt := s!"inputClosure={field}-not-observed; evidence=0" }
  let values := distinct (evidence.map read)
  let found := joined values
  let value ← orThrow (values.head?.filter fun _ => values.length = 1) {
    code := .mismatch
    message := s!"Release Evidence has mismatched {field} values."
    recoveryAction := s!"rerun the required Verifiers with one {field} closure and retry Release creation"
    receipt := s!"inputClosure={field}-mismatch; values={found}" }
  requiredInput value field

/-- The digest of the build definition: the configuration digest, or the digest of them all. -/
def buildDefinitionDigest (services : AuthorityServices) :
    List String → Except ReleaseInputError String
  | [] => .error {
    code := .missing
    message := "Release has no build-definition configuration digest."
    recoveryAction := "record the exact manifest/build-definition digest before creating a ready Release"
    receipt := "inputClosure=buildDefinitionDigest-missing" }
  | [digest] => requiredInput digest "buildDefinitionDigest"
  | digests => .ok (services.buildDefinitionDigest digests)

def deriveReleaseInputSet (services : AuthorityServices) (configurationDigests : List String)
    (artifacts : List Artifact) (evidence : List Evidence) :
    Except ReleaseInputError ReleaseInputSet := do
  let buildDefinitionDigest ← buildDefinitionDigest services configurationDigests
  let dependencyDigest ←
    commonEvidenceDigest evidence Evidence.dependencyDigest "dependencyDigest"
  let toolchainDigest ← commonEvidenceDigest evidence Evidence.toolchainDigest "toolchainDigest"
  let environmentDigest ←
    commonEvidenceDigest evidence Evidence.environmentDigest "environmentDigest"
  createReleaseInputSet services {
    buildDefinitionDigest
    dependencyDigest
    toolchainDigest
    environmentDigest
    artifactDigests := artifacts.map fun artifact => artifact.digest }

def assertReleaseInputSetMatches (services : AuthorityServices) (inputSet : ReleaseInputSet)
    (configurationDigests : List String) (artifacts : List Artifact) (evidence : List Evidence) :
    Except ReleaseInputError Unit := do
  let expected ← deriveReleaseInputSet services configurationDigests artifacts evidence
  require (inputSet.inputClosureDigest = expected.inputClosureDigest) {
    code := .mismatch
    message := "Release input closure digest does not match the exact Artifacts, Evidence, and build inputs."
    recoveryAction := "rebuild the Release input set from the exact passed Evidence and Artifact digests"
    receipt := s!"inputClosure=mismatch; expected={expected.inputClosureDigest}; received={inputSet.inputClosureDigest}" }
  require (inputSet.toReleaseInputBody = expected.toReleaseInputBody) {
    code := .mismatch
    message := "Release input closure fields do not match the exact build inputs."
    recoveryAction := "record one complete input closure for the selected Artifacts and passed Evidence"
    receipt := s!"inputClosure=fields-mismatch; expected={expected.inputClosureDigest}; received={inputSet.inputClosureDigest}" }

def releaseInputFailure (error : ReleaseInputError) : AuthorityFailure :=
  refusal (if error.code = .missing then .invalidRequest else .conflict) error.message
    error.recoveryAction error.receipt

/-- The input closure of `payload.inputSet`, checked against the derived one. -/
def suppliedInputSet (services : AuthorityServices) (value : Payload)
    (configurationDigests : List String) (artifacts : List Artifact) (evidence : List Evidence) :
    Except AuthorityFailure ReleaseInputSet := do
  let buildDefinitionDigest ← requiredString (value.get? "buildDefinitionDigest")
    "inputSet.buildDefinitionDigest"
  let dependencyDigest ← requiredString (value.get? "dependencyDigest")
    "inputSet.dependencyDigest"
  let toolchainDigest ← requiredString (value.get? "toolchainDigest") "inputSet.toolchainDigest"
  let environmentDigest ← requiredString (value.get? "environmentDigest")
    "inputSet.environmentDigest"
  let artifactDigests ← stringArray (value.get? "artifactDigests") "inputSet.artifactDigests"
    true true
  let supplied ← (createReleaseInputSet services {
    buildDefinitionDigest
    dependencyDigest
    toolchainDigest
    environmentDigest
    artifactDigests }).mapError releaseInputFailure
  let inputClosureDigest ← requiredString (value.get? "inputClosureDigest")
    "inputSet.inputClosureDigest"
  require (inputClosureDigest = supplied.inputClosureDigest) (releaseInputFailure {
    code := .mismatch
    message := "Release inputSet digest does not match its fields."
    recoveryAction := "recompute inputSet.inputClosureDigest from the exact fields and retry"
    receipt := s!"inputClosure=declared-digest-mismatch; expected={supplied.inputClosureDigest}" })
  (assertReleaseInputSetMatches services supplied configurationDigests artifacts
    evidence).mapError releaseInputFailure
  return supplied

/-- The input closure of a Release: the one that is given, or the derived one. -/
def releaseInputSet (services : AuthorityServices) (value : Option Payload)
    (configurationDigests : List String) (artifacts : List Artifact) (evidence : List Evidence) :
    Except AuthorityFailure ReleaseInputSet := do
  let derived ← (deriveReleaseInputSet services configurationDigests artifacts evidence).mapError
    releaseInputFailure
  match value with
  | none => return derived
  | some value => suppliedInputSet services value configurationDigests artifacts evidence

/-! ## The migration plan of a Release -/

def migrationPlanFailure (error : MigrationPlanError) : AuthorityFailure :=
  refusal (if error.code = .invalid then .invalidRequest else .conflict) error.message
    error.recoveryAction error.receipt

/-- The plan of `payload.migrationPlan`. -/
def suppliedMigrationPlan (services : AuthorityServices) (value : Payload) :
    Except AuthorityFailure MigrationPlan := do
  let strategy ← whenDefined (enumString · "migrationPlan.strategy"
    [MigrationStrategy.none, .expandContract, .manual, .custom]) (value.get? "strategy")
  let beforeSchemaDigest ← whenDefined (requiredString · "migrationPlan.beforeSchemaDigest")
    (value.get? "beforeSchemaDigest")
  let afterSchemaDigest ← whenDefined (requiredString · "migrationPlan.afterSchemaDigest")
    (value.get? "afterSchemaDigest")
  let compatibility ← whenDefined (enumString · "migrationPlan.compatibility"
    [MigrationCompatibility.backwardCompatible, .bidirectional, .forwardOnly, .incompatible,
      .unknown]) (value.get? "compatibility")
  let rollback ← whenDefined (enumString · "migrationPlan.rollback"
    [MigrationRollback.safe, .applicationOnly, .manualDataAction, .blocked])
    (value.get? "rollback")
  let migrationArtifactIds ← optionalStrings (value.get? "migrationArtifactIds")
    "migrationPlan.migrationArtifactIds"
  let requiredEvidenceKeys ← optionalStrings (value.get? "requiredEvidenceKeys")
    "migrationPlan.requiredEvidenceKeys"
  let planDigest ← whenDefined (requiredString · "migrationPlan.planDigest")
    (value.get? "planDigest")
  (createMigrationPlan services.planDigest {
    strategy
    beforeSchemaDigest
    afterSchemaDigest
    compatibility
    rollback
    migrationArtifactIds := some migrationArtifactIds
    requiredEvidenceKeys := some requiredEvidenceKeys
    planDigest }).mapError migrationPlanFailure

def releaseMigrationPlan (services : AuthorityServices) (value : Option Payload) :
    Except AuthorityFailure MigrationPlan :=
  match value with
  | none => (defaultMigrationPlan services.planDigest).mapError migrationPlanFailure
  | some value => suppliedMigrationPlan services value

/-! ## Releases -/

def releaseCreate (services : AuthorityServices) (next : AuthorityPlaneSnapshot)
    (payload : Payload) (drawn : Drawn) : Applied := do
  let projectId ← requiredString (payload.get? "projectId") "projectId"
  let project ← orThrow (next.projects.get? projectId) (refusal .notFound
    s!"Project {projectId} does not exist."
    "verify the Project identifier without probing hidden resources before creating a Release"
    s!"project={projectId}; release=not-created; discoverable=false")
  let projectRevisionId ← requiredString (payload.get? "projectRevisionId") "projectRevisionId"
  require (∃ revision ∈ next.projectRevisions.get? projectRevisionId,
      revision.projectId = project.id) (refusal .notFound
    s!"Project Revision {projectRevisionId} is not available for Project {projectId}."
    "verify the Project and Project Revision identifiers without probing hidden resources"
    s!"project={projectId}; projectRevision={projectRevisionId}; release=not-created; discoverable=false")
  let canonical := (next.canonicalByProject.get? projectId).getD "missing"
  require (next.canonicalByProject.get? projectId = some projectRevisionId) (refusal .conflict
    s!"Project Revision {projectRevisionId} is not the current canonical Revision for Project {projectId}."
    "Land the Change first, then create the Release from the current canonical Project Revision"
    s!"project={projectId}; projectRevision={projectRevisionId}; canonical={canonical}; release=not-created")
  let artifactIds ← stringArray (payload.get? "artifactIds") "artifactIds" false true
  let evidenceIds ← stringArray (payload.get? "evidenceIds") "evidenceIds" false true
  let missing := refusal .notFound
    "Release references an Artifact or Evidence record that is not present."
    "restore the complete immutable lineage before creating the Release"
    s!"projectRevision={projectRevisionId}; artifacts={artifactIds.length}; evidence={evidenceIds.length}; release=not-created"
  let artifacts ← artifactIds.mapM fun id => orThrow (next.artifacts.get? id) missing
  let evidence ← evidenceIds.mapM fun id => orThrow (next.evidence.get? id) missing
  require (∀ artifact ∈ artifacts, artifact.projectRevisionId = projectRevisionId)
    (refusal .conflict
      "Release Artifacts must be bound to the exact canonical Project Revision."
      "record or select Artifacts produced from the exact canonical Project Revision before creating the Release"
      s!"project={projectId}; projectRevision={projectRevisionId}; artifacts=exact-project-revision-required; release=not-created")
  require (∀ record ∈ evidence, record.projectRevisionId = projectRevisionId ∧
      record.outcome = .passed) (refusal .conflict
    "Release Evidence must be passed and bound to the exact Project Revision."
    "rerun the verifier against the exact Project Revision and attach fresh passed Evidence"
    s!"projectRevision={projectRevisionId}; evidence=exact-passed-required; release=not-created")
  let configurationDigests ← optionalStrings (payload.get? "configurationDigests")
    "configurationDigests"
  let inputSetValue ← whenDefined (record · "inputSet") (payload.get? "inputSet")
  let inputSet ← releaseInputSet services inputSetValue configurationDigests artifacts evidence
  let migrationValue ← whenDefined (record · "migrationPlan") (payload.get? "migrationPlan")
  let migrationPlan ← releaseMigrationPlan services migrationValue
  let changeRevisionId := optionalString (payload.get? "changeRevisionId")
  let changeRevisionText := changeRevisionId.getD ""
  require (∀ id ∈ changeRevisionId, ∃ revision ∈ next.changeRevisions.get? id,
      (next.changes.get? revision.changeId).map Change.projectId = some projectId ∧
        revision.projectRevisionId = projectRevisionId) (refusal .conflict
    "Release Change Revision must belong to the exact Project and canonical Project Revision."
    "create the Release from the Change Revision that produced this canonical Project Revision"
    s!"project={projectId}; projectRevision={projectRevisionId}; changeRevision={changeRevisionText}; release=not-created")
  let stateAssumptions ← optionalStrings (payload.get? "stateAssumptions") "stateAssumptions"
  let policyVersion ← requiredString (payload.get? "policyVersion") "policyVersion"
  let id := (optionalString (payload.get? "releaseId")).getD (drawn.opaqueId "release")
  let release : Release := {
    id
    projectRevisionId
    artifactIds
    evidenceIds
    configurationDigests
    stateAssumptions
    policyVersion
    status := .ready
    name := optionalString (payload.get? "name")
    changeRevisionId
    provenanceDigest := optionalString (payload.get? "provenanceDigest")
    inputSet
    migrationPlan
    receipt := s!"release=ready; project={projectId}; projectRevision={projectRevisionId}; artifacts={artifactIds.length}; evidence={evidenceIds.length}; inputClosure={inputSet.inputClosureDigest}; migrationPlan={migrationPlan.planDigest}" }
  require (next.releases.get? id = none) (refusal .conflict
    s!"Release {id} already exists."
    "reuse the original idempotency key or choose a new Release identity"
    s!"release={id}; exists=true; transition=not-applied")
  return (next.put .releases id release,
    success .releaseCreate next [.releaseOfProject release projectId]
      s!"release={id}; project={projectId}; status=ready; providerPromotion=not-performed; canonicalWrite=false")

/-! ## Targets -/

def profileFailure (code : AuthorityErrorCode) (error : TargetDeploymentProfileError) :
    AuthorityFailure :=
  refusal code error.message error.recoveryAction error.receipt

/-- The refusal of a profile that cannot be made. -/
def invalidProfileFailure (error : TargetDeploymentProfileError) : AuthorityFailure :=
  profileFailure (if error.code = .resourceConflict then .conflict else .invalidRequest) error

/-- The profile of `payload.deploymentProfile`. -/
def suppliedProfile (services : AuthorityServices) (value : Payload) :
    Except AuthorityFailure TargetDeploymentProfile := do
  let environment ← enumString (value.get? "environment") "deploymentProfile.environment"
    [TargetEnvironment.preview, .development, .staging, .production, .custom]
  let channel ← enumStringOr (value.get? "channel") "deploymentProfile.channel"
    [TargetChannel.alpha, .beta, .stable, .custom] .stable
  let audience ← requiredString (value.get? "audience") "deploymentProfile.audience"
  let runtimeIdentity ← requiredString (value.get? "runtimeIdentity")
    "deploymentProfile.runtimeIdentity"
  let routeIdentities ← optionalStrings (value.get? "routeIdentities")
    "deploymentProfile.routeIdentities"
  let bindingIdentities ← optionalStrings (value.get? "bindingIdentities")
    "deploymentProfile.bindingIdentities"
  let dataResourceIdentities ← optionalStrings (value.get? "dataResourceIdentities")
    "deploymentProfile.dataResourceIdentities"
  let configurationDigests ← optionalStrings (value.get? "configurationDigests")
    "deploymentProfile.configurationDigests"
  let secretUseAliases ← optionalStrings (value.get? "secretUseAliases")
    "deploymentProfile.secretUseAliases"
  let dataClass ← enumStringOr (value.get? "dataClass") "deploymentProfile.dataClass"
    [TargetDataClass.synthetic, .isolated, .productionShaped, .production, .custom] .custom
  let resourceSharing ← enumStringOr (value.get? "resourceSharing")
    "deploymentProfile.resourceSharing" [TargetResourceSharing.isolated, .ownerApproved] .isolated
  (createTargetDeploymentProfile services.profile {
    environment
    channel
    audience
    runtimeIdentity
    routeIdentities
    bindingIdentities
    dataResourceIdentities
    configurationDigests
    secretUseAliases
    dataClass
    resourceSharing
    sharingPolicyDigest := optionalString (value.get? "sharingPolicyDigest") }).mapError
    invalidProfileFailure

/-- The profile a Target is configured with: the one that is given, or the default one. -/
def configuredProfile (services : AuthorityServices) (targetId : String)
    (value : Option Payload) : Except AuthorityFailure TargetDeploymentProfile :=
  match value with
  | none => (defaultTargetDeploymentProfile services.profile targetId).mapError
      invalidProfileFailure
  | some value => suppliedProfile services value

def targetConfigure (services : AuthorityServices) (next : AuthorityPlaneSnapshot)
    (payload : Payload) (drawn : Drawn) : Applied := do
  let id := (optionalString (payload.get? "targetId")).getD (drawn.opaqueId "target")
  let projectId ← requiredString (payload.get? "projectId") "projectId"
  let name ← requiredString (payload.get? "name") "name"
  let adapterId ← requiredString (payload.get? "adapterId") "adapterId"
  let acceptedArtifactTypes ← stringArray (payload.get? "acceptedArtifactTypes")
    "acceptedArtifactTypes" false true
  let requiredEvidenceKeys ← optionalStrings (payload.get? "requiredEvidenceKeys")
    "requiredEvidenceKeys"
  let profileValue ← whenDefined (record · "deploymentProfile") (payload.get? "deploymentProfile")
  let deploymentProfile ← configuredProfile services id profileValue
  let target : Target := {
    id
    projectId
    name
    adapterId
    acceptedArtifactTypes
    requiredEvidenceKeys
    state := .configured
    deploymentProfile := some deploymentProfile }
  require (next.projects.get? projectId).isSome (refusal .notFound
    s!"Project {projectId} does not exist."
    "create the Project before configuring its Target"
    s!"target={id}; project={projectId}; target=not-configured")
  require (next.targets.get? id = none) (refusal .conflict
    s!"Target {id} already exists."
    "reuse the original idempotency key or choose a new Target identity"
    s!"target={id}; exists=true; transition=not-applied")
  (assertTargetResourceIsolation services.profile (next.targets.values.map Target.toTarget)
    target.toTarget).mapError (profileFailure .conflict)
  return (next.put .targets id target, success .targetConfigure next [.target target]
    s!"target={id}; state=configured; providerAdapter={adapterId}; environment={deploymentProfile.environment}; channel={deploymentProfile.channel}; profileDigest={deploymentProfile.profileDigest}; qualification=not-performed; canonicalWrite=false")

/-! ## Promotions -/

def promotionRequest (next : AuthorityPlaneSnapshot) (command : AuthorityCommand)
    (session : AuthoritySession) (drawn : Drawn) : Applied := do
  let payload := command.payload
  let projectId ← requiredString (payload.get? "projectId") "projectId"
  let releaseId ← requiredString (payload.get? "releaseId") "releaseId"
  let targetId ← requiredString (payload.get? "targetId") "targetId"
  let missing := refusal .notFound
    "Promotion requires an existing Project, Release, and Target."
    "verify the Project, Release, and Target identifiers without probing hidden resources before requesting Promotion"
    "promotion=not-created; discoverable=false"
  require (next.projects.get? projectId).isSome missing
  let release ← orThrow (next.releases.get? releaseId) missing
  let target ← orThrow (next.targets.get? targetId) missing
  let releaseProjectId := (next.projectRevisions.get? release.projectRevisionId).map
    ProjectRevision.projectId
  require (releaseProjectId = some projectId ∧ target.projectId = projectId) (refusal .conflict
    "Promotion Project, Release, and Target bindings do not match."
    "request Promotion against the Target and Release belonging to the same Project"
    s!"project={projectId}; promotion=not-created; exact-project-binding-required")
  let _profile ← (assertTargetCanPromote target.toTarget).mapError (profileFailure .blocked)
  let expectedCurrentReleaseId :=
    (optionalString (payload.get? "expectedCurrentReleaseId")).or target.currentReleaseId
  let expectedText := orNone expectedCurrentReleaseId
  let actualText := orNone target.currentReleaseId
  require (expectedCurrentReleaseId = target.currentReleaseId) (refusal .conflict
    s!"Promotion expected Release {expectedText}, but Target {target.id} is at {actualText}."
    "read the current Target pointer and request Promotion with that exact expected Release ID"
    s!"target={target.id}; expectedCurrent={expectedText}; actualCurrent={actualText}; promotion=not-created")
  let id := (optionalString (payload.get? "promotionId")).getD (drawn.opaqueId "promotion")
  let declaredText := expectedCurrentReleaseId.getD "not-declared"
  let recoveryAction := "qualify and bind the Target adapter, then request Promotion again after inspecting the immutable Release lineage"
  let promotion : PromotionRecord := {
    id
    projectId
    targetId
    releaseId
    releaseDigest := (optionalString (payload.get? "releaseDigest")).getD s!"declared:{release.id}"
    previousReleaseId := expectedCurrentReleaseId
    expectedCurrentReleaseId
    state := .blocked
    attempt := 0
    kind := .promotion
    idempotencyKey := command.idempotencyKey
    actor := actorRef session
    createdAt := drawn.now
    updatedAt := drawn.now
    receipt := s!"promotion=blocked; project={projectId}; target={targetId}; release={releaseId}; expectedCurrentRelease={declaredText}; providerAdapter={target.adapterId}; canonicalWrite=false"
    recoveryAction := some recoveryAction }
  require (next.promotions.get? id = none) (refusal .conflict
    s!"Promotion {id} already exists."
    "reuse the original idempotency key or choose a new Promotion identity"
    s!"promotion={id}; exists=true; transition=not-applied")
  return (next.put .promotions id promotion,
    unsettled .blocked .promotionRequest next
      [.promotion promotion, .target target, .release release] promotion.receipt recoveryAction)

/-! ## What they write -/

section

variable {services : AuthorityServices} {next next' : AuthorityPlaneSnapshot} {payload : Payload}
  {command : AuthorityCommand} {session : AuthoritySession} {drawn : Drawn}
  {result : AuthorityCommandResult}

/-- A Release is filed under a new id, for the canonical Project Revision; every Artifact and
Evidence it lists is there and names that Revision. -/
theorem releaseCreate_ok (h : releaseCreate services next payload drawn = .ok (next', result)) :
    ∃ (projectId : String) (project : Project) (revision : ProjectRevision) (id : String)
      (release : Release),
      next.projects.get? projectId = some project ∧
      next.projectRevisions.get? release.projectRevisionId = some revision ∧
      revision.projectId = project.id ∧
      next.canonicalByProject.get? projectId = some release.projectRevisionId ∧
      (∀ artifactId ∈ release.artifactIds, ∃ artifact,
        next.artifacts.get? artifactId = some artifact ∧
          artifact.projectRevisionId = release.projectRevisionId) ∧
      (∀ evidenceId ∈ release.evidenceIds, ∃ evidence,
        next.evidence.get? evidenceId = some evidence ∧
          evidence.projectRevisionId = release.projectRevisionId) ∧
      next.releases.get? id = none ∧ release.id = id ∧
      id = (optionalString (payload.get? "releaseId")).getD (drawn.opaqueId "release") ∧
      next' = next.put .releases id release ∧
      result.value = [.releaseOfProject release projectId] := by
  simp only [releaseCreate, bind_eq_ok, require_eq_ok, orThrow_eq_ok, mapM_eq_ok, exists_unit,
    pure_eq_ok, Prod.mk.injEq] at h
  obtain ⟨projectId, -, project, hproject, revisionId, -, ⟨revision, hrevision, hbelongs⟩,
    hcanonical, artifactIds, -, evidenceIds, -, artifacts, hartifacts, evidence, hevidence,
    hartifact, hrecord, _, -, _, -, _, -, _, -, _, -, -, _, -, _, -, hnew, rfl, rfl⟩ := h
  refine ⟨projectId, project, revision, _, _, hproject, hrevision, hbelongs, hcanonical,
    fun artifactId hmem => ?_, fun evidenceId hmem => ?_, hnew, rfl, rfl, rfl, rfl⟩
  · obtain ⟨artifact, hin, hget⟩ := exists_right_of_mem hartifacts hmem
    exact ⟨artifact, hget, hartifact artifact hin⟩
  · obtain ⟨record, hin, hget⟩ := exists_right_of_mem hevidence hmem
    exact ⟨record, hget, (hrecord record hin).1⟩

/-- A Target as it is configured: it belongs to a Project, has a Deployment Profile, and points to
no Release. -/
structure Target.New (s : AuthorityPlaneSnapshot) (target : Target) : Prop where
  unused : s.targets.get? target.id = none
  project : (s.projects.get? target.projectId).isSome
  profile : target.deploymentProfile.isSome
  pointer : target.currentReleaseId = none
  history : target.releaseHistory = none

/-- A Target is filed under a new id. -/
theorem targetConfigure_ok
    (h : targetConfigure services next payload drawn = .ok (next', result)) :
    ∃ target : Target, target.New next ∧ next' = next.put .targets target.id target := by
  simp only [targetConfigure, bind_eq_ok, require_eq_ok, exists_unit, pure_eq_ok,
    Prod.mk.injEq] at h
  obtain ⟨_, -, _, -, _, -, _, -, _, -, _, -, profile, -, hproject, hnew, -, rfl, -⟩ := h
  suffices ∃ (id : String) (target : Target), next.put .targets _ _ = next.put .targets id target ∧
      target.id = id ∧ target.New next by
    obtain ⟨_, target, hput, rfl, htarget⟩ := this
    exact ⟨target, htarget, hput⟩
  exact ⟨_, _, rfl, rfl, hnew, hproject, rfl, rfl, rfl⟩

/-- A Promotion as it is requested: blocked, without an execution, for a Release and a Target of
its Project, and from the Release the Target points to. -/
structure PromotionRecord.New (s : AuthorityPlaneSnapshot) (promotion : PromotionRecord) :
    Prop where
  unused : s.promotions.get? promotion.id = none
  named : promotion.projectId ≠ ""
  project : (s.projects.get? promotion.projectId).isSome
  release : ∃ release, s.releases.get? promotion.releaseId = some release ∧
    (s.projectRevisions.get? release.projectRevisionId).map ProjectRevision.projectId =
      some promotion.projectId
  target : ∃ target, s.targets.get? promotion.targetId = some target ∧
    target.projectId = promotion.projectId ∧
    promotion.expectedCurrentReleaseId = target.currentReleaseId
  previous : promotion.previousReleaseId = promotion.expectedCurrentReleaseId
  state : promotion.state = .blocked
  key : promotion.executionIdempotencyKey = none
  checkpoint : promotion.reconciliationCheckpoint = none

/-- A Promotion is filed under a new id. -/
theorem promotionRequest_ok
    (h : promotionRequest next command session drawn = .ok (next', result)) :
    ∃ promotion : PromotionRecord, promotion.New next ∧
      next' = next.put .promotions promotion.id promotion := by
  simp only [promotionRequest, bind_eq_ok, require_eq_ok, orThrow_eq_ok, requiredString_eq_ok,
    exists_unit, pure_eq_ok, Prod.mk.injEq] at h
  obtain ⟨projectId, hprojectId, releaseId, -, targetId, -, hproject, release, hrelease, target, htarget,
    ⟨hbelongs, hsame⟩, profile, -, hexpected, hnew, rfl, -⟩ := h
  suffices ∃ (id : String) (promotion : PromotionRecord),
      next.put .promotions _ _ = next.put .promotions id promotion ∧ promotion.id = id ∧
        promotion.New next by
    obtain ⟨_, promotion, hput, rfl, hpromotion⟩ := this
    exact ⟨promotion, hpromotion, hput⟩
  exact ⟨_, _, rfl, rfl, hnew, (optionalString_trim hprojectId).2, hproject, ⟨release, hrelease, hbelongs⟩,
    ⟨target, htarget, hsame, hexpected⟩, rfl, rfl, rfl, rfl⟩

end

end Anyam.Authority
