import Anyam.Extensions.Registry
import Anyam.Kernel.Evidence

/-!
# The registry of Governance Profiles

`GovernanceProfileRegistry` of `governance/profiles.ts`: profiles of controls, their activation in
a scope, the evaluation of observations against them, and a bundle that is replayed in another
registry. A profile is stored under its identifier, version and digest, and looked up by its
identifier alone.

- `registerProfile`, `activateProfile`, `evaluate`, `exportProfile`, `replay`: the methods.
- `verifyGovernanceProfileExport`: what is checked of a bundle before it is replayed.

What `RealmIdentityPolicy.evaluate` answers is given by `GovernanceRealm`; SHA-256 over stable JSON
and the credential scanner are the fields of `GovernanceServices`. A JSON copy of a record is the
record.
-/

namespace Anyam.Governance

open Anyam.Lib Anyam.Kernel Anyam.Identity Anyam.Extensions

/-! ## Records -/

structure GovernanceScope where
  realmId : String
  organizationId : Option String := none
  projectId : Option String := none
deriving DecidableEq, Repr

structure GovernanceControl where
  id : String
  title : String
  requirement : String
  owner : String
  required : Bool
  evidenceKinds : List String
  customerResponsibility : Option String := none
deriving DecidableEq, Repr

structure GovernanceProvenance extends ExtensionProvenance where
  signer : Option String := none
  attestation : Option String := none
deriving DecidableEq, Repr

inductive GovernanceLifecycle
  | draft | active | retired
deriving DecidableEq, Repr

/-- `profileDigestInput`: what the digest of a profile is taken of. -/
structure ProfileDefinition where
  protocol : String
  id : String
  name : String
  version : String
  controls : List GovernanceControl
  provenance : GovernanceProvenance
deriving DecidableEq, Repr

structure GovernanceProfile extends ProfileDefinition where
  digest : String
  scope : GovernanceScope
  policyVersion : String
  lifecycle : GovernanceLifecycle
  receipt : String
deriving DecidableEq, Repr

inductive ControlStatus
  | satisfied | failed | indeterminate
deriving DecidableEq, Repr

def ControlStatus.text : ControlStatus → String
  | satisfied => "satisfied"
  | failed => "failed"
  | indeterminate => "indeterminate"

structure GovernanceControlObservation where
  controlId : String
  status : ControlStatus
  evidenceRefs : List String
  observedAt : String
  owner : String
  nextAction : String
  disclosure : DisclosurePolicyRef
  receipt : String
deriving DecidableEq, Repr

structure GovernanceControlEvidence where
  protocol : String := "anyam.governance-control-evidence/v1"
  id : String
  profileId : String
  profileDigest : String
  scope : GovernanceScope
  controlId : String
  status : ControlStatus
  evidenceRefs : List String
  policyVersion : String
  authorizationEpoch : Nat
  observedAt : String
  owner : String
  nextAction : String
  disclosure : DisclosurePolicyRef
  certificationClaim : Bool := false
  receipt : String
deriving DecidableEq, Repr

inductive EvaluationStatus
  | ready | blocked | indeterminate
deriving DecidableEq, Repr

def EvaluationStatus.text : EvaluationStatus → String
  | ready => "ready"
  | blocked => "blocked"
  | indeterminate => "indeterminate"

structure GovernanceEvaluation where
  protocol : String := "anyam.governance-evaluation/v1"
  id : String
  profileId : String
  profileDigest : String
  scope : GovernanceScope
  status : EvaluationStatus
  evidenceIds : List String
  blockers : List String
  advisories : List String
  policyVersion : String
  authorizationEpoch : Nat
  certificationClaim : Bool := false
  receipt : String
deriving DecidableEq, Repr

/-- A bundle without its digest. -/
structure ExportContents where
  protocol : String
  version : String
  exportId : String
  createdAt : String
  profile : GovernanceProfile
  observations : List GovernanceControlObservation
  evaluation : GovernanceEvaluation
  credentialFree : Bool
  receipt : String
deriving DecidableEq, Repr

structure GovernanceProfileExport extends ExportContents where
  integrityDigest : String
deriving DecidableEq, Repr

structure GovernanceProfileApplication where
  id : String
  profileId : String
  profileDigest : String
  scope : GovernanceScope
  policyVersion : String
  authorizationEpoch : Nat
  active : Bool
  activatedBy : String
  activatedAt : String
  receipt : String
deriving DecidableEq, Repr

structure GovernanceProfileRegistry where
  profiles : OrderedMap String GovernanceProfile := .empty
  applications : OrderedMap String GovernanceProfileApplication := .empty
  evidence : OrderedMap String GovernanceControlEvidence := .empty
  evaluations : OrderedMap String GovernanceEvaluation := .empty

/-! ## Errors and inputs -/

inductive GovernanceErrorCode
  | invalidInput | profileInvalid | profileNotFound | profileDigestMismatch | scopeMismatch
  | profileInactive | policyDenied | exportInvalid
deriving DecidableEq, Repr

structure GovernanceProfileError where
  code : GovernanceErrorCode
  message : String
  affectedObject : String
  recoveryAction : String
  receipt : String
  explanation : Option PolicyExplanation := none
deriving DecidableEq, Repr

structure EvaluateGovernanceProfileInput where
  profileId : String
  scope : GovernanceScope
  observations : List GovernanceControlObservation
  authorization : ExtensionAuthorization

structure ReplayGovernanceProfileInput where
  scope : GovernanceScope
  authorization : ExtensionAuthorization
  observations : Option (List GovernanceControlObservation) := none

structure GovernanceServices where
  profileDigest : ProfileDefinition → String
  exportDigest : ExportContents → String
  observationsDigest : List GovernanceControlObservation → String
  scanCredentialMaterial : ExportContents → Option String

/-- The Realm of a registry, as one call finds it. -/
structure GovernanceRealm where
  realm : Realm
  evaluate : PolicyEvaluationInput → PolicyDecision

/-- What one call draws: the identifiers by what they are for, those of the evidence one after the
other, and the time. No identifier is drawn twice. -/
structure GovernanceDrawn where
  opaqueId : String → String
  evidenceId : Nat → String
  distinct : Function.Injective evidenceId
  now : String

abbrev GovernanceM := Transact GovernanceProfileRegistry GovernanceProfileError

abbrev Checked := Except GovernanceProfileError

namespace GovernanceM

abbrev registry : GovernanceM GovernanceProfileRegistry := Transact.state

abbrev require (p : Prop) [Decidable p] (error : GovernanceProfileError) : GovernanceM Unit :=
  Transact.require p error

abbrev check {α : Type} (checked : Checked α) : GovernanceM α := Transact.ofExcept checked

end GovernanceM

open GovernanceM

/-! ## What is checked of an input -/

def requireText (value field : String) : Checked Unit :=
  Lib.require (trim value ≠ "") {
    code := .invalidInput
    message := s!"{field} must not be empty."
    affectedObject := field
    recoveryAction := s!"provide a non-empty {field} and retry"
    receipt := s!"field={field}; present=false" }

def unique (values : List String) (field : String) : Checked Unit :=
  Lib.require ((∀ value ∈ values, trim value ≠ "") ∧ values.Nodup) {
    code := .invalidInput
    message := s!"{field} must contain distinct non-empty values."
    affectedObject := field
    recoveryAction := s!"deduplicate and populate {field} before retrying"
    receipt := s!"field={field}; count={values.length}; unique={values.dedup.length}" }

def requireOptionalText (value : Option String) (field : String) : Checked Unit :=
  match value with
  | some value => requireText value field
  | none => .ok ()

def validateScope (scope : GovernanceScope) (realmId : String) : Checked Unit := do
  requireText scope.realmId "scope.realmId"
  requireOptionalText scope.organizationId "scope.organizationId"
  requireOptionalText scope.projectId "scope.projectId"
  Lib.require (scope.realmId = realmId) {
    code := .scopeMismatch
    message := s!"Governance Profile scope {scope.realmId} belongs to another Realm."
    affectedObject := scope.realmId
    recoveryAction := s!"replay or activate the profile in Realm {realmId}"
    receipt := s!"active-realm={realmId}; requested-realm={scope.realmId}" }

def scopeResource (scope : GovernanceScope) : ResourceRef where
  realmId := scope.realmId
  organizationId := scope.organizationId
  projectId := scope.projectId

def scopeKey (scope : GovernanceScope) : String :=
  scope.realmId ++ "|" ++ scope.organizationId.getD "" ++ "|" ++ scope.projectId.getD ""

/-- The controls by their identifiers, after those that were read before. -/
def readControls (read : OrderedMap String GovernanceControl) :
    List GovernanceControl → Checked (OrderedMap String GovernanceControl)
  | [] => .ok read
  | control :: controls => do
    requireText control.id "control.id"
    requireText control.title s!"control.{control.id}.title"
    requireText control.requirement s!"control.{control.id}.requirement"
    requireText control.owner s!"control.{control.id}.owner"
    unique control.evidenceKinds s!"control.{control.id}.evidenceKinds"
    Lib.require (read.get? control.id = none) {
      code := .profileInvalid
      message := s!"Governance Profile contains duplicate control {control.id}."
      affectedObject := control.id
      recoveryAction := "give every Governance Control a unique stable identifier"
      receipt := s!"control={control.id}; duplicate=true" }
    readControls (read.set control.id control) controls

def controlMap (controls : List GovernanceControl) :
    Checked (OrderedMap String GovernanceControl) := do
  let read ← readControls .empty controls
  Lib.require (read.entries ≠ []) {
    code := .profileInvalid
    message := "Governance Profile must declare at least one control."
    affectedObject := "controls"
    recoveryAction := "declare the first versioned control before activating the Profile"
    receipt := "controls=0" }
  return read

/-- The observations by their controls, after those that were read before. -/
def readObservations (profileId : String) (controls : OrderedMap String GovernanceControl)
    (read : OrderedMap String GovernanceControlObservation) :
    List GovernanceControlObservation → Checked (OrderedMap String GovernanceControlObservation)
  | [] => .ok read
  | observation :: observations => do
    Lib.require ((controls.get? observation.controlId).isSome) {
      code := .profileInvalid
      message := s!"Observation references unknown Governance Control {observation.controlId}."
      affectedObject := observation.controlId
      recoveryAction := "record observations only for controls declared by the immutable profile"
      receipt := s!"profile={profileId}; control={observation.controlId}; known=false" }
    Lib.require (read.get? observation.controlId = none) {
      code := .profileInvalid
      message := s!"Governance Control {observation.controlId} has duplicate observations."
      affectedObject := observation.controlId
      recoveryAction := "publish one exact-context observation per control and retry"
      receipt := s!"profile={profileId}; control={observation.controlId}; duplicate=true" }
    requireText observation.owner s!"observation.{observation.controlId}.owner"
    requireText observation.nextAction s!"observation.{observation.controlId}.nextAction"
    requireText observation.receipt s!"observation.{observation.controlId}.receipt"
    requireText observation.observedAt s!"observation.{observation.controlId}.observedAt"
    unique observation.evidenceRefs s!"observation.{observation.controlId}.evidenceRefs"
    readObservations profileId controls (read.set observation.controlId observation) observations

/-! ## Bundles -/

section

variable (services : GovernanceServices)

def verifyGovernanceProfileExport (bundle : GovernanceProfileExport) :
    Checked GovernanceProfileExport := do
  Lib.require (bundle.protocol = "anyam.governance-profile-export/v1" ∧ bundle.version = "v1" ∧
      bundle.credentialFree = true) {
    code := .exportInvalid
    message := "Governance Profile export is not a credential-free anyam.governance-profile-export/v1 bundle."
    affectedObject := bundle.exportId
    recoveryAction := "regenerate the export with the supported protocol and without credential material"
    receipt := s!"protocol={bundle.protocol}; version={bundle.version}; credentialFree={bundle.credentialFree}" }
  let actual := services.exportDigest bundle.toExportContents
  Lib.require (actual = bundle.integrityDigest) {
    code := .exportInvalid
    message := "Governance Profile export digest does not match its contents."
    affectedObject := bundle.exportId
    recoveryAction := "restore the owner-controlled bundle and rerun verification"
    receipt := s!"expected={bundle.integrityDigest}; actual={actual}" }
  let credentialKey := services.scanCredentialMaterial bundle.toExportContents
  let credentialField := credentialKey.getD ""
  Lib.require (truthy credentialKey = none) {
    code := .exportInvalid
    message := s!"Governance Profile export contains credential-shaped field {credentialField}."
    affectedObject := bundle.exportId
    recoveryAction := "remove credential material and regenerate the credential-free export"
    receipt := s!"credentialField={credentialField}; scanner=anyam.credential-material-scanner/v1; credentialFree=true required" }
  let expected := services.profileDigest bundle.profile.toProfileDefinition
  Lib.require (expected = bundle.profile.digest) {
    code := .profileDigestMismatch
    message := s!"Governance Profile {bundle.profile.id} has a stale digest inside the export."
    affectedObject := bundle.profile.id
    recoveryAction := "recreate the bundle from the immutable profile definition"
    receipt := s!"expected={bundle.profile.digest}; actual={expected}" }
  return bundle

/-! ## The registry -/

def profileKey (profile : GovernanceProfile) : String :=
  s!"{profile.id}@{profile.version}#{profile.digest}"

def applicationKey (profile : GovernanceProfile) (scope : GovernanceScope) : String :=
  s!"{profile.id}#{profile.digest}|{scopeKey scope}"

namespace GovernanceProfileRegistry

/-- The first profile of an identifier. -/
def getProfile (registry : GovernanceProfileRegistry) (profileId : String) :
    Option GovernanceProfile :=
  registry.profiles.values.find? (·.id = profileId)

def applicationFor (registry : GovernanceProfileRegistry) (profile : GovernanceProfile)
    (scope : GovernanceScope) : Option GovernanceProfileApplication :=
  registry.applications.get? (applicationKey profile scope)

end GovernanceProfileRegistry

def asPolicyInput (authorization : ExtensionAuthorization) (capability : Capability)
    (resource : ResourceRef) (operation : String) : PolicyEvaluationInput where
  operation
  capability := some capability
  principalId := authorization.principalId
  actorId := authorization.actorId
  clientId := authorization.clientId
  sessionId := authorization.sessionId
  taskId := some authorization.taskId
  grantId := some authorization.grantId
  resource
  sourceSpaceId := truthy resource.sourceSpaceId
  modelProvider := truthy authorization.modelProvider
  requiredAuthStrength := authorization.requiredAuthStrength
  «protected» := some true

variable (realm : GovernanceRealm)

def authorize (authorization : ExtensionAuthorization) (capability : Capability)
    (resource : ResourceRef) (operation : String) : GovernanceM Unit := do
  let result := realm.evaluate (asPolicyInput authorization capability resource operation)
  require (result.allowed = true) {
    code := .policyDenied
    message := s!"Governance Profile operation {operation} is {result.explanation.decision.text}; no profile transition was performed."
    affectedObject := resource.projectId.getD resource.realmId
    recoveryAction := result.explanation.remediation
    receipt := s!"policy={result.explanation.policyVersion}; epoch={result.explanation.authorizationEpoch}; decision={result.explanation.decision.text}"
    explanation := some result.explanation }

def requireProfile (profileId : String) : GovernanceM GovernanceProfile := do
  let registry ← registry
  Transact.orThrow (registry.getProfile profileId) {
    code := .profileNotFound
    message := s!"Governance Profile {profileId} is not registered in this Realm."
    affectedObject := profileId
    recoveryAction := "register the owner-controlled profile export before activation"
    receipt := s!"profile={profileId}; present=false" }

def checkProfile (profile : GovernanceProfile) : Checked Unit := do
  requireText profile.id "profile.id"
  requireText profile.name "profile.name"
  requireText profile.version "profile.version"
  requireText profile.policyVersion "profile.policyVersion"
  requireText profile.provenance.source "profile.provenance.source"
  requireText profile.provenance.publisher "profile.provenance.publisher"
  requireText profile.provenance.receipt "profile.provenance.receipt"
  validateScope profile.scope realm.realm.id
  let _ ← controlMap profile.controls
  Lib.require (profile.protocol = "anyam.governance-profile/v1") {
    code := .profileInvalid
    message := s!"Governance Profile {profile.id} does not use anyam.governance-profile/v1."
    affectedObject := profile.id
    recoveryAction := "publish a versioned Governance Profile before registration"
    receipt := s!"protocol={profile.protocol}" }
  let actualDigest := services.profileDigest profile.toProfileDefinition
  Lib.require (actualDigest = profile.digest) {
    code := .profileDigestMismatch
    message := s!"Governance Profile {profile.id}@{profile.version} digest does not match its requirements."
    affectedObject := profile.id
    recoveryAction := "recreate the profile with createGovernanceProfile or publish the matching digest"
    receipt := s!"expected={profile.digest}; actual={actualDigest}" }

/-- Store a profile, unless one is stored under its key. -/
def storeProfile (profile : GovernanceProfile) (registry : GovernanceProfileRegistry) :
    GovernanceProfileRegistry :=
  if (registry.profiles.get? (profileKey profile)).isSome then registry
  else { registry with profiles := registry.profiles.set (profileKey profile) profile }

def registerProfile (profile : GovernanceProfile) : GovernanceM Unit := do
  check (checkProfile services realm profile)
  Transact.update (storeProfile profile)

variable (drawn : GovernanceDrawn)

def activateProfile (profileId : String) (scope : GovernanceScope)
    (authorization : ExtensionAuthorization) : GovernanceM Unit := do
  let profile ← requireProfile profileId
  require (profile.lifecycle ≠ .retired) {
    code := .profileInactive
    message := s!"Governance Profile {profile.id} is retired and cannot be activated."
    affectedObject := profile.id
    recoveryAction := "publish a new versioned Governance Profile and activate that replacement"
    receipt := s!"profile={profile.id}; lifecycle=retired" }
  check (validateScope scope realm.realm.id)
  authorize realm authorization .governanceProfileManage (scopeResource scope)
    "governance.profile.activate"
  Transact.update fun registry => { registry with
    profiles := registry.profiles.set (profileKey profile) { profile with lifecycle := .active }
    applications := registry.applications.set (applicationKey profile scope) {
      id := ((registry.applicationFor profile scope).map (·.id)).getD
        (drawn.opaqueId "governance-application")
      profileId := profile.id
      profileDigest := profile.digest
      scope
      policyVersion := realm.realm.policyVersion
      authorizationEpoch := realm.realm.authorizationEpoch
      active := true
      activatedBy := authorization.principalId
      activatedAt := drawn.now
      receipt := s!"profile={profile.id}@{profile.version}; digest={profile.digest}; scope={scopeKey scope}; policy={realm.realm.policyVersion}; epoch={realm.realm.authorizationEpoch}" } }

/-! ## Evaluations -/

/-- What an evaluation has written so far. -/
structure Tally where
  evidence : OrderedMap String GovernanceControlEvidence
  evidenceIds : List String := []
  blockers : List String := []
  advisories : List String := []

def Tally.block (tally : Tally) (message : String) : Tally :=
  { tally with blockers := tally.blockers ++ [message] }

def Tally.advise (tally : Tally) (message : String) : Tally :=
  { tally with advisories := tally.advisories ++ [message] }

def controlEvidence (profile : GovernanceProfile) (scope : GovernanceScope) (id controlId : String)
    (observation : GovernanceControlObservation) : GovernanceControlEvidence where
  id
  profileId := profile.id
  profileDigest := profile.digest
  scope
  controlId
  status := observation.status
  evidenceRefs := observation.evidenceRefs
  policyVersion := realm.realm.policyVersion
  authorizationEpoch := realm.realm.authorizationEpoch
  observedAt := observation.observedAt
  owner := observation.owner
  nextAction := observation.nextAction
  disclosure := observation.disclosure
  receipt := s!"profile={profile.id}; control={controlId}; status={observation.status.text}; source={services.observationsDigest [observation]}"

def missingMessage (control : GovernanceControl) : String :=
  s!"Control {control.id} is missing an observation; next=" ++
    (if control.required then "record exact-context control Evidence"
      else "record or explicitly defer the optional control") ++ "."

/-- What a control comes to with its observation. -/
def tallyObservation (control : GovernanceControl) (observation : GovernanceControlObservation)
    (tally : Tally) : Tally :=
  if observation.status = .failed ∧ control.required = true then
    tally.block s!"Control {control.id} failed; next={observation.nextAction}."
  else if observation.status = .indeterminate ∧ control.required = true then
    tally.block s!"Control {control.id} is indeterminate; next={observation.nextAction}."
  else if observation.status ≠ .satisfied then
    tally.advise s!"Control {control.id} is {observation.status.text}; next={observation.nextAction}."
  else tally

def tallyControl (profile : GovernanceProfile) (scope : GovernanceScope)
    (observed : OrderedMap String GovernanceControlObservation) (tally : Tally)
    (control : GovernanceControl) : Tally :=
  match observed.get? control.id with
  | none =>
    if control.required then tally.block (missingMessage control)
    else tally.advise (missingMessage control)
  | some observation =>
    let id := drawn.evidenceId tally.evidenceIds.length
    tallyObservation control observation { tally with
      evidence := tally.evidence.set id
        (controlEvidence services realm profile scope id control.id observation)
      evidenceIds := tally.evidenceIds ++ [id] }

def evaluationStatus (blockers : List String) (hasIndeterminate : Bool) : EvaluationStatus :=
  if blockers ≠ [] then .blocked else if hasIndeterminate then .indeterminate else .ready

def evaluate (input : EvaluateGovernanceProfileInput) : GovernanceM GovernanceEvaluation := do
  let profile ← requireProfile input.profileId
  check (validateScope input.scope realm.realm.id)
  let registry ← registry
  require (((registry.applicationFor profile input.scope).any (·.active)) = true) {
    code := .profileInactive
    message := s!"Governance Profile {profile.id} is not active for the requested scope."
    affectedObject := profile.id
    recoveryAction := "activate the profile through an owner-authorized Governance Profile Change before evaluating it"
    receipt := s!"profile={profile.id}; scope={scopeKey input.scope}; active=false" }
  authorize realm input.authorization .governanceProfileEvaluate (scopeResource input.scope)
    "governance.profile.evaluate"
  let controls ← check (controlMap profile.controls)
  let observed ← check (readObservations profile.id controls .empty input.observations)
  let tally := controls.values.foldl (tallyControl services realm drawn profile input.scope observed)
    { evidence := registry.evidence }
  let hasIndeterminate := tally.evidenceIds.any fun id =>
    (tally.evidence.get? id).any (·.status = .indeterminate)
  let status := evaluationStatus tally.blockers hasIndeterminate
  let evaluation : GovernanceEvaluation := {
    id := drawn.opaqueId "governance-evaluation"
    profileId := profile.id
    profileDigest := profile.digest
    scope := input.scope
    status
    evidenceIds := tally.evidenceIds
    blockers := tally.blockers
    advisories := tally.advisories
    policyVersion := realm.realm.policyVersion
    authorizationEpoch := realm.realm.authorizationEpoch
    receipt := s!"profile={profile.id}; digest={profile.digest}; status={status.text}; evidence={tally.evidenceIds.length}; certificationClaim=false" }
  Transact.update fun registry => { registry with
    evidence := tally.evidence
    evaluations := registry.evaluations.set evaluation.id evaluation }
  return evaluation

/-! ## Export and replay -/

def exportProfile (profileId : String) (input : EvaluateGovernanceProfileInput) :
    GovernanceM GovernanceProfileExport := do
  require (input.profileId = profileId) {
    code := .profileInvalid
    message := "Export profile ID must match the evaluated profile ID."
    affectedObject := profileId
    recoveryAction := "evaluate and export the same immutable profile definition"
    receipt := s!"export={profileId}; evaluated={input.profileId}" }
  let profile ← requireProfile profileId
  let evaluation ← evaluate services realm drawn input
  let contents : ExportContents := {
    protocol := "anyam.governance-profile-export/v1"
    version := "v1"
    exportId := drawn.opaqueId "governance-export"
    createdAt := drawn.now
    profile
    observations := input.observations
    evaluation
    credentialFree := true
    receipt := s!"profile={profile.id}; digest={profile.digest}; evaluation={evaluation.id}; credentialFree=true" }
  return { contents with integrityDigest := services.exportDigest contents }

/-- The profile of a bundle, in the scope it is replayed in. -/
def targetProfile (bundle : GovernanceProfileExport) (scope : GovernanceScope) : GovernanceProfile :=
  { bundle.profile with scope, lifecycle := .draft }

def replay (bundle : GovernanceProfileExport) (input : ReplayGovernanceProfileInput) :
    GovernanceM GovernanceEvaluation := do
  let verified ← check (verifyGovernanceProfileExport services bundle)
  check (validateScope input.scope realm.realm.id)
  let target := targetProfile verified input.scope
  registerProfile services realm target
  let registry ← registry
  if registry.applicationFor target input.scope = none then
    activateProfile realm drawn target.id input.scope input.authorization
  evaluate services realm drawn {
    profileId := target.id
    scope := input.scope
    observations := input.observations.getD verified.observations
    authorization := input.authorization }

end

end Anyam.Governance
