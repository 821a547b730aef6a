import Anyam.Identity.Evaluation

/-!
# The extension registry

`ExtensionRegistry` of `extensions/registry.ts`: manifests pinned by version and digest, their
installations in a scope, and invocations. Whatever an extension is allowed goes through the
policy of the Realm, which the registry asks one evaluation at a time.

- `registerManifest`, `install`, `replace`, `transition`: how an installation comes to be, and ends.
- `invoke`: the checks of an invocation, and one evaluation for each requested capability.
- `ExtensionWorld.evaluations`: what the registry asked of the policy so far, with the answers. No
  method reads it.

The identifier and the time of an event, which nothing reads, are left out.
-/

namespace Anyam.Extensions

open Anyam.Lib Anyam.Kernel Anyam.Identity

/-! ## Records -/

inductive ExtensionKind
  | repositoryDriver | action | verifier | targetAdapter | projectExperience | ide | agentSkill
  | app
deriving DecidableEq, Repr

def ExtensionKind.text : ExtensionKind → String
  | repositoryDriver => "repository-driver"
  | action => "action"
  | verifier => "verifier"
  | targetAdapter => "target-adapter"
  | projectExperience => "project-experience"
  | ide => "ide"
  | agentSkill => "agent-skill"
  | app => "app"

inductive ExtensionTrust
  | firstParty | verified | unverified
deriving DecidableEq, Repr

def ExtensionTrust.text : ExtensionTrust → String
  | firstParty => "first-party"
  | verified => "verified"
  | unverified => "unverified"

inductive ExtensionLifecycle
  | proposed | installed | enabled | suspended | deprecated | replaced | revoked | blocked
deriving DecidableEq, Repr

def ExtensionLifecycle.text : ExtensionLifecycle → String
  | proposed => "proposed"
  | installed => "installed"
  | enabled => "enabled"
  | suspended => "suspended"
  | deprecated => "deprecated"
  | replaced => "replaced"
  | revoked => "revoked"
  | blocked => "blocked"

structure ExtensionProvenance where
  source : String
  publisher : String
  receipt : String
deriving DecidableEq, Repr

structure ExtensionManifest where
  protocol : String := "anyam.extension/v1"
  id : String
  name : String
  version : String
  kind : ExtensionKind
  trust : ExtensionTrust
  source : String
  digest : String
  requestedEffects : List String
  requestedCapabilities : List String
  lifecycle : ExtensionLifecycle
  compatibility : List String
  provenance : ExtensionProvenance
deriving DecidableEq, Repr

inductive ExtensionScope
  | realm (realmId : String)
  | organization (realmId organizationId : String)
  | project (realmId : String) (organizationId : Option String) (projectId : String)
deriving DecidableEq, Repr

def ExtensionScope.realmId : ExtensionScope → String
  | realm realmId => realmId
  | organization realmId _ => realmId
  | project realmId _ _ => realmId

def ExtensionScope.kind : ExtensionScope → String
  | realm _ => "realm"
  | organization .. => "organization"
  | project .. => "project"

structure ExtensionInstallation where
  id : String
  manifestId : String
  manifestVersion : String
  manifestDigest : String
  scope : ExtensionScope
  lifecycle : ExtensionLifecycle
  grantedEffects : List String
  grantedCapabilities : List String
  grantId : String
  policyVersion : String
  authorizationEpoch : Nat
  installedBy : ActorRef
  installedAt : String
  lineageId : String
  replacesInstallationId : Option String := none
  providerMigrationFrom : Option String := none
  receipt : String
deriving DecidableEq, Repr

inductive ExtensionEventKind
  | registered | installRequested | installed | enabled | suspended | deprecated | replaced
  | providerMigrated | revoked | blocked | invocationProposed | invoked | invocationBlocked
deriving DecidableEq, Repr

structure ExtensionEvent where
  kind : ExtensionEventKind
  manifestId : String
  installationId : Option String := none
  previousInstallationId : Option String := none
  nextInstallationId : Option String := none
  actor : Option ActorRef := none
  reason : String
  receipt : String
deriving DecidableEq, Repr

/-! ## Inputs and results -/

structure ExtensionAuthorization where
  principalId : String
  actorId : String
  clientId : String
  sessionId : String
  taskId : String
  grantId : String
  resource : ResourceRef
  modelProvider : Option String := none
  requiredAuthStrength : Option AuthenticationStrength := none
  authorityClass : Option AuthorityClass := none
  promotionId : Option String := none
  approval : Option PolicyApproval := none
deriving DecidableEq, Repr

structure InstallExtensionInput where
  manifestId : String
  manifestVersion : String
  packageDigest : String
  scope : ExtensionScope
  grantedEffects : List String
  grantedCapabilities : List Capability
  authorization : ExtensionAuthorization
  receipt : Option String := none
  replacesInstallationId : Option String := none
  providerMigrationFrom : Option String := none
deriving DecidableEq, Repr

structure InvokeExtensionInput where
  installationId : String
  requestedEffects : List String
  requestedCapabilities : List Capability
  resource : ResourceRef
  authorization : ExtensionAuthorization
  operation : Option String := none
deriving DecidableEq, Repr

inductive ExtensionInvocationStatus
  | allowed | blocked | proposal
deriving DecidableEq, Repr

def ExtensionInvocationStatus.text : ExtensionInvocationStatus → String
  | allowed => "allowed"
  | blocked => "blocked"
  | proposal => "proposal"

structure ExtensionInvocationResult where
  status : ExtensionInvocationStatus
  installationId : String
  requestedEffects : List String
  requestedCapabilities : List Capability
  policyExplanations : List PolicyExplanation
  nextAction : String
  receipt : String
deriving DecidableEq, Repr

inductive ExtensionErrorCode
  | invalidInput | manifestInvalid | manifestNotFound | digestMismatch | compatibilityMismatch
  | trustBoundary | installationNotFound | scopeMismatch | grantWidening | policyDenied
  | lifecycleBlocked
deriving DecidableEq, Repr

def ExtensionErrorCode.text : ExtensionErrorCode → String
  | invalidInput => "invalid-input"
  | manifestInvalid => "manifest-invalid"
  | manifestNotFound => "manifest-not-found"
  | digestMismatch => "digest-mismatch"
  | compatibilityMismatch => "compatibility-mismatch"
  | trustBoundary => "trust-boundary"
  | installationNotFound => "installation-not-found"
  | scopeMismatch => "scope-mismatch"
  | grantWidening => "grant-widening"
  | policyDenied => "policy-denied"
  | lifecycleBlocked => "lifecycle-blocked"

structure ExtensionError where
  code : ExtensionErrorCode
  message : String
  affectedObject : String
  recoveryAction : String
  receipt : String
  explanation : Option PolicyExplanation := none
deriving DecidableEq, Repr

/-- What a method can throw: its own error, or one that the policy threw. -/
inductive ExtensionFailure
  | extension (error : ExtensionError)
  | realm (failure : RealmFailure)
deriving DecidableEq, Repr

/-- `error.message`. -/
def ExtensionFailure.message : ExtensionFailure → String
  | extension error => error.message
  | realm (.realm error) => error.message
  | realm .invalidDate => "Invalid time value"

/-- The explanation that an error of the registry carries. -/
def ExtensionFailure.explanation : ExtensionFailure → Option PolicyExplanation
  | extension error => error.explanation
  | realm _ => none

/-! ## State -/

/-- A question to the policy, and the answer. -/
structure PolicyEvaluation where
  input : PolicyEvaluationInput
  decision : PolicyDecision
deriving DecidableEq, Repr

/-- The fields of a registry, the policy it is made with, and what it asked of it. -/
structure ExtensionWorld where
  manifests : OrderedMap String ExtensionManifest
  installations : OrderedMap String ExtensionInstallation
  events : List ExtensionEvent
  realm : RealmState
  evaluations : List PolicyEvaluation

/-- A new registry. -/
def initialWorld (realm : RealmState) : ExtensionWorld where
  manifests := .empty
  installations := .empty
  events := []
  realm
  evaluations := []

/-- The identifiers a call draws: its own, and those of its evaluations one after the other. -/
structure ExtensionDrawn where
  uuid : String → String
  evaluation : Nat → RealmDrawn

def ExtensionDrawn.opaqueId (drawn : ExtensionDrawn) (kind : String) : String :=
  Kernel.opaqueId kind (drawn.uuid kind)

abbrev ExtensionM := Transact ExtensionWorld ExtensionFailure

namespace ExtensionM

abbrev state : ExtensionM ExtensionWorld := Transact.state

abbrev update (f : ExtensionWorld → ExtensionWorld) : ExtensionM Unit := Transact.update f

abbrev require (p : Prop) [Decidable p] (error : ExtensionError) : ExtensionM Unit :=
  Transact.require p (.extension error)

abbrev orThrow {α : Type} (value : Option α) (error : ExtensionError) : ExtensionM α :=
  Transact.orThrow value (.extension error)

end ExtensionM

open ExtensionM

/-! ## Checks -/

def highRiskEffects : List String :=
  ["canonical.write", "change.approve", "identity.manage", "policy.manage", "secret.value.read",
    "target-promote", "target.promote"]

def kernelAuthorityCapabilities : List Capability :=
  [.changeApprove, .landingRequest, .policyManage, .identityManage, .targetPromote]

/-- `value.trim().length === 0`. -/
def isBlank (value : String) : Bool := trim value = ""

def requireText (value field : String) (code : ExtensionErrorCode := .invalidInput) :
    ExtensionM Unit :=
  require (isBlank value = false) {
    code
    message := s!"{field} must not be empty."
    affectedObject := field
    recoveryAction := s!"provide a non-empty {field} and retry"
    receipt := s!"field={field}; present=false" }

/-- The values, when none is blank and none is there twice. -/
def unique (values : List String) (field : String) : ExtensionM (List String) := do
  require (∀ value ∈ values, isBlank value = false) {
    code := .invalidInput
    message := s!"{field} contains an empty value."
    affectedObject := field
    recoveryAction := s!"remove empty {field} entries and retry"
    receipt := s!"field={field}; count={values.length}" }
  require (values.dedup.length = values.length) {
    code := .invalidInput
    message := s!"{field} contains duplicate values."
    affectedObject := field
    recoveryAction := s!"deduplicate {field} and retry"
    receipt := s!"field={field}; count={values.length}; unique={values.dedup.length}" }
  return values

def assertDigest (value field : String) : ExtensionM Unit := do
  requireText value field .digestMismatch
  require (startsWith value "sha256:" = true) {
    code := .digestMismatch
    message := s!"{field} must be an explicit sha256 digest."
    affectedObject := field
    recoveryAction := "publish the package with a sha256 digest and retry"
    receipt := s!"field={field}; value={value}" }

def manifestKey (id version digest : String) : String := s!"{id}@{version}#{digest}"

def manifestPin (manifest : ExtensionManifest) : String :=
  manifestKey manifest.id manifest.version manifest.digest

def scopeResource : ExtensionScope → ResourceRef
  | .realm realmId => { realmId }
  | .organization realmId organizationId => { realmId, organizationId := some organizationId }
  | .project realmId organizationId projectId =>
    { realmId, organizationId, projectId := some projectId }

def scopeContains (scope : ExtensionScope) (resource : ResourceRef) : Bool :=
  scope.realmId = resource.realmId &&
    match scope with
    | .realm _ => true
    | .organization _ organizationId => resource.organizationId = some organizationId
    | .project _ organizationId projectId =>
      resource.organizationId = organizationId && resource.projectId = some projectId

def actorRef (authorization : ExtensionAuthorization) : ActorRef where
  principalId := authorization.principalId
  actorId := authorization.actorId
  sessionId := authorization.sessionId
  clientId := authorization.clientId

def highRisk (values : List String) : List String := values.filter (· ∈ highRiskEffects)

-- the two separators the texts join lists with
def joined (values : List String) : String := ",".intercalate values

def listed (values : List String) : String := ", ".intercalate values

/-- `value.replaceAll("-", ".")`. -/
def dotted (value : String) : String :=
  String.ofList (value.toList.map fun c => if c = '-' then '.' else c)

/-- An effect is the one of a capability: under its name, or with hyphens for its dots. -/
def matchesCapability (capability : Capability) (effect : String) : Bool :=
  effect = capability.text || dotted effect = capability.text

/-- The effect that goes to the policy with a capability. -/
def effectOf (effects : List String) (capability : Capability) : Option String :=
  effects.find? (matchesCapability capability)

structure AuthorizedOperation where
  operation : String
  capability : Capability
  resource : ResourceRef
  effect : Option String := none
deriving DecidableEq, Repr

def asPolicyInput (authorization : ExtensionAuthorization) (input : AuthorizedOperation) :
    PolicyEvaluationInput where
  operation := input.operation
  capability := some input.capability
  principalId := authorization.principalId
  actorId := authorization.actorId
  clientId := authorization.clientId
  sessionId := authorization.sessionId
  taskId := some authorization.taskId
  grantId := some authorization.grantId
  resource := input.resource
  sourceSpaceId := truthy input.resource.sourceSpaceId
  effect := truthy input.effect
  modelProvider := truthy authorization.modelProvider
  requiredAuthStrength := authorization.requiredAuthStrength
  authorityClass := authorization.authorityClass
  promotionId := truthy authorization.promotionId
  approval := authorization.approval
  «protected» := some true

/-- The error of `fail`. -/
def failure (code : ExtensionErrorCode) (affectedObject recoveryAction receipt : String) :
    ExtensionError where
  code
  message := s!"{code.text} for {affectedObject}; receipt={receipt}; fix={recoveryAction}."
  affectedObject
  recoveryAction
  receipt

/-! ## Lookups -/

def getManifest (w : ExtensionWorld) (id : String) (version digest : Option String) :
    Option ExtensionManifest :=
  let candidates := w.manifests.values.filter (·.id = id)
  let versioned := candidates.filter fun manifest =>
    (truthy version).all (manifest.version = ·)
  let digested := versioned.filter fun manifest => (truthy digest).all (manifest.digest = ·)
  digested.head?

def requireManifest (id version digest : String) : ExtensionM ExtensionManifest := do
  let w ← state
  orThrow (getManifest w id (some version) (some digest)) (failure .manifestNotFound id
    "restore the exact registered manifest before using this installation"
    s!"manifest={id}@{version}; digest={digest}")

def requireInstallation (id : String) : ExtensionM ExtensionInstallation := do
  let w ← state
  orThrow (w.installations.get? id) (failure .installationNotFound id
    "inspect the active Extension Installation and retry" s!"installation={id}; present=false")

def event (entry : ExtensionEvent) : ExtensionM Unit :=
  update fun w => { w with events := w.events ++ [entry] }

/-! ## The policy -/

section

variable (services : RealmServices)

/-- `this.options.realm.evaluate`. -/
def evaluatePolicy (input : PolicyEvaluationInput) (drawn : RealmDrawn) (clock : RealmClock) :
    ExtensionM PolicyDecision := fun w =>
  match evaluate services input drawn clock w.realm with
  | (.ok decision, realm) =>
    (.ok decision, { w with realm, evaluations := w.evaluations ++ [⟨input, decision⟩] })
  | (.error failure, realm) => (.error (.realm failure), { w with realm })

/-- The `i`-th evaluation of a call, which must allow. -/
def authorize (authorization : ExtensionAuthorization) (input : AuthorizedOperation)
    (drawn : ExtensionDrawn) (clock : RealmClock) (i : Nat) : ExtensionM PolicyExplanation := do
  let result ← evaluatePolicy services (asPolicyInput authorization input) (drawn.evaluation i)
    (clock.sub i)
  let explanation := result.explanation
  require (result.allowed = true) {
    code := .policyDenied
    message := s!"Extension operation {input.operation} is {explanation.decision.text}; no protected operation was performed."
    affectedObject := input.resource.projectId.getD input.resource.realmId
    recoveryAction := explanation.remediation
    receipt := s!"policy={explanation.policyVersion}; epoch={explanation.authorizationEpoch}; decision={explanation.decision.text}"
    explanation := some explanation }
  return explanation

/-! ## Manifests -/

section

variable (kernelCompatibility : List String)

/-- The manifest as it is kept: blocked when an unverified extension asks for too much. -/
def normalizedManifest (manifest : ExtensionManifest) : ExtensionManifest :=
  let unverifiedHighRisk := if manifest.trust = .unverified then
    highRisk (manifest.requestedEffects ++ manifest.requestedCapabilities) else []
  { manifest with
    lifecycle := if unverifiedHighRisk ≠ [] then .blocked
      else if manifest.lifecycle = .deprecated ∨ manifest.lifecycle = .revoked then
        manifest.lifecycle
      else .proposed }

/-- A manifest that is not there yet. The version of a package is pinned to one digest. -/
def fileManifest (manifest : ExtensionManifest) : ExtensionM ExtensionManifest := do
  let normalized := normalizedManifest manifest
  let w ← state
  require (∀ candidate ∈ w.manifests.values, candidate.id = normalized.id →
      candidate.version = normalized.version → candidate.digest = normalized.digest) {
    code := .digestMismatch
    message := s!"Extension {normalized.id}@{normalized.version} is already registered with another digest."
    affectedObject := normalized.id
    recoveryAction := "publish a new version instead of mutating an existing package pin"
    receipt := "immutable extension version pin" }
  update fun w => { w with manifests := w.manifests.set (manifestPin normalized) normalized }
  event {
    kind := if normalized.lifecycle = .blocked then .blocked else .registered
    manifestId := normalized.id
    reason := if normalized.lifecycle = .blocked then
        s!"unverified extension requests high-risk effects: {listed (highRisk (manifest.requestedEffects ++ manifest.requestedCapabilities))}"
      else "manifest accepted for review"
    receipt := s!"manifest={normalized.id}@{normalized.version}; digest={normalized.digest}; trust={normalized.trust.text}" }
  return normalized

/-- The texts of a manifest, and its digest. -/
def checkManifestTexts (manifest : ExtensionManifest) : ExtensionM Unit := do
  requireText manifest.id "manifest.id"
  requireText manifest.name "manifest.name"
  requireText manifest.version "manifest.version"
  requireText manifest.source "manifest.source"
  requireText manifest.provenance.source "manifest.provenance.source"
  requireText manifest.provenance.publisher "manifest.provenance.publisher"
  requireText manifest.provenance.receipt "manifest.provenance.receipt"
  assertDigest manifest.digest "manifest.digest"

/-- What a registration asks of a manifest. -/
def checkManifest (manifest : ExtensionManifest) (packageDigest : String) : ExtensionM Unit := do
  checkManifestTexts manifest
  assertDigest packageDigest "packageDigest"
  require (manifest.digest = packageDigest) {
    code := .digestMismatch
    message := s!"Extension package digest does not match the manifest pin for {manifest.id}@{manifest.version}."
    affectedObject := manifest.id
    recoveryAction := "fetch the exact package named by the manifest digest or publish a new manifest"
    receipt := s!"manifest={manifest.digest}; package={packageDigest}" }
  require (manifest.protocol = "anyam.extension/v1") {
    code := .manifestInvalid
    message := s!"Extension {manifest.id} does not declare a supported anyam.extension/v1 kind."
    affectedObject := manifest.id
    recoveryAction := "publish a manifest with a supported extension kind and protocol"
    receipt := s!"protocol={manifest.protocol}; kind={manifest.kind.text}" }
  let compatibility ← unique manifest.compatibility "manifest.compatibility"
  let missing := (kernelCompatibility ++ ["anyam.extension/v1"]).filter (· ∉ compatibility)
  require (missing = []) {
    code := .compatibilityMismatch
    message := s!"Extension {manifest.id}@{manifest.version} is not compatible with the active Anyam contracts."
    affectedObject := manifest.id
    recoveryAction := s!"publish a manifest compatible with " ++
      listed (kernelCompatibility ++ ["anyam.extension/v1"])
    receipt := s!"missing={joined missing}" }
  let _ ← unique manifest.requestedEffects "manifest.requestedEffects"
  let _ ← unique manifest.requestedCapabilities "manifest.requestedCapabilities"
  return ()

def registerManifest (manifest : ExtensionManifest) (packageDigest : String) :
    ExtensionM ExtensionManifest := do
  checkManifest kernelCompatibility manifest packageDigest
  let w ← state
  match w.manifests.get? (manifestPin (normalizedManifest manifest)) with
  | some existing => return existing
  | none => fileManifest manifest

end

/-! ## Installations -/

/-- The identifiers of a scope below its Realm. -/
def validateScopeIds : ExtensionScope → ExtensionM Unit
  | .realm _ => pure ()
  | .organization _ organizationId => requireText organizationId "scope.organizationId"
  | .project _ none projectId => requireText projectId "scope.projectId"
  | .project _ (some organizationId) projectId => do
    requireText projectId "scope.projectId"
    requireText organizationId "scope.organizationId"

def validateScope (scope : ExtensionScope) : ExtensionM Unit := do
  requireText scope.realmId "scope.realmId"
  validateScopeIds scope
  let w ← state
  require (scope.realmId = w.realm.realm.id) (failure .scopeMismatch scope.realmId
    "install extensions only in the active Realm"
    s!"active-realm={w.realm.realm.id}; requested={scope.realmId}")

/-- `resource.projectId ?? "none"`. -/
def projectOrNone (resource : ResourceRef) : String := resource.projectId.getD "none"

/-- The manifest an installation is for, which must be open to it and declare what is granted. -/
def requireInstallable (input : InstallExtensionInput) : ExtensionM ExtensionManifest := do
  let w ← state
  let manifest ← orThrow (getManifest w input.manifestId (some input.manifestVersion)
      (some input.packageDigest)) (failure .manifestNotFound input.manifestId
    "install the exact registered manifest and package digest before granting it"
    s!"manifest={input.manifestId}@{input.manifestVersion}; digest={input.packageDigest}")
  require (manifest.lifecycle ∉ [.blocked, .deprecated, .revoked]) (failure .lifecycleBlocked
    manifest.id "use an enabled, non-deprecated extension manifest or register a replacement"
    s!"lifecycle={manifest.lifecycle.text}")
  validateScope input.scope
  require (scopeContains input.scope input.authorization.resource = true) (failure .scopeMismatch
    manifest.id
    "request installation against a Resource inside the declared Realm/Organization/Project scope"
    s!"scope={input.scope.kind}; resource-project={projectOrNone input.authorization.resource}")
  let grantedEffects ← unique input.grantedEffects "grantedEffects"
  let grantedCapabilities ← unique (input.grantedCapabilities.map (·.text)) "grantedCapabilities"
  let missingEffects := grantedEffects.filter (· ∉ manifest.requestedEffects)
  let missingCapabilities := grantedCapabilities.filter (· ∉ manifest.requestedCapabilities)
  require (missingEffects = [] ∧ missingCapabilities = []) (failure .grantWidening manifest.id
    "grant only effects and capabilities declared by the pinned manifest"
    s!"missing-effects={joined missingEffects}; missing-capabilities={joined missingCapabilities}")
  require ("canonical.write" ∉ grantedEffects) (failure .trustBoundary manifest.id
    "extensions publish a proposal; trusted Landing authority performs canonical writes"
    "canonical-write=true")
  return manifest

/-- The evaluations of the capabilities an installation is granted, from the `i`-th on. -/
def authorizeGrants (input : InstallExtensionInput) (drawn : ExtensionDrawn) (clock : RealmClock) :
    List Capability → Nat → ExtensionM Unit
  | [], _ => pure ()
  | capability :: rest, i => do
    let _ ← authorize services input.authorization {
      capability
      operation := s!"extension.grant.{capability.text}"
      resource := input.authorization.resource
      effect := some ((effectOf input.grantedEffects capability).getD capability.text) } drawn clock i
    authorizeGrants input drawn clock rest (i + 1)

/-- A new installation is filed and told of. -/
def fileInstallation (installation : ExtensionInstallation) (actor : ActorRef) :
    ExtensionM ExtensionInstallation := do
  update fun w => { w with installations := w.installations.set installation.id installation }
  let entry : ExtensionEvent := {
    kind := .installRequested
    installationId := some installation.id
    manifestId := installation.manifestId
    actor := some actor
    reason := "extension installation authorized against current Capability Grant and policy"
    receipt := s!"installation={installation.id}; grant=intersection" }
  event entry
  event { entry with
    kind := .installed
    reason := "exact package digest and scoped grant recorded"
    receipt := installation.receipt }
  event { entry with
    kind := .enabled
    reason := "installation enabled only after policy intersection"
    receipt := s!"installation={installation.id}; lifecycle=enabled" }
  return installation

def install (input : InstallExtensionInput) (drawn : ExtensionDrawn) (clock : RealmClock) :
    ExtensionM ExtensionInstallation := do
  let manifest ← requireInstallable input
  let _ ← authorize services input.authorization {
    capability := .extensionInstall
    operation := "extension.install"
    resource := scopeResource input.scope
    effect := some "extension.install" } drawn clock 0
  authorizeGrants services input drawn clock input.grantedCapabilities 1
  let w ← state
  let replaced := (truthy input.replacesInstallationId).bind w.installations.get?
  let installation : ExtensionInstallation := {
    id := drawn.opaqueId "extension-installation"
    manifestId := manifest.id
    manifestVersion := manifest.version
    manifestDigest := manifest.digest
    scope := input.scope
    lifecycle := .enabled
    grantedEffects := input.grantedEffects
    grantedCapabilities := input.grantedCapabilities.map (·.text)
    grantId := input.authorization.grantId
    policyVersion := w.realm.realm.policyVersion
    authorizationEpoch := w.realm.realm.authorizationEpoch
    installedBy := actorRef input.authorization
    installedAt := services.toISOString clock.now
    lineageId := (replaced.map (·.lineageId)).getD (drawn.opaqueId "extension-lineage")
    replacesInstallationId := truthy input.replacesInstallationId
    providerMigrationFrom := truthy input.providerMigrationFrom
    receipt := input.receipt.getD s!"manifest={manifest.id}@{manifest.version}; digest={manifest.digest}; scope={input.scope.kind}; policy={w.realm.realm.policyVersion}; epoch={w.realm.realm.authorizationEpoch}" }
  fileInstallation installation (actorRef input.authorization)

structure ReplaceExtensionInput where
  installationId : String
  /-- Its `replacesInstallationId` and `providerMigrationFrom` are not read. -/
  replacement : InstallExtensionInput
  authorization : ExtensionAuthorization
  reason : String
  providerMigration : Bool := false
deriving DecidableEq, Repr

/-- An authorization is the first evaluation of a replacement; those of the installation follow. -/
def replace (input : ReplaceExtensionInput) (drawn : ExtensionDrawn) (clock : RealmClock) :
    ExtensionM ExtensionInstallation := do
  let current ← requireInstallation input.installationId
  let currentManifest ← requireManifest current.manifestId current.manifestVersion
    current.manifestDigest
  require (scopeContains current.scope input.authorization.resource = true) (failure .scopeMismatch
    current.id "replace an extension from the same or narrower installation scope"
    s!"current-scope={current.scope.kind}; resource-project={projectOrNone input.authorization.resource}")
  let _ ← authorize services input.authorization {
    capability := .extensionManage
    operation := "extension.replace"
    resource := scopeResource current.scope
    effect := some "extension.replace" } drawn clock 0
  require (input.replacement.scope.kind = current.scope.kind ∧
      input.replacement.scope.realmId = current.scope.realmId) (failure .scopeMismatch current.id
    "replacement must remain in the same Realm and scope class"
    s!"current={current.scope.kind}; replacement={input.replacement.scope.kind}")
  let replacement ← install services { input.replacement with
      authorization := input.authorization
      replacesInstallationId := some current.id
      providerMigrationFrom := if input.providerMigration then some currentManifest.source else none }
    { drawn with evaluation := fun i => drawn.evaluation (i + 1) } (clock.sub 1)
  update fun w => { w with
    installations := w.installations.set current.id { current with lifecycle := .replaced } }
  event {
    kind := if input.providerMigration then .providerMigrated else .replaced
    installationId := some current.id
    manifestId := current.manifestId
    previousInstallationId := some current.id
    nextInstallationId := some replacement.id
    actor := some (actorRef input.authorization)
    reason := input.reason
    receipt := s!"previous={current.id}; next={replacement.id}; lineage={replacement.lineageId}" }
  return replacement

/-- Where an installation may be moved to by hand. -/
inductive ExtensionTransition
  | deprecated | suspended | revoked
deriving DecidableEq, Repr

def ExtensionTransition.lifecycle : ExtensionTransition → ExtensionLifecycle
  | deprecated => .deprecated
  | suspended => .suspended
  | revoked => .revoked

def ExtensionTransition.eventKind : ExtensionTransition → ExtensionEventKind
  | deprecated => .deprecated
  | suspended => .suspended
  | revoked => .revoked

structure ExtensionTransitionInput where
  installationId : String
  authorization : ExtensionAuthorization
  reason : String
deriving DecidableEq, Repr

/-- `deprecate`, `suspend` and `revoke`. -/
def transition (input : ExtensionTransitionInput) (target : ExtensionTransition)
    (drawn : ExtensionDrawn) (clock : RealmClock) : ExtensionM ExtensionInstallation := do
  let installation ← requireInstallation input.installationId
  let _ ← authorize services input.authorization {
    capability := .extensionManage
    operation := s!"extension.{target.lifecycle.text}"
    resource := scopeResource installation.scope
    effect := some s!"extension.{target.lifecycle.text}" } drawn clock 0
  require (installation.lifecycle ∉ [.replaced, .revoked]) (failure .lifecycleBlocked
    installation.id "transition only an active installation and preserve its prior lineage"
    s!"lifecycle={installation.lifecycle.text}")
  let moved := { installation with lifecycle := target.lifecycle }
  update fun w => { w with installations := w.installations.set moved.id moved }
  event {
    kind := target.eventKind
    installationId := some moved.id
    manifestId := moved.manifestId
    actor := some (actorRef input.authorization)
    reason := input.reason
    receipt := s!"installation={moved.id}; lifecycle={target.lifecycle.text}; lineage={moved.lineageId}" }
  return moved

/-! ## Invocations -/

def blockedInvocation (input : InvokeExtensionInput) (installation : ExtensionInstallation)
    (code : ExtensionErrorCode) (nextAction : String) (explanations : List PolicyExplanation) :
    ExtensionM ExtensionInvocationResult := do
  let receipt := s!"installation={installation.id}; status=blocked; code={code.text}; requested-effects={joined input.requestedEffects}; requested-capabilities=" ++
    joined (input.requestedCapabilities.map (·.text))
  event {
    kind := .invocationBlocked
    installationId := some installation.id
    manifestId := installation.manifestId
    actor := some (actorRef input.authorization)
    reason := nextAction
    receipt }
  return {
    status := .blocked
    installationId := installation.id
    requestedEffects := input.requestedEffects
    requestedCapabilities := input.requestedCapabilities
    policyExplanations := explanations
    nextAction, receipt }

/-- What an invocation asks of the policy for a capability. -/
def invocationOperation (input : InvokeExtensionInput) (capability : Capability) :
    AuthorizedOperation where
  capability
  operation := input.operation.getD s!"extension.invoke.{capability.text}"
  resource := input.resource
  effect := effectOf input.requestedEffects capability

/-- The evaluations of an invocation, from the `i`-th on: their explanations, and the message of the
one that did not allow, if there is one. -/
def authorizeInvocation (input : InvokeExtensionInput) (drawn : ExtensionDrawn)
    (clock : RealmClock) :
    List Capability → Nat → ExtensionM (List PolicyExplanation × Option String)
  | [], _ => pure ([], none)
  | capability :: rest, i => do
    match ← Transact.attempt (authorize services input.authorization
      (invocationOperation input capability) drawn clock i) with
    | .error thrown => return (thrown.explanation.toList, some thrown.message)
    | .ok explanation =>
      let (explanations, refusal) ← authorizeInvocation input drawn clock rest (i + 1)
      return (explanation :: explanations, refusal)

/-- An effect or a capability that the installation was not granted or the manifest does not
declare. -/
def ungranted (requested granted declared : List String) : List String :=
  requested.filter fun value => value ∉ granted || value ∉ declared

def invoke (input : InvokeExtensionInput) (drawn : ExtensionDrawn) (clock : RealmClock) :
    ExtensionM ExtensionInvocationResult := do
  let installation ← requireInstallation input.installationId
  let manifest ← requireManifest installation.manifestId installation.manifestVersion
    installation.manifestDigest
  let requestedEffects ← unique input.requestedEffects "requestedEffects"
  let requestedCapabilities ← unique (input.requestedCapabilities.map (·.text))
    "requestedCapabilities"
  if ¬ scopeContains installation.scope input.resource then
    blockedInvocation input installation .scopeMismatch
      "invoke only against a resource inside the installation scope" []
  else if installation.lifecycle ≠ .enabled then
    blockedInvocation input installation .lifecycleBlocked
      s!"installation lifecycle is {installation.lifecycle.text}; use an enabled replacement" []
  else if "secret.value.read" ∈ requestedCapabilities then
    blockedInvocation input installation .trustBoundary
      "Secret Use may invoke a brokered operation; extension processes never receive raw secret values" []
  else
    let missingEffects :=
      ungranted requestedEffects installation.grantedEffects manifest.requestedEffects
    let missingCapabilities := ungranted requestedCapabilities installation.grantedCapabilities
      manifest.requestedCapabilities
    if missingEffects ≠ [] ∨ missingCapabilities ≠ [] then
      blockedInvocation input installation .grantWidening
        s!"missing granted effects={joined missingEffects}; capabilities={joined missingCapabilities}" []
    else
      let (explanations, refusal) ←
        authorizeInvocation services input drawn clock input.requestedCapabilities 0
      match refusal with
      | some message => blockedInvocation input installation .policyDenied message explanations
      | none =>
        let proposal := input.requestedCapabilities.any (· ∈ kernelAuthorityCapabilities)
        let status := if proposal then .proposal else .allowed
        let nextAction := if proposal then
            "submit the normalized proposal to the trusted Anyam authority; the extension cannot apply the protected transition"
          else "execute only the declared effect inside the assigned Runner or provider boundary"
        let w ← state
        let receipt := s!"installation={installation.id}; manifest={manifest.id}@{manifest.version}; digest={manifest.digest}; status={status.text}; policy={w.realm.realm.policyVersion}; epoch={w.realm.realm.authorizationEpoch}"
        event {
          kind := if proposal then .invocationProposed else .invoked
          installationId := some installation.id
          manifestId := manifest.id
          actor := some (actorRef input.authorization)
          reason := nextAction
          receipt }
        return {
          status
          installationId := installation.id
          requestedEffects := input.requestedEffects
          requestedCapabilities := input.requestedCapabilities
          policyExplanations := explanations
          nextAction, receipt }

end

end Anyam.Extensions
