import Anyam.Identity.RealmRevocation
import Anyam.Installation.CustomerRealmRecords

/-!
# The installation of a customer Realm

`CustomerRealmInstallation` of `installation/customer-realm.ts`. A method is a `Transact` on the
object, which holds the saved state and the Realm policy in memory: a transition that cannot be
saved leaves the state as it was, but not the policy. Calls are made one after the other, and what
a call learns from outside is its `InstallationWorld`.

- `transition`: the one way the state changes.
- `recordProviderFailure`, `finishProvisioning`, `finishImport`: how a call of the provider ends.
- `recordDeploymentReadiness`: a report that is accepted in nine phases.
- `InstallationCall`, `step`: the calls of an installation.
-/

namespace Anyam.Installation

open Anyam.Lib Anyam.Kernel Anyam.Identity Anyam.Portability

/-! ## The object and what it learns from outside -/

structure CustomerRealmInstallation where
  state : CustomerRealmInstallationState
  identity : Option RealmState

abbrev ProviderAnswer (α : Type) := Option (CustomerRealmProviderResult α)

/-- What one call learns from outside. An answer of the provider or of the importer is `none` when
it throws. `saved` tells whether the transition of an event can be saved; `nowIso` and `opaqueId`
are the readings of the clock and the fresh identifiers, by what they are drawn for. -/
structure InstallationWorld where
  inspectAccount : (accountId operationId : String) →
    ProviderAnswer CustomerRealmAccountInspection
  provisionRealm : (accountId installationId operationId idempotencyKey : String) →
    (requestedResourceTypes : List String) → ProviderAnswer CustomerRealmProvisionReceipt
  inspectProvision : (accountId installationId operationId : String) →
    (resourceIds : List String) → ProviderAnswer CustomerRealmProvisionReceipt
  startImport : (installationId : String) → CustomerRealmProject → CustomerRealmImportProvider →
    (source operationId idempotencyKey : String) → ProviderAnswer CustomerRealmImportReceipt
  resumeImport : (installationId : String) → CustomerRealmProject → CustomerRealmImport →
    ProviderAnswer CustomerRealmImportReceipt
  saved : String → Bool
  nowIso : String → String
  opaqueId : String → String
  drawn : RealmDrawn
  clock : RealmClock

abbrev InstallationM := Transact CustomerRealmInstallation InstallationFailure

namespace InstallationM

abbrev self : InstallationM CustomerRealmInstallation := Transact.state

abbrev state : InstallationM CustomerRealmInstallationState := do return (← Transact.state).state

abbrev throw {α : Type} (error : CustomerRealmInstallationError) : InstallationM α :=
  Transact.throw (.installation error)

abbrev require (p : Prop) [Decidable p] (error : CustomerRealmInstallationError) :
    InstallationM Unit :=
  Transact.require p (.installation error)

abbrev orThrow {α : Type} (value : Option α) (error : CustomerRealmInstallationError) :
    InstallationM α :=
  Transact.orThrow value (.installation error)

/-- The answer of the provider. -/
abbrev answered {α : Type} (answer : ProviderAnswer α) :
    InstallationM (CustomerRealmProviderResult α) :=
  Transact.orThrow answer .provider

end InstallationM

open InstallationM

/-! ## What is required -/

def requirePhase (phases : List CustomerRealmInstallationPhase) (action : String) :
    InstallationM Unit := do
  let s ← state
  let allowed := phases.map CustomerRealmInstallationPhase.text
  require (s.phase ∈ phases) {
    code := .invalidTransition
    message := s!"{action} is not valid while the customer Realm installation is {s.phase.text}."
    recoveryAction := "continue from the " ++ " or ".intercalate allowed ++
      " phase or restore a verified checkpoint"
    receipt := s!"phase={s.phase.text}; allowed=" ++ ",".intercalate allowed
    checkpointId := some s.checkpoint.checkpointId }

def requireAccount : InstallationM CustomerAccountOwnership := do
  let s ← state
  orThrow (s.account.filter (customerOwnershipValid ·)) {
    code := .ownershipRequired
    message := "Customer account ownership is not verified."
    recoveryAction := "verify the customer-controlled Cloudflare account before continuing"
    receipt := "customer ownership boundary missing" }

def requireProject : InstallationM CustomerRealmProject := do
  let s ← state
  orThrow s.project {
    code := .blocked
    message := "No Project is attached to this customer Realm installation."
    recoveryAction := "create or restore the Project before importing source"
    receipt := "project missing" }

def requireImport : InstallationM CustomerRealmImport := do
  let s ← state
  orThrow s.importRecord {
    code := .recoveryInvalid
    message := "No durable Project import record exists."
    recoveryAction := "restore the import checkpoint or start a new import"
    receipt := "import record missing" }

/-! ## Transitions -/

/-- What an event names. -/
structure EventRefs where
  operationId : Option String := none
  principalId : Option String := none
  projectId : Option String := none
  checkpointId : Option String := none
deriving DecidableEq, Repr

abbrev StatePatch := CustomerRealmInstallationState → CustomerRealmInstallationState

section

variable (host : InstallationHost) (world : InstallationWorld)

/-- The state after a transition. Once there is a policy, the state takes its snapshot and its
Realm from it. -/
def nextState (installation : CustomerRealmInstallation) (phase : CustomerRealmInstallationPhase)
    (eventType : String) (event : EventRefs) (partialEffects : List String) (patch : StatePatch) :
    CustomerRealmInstallationState :=
  let s := installation.state
  let patched := patch s
  host.checkpointFor { patched with
    phase
    revision := s.revision + 1
    realmSnapshot := (installation.identity.map getRecoverySnapshot).or patched.realmSnapshot
    realmId := (installation.identity.map (·.realm.id)).or patched.realmId
    audit := s.audit ++ [{
      id := world.opaqueId s!"installation-audit:{eventType}"
      installationId := s.installationId
      occurredAt := world.nowIso eventType
      phase, eventType
      outcome := if phase = .blocked then .blocked else if phase = .degraded then .degraded
        else .succeeded
      operationId := truthy event.operationId
      principalId := truthy event.principalId
      projectId := truthy event.projectId
      checkpointId := truthy event.checkpointId }] }
    s.checkpoint [eventType] partialEffects

def transition (phase : CustomerRealmInstallationPhase) (eventType : String) (event : EventRefs)
    (partialEffects : List String) (patch : StatePatch) : InstallationM Unit := do
  Transact.require (world.saved eventType = true) .store
  Transact.update fun installation => { installation with
    state := nextState host world installation phase eventType event partialEffects patch }

/-- The commands, those of an operation changed. -/
def updateCommands (operation : CustomerRealmOperation)
    (change : CustomerRealmPendingCommand → CustomerRealmPendingCommand)
    (commands : List CustomerRealmPendingCommand) : List CustomerRealmPendingCommand :=
  commands.map fun command => if command.operation = operation then change command else command

/-- The first command of an operation that is pending, degraded or blocked. -/
def unfinishedCommand (operation : CustomerRealmOperation)
    (commands : List CustomerRealmPendingCommand) : Option CustomerRealmPendingCommand :=
  commands.find? fun command => command.operation = operation ∧ command.status ≠ .succeeded

def CustomerRealmOperation.dependency : CustomerRealmOperation → String
  | accountInspect | realmProvision | realmRecover => "customer-cloudflare"
  | projectImport | deploymentReadiness => "project-import-provider"

def recordProviderFailure (operation : CustomerRealmOperation)
    (result : CustomerRealmProviderFailure) : InstallationM Unit := do
  let s ← state
  let phase : CustomerRealmInstallationPhase := if result.retryable then .degraded else .blocked
  let status : CustomerRealmOperationStatus := if result.retryable then .degraded else .blocked
  let degraded : CustomerRealmDegradedState := {
    kind := result.failureKind
    operation
    dependency := operation.dependency
    reason := result.message
    checkpointId := s.checkpoint.checkpointId
    partialEffects := result.partialEffects
    retryable := result.retryable
    safeRecoveryAction := result.recoveryAction
    receipt := result.receipt }
  let pendingCommands := updateCommands operation (fun command => { command with
    status
    providerOperationId := (truthy result.providerOperationId).or command.providerOperationId
    recoveryAction := result.recoveryAction
    receipt := result.receipt }) s.pendingCommands
  let importState := if operation = .projectImport then
      s.importRecord.map fun currentImport => { currentImport with
        state := status
        checkpointId := s.checkpoint.checkpointId
        partialEffects := result.partialEffects
        recoveryAction := result.recoveryAction
        receipt := result.receipt }
    else s.importRecord
  transition host world phase s!"operation.{phase.text}"
    { operationId := some result.operationId, checkpointId := some degraded.checkpointId }
    degraded.partialEffects
    fun s => { s with degraded := some degraded, pendingCommands, importRecord := importState }

/-- The account of a customer, once control of it is verified. -/
def verifiedAccount (accountId verifiedAt : String) : CustomerAccountOwnership where
  accountId
  owner := "customer"
  billingOwner := "customer"
  sourceOwner := "customer"
  metadataOwner := "customer"
  artifactOwner := "customer"
  secretOwner := "customer"
  recoveryOwner := "customer"
  controlVerified := true
  credentialsStored := false
  verifiedAt := some verifiedAt

/-- A provisioning receipt is for the account and the resources that were asked for. -/
def provisionVerified (accountId : String) (requestedResourceTypes : List String)
    (receipt : CustomerRealmProvisionReceipt) : Prop :=
  receipt.accountId = accountId ∧ receipt.owner = "customer" ∧ receipt.state = .verified ∧
    requestedResourceTypes = receipt.requestedResourceTypes ∧
    ¬ (requestedResourceTypes ≠ [] ∧ receipt.resourceIds = [])

instance (accountId : String) (requestedResourceTypes : List String)
    (receipt : CustomerRealmProvisionReceipt) :
    Decidable (provisionVerified accountId requestedResourceTypes receipt) :=
  inferInstanceAs (Decidable (_ ∧ _))

def finishProvisioning (accountId : String) (requestedResourceTypes : List String)
    (receipt : CustomerRealmProvisionReceipt) (operationId : String) : InstallationM Unit := do
  let s ← state
  if provisionVerified accountId requestedResourceTypes receipt then
    let resources : CustomerRealmResources := {
      owner := "customer"
      state := .verified
      resourceIds := receipt.resourceIds
      requestedResourceTypes
      receipt := receipt.receipt }
    let realmId := s.realmId.getD s!"realm:{s.installationId}"
    Transact.update fun installation => { installation with
      identity := some (initialRealmState { realmId }
        (host.realm.toISOString (world.clock.sub 0).now)) }
    let completed := updateCommands .realmProvision (fun command => { command with
      status := .succeeded
      providerOperationId := some operationId
      receipt := receipt.receipt }) s.pendingCommands
    transition host world .realmReady "realm.provisioned" { operationId := some operationId } []
      fun s => { s with
        account := some (verifiedAccount accountId (world.nowIso "account"))
        resources := some resources
        realmId := some realmId
        pendingCommands := completed
        degraded := none }
  else
    recordProviderFailure host world .realmProvision
      (failure "cloudflare.provision_unverified" .partialMutation s.installationId operationId true
        receipt.resourceIds "inspect the customer account and retry provisioning verification"
        (s!"{receipt.receipt}; requestedTypes=" ++ ",".intercalate requestedResourceTypes ++
          "; returnedTypes=" ++ ",".intercalate receipt.requestedResourceTypes ++
          s!"; resourceIds={receipt.resourceIds.length}"))

/-- An import receipt is verified and for the Source Spaces of the Project. -/
def importVerified (project : CustomerRealmProject) (receipt : CustomerRealmImportReceipt) : Prop :=
  receipt.state = .verified ∧ trim receipt.projectRevisionId ≠ "" ∧
    trim receipt.exportDigest ≠ "" ∧ receipt.sourceSpaceIds.Nodup ∧
    receipt.sourceSpaceIds.length = project.sourceSpaceIds.length ∧
    ∀ sourceSpaceId ∈ project.sourceSpaceIds, sourceSpaceId ∈ receipt.sourceSpaceIds

instance (project : CustomerRealmProject) (receipt : CustomerRealmImportReceipt) :
    Decidable (importVerified project receipt) :=
  inferInstanceAs (Decidable (_ ∧ _))

def finishImport (receipt : CustomerRealmImportReceipt) (operationId : String) :
    InstallationM Unit := do
  let project ← requireProject
  if importVerified project receipt then
    let importRecord ← requireImport
    let s ← state
    let completedImport : CustomerRealmImport := { importRecord with
      state := .succeeded
      checkpointId := receipt.checkpointId
      sourceSpaceIds := receipt.sourceSpaceIds
      partialEffects := receipt.partialEffects
      projectRevisionId := some receipt.projectRevisionId
      exportDigest := some receipt.exportDigest
      recoveryAction := "export the verified Project and retain the customer-owned recovery checkpoint"
      receipt := receipt.receipt }
    let completedCommands := s.pendingCommands.map fun command =>
      if command.operationId = importRecord.operationId then
        { command with
          status := .succeeded
          providerOperationId := some operationId
          receipt := receipt.receipt }
      else command
    let importedProject : CustomerRealmProject := { project with
      state := .imported
      projectRevisionId := some receipt.projectRevisionId
      exportDigest := some receipt.exportDigest }
    transition host world .imported "project.import.verified"
      { operationId := some operationId, projectId := some project.projectId
        checkpointId := some receipt.checkpointId }
      receipt.partialEffects
      fun s => { s with
        importRecord := some completedImport
        project := some importedProject
        pendingCommands := completedCommands
        degraded := none }
  else
    recordProviderFailure host world .projectImport
      (failure "import.receipt_unverified" .importFailure project.projectId operationId false
        receipt.partialEffects
        "verify Source Space identities, Project Revision lineage, and export digest before retrying"
        receipt.receipt)

/-! ## Installing -/

structure InstallInput where
  accountId : String
  requestedResourceTypes : List String
  ownerConfirmed : Bool
  operationId : Option String := none
  idempotencyKey : Option String := none
deriving DecidableEq, Repr

/-- The inspection shows an account that the customer controls. -/
def accountVerified (accountId : String) (inspection : CustomerRealmAccountInspection) : Prop :=
  inspection.accountId = accountId ∧ inspection.owner = "customer" ∧
    inspection.billingOwner = "customer" ∧ inspection.controlVerified = true

instance (accountId : String) (inspection : CustomerRealmAccountInspection) :
    Decidable (accountVerified accountId inspection) :=
  inferInstanceAs (Decidable (_ ∧ _))

def accountFailure (accountId operationId : String) (inspection : CustomerRealmAccountInspection) :
    CustomerRealmProviderFailure :=
  failure "cloudflare.account_ownership_unverified" .unknown accountId operationId false []
    "use an account the customer controls and rerun account verification" inspection.receipt

/-- The commands after the account was verified. -/
def accountVerifiedCommands (operationId : String) (inspection : CustomerRealmAccountInspection) :
    List CustomerRealmPendingCommand → List CustomerRealmPendingCommand :=
  updateCommands .accountInspect fun command => { command with
    status := .succeeded
    providerOperationId := some operationId
    receipt := inspection.receipt }

/-- What is done with the answer to a provisioning. -/
def finishProvision (accountId : String) (requestedResourceTypes : List String)
    (operationId : String → String)
    (provision : CustomerRealmProviderResult CustomerRealmProvisionReceipt) :
    InstallationM Unit :=
  match provision with
  | .failed failure => recordProviderFailure host world .realmProvision failure
  | .succeeded providerOperationId receipt _ =>
    finishProvisioning host world accountId requestedResourceTypes receipt
      (operationId providerOperationId)

/-- The two commands of an installation. -/
def installCommands (input : InstallInput) (operationId idempotencyKey expectedStateDigest : String) :
    List CustomerRealmPendingCommand := [
  { commandId := world.opaqueId "command:account"
    operation := .accountInspect
    operationId
    idempotencyKey := s!"{idempotencyKey}:account"
    expectedStateDigest
    inputDigest := host.inputDigest (.account input.accountId)
    status := .pending
    recoveryAction :=
      "reinspect the customer-controlled Cloudflare account using the same operation"
    receipt := s!"account={input.accountId}; inspection=pending" },
  { commandId := world.opaqueId "command:provision"
    operation := .realmProvision
    operationId
    idempotencyKey := s!"{idempotencyKey}:provision"
    expectedStateDigest
    inputDigest := host.inputDigest (.provision input.accountId input.requestedResourceTypes)
    status := .pending
    recoveryAction := "inspect or resume the same customer-owned provisioning operation"
    receipt := s!"account={input.accountId}; resources=" ++
      ",".intercalate input.requestedResourceTypes ++ "; provisioning=pending" }]

/-- What an installation does once the account is verified. -/
def provisionAccount (input : InstallInput) (operationId : String)
    (plannedResources : CustomerRealmResources) (inspectionOperationId : String)
    (inspection : CustomerRealmAccountInspection) : InstallationM Unit := do
  let s ← state
  let pendingCommands := accountVerifiedCommands inspectionOperationId inspection s.pendingCommands
  transition host world .accountReady "account.verified" { operationId := some operationId } []
    fun s => { s with
      account := some (verifiedAccount input.accountId (world.nowIso "account"))
      pendingCommands }
  transition host world .provisioning "realm.provisioning.started"
    { operationId := some operationId } []
    fun s => { s with
      resources := some { plannedResources with state := .provisioning }
      pendingCommands
      degraded := none }
  let s ← state
  let provisionCommand ← orThrow (s.pendingCommands.find? fun command =>
      command.operation = .realmProvision ∧ command.operationId = operationId) {
    code := .recoveryInvalid
    message := "Provisioning command was not persisted before the provider call."
    recoveryAction := "restore the installation checkpoint and retry with the same operation"
    receipt := s!"operation={operationId}" }
  let provision ← answered (world.provisionRealm input.accountId s.installationId operationId
    provisionCommand.idempotencyKey input.requestedResourceTypes)
  finishProvision host world input.accountId input.requestedResourceTypes (fun _ => operationId)
    provision

def install (input : InstallInput) : InstallationM Unit := do
  requirePhase [.new] "install"
  require (input.ownerConfirmed = true) {
    code := .ownershipRequired
    message := "Customer-operated installation requires explicit confirmation that the account, billing, source, metadata, artifacts, secrets, and recovery material remain customer-owned."
    recoveryAction := "confirm customer account ownership before provisioning"
    receipt := "ownerConfirmed=true required" }
  require (input.requestedResourceTypes ≠ []) {
    code := .invalidInput
    message := "Customer-operated installation requires an explicit resource plan."
    recoveryAction := "choose the Cloudflare bindings the customer account will own, then retry"
    receipt := "requestedResourceTypes must not be empty" }
  let operationId := input.operationId.getD (world.opaqueId "install-account")
  let idempotencyKey := input.idempotencyKey.getD operationId
  let plannedResources : CustomerRealmResources := {
    owner := "customer"
    state := .provisioning
    resourceIds := []
    requestedResourceTypes := input.requestedResourceTypes
    receipt := s!"account={input.accountId}; resources=planned; credentials=none" }
  transition host world .accountVerifying "account.verification.started"
    { operationId := some operationId } []
    fun s => { s with
      accountId := some input.accountId
      resources := some plannedResources
      pendingCommands := installCommands host world input operationId idempotencyKey
        s.checkpoint.stateDigest }
  let inspection ← answered (world.inspectAccount input.accountId operationId)
  match inspection with
  | .failed failure => recordProviderFailure host world .accountInspect failure
  | .succeeded inspectionOperationId inspection _ =>
    if accountVerified input.accountId inspection then
      provisionAccount host world input operationId plannedResources inspectionOperationId
        inspection
    else
      recordProviderFailure host world .accountInspect
        (accountFailure input.accountId operationId inspection)

/-! ## The owner -/

inductive OwnerAuthentication
  | passkey (credentialId verificationReceipt : String)
  | oidc (issuer subject clientId verificationReceipt : String)
deriving DecidableEq, Repr

namespace OwnerAuthentication

def verificationReceipt : OwnerAuthentication → String
  | passkey _ receipt | oidc _ _ _ receipt => receipt

def method : OwnerAuthentication → AuthenticationMethod
  | passkey .. => .passkey
  | oidc .. => .oidc

def credentialId : OwnerAuthentication → Option String
  | passkey credentialId _ => some credentialId
  | oidc .. => none

def issuer : OwnerAuthentication → Option String
  | passkey .. => none
  | oidc issuer .. => some issuer

def subject : OwnerAuthentication → Option String
  | passkey .. => none
  | oidc _ subject .. => some subject

end OwnerAuthentication

structure RecoveryEnrollment where
  method : RecoveryMethod
  enrollmentReceipt : String
  materialDigest : Option String := none
deriving DecidableEq, Repr

structure EnrollInput where
  displayName : String
  authentication : OwnerAuthentication
  recovery : RecoveryEnrollment
  principalId : Option String := none
deriving DecidableEq, Repr

/-- A computation on the Realm policy, its errors among those of the installation. -/
abbrev PolicyM := Transact RealmState InstallationFailure

/-- A method of the Realm policy. -/
def ofRealm {α : Type} (m : RealmM α) : PolicyM α :=
  fun s => ((m s).1.mapError .realm, (m s).2)

/-- A computation on the policy in memory: what it wrote stays, whether it returns or throws. -/
def onPolicy {α : Type} (identity : RealmState) (m : PolicyM α) : InstallationM α :=
  fun installation => ((m identity).1, { installation with identity := some (m identity).2 })

def registerAuthentication (principal : Principal) : OwnerAuthentication → PolicyM Unit
  | .passkey credentialId _ => do
    Transact.require (trim credentialId ≠ "") (.installation {
      code := .invalidInput
      message := "The verified passkey adapter returned no credential identity; no owner was enrolled."
      recoveryAction := "return the credential ID associated with the verified WebAuthn registration and retry"
      receipt := "passkey credential ID required" })
    let _ ← ofRealm (registerPasskey principal.id credentialId none none)
  | .oidc issuer subject clientId _ => do
    Transact.require (trim issuer ≠ "" ∧ trim subject ≠ "" ∧ trim clientId ≠ "") (.installation {
      code := .invalidInput
      message := "The verified OIDC adapter returned incomplete issuer, subject, or client identity; no owner was enrolled."
      recoveryAction := "return the verified OIDC issuer, subject, and client identity and retry"
      receipt := "OIDC issuer, subject, and clientId required" })
    let s ← Transact.state
    if s.oidcProvider issuer = none then
      let _ ← ofRealm (registerOidcProvider none issuer clientId world.drawn)
    let _ ← ofRealm (linkOidcIdentity principal.id issuer subject)

/-- What an enrollment writes to the policy. -/
def enrollPrincipal (input : EnrollInput) (realmId : String) : PolicyM Principal := do
  let principal ← ofRealm (createPrincipal host.realm (truthy input.principalId) input.displayName
    world.drawn (world.clock.sub 0))
  registerAuthentication world principal input.authentication
  let _ ← ofRealm (addRelationship principal.id .organizationMember principal.id .owner
    (some { realmId }) none world.drawn)
  return principal

def enrollVerifiedOwner (input : EnrollInput) : InstallationM Unit := do
  requirePhase [.realmReady] "owner.enroll"
  require (trim input.displayName ≠ "") {
    code := .invalidInput
    message := "The first Realm owner requires a non-empty display name."
    recoveryAction := "provide the display name returned by the verified identity adapter and retry"
    receipt := "owner.displayName must not be empty" }
  require (trim input.authentication.verificationReceipt ≠ "") {
    code := .invalidInput
    message := "Owner authentication requires an external adapter verification receipt."
    recoveryAction := "complete passkey or OIDC verification through the customer-controlled adapter and retry"
    receipt := "owner authentication verification receipt required" }
  require (trim input.recovery.enrollmentReceipt ≠ "") {
    code := .invalidInput
    message := "Recovery enrollment requires an owner-visible external receipt; recovery material is never stored in the installation."
    recoveryAction := "enroll recovery codes, a hardware key, or the approved enterprise identity path and provide its receipt"
    receipt := "recovery enrollment receipt required" }
  let installation ← self
  let (identity, realmId) ← orThrow
      (installation.identity.bind fun identity =>
        (truthy installation.state.realmId).map fun realmId => (identity, realmId)) {
    code := .blocked
    message := "Realm identity policy is not available after provisioning."
    recoveryAction := "resume or restore the verified provisioning checkpoint"
    receipt := "realm policy missing" }
  let principal ← onPolicy identity (enrollPrincipal host world input realmId)
  let owner : CustomerRealmOwner := {
    principalId := principal.id
    authenticationMethod := input.authentication.method
    passkeyCredentialId := input.authentication.credentialId
    oidcIssuer := input.authentication.issuer
    oidcSubject := input.authentication.subject
    recoveryEnrollmentId := world.opaqueId "recovery-enrollment"
    recoveryMethod := input.recovery.method
    recoveryDigest := truthy input.recovery.materialDigest
    recoveryEnrolled := true
    materialStoredInInstallation := false
    enrolledAt := world.nowIso "owner" }
  transition host world .ownerReady "realm.owner.enrolled" { principalId := some principal.id } []
    fun s => { s with owner := some owner }

/-! ## The Project and its import -/

/-- `validateSourceSpaces`; of a Source Space only its identifier is read. -/
def validateSourceSpaces (project : Project) (sourceSpaceIds : List String) : List String :=
  sourceSpaceProblems [] sourceSpaceIds ++
    (project.sourceSpaceIds.filter (· ∉ sourceSpaceIds)).map fun id =>
      s!"Project Source Space {id} has no policy catalog entry"
where
  sourceSpaceProblems (seen : List String) : List String → List String
    | [] => []
    | id :: ids =>
      problem (id ∉ project.sourceSpaceIds)
        s!"Source Space {id} is not declared by Project {project.id}" ++
      problem (id ∈ seen) s!"Source Space {id} is duplicated" ++
      sourceSpaceProblems (id :: seen) ids

def createProject (project : Project) (sourceSpaceIds : List String) : InstallationM Unit := do
  requirePhase [.ownerReady] "project.create"
  let s ← state
  require (s.owner.any (·.recoveryEnrolled) = true) {
    code := .blocked
    message := "Project creation is blocked until Realm owner recovery is enrolled."
    recoveryAction := "enroll and verify the first owner recovery method, then retry"
    receipt := "owner.recoveryEnrolled=true required" }
  let problems := validateSourceSpaces project sourceSpaceIds
  require (problems = []) {
    code := .invalidInput
    message := "Project Source Space catalog is invalid: " ++ "; ".intercalate problems ++ "."
    recoveryAction := "declare each Project Source Space exactly once and retry"
    receipt := s!"project={project.id}; problems={problems.length}" }
  let created : CustomerRealmProject := {
    projectId := project.id
    sourceSpaceIds := project.sourceSpaceIds
    metadataOwner := "customer"
    artifactOwner := "customer"
    secretOwner := "customer"
    state := .ready }
  transition host world .projectReady "project.created" { projectId := some created.projectId } []
    fun s => { s with project := some created }

structure ImportInput where
  provider : CustomerRealmImportProvider
  source : String
  operationId : String
  idempotencyKey : String
deriving DecidableEq, Repr

/-- What is done with the answer of the importer. -/
def finishImportAnswer (result : CustomerRealmProviderResult CustomerRealmImportReceipt) :
    InstallationM Unit :=
  match result with
  | .failed failure => recordProviderFailure host world .projectImport failure
  | .succeeded operationId receipt _ => finishImport host world receipt operationId

def importProject (input : ImportInput) : InstallationM Unit := do
  requirePhase [.projectReady] "project.import"
  require (trim input.operationId ≠ "" ∧ trim input.idempotencyKey ≠ "" ∧ trim input.source ≠ "") {
    code := .invalidInput
    message := "Project import requires a source, operation ID, and idempotency key."
    recoveryAction := "provide stable import identity and retry"
    receipt := "source, operationId, and idempotencyKey required" }
  let s ← state
  let existing := s.pendingCommands.find? fun command =>
    command.operation = .projectImport ∧ command.idempotencyKey = input.idempotencyKey
  require (existing = none ∨ ∃ importRecord ∈ s.importRecord,
      importRecord.operationId = input.operationId ∧ importRecord.source = input.source) {
    code := .idempotencyConflict
    message := "Project import idempotency key is already bound to different source input."
    recoveryAction := "reuse the original source and operation or choose a new idempotency key"
    receipt := "existingCommand=" ++ (existing.map (·.commandId)).getD "" ++
      s!"; requestedOperation={input.operationId}" }
  let project ← requireProject
  let importRecord : CustomerRealmImport := {
    provider := input.provider
    source := input.source
    operationId := input.operationId
    idempotencyKey := input.idempotencyKey
    state := .pending
    checkpointId := s.checkpoint.checkpointId
    sourceSpaceIds := project.sourceSpaceIds
    partialEffects := []
    recoveryAction := "resume the same import operation after verifying the checkpoint"
    receipt := s!"project={project.projectId}; source={input.source}" }
  let command : CustomerRealmPendingCommand := {
    commandId := world.opaqueId "command"
    operation := .projectImport
    operationId := input.operationId
    idempotencyKey := input.idempotencyKey
    expectedStateDigest := s.checkpoint.stateDigest
    inputDigest := host.inputDigest
      (.projectImport project input.provider input.source input.operationId input.idempotencyKey)
    status := .pending
    recoveryAction := importRecord.recoveryAction
    receipt := importRecord.receipt }
  transition host world .importing "project.import.started"
    { operationId := some input.operationId, projectId := some project.projectId } []
    fun s => { s with
      importRecord := some importRecord
      pendingCommands := s.pendingCommands ++ [command]
      project := some { project with state := .importing } }
  let s ← state
  let project ← requireProject
  let result ← answered (world.startImport s.installationId project input.provider input.source
    input.operationId input.idempotencyKey)
  finishImportAnswer host world result

/-! ## Deployment readiness -/

structure ReadinessInput where
  operationId : String
  status : DeploymentReadinessStatus
  receipt : String
  recoveryAction : String
  providerOperationId : Option String := none
  errorCode : Option String := none
deriving DecidableEq, Repr

/-- The phases in which a readiness report is accepted. -/
def readinessPhases : List CustomerRealmInstallationPhase :=
  [.accountReady, .provisioning, .realmReady, .ownerReady, .projectReady, .importing, .imported,
    .active, .degraded]

def DeploymentReadinessStatus.commandStatus :
    DeploymentReadinessStatus → CustomerRealmOperationStatus
  | ready => .succeeded
  | retryable => .degraded
  | blocked => .blocked

def DeploymentReadinessStatus.text : DeploymentReadinessStatus → String
  | ready => "ready"
  | retryable => "retryable"
  | blocked => "blocked"

/-- The phase that was remembered for a resumption. -/
def rememberedPhase (s : CustomerRealmInstallationState) : Option CustomerRealmInstallationPhase :=
  s.deploymentReadiness.bind (·.resumePhase)

/-- The commands after a report: that of its operation with its outcome, or a new one. -/
def readinessCommands (input : ReadinessInput) (s : CustomerRealmInstallationState) :
    List CustomerRealmPendingCommand :=
  let existing := s.pendingCommands.find? fun command =>
    command.operation = .deploymentReadiness ∧ command.operationId = input.operationId
  let command : CustomerRealmPendingCommand := existing.getD {
    commandId := world.opaqueId "command"
    operation := .deploymentReadiness
    operationId := input.operationId
    idempotencyKey := input.operationId
    expectedStateDigest := s.checkpoint.stateDigest
    inputDigest := host.inputDigest (.readiness input.operationId)
    status := .pending
    recoveryAction := input.recoveryAction
    receipt := input.receipt }
  let completedCommand := { command with
    status := input.status.commandStatus
    providerOperationId := (truthy input.providerOperationId).or command.providerOperationId
    recoveryAction := input.recoveryAction
    receipt := input.receipt }
  match existing with
  | some existing => s.pendingCommands.map fun candidate =>
    if candidate.commandId = existing.commandId then completedCommand else candidate
  | none => s.pendingCommands ++ [completedCommand]

/-- The record of a report. It remembers the phase of the first report, or of the first one outside
a degraded phase, and every later report keeps it. -/
def readinessRecord (input : ReadinessInput) (s : CustomerRealmInstallationState) :
    CustomerRealmDeploymentReadiness where
  operationId := input.operationId
  status := input.status
  providerOperationId := truthy input.providerOperationId
  errorCode := truthy input.errorCode
  receipt := input.receipt
  recoveryAction := input.recoveryAction
  resumePhase := (rememberedPhase s).or (if s.phase = .degraded then none else some s.phase)

/-- The phase that a report of readiness resumes. -/
def resumedPhase (s : CustomerRealmInstallationState) : CustomerRealmInstallationPhase :=
  (rememberedPhase s).getD (if s.phase = .degraded then .realmReady else s.phase)

/-- Persist provider deployment readiness as an explicit command and checkpoint. -/
def recordDeploymentReadiness (input : ReadinessInput) : InstallationM Unit := do
  requirePhase readinessPhases "deployment.readiness"
  require (trim input.operationId ≠ "" ∧ trim input.receipt ≠ "" ∧
      trim input.recoveryAction ≠ "") {
    code := .invalidInput
    message := "Deployment readiness requires an operation identity, provider receipt, and recovery action."
    recoveryAction := "return the provider's explicit readiness receipt and retry"
    receipt := "operationId, receipt, and recoveryAction required" }
  let s ← state
  let pendingCommands := readinessCommands host world input s
  let readiness := readinessRecord input s
  if input.status = .ready then
    transition host world (resumedPhase s) "deployment.readiness.verified"
      { operationId := some input.operationId } []
      fun s => { s with
        pendingCommands
        deploymentReadiness := some readiness
        degraded := none }
  else
    let degraded : CustomerRealmDegradedState := {
      kind := if input.status = .retryable then .providerOutage else .unknown
      operation := .deploymentReadiness
      dependency := "customer-cloudflare"
      reason := input.errorCode.getD "provider deployment readiness is not verified"
      checkpointId := s.checkpoint.checkpointId
      partialEffects := []
      retryable := input.status = .retryable
      safeRecoveryAction := input.recoveryAction
      receipt := input.receipt }
    transition host world (if input.status = .retryable then .degraded else .blocked)
      s!"deployment.readiness.{input.status.text}"
      { operationId := some input.operationId, checkpointId := some s.checkpoint.checkpointId } []
      fun s => { s with
        pendingCommands
        deploymentReadiness := some readiness
        degraded := some degraded }

/-! ## Recovery of a degraded installation -/

/-- What a recovered account verification does next. -/
def resumeProvisioning (degraded : CustomerRealmDegradedState) (accountId : String) :
    InstallationM Unit := do
  let s ← state
  let (resources, provisionCommand) ← orThrow
      (s.resources.bind fun resources =>
        (unfinishedCommand .realmProvision s.pendingCommands).map fun command =>
          (resources, command)) {
    code := .recoveryInvalid
    message := "Account verification recovered but the provisioning plan is missing."
    recoveryAction := "restore the provisioning checkpoint before continuing"
    receipt := "resources and realm.provision command required" }
  transition host world .provisioning "realm.provisioning.recovery_started"
    { operationId := some provisionCommand.operationId
      checkpointId := some degraded.checkpointId } []
    fun s => { s with
      resources := some { resources with state := .provisioning }
      degraded := none }
  let s ← state
  let provision ← answered (world.provisionRealm accountId s.installationId
    provisionCommand.operationId provisionCommand.idempotencyKey resources.requestedResourceTypes)
  finishProvision host world accountId resources.requestedResourceTypes id provision

def recoverAccount (degraded : CustomerRealmDegradedState) : InstallationM Unit := do
  let s ← state
  let (accountId, accountCommand) ← orThrow
      ((truthy s.accountId).bind fun accountId =>
        (unfinishedCommand .accountInspect s.pendingCommands).map fun command =>
          (accountId, command)) {
    code := .recoveryInvalid
    message := "Account verification recovery has no durable account identity or command."
    recoveryAction := "restore the account verification checkpoint and retry the same operation"
    receipt := "accountId and account.inspect command required" }
  let inspection ← answered (world.inspectAccount accountId accountCommand.operationId)
  match inspection with
  | .failed failure => recordProviderFailure host world .accountInspect failure
  | .succeeded inspectionOperationId inspection _ =>
    if accountVerified accountId inspection then
      let s ← state
      transition host world .accountReady "account.verification.recovered"
        { operationId := some accountCommand.operationId
          checkpointId := some degraded.checkpointId } []
        fun s' => { s' with
          account := some (verifiedAccount accountId (world.nowIso "account"))
          pendingCommands :=
            accountVerifiedCommands inspectionOperationId inspection s.pendingCommands
          degraded := none }
      resumeProvisioning host world degraded accountId
    else
      recordProviderFailure host world .accountInspect
        (accountFailure accountId accountCommand.operationId inspection)

def recoverImport (degraded : CustomerRealmDegradedState) : InstallationM Unit := do
  let s ← state
  let importRecord ← orThrow s.importRecord {
    code := .recoveryInvalid
    message := "Import recovery has no durable import record."
    recoveryAction := "restore the import checkpoint or start a new idempotent import"
    receipt := "import record missing" }
  transition host world .importing "project.import.recovery_started"
    { operationId := some importRecord.operationId
      checkpointId := some degraded.checkpointId }
    importRecord.partialEffects
    fun s => { s with
      degraded := none
      importRecord := some { importRecord with
        state := .pending
        checkpointId := degraded.checkpointId } }
  let s ← state
  let project ← requireProject
  let importRecord ← requireImport
  let result ← answered (world.resumeImport s.installationId project importRecord)
  finishImportAnswer host world result

def recoverProvisioning : InstallationM Unit := do
  let account ← requireAccount
  let s ← state
  let (resources, operation) ← orThrow
      (s.resources.bind fun resources =>
        (unfinishedCommand .realmProvision s.pendingCommands).map fun command =>
          (resources, command)) {
    code := .recoveryInvalid
    message := "Realm provisioning recovery has no durable resource plan or command."
    recoveryAction := "restore the installation checkpoint and inspect the customer account"
    receipt := "provisioning resource plan or command missing" }
  let inspected ← answered (
    if resources.resourceIds = [] then
      world.provisionRealm account.accountId s.installationId operation.operationId
        operation.idempotencyKey resources.requestedResourceTypes
    else
      world.inspectProvision account.accountId s.installationId operation.operationId
        resources.resourceIds)
  finishProvision host world account.accountId resources.requestedResourceTypes
    (fun _ => operation.operationId) inspected

def recover : InstallationM Unit := do
  requirePhase [.degraded, .blocked] "recovery.resume"
  let s ← state
  let degraded ← orThrow s.degraded {
    code := .recoveryInvalid
    message := "Installation is marked degraded without a recovery record."
    recoveryAction := "restore from a verified customer recovery bundle"
    receipt := "degraded state missing" }
  require (degraded.retryable = true) {
    code := .blocked
    message := s!"Automatic recovery is blocked for {degraded.operation.text}: {degraded.reason}."
    recoveryAction := degraded.safeRecoveryAction
    receipt := degraded.receipt
    checkpointId := some degraded.checkpointId }
  match degraded.operation with
  | .accountInspect => recoverAccount host world degraded
  | .projectImport => recoverImport host world degraded
  | .deploymentReadiness =>
    throw {
      code := .blocked
      message := "Deployment readiness recovery requires a fresh provider readiness probe; the previous provider receipt was not reused as authority."
      recoveryAction := "rerun the customer provider readiness command with a fresh authorization and record its new receipt"
      receipt := degraded.receipt
      checkpointId := some degraded.checkpointId }
  | .realmProvision => recoverProvisioning host world
  | .realmRecover =>
    throw {
      code := .recoveryInvalid
      message := s!"No automatic recovery handler exists for {degraded.operation.text}."
      recoveryAction := "create a verified recovery bundle and use owner activation"
      receipt := s!"operation={degraded.operation.text}" }

/-! ## Recovery bundles -/

def scanReceipt : String :=
  s!"credentialScanner={credentialMaterialScannerProtocol}; credentialScanScope=known-patterns; exhaustive=false"

/-- The bundle of a state, before it is signed with its digest. -/
def unsignedBundle (s : CustomerRealmInstallationState) (realmSnapshot : RealmRecoverySnapshot)
    (projectExport : Option ProjectExport) : UnsignedRecoveryBundle where
  protocol := contractRecovery
  version := "v1"
  bundleId := world.opaqueId "recovery-bundle"
  createdAt := world.nowIso "bundle"
  installationId := s.installationId
  hostingMode := "customer-operated"
  state := { s with realmSnapshot := some realmSnapshot }
  realmSnapshot
  projectExport
  pendingCommands := s.pendingCommands
  audit := s.audit

def requireProjectExport (s : CustomerRealmInstallationState) :
    Option ProjectExport → InstallationM Unit
  | none => pure ()
  | some projectExport => do
    let _ ← Transact.ofExcept ((verifyProjectExportManifest host.manifest projectExport).mapError
      fun failure => .installation {
        code := .recoveryInvalid
        message := s!"Project Export cannot be included in recovery: {failure.errorCode}."
        recoveryAction := failure.recoveryAction
        receipt := failure.budget.receipt })
    require (∀ project ∈ s.project, projectExport.project.id = project.projectId) {
      code := .recoveryInvalid
      message := "Project Export does not belong to this installation Project."
      recoveryAction := "export the same Project identity and retry"
      receipt := "expected=" ++ (s.project.map (·.projectId)).getD "" ++
        s!"; actual={projectExport.project.id}" }

/-- The error of a bundle that fails its verification. -/
def bundleError (bundle : CustomerRealmRecoveryBundle) (message : String) :
    CustomerRealmInstallationError where
  code := .recoveryInvalid
  message
  recoveryAction := if (host.scanCredentialMaterial bundle).isSome then
      "remove detected credential material from the Recovery bundle, keep it in the owner-controlled credential store, and rerun verification"
    else "repair the named export, ownership, identity, or pending-command inconsistency and rerun recovery verification"
  receipt := match host.scanCredentialMaterial bundle with
    | some kind => s!"credentialFreeDeclared=not-confirmed; knownCredentialMaterial=detected; kind={kind}; {scanReceipt}; errors=1"
    | none => s!"bundle={bundle.bundleId}; credentialFreeDeclared={shown (bundle.integrity.credentialFree = true)}; knownCredentialMaterial=not-detected; {scanReceipt}; errors={(host.bundleErrors bundle).length}"

def exportRecovery (projectExport : Option ProjectExport) :
    InstallationM CustomerRealmRecoveryBundle := do
  let installation ← self
  let s := installation.state
  let (identity, _) ← orThrow
      (installation.identity.bind fun identity =>
        (truthy s.realmId).map fun realmId => (identity, realmId)) {
    code := .blocked
    message := "A Realm recovery bundle requires a provisioned Realm identity."
    recoveryAction := "complete account provisioning before exporting recovery"
    receipt := "realm identity missing" }
  requireProjectExport host s projectExport
  transition host world s.phase "recovery.exported"
    { checkpointId := some s.checkpoint.checkpointId } [] id
  let s ← state
  let unsigned := unsignedBundle world s (getRecoverySnapshot identity) projectExport
  let bundle : CustomerRealmRecoveryBundle := { unsigned with
    integrity := {
      digest := host.bundleDigest unsigned
      credentialFree := true
      receipt := s!"installation={s.installationId}; realm=" ++ s.realmId.getD "" ++
        s!"; credentialFreeDeclared=true; {scanReceipt}; pendingCommands={s.pendingCommands.length}; audit={s.audit.length}" } }
  let errors := host.bundleErrors bundle
  require (errors = []) (bundleError host bundle
    ("Generated recovery bundle did not pass its own verification: " ++
      "; ".intercalate errors ++ "."))
  return bundle

/-- The state that a bundle restores. -/
def restoredState (bundle : CustomerRealmRecoveryBundle) (realmSnapshot : RealmRecoverySnapshot) :
    CustomerRealmInstallationState :=
  { bundle.state with
    phase := .recoveryPending
    revision := 0
    realmId := some bundle.realmSnapshot.realm.id
    realmSnapshot := some realmSnapshot
    resources := bundle.state.resources.map fun resources =>
      { resources with state := .recoveryPending }
    degraded := none
    pendingCommands := bundle.pendingCommands
    audit := bundle.audit }

/-- The snapshot of a policy that was restored from one. -/
def restorePolicy (snapshot : RealmRecoverySnapshot) : PolicyM RealmRecoverySnapshot := do
  let _ ← ofRealm (restoreRecoverySnapshot snapshot)
  return getRecoverySnapshot (← Transact.state)

def restoreRecovery (bundle : CustomerRealmRecoveryBundle) : InstallationM Unit := do
  require (host.bundleErrors bundle = [])
    (bundleError host bundle "Recovery bundle failed verification; authority was not resumed.")
  requirePhase [.new] "recovery.restore"
  let s ← state
  require (bundle.installationId = s.installationId) {
    code := .recoveryInvalid
    message := "Recovery bundle belongs to another installation."
    recoveryAction := "restore using the bundle's installation identity or perform a deliberate migration"
    receipt := s!"expected={s.installationId}; actual={bundle.installationId}" }
  require (bundle.realmSnapshot.realm.id ≠ "") {
    code := .recoveryInvalid
    message := "Recovery bundle has no Realm identity."
    recoveryAction := "regenerate the bundle from a verified Realm"
    receipt := "realm id missing" }
  let fresh := initialRealmState { realmId := bundle.realmSnapshot.realm.id }
    (host.realm.toISOString (world.clock.sub 0).now)
  let realmSnapshot ← onPolicy fresh (restorePolicy bundle.realmSnapshot)
  transition host world .recoveryPending "recovery.verified"
    { checkpointId := some bundle.state.checkpoint.checkpointId }
    ((bundle.state.importRecord.map (·.partialEffects)).getD [])
    fun _ => restoredState bundle realmSnapshot

structure ActivateInput where
  ownerPrincipalId : String
  recoveryReceipt : String
deriving DecidableEq, Repr

/-- The phase that an activation goes to. -/
def activatedPhase (s : CustomerRealmInstallationState) : CustomerRealmInstallationPhase :=
  match s.project with
  | some project => if project.state = .imported then .active else .projectReady
  | none => .ownerReady

def activateRecovery (input : ActivateInput) : InstallationM Unit := do
  requirePhase [.recoveryPending] "recovery.activate"
  let installation ← self
  let s := installation.state
  require (trim input.recoveryReceipt ≠ "" ∧
      some input.ownerPrincipalId = s.owner.map (·.principalId)) {
    code := .ownershipRequired
    message := "Recovery activation requires the enrolled Realm owner and a fresh external recovery receipt."
    recoveryAction := "authenticate the recorded owner through the customer-controlled recovery path and retry"
    receipt := "owner principal and recovery receipt mismatch" }
  let account ← requireAccount
  let resources ← orThrow s.resources {
    code := .recoveryInvalid
    message := "Recovery activation has no customer resource record to reconcile."
    recoveryAction := "restore a bundle containing the customer resource receipt"
    receipt := "resources missing" }
  let inspected ← answered (world.inspectProvision account.accountId s.installationId
    s!"recover:{s.checkpoint.checkpointId}" resources.resourceIds)
  match inspected with
  | .failed failure => recordProviderFailure host world .realmRecover failure
  | .succeeded _ _ _ =>
    let identity ← orThrow installation.identity {
      code := .recoveryInvalid
      message := "Recovery activation has no Realm policy state."
      recoveryAction := "restore the Realm snapshot into the quarantined installation"
      receipt := "identity policy missing" }
    transition host world (activatedPhase s) "recovery.activated"
      { principalId := some input.ownerPrincipalId
        checkpointId := some s.checkpoint.checkpointId } []
      fun s => { s with
        resources := some { resources with state := .verified }
        degraded := none
        realmSnapshot := some (getRecoverySnapshot identity) }

/-! ## Calls -/

/-- The calls of an installation. -/
inductive InstallationCall
  | install (input : InstallInput)
  | enrollVerifiedOwner (input : EnrollInput)
  | createProject (project : Project) (sourceSpaceIds : List String)
  | importProject (input : ImportInput)
  | recordDeploymentReadiness (input : ReadinessInput)
  | recover
  | exportRecovery (projectExport : Option ProjectExport)
  | restoreRecovery (bundle : CustomerRealmRecoveryBundle)
  | activateRecovery (input : ActivateInput)

/-- The computation of a call. -/
def InstallationCall.run : InstallationCall → InstallationM Unit
  | install input => Installation.install host world input
  | enrollVerifiedOwner input => Installation.enrollVerifiedOwner host world input
  | createProject project sourceSpaceIds =>
    Installation.createProject host world project sourceSpaceIds
  | importProject input => Installation.importProject host world input
  | recordDeploymentReadiness input => Installation.recordDeploymentReadiness host world input
  | recover => Installation.recover host world
  | exportRecovery projectExport => do
    let _ ← Installation.exportRecovery host world projectExport
  | restoreRecovery bundle => Installation.restoreRecovery host world bundle
  | activateRecovery input => Installation.activateRecovery host world input

end

/-- A call, and what it learns from outside. -/
structure InstallationOp where
  call : InstallationCall
  world : InstallationWorld

/-- A call runs to its end; what it wrote before it threw stays. -/
def installationStep (host : InstallationHost) (op : InstallationOp)
    (installation : CustomerRealmInstallation) :
    Except InstallationFailure Unit × CustomerRealmInstallation :=
  op.call.run host op.world installation

/-- A new installation. -/
def newInstallation (host : InstallationHost) (installationId now : String) :
    CustomerRealmInstallation where
  state := host.initialState installationId now
  identity := none

end Anyam.Installation
