import Anyam.Identity.RealmRevocation
import Anyam.Kernel.Text
import Anyam.Portability.ExportManifest

/-!
# Records of a customer Realm installation

The state of `installation/customer-realm.ts`: what is known of the account and the resources of
the customer, the owner, the Project and its import, the commands that are pending and the
checkpoint of the last transition; and the bundle that a recovery is restored from.

- `CustomerRealmInstallationState`, `CustomerRealmRecoveryBundle`.
- `CustomerRealmProviderResult`: what the adapters and the importer answer.
- `verifyCustomerRealmRecoveryBundle`: the errors of a bundle.
-/

namespace Anyam.Installation

open Anyam.Lib Anyam.Kernel Anyam.Identity Anyam.Portability

/-! ## Phases and kinds -/

inductive CustomerRealmInstallationPhase
  | new | accountVerifying | accountReady | provisioning | realmReady | ownerReady | projectReady
  | importing | imported | active | degraded | blocked | recoveryPending
deriving DecidableEq, Repr

def CustomerRealmInstallationPhase.text : CustomerRealmInstallationPhase → String
  | new => "new"
  | accountVerifying => "account-verifying"
  | accountReady => "account-ready"
  | provisioning => "provisioning"
  | realmReady => "realm-ready"
  | ownerReady => "owner-ready"
  | projectReady => "project-ready"
  | importing => "importing"
  | imported => "imported"
  | active => "active"
  | degraded => "degraded"
  | blocked => "blocked"
  | recoveryPending => "recovery-pending"

inductive CustomerRealmFailureKind
  | providerOutage | importFailure | queueDuplicate | workflowStall | partialMutation
  | restoreInvalid | credentialRevoked | unknown
deriving DecidableEq, Repr

inductive CustomerRealmProviderState
  | unverified | provisioning | verified | degraded | recoveryPending
deriving DecidableEq, Repr

inductive CustomerRealmOperationStatus
  | pending | succeeded | blocked | degraded
deriving DecidableEq, Repr

inductive CustomerRealmOperation
  | accountInspect | realmProvision | projectImport | realmRecover | deploymentReadiness
deriving DecidableEq, Repr

def CustomerRealmOperation.text : CustomerRealmOperation → String
  | accountInspect => "account.inspect"
  | realmProvision => "realm.provision"
  | projectImport => "project.import"
  | realmRecover => "realm.recover"
  | deploymentReadiness => "deployment.readiness"

inductive CustomerRealmProjectState
  | ready | importing | imported
deriving DecidableEq, Repr

inductive CustomerRealmImportProvider
  | github | gitlab | genericGit | projectExport
deriving DecidableEq, Repr

inductive DeploymentReadinessStatus
  | ready | retryable | blocked
deriving DecidableEq, Repr

inductive RecoveryMethod
  | externalRecoveryCodes | hardwareKey | enterpriseOidc
deriving DecidableEq, Repr

/-! ## Records -/

structure CustomerAccountOwnership where
  accountId : String
  owner : String
  billingOwner : String
  sourceOwner : String
  metadataOwner : String
  artifactOwner : String
  secretOwner : String
  recoveryOwner : String
  controlVerified : Bool
  credentialsStored : Bool
  verifiedAt : Option String := none
deriving DecidableEq, Repr

def customerOwnershipValid (account : CustomerAccountOwnership) : Prop :=
  account.owner = "customer" ∧ account.billingOwner = "customer" ∧
    account.sourceOwner = "customer" ∧ account.metadataOwner = "customer" ∧
    account.artifactOwner = "customer" ∧ account.secretOwner = "customer" ∧
    account.recoveryOwner = "customer" ∧ account.controlVerified = true ∧
    account.credentialsStored = false

instance (account : CustomerAccountOwnership) : Decidable (customerOwnershipValid account) :=
  inferInstanceAs (Decidable (_ ∧ _))

structure CustomerRealmResources where
  owner : String
  state : CustomerRealmProviderState
  resourceIds : List String
  requestedResourceTypes : List String
  receipt : String
deriving DecidableEq, Repr

structure CustomerRealmOwner where
  principalId : String
  authenticationMethod : AuthenticationMethod
  passkeyCredentialId : Option String := none
  oidcIssuer : Option String := none
  oidcSubject : Option String := none
  recoveryEnrollmentId : String
  recoveryMethod : RecoveryMethod
  recoveryDigest : Option String := none
  recoveryEnrolled : Bool
  materialStoredInInstallation : Bool
  enrolledAt : String
deriving DecidableEq, Repr

structure CustomerRealmProject where
  projectId : String
  sourceSpaceIds : List String
  metadataOwner : String
  artifactOwner : String
  secretOwner : String
  state : CustomerRealmProjectState
  projectRevisionId : Option String := none
  exportDigest : Option String := none
deriving DecidableEq, Repr

structure CustomerRealmImport where
  provider : CustomerRealmImportProvider
  source : String
  operationId : String
  idempotencyKey : String
  state : CustomerRealmOperationStatus
  checkpointId : String
  sourceSpaceIds : List String
  partialEffects : List String
  projectRevisionId : Option String := none
  exportDigest : Option String := none
  recoveryAction : String
  receipt : String
deriving DecidableEq, Repr

structure CustomerRealmPendingCommand where
  commandId : String
  operation : CustomerRealmOperation
  operationId : String
  idempotencyKey : String
  expectedStateDigest : String
  inputDigest : String
  status : CustomerRealmOperationStatus
  providerOperationId : Option String := none
  recoveryAction : String
  receipt : String
deriving DecidableEq, Repr

structure CustomerRealmCheckpoint where
  checkpointId : String
  phase : CustomerRealmInstallationPhase
  stateDigest : String
  completedSteps : List String
  partialEffects : List String
  pendingCommandIds : List String
  receipt : String
deriving DecidableEq, Repr

structure CustomerRealmDegradedState where
  kind : CustomerRealmFailureKind
  operation : CustomerRealmOperation
  dependency : String
  reason : String
  checkpointId : String
  partialEffects : List String
  retryable : Bool
  safeRecoveryAction : String
  receipt : String
deriving DecidableEq, Repr

structure CustomerRealmDeploymentReadiness where
  operationId : String
  status : DeploymentReadinessStatus
  providerOperationId : Option String := none
  errorCode : Option String := none
  receipt : String
  recoveryAction : String
  /-- The phase to resume after a transient readiness failure. -/
  resumePhase : Option CustomerRealmInstallationPhase := none
deriving DecidableEq, Repr

inductive AuditOutcome
  | succeeded | blocked | degraded
deriving DecidableEq, Repr

/-- An event, without its details. -/
structure CustomerRealmAuditEvent where
  id : String
  installationId : String
  occurredAt : String
  phase : CustomerRealmInstallationPhase
  eventType : String
  outcome : AuditOutcome
  operationId : Option String := none
  principalId : Option String := none
  projectId : Option String := none
  checkpointId : Option String := none
deriving DecidableEq, Repr

structure CustomerRealmInstallationState where
  installationId : String
  revision : Nat
  phase : CustomerRealmInstallationPhase
  accountId : Option String := none
  account : Option CustomerAccountOwnership := none
  resources : Option CustomerRealmResources := none
  realmId : Option String := none
  owner : Option CustomerRealmOwner := none
  project : Option CustomerRealmProject := none
  importRecord : Option CustomerRealmImport := none
  deploymentReadiness : Option CustomerRealmDeploymentReadiness := none
  realmSnapshot : Option RealmRecoverySnapshot := none
  pendingCommands : List CustomerRealmPendingCommand
  checkpoint : CustomerRealmCheckpoint
  degraded : Option CustomerRealmDegradedState := none
  audit : List CustomerRealmAuditEvent

structure UnsignedRecoveryBundle where
  protocol : String
  version : String
  bundleId : String
  createdAt : String
  installationId : String
  hostingMode : String
  state : CustomerRealmInstallationState
  realmSnapshot : RealmRecoverySnapshot
  projectExport : Option ProjectExport := none
  pendingCommands : List CustomerRealmPendingCommand
  audit : List CustomerRealmAuditEvent

structure BundleIntegrity where
  digest : String
  credentialFree : Bool
  receipt : String
deriving DecidableEq, Repr

structure CustomerRealmRecoveryBundle extends UnsignedRecoveryBundle where
  integrity : BundleIntegrity

/-! ## Answers of the provider and of the importer -/

structure CustomerRealmProviderFailure where
  errorCode : String
  message : String
  retryable : Bool
  failureKind : CustomerRealmFailureKind
  affectedObject : String
  operationId : String
  providerOperationId : Option String := none
  partialEffects : List String
  recoveryAction : String
  receipt : String
deriving DecidableEq, Repr

inductive CustomerRealmProviderResult (α : Type)
  | succeeded (operationId : String) (value : α) (receipt : String)
  | failed (failure : CustomerRealmProviderFailure)
deriving DecidableEq, Repr

structure CustomerRealmAccountInspection where
  accountId : String
  owner : String
  billingOwner : String
  controlVerified : Bool
  receipt : String
deriving DecidableEq, Repr

structure CustomerRealmProvisionReceipt where
  accountId : String
  owner : String
  resourceIds : List String
  requestedResourceTypes : List String
  state : CustomerRealmProviderState
  receipt : String
deriving DecidableEq, Repr

inductive ImportReceiptState
  | verified | unverified
deriving DecidableEq, Repr

structure CustomerRealmImportReceipt where
  projectRevisionId : String
  sourceSpaceIds : List String
  exportDigest : String
  checkpointId : String
  state : ImportReceiptState
  partialEffects : List String
  receipt : String
deriving DecidableEq, Repr

def failure (errorCode : String) (failureKind : CustomerRealmFailureKind)
    (affectedObject operationId : String) (retryable : Bool) (partialEffects : List String)
    (recoveryAction receipt : String) : CustomerRealmProviderFailure where
  errorCode
  message := s!"Customer Realm provider operation {operationId} failed for {affectedObject}."
  retryable
  failureKind
  affectedObject
  operationId
  partialEffects
  recoveryAction
  receipt

/-! ## Errors -/

inductive CustomerRealmInstallationErrorCode
  | invalidTransition | invalidInput | ownershipRequired | idempotencyConflict | blocked
  | recoveryInvalid
deriving DecidableEq, Repr

structure CustomerRealmInstallationError where
  code : CustomerRealmInstallationErrorCode
  message : String
  recoveryAction : String
  receipt : String
  checkpointId : Option String := none
deriving DecidableEq, Repr

/-- An error of the installation or of the Realm policy, or what an adapter or the store threw. -/
inductive InstallationFailure
  | installation (error : CustomerRealmInstallationError)
  | realm (failure : RealmFailure)
  | provider
  | store

/-! ## Digests and checkpoints -/

/-- What the digest of the input of a command is taken of. -/
inductive CommandInput
  | account (accountId : String)
  | provision (accountId : String) (requestedResourceTypes : List String)
  | projectImport (project : CustomerRealmProject) (provider : CustomerRealmImportProvider)
      (source operationId idempotencyKey : String)
  | readiness (operationId : String)
deriving DecidableEq, Repr

/-- The functions of the host: digests, the scanner for credential material, and what the
verification of a Project Export uses. -/
structure InstallationHost where
  textDigest : String → String
  inputDigest : CommandInput → String
  stateDigest : CustomerRealmInstallationState → String
  snapshotDigest : RealmRecoverySnapshot → String
  commandsDigest : List CustomerRealmPendingCommand → String
  auditDigest : List CustomerRealmAuditEvent → String
  bundleDigest : UnsignedRecoveryBundle → String
  /-- The kind of known credential material in a bundle. -/
  scanCredentialMaterial : CustomerRealmRecoveryBundle → Option String
  manifest : ManifestServices
  realm : RealmServices

namespace InstallationHost

variable (host : InstallationHost)

/-- `stateDigest`: the checkpoint of the state is not yet known. -/
def pendingDigest (state : CustomerRealmInstallationState) : String :=
  host.stateDigest { state with
    checkpoint := { state.checkpoint with stateDigest := "pending", receipt := "pending" } }

/-- A state with its checkpoint. -/
def checkpointed (state : CustomerRealmInstallationState) (checkpointId : String)
    (completedSteps partialEffects pendingCommandIds : List String) (receipt : String) :
    CustomerRealmInstallationState :=
  let provisional := { state with
    checkpoint := {
      checkpointId
      phase := state.phase
      stateDigest := "pending"
      completedSteps
      partialEffects
      pendingCommandIds
      receipt } }
  let currentDigest := host.pendingDigest provisional
  { provisional with
    checkpoint := { provisional.checkpoint with
      stateDigest := currentDigest
      receipt := s!"{receipt}; stateDigest={currentDigest}" } }

def checkpointFor (state : CustomerRealmInstallationState) (previous : CustomerRealmCheckpoint)
    (completedSteps partialEffects : List String) : CustomerRealmInstallationState :=
  let digest := host.textDigest
    s!"{state.installationId}:{state.revision}:{state.phase.text}:{previous.checkpointId}"
  let checkpointId := s!"checkpoint:{state.phase.text}:{digest}"
  host.checkpointed state checkpointId completedSteps partialEffects
    ((state.pendingCommands.filter (·.status ≠ .succeeded)).map (·.commandId))
    s!"installation={state.installationId}; phase={state.phase.text}; checkpoint={checkpointId}"

/-- A checkpoint that is not read. -/
def noCheckpoint : CustomerRealmCheckpoint where
  checkpointId := ""
  phase := .new
  stateDigest := ""
  completedSteps := []
  partialEffects := []
  pendingCommandIds := []
  receipt := ""

def initialState (installationId now : String) : CustomerRealmInstallationState :=
  let state : CustomerRealmInstallationState := {
    installationId
    revision := 0
    phase := .new
    pendingCommands := []
    checkpoint := noCheckpoint
    audit := [] }
  let digest := host.textDigest s!"{installationId}:0:new"
  let checkpointed := host.checkpointed state s!"checkpoint:new:{digest}" [] [] []
    s!"installation={installationId}; phase=new"
  { checkpointed with
    checkpoint := { checkpointed.checkpoint with
      receipt := s!"{checkpointed.checkpoint.receipt}; createdAt={now}" } }

end InstallationHost

/-! ## Bundles -/

def contractRecovery : String := "anyam.recovery/v1"

/-- The errors of the pending commands of a bundle. -/
def commandErrors (commandIds operationKeys : List String) :
    List CustomerRealmPendingCommand → List String
  | [] => []
  | command :: commands =>
    let key := s!"{command.operation.text}:{command.idempotencyKey}"
    problem (command.commandId ∈ commandIds) s!"pending command {command.commandId} is duplicated" ++
      problem (key ∈ operationKeys)
        s!"pending operation {command.operation.text} reuses an idempotency key" ++
      commandErrors (command.commandId :: commandIds) (key :: operationKeys) commands

def auditErrors (auditIds : List String) : List CustomerRealmAuditEvent → List String
  | [] => []
  | event :: events =>
    problem (event.id ∈ auditIds) s!"installation audit event {event.id} is duplicated" ++
      auditErrors (event.id :: auditIds) events

def grantErrors (snapshot : RealmRecoverySnapshot) : List String :=
  snapshot.grants.values.flatMap fun grant =>
    problem (grant.realmId ≠ snapshot.realm.id) s!"Grant {grant.id} belongs to another Realm" ++
      problem (grant.principalId ∉ snapshot.principals.keys ∨
        grant.sessionId ∉ snapshot.sessions.keys ∨ grant.taskId ∉ snapshot.tasks.keys)
        s!"Grant {grant.id} has an incomplete Principal/Session/Task chain"

namespace InstallationHost

variable (host : InstallationHost)

def projectExportErrors (state : CustomerRealmInstallationState) (projectExport : ProjectExport) :
    List String :=
  let problems := match verifyProjectExportManifest host.manifest projectExport with
    | .ok _ => []
    | .error failure => [s!"Project Export verification failed: {failure.errorCode}"]
  problems ++
    problem (isProjectExportCredentialFree host.manifest projectExport = false)
      "Project Export is not credential-free" ++
    problem (∃ project ∈ state.project, projectExport.project.id ≠ project.projectId)
      "Project Export identity does not match installation state" ++
    problem (∃ project ∈ state.project, "|".intercalate projectExport.project.sourceSpaceIds ≠
        "|".intercalate project.sourceSpaceIds)
      "Project Export Source Spaces do not match installation state" ++
    problem (state.project.isSome ∧ projectExport.projectRevisions = [])
      "Project Export has no Project Revision lineage to restore" ++
    problem (∃ digest ∈ state.project.bind (·.exportDigest),
        manifestDigest host.manifest projectExport.toProjectExportContents ≠ digest)
      "Project Export digest does not match installation state"

/-- `verifyCustomerRealmRecoveryBundle`: the errors of a bundle. -/
def bundleErrors (bundle : CustomerRealmRecoveryBundle) : List String :=
  let state := bundle.state
  if (host.scanCredentialMaterial bundle).isSome then
    ["recovery bundle contains known credential material"]
  else
    problem (bundle.protocol ≠ contractRecovery ∨ bundle.version ≠ "v1")
      "recovery protocol or version is unsupported" ++
    problem (bundle.hostingMode ≠ "customer-operated")
      "recovery bundle is not for a customer-operated Realm" ++
    problem (state.installationId ≠ bundle.installationId)
      "installation identity does not match the saved state" ++
    problem (truthy state.realmId ≠ some bundle.realmSnapshot.realm.id)
      "Realm identity is missing or does not match the Realm snapshot" ++
    problem (state.realmSnapshot.map host.snapshotDigest ≠
        some (host.snapshotDigest bundle.realmSnapshot))
      "installation and recovery Realm snapshots do not match" ++
    problem (bundle.integrity.credentialFree = false ∨ bundle.realmSnapshot.credentialFree = false)
      "recovery bundle is not explicitly credential-free" ++
    problem (¬ ∃ account ∈ state.account, customerOwnershipValid account)
      "customer ownership or account credential boundary is invalid" ++
    problem (¬ ∃ resources ∈ state.resources, resources.owner = "customer" ∧
        ¬ (resources.state = .verified ∧ resources.resourceIds = []))
      "customer resource ownership or verification receipt is invalid" ++
    problem (state.checkpoint.stateDigest ≠ host.pendingDigest state)
      "installation Recovery Checkpoint digest does not match its state" ++
    problem (host.commandsDigest state.pendingCommands ≠ host.commandsDigest bundle.pendingCommands)
      "pending command list does not match installation state" ++
    problem (host.auditDigest state.audit ≠ host.auditDigest bundle.audit)
      "installation audit list does not match installation state" ++
    (bundle.projectExport.map (host.projectExportErrors state)).getD [] ++
    commandErrors [] [] bundle.pendingCommands ++
    auditErrors [] bundle.audit ++
    grantErrors bundle.realmSnapshot ++
    problem (bundle.integrity.digest ≠ host.bundleDigest bundle.toUnsignedRecoveryBundle)
      "recovery bundle digest does not match its contents"

end InstallationHost

end Anyam.Installation
