import Anyam.Kernel.Text
import Anyam.Lib.Guards
import Anyam.Lib.OrderedMap
import Anyam.Lib.Process

/-!
# Customer-provider operations

`cloudflare/customer-provider-operation.ts`: operations on a provider of the customer, each with a
record that is written again at every step. A record is put with the digest of the record it
replaces, and names it by nothing else.

Every access to the store and every call of an adapter is a step of a process; between two of them
other methods may run. The store also remembers every record that was put in it, and the provider
the calls it was asked, which no method reads.

- `checkpoint`, `initialRecord`, `nextRecord`: the records.
- `run`, `resume`, `acceptCallback`, `cleanup`: the methods of
  `CustomerProviderQualificationCoordinator`, and `exportRecovery`, `restoreRecovery`.
- `verifyCustomerProviderOperationRecord`.
-/

namespace Anyam.Provider.Operation

open Anyam.Lib Anyam.Kernel

def customerProviderOperationProtocol : String := "anyam.customer-provider-operation/v1"

def credentialMaterialScannerProtocol : String := "anyam.credential-material-scanner/v1"

/-! ## Records -/

inductive CustomerProviderSurface
  | d1 | r2 | queue | workflow | worker
deriving DecidableEq, Repr

def CustomerProviderSurface.text : CustomerProviderSurface → String
  | d1 => "d1"
  | r2 => "r2"
  | queue => "queue"
  | workflow => "workflow"
  | worker => "worker"

inductive CustomerProviderFailureMode
  | none | providerOutage | authorizationRevoked | timeout | duplicateDelivery | partialMutation
  | staleCallback
deriving DecidableEq, Repr

inductive CustomerProviderOperationState
  | pending | succeeded | degraded | blocked | indeterminate
deriving DecidableEq, Repr

def CustomerProviderOperationState.text : CustomerProviderOperationState → String
  | pending => "pending"
  | succeeded => "succeeded"
  | degraded => "degraded"
  | blocked => "blocked"
  | indeterminate => "indeterminate"

structure CustomerProviderOwnerAuthorization where
  realmId : String
  principalId : String
  sessionId : String
  capability : String
  authorizationEpoch : String
  receipt : String
deriving DecidableEq, Repr

structure CustomerProviderOperationInput where
  realmId : String
  installationId : String
  operationId : String
  idempotencyKey : String
  surface : CustomerProviderSurface
  failureMode : Option CustomerProviderFailureMode := none
  payloadDigest : String
  resourceKey : Option String := none
  authorization : CustomerProviderOwnerAuthorization
deriving DecidableEq, Repr

structure CustomerProviderOperationCheckpoint where
  checkpointId : String
  stateDigest : String
  state : CustomerProviderOperationState
  attempts : Nat
  acceptedEffects : List String
  pendingEffects : List String
  receipt : String
deriving DecidableEq, Repr

inductive CleanupStatus
  | succeeded | blocked
deriving DecidableEq, Repr

structure CustomerProviderCleanupReceipt where
  status : CleanupStatus
  providerOperationId : Option String := none
  deletedResourceKeys : List String
  remainingResourceKeys : List String
  receipt : String
  recoveryAction : String
deriving DecidableEq, Repr

structure CustomerProviderOwner where
  principalId : String
  sessionId : String
  authorizationEpoch : String
deriving DecidableEq, Repr

/-- A record. `callbackStateDigest` may be absent, `null`, or a digest. -/
structure CustomerProviderOperationRecord where
  protocol : String
  realmId : String
  installationId : String
  operationId : String
  idempotencyKey : String
  surface : CustomerProviderSurface
  failureMode : CustomerProviderFailureMode
  payloadDigest : String
  resourceKey : String
  owner : CustomerProviderOwner
  state : CustomerProviderOperationState
  providerOperationId : Option String := none
  providerStatus : Option String := none
  providerReceipt : Option String := none
  providerPartialEffects : List String := []
  outputDigest : Option String := none
  readBackDigest : Option String := none
  callbackStateDigest : Option (Option String) := none
  recoveryAction : String
  checkpoint : CustomerProviderOperationCheckpoint
  cleanup : Option CustomerProviderCleanupReceipt := none
  credentialFree : Bool := true
  canonicalWrite : Bool := false
  createdAt : String
  updatedAt : String
  receipt : String
deriving DecidableEq, Repr

/-- A recovery bundle, without its integrity. -/
structure UnsignedRecoveryBundle where
  protocol : String
  version : String
  realmId : String
  installationId : String
  records : List CustomerProviderOperationRecord
deriving DecidableEq, Repr

structure RecoveryIntegrity where
  digest : String
  credentialFree : Bool
  receipt : String
deriving DecidableEq, Repr

structure CustomerProviderRecoveryBundle extends UnsignedRecoveryBundle where
  integrity : RecoveryIntegrity
deriving DecidableEq, Repr

/-! ## The provider -/

inductive ObservationStatus
  | accepted | failed | indeterminate
deriving DecidableEq, Repr

structure CustomerProviderOperationObservation where
  status : ObservationStatus
  providerOperationId : String
  providerStatus : String
  outputDigest : Option String := none
  partialEffects : List String := []
  retryable : Bool
  recoveryAction : String
  receipt : String
deriving DecidableEq, Repr

inductive ReadBackStatus
  | present | absent | indeterminate
deriving DecidableEq, Repr

def ReadBackStatus.text : ReadBackStatus → String
  | present => "present"
  | absent => "absent"
  | indeterminate => "indeterminate"

structure CustomerProviderReadBack where
  providerOperationId : String
  status : ReadBackStatus
  digest : Option String := none
  resourceKeys : List String := []
  receipt : String
deriving DecidableEq, Repr

/-- A call of an adapter, with what it answered, or the name of what it threw. -/
inductive ProviderCall
  | execute (operationId : String) (answer : Except String CustomerProviderOperationObservation)
  | readBack (operationId : String) (answer : Except String CustomerProviderReadBack)
  | cleanup (operationId : String) (answer : Except String CustomerProviderCleanupReceipt)

/-- What comes from outside at a step: the time, and what an adapter answers if it is called. -/
structure Answer where
  now : String
  execute : Except String CustomerProviderOperationObservation
  readBack : Except String CustomerProviderReadBack
  cleanup : Except String CustomerProviderCleanupReceipt

/-! ## Errors -/

inductive CustomerProviderOperationErrorCode
  | invalidRequest | unauthorized | idempotencyConflict | notFound | staleState | recoveryInvalid
deriving DecidableEq, Repr

/-- An error of the coordinator, or what an adapter threw. -/
inductive CustomerProviderOperationError
  | operation (code : CustomerProviderOperationErrorCode) (message recoveryAction receipt : String)
  | adapter (name : String)
deriving DecidableEq, Repr

/-! ## The host and the store -/

/-- The functions of the host: the digests of a record and of a bundle, and the scanner for
credential material, which finds the path of some. -/
structure ProviderHost where
  recordDigest : CustomerProviderOperationRecord → String
  bundleDigest : UnsignedRecoveryBundle → String
  scanAuthorization : CustomerProviderOwnerAuthorization → Option String
  scanRecord : CustomerProviderOperationRecord → Option String
  scanBundle : CustomerProviderRecoveryBundle → Option String

/-- A record that was put, and the digest that the callback which put it was emitted against. -/
structure StoredRecord where
  record : CustomerProviderOperationRecord
  callback : Option String := none
deriving DecidableEq, Repr

/-- The records of the store and the calls of the provider. -/
structure World where
  records : OrderedMap String CustomerProviderOperationRecord := .empty
  /-- Every record that was put, oldest first. -/
  history : List StoredRecord := []
  calls : List ProviderCall := []

/-- What a step asks for. -/
inductive Request
  | clock
  | get (operationId : String)
  | put (record : CustomerProviderOperationRecord)
  | execute (record : CustomerProviderOperationRecord)
  /-- A read-back, with the digest it expects, for an observation or for a callback. -/
  | readBack (record : CustomerProviderOperationRecord) (expectedDigest : Option String)
      (callback : Bool)
  | cleanup (record : CustomerProviderOperationRecord)

abbrev Method := Process Request World Answer CustomerProviderOperationError

def clock : Method String := .access .clock fun answer world => (answer.now, world)

/-- `store.get`. -/
def get (operationId : String) : Method (Option CustomerProviderOperationRecord) :=
  .access (.get operationId) fun _ world => (world.records.get? operationId, world)

theorem get_bind_bind {operationId : String} {ρ τ : Type}
    {g : Option CustomerProviderOperationRecord → Method ρ} {f : ρ → Method τ} :
    get operationId >>= g >>= f = get operationId >>= fun found => g found >>= f := rfl

/-- The store has the record that a put expects. -/
def World.Expects (world : World) (operationId : String) (expectedStateDigest : Option String) :
    Prop :=
  (world.records.get? operationId).map (·.checkpoint.stateDigest) = expectedStateDigest

instance (world : World) (operationId : String) (expectedStateDigest : Option String) :
    Decidable (world.Expects operationId expectedStateDigest) :=
  inferInstanceAs (Decidable (_ = _))

/-- A record is stored. -/
def World.store (world : World) (stored : StoredRecord) : World :=
  { world with
    records := world.records.set stored.record.operationId stored.record
    history := world.history ++ [stored] }

/-- The error of a put that expects another record. -/
def stalePut (record : CustomerProviderOperationRecord) (expectedStateDigest : Option String)
    (actual : Option String) : CustomerProviderOperationError :=
  .operation .staleState
    "The customer-provider operation changed before this transition was persisted; the candidate was not written."
    "reopen the operation, inspect its current checkpoint, and retry the same idempotency key"
    (s!"operation={record.operationId}; expected=" ++ expectedStateDigest.getD "absent" ++
      "; actual=" ++ actual.getD "absent" ++ "; overwritten=false")

/-- `store.put`. -/
def put (stored : StoredRecord) (expectedStateDigest : Option String) : Method Unit := do
  let result ← Process.access (.put stored.record) fun _ world =>
    if world.Expects stored.record.operationId expectedStateDigest then
      (.ok (), world.store stored)
    else
      (.error (stalePut stored.record expectedStateDigest
        ((world.records.get? stored.record.operationId).map (·.checkpoint.stateDigest))), world)
  Process.ofExcept result

def adapterExecute (record : CustomerProviderOperationRecord) :
    Method (Except String CustomerProviderOperationObservation) :=
  .access (.execute record) fun answer world =>
    (answer.execute,
      { world with calls := world.calls ++ [.execute record.operationId answer.execute] })

def adapterReadBack (record : CustomerProviderOperationRecord) (expectedDigest : Option String)
    (callback : Bool) : Method (Except String CustomerProviderReadBack) :=
  .access (.readBack record expectedDigest callback) fun answer world =>
    (answer.readBack,
      { world with calls := world.calls ++ [.readBack record.operationId answer.readBack] })

def adapterCleanup (record : CustomerProviderOperationRecord) :
    Method (Except String CustomerProviderCleanupReceipt) :=
  .access (.cleanup record) fun answer world =>
    (answer.cleanup,
      { world with calls := world.calls ++ [.cleanup record.operationId answer.cleanup] })

/-! ## Checks on the inputs -/

def required (value field : String) : Except CustomerProviderOperationError Unit :=
  Lib.require (trim value ≠ "") (.operation .invalidRequest
    s!"{field} is required for a customer-provider qualification operation."
    s!"provide a non-empty {field} and retry without changing the operation identity"
    s!"field={field}; operation=invalid")

/-- A digest that is given and is not the empty text. -/
def given (text : Option String) : Option String := text.filter (· ≠ "")

namespace ProviderHost

variable (host : ProviderHost)

def assertAuthorization (input : CustomerProviderOperationInput) :
    Except CustomerProviderOperationError Unit := do
  required input.realmId "realmId"
  required input.installationId "installationId"
  required input.operationId "operationId"
  required input.idempotencyKey "idempotencyKey"
  required input.payloadDigest "payloadDigest"
  required input.authorization.principalId "authorization.principalId"
  required input.authorization.sessionId "authorization.sessionId"
  required input.authorization.authorizationEpoch "authorization.authorizationEpoch"
  required input.authorization.receipt "authorization.receipt"
  Lib.require (input.authorization.realmId = input.realmId ∧
    input.authorization.capability = "provider.qualification") (.operation .unauthorized
      "The provider qualification operation requires an owner-authorized capability for this Realm."
      "authenticate the customer Realm owner and request the bounded provider.qualification capability"
      s!"realm={input.realmId}; authorizationRealm={input.authorization.realmId}; capability={input.authorization.capability}; mutation=not-performed")
  if let some path := host.scanAuthorization input.authorization then
    throw (.operation .invalidRequest
      "Provider authorization contains credential material; no provider operation was attempted."
      "send only the owner authorization receipt and digest, never a provider credential"
      s!"credential-material=reject; field={path}; scanner={credentialMaterialScannerProtocol}; mutation=not-performed")

/-! ## Checkpoints -/

/-- `stateDigest`: the digest of a record whose checkpoint is not yet known. -/
def stateDigest (record : CustomerProviderOperationRecord) : String :=
  host.recordDigest { record with
    checkpoint := { record.checkpoint with stateDigest := "pending", receipt := "pending" } }

/-- A record with the checkpoint that follows a previous one. -/
def checkpointed (record : CustomerProviderOperationRecord)
    (previous : Option CustomerProviderOperationCheckpoint)
    (acceptedEffects pendingEffects : List String) : CustomerProviderOperationRecord :=
  let checkpointId := s!"checkpoint:{record.operationId}:{record.state.text}:{(previous.map (·.attempts)).getD 0}:" ++
    (previous.map (·.checkpointId)).getD "initial"
  let receipt := s!"operation={record.operationId}; checkpoint={checkpointId}; state={record.state.text}"
  let provisional := { record with
    checkpoint := {
      checkpointId
      stateDigest := "pending"
      state := record.state
      attempts := (previous.map (·.attempts + 1)).getD 0
      acceptedEffects
      pendingEffects
      receipt } }
  let currentDigest := host.stateDigest provisional
  { provisional with
    checkpoint := { provisional.checkpoint with
      stateDigest := currentDigest
      receipt := s!"{receipt}; stateDigest={currentDigest}" } }

/-- A checkpoint that is not read. -/
def noCheckpoint : CustomerProviderOperationCheckpoint where
  checkpointId := ""
  stateDigest := ""
  state := .pending
  attempts := 0
  acceptedEffects := []
  pendingEffects := []
  receipt := ""

def initialRecord (input : CustomerProviderOperationInput) (now : String) :
    CustomerProviderOperationRecord :=
  let resourceKey := (given (input.resourceKey.map trim)).getD
    s!"anyam/qualification/provider/{input.realmId}/{input.installationId}/{input.surface.text}/{input.operationId}"
  host.checkpointed {
    protocol := customerProviderOperationProtocol
    realmId := input.realmId
    installationId := input.installationId
    operationId := input.operationId
    idempotencyKey := input.idempotencyKey
    surface := input.surface
    failureMode := input.failureMode.getD .none
    payloadDigest := input.payloadDigest
    resourceKey
    owner := {
      principalId := input.authorization.principalId
      sessionId := input.authorization.sessionId
      authorizationEpoch := input.authorization.authorizationEpoch }
    state := .pending
    recoveryAction := "complete the named provider operation and verify its read-back before accepting the result"
    checkpoint := noCheckpoint
    createdAt := now
    updatedAt := now
    receipt := s!"operation={input.operationId}; surface={input.surface.text}; state=pending; credentialFree=true; canonicalWrite=false"
  } none [] [resourceKey]

/-- `nextRecord`: a patched record, with the checkpoint that follows that of `record`. -/
def nextRecord (record patched : CustomerProviderOperationRecord) (now : String)
    (acceptedEffects pendingEffects : List String) : CustomerProviderOperationRecord :=
  host.checkpointed { patched with updatedAt := now } (some record.checkpoint) acceptedEffects
    pendingEffects

end ProviderHost

def sameIdentity (record : CustomerProviderOperationRecord)
    (input : CustomerProviderOperationInput) : Bool :=
  record.realmId = input.realmId && record.installationId = input.installationId &&
    record.idempotencyKey = input.idempotencyKey && record.surface = input.surface &&
    record.payloadDigest = input.payloadDigest

/-! ## The coordinator -/

structure CustomerProviderQualificationCoordinator where
  host : ProviderHost
  realmId : String
  installationId : String

namespace CustomerProviderQualificationCoordinator

variable (coordinator : CustomerProviderQualificationCoordinator)

/-- The authorization is of the owner of the record. -/
def Owns (authorization : CustomerProviderOwnerAuthorization)
    (record : CustomerProviderOperationRecord) : Prop :=
  record.realmId = authorization.realmId ∧ record.owner.principalId = authorization.principalId ∧
    record.owner.sessionId = authorization.sessionId ∧
    record.owner.authorizationEpoch = authorization.authorizationEpoch ∧
    authorization.capability = "provider.qualification"

instance (authorization : CustomerProviderOwnerAuthorization)
    (record : CustomerProviderOperationRecord) : Decidable (Owns authorization record) :=
  inferInstanceAs (Decidable (_ ∧ _))

def authorize (record : CustomerProviderOperationRecord)
    (authorization : CustomerProviderOwnerAuthorization) : Method Unit :=
  .require (Owns authorization record) (.operation .unauthorized
    "The authorization no longer matches the owner-scoped provider operation."
    "re-authenticate the customer Realm owner and request a fresh bounded capability"
    s!"operation={record.operationId}; ownerMatch=false; mutation=not-performed")

/-- `require`: the record of an operation. -/
def requireRecord (operationId : String) : Method CustomerProviderOperationRecord := do
  match ← get operationId with
  | some record => return record
  | none => Process.throw (.operation .notFound s!"Provider operation {operationId} was not found."
      "use the exact owner-visible operation identity or create a new disposable qualification operation"
      s!"operation={operationId}; found=false")

/-- What an adapter that throws is taken to have observed. -/
def exceptionObservation (record : CustomerProviderOperationRecord) (name : String) :
    CustomerProviderOperationObservation where
  status := .indeterminate
  providerOperationId := s!"provider:{record.operationId}"
  providerStatus := "exception"
  retryable := true
  recoveryAction := "inspect the provider operation and retry the same idempotency key after the provider recovers"
  receipt := s!"operation={record.operationId}; provider={record.surface.text}; exception={name}; authoritativeEffect=unknown"

def exceptionReadBack (record : CustomerProviderOperationRecord) (providerOperationId name : String) :
    CustomerProviderReadBack where
  providerOperationId
  status := .indeterminate
  receipt := s!"operation={record.operationId}; readBack=exception; cause={name}"

/-- What an adapter observed, or is taken to have. -/
def observationOf (record : CustomerProviderOperationRecord) :
    Except String CustomerProviderOperationObservation → CustomerProviderOperationObservation
  | .ok observation => observation
  | .error name => exceptionObservation record name

def readBackOf (record : CustomerProviderOperationRecord) (providerOperationId : String) :
    Except String CustomerProviderReadBack → CustomerProviderReadBack
  | .ok readBack => readBack
  | .error name => exceptionReadBack record providerOperationId name

/-- A transport took the operation, and will call back. -/
def isDeferred (providerStatus : String) : Bool :=
  providerStatus = "transport-accepted" || providerStatus = "transport-duplicate-or-partial" ||
    providerStatus = "instance-created"

/-- The patch of an observation, with the digest it has. -/
def observed (record : CustomerProviderOperationRecord)
    (observation : CustomerProviderOperationObservation) : CustomerProviderOperationRecord :=
  { record with
    providerOperationId := some observation.providerOperationId
    providerStatus := some observation.providerStatus
    providerReceipt := some observation.receipt
    providerPartialEffects := observation.partialEffects
    outputDigest := given observation.outputDigest <|> record.outputDigest }

/-- The record of an observation that was not accepted. -/
def failedRecord (record : CustomerProviderOperationRecord)
    (observation : CustomerProviderOperationObservation) (now : String) :
    CustomerProviderOperationRecord :=
  let state : CustomerProviderOperationState :=
    if observation.status = .indeterminate then .indeterminate
    else if observation.retryable then .degraded else .blocked
  coordinator.host.nextRecord record { observed record observation with
      state
      callbackStateDigest := if isDeferred observation.providerStatus
        then some (some record.checkpoint.stateDigest) else record.callbackStateDigest
      recoveryAction := observation.recoveryAction
      receipt := s!"{record.receipt}; providerStatus={observation.providerStatus}; state={state.text}" }
    now observation.partialEffects [record.resourceKey]

/-- The read-back that an observation was accepted for is not verified. -/
def Unverified (observation : CustomerProviderOperationObservation)
    (readBack : CustomerProviderReadBack) : Prop :=
  readBack.status ≠ .present ∨ given readBack.digest = none ∨
    ∃ digest ∈ given observation.outputDigest, readBack.digest ≠ some digest

instance (observation : CustomerProviderOperationObservation) (readBack : CustomerProviderReadBack) :
    Decidable (Unverified observation readBack) := by
  unfold Unverified
  exact inferInstance

/-- The record of an accepted observation without a verified read-back. -/
def indeterminateRecord (record : CustomerProviderOperationRecord)
    (observation : CustomerProviderOperationObservation) (readBack : CustomerProviderReadBack)
    (now : String) : CustomerProviderOperationRecord :=
  coordinator.host.nextRecord record { observed record observation with
      state := .indeterminate
      readBackDigest := given readBack.digest <|> record.readBackDigest
      recoveryAction := "reconcile the provider object by operation identity and digest before retrying"
      receipt := s!"{record.receipt}; providerStatus={observation.providerStatus}; readBack={readBack.status.text}; state=indeterminate" }
    now observation.partialEffects [record.resourceKey]

/-- The record of an accepted observation with a verified read-back. -/
def completedRecord (record : CustomerProviderOperationRecord)
    (observation : CustomerProviderOperationObservation) (readBack : CustomerProviderReadBack)
    (now : String) : CustomerProviderOperationRecord :=
  coordinator.host.nextRecord record { observed record observation with
      state := .succeeded
      readBackDigest := readBack.digest
      recoveryAction := "No recovery action is currently required."
      receipt := s!"{record.receipt}; providerStatus={observation.providerStatus}; readBack=verified; state=succeeded" }
    now [record.resourceKey] []

/-- A record is put in the place of the one it was made from, and returned. -/
def replace (record : CustomerProviderOperationRecord) (next : StoredRecord) :
    Method CustomerProviderOperationRecord := do
  put next (some record.checkpoint.stateDigest)
  return next.record

def execute (record : CustomerProviderOperationRecord) : Method CustomerProviderOperationRecord := do
  let observation := observationOf record (← adapterExecute record)
  if observation.status ≠ .accepted then
    let now ← clock
    replace record { record := coordinator.failedRecord record observation now }
  else
    let readBack := readBackOf record observation.providerOperationId
      (← adapterReadBack record (given observation.outputDigest) false)
    let now ← clock
    if Unverified observation readBack then
      replace record { record := coordinator.indeterminateRecord record observation readBack now }
    else
      replace record { record := coordinator.completedRecord record observation readBack now }

def run (input : CustomerProviderOperationInput) : Method CustomerProviderOperationRecord := do
  Process.ofExcept (coordinator.host.assertAuthorization input)
  Process.require (input.realmId = coordinator.realmId ∧
    input.installationId = coordinator.installationId) (.operation .unauthorized
      "The provider operation is scoped to a different customer Realm installation."
      "use the coordinator belonging to the owner-authorized installation"
      s!"expectedRealm={coordinator.realmId}; requestedRealm={input.realmId}; expectedInstallation={coordinator.installationId}; requestedInstallation={input.installationId}; mutation=not-performed")
  match ← get input.operationId with
  | some existing =>
    authorize existing input.authorization
    Process.require (sameIdentity existing input = true) (.operation .idempotencyConflict
      "The operation ID is already bound to a different provider input."
      "reuse the original surface, payload digest, and idempotency key, or choose a new operation identity"
      s!"operation={input.operationId}; existingIdempotency={existing.idempotencyKey}; requestedIdempotency={input.idempotencyKey}; overwritten=false")
    return existing
  | none =>
    let now ← clock
    let record := coordinator.host.initialRecord input now
    put { record } none
    coordinator.execute record

/-- A record that a resume starts a new attempt from. -/
def IsResumable (record : CustomerProviderOperationRecord) : Prop :=
  record.state = .degraded ∨ record.state = .indeterminate ∨
    record.state = .blocked ∧ record.providerStatus = some "401-authorization-revoked"

instance (record : CustomerProviderOperationRecord) : Decidable (IsResumable record) :=
  inferInstanceAs (Decidable (_ ∨ _))

/-- The record of a new attempt. -/
def pendingRecord (record : CustomerProviderOperationRecord) (now : String) :
    CustomerProviderOperationRecord :=
  coordinator.host.nextRecord record { record with
      state := .pending
      recoveryAction := "retry the same provider operation and verify the existing provider object by digest" }
    now record.checkpoint.acceptedEffects [record.resourceKey]

def resume (operationId : String) (authorization : CustomerProviderOwnerAuthorization) :
    Method CustomerProviderOperationRecord := do
  let record ← requireRecord operationId
  authorize record authorization
  if record.state = .succeeded then return record
  else if record.state = .pending then coordinator.execute record
  else
    Process.require (IsResumable record) (.operation .recoveryInvalid
      s!"Operation {operationId} is {record.state.text} and cannot be automatically resumed."
      record.recoveryAction
      s!"operation={operationId}; state={record.state.text}; resumed=false")
    let now ← clock
    let pending := coordinator.pendingRecord record now
    put { record := pending } (some record.checkpoint.stateDigest)
    coordinator.execute pending

structure CallbackInput where
  operationId : String
  authorization : CustomerProviderOwnerAuthorization
  providerOperationId : String
  expectedStateDigest : String
  outputDigest : Option String := none
  receipt : String
deriving DecidableEq, Repr

/-- The record is the one that the callback was emitted against, or names its checkpoint. -/
def Expected (input : CallbackInput) (record : CustomerProviderOperationRecord) : Prop :=
  record.checkpoint.stateDigest = input.expectedStateDigest ∨
    record.callbackStateDigest = some (some input.expectedStateDigest)

instance (input : CallbackInput) (record : CustomerProviderOperationRecord) :
    Decidable (Expected input record) := inferInstanceAs (Decidable (_ ∨ _))

/-- The record of a callback whose object is present. -/
def callbackRecord (record : CustomerProviderOperationRecord) (input : CallbackInput)
    (readBack : CustomerProviderReadBack) (now : String) : CustomerProviderOperationRecord :=
  coordinator.host.nextRecord record { record with
      state := .succeeded
      providerOperationId := some input.providerOperationId
      providerStatus := some "callback-accepted"
      providerReceipt := some input.receipt
      outputDigest := given input.outputDigest <|> record.outputDigest
      readBackDigest := readBack.digest
      callbackStateDigest := some none
      recoveryAction := "No recovery action is currently required." }
    now [record.resourceKey] []

def acceptCallback (input : CallbackInput) : Method CustomerProviderOperationRecord := do
  let record ← requireRecord input.operationId
  authorize record input.authorization
  if ¬ Expected input record then return record
  else
    Process.require (∀ accepted ∈ given record.providerOperationId,
      accepted = input.providerOperationId) (.operation .staleState
        "The callback provider operation identity does not match the accepted operation."
        "ignore the callback and reconcile the provider object using the current checkpoint"
        (s!"operation={record.operationId}; expectedProviderOperation=" ++
          record.providerOperationId.getD "" ++
          s!"; received={input.providerOperationId}; overwritten=false"))
    let readBack ← Process.ofExcept
      ((← adapterReadBack record (given input.outputDigest) true).mapError .adapter)
    Process.require (readBack.status = .present ∧ (given readBack.digest).isSome)
      (.operation .staleState
        "The callback could not be reconciled to a present provider object."
        "retain the operation as indeterminate and inspect the provider object before retrying"
        s!"operation={record.operationId}; callback={input.providerOperationId}; readBack={readBack.status.text}; overwritten=false")
    let now ← clock
    replace record {
      record := coordinator.callbackRecord record input readBack now
      callback := some input.expectedStateDigest }

/-- The record of a cleanup. -/
def cleanedRecord (record : CustomerProviderOperationRecord)
    (cleanup : CustomerProviderCleanupReceipt) (now : String) : CustomerProviderOperationRecord :=
  coordinator.host.nextRecord record { record with
      cleanup := some cleanup
      recoveryAction := if cleanup.status = .succeeded
        then "No recovery action is currently required." else cleanup.recoveryAction }
    now record.checkpoint.acceptedEffects record.checkpoint.pendingEffects

/-- The record of an operation that was cleaned. -/
def IsCleaned (record : CustomerProviderOperationRecord) : Prop :=
  record.cleanup.map (·.status) = some .succeeded

instance (record : CustomerProviderOperationRecord) : Decidable (IsCleaned record) :=
  inferInstanceAs (Decidable (_ = _))

def cleanup (operationId : String) (authorization : CustomerProviderOwnerAuthorization) :
    Method CustomerProviderOperationRecord := do
  let record ← requireRecord operationId
  authorize record authorization
  if IsCleaned record then return record
  else
    let cleanup ← Process.ofExcept ((← adapterCleanup record).mapError .adapter)
    let now ← clock
    replace record { record := coordinator.cleanedRecord record cleanup now }

/-- A call of one of the methods. -/
inductive Call
  | run (input : CustomerProviderOperationInput)
  | resume (operationId : String) (authorization : CustomerProviderOwnerAuthorization)
  | acceptCallback (input : CallbackInput)
  | cleanup (operationId : String) (authorization : CustomerProviderOwnerAuthorization)

def program : Call → Method CustomerProviderOperationRecord
  | .run input => coordinator.run input
  | .resume operationId authorization => coordinator.resume operationId authorization
  | .acceptCallback input => coordinator.acceptCallback input
  | .cleanup operationId authorization => cleanup coordinator operationId authorization

/-! ## Recovery -/

def exportRecovery (world : World) : CustomerProviderRecoveryBundle :=
  let unsigned : UnsignedRecoveryBundle := {
    protocol := customerProviderOperationProtocol
    version := "recovery-v1"
    realmId := coordinator.realmId
    installationId := coordinator.installationId
    records := world.records.values }
  { unsigned with
    integrity := {
      digest := coordinator.host.bundleDigest unsigned
      credentialFree := true
      receipt := s!"realm={coordinator.realmId}; installation={coordinator.installationId}; records={world.records.values.length}; credentials=none" } }

/-- `store.restore` of an empty store. -/
def restored (records : List CustomerProviderOperationRecord) :
    OrderedMap String CustomerProviderOperationRecord :=
  .ofList (records.map fun record => (record.operationId, record))

/-- `restoreRecovery` into an empty store. -/
def restoreRecovery (bundle : CustomerProviderRecoveryBundle) :
    Except CustomerProviderOperationError (OrderedMap String CustomerProviderOperationRecord) := do
  let finding := coordinator.host.scanBundle bundle
  Lib.require (bundle.protocol = customerProviderOperationProtocol ∧
    bundle.version = "recovery-v1" ∧ bundle.realmId = coordinator.realmId ∧
    bundle.installationId = coordinator.installationId ∧ bundle.integrity.credentialFree = true ∧
    bundle.integrity.digest = coordinator.host.bundleDigest bundle.toUnsignedRecoveryBundle ∧
    finding = none) (.operation .recoveryInvalid
      "The provider-operation Recovery bundle failed credential-free identity or integrity validation."
      "export a fresh exact Recovery bundle from the authoritative coordinator and retry restore"
      (s!"realm={coordinator.realmId}; installation={coordinator.installationId}; scanner={credentialMaterialScannerProtocol}; credentialField=" ++
        finding.getD "none" ++ "; authority=resumed=false"))
  return restored bundle.records

end CustomerProviderQualificationCoordinator

/-- The errors that `verifyCustomerProviderOperationRecord` finds. -/
def verificationErrors (host : ProviderHost) (record : CustomerProviderOperationRecord) :
    List String :=
  (if record.protocol ≠ customerProviderOperationProtocol then
    ["unsupported operation protocol"] else []) ++
  (if record.credentialFree ≠ true ∨ record.canonicalWrite ≠ false then
    ["credential or canonical-write boundary is invalid"] else []) ++
  (if record.checkpoint.stateDigest ≠ host.stateDigest record then
    ["checkpoint state digest does not match record"] else []) ++
  match host.scanRecord record with
  | some path =>
    [s!"record contains credential material at {path}; scanner={credentialMaterialScannerProtocol}"]
  | none => []

end Anyam.Provider.Operation
