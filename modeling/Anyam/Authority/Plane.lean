import Anyam.Authority.Ingestion
import Anyam.Authority.PromotionExecution
import Anyam.Authority.RunnerCompletion

/-!
# The Authority plane

`AuthorityPlaneCoordinator` of `cloudflare/authority-plane.ts`: the commands of a Realm with
their dispatch, the synchronization of an enrolled Runner, the completion of a Run, and the
execution and reconciliation of a Promotion. Each method takes the snapshot the coordinator
holds to the one it leaves.

- `AuthorityCommandName.writes`: the collections a command may write; **`apply_writes`**: it
  writes no other.
- **`execute_ok`**, **`registerRunnerProfile_ok`**, **`completeRunner_ok`**,
  **`executePromotion_ok`**, **`reconcilePromotion_ok`**: how an accepted call ends.
-/

namespace Anyam.Authority

open Anyam.Lib Anyam.Kernel Anyam.Delivery Anyam.Execution

/-! ## Commands -/

/-- A command that only a method of its own accepts. -/
def internalCommand (message recoveryAction receipt : String) : Applied :=
  .error (refusal .invalidRequest message recoveryAction receipt)

/-- `AuthorityPlaneCoordinator.apply`. -/
def apply (services : AuthorityServices) (next : AuthorityPlaneSnapshot)
    (command : AuthorityCommand) (session : AuthoritySession) (drawn : Drawn) : Applied :=
  let payload := command.payload
  match command.command with
  | .intentCreate => intentCreate next payload session drawn
  | .intentAssign => intentAssign next payload drawn
  | .intentComment => intentComment next payload session drawn
  | .intentClose => intentClose next payload session drawn
  | .intentReopen => intentReopen next payload session drawn
  | .pullRequestOpen => pullRequestOpen next payload drawn
  | .pullRequestUpdate => pullRequestUpdate next payload drawn
  | .pullRequestReview => pullRequestReview services next payload session drawn
  | .pullRequestClose => pullRequestClose services next payload drawn
  | .pullRequestReopen => pullRequestReopen services next payload drawn
  | .pullRequestBlock => pullRequestBlock services next payload drawn
  | .pullRequestMerge => pullRequestMerge services next payload drawn
  | .projectCreate => projectCreate next payload drawn
  | .workspaceCreate => workspaceCreate services next payload session drawn
  | .changeCreate => changeCreate services next payload session drawn
  | .revisionPublish => revisionPublish next payload session drawn
  | .runnerRegister => internalCommand
      "runner.register is an internal Runner-service enrollment sync and cannot be submitted through execute()."
      "use registerRunnerProfile through the bound Runner service; no Authority state was changed"
      "command=runner.register; surface=generic-authority; transition=not-applied; internalOnly=true"
  | .runRequest => runRequest next payload session drawn
  | .runnerComplete => internalCommand
      "runner.complete is an internal asynchronous transition and cannot be submitted through execute()."
      "use completeRunner through the bound Runner service; no Authority state was changed"
      "command=runner.complete; surface=generic-authority; transition=not-applied; internalOnly=true"
  | .runRecord => runRecord next payload session drawn
  | .evidenceRecord => evidenceRecord next payload session drawn
  | .artifactRecord => artifactRecord next payload drawn
  | .mirrorConfigure => mirrorConfigure services next payload drawn
  | .mirrorSync => mirrorSync services .mirrorSync next payload session drawn
  | .mirrorReconcile => mirrorSync services .mirrorReconcile next payload session drawn
  | .landingApply => landingApply next payload drawn
  | .releaseCreate => releaseCreate services next payload drawn
  | .targetConfigure => targetConfigure services next payload drawn
  | .promotionRequest => promotionRequest next command session drawn
  | .promotionExecute => internalCommand
      "promotion.execute is an internal provider handoff and cannot be submitted as a public Authority command."
      "use the coordinator's internal Promotion execution boundary; no provider operation was started"
      "command=promotion.execute; publicCommand=false; transition=not-applied"
  | .promotionReconcile => internalCommand
      "promotion.reconcile is an internal provider reconciliation and cannot be submitted as a public Authority command."
      "use the owner-authenticated Promotion reconciliation boundary; no provider operation was started"
      "command=promotion.reconcile; publicCommand=false; transition=not-applied"

/-- The collections a command may write. -/
def AuthorityCommandName.writes : AuthorityCommandName → List Collection
  | .projectCreate => [.sourceSpaces, .projects, .projectRevisions, .canonicalByProject]
  | .intentCreate | .intentAssign | .intentClose | .intentReopen => [.intents]
  | .intentComment => [.intents, .intentComments]
  | .pullRequestOpen | .pullRequestUpdate | .pullRequestReview | .pullRequestClose
  | .pullRequestReopen | .pullRequestBlock | .pullRequestMerge => [.pullRequests]
  | .workspaceCreate => [.projectViews, .workspaces]
  | .changeCreate => [.intents, .changes, .workspaces]
  | .revisionPublish => [.changeRevisions, .changes]
  | .runRequest | .runRecord => [.runs]
  | .evidenceRecord => [.evidence]
  | .artifactRecord => [.artifacts]
  | .landingApply => [.projectRevisions, .canonicalByProject, .landings, .changes, .workspaces]
  | .releaseCreate => [.releases]
  | .targetConfigure => [.targets]
  | .promotionRequest => [.promotions]
  | .mirrorConfigure => [.mirrors]
  | .mirrorSync | .mirrorReconcile => mirrorWrites
  | .runnerRegister => [.runnerProfiles]
  | .runnerComplete => [.runs, .evidence, .artifacts, .runnerAttempts, .runDetails]
  | .promotionExecute | .promotionReconcile => [.promotions, .targets]

/-! ## Recording a transition -/

/-- The event of an applied command. -/
def transitionEvent (version : Nat) (command : AuthorityCommandName) (idempotencyKey : String)
    (result : AuthorityCommandResult) (session : AuthoritySession) (drawn : Drawn) :
    AuthorityAuditEvent where
  id := drawn.opaqueId "authority-audit"
  command
  idempotencyKey
  actor := actorRef session
  outcome := result.status
  stateVersion := version
  occurredAt := drawn.now
  taskId := truthy session.taskId
  capabilityGrantId := truthy session.capabilityGrantId
  delegatedBySessionId := truthy session.delegatedBySessionId
  modelProvider := truthy session.modelProvider
  receipt := result.receipt

/-- The row and the event of an applied command, at the next version. -/
def recordTransition (next : AuthorityPlaneSnapshot) (command : AuthorityCommandName)
    (idempotencyKey requestFingerprint : String) (result : AuthorityCommandResult)
    (session : AuthoritySession) (drawn : Drawn) :
    AuthorityPlaneSnapshot × AuthorityCommandResult :=
  let version := next.version + 1
  let result := { result with version }
  ({ next with
    version
    idempotency := next.idempotency.set idempotencyKey ⟨requestFingerprint, result⟩
    audit := next.audit ++
      [transitionEvent version command idempotencyKey result session drawn] }, result)

/-! ## Executing a command -/

/-- The session of the internal Mirror handoff. -/
def isMirrorHandoff (session : AuthoritySession) : Prop :=
  session.kind = some .mirror ∧ (session.clientId = "anyam-mirror-coordinator" ∨
    session.clientId = "anyam-mirror-fixture" ∨
      session.clientId = "anyam-github-app-qualification")

instance (session : AuthoritySession) : Decidable (isMirrorHandoff session) :=
  inferInstanceAs (Decidable (_ ∧ _))

def execute (services : AuthorityServices) (state : AuthorityPlaneSnapshot)
    (command : AuthorityCommand) (session : AuthoritySession) (drawn : Drawn) : Applied := do
  let name := command.command
  require (name ≠ .runnerComplete) (refusal .invalidRequest
    "runner.complete is an internal asynchronous transition and cannot be executed through the generic Authority command path."
    "submit the signed completion through the bound Runner service; no Authority state was changed"
    "command=runner.complete; surface=generic-authority; transition=not-applied; internalOnly=true")
  require (command.protocol = authorityCommandProtocol) (refusal .invalidRequest
    s!"Unsupported authority command protocol {command.protocol}."
    "send an anyam.authority-command/v1 envelope; no authority transition was accepted"
    s!"protocol={command.protocol}; transition=not-applied")
  require (session.realmId = state.realmId) (refusal .invalidRequest
    "The authenticated session belongs to a different Realm."
    "route the command through the Durable Object bound to the authenticated Realm"
    s!"sessionRealm={session.realmId}; stateRealm={state.realmId}; transition=not-applied")
  require (name = .mirrorSync ∨ name = .mirrorReconcile → isMirrorHandoff session)
    (refusal .invalidRequest
      s!"{name} is an internal signed Mirror-ingestion transition and cannot be submitted by a human, agent, OAuth, or generic Authority session."
      "submit the exact provider proposal through the internal signed Mirror handoff after RepositoryDriver observation; no Authority state was changed"
      s!"command={name}; mirrorIngestion=internal-only; providerObservation=required; transition=not-applied")
  let idempotencyKey ← requiredString (some (.string command.idempotencyKey)) "idempotencyKey"
  let requestFingerprint := fingerprint { command with idempotencyKey }
  match state.idempotency.get? idempotencyKey with
  | some existing => do
    require (existing.fingerprint = requestFingerprint) (refusal .idempotencyConflict
      s!"Idempotency key {idempotencyKey} was already used for a different Authority command."
      "reuse the original command payload or choose a new idempotency key; authoritative state was unchanged"
      s!"idempotencyKey={idempotencyKey}; conflict=true; stateVersion={state.version}; overwritten=false")
    return (state, existing.result)
  | none => do
    let expected := (command.expectedVersion.map toString).getD "undefined"
    require (∀ version ∈ command.expectedVersion, version = state.version) (refusal .staleState
      s!"Authority state changed before {name} was accepted."
      "read the current authority state and retry the same intent with its version and a fresh idempotency key"
      s!"expectedVersion={expected}; actualVersion={state.version}; overwritten=false")
    let applied ← apply services state command session drawn
    return recordTransition applied.1 name idempotencyKey requestFingerprint applied.2 session
      drawn

/-! ## Synchronizing a Runner -/

/-- The session of the internal Runner coordinator. -/
def isRunnerCoordinator (session : AuthoritySession) : Prop :=
  session.kind = some .runner ∧ session.clientId = "anyam-runner-coordinator"

instance (session : AuthoritySession) : Decidable (isRunnerCoordinator session) :=
  inferInstanceAs (Decidable (_ ∧ _))

def registerRunnerProfile (state : AuthorityPlaneSnapshot) (profile : RunnerProfile)
    (session : AuthoritySession) (drawn : Drawn) :
    Except AuthorityFailure AuthorityPlaneSnapshot := do
  let kind := (session.kind.map toString).getD "unspecified"
  require (isRunnerCoordinator session) (refusal .invalidRequest
    "Only the internal Runner coordinator may synchronize Runner enrollment."
    "synchronize the enrolled profile through the bound Runner service; no Authority state was changed"
    s!"client={session.clientId}; kind={kind}; runner={profile.id}; enrollment=not-applied")
  require (profile.realmId = state.realmId) (refusal .invalidRequest
    s!"Runner {profile.id} belongs to a different Realm."
    "synchronize only an enrolled Runner profile from the current Realm; no Authority state was changed"
    s!"runner={profile.id}; profileRealm={profile.realmId}; authorityRealm={state.realmId}; enrollment=not-applied")
  match state.runnerProfiles.get? profile.id with
  | some existing => do
    require (existing.profileDigest = profile.profileDigest) (refusal .conflict
      s!"Runner {profile.id} is already enrolled with a different profile digest."
      "rotate the Runner through an explicit enrollment ceremony; do not replace an enrolled public key implicitly"
      s!"runner={profile.id}; existingProfileDigest={existing.profileDigest}; receivedProfileDigest={profile.profileDigest}; enrollment=not-applied")
    return state
  | none =>
    let version := state.version + 1
    let event : AuthorityAuditEvent := {
      id := drawn.opaqueId "authority-audit"
      command := .runnerRegister
      idempotencyKey := s!"runner.register:{profile.id}:{profile.profileDigest}"
      actor := actorRef session
      outcome := .succeeded
      stateVersion := version
      occurredAt := drawn.now
      receipt := s!"runner={profile.id}; enrollment=synchronized; profileDigest={profile.profileDigest}; credentialMaterialStored=false" }
    return { state.put .runnerProfiles profile.id profile with
      version
      audit := state.audit ++ [event] }

/-! ## Completing a Run -/

/-- `fingerprint` of a completion, over the JSON text of its payload. -/
def completionFingerprint (command : RunnerCompletionCommand) (idempotencyKey : String) : String :=
  let fields := Json.stringifyFields ([
      ("protocol", .string command.protocol),
      ("command", .string (toString command.command)),
      ("idempotencyKey", .string idempotencyKey)]
    ++ (command.expectedVersion.map fun version =>
        ("expectedVersion", Json.number (toString version))).toList)
  "\x7b" ++ String.intercalate ","
    (fields ++ [jsonString "payload" ++ ":" ++ command.payloadText]) ++ "\x7d"

def completeRunner (services : AuthorityServices) (state : AuthorityPlaneSnapshot)
    (command : RunnerCompletionCommand) (session : AuthoritySession)
    (custody : Option RunnerArtifactCustody) (drawn : Drawn) : Applied := do
  let name := command.command
  let kind := (session.kind.map toString).getD "unspecified"
  require (command.protocol = authorityCommandProtocol) (refusal .invalidRequest
    s!"Unsupported authority command protocol {command.protocol}."
    "send an anyam.authority-command/v1 envelope; no authority transition was accepted"
    s!"protocol={command.protocol}; command=runner.complete; transition=not-applied")
  require (name = .runnerComplete) (refusal .invalidRequest
    "The Runner completion boundary accepts only runner.complete."
    "send command=runner.complete through the internal Runner service; no authority transition was accepted"
    s!"command={name}; runnerCompletion=not-accepted")
  require (session.realmId = state.realmId) (refusal .invalidRequest
    "The Runner completion session belongs to a different Realm."
    "route the completion through the Durable Object bound to the Runner Realm"
    s!"sessionRealm={session.realmId}; stateRealm={state.realmId}; runnerCompletion=not-accepted")
  require (isRunnerCoordinator session) (refusal .invalidRequest
    "Only the internal Runner coordinator may submit runner.complete."
    "submit the signed completion through the bound Runner service; browser, agent, OAuth, and MCP sessions cannot complete Runs"
    s!"client={session.clientId}; kind={kind}; runnerCompletion=not-accepted")
  let idempotencyKey ← requiredString (some (.string command.idempotencyKey)) "idempotencyKey"
  let requestFingerprint := completionFingerprint command idempotencyKey
  match state.idempotency.get? idempotencyKey with
  | some existing => do
    require (existing.fingerprint = requestFingerprint) (refusal .idempotencyConflict
      s!"Idempotency key {idempotencyKey} was already used for a different Runner completion."
      "reuse the original signed completion or choose a new idempotency key; authoritative state was unchanged"
      s!"idempotencyKey={idempotencyKey}; conflict=true; runnerCompletion=not-applied")
    return (state, existing.result)
  | none => do
    let expected := (command.expectedVersion.map toString).getD "undefined"
    require (∀ version ∈ command.expectedVersion, version = state.version) (refusal .staleState
      s!"Authority state changed before Runner completion {idempotencyKey} was accepted."
      "read the current Authority version and retry the same signed completion with a fresh idempotency key"
      s!"expectedVersion={expected}; actualVersion={state.version}; runnerCompletion=not-applied")
    let applied ← applyRunnerCompletion services state command custody drawn
    return recordTransition applied.1 name idempotencyKey requestFingerprint applied.2 session
      drawn

/-! ## Executing a Promotion -/

/-- The command a Promotion operation is recorded as. -/
def promotionCommand (operation : AuthorityCommandName) (idempotencyKey : String)
    (expectedVersion : Option Int) (promotionId executionIdempotencyKey : String) :
    AuthorityCommand where
  protocol := authorityCommandProtocol
  command := operation
  idempotencyKey
  expectedVersion
  payload := .ofList [
    ("promotionId", .string promotionId),
    ("executionIdempotencyKey", .string executionIdempotencyKey)]

/-- A Promotion that has reached its goal. -/
def PromotionState.terminal (state : PromotionState) : Bool :=
  state = .healthy || state = .rolledBack

/-- The states an execution may start from. -/
def PromotionState.recoverable (state : PromotionState) : Bool :=
  state = .blocked || state = .failed || state = .degraded

/-- The records a Promotion names, as they are now. -/
def promotionValues (state : AuthorityPlaneSnapshot) (promotion : PromotionRecord) :
    List AuthorityValue :=
  [.promotion promotion] ++
    ((state.targets.get? promotion.targetId).map AuthorityValue.target).toList ++
    ((state.releases.get? promotion.releaseId).map AuthorityValue.release).toList

/-- What a Promotion has come to since it was answered. -/
def replayedStatus (promotion : PromotionRecord) (recorded : AuthorityStatus) : AuthorityStatus :=
  if PromotionState.terminal promotion.state then .succeeded
  else if promotion.state = .blocked then .blocked
  else if promotion.state = .failed ∨ promotion.state = .degraded then .indeterminate
  else recorded

/-- The answer to an execution that is recorded: the recorded one, or, once the state went on,
the Promotion as it is now. -/
def replayedExecution (state : AuthorityPlaneSnapshot) (existing : AuthorityCommandResult)
    (promotionId executionIdempotencyKey : String) : AuthorityCommandResult :=
  if existing.version = state.version then existing
  else
    match (state.promotions.get? promotionId).filter fun promotion =>
      promotion.executionIdempotencyKey = some executionIdempotencyKey with
    | none => existing
    | some promotion =>
      { existing with
        status := replayedStatus promotion existing.status
        version := state.version
        value := promotionValues state promotion ++
          (promotion.reconciliationCheckpoint.map .promotionCheckpoint).toList
        receipt := s!"promotion={promotion.id}; execution=replay; state={promotion.state}; providerInvocation=false; credentialFree=true; canonicalWrite=false"
        recoveryAction := (truthy promotion.recoveryAction).or existing.recoveryAction }

/-- An operation on a Promotion that has reached its goal: it is answered, and its row is kept
without a version of its own. -/
def recordTerminal (state : AuthorityPlaneSnapshot) (operation : AuthorityCommandName)
    (idempotencyKey requestFingerprint : String) (value : List AuthorityValue) (receipt : String) :
    AuthorityPlaneSnapshot × AuthorityCommandResult :=
  let result := success operation state value receipt
  ({ state with
    idempotency := state.idempotency.set idempotencyKey ⟨requestFingerprint, result⟩ }, result)

def executePromotion (services : AuthorityServices) (state : AuthorityPlaneSnapshot)
    (input : PromotionExecutionRequest) (drawn : Drawn) : Applied := do
  require (input.session.realmId = state.realmId) (refusal .invalidRequest
    "The authenticated session belongs to a different Realm."
    "route Promotion execution through the coordinator bound to the authenticated Realm"
    s!"sessionRealm={input.session.realmId}; stateRealm={state.realmId}; promotionExecution=not-accepted")
  let executionIdempotencyKey ← requiredString (some (.string input.executionIdempotencyKey))
    "executionIdempotencyKey"
  let idempotencyKey := s!"promotion.execute:{executionIdempotencyKey}"
  let requestFingerprint := fingerprint (promotionCommand .promotionExecute idempotencyKey
    input.expectedVersion input.promotionId executionIdempotencyKey)
  match state.idempotency.get? idempotencyKey with
  | some existing => do
    require (existing.fingerprint = requestFingerprint) (refusal .idempotencyConflict
      s!"Execution idempotency key {executionIdempotencyKey} was already used for a different Promotion handoff."
      "reuse the original execution payload or choose a new execution idempotency key"
      s!"executionIdempotencyKey={executionIdempotencyKey}; conflict=true; stateVersion={state.version}; overwritten=false")
    return (state,
      replayedExecution state existing.result input.promotionId executionIdempotencyKey)
  | none => do
    let expected := (input.expectedVersion.map toString).getD "undefined"
    require (∀ version ∈ input.expectedVersion, version = state.version) (refusal .staleState
      s!"Authority state changed before Promotion {input.promotionId} execution was accepted."
      "read the current Authority state and retry with a fresh execution idempotency key"
      s!"expectedVersion={expected}; actualVersion={state.version}; promotionExecution=not-accepted")
    let promotion ← orThrow (state.promotions.get? input.promotionId) (refusal .notFound
      s!"Promotion {input.promotionId} does not exist."
      "inspect the authoritative Promotion ledger and retry with the recorded Promotion ID"
      s!"promotion={input.promotionId}; execution=not-started; discoverable=false")
    let recorded := (truthy promotion.executionIdempotencyKey).getD ""
    require (∀ key ∈ truthy promotion.executionIdempotencyKey, key = executionIdempotencyKey)
      (refusal .conflict
        s!"Promotion {promotion.id} already has immutable execution identity {recorded}."
        "use promotion.reconcile with the recorded execution identity; do not start a superseding provider operation"
        s!"promotion={promotion.id}; requestedExecution={executionIdempotencyKey}; recordedExecution={recorded}; providerInvocation=false")
    if PromotionState.terminal promotion.state then
      return recordTerminal state .promotionExecute idempotencyKey requestFingerprint
        (promotionValues state promotion)
        s!"promotion={promotion.id}; execution=already-terminal; state={promotion.state}; providerInvocation=false; credentialFree=true; canonicalWrite=false"
    else do
      require (PromotionState.recoverable promotion.state = true) (refusal .conflict
        s!"Promotion {promotion.id} is {promotion.state}; it is not ready for a provider handoff."
        "wait for a recoverable Promotion state or request a new Promotion without changing the existing record"
        s!"promotion={promotion.id}; state={promotion.state}; execution=not-started")
      runPromotionExecution services state {
        promotion
        promotionId := input.promotionId
        executionIdempotencyKey
        authorityIdempotencyKey := idempotencyKey
        requestFingerprint
        executor := input.executor
        session := input.session
        operation := .promotionExecute } drawn

/-! ## Reconciling one -/

def reconcilePromotion (services : AuthorityServices) (state : AuthorityPlaneSnapshot)
    (input : PromotionReconciliationRequest) (drawn : Drawn) : Applied := do
  require (input.session.realmId = state.realmId) (refusal .invalidRequest
    "The authenticated session belongs to a different Realm."
    "route Promotion reconciliation through the coordinator bound to the authenticated Realm"
    s!"sessionRealm={input.session.realmId}; stateRealm={state.realmId}; promotionReconcile=not-accepted")
  let reconciliationIdempotencyKey ←
    requiredString (some (.string input.reconciliationIdempotencyKey))
      "reconciliationIdempotencyKey"
  let idempotencyKey := s!"promotion.reconcile:{reconciliationIdempotencyKey}"
  let promotion ← orThrow (state.promotions.get? input.promotionId) (refusal .notFound
    s!"Promotion {input.promotionId} does not exist."
    "inspect the authoritative Promotion ledger and retry with the recorded Promotion ID"
    s!"promotion={input.promotionId}; reconciliation=not-started; discoverable=false")
  let executionIdempotencyKey ← orThrow
    (truthy (promotion.executionIdempotencyKey.or (promotion.reconciliationCheckpoint.map
      PromotionReconciliationCheckpoint.idempotencyKey)))
    (refusal .conflict
      s!"Promotion {promotion.id} has no recorded provider execution identity to reconcile."
      "start the original Promotion execution first; reconciliation cannot invent a provider operation"
      s!"promotion={promotion.id}; executionIdentity=missing; providerInvocation=false")
  let requestFingerprint := fingerprint (promotionCommand .promotionReconcile idempotencyKey
    input.expectedVersion input.promotionId executionIdempotencyKey)
  match state.idempotency.get? idempotencyKey with
  | some existing => do
    require (existing.fingerprint = requestFingerprint) (refusal .idempotencyConflict
      s!"Reconciliation idempotency key {reconciliationIdempotencyKey} was already used for a different Promotion identity."
      "reuse the original reconciliation payload or choose a new reconciliation idempotency key"
      s!"reconciliationIdempotencyKey={reconciliationIdempotencyKey}; conflict=true; overwritten=false")
    return (state, existing.result)
  | none => do
    let expected := (input.expectedVersion.map toString).getD "undefined"
    require (∀ version ∈ input.expectedVersion, version = state.version) (refusal .staleState
      s!"Authority state changed before Promotion {promotion.id} reconciliation was accepted."
      "read the current Promotion status and retry reconciliation with a fresh request idempotency key"
      s!"expectedVersion={expected}; actualVersion={state.version}; promotionReconcile=not-accepted")
    if PromotionState.terminal promotion.state then
      return recordTerminal state .promotionReconcile idempotencyKey requestFingerprint
        (promotionValues state promotion ++
          (promotion.reconciliationCheckpoint.map .promotionCheckpoint).toList)
        s!"promotion={promotion.id}; reconciliation=already-terminal; state={promotion.state}; providerInvocation=false; credentialFree=true; canonicalWrite=false"
    else do
      require (PromotionState.recoverable promotion.state = true) (refusal .conflict
        s!"Promotion {promotion.id} is {promotion.state}; it cannot be reconciled from this state."
        "wait for a recoverable Promotion state or request a new Promotion without changing this record"
        s!"promotion={promotion.id}; state={promotion.state}; reconciliation=not-started")
      runPromotionExecution services state {
        promotion
        promotionId := input.promotionId
        executionIdempotencyKey
        authorityIdempotencyKey := idempotencyKey
        requestFingerprint
        executor := input.executor
        session := input.session
        operation := .promotionReconcile } drawn

/-! ## How an accepted call ends -/

section

variable {services : AuthorityServices} {state state' : AuthorityPlaneSnapshot} {drawn : Drawn}
  {result : AuthorityCommandResult}

/-- A command writes only its own collections. -/
theorem apply_writes {command : AuthorityCommand} {session : AuthoritySession}
    (h : apply services state command session drawn = .ok (state', result)) :
    state.WritesOnly command.command.writes state' := by
  unfold apply at h
  cases hname : command.command <;> simp only [hname] at h
  case intentCreate =>
    obtain ⟨_, _, rfl⟩ := intentCreate_ok h
    exact .put (.refl ..) (by decide) ..
  case intentAssign =>
    obtain ⟨_, _, rfl⟩ := intentAssign_ok h
    exact .put (.refl ..) (by decide) ..
  case intentComment =>
    obtain ⟨_, _, _, _, -, rfl⟩ := intentComment_ok h
    exact .put (.put (.refl ..) (by decide) ..) (by decide) ..
  case intentClose | intentReopen =>
    rcases intentStatus_ok h with rfl | ⟨_, _, rfl⟩
    · exact .refl ..
    · exact .put (.refl ..) (by decide) ..
  case pullRequestOpen =>
    obtain ⟨_, _, -, -, -, -, -, rfl⟩ := pullRequestOpen_ok h
    exact .put (.refl ..) (by decide) ..
  case pullRequestUpdate =>
    obtain ⟨_, _, _, -, -, rfl⟩ := pullRequestUpdate_ok h
    exact .put (.refl ..) (by decide) ..
  case pullRequestReview =>
    obtain ⟨_, _, _, _, _, -, -, rfl⟩ := pullRequestReview_ok h
    exact .put (.refl ..) (by decide) ..
  case pullRequestClose | pullRequestReopen | pullRequestBlock | pullRequestMerge =>
    rcases pullRequestStatus_ok h with rfl | ⟨_, _, -, -, -, rfl⟩
    · exact .refl ..
    · exact .put (.refl ..) (by decide) ..
  case projectCreate =>
    obtain ⟨_, _, _, _, _, -, hspaces, -, -, -, -, -, -, rfl⟩ := projectCreate_ok h
    exact .put (.put (.put (hspaces.mono (by decide)) (by decide) ..) (by decide) ..) (by decide) ..
  case workspaceCreate =>
    obtain ⟨_, _, _, _, _, _, _, _, -, -, -, -, -, -, rfl⟩ := workspaceCreate_ok h
    exact .put (.put (.refl ..) (by decide) ..) (by decide) ..
  case changeCreate =>
    obtain ⟨_, _, workspace, change, -, -, -, -, -, -, -, -, -, -, rfl, -⟩ := changeCreate_ok h
    exact (AuthorityPlaneSnapshot.WritesOnly.put ((materializedIntent_writes ..).mono (by decide))
      (by decide) _ _).trans ((claimWorkspace_writes ..).mono (by decide))
  case revisionPublish =>
    obtain ⟨_, _, _, _, _, -, -, -, -, -, -, -, -, -, -, -, rfl, -⟩ := revisionPublish_ok h
    exact .put (.put (.refl ..) (by decide) ..) (by decide) ..
  case runRequest =>
    obtain ⟨_, _, -, -, -, rfl⟩ := runRequest_ok h
    exact .put (.refl ..) (by decide) ..
  case runRecord =>
    obtain ⟨_, _, -, -, rfl⟩ := runRecord_ok h
    exact .put (.refl ..) (by decide) ..
  case evidenceRecord =>
    obtain ⟨_, _, _, _, -, -, -, -, -, -, -, rfl⟩ := evidenceRecord_ok h
    exact .put (.refl ..) (by decide) ..
  case artifactRecord =>
    obtain ⟨_, _, -, -, -, -, -, rfl⟩ := artifactRecord_ok h
    exact .put (.refl ..) (by decide) ..
  case mirrorConfigure =>
    obtain ⟨_, _, -, -, rfl⟩ := mirrorConfigure_ok h
    exact .put (.refl ..) (by decide) ..
  case mirrorSync | mirrorReconcile => exact mirrorSync_writes h
  case landingApply =>
    obtain ⟨_, _, _, _, _, _, _, _, -, -, -, -, -, -, -, -, -, -, -, -, -, -, -, rfl⟩ :=
      landingApply_ok h
    exact (AuthorityPlaneSnapshot.WritesOnly.put (.put (.put (.put (.refl ..) (by decide) ..)
      (by decide) ..) (by decide) ..) (by decide) _ _).trans
        ((closeWorkspace_writes _).mono (by decide))
  case releaseCreate =>
    obtain ⟨_, _, _, _, _, -, -, -, -, -, -, -, -, -, rfl, -⟩ := releaseCreate_ok h
    exact .put (.refl ..) (by decide) ..
  case targetConfigure =>
    obtain ⟨_, -, rfl⟩ := targetConfigure_ok h
    exact .put (.refl ..) (by decide) ..
  case promotionRequest =>
    obtain ⟨_, -, rfl⟩ := promotionRequest_ok h
    exact .put (.refl ..) (by decide) ..
  all_goals exact absurd h nofun

/-- An accepted command is answered from its row, or is applied under a new key. -/
theorem execute_ok {command : AuthorityCommand} {session : AuthoritySession}
    (h : execute services state command session drawn = .ok (state', result)) :
    (∃ key row, optionalString (some (.string command.idempotencyKey)) = some key ∧
      state.idempotency.get? key = some row ∧ state' = state) ∨
    ∃ (key : String) (next : AuthorityPlaneSnapshot) (applied : AuthorityCommandResult),
      optionalString (some (.string command.idempotencyKey)) = some key ∧
      state.idempotency.get? key = none ∧
      (command.command = .mirrorSync ∨ command.command = .mirrorReconcile →
        isMirrorHandoff session) ∧
      apply services state command session drawn = .ok (next, applied) ∧
      (state', result) = recordTransition next command.command key
        (fingerprint { command with idempotencyKey := key }) applied session drawn := by
  simp only [execute, bind_eq_ok, require_eq_ok, requiredString_eq_ok, exists_unit] at h
  obtain ⟨-, -, -, hhandoff, key, hkey, h⟩ := h
  cases hrow : state.idempotency.get? key with
  | some existing =>
    simp only [hrow, bind_eq_ok, require_eq_ok, exists_unit, pure_eq_ok, Prod.mk.injEq] at h
    exact .inl ⟨key, existing, hkey, hrow, h.2.1.symm⟩
  | none =>
    simp only [hrow, bind_eq_ok, require_eq_ok, exists_unit, pure_eq_ok] at h
    obtain ⟨-, ⟨next, applied⟩, happly, heq⟩ := h
    exact .inr ⟨key, next, applied, hkey, hrow, hhandoff, happly, heq.symm⟩

/-- A Runner is enrolled already, or is enrolled now, at the next version. -/
theorem registerRunnerProfile_ok {profile : RunnerProfile} {session : AuthoritySession}
    (h : registerRunnerProfile state profile session drawn = .ok state') :
    state' = state ∨ (state.runnerProfiles.get? profile.id = none ∧
      ∃ event : AuthorityAuditEvent, event.id = drawn.opaqueId "authority-audit" ∧
        event.stateVersion = state.version + 1 ∧
        state' = { state.put .runnerProfiles profile.id profile with
          version := state.version + 1
          audit := state.audit ++ [event] }) := by
  simp only [registerRunnerProfile, bind_eq_ok, require_eq_ok, exists_unit] at h
  obtain ⟨-, -, h⟩ := h
  cases hrow : state.runnerProfiles.get? profile.id with
  | some existing =>
    simp only [hrow, bind_eq_ok, require_eq_ok, exists_unit, pure_eq_ok] at h
    exact .inl h.2.symm
  | none =>
    simp only [hrow, pure_eq_ok] at h
    exact .inr ⟨rfl, _, rfl, rfl, h.symm⟩

theorem completeRunner_ok {command : RunnerCompletionCommand} {session : AuthoritySession}
    {custody : Option RunnerArtifactCustody}
    (h : completeRunner services state command session custody drawn = .ok (state', result)) :
    state' = state ∨ ∃ (key : String) (next : AuthorityPlaneSnapshot)
      (applied : AuthorityCommandResult),
      optionalString (some (.string command.idempotencyKey)) = some key ∧
      state.idempotency.get? key = none ∧
      applyRunnerCompletion services state command custody drawn = .ok (next, applied) ∧
      (state', result) = recordTransition next .runnerComplete key
        (completionFingerprint command key) applied session drawn := by
  simp only [completeRunner, bind_eq_ok, require_eq_ok, requiredString_eq_ok, exists_unit] at h
  obtain ⟨-, hname, -, -, key, hkey, h⟩ := h
  cases hrow : state.idempotency.get? key with
  | some existing =>
    simp only [hrow, bind_eq_ok, require_eq_ok, exists_unit, pure_eq_ok, Prod.mk.injEq] at h
    exact .inl h.2.1.symm
  | none =>
    simp only [hrow, hname, bind_eq_ok, require_eq_ok, exists_unit, pure_eq_ok] at h
    obtain ⟨-, ⟨next, applied⟩, happly, heq⟩ := h
    exact .inr ⟨key, next, applied, hkey, hrow, happly, heq.symm⟩

/-- How an accepted operation on a Promotion ends: it was recorded before, it finds the Promotion
at its goal, or an execution is recorded. -/
def PromotionEnds (state state' : AuthorityPlaneSnapshot) (promotionId key auditId : String)
    (result : AuthorityCommandResult) : Prop :=
  state' = state ∨
    (∃ promotion, state.promotions.get? promotionId = some promotion ∧
      PromotionState.terminal promotion.state = true ∧ state.idempotency.get? key = none ∧
      ∃ fingerprint, state' = { state with
        idempotency := state.idempotency.set key ⟨fingerprint, result⟩ }) ∨
    (∃ promotion, state.promotions.get? promotionId = some promotion ∧
      PromotionState.terminal promotion.state = false ∧ state.idempotency.get? key = none ∧
      ∃ fingerprint, PromotionRecorded state state' key fingerprint auditId result)

theorem executePromotion_ok {input : PromotionExecutionRequest}
    (h : executePromotion services state input drawn = .ok (state', result)) :
    ∃ key, PromotionEnds state state' input.promotionId key (drawn.opaqueId "authority-audit")
      result := by
  simp only [executePromotion, bind_eq_ok, require_eq_ok, exists_unit] at h
  obtain ⟨-, execution, -, h⟩ := h
  refine ⟨s!"promotion.execute:{execution}", ?_⟩
  cases hrow : state.idempotency.get? s!"promotion.execute:{execution}" with
  | some existing =>
    simp only [hrow, bind_eq_ok, require_eq_ok, exists_unit, pure_eq_ok, Prod.mk.injEq] at h
    exact .inl h.2.1.symm
  | none =>
    simp only [hrow, bind_eq_ok, require_eq_ok, orThrow_eq_ok, exists_unit] at h
    obtain ⟨-, promotion, hpromotion, -, h⟩ := h
    split at h
    · rename_i hterminal
      obtain ⟨rfl, rfl⟩ := Prod.mk.inj (Except.ok.inj h)
      exact .inr (.inl ⟨promotion, hpromotion, hterminal, hrow, _, rfl⟩)
    · rename_i hterminal
      simp only [bind_eq_ok, require_eq_ok, exists_unit] at h
      exact .inr (.inr ⟨promotion, hpromotion, Bool.eq_false_iff.mpr hterminal, hrow, _,
        runPromotionExecution_ok h.2⟩)

theorem reconcilePromotion_ok {input : PromotionReconciliationRequest}
    (h : reconcilePromotion services state input drawn = .ok (state', result)) :
    ∃ key, PromotionEnds state state' input.promotionId key (drawn.opaqueId "authority-audit")
      result := by
  simp only [reconcilePromotion, bind_eq_ok, require_eq_ok, orThrow_eq_ok, exists_unit] at h
  obtain ⟨-, reconciliation, -, promotion, hpromotion, execution, -, h⟩ := h
  refine ⟨s!"promotion.reconcile:{reconciliation}", ?_⟩
  cases hrow : state.idempotency.get? s!"promotion.reconcile:{reconciliation}" with
  | some existing =>
    simp only [hrow, bind_eq_ok, require_eq_ok, exists_unit, pure_eq_ok, Prod.mk.injEq] at h
    exact .inl h.2.1.symm
  | none =>
    simp only [hrow, bind_eq_ok, require_eq_ok, exists_unit] at h
    obtain ⟨-, h⟩ := h
    split at h
    · rename_i hterminal
      obtain ⟨rfl, rfl⟩ := Prod.mk.inj (Except.ok.inj h)
      exact .inr (.inl ⟨promotion, hpromotion, hterminal, hrow, _, rfl⟩)
    · rename_i hterminal
      simp only [bind_eq_ok, require_eq_ok, exists_unit] at h
      exact .inr (.inr ⟨promotion, hpromotion, Bool.eq_false_iff.mpr hterminal, hrow, _,
        runPromotionExecution_ok h.2⟩)

end

end Anyam.Authority
