import Anyam.Portability.MirrorRecords

/-!
# The mirror coordinator

`MirrorCoordinator` of `portability/mirror.ts`. A sync is a sequence of stretches between
the calls it awaits: `sync` up to the inspection, `inspected` up to a Change or a push,
`created` up to the next Change, and `pushed`. Each stretch runs without interruption and
returns what it ended with beside the coordinator's next state; what it keeps for the
stretch after the call is the `MirrorCall` it awaits.
-/

namespace Anyam.Portability

open Anyam.Lib Anyam.Kernel

/-! ## Syncs in flight -/

/-- The local variables of a sync. -/
structure SyncFrame where
  input : MirrorSyncInput
  projectedCanonical : List GitRef
  operation : MirrorOperation
  checkpoint : MirrorCheckpoint
deriving DecidableEq, Repr

/-- The local variables of `sync` after the inspection. -/
structure Observation where
  remoteState : MirrorRemoteState
  remoteRefs : List GitRef
  updates : List MirrorRefUpdate
  remoteChanged : Bool
  canonicalChanged : Bool
  forceUpdates : List MirrorRefUpdate
deriving DecidableEq, Repr

/-- The local variables of `processInbound`. -/
structure InboundFrame extends SyncFrame where
  remoteState : MirrorRemoteState
  remoteRefs : List GitRef
  completed : List String
  inboundChanges : List Change
deriving DecidableEq, Repr

/-- The input of `remote.inspect`. -/
structure MirrorInspection where
  mirror : RepositoryMirror
  knownRefs : List GitRef
  knownGeneration : String
deriving DecidableEq, Repr

/-- The input of `remote.push`. -/
structure MirrorPush where
  mirror : RepositoryMirror
  expectedGeneration : String
  expectedRefs : List GitRef
  desiredRefs : List GitRef
  operationId : String
  idempotencyKey : String
deriving DecidableEq, Repr

/-- The call a sync awaits, with what it goes on with: the updates left after the
proposed one, and the remote state a push expects. -/
inductive MirrorCall
  | inspect (frame : SyncFrame) (request : MirrorInspection)
  | createChange (frame : InboundFrame) (proposalKey : String)
      (proposal : MirrorInboundChangeInput) (rest : List MirrorRefUpdate)
  | push (frame : SyncFrame) (remoteState : MirrorRemoteState) (request : MirrorPush)
deriving DecidableEq, Repr

/-- How a stretch of a sync ends. A recorded result is handed out again by `replayed`. -/
inductive SyncOutcome
  | threw (error : MirrorError)
  | replayed (result : MirrorSyncResult)
  | finished (input : MirrorSyncInput) (result : MirrorSyncResult)
  | awaits (call : MirrorCall)
deriving DecidableEq, Repr

/-- The call a stretch ends with. -/
def SyncOutcome.awaited : SyncOutcome → Option MirrorCall
  | .awaits call => some call
  | _ => none

/-- The frame of a failure of `processInbound`: its checkpoint keeps the Changes completed
so far. -/
def InboundFrame.blocked (inbound : InboundFrame) : SyncFrame :=
  { inbound.toSyncFrame with
    checkpoint := { inbound.checkpoint with
      state := .inboundProposals
      completedInboundChangeIds := inbound.completed } }

/-- The frame with the checkpoint of a push, which keeps the remote state it saw. -/
def SyncFrame.outboundApplied (frame : SyncFrame) (remoteGeneration : String)
    (remoteRefs : List GitRef) : SyncFrame :=
  { frame with
    checkpoint := { frame.checkpoint with state := .outboundApplied, remoteGeneration, remoteRefs } }

/-- The frame after a proposal became a Change. -/
def InboundFrame.completedBy (inbound : InboundFrame) (change : Change) (remoteCommit : String) :
    InboundFrame :=
  let completed := distinct (inbound.completed ++ [change.id])
  { inbound with
    completed
    inboundChanges := inbound.inboundChanges ++ [change]
    checkpoint := { inbound.checkpoint with
      state := .inboundProposals
      completedInboundChangeIds := completed
      recoveryAction := "resume this checkpoint; already-created inbound Changes are idempotently reused"
      receipt := s!"{inbound.checkpoint.receipt}; inbound={change.id}; remoteCommit={remoteCommit}" } }

/-- The boundary `succeed` records. -/
structure MirrorBoundary where
  state : MirrorState
  canonicalProjectRevisionId : String
  canonicalRefs : List GitRef
  remoteGeneration : String
  remoteRefs : List GitRef
  pendingInboundChangeIds : List String
  lastOriginOperationId : Option String := none
deriving DecidableEq, Repr

/-! ## The coordinator -/

structure MirrorCoordinator where
  mirror : RepositoryMirror
  sourceSpaceClassification : SourceSpaceClassification
  operations : OrderedMap String MirrorOperation
  checkpoints : OrderedMap String MirrorCheckpoint
  idempotency : OrderedMap String MirrorSyncResult
  inboundChangeIds : OrderedMap String String
deriving DecidableEq, Repr

namespace MirrorCoordinator

def initial (mirror : RepositoryMirror) (sourceSpaceClassification : SourceSpaceClassification) :
    MirrorCoordinator where
  mirror
  sourceSpaceClassification
  operations := .empty
  checkpoints := .empty
  idempotency := .empty
  inboundChangeIds := .empty

/-- The constructor's pass over the ref mappings, with the refs it has seen. -/
def checkMappings (mirrorId : String) : List MirrorRefMapping → List String → List String →
    Except MirrorError Unit
  | [], _, _ => .ok ()
  | mapping :: mappings, localRefs, remoteRefs => do
    nonEmpty mapping.localRef "mirror.refMappings.localRef"
    nonEmpty mapping.remoteRef "mirror.refMappings.remoteRef"
    require (¬ (mapping.localRef ∈ localRefs ∨ mapping.remoteRef ∈ remoteRefs)) {
      code := "mirror.ref_mapping_duplicate"
      message := s!"Mirror {mirrorId} maps one local or remote ref more than once."
      affectedObject := mirrorId
      recoveryAction := "configure one unambiguous local-to-remote ref mapping per permitted ref"
      receipt := s!"mirror={mirrorId}; local={mapping.localRef}; remote={mapping.remoteRef}" }
    checkMappings mirrorId mappings (mapping.localRef :: localRefs) (mapping.remoteRef :: remoteRefs)

/-- The constructor. -/
def create (mirror : RepositoryMirror) (sourceSpaceClassification : SourceSpaceClassification) :
    Except MirrorError MirrorCoordinator := do
  nonEmpty mirror.id "mirror.id"
  nonEmpty mirror.projectId "mirror.projectId"
  nonEmpty mirror.sourceSpaceId "mirror.sourceSpaceId"
  nonEmpty mirror.remoteRepository "mirror.remoteRepository"
  require (mirror.canonicalAuthority = "anyam") {
    code := "mirror.canonical_authority_unsupported"
    message := s!"Mirror {mirror.id} cannot make the provider canonical."
    affectedObject := mirror.id
    recoveryAction := "configure the external repository as an Anyam projection; provider branch protection is optional and never replaces Anyam Landing"
    receipt := s!"mirror={mirror.id}; canonicalAuthority={mirror.canonicalAuthority}; providerRole=projection; transition=not-applied" }
  require (mirror.direction = "bidirectional") {
    code := "mirror.direction_unsupported"
    message := "Only bidirectional Repository Mirrors are supported by this coordinator."
    affectedObject := mirror.id
    recoveryAction := "configure a bidirectional Mirror or install a provider-specific adapter"
    receipt := s!"mirror={mirror.id}; direction={mirror.direction}" }
  checkMappings mirror.id mirror.refMappings [] []
  require (¬ (mirror.disclosure = .public ∧ sourceSpaceClassification ≠ .public)) {
    code := "mirror.disclosure_violation"
    message := s!"Public Mirror {mirror.id} cannot map a non-public Source Space."
    affectedObject := mirror.sourceSpaceId
    recoveryAction := "map only a public Source Space or lower the Mirror disclosure policy"
    receipt := s!"mirror={mirror.id}; disclosure={mirror.disclosure}; sourceClassification={sourceSpaceClassification}" }
  return initial mirror sourceSpaceClassification

variable (services : MirrorServices) (s : MirrorCoordinator)

/-! ### How a sync ends -/

def reconciliationFailure (errorCode message recoveryAction receipt : String) :
    MirrorProviderFailure where
  errorCode
  message
  retryable := false
  affectedObject := s.mirror.id
  recoveryAction
  receipt

def failedOperationState : MirrorState → MirrorOperationState
  | .divergent | .forcePushed => .degraded
  | .blocked | .credentialFailed => .blocked
  | _ => .failed

/-- The state is the explicit one where it is given; `actualRemoteGeneration` is recorded
unless it is empty. -/
def fail (frame : SyncFrame) (failure : MirrorProviderFailure) (state : MirrorState)
    (actualRemoteGeneration : Option String) (explicitState : Option MirrorState)
    (completedAt : String) : SyncOutcome × MirrorCoordinator :=
  let operation := frame.operation
  let checkpoint := frame.checkpoint
  let completedOperation : MirrorOperation := { operation with
    kind := if frame.input.reconciliation.isSome then .reconcile else operation.kind
    state := failedOperationState state
    actualRemoteGeneration :=
      (truthy actualRemoteGeneration).orElse fun _ => operation.actualRemoteGeneration
    errorCode := some failure.errorCode
    completedAt := some completedAt
    receipt := s!"{operation.receipt}; state={state}; error={failure.errorCode}; {failure.receipt}" }
  let completedCheckpoint : MirrorCheckpoint := { checkpoint with
    state := .blocked
    recoveryAction := failure.recoveryAction
    receipt := s!"{checkpoint.receipt}; state=blocked; error={failure.errorCode}; {failure.receipt}" }
  let mirror := { s.mirror with
    state := explicitState.getD state
    lastOperationId := some completedOperation.id
    checkpointId := some completedCheckpoint.id
    updatedAt := completedAt
    remoteGeneration := (truthy actualRemoteGeneration).getD s.mirror.remoteGeneration }
  let result : MirrorSyncResult := .failed { failure with
    mirror
    operation := completedOperation
    checkpoint := completedCheckpoint
    budget := {
      name := "mirror-ref-reconciliation"
      limit := "every permitted mapped ref, remote generation, and inbound provenance receipt"
      asked := mirror.remoteRepository
      receipt := s!"mirror={mirror.id}; remote={mirror.remoteRepository}; operation={completedOperation.id}; error={failure.errorCode}" } }
  (.finished frame.input result, { s with
    mirror
    operations := s.operations.set completedOperation.id completedOperation
    checkpoints := s.checkpoints.set completedCheckpoint.id completedCheckpoint
    idempotency := s.idempotency.set frame.input.idempotencyKey result })

def succeed (frame : SyncFrame) (next : MirrorBoundary) (inboundChanges : List Change)
    (kind : MirrorOperationKind) (completedAt : String) : SyncOutcome × MirrorCoordinator :=
  let operation := frame.operation
  let checkpoint := frame.checkpoint
  let changeIds := inboundChanges.map Change.id
  let inbound := (truthy (some (",".intercalate changeIds))).getD "none"
  let completedOperation : MirrorOperation := { operation with
    kind
    state := .succeeded
    actualRemoteGeneration := some next.remoteGeneration
    inboundChangeIds := changeIds
    completedAt := some completedAt
    receipt := s!"{operation.receipt}; state=succeeded; kind={kind}; remote={next.remoteGeneration}; inbound={inbound}" }
  let completedCheckpoint : MirrorCheckpoint := { checkpoint with
    state := .completed
    canonicalProjectRevisionId := next.canonicalProjectRevisionId
    canonicalRefs := next.canonicalRefs
    remoteGeneration := next.remoteGeneration
    remoteRefs := next.remoteRefs
    completedInboundChangeIds := distinct (checkpoint.completedInboundChangeIds ++ changeIds)
    recoveryAction :=
      if next.pendingInboundChangeIds ≠ [] then
        "Land the pending inbound Changes, then resume Mirror sync"
      else "No recovery action is required; inspect the operation receipt for lineage"
    receipt := s!"{checkpoint.receipt}; state=completed; kind={kind}" }
  let mirror := { s.mirror with
    state := next.state
    canonicalProjectRevisionId := next.canonicalProjectRevisionId
    canonicalRefs := next.canonicalRefs
    remoteGeneration := next.remoteGeneration
    remoteRefs := next.remoteRefs
    pendingInboundChangeIds := next.pendingInboundChangeIds
    lastOperationId := some completedOperation.id
    checkpointId := some completedCheckpoint.id
    updatedAt := completedAt
    lastOriginOperationId :=
      (truthy next.lastOriginOperationId).orElse fun _ => s.mirror.lastOriginOperationId
    receipt := s!"{s.mirror.receipt}; last={completedOperation.id}; state={next.state}" }
  let result : MirrorSyncResult := .succeeded {
    mirror
    operation := completedOperation
    checkpoint := completedCheckpoint
    inboundChanges }
  (.finished frame.input result, { s with
    mirror
    operations := s.operations.set completedOperation.id completedOperation
    checkpoints := s.checkpoints.set completedCheckpoint.id completedCheckpoint
    idempotency := s.idempotency.set frame.input.idempotencyKey result })

/-! ### The start of a sync -/

/-- `validateCanonical`: throws on an empty field, and otherwise returns the failure it
found. -/
def validateCanonical (canonical : MirrorCanonicalState) :
    Except MirrorError (Option MirrorProviderFailure) := do
  nonEmpty canonical.projectRevisionId "canonical.projectRevisionId"
  nonEmpty canonical.sourceSpaceId "canonical.sourceSpaceId"
  nonEmpty canonical.verificationReceipt "canonical.verificationReceipt"
  let mirror := s.mirror
  return if canonical.sourceSpaceId ≠ mirror.sourceSpaceId then
    s.reconciliationFailure "mirror.source_space_mismatch"
      "Canonical state names a different Source Space than the Mirror."
      "read the canonical state for the mapped Source Space and retry"
      s!"mirror={mirror.id}; expected={mirror.sourceSpaceId}; actual={canonical.sourceSpaceId}"
  else if mirror.disclosure = .public ∧
      (canonical.sourceSpaceClassification ≠ .public ∨ canonical.disclosure ≠ .public) then
    s.reconciliationFailure "mirror.disclosure_violation"
      "A public Mirror may receive only a public Source Space projection."
      "select a public Source Space and public Disclosure Projection for this Mirror"
      s!"mirror={mirror.id}; sourceClassification={canonical.sourceSpaceClassification}; disclosure={canonical.disclosure}"
  else if canonical.sourceSpaceClassification ≠ s.sourceSpaceClassification then
    s.reconciliationFailure "mirror.source_space_classification_mismatch"
      "Canonical state does not match the Source Space classification bound to the Mirror."
      "refresh the Source Space policy and retry with its current Disclosure Projection"
      s!"mirror={mirror.id}; configured={s.sourceSpaceClassification}; actual={canonical.sourceSpaceClassification}"
  else if canonical.verified = false then
    s.reconciliationFailure "mirror.unverified_canonical"
      "Outbound mirroring requires a verified canonical Project Revision."
      "run the required verification and supply its receipt before mirroring"
      s!"mirror={mirror.id}; projectRevision={canonical.projectRevisionId}; verified=false"
  else if ¬ disclosureAllows mirror.disclosure canonical.disclosure then
    s.reconciliationFailure "mirror.disclosure_violation"
      "Canonical Disclosure exceeds the Mirror's permitted Disclosure."
      "use a narrower Project View or configure a matching Mirror policy"
      s!"mirror={mirror.id}; mirrorDisclosure={mirror.disclosure}; canonicalDisclosure={canonical.disclosure}"
  else none

/-- The operation and checkpoint a new sync records. -/
def startSync (input : MirrorSyncInput) (createdAt : String) : SyncFrame :=
  let mirror := s.mirror
  let canonical := input.canonical
  let projectedCanonical := projectCanonicalRefs services canonical mirror.refMappings
  let mirrorJson := jsonString mirror.id
  let keyJson := jsonString input.idempotencyKey
  let operationId := services.stableId "mirror-operation"
    s!"\x7b\"mirrorId\":{mirrorJson},\"idempotencyKey\":{keyJson}\x7d"
  let operationJson := jsonString operationId
  let checkpointId := services.stableId "mirror-checkpoint"
    s!"\x7b\"operationId\":{operationJson},\"state\":\"preflight\"\x7d"
  let resumed := input.resumeCheckpointId.getD "none"
  { input
    projectedCanonical
    operation := {
      id := operationId
      mirrorId := mirror.id
      kind := input.operationKind
      state := .started
      canonicalProjectRevisionId := canonical.projectRevisionId
      expectedRemoteGeneration := mirror.remoteGeneration
      actor := input.actor
      inboundChangeIds := []
      checkpointId
      createdAt
      receipt := s!"mirror=sync-started; id={operationId}; canonical={canonical.projectRevisionId}; resume={resumed}" }
    checkpoint := {
      id := checkpointId
      mirrorId := mirror.id
      operationId
      state := .preflight
      canonicalProjectRevisionId := canonical.projectRevisionId
      canonicalRefs := projectedCanonical
      remoteGeneration := mirror.remoteGeneration
      remoteRefs := mirror.remoteRefs
      completedInboundChangeIds := []
      recoveryAction := "resume the same Mirror operation after fixing the named blocked condition"
      receipt := s!"mirror={mirror.id}; checkpoint={checkpointId}; state=preflight" } }

/-- The operation and the checkpoint of a started sync are written down. -/
def record (frame : SyncFrame) : MirrorCoordinator :=
  { s with
    operations := s.operations.set frame.operation.id frame.operation
    checkpoints := s.checkpoints.set frame.checkpoint.id frame.checkpoint }

/-- `sync` up to the inspection. -/
def sync (input : MirrorSyncInput) (clock : Clock) : SyncOutcome × MirrorCoordinator :=
  match nonEmpty input.idempotencyKey "mirror.idempotencyKey" with
  | .error error => (.threw error, s)
  | .ok _ =>
    match s.idempotency.get? input.idempotencyKey with
    | some previous => (.replayed previous, s)
    | none =>
      let frame := s.startSync services input (clock 0)
      let s := s.record frame
      match s.validateCanonical input.canonical with
      | .error error => (.threw error, s)
      | .ok (some failure) => s.fail frame failure .blocked none none (clock 1)
      | .ok none =>
        (.awaits (.inspect frame {
          mirror := s.mirror
          knownRefs := s.mirror.remoteRefs
          knownGeneration := s.mirror.remoteGeneration }), s)

def resume (input : MirrorSyncInput) (checkpointId : String) (clock : Clock) :
    SyncOutcome × MirrorCoordinator :=
  match (s.checkpoints.get? checkpointId).filter fun found => found.mirrorId = s.mirror.id with
  | none => (.threw {
      code := "mirror.checkpoint_not_found"
      message := s!"Mirror checkpoint {checkpointId} is not known for {s.mirror.id}."
      affectedObject := checkpointId
      recoveryAction := "inspect the Mirror checkpoints and resume from a known checkpoint"
      receipt := s!"mirror={s.mirror.id}; checkpoint={checkpointId}; known=false" }, s)
  | some checkpoint =>
    s.sync services { input with resumeCheckpointId := some checkpoint.id } clock

/-! ### Inbound Changes -/

def inboundExhausted (inbound : InboundFrame) (completedAt : String) :
    SyncOutcome × MirrorCoordinator :=
  s.succeed inbound.toSyncFrame {
      state := .lagging
      canonicalProjectRevisionId := s.mirror.canonicalProjectRevisionId
      canonicalRefs := s.mirror.canonicalRefs
      remoteGeneration := inbound.remoteState.generation
      remoteRefs := inbound.remoteRefs
      pendingInboundChangeIds := distinct (s.mirror.pendingInboundChangeIds ++ inbound.completed) }
    inbound.inboundChanges .inbound completedAt

/-- The key a remote commit is proposed under once. -/
def proposalKey (remoteRef oid : String) : String := s!"{s.mirror.id}:{remoteRef}:{oid}"

/-- The proposal for a remote commit at a mapped ref. -/
def proposalOf (inbound : InboundFrame) (mapping : MirrorRefMapping)
    (remoteCommit : MirrorRemoteCommit) : MirrorInboundChangeInput :=
  let mirror := s.mirror
  { projectId := mirror.projectId
    sourceSpaceId := mirror.sourceSpaceId
    baseProjectRevisionId := inbound.input.canonical.projectRevisionId
    intentId := services.stableId "intent:mirror"
      (jsonString (s.proposalKey remoteCommit.ref remoteCommit.oid))
    title := remoteCommit.title
    localRef := mapping.localRef
    remoteCommit
    origin := {
      kind := .mirror
      source := mirror.provider
      mirrorId := some mirror.id
      remoteRepository := some mirror.remoteRepository
      remoteRef := some remoteCommit.ref
      remoteCommit := some remoteCommit.oid
      remoteAuthor := some remoteCommit.author
      disclosure := remoteCommit.disclosure
      receipt := s!"mirror={mirror.id}; remote={mirror.remoteRepository}; ref={remoteCommit.ref}; commit={remoteCommit.oid}; providerReceipt={inbound.remoteState.receipt}" } }

/-- `processInbound` from an update on: up to the next Change it has to create, or to its
end. -/
def proposeUpdates (inbound : InboundFrame) (completedAt : String) :
    List MirrorRefUpdate → SyncOutcome × MirrorCoordinator
  | [] => s.inboundExhausted inbound completedAt
  | update :: rest =>
    match mappingForRemote update.remoteRef s.mirror.refMappings with
    | none => proposeUpdates inbound completedAt rest
    | some mapping =>
      match inbound.remoteState.commits.find? fun commit =>
          commit.ref = update.remoteRef ∧ some commit.oid = update.currentOid with
      | none =>
        let oid := update.currentOid.getD "undefined"
        s.fail inbound.blocked (s.reconciliationFailure "mirror.inbound_commit_missing"
          "The remote ref update has no matching commit provenance."
          "fetch and expose the exact remote commit author, ref, OID, disclosure, and receipt"
          s!"mirror={s.mirror.id}; ref={update.remoteRef}; oid={oid}")
          .blocked inbound.remoteState.generation none completedAt
      | some remoteCommit =>
        if ¬ disclosureAllows s.mirror.disclosure remoteCommit.disclosure then
          s.fail inbound.blocked (s.reconciliationFailure "mirror.inbound_disclosure_violation"
            "The remote commit's Disclosure exceeds the Mirror policy."
            "quarantine the remote ref and create a narrower public proposal"
            s!"mirror={s.mirror.id}; ref={remoteCommit.ref}; oid={remoteCommit.oid}; disclosure={remoteCommit.disclosure}")
            .blocked inbound.remoteState.generation none completedAt
        else
          let key := s.proposalKey remoteCommit.ref remoteCommit.oid
          match truthy (s.inboundChangeIds.get? key) with
          | some known =>
            proposeUpdates { inbound with completed := distinct (inbound.completed ++ [known]) }
              completedAt rest
          | none =>
            (.awaits (.createChange inbound key (s.proposalOf services inbound mapping remoteCommit)
              rest), s)

/-- The updates `processInbound` works through. -/
def relevantUpdates (updates : List MirrorRefUpdate) : List MirrorRefUpdate :=
  updates.filter fun update => update.kind ≠ .unchanged ∧ update.currentOid ≠ none

def processInbound (frame : SyncFrame) (observed : Observation) (completedAt : String) :
    SyncOutcome × MirrorCoordinator :=
  if relevantUpdates observed.updates = [] then
    s.fail frame (s.reconciliationFailure "mirror.inbound_commit_missing"
      "The remote changed but supplied no attributable commit update."
      "fix the provider adapter to return the changed commit, ref, author, and receipt"
      s!"mirror={s.mirror.id}; remote={observed.remoteState.generation}")
      .blocked observed.remoteState.generation none completedAt
  else
    s.proposeUpdates services {
        toSyncFrame := frame
        remoteState := observed.remoteState
        remoteRefs := observed.remoteRefs
        completed := distinct frame.checkpoint.completedInboundChangeIds
        inboundChanges := [] }
      completedAt (relevantUpdates observed.updates)

def originMatches (actual : Option ChangeOrigin) (expected : ChangeOrigin) : Prop :=
  ∃ found ∈ actual, found.kind = .mirror ∧ found.source = expected.source ∧
    found.mirrorId = expected.mirrorId ∧ found.remoteRepository = expected.remoteRepository ∧
    found.remoteRef = expected.remoteRef ∧ found.remoteCommit = expected.remoteCommit ∧
    found.disclosure = expected.disclosure

instance (actual : Option ChangeOrigin) (expected : ChangeOrigin) :
    Decidable (originMatches actual expected) :=
  inferInstanceAs (Decidable (∃ found ∈ actual, _))

/-- The failure of a `createChange` that threw. -/
def createException (remoteCommit : MirrorRemoteCommit) (errorName : Option String) :
    MirrorProviderFailure where
  errorCode := "mirror.change_sink_exception"
  message :=
    let thrown := errorName.getD "an unknown error"
    s!"Inbound Change creation threw {thrown}."
  retryable := true
  affectedObject := remoteCommit.oid
  recoveryAction := "resume the Mirror checkpoint after fixing the Change coordinator"
  receipt :=
    let thrown := errorName.getD "unknown"
    s!"mirror={s.mirror.id}; commit={remoteCommit.oid}; exception={thrown}"

/-- `processInbound` from the answer of `createChange` on. -/
def created (inbound : InboundFrame) (key : String) (proposal : MirrorInboundChangeInput)
    (rest : List MirrorRefUpdate) (answer : MirrorAnswer Change) (clock : Clock) :
    SyncOutcome × MirrorCoordinator :=
  match answer.caught (s.createException proposal.remoteCommit) with
  | .failed failure =>
    s.fail inbound.blocked failure (classifyProviderState failure false)
      inbound.remoteState.generation none (clock 0)
  | .succeeded change =>
    if change.projectId ≠ s.mirror.projectId ∨
        change.baseProjectRevisionId ≠ inbound.input.canonical.projectRevisionId ∨
        ¬ originMatches change.origin proposal.origin then
      s.fail inbound.blocked (s.reconciliationFailure "mirror.change_provenance_mismatch"
        "The Change coordinator returned a Change without the exact remote provenance."
        "reject the proposal and repair the Change coordinator's origin mapping before retrying"
        s!"mirror={s.mirror.id}; expectedCommit={proposal.remoteCommit.oid}; returnedChange={change.id}")
        .blocked inbound.remoteState.generation none (clock 0)
    else
      let inbound := inbound.completedBy change proposal.remoteCommit.oid
      let s := { s with
        inboundChangeIds := s.inboundChangeIds.set key change.id
        checkpoints := s.checkpoints.set inbound.checkpoint.id inbound.checkpoint }
      s.proposeUpdates services inbound (clock 0) rest

/-! ### Outbound pushes -/

def processOutbound (frame : SyncFrame) (observed : Observation) :
    SyncOutcome × MirrorCoordinator :=
  (.awaits (.push frame observed.remoteState {
    mirror := s.mirror
    expectedGeneration := observed.remoteState.generation
    expectedRefs := observed.remoteRefs
    desiredRefs := frame.projectedCanonical
    operationId := frame.operation.id
    idempotencyKey := frame.input.idempotencyKey }), s)

/-- The failure of a push that threw. -/
def pushException (frame : SyncFrame) (errorName : Option String) : MirrorProviderFailure where
  errorCode := "mirror.push_exception"
  message :=
    let thrown := errorName.getD "an unknown error"
    s!"Mirror push threw {thrown}."
  retryable := true
  affectedObject := s.mirror.remoteRepository
  recoveryAction := "inspect remote state and resume the Mirror checkpoint"
  receipt :=
    let thrown := errorName.getD "unknown"
    s!"mirror={s.mirror.id}; operation={frame.operation.id}; exception={thrown}"
  remoteMayHaveChanged := some true

/-- `refs.map((ref) => ref.name + ":" + ref.oid).join(",")`. -/
def listedRefs (refs : List GitRef) : String :=
  ",".intercalate (refs.map fun ref => s!"{ref.name}:{ref.oid}")

/-- `processOutbound` from the answer of `push` on. -/
def pushed (frame : SyncFrame) (remoteState : MirrorRemoteState) (request : MirrorPush)
    (answer : MirrorAnswer MirrorRemoteState) (clock : Clock) : SyncOutcome × MirrorCoordinator :=
  match answer.caught (s.pushException frame) with
  | .failed failure =>
    s.fail (frame.outboundApplied remoteState.generation request.expectedRefs) failure
      (classifyProviderState failure (failure.remoteMayHaveChanged.getD false))
      remoteState.generation none (clock 0)
  | .succeeded value =>
    let resultRefs := allowedRemoteRefs services value.refs s.mirror.refMappings
    let frame := frame.outboundApplied value.generation resultRefs
    if ¬ refsEqual resultRefs frame.projectedCanonical then
      let expected := listedRefs frame.projectedCanonical
      let actual := listedRefs resultRefs
      s.fail frame (s.reconciliationFailure "mirror.push_result_mismatch"
        "The remote provider did not return the exact refs requested by canonical Landing."
        "quarantine the provider result and reconcile remote state before retrying"
        s!"mirror={s.mirror.id}; expected={expected}; actual={actual}")
        .divergent value.generation none (clock 0)
    else
      s.succeed frame {
          state := .healthy
          canonicalProjectRevisionId := frame.input.canonical.projectRevisionId
          canonicalRefs := frame.projectedCanonical
          remoteGeneration := value.generation
          remoteRefs := resultRefs
          pendingInboundChangeIds := []
          lastOriginOperationId := some frame.operation.id }
        [] .outbound (clock 0)

/-! ### The inspection -/

/-- The failure of an inspection that threw. -/
def inspectException (frame : SyncFrame) (errorName : Option String) : MirrorProviderFailure where
  errorCode := "mirror.inspect_exception"
  message :=
    let thrown := errorName.getD "an unknown error"
    s!"Mirror inspection threw {thrown}."
  retryable := true
  affectedObject := s.mirror.remoteRepository
  recoveryAction := "inspect the provider and resume from the recorded checkpoint"
  receipt :=
    let thrown := errorName.getD "unknown"
    s!"mirror={s.mirror.id}; operation={frame.operation.id}; exception={thrown}"

/-- What an inspection shows against the recorded boundary. -/
def observe (frame : SyncFrame) (remoteState : MirrorRemoteState) : Observation :=
  let mirror := s.mirror
  let remoteRefs := allowedRemoteRefs services remoteState.refs mirror.refMappings
  let updates := remoteState.updates.filter fun update =>
    mappingForRemote update.remoteRef mirror.refMappings ≠ none
  let reflected := remoteState.originOperationId ≠ none ∧
    remoteState.originOperationId = mirror.lastOriginOperationId ∧
    refsEqual remoteRefs frame.projectedCanonical
  { remoteState
    remoteRefs
    updates
    remoteChanged := ¬ reflected ∧ (¬ refsEqual remoteRefs mirror.remoteRefs ∨
      remoteState.generation ≠ mirror.remoteGeneration)
    canonicalChanged :=
      frame.input.canonical.projectRevisionId ≠ mirror.canonicalProjectRevisionId ∨
        ¬ refsEqual frame.projectedCanonical mirror.canonicalRefs
    forceUpdates := updates.filter fun update => update.kind = .forcePush ∨ update.kind = .deleted }

/-- The frame with the checkpoint of an inspection. -/
def remoteInspected (frame : SyncFrame) (observed : Observation) : SyncFrame :=
  { frame with
    checkpoint := { frame.checkpoint with
      state := .remoteInspected
      remoteGeneration := observed.remoteState.generation
      remoteRefs := observed.remoteRefs
      receipt := s!"{frame.checkpoint.receipt}; state=remote-inspected; remote={observed.remoteState.generation}; remoteChanged={observed.remoteChanged}; canonicalChanged={observed.canonicalChanged}" } }

/-- `sync` from its comparison on. -/
def reconcile (frame : SyncFrame) (observed : Observation) (completedAt : String) :
    SyncOutcome × MirrorCoordinator :=
  let mirror := s.mirror
  let input := frame.input
  let generation := observed.remoteState.generation
  if (mirror.state = .forcePushed ∨ mirror.state = .divergent) ∧ input.reconciliation = none then
    s.fail frame (s.reconciliationFailure "mirror.reconciliation_required"
      "Mirror remains in a durable reconciliation state."
      "choose remote-as-proposal or canonical-wins explicitly before resuming"
      s!"mirror={mirror.id}; state={mirror.state}") .blocked generation none completedAt
  else if observed.forceUpdates ≠ [] ∧ input.reconciliation ≠ some .remoteAsProposal ∧
      input.reconciliation ≠ some .canonicalWins then
    let refs := ",".intercalate
      (observed.forceUpdates.map fun update => s!"{update.remoteRef}:{update.kind}")
    s.fail frame (s.reconciliationFailure "mirror.force_push_detected"
      "The remote rewrote or deleted a permitted ref."
      "inspect the remote rewrite, then resume with an explicit reconciliation choice"
      s!"mirror={mirror.id}; refs={refs}") .blocked generation (some .forcePushed) completedAt
  else if refsEqual frame.projectedCanonical observed.remoteRefs ∧
      (observed.remoteChanged ∨ observed.canonicalChanged ∨ mirror.pendingInboundChangeIds ≠ []) then
    s.succeed frame {
        state := .healthy
        canonicalProjectRevisionId := input.canonical.projectRevisionId
        canonicalRefs := frame.projectedCanonical
        remoteGeneration := generation
        remoteRefs := observed.remoteRefs
        pendingInboundChangeIds := []
        lastOriginOperationId := truthy observed.remoteState.originOperationId }
      [] frame.operation.kind completedAt
  else if mirror.pendingInboundChangeIds ≠ [] ∧ observed.canonicalChanged ∧
      ¬ refsEqual frame.projectedCanonical observed.remoteRefs ∧
      input.reconciliation ≠ some .canonicalWins then
    let pending := ",".intercalate mirror.pendingInboundChangeIds
    s.fail frame (s.reconciliationFailure "mirror.pending_inbound_changes"
      "Inbound Changes are waiting for Landing before outbound synchronization can advance the remote."
      "Land or abandon the pending inbound Changes, then retry Mirror sync"
      s!"mirror={mirror.id}; pending={pending}") .blocked generation none completedAt
  else if observed.remoteChanged ∧ observed.canonicalChanged ∧
      ¬ refsEqual frame.projectedCanonical observed.remoteRefs ∧ input.reconciliation = none then
    s.fail frame (s.reconciliationFailure "mirror.divergence_detected"
      "Canonical and remote refs changed from the last accepted Mirror boundary."
      "inspect both Change proposals and choose remote-as-proposal or canonical-wins"
      s!"mirror={mirror.id}; canonicalRevision={input.canonical.projectRevisionId}; remoteGeneration={generation}")
      .blocked generation (some .divergent) completedAt
  else if ((observed.remoteChanged ∧ ¬ refsEqual frame.projectedCanonical observed.remoteRefs) ∨
      input.reconciliation = some .remoteAsProposal) ∧
      input.reconciliation ≠ some .canonicalWins then
    s.processInbound services frame observed completedAt
  else if (observed.canonicalChanged ∧ ¬ refsEqual frame.projectedCanonical observed.remoteRefs) ∨
      input.reconciliation = some .canonicalWins then
    s.processOutbound frame observed
  else
    s.succeed frame {
        state := .healthy
        canonicalProjectRevisionId := input.canonical.projectRevisionId
        canonicalRefs := frame.projectedCanonical
        remoteGeneration := generation
        remoteRefs := observed.remoteRefs
        pendingInboundChangeIds := mirror.pendingInboundChangeIds }
      [] frame.operation.kind completedAt

/-- The generation or the receipt of a remote state is blank. -/
def ReceiptMissing (remoteState : MirrorRemoteState) : Prop :=
  trim remoteState.generation = "" ∨ trim remoteState.receipt = ""

instance (remoteState : MirrorRemoteState) : Decidable (ReceiptMissing remoteState) :=
  inferInstanceAs (Decidable (_ ∨ _))

/-- `sync` from the answer of `inspect` on. -/
def inspected (frame : SyncFrame) (answer : MirrorAnswer MirrorRemoteState) (clock : Clock) :
    SyncOutcome × MirrorCoordinator :=
  match answer.caught (s.inspectException frame) with
  | .failed failure =>
    s.fail frame failure (classifyProviderState failure false) none none (clock 0)
  | .succeeded remoteState =>
    if ReceiptMissing remoteState then
      let generation := (truthy (some remoteState.generation)).getD "missing"
      let providerReceipt := (truthy (some remoteState.receipt)).getD "missing"
      s.fail frame {
          errorCode := "mirror.remote_receipt_missing"
          message := "Mirror provider returned remote state without a generation or receipt."
          retryable := false
          affectedObject := s.mirror.remoteRepository
          recoveryAction := "fix the provider adapter to return a verifiable remote generation and receipt"
          receipt := s!"mirror={s.mirror.id}; generation={generation}; providerReceipt={providerReceipt}" }
        .blocked none none (clock 0)
    else
      let observed := s.observe services frame remoteState
      let frame := remoteInspected frame observed
      let s := { s with checkpoints := s.checkpoints.set frame.checkpoint.id frame.checkpoint }
      s.reconcile services frame observed (clock 0)

end MirrorCoordinator

end Anyam.Portability
