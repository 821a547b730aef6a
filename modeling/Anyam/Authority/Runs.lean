import Anyam.Authority.Revisions

/-!
# Run, Evidence and Artifact commands

`AuthorityPlaneCoordinator.apply` on `run.request`, `run.record`, `evidence.record` and
`artifact.record`. A Run, Evidence or Artifact may name a Project Revision that is not there yet:
the candidate of a published Change Revision, or, when a request names no Project, Change Revision
or Workspace, any text.

- **`runRequest_ok`**, **`runRecord_ok`**, **`evidenceRecord_ok`**, **`artifactRecord_ok`**: what
  an accepted command files, under a new id, and which Change Revision it is bound to.
-/

namespace Anyam.Authority

open Anyam.Lib Anyam.Kernel Anyam.Execution

/-! ## The Artifact outputs a Run is requested with -/

/-- The record has exactly the keys. -/
def exactKeys (value : Payload) (keys : List String) : Bool :=
  value.keys.length = keys.length && value.keys.all fun key => key ∈ keys

/-- One entry of `outputs`; an entry of another shape reads as one with an empty path, which is
refused in the same words. -/
def declaredOutput (value : Json) : ActionArtifactOutput :=
  let entry := (value.asRecord.filter fun entry => exactKeys entry ["path", "type"]).getD .empty
  ⟨((entry.get? "path").bind Json.asString).getD "",
    ((entry.get? "type").bind Json.asString).getD ""⟩

/-- `payload.artifactOutputContract`; a value of another shape reads as a contract without outputs,
which is refused in the same words. -/
def declaredContract (value : Json) : ActionArtifactOutputContract :=
  let contract := (value.asRecord.filter fun contract =>
    exactKeys contract ["protocol", "outputs"] ∧
      (contract.get? "protocol").bind Json.asString =
        some "anyam.action-artifact-outputs/v1").getD .empty
  ⟨(((contract.get? "outputs").bind Json.asArray).getD []).map declaredOutput⟩

/-- `actionArtifactContract(operation)`. -/
def actionArtifactContract {α : Type} (operation : Except ActionArtifactOutputError α) :
    Except AuthorityFailure α :=
  operation.mapError fun failure =>
    let reason := failure.reason
    refusal .conflict failure.message
      "use the exact declared Artifact contract and matching signed logical paths and digests; no Authority state was changed"
      s!"artifactOutputContract={reason}; transition=not-applied"

def artifactOutputContractFromPayload (value : Option Json) :
    Except AuthorityFailure (Option ActionArtifactOutputContract) :=
  whenDefined (fun value => actionArtifactContract (parseActionArtifactOutputContract
    (declaredContract (value.getD .null)) none)) value

/-! ## Requesting a Run -/

def runRequest (next : AuthorityPlaneSnapshot) (payload : Payload) (session : AuthoritySession)
    (drawn : Drawn) : Applied := do
  let projectId ← requiredString (payload.get? "projectId") "projectId"
  let project ← orThrow (next.projects.get? projectId) (refusal .notFound
    s!"Project {projectId} does not exist."
    "inspect the Project through the authenticated read surface before requesting a Run"
    s!"project={projectId}; run=request-not-created; discoverable=false")
  let projectRevisionId ← requiredString (payload.get? "projectRevisionId") "projectRevisionId"
  let projectRevision := next.projectRevisions.get? projectRevisionId
  let changeRevisionId := optionalString (payload.get? "changeRevisionId")
  let changeRevision := changeRevisionId.bind next.changeRevisions.get?
  let change := changeRevision.bind fun revision => next.changes.get? revision.changeId
  let revisionBoundByChange : Bool :=
    changeRevision.map ChangeRevision.projectRevisionId = some projectRevisionId &&
      change.map Change.projectId = some project.id
  require ((∃ revision ∈ projectRevision, revision.projectId = project.id) ∨
      revisionBoundByChange = true) (refusal .notFound
    s!"Project Revision {projectRevisionId} is not available for Project {project.id}."
    "request the Run against an exact Project Revision in the same Project or its exact published Change Revision"
    s!"project={project.id}; projectRevision={projectRevisionId}; run=request-not-created; discoverable=false")
  let projectViewId ← requiredString (payload.get? "projectViewId") "projectViewId"
  require (∃ view ∈ next.projectViews.get? projectViewId, view.projectId = project.id ∧
      (view.projectRevisionId = projectRevisionId ∨ revisionBoundByChange = true))
    (refusal .notFound
      s!"Project View {projectViewId} is not available for Project Revision {projectRevisionId}."
      "request the Run against the View mounted from the exact Project Revision"
      s!"project={project.id}; projectView={projectViewId}; run=request-not-created; discoverable=false")
  let requestedRevision := changeRevisionId.getD ""
  require (∀ _id ∈ changeRevisionId,
      (∃ revision ∈ changeRevision, revision.projectRevisionId = projectRevisionId ∧
        revision.projectViewId = projectViewId) ∧
      ∃ found ∈ change, found.projectId = project.id) (refusal .conflict
    s!"Change Revision {requestedRevision} is not bound to the requested Run context."
    "request the Run against the exact Change Revision, Project View, and Project Revision that will be executed"
    s!"project={project.id}; changeRevision={requestedRevision}; run=request-not-created")
  let workspaceId := optionalString (payload.get? "workspaceId")
  let requestedWorkspace := workspaceId.getD ""
  require (∀ id ∈ workspaceId, ∃ workspace ∈ next.workspaces.get? id,
      workspace.projectId = project.id ∧ workspace.projectViewId = projectViewId ∧
      ((∃ revision ∈ projectRevision, workspace.projectRevisionId = revision.id) ∨
        revisionBoundByChange = true) ∧
      ∀ found ∈ change, workspace.changeId = some found.id) (refusal .conflict
    s!"Workspace {requestedWorkspace} is not bound to the requested Run context."
    "request the Run from the active Workspace mounted on the exact Project View"
    s!"project={project.id}; workspace={requestedWorkspace}; run=request-not-created")
  let runId := (optionalString (payload.get? "runId")).getD (drawn.opaqueId "run")
  require (next.runs.get? runId = none) (refusal .conflict
    s!"Run {runId} already exists."
    "reuse the original idempotency key or choose a new Run identity"
    s!"run={runId}; exists=true; transition=not-applied")
  let artifactOutputContract ←
    artifactOutputContractFromPayload (payload.get? "artifactOutputContract")
  let actionId ← requiredString (payload.get? "actionId") "actionId"
  let inputDigests ← optionalStrings (payload.get? "inputDigests") "inputDigests"
  let outputDigests ← optionalStrings (payload.get? "outputDigests") "outputDigests"
  let effectDigests ← optionalStrings (payload.get? "effectDigests") "effectDigests"
  let policyVersion ← requiredString (payload.get? "policyVersion") "policyVersion"
  let capabilityGrantId ← requiredString (payload.get? "capabilityGrantId") "capabilityGrantId"
  let run : Run := {
    id := runId
    actionId
    projectRevisionId
    projectViewId
    runnerId := "runner:unassigned"
    attemptId := none
    verifierId := optionalString (payload.get? "verifierId")
    actionContractDigest := optionalString (payload.get? "actionContractDigest")
    artifactOutputContract
    verifierContractDigest := optionalString (payload.get? "verifierContractDigest")
    status := .queued
    outputDigest := none
    changeRevisionId
    workspaceId
    inputDigests := some inputDigests
    outputDigests := some outputDigests
    effectDigests := some effectDigests
    dependencyDigest := optionalString (payload.get? "dependencyDigest")
    toolchainDigest := optionalString (payload.get? "toolchainDigest")
    environmentDigest := optionalString (payload.get? "environmentDigest")
    policyVersion := some policyVersion
    targetId := optionalString (payload.get? "targetId")
    actor := some (actorRef session)
    capabilityGrantId := some capabilityGrantId
    exitCode := none
    stdoutDigest := none
    stderrDigest := none }
  return (next.put .runs runId run, success .runRequest next [.run run]
    s!"run={runId}; status=queued; completion=runner-only; canonicalWrite=false")

/-! ## Recording a Run -/

/-- `...(Array.isArray(value) ? { digests: stringArray(value, field, true) } : {})`. -/
def arrayStrings (value : Option Json) (field : String) :
    Except AuthorityFailure (Option (List String)) :=
  match value with
  | some (.array elements) => (stringArray (some (.array elements)) field true true).map some
  | _ => .ok none

def runStatuses : List RunStatus := [.queued, .running, .succeeded, .failed, .indeterminate]

/-- The answer to a recorded Run; an indeterminate one is not success. -/
def runRecorded (next : AuthorityPlaneSnapshot) (run : Run) : AuthorityCommandResult :=
  if run.status = .indeterminate then
    unsettled .indeterminate .runRecord next [.run run]
      s!"run={run.id}; status=indeterminate; evidence=not-yet-valid"
      "reconcile the Runner attempt and record a determinate Run before creating Evidence"
  else
    success .runRecord next [.run run] s!"run={run.id}; status={run.status}; runner={run.runnerId}"

def runRecord (next : AuthorityPlaneSnapshot) (payload : Payload) (session : AuthoritySession)
    (drawn : Drawn) : Applied := do
  let requestedProjectId := optionalString (payload.get? "projectId")
  let projectRevisionId ← requiredString (payload.get? "projectRevisionId") "projectRevisionId"
  let projectRevision := next.projectRevisions.get? projectRevisionId
  let changeRevisionId := optionalString (payload.get? "changeRevisionId")
  let changeRevision := changeRevisionId.bind next.changeRevisions.get?
  let changeProjectId := (changeRevision.bind fun revision =>
    next.changes.get? revision.changeId).map Change.projectId
  let workspaceId := optionalString (payload.get? "workspaceId")
  let workspace := workspaceId.bind next.workspaces.get?
  let workspaceProjectId := workspace.map Workspace.projectId
  let enforceRunBinding : Bool :=
    requestedProjectId.isSome || changeRevisionId.isSome || workspaceId.isSome
  require (enforceRunBinding = true → projectRevision.isSome ∨
      changeRevision.map ChangeRevision.projectRevisionId = some projectRevisionId ∨
      (truthy workspaceProjectId).isSome) (refusal .notFound
    s!"Project Revision {projectRevisionId} is not available."
    "record the Run against an existing Project Revision or its exact published Change Revision"
    s!"projectRevision={projectRevisionId}; run=not-created; discoverable=false")
  let requested := requestedProjectId.getD ""
  require (∀ id ∈ requestedProjectId,
      (∀ revision ∈ projectRevision, revision.projectId = id) ∧
        ∀ changeProject ∈ truthy changeProjectId, changeProject = id) (refusal .notFound
    s!"Project Revision {projectRevisionId} is not available for Project {requested}."
    "record the Run against the Project Revision belonging to the requested Project"
    s!"project={requested}; projectRevision={projectRevisionId}; run=not-created; discoverable=false")
  let projectId := truthy (((requestedProjectId.or
    (projectRevision.map ProjectRevision.projectId)).or changeProjectId).or workspaceProjectId)
  let projectText := projectId.getD "not-supplied"
  require (∀ id ∈ projectId, (next.projects.get? id).isSome) (refusal .indeterminate
    s!"Run Project {projectText} is not readable."
    "reconcile the Authority snapshot before recording the Run"
    s!"project={projectText}; run=not-created")
  let projectViewId ← requiredString (payload.get? "projectViewId") "projectViewId"
  require (∀ id ∈ projectId, ∃ view ∈ next.projectViews.get? projectViewId, view.projectId = id)
    (refusal .notFound
      s!"Project View {projectViewId} is not available for Project {projectText}."
      "record the Run against the Project View mounted by the Workspace"
      s!"project={projectText}; projectView={projectViewId}; run=not-created; discoverable=false")
  let workspaceText := workspaceId.getD ""
  let ownerText := projectId.getD "the Run"
  require (∀ _id ∈ workspaceId, ∃ found ∈ workspace,
      (∀ id ∈ projectId, found.projectId = id) ∧ found.projectViewId = projectViewId)
    (refusal .conflict
      s!"Workspace {workspaceText} is not bound to Project {ownerText} and Project View {projectViewId}."
      "record the Run from the assigned Workspace and its mounted Project View"
      s!"project={projectText}; workspace={workspaceText}; projectView={projectViewId}; run=not-created")
  let changeRevisionText := changeRevisionId.getD ""
  require (∀ _id ∈ changeRevisionId, ∃ found ∈ changeRevision,
      (∀ id ∈ projectId, changeProjectId = some id) ∧ found.projectViewId = projectViewId ∧
        found.projectRevisionId = projectRevisionId) (refusal .conflict
    s!"Change Revision {changeRevisionText} is not bound to the Run Project, View, and Revision."
    "record the Run against the exact Change Revision and Project View that produced its result"
    s!"project={projectText}; changeRevision={changeRevisionText}; projectRevision={projectRevisionId}; projectView={projectViewId}; run=not-created")
  let foundRevision := (changeRevision.map ChangeRevision.id).getD ""
  let foundWorkspace := (workspace.map Workspace.id).getD ""
  require (∀ found ∈ workspace, ∀ revision ∈ changeRevision,
      revision.workspaceId = some found.id) (refusal .conflict
    s!"Change Revision {foundRevision} is not bound to Workspace {foundWorkspace}."
    "record the Run against the Change Workspace that produced the Revision"
    s!"workspace={foundWorkspace}; changeRevision={foundRevision}; run=not-created")
  let runId := (optionalString (payload.get? "runId")).getD (drawn.opaqueId "run")
  let actionId ← requiredString (payload.get? "actionId") "actionId"
  let runnerId ← requiredString (payload.get? "runnerId") "runnerId"
  let inputDigests ← arrayStrings (payload.get? "inputDigests") "inputDigests"
  let outputDigests ← arrayStrings (payload.get? "outputDigests") "outputDigests"
  let given := (optionalString (payload.get? "status")).getD "succeeded"
  let status ← orThrow (runStatuses.find? fun entry => toString entry = given)
    (refusal .invalidRequest
      s!"Run status {given} is unsupported."
      "record queued, running, succeeded, failed, or indeterminate"
      s!"run={runId}; status={given}; transition=not-applied")
  let run : Run := {
    id := runId
    actionId
    projectRevisionId
    projectViewId
    runnerId
    attemptId := none
    verifierId := none
    actionContractDigest := none
    artifactOutputContract := none
    verifierContractDigest := none
    status
    outputDigest := optionalString (payload.get? "outputDigest")
    changeRevisionId
    workspaceId
    inputDigests
    outputDigests
    effectDigests := none
    dependencyDigest := none
    toolchainDigest := none
    environmentDigest := none
    policyVersion := none
    targetId := none
    actor := some (actorRef session)
    capabilityGrantId := none
    exitCode := none
    stdoutDigest := none
    stderrDigest := none }
  require (next.runs.get? runId = none) (refusal .conflict
    s!"Run {runId} already exists."
    "reuse the original idempotency key or choose a new Run identity"
    s!"run={runId}; exists=true; transition=not-applied")
  return (next.put .runs runId run, runRecorded next run)

/-! ## Recording Evidence -/

def evidenceOutcomes : List EvidenceOutcome := [.passed, .failed, .stale, .indeterminate]

/-- `payload.field ?? value`, for a text the Run has. -/
def orElse (value : Option Json) (fallback : Option String) : Option Json :=
  (nullish value).or (fallback.map .string)

/-- The Project Evidence of a Run is bound to, with the checks of the Revision it names. -/
def evidenceProject (next : AuthorityPlaneSnapshot) (payload : Payload) (run : Run)
    (projectRevisionId : String) (changeRevisionId : Option String) :
    Except AuthorityFailure (Option String) := do
  let projectId := optionalString (payload.get? "projectId")
  let projectRevision := next.projectRevisions.get? projectRevisionId
  let changeRevision := changeRevisionId.bind next.changeRevisions.get?
  let changeProjectId := (changeRevision.bind fun revision =>
    next.changes.get? revision.changeId).map Change.projectId
  let boundByChange : Bool :=
    changeRevision.map ChangeRevision.projectRevisionId = some projectRevisionId
  let enforceEvidenceBinding : Bool :=
    projectId.isSome || changeRevisionId.isSome || run.workspaceId.isSome
  let projectText := projectId.getD projectRevisionId
  require (enforceEvidenceBinding = true → projectRevision.isSome ∨
      (boundByChange = true ∧ ∀ id ∈ projectId, changeProjectId = some id)) (refusal .notFound
    s!"Evidence Project Revision {projectRevisionId} is not available for the requested Project."
    "record Evidence against an existing Project Revision or its exact published Change Revision"
    s!"project={projectText}; projectRevision={projectRevisionId}; evidence=not-created; discoverable=false")
  require (∀ id ∈ projectId, (∀ revision ∈ projectRevision, revision.projectId = id) ∧
      ∀ changeProject ∈ truthy changeProjectId, changeProject = id) (refusal .notFound
    s!"Evidence Project Revision {projectRevisionId} is not available for the requested Project."
    "record Evidence against a Project Revision belonging to the requested Project"
    s!"project={projectText}; projectRevision={projectRevisionId}; evidence=not-created; discoverable=false")
  return truthy ((projectId.or (projectRevision.map ProjectRevision.projectId)).or changeProjectId)

/-- What Evidence of a Run must name: the context of the Run, in the Project it is bound to. -/
def requireEvidenceContext (next : AuthorityPlaneSnapshot) (run : Run)
    (projectId : Option String) (projectRevisionId projectViewId : String)
    (changeRevisionId : Option String) : Except AuthorityFailure Unit := do
  require (projectViewId = run.projectViewId) (refusal .conflict
    s!"Evidence Project View {projectViewId} does not match Run {run.id}."
    "record Evidence against the exact Project View used by the successful Run"
    s!"run={run.id}; runProjectView={run.projectViewId}; evidenceProjectView={projectViewId}; evidence=not-created")
  let projectText := projectId.getD "not-supplied"
  require (∀ id ∈ projectId, ∃ view ∈ next.projectViews.get? projectViewId, view.projectId = id)
    (refusal .notFound
      s!"Project View {projectViewId} is not available for Project {projectText}."
      "record Evidence against the Project View mounted by the Run Workspace"
      s!"project={projectText}; projectView={projectViewId}; evidence=not-created; discoverable=false")
  let given := changeRevisionId.getD "missing"
  let expected := run.changeRevisionId.getD ""
  require (∀ id ∈ truthy run.changeRevisionId, changeRevisionId = some id) (refusal .conflict
    s!"Evidence Change Revision {given} does not match Run {run.id}."
    "record Evidence against the exact Change Revision used by the successful Run"
    s!"run={run.id}; runChangeRevision={expected}; evidenceChangeRevision={given}; evidence=not-created")
  let changeRevision := changeRevisionId.bind next.changeRevisions.get?
  let changeProjectId := (changeRevision.bind fun revision =>
    next.changes.get? revision.changeId).map Change.projectId
  require (∀ _id ∈ changeRevisionId, ∃ found ∈ changeRevision,
      (∀ id ∈ projectId, changeProjectId = some id) ∧ found.projectViewId = projectViewId ∧
        found.projectRevisionId = projectRevisionId) (refusal .conflict
    s!"Evidence Change Revision {given} is not bound to the Run Project, View, and Revision."
    "record Evidence against the exact Change Revision that produced the Run"
    s!"project={projectText}; changeRevision={given}; evidence=not-created")

/-- The checks of the Workspace Evidence of a Run names. -/
def requireEvidenceWorkspace (next : AuthorityPlaneSnapshot) (run : Run)
    (projectId : Option String) (projectViewId : String) (workspaceId : Option String) :
    Except AuthorityFailure Unit := do
  let given := workspaceId.getD "missing"
  let expected := run.workspaceId.getD ""
  require (∀ id ∈ truthy run.workspaceId, workspaceId = some id) (refusal .conflict
    s!"Evidence Workspace {given} does not match Run {run.id}."
    "record Evidence against the exact Workspace used by the successful Run"
    s!"run={run.id}; runWorkspace={expected}; evidenceWorkspace={given}; evidence=not-created")
  let projectText := projectId.getD "not-supplied"
  require (∀ id ∈ workspaceId, ∃ workspace ∈ next.workspaces.get? id,
      (∀ project ∈ projectId, workspace.projectId = project) ∧
        workspace.projectViewId = projectViewId) (refusal .conflict
    s!"Evidence Workspace {given} is not bound to the Run Project and View."
    "record Evidence from the Run Workspace and its mounted Project View"
    s!"project={projectText}; workspace={given}; evidence=not-created")

def evidenceRecord (next : AuthorityPlaneSnapshot) (payload : Payload)
    (session : AuthoritySession) (drawn : Drawn) : Applied := do
  let runId ← requiredString (payload.get? "runId") "runId"
  let run ← orThrow (next.runs.get? runId) (refusal .notFound
    s!"Run {runId} does not exist."
    "record the Run before attaching Evidence"
    s!"run={runId}; evidence=not-created")
  require (run.status = .succeeded) (refusal .conflict
    s!"Run {runId} is {run.status}; Evidence cannot assert success from it."
    "record a successful determinate Run or preserve the failure as an explicit non-passing result"
    s!"run={runId}; status={run.status}; evidence=not-created")
  let projectRevisionId ← requiredString
    (orElse (payload.get? "projectRevisionId") (some run.projectRevisionId)) "projectRevisionId"
  require (projectRevisionId = run.projectRevisionId) (refusal .conflict
    s!"Evidence Project Revision {projectRevisionId} does not match Run {run.id}."
    "record Evidence against the exact Project Revision used by the successful Run"
    s!"run={run.id}; runProjectRevision={run.projectRevisionId}; evidenceProjectRevision={projectRevisionId}; evidence=not-created")
  let changeRevisionId :=
    optionalString (orElse (payload.get? "changeRevisionId") run.changeRevisionId)
  let projectId ← evidenceProject next payload run projectRevisionId changeRevisionId
  let projectViewId ← requiredString
    (orElse (payload.get? "projectViewId") (some run.projectViewId)) "projectViewId"
  requireEvidenceContext next run projectId projectRevisionId projectViewId changeRevisionId
  let workspaceId := optionalString (orElse (payload.get? "workspaceId") run.workspaceId)
  requireEvidenceWorkspace next run projectId projectViewId workspaceId
  let disclosure := castObject (payload.get? "disclosure")
  let actionId ← requiredString (payload.get? "actionId") "actionId"
  require (actionId = run.actionId) (refusal .conflict
    s!"Evidence Action {actionId} does not match Run {run.id}."
    "record Evidence for the Action that produced the successful Run"
    s!"run={run.id}; runAction={run.actionId}; evidenceAction={actionId}; evidence=not-created")
  let runnerId ← requiredString (orElse (payload.get? "runnerId") (some run.runnerId)) "runnerId"
  require (runnerId = run.runnerId) (refusal .conflict
    s!"Evidence Runner {runnerId} does not match Run {run.id}."
    "record Evidence from the Runner that produced the successful Run"
    s!"run={run.id}; runRunner={run.runnerId}; evidenceRunner={runnerId}; evidence=not-created")
  let outputDigest ← requiredString (payload.get? "outputDigest") "outputDigest"
  require (∀ digest ∈ truthy run.outputDigest, digest = outputDigest) (refusal .conflict
    s!"Evidence output digest does not match Run {run.id}."
    "record Evidence with the exact output digest produced by the successful Run"
    s!"run={run.id}; outputDigest=match-required; evidence=not-created")
  let id := (optionalString (payload.get? "evidenceId")).getD (drawn.opaqueId "evidence")
  let key ← requiredString (payload.get? "key") "key"
  let criterion ← requiredString (payload.get? "criterion") "criterion"
  let validityKey ← requiredString (payload.get? "validityKey") "validityKey"
  let verifierId ← requiredString (payload.get? "verifierId") "verifierId"
  let toolchainDigest ← requiredString (payload.get? "toolchainDigest") "toolchainDigest"
  let dependencyDigest ← requiredString (payload.get? "dependencyDigest") "dependencyDigest"
  let environmentDigest ← requiredString (payload.get? "environmentDigest") "environmentDigest"
  let inputDigests ← stringArray (payload.get? "inputDigests") "inputDigests" true true
  let effectDigests ← stringArray (payload.get? "effectDigests") "effectDigests" true true
  let policyVersion ← requiredString (payload.get? "policyVersion") "policyVersion"
  let capabilityGrantId ← requiredString (payload.get? "capabilityGrantId") "capabilityGrantId"
  let projectionId ← requiredString (disclosure.get? "projectionId") "disclosure.projectionId"
  let classification ← requiredString (disclosure.get? "classification")
    "disclosure.classification"
  let receipt ← requiredString (payload.get? "receipt") "receipt"
  let invalidators ← stringArray (payload.get? "invalidators") "invalidators" true true
  let owner ← requiredString (payload.get? "owner") "owner"
  let given := (optionalString (payload.get? "outcome")).getD "passed"
  let outcome ← orThrow (evidenceOutcomes.find? fun entry => toString entry = given)
    (refusal .invalidRequest
      s!"Evidence outcome {given} is unsupported."
      "record passed, failed, stale, or indeterminate Evidence"
      s!"evidence={id}; outcome={given}; transition=not-applied")
  let evidence : Evidence := {
    id
    key
    criterion
    outcome
    validityKey
    actionId
    verifierId
    toolchainDigest
    dependencyDigest
    environmentDigest
    inputDigests
    effectDigests
    outputDigest
    createdAt := drawn.now
    projectRevisionId
    projectViewId
    changeRevisionId
    runId
    actor := actorRef session
    runnerId
    policyVersion
    authorizationEpoch := shown (payload.get? "authorizationEpoch")
      (toString session.authorizationEpoch)
    capabilityGrantId
    disclosure := ⟨projectionId, classification⟩
    receipt
    invalidators
    owner
    targetId := optionalString (payload.get? "targetId")
    workspaceId }
  require (next.evidence.get? id = none) (refusal .conflict
    s!"Evidence {id} already exists."
    "reuse the original idempotency key or choose a new Evidence identity"
    s!"evidence={id}; exists=true; transition=not-applied")
  return (next.put .evidence id evidence, success .evidenceRecord next [.evidence evidence]
    s!"evidence={id}; outcome={outcome}; run={runId}")

/-! ## Recording an Artifact -/

/-- The disclosure of an Artifact, when one is given. -/
def artifactDisclosure (value : Option Json) : Except AuthorityFailure (Option Disclosure) :=
  if isTruthy value then do
    let disclosure := castObject value
    let projectionId ← requiredString (disclosure.get? "projectionId") "disclosure.projectionId"
    let classification ← requiredString (disclosure.get? "classification")
      "disclosure.classification"
    return some ⟨projectionId, classification⟩
  else
    return none

def artifactRecord (next : AuthorityPlaneSnapshot) (payload : Payload) (drawn : Drawn) :
    Applied := do
  let requestedProjectId := optionalString (payload.get? "projectId")
  let projectRevisionId ← requiredString (payload.get? "projectRevisionId") "projectRevisionId"
  let projectRevision := next.projectRevisions.get? projectRevisionId
  let changeRevisionId := optionalString (payload.get? "changeRevisionId")
  let changeRevision := changeRevisionId.bind next.changeRevisions.get?
  let changeProjectId := truthy ((changeRevision.bind fun revision =>
    next.changes.get? revision.changeId).map Change.projectId)
  let runId := optionalString (payload.get? "runId")
  let run := runId.bind next.runs.get?
  let actionId := optionalString (payload.get? "actionId")
  let workspaceId := optionalString (payload.get? "workspaceId")
  let workspace := workspaceId.bind next.workspaces.get?
  let enforceArtifactBinding : Bool := requestedProjectId.isSome || changeRevisionId.isSome ||
    runId.isSome || workspaceId.isSome
  let requestedText := requestedProjectId.getD projectRevisionId
  require (enforceArtifactBinding = true → projectRevision.isSome ∨ changeRevision.isSome)
    (refusal .notFound
      s!"Project Revision {projectRevisionId} is not available."
      "record the Artifact against an existing Project Revision or its exact published Change Revision"
      s!"project={requestedText}; projectRevision={projectRevisionId}; artifact=not-created; discoverable=false")
  require (∀ id ∈ requestedProjectId,
      (∀ revision ∈ projectRevision, revision.projectId = id) ∧
        ∀ changeProject ∈ changeProjectId, changeProject = id) (refusal .notFound
    s!"Project Revision {projectRevisionId} is not available for Project {requestedText}."
    "record the Artifact against the Project Revision belonging to the requested Project"
    s!"project={requestedText}; projectRevision={projectRevisionId}; artifact=not-created; discoverable=false")
  let projectId := truthy (((requestedProjectId.or
    (projectRevision.map ProjectRevision.projectId)).or changeProjectId).or
    (workspace.map Workspace.projectId))
  let projectText := projectId.getD "not-supplied"
  require (∀ id ∈ projectId, (next.projects.get? id).isSome) (refusal .indeterminate
    s!"Artifact Project {projectText} is not readable."
    "reconcile the Authority snapshot before recording the Artifact"
    s!"project={projectText}; artifact=not-created")
  let changeRevisionText := changeRevisionId.getD ""
  require (∀ _id ∈ changeRevisionId, (∃ changeProject ∈ changeProjectId,
        ∀ id ∈ projectId, changeProject = id) ∧
      changeRevision.map ChangeRevision.projectRevisionId = some projectRevisionId)
    (refusal .conflict
      s!"Change Revision {changeRevisionText} is not bound to the Artifact Project and Project Revision."
      "record the Artifact from the exact Change Revision that produced it"
      s!"project={projectText}; changeRevision={changeRevisionText}; projectRevision={projectRevisionId}; artifact=not-created")
  let runText := runId.getD ""
  require (∀ _id ∈ runId, ∃ found ∈ run,
      (∀ id ∈ projectId, found.projectRevisionId = projectRevisionId ∧
        ∀ changeProject ∈ changeProjectId, changeProject = id) ∧
      ∀ id ∈ changeRevisionId, found.changeRevisionId = some id) (refusal .conflict
    s!"Run {runText} is not bound to the Artifact Project, Project Revision, or Change Revision."
    "record the Artifact from the exact Run that produced it"
    s!"run={runText}; projectRevision={projectRevisionId}; artifact=not-created")
  let runStatus := (run.map fun run => toString run.status).getD "missing"
  require (∀ _id ∈ runId, run.map Run.status = some .succeeded) (refusal .conflict
    s!"Run {runText} is {runStatus}; Artifact cannot assert a successful output from it."
    "record a successful determinate Run before recording the Artifact"
    s!"run={runText}; status={runStatus}; artifact=not-created")
  let actionText := actionId.getD ""
  require (∀ _id ∈ runId, ∀ action ∈ actionId, run.map Run.actionId = some action)
    (refusal .conflict
      s!"Artifact Action {actionText} does not match Run {runText}."
      "record the Artifact with the Action that produced the Run"
      s!"run={runText}; action=match-required; artifact=not-created")
  let workspaceText := workspaceId.getD ""
  require (∀ _id ∈ workspaceId, ∃ found ∈ workspace,
      (∀ id ∈ projectId, found.projectId = id) ∧
        ∀ revision ∈ changeRevision, revision.workspaceId = workspaceId) (refusal .conflict
    s!"Workspace {workspaceText} is not bound to the Artifact Project or Change Revision."
    "record the Artifact from the Workspace that produced the output"
    s!"workspace={workspaceText}; artifact=not-created")
  let id := (optionalString (payload.get? "artifactId")).getD (drawn.opaqueId "artifact")
  let type ← requiredString (payload.get? "type") "type"
  let digest ← requiredString (payload.get? "digest") "digest"
  let disclosure ← artifactDisclosure (payload.get? "disclosure")
  let artifact : Artifact := {
    id
    type
    digest
    projectRevisionId
    changeRevisionId
    runId
    actionId
    outputPath := optionalString (payload.get? "outputPath")
    provenanceDigest := optionalString (payload.get? "provenanceDigest")
    disclosure }
  require (next.artifacts.get? id = none) (refusal .conflict
    s!"Artifact {id} already exists."
    "reuse the original idempotency key or choose a new Artifact identity"
    s!"artifact={id}; exists=true; transition=not-applied")
  return (next.put .artifacts id artifact, success .artifactRecord next [.artifact artifact]
    s!"artifact={id}; digest={digest}; immutable=true")

/-! ## What they write -/

section

variable {next next' : AuthorityPlaneSnapshot} {payload : Payload} {session : AuthoritySession}
  {drawn : Drawn} {result : AuthorityCommandResult}

/-- A requested Run is filed queued, under a new id. -/
theorem runRequest_ok (h : runRequest next payload session drawn = .ok (next', result)) :
    ∃ (id : String) (run : Run), next.runs.get? id = none ∧ run.id = id ∧
      run.status = .queued ∧ next' = next.put .runs id run := by
  simp only [runRequest, bind_eq_ok, require_eq_ok, orThrow_eq_ok, exists_unit, pure_eq_ok,
    Prod.mk.injEq] at h
  obtain ⟨_, -, project, -, revisionId, -, -, viewId, -, -, -, -, hnew, contract, -, action, -, _,
    -, _, -, _, -, _, -, _, -, rfl, -⟩ := h
  exact ⟨_, _, hnew, rfl, rfl, rfl⟩

theorem runRecord_ok (h : runRecord next payload session drawn = .ok (next', result)) :
    ∃ (id : String) (run : Run), next.runs.get? id = none ∧ run.id = id ∧
      next' = next.put .runs id run := by
  simp only [runRecord, bind_eq_ok, require_eq_ok, orThrow_eq_ok, exists_unit, pure_eq_ok,
    Prod.mk.injEq] at h
  obtain ⟨_, -, -, -, -, viewId, -, -, -, -, -, action, -, runner, -, _, -, _, -, status, -, hnew,
    rfl, -⟩ := h
  exact ⟨_, _, hnew, rfl, rfl⟩

/-- Evidence is filed under a new id, with the Project Revision of its Run and the Change Revision
the command or the Run names. -/
theorem evidenceRecord_ok (h : evidenceRecord next payload session drawn = .ok (next', result)) :
    ∃ (runId : String) (run : Run) (id : String) (evidence : Evidence),
      optionalString (payload.get? "runId") = some runId ∧ next.runs.get? runId = some run ∧
      next.evidence.get? id = none ∧ evidence.id = id ∧
      id = (optionalString (payload.get? "evidenceId")).getD (drawn.opaqueId "evidence") ∧
      evidence.projectRevisionId = run.projectRevisionId ∧
      evidence.changeRevisionId =
        optionalString (orElse (payload.get? "changeRevisionId") run.changeRevisionId) ∧
      next' = next.put .evidence id evidence := by
  simp only [evidenceRecord, bind_eq_ok, require_eq_ok, orThrow_eq_ok, requiredString_eq_ok,
    exists_unit, pure_eq_ok, Prod.mk.injEq] at h
  obtain ⟨runId, hrunId, run, hrun, -, revisionId, -, hrevision, project, -, view, -, -, -,
    action, -, -, runner, -, -, digest, -, -, key, -, criterion, -, validity, -, verifier, -,
    toolchain, -, dependency, -, environment, -, inputs, -, effects, -, policy, -, grant, -,
    projection, -, classification, -, receipt, -, invalidators, -, owner, -, outcome, -, hnew,
    rfl, -⟩ := h
  exact ⟨runId, run, _, _, hrunId, hrun, hnew, rfl, rfl, hrevision, rfl, rfl⟩

/-- An Artifact is filed under a new id, with the revisions the command names. -/
theorem artifactRecord_ok (h : artifactRecord next payload drawn = .ok (next', result)) :
    ∃ (id : String) (artifact : Artifact),
      next.artifacts.get? id = none ∧ artifact.id = id ∧
      id = (optionalString (payload.get? "artifactId")).getD (drawn.opaqueId "artifact") ∧
      optionalString (payload.get? "projectRevisionId") = some artifact.projectRevisionId ∧
      artifact.changeRevisionId = optionalString (payload.get? "changeRevisionId") ∧
      next' = next.put .artifacts id artifact := by
  simp only [artifactRecord, bind_eq_ok, require_eq_ok, requiredString_eq_ok, exists_unit,
    pure_eq_ok, Prod.mk.injEq] at h
  obtain ⟨revisionId, hrevision, -, -, -, -, -, -, -, -, type, -, digest, -, disclosure, -, hnew,
    rfl, -⟩ := h
  exact ⟨_, _, hnew, rfl, rfl, hrevision, rfl, rfl⟩

end

end Anyam.Authority
