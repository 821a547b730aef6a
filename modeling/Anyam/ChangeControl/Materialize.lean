import Anyam.Kernel.Contracts
import Anyam.Kernel.WorkspaceMounts

/-!
# Workspace materialization

`ChangeControlError` and the part of `materializeWorkspace` that decides what
Workspace record a request yields. Every authorization, path and collision check
runs before the first file-system call, so the function splits in two:

- `materializeMounts`: the synchronous checks, ending in the mounts;
- `materializedWorkspace`: the record returned once the files are in place.

What the file-system calls in between end with is the `StorageOutcome` of the
request.
-/

namespace Anyam.ChangeControl

open Anyam.Lib Anyam.Kernel

inductive ChangeControlErrorCode
  | projectMismatch | unknownProjectRevision | workspaceNotFound | workspaceState
  | workspaceSourceNotAuthorized | workspaceSourceMismatch | workspaceSourceMissing
  | workspaceSourceDuplicate | workspaceMountInvalid | workspaceMountCollision
  | workspaceFileInvalid | workspaceDirectoryExists | workspaceDirectoryNotEmpty
  | changeNotFound | changeWorkspaceMismatch | conflictNotFound | conflictOpen
  | conflictChangeMismatch | staleCanonicalRevision | changeRevisionNotFound
  | changeRevisionNotLatest | changeRevisionBaseMismatch | landingSourceSpaceInvalid
  | landingBlocked | revertSourceNotFound
deriving DecidableEq, Repr

/-- Every failure is actionable and carries a receipt. -/
structure ChangeControlError where
  code : ChangeControlErrorCode
  message : String
  affectedObject : String
  recoveryAction : String
  receipt : String
  conflictingIds : List String := []
deriving DecidableEq, Repr

structure WorkspaceSource where
  sourceSpaceId : String
  snapshotId : String
  files : OrderedMap String String
deriving DecidableEq, Repr

/-- `CreateWorkspaceInput`: a materialization request without its Project. -/
structure CreateWorkspaceInput where
  view : ProjectView
  sources : List WorkspaceSource
  mounts : List WorkspaceMountInput
  directory : String
  id : Option String := none
  actorId : Option String := none
deriving DecidableEq, Repr

/-- How a materialization can fail: refused, or stopped by the file system. -/
inductive MaterializeFailure
  | rejected (error : ChangeControlError)
  | io (reason : String)
deriving DecidableEq, Repr

/-- What the file-system calls of one materialization end with. -/
inductive StorageOutcome
  | written
  | directoryExists
  | failed (failure : MaterializeFailure)
deriving DecidableEq, Repr

/-- Drop one leading `./`, as `.replace(/^\.\//, "")` does. -/
def dropDotSlash (s : String) : String :=
  match s.toList with
  | '.' :: '/' :: rest => String.ofList rest
  | _ => s

def normalizedFilePath (value : String) : Except ChangeControlError String := do
  let replaced := replaceBackslashes value
  let normalized := dropDotSlash (posixNormalize replaced)
  require (replaced ≠ "" ∧ normalized ≠ "" ∧ normalized ≠ "." ∧
      normalized.toList.head? ≠ some '/' ∧ ".." ∉ split '/' replaced ∧ normalized ≠ ".." ∧
      ¬ startsWith normalized "../" ∧ ¬ includes normalized "/../" ∧
      Char.ofNat 0 ∉ normalized.toList) {
    code := .workspaceFileInvalid
    message := "Workspace source file path is invalid; source files must remain below their Source Space mount."
    affectedObject := "workspace-file"
    recoveryAction := "remove absolute or traversal segments from the source file path"
    receipt := s!"file-path={jsonString value}; rule=relative-no-traversal" }
  return normalized

/-- `mapWorkspaceMountValidationError`. A Source Space that the View does not
disclose is not named in the receipt. -/
def mapWorkspaceMountValidationError (error : WorkspaceMountValidationError) (viewId : String) :
    ChangeControlError where
  code := match error.code with
    | .mountSourceUndisclosed => .workspaceSourceNotAuthorized
    | .sourceSpaceDuplicate => .workspaceSourceDuplicate
    | .mountInvalid | .sourceSpaceEmpty | .sourceSpaceArrayInvalid | .mountArrayInvalid =>
      .workspaceMountInvalid
    | .mountCountMismatch => .workspaceSourceMissing
    | .mountSourceDuplicate | .mountPathDuplicate | .mountPathOverlap =>
      .workspaceMountCollision
  message :=
    if error.code = .mountSourceUndisclosed then
      "Workspace composition requested a Source Space outside the authorized Project View."
    else error.message
  affectedObject := viewId
  recoveryAction := error.recoveryAction
  receipt :=
    let mountA := error.conflictingMountPath.getD "unknown"
    let mountB := error.mountPath.getD "unknown"
    if error.code = .mountSourceUndisclosed then s!"view={viewId}; rule=visible-source-spaces-only"
    else if error.code = .mountPathDuplicate ∨ error.code = .mountPathOverlap then
      s!"view={viewId}; mount-a={mountA}; mount-b={mountB}; {error.receipt}"
    else error.receipt

/-- `sourceById`, refusing a Source Space named twice. -/
def sourcesById (view : ProjectView) (sources : List WorkspaceSource) :
    Except ChangeControlError (OrderedMap String WorkspaceSource) :=
  sources.foldlM (fun sourceById source => do
    require (sourceById.has source.sourceSpaceId = false) {
      code := .workspaceSourceDuplicate
      message := "Workspace source content names one Source Space more than once."
      affectedObject := view.id
      recoveryAction := "provide exactly one snapshot content entry for each Source Space"
      receipt := s!"view={view.id}; rule=unique-source-snapshot-inputs" }
    return sourceById.set source.sourceSpaceId source) OrderedMap.empty

/-- The mount of one validated request, at the snapshot the View discloses. -/
def resolveMount (view : ProjectView) (sourceById : OrderedMap String WorkspaceSource)
    (mountInput : WorkspaceMountInput) : Except ChangeControlError WorkspaceMount := do
  let source ← orThrow (sourceById.get? mountInput.sourceSpaceId) {
    code := .workspaceSourceMissing
    message := "An authorized Source Space snapshot is unavailable to the Workspace adapter."
    affectedObject := view.id
    recoveryAction := "load the authorized Source Space snapshot and retry"
    receipt := s!"view={view.id}; source-space=authorized-but-unavailable" }
  require (view.disclosedSourceSpaceSnapshots.get? mountInput.sourceSpaceId
      = some source.snapshotId) {
    code := .workspaceSourceMismatch
    message := "Workspace source content does not match the authorized Project View snapshot."
    affectedObject := mountInput.sourceSpaceId
    recoveryAction := "refresh the Source Space snapshot and derive a new Project View"
    receipt := s!"source-space={mountInput.sourceSpaceId}; view={view.id}; snapshot-mismatch" }
  return ⟨mountInput.sourceSpaceId, source.snapshotId, mountInput.mountPath⟩

/-- The checks `materializeWorkspace` makes before it touches the file system. -/
def materializeMounts (text : UnicodeText) (project : Project) (input : CreateWorkspaceInput) :
    Except ChangeControlError (List WorkspaceMount) := do
  require (input.view.projectId = project.id) {
    code := .projectMismatch
    message := "Project View does not belong to the requested Project."
    affectedObject := "workspace"
    recoveryAction := "derive the Project View from the same Project and retry"
    receipt := s!"project={project.id}; view={input.view.id}" }
  let sourceById ← sourcesById input.view input.sources
  let validatedMounts ←
    (validateWorkspaceMounts text input.view.visibleSourceSpaceIds input.mounts).mapError
      (mapWorkspaceMountValidationError · input.view.id)
  let mounts ← validatedMounts.mapM (resolveMount input.view sourceById)
  forM mounts fun mount =>
    match sourceById.get? mount.sourceSpaceId with
    | none => return ⟨⟩
    | some source => forM source.files.keys fun path => do
      let _ ← normalizedFilePath path
      return ⟨⟩
  return mounts

/-- The Workspace record of a finished materialization. -/
def materializedWorkspace (project : Project) (input : CreateWorkspaceInput)
    (mounts : List WorkspaceMount) (uuid : String) : Workspace where
  id := input.id.getD (opaqueId "workspace" uuid)
  projectId := project.id
  projectRevisionId := input.view.projectRevisionId
  projectViewId := input.view.id
  mounts := mounts
  state := .active
  changeId := none
  actorId := truthy input.actorId

/-- The asynchronous part of `materializeWorkspace`: the `stat` that refuses an
existing directory, then the staged writes and the rename. -/
def StorageOutcome.result (directory : String) : StorageOutcome → Except MaterializeFailure Unit
  | .written => .ok ()
  | .directoryExists => .error (.rejected {
      code := .workspaceDirectoryExists
      message := "Workspace target already exists; materialization refused to overwrite it."
      affectedObject := directory
      recoveryAction := "choose a new Workspace directory or explicitly remove the old Workspace"
      receipt := s!"directory={directory}; overwrite=false" })
  | .failed failure => .error failure

@[simp] theorem StorageOutcome.result_eq_ok {directory : String} {o : StorageOutcome}
    {u : Unit} : o.result directory = .ok u ↔ o = .written := by
  cases o <;> simp [StorageOutcome.result]

end Anyam.ChangeControl
