import Anyam.Kernel.Text
import Anyam.Lib.OrderedMap

/-!
# Kernel contracts

The records the coordinators pass around, with the source's field names. An
optional field is an `Option`; a `Record<string, string>` is an ordered map. The
constant `protocol` tags and the fields no modelled function reads are left out.
-/

namespace Anyam.Kernel

open Anyam.Lib

/-- A `Record<string, string>` from Source Space ids to snapshot ids. -/
abbrev Snapshots := OrderedMap String String

structure ActorRef where
  principalId : String
  actorId : String
  sessionId : String
  clientId : String
deriving DecidableEq, Repr

inductive DisclosureClassification
  | «public» | project | restricted
deriving DecidableEq, Repr

instance : ToString DisclosureClassification where
  toString
    | .public => "public"
    | .project => "project"
    | .restricted => "restricted"

structure Project where
  id : String
  sourceSpaceIds : List String
deriving DecidableEq, Repr

/-- A canonical state of a Project, with the lineage its Landing recorded. -/
structure ProjectRevision where
  id : String
  projectId : String
  sourceSpaceSnapshots : Snapshots
  parentProjectRevisionId : Option String
  landedChangeRevisionId : Option String
  landedChangeRevisionIds : Option (List String)
  landingCohortId : Option String
deriving DecidableEq, Repr

structure ProjectView where
  id : String
  projectId : String
  projectRevisionId : String
  visibleSourceSpaceIds : List String
  disclosedSourceSpaceSnapshots : Snapshots
deriving DecidableEq, Repr

inductive ChangeStatus
  | draft | active | submitted | landed | blocked | abandoned
deriving DecidableEq, Repr

structure RemoteAuthor where
  name : String
  email : Option String
deriving DecidableEq, Repr

inductive ChangeOriginKind
  | «local» | mirror
deriving DecidableEq, Repr

structure ChangeOrigin where
  kind : ChangeOriginKind
  source : String
  mirrorId : Option String
  remoteRepository : Option String
  remoteRef : Option String
  remoteCommit : Option String
  remoteAuthor : Option RemoteAuthor
  disclosure : DisclosureClassification
  receipt : String
deriving DecidableEq, Repr

/-- A stable Change. `latestRevisionId` is `none` for the source's `null`. -/
structure Change where
  id : String
  projectId : String
  intentId : String
  baseProjectRevisionId : String
  status : ChangeStatus
  latestRevisionId : Option String
  workspaceId : Option String
  revertsChangeRevisionId : Option String
  author : Option ActorRef
  origin : Option ChangeOrigin
deriving DecidableEq, Repr

inductive ChangeRevisionKind
  | implementation | rebase | conflictResolution | handoff | revert
deriving DecidableEq, Repr

/-- An immutable revision of a Change. -/
structure ChangeRevision where
  id : String
  changeId : String
  projectRevisionId : String
  projectViewId : String
  sequence : Nat
  parentRevisionId : Option String
  declaredEffects : List String
  baseProjectRevisionId : Option String
  workspaceId : Option String
  sourceSpaceSnapshots : Option Snapshots
  affectedSourceSpaceIds : Option (List String)
  affectedModuleIds : Option (List String)
  affectedTargetIds : Option (List String)
  author : Option ActorRef
  conflictIds : Option (List String)
  kind : Option ChangeRevisionKind
deriving DecidableEq, Repr

/-- `revision.baseProjectRevisionId ?? revision.projectRevisionId`. -/
def ChangeRevision.base (r : ChangeRevision) : String :=
  r.baseProjectRevisionId.getD r.projectRevisionId

/-- `Object.entries(revision.sourceSpaceSnapshots ?? {})`. -/
def ChangeRevision.snapshotEntries (r : ChangeRevision) : List (String × String) :=
  (r.sourceSpaceSnapshots.getD OrderedMap.empty).entries

structure WorkspaceMount where
  sourceSpaceId : String
  snapshotId : String
  mountPath : String
deriving DecidableEq, Repr

inductive WorkspaceState
  | active | blocked | closed
deriving DecidableEq, Repr

instance : ToString WorkspaceState where
  toString
    | .active => "active"
    | .blocked => "blocked"
    | .closed => "closed"

structure Workspace where
  id : String
  projectId : String
  projectRevisionId : String
  projectViewId : String
  mounts : List WorkspaceMount
  state : WorkspaceState
  changeId : Option String
  actorId : Option String
deriving DecidableEq, Repr

inductive ConflictKind
  | textual | structural | semantic | schema | dependency | policy | disclosure
deriving DecidableEq, Repr

inductive ConflictState
  | «open» | resolved
deriving DecidableEq, Repr

structure Conflict where
  id : String
  projectId : String
  changeId : String
  workspaceId : String
  kind : ConflictKind
  sourceSpaceIds : List String
  paths : List String
  description : String
  state : ConflictState
  resolutionRevisionId : Option String
deriving DecidableEq, Repr

structure Landing where
  id : String
  projectId : String
  changeId : String
  changeRevisionId : String
  previousProjectRevisionId : String
  projectRevisionId : String
  receipt : String
  cohortId : Option String
  changeIds : Option (List String)
  changeRevisionIds : Option (List String)
deriving DecidableEq, Repr

structure CreateProjectRevisionInput where
  projectId : String
  sourceSpaceSnapshots : Snapshots
  id : Option String
  parentProjectRevisionId : Option String
  landedChangeRevisionId : Option String
  landedChangeRevisionIds : Option (List String)
  landingCohortId : Option String

/-- `createProjectRevision`, with the identifier `opaqueId` would draw. A lineage
field that is absent or empty is left off the record. -/
def createProjectRevision (input : CreateProjectRevisionInput) (uuid : String) :
    ProjectRevision where
  id := input.id.getD (opaqueId "project-revision" uuid)
  projectId := input.projectId
  sourceSpaceSnapshots := input.sourceSpaceSnapshots
  parentProjectRevisionId := truthy input.parentProjectRevisionId
  landedChangeRevisionId := truthy input.landedChangeRevisionId
  landedChangeRevisionIds := input.landedChangeRevisionIds
  landingCohortId := truthy input.landingCohortId

end Anyam.Kernel
