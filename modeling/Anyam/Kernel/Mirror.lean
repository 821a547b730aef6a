import Anyam.Kernel.Contracts

/-!
# Mirror contracts

A Repository Mirror, and the operation and checkpoint records of its syncs, with the
source's field names. `direction` and `canonicalAuthority` are unions of one string in
the source, which the coordinator still checks when it is built.
-/

namespace Anyam.Kernel

structure GitRef where
  name : String
  oid : String
deriving DecidableEq, Repr

inductive SourceSpaceClassification
  | «public» | «internal» | restricted | resultOnly
deriving DecidableEq, Repr

instance : ToString SourceSpaceClassification where
  toString
    | .public => "public"
    | .internal => "internal"
    | .restricted => "restricted"
    | .resultOnly => "result-only"

inductive MirrorState
  | healthy | lagging | divergent | forcePushed | blocked | credentialFailed | disabled
deriving DecidableEq, Repr

instance : ToString MirrorState where
  toString
    | .healthy => "healthy"
    | .lagging => "lagging"
    | .divergent => "divergent"
    | .forcePushed => "force-pushed"
    | .blocked => "blocked"
    | .credentialFailed => "credential-failed"
    | .disabled => "disabled"

structure MirrorRefMapping where
  localRef : String
  remoteRef : String
deriving DecidableEq, Repr

/-- The fields of a Repository Mirror that are set once. -/
structure MirrorConfiguration where
  id : String
  projectId : String
  sourceSpaceId : String
  provider : String
  remoteRepository : String
  direction : String
  canonicalAuthority : String
  refMappings : List MirrorRefMapping
  disclosure : DisclosureClassification
deriving DecidableEq, Repr

/-- `canonicalRefs` are the projected remote refs of the last accepted sync boundary. -/
structure RepositoryMirror extends MirrorConfiguration where
  state : MirrorState
  canonicalProjectRevisionId : String
  canonicalRefs : List GitRef
  remoteGeneration : String
  remoteRefs : List GitRef
  pendingInboundChangeIds : List String
  lastOperationId : Option String := none
  lastOriginOperationId : Option String := none
  checkpointId : Option String := none
  updatedAt : String
  receipt : String
deriving DecidableEq, Repr

inductive MirrorOperationKind
  | sync | outbound | inbound | reconcile
deriving DecidableEq, Repr

instance : ToString MirrorOperationKind where
  toString
    | .sync => "sync"
    | .outbound => "outbound"
    | .inbound => "inbound"
    | .reconcile => "reconcile"

inductive MirrorOperationState
  | started | succeeded | failed | blocked | degraded
deriving DecidableEq, Repr

structure MirrorOperation where
  id : String
  mirrorId : String
  kind : MirrorOperationKind
  state : MirrorOperationState
  canonicalProjectRevisionId : String
  expectedRemoteGeneration : String
  actualRemoteGeneration : Option String := none
  actor : Option ActorRef
  inboundChangeIds : List String
  checkpointId : String
  errorCode : Option String := none
  createdAt : String
  completedAt : Option String := none
  receipt : String
deriving DecidableEq, Repr

inductive MirrorCheckpointState
  | preflight | remoteInspected | inboundProposals | outboundApplied | blocked | completed
deriving DecidableEq, Repr

structure MirrorCheckpoint where
  id : String
  mirrorId : String
  operationId : String
  state : MirrorCheckpointState
  canonicalProjectRevisionId : String
  canonicalRefs : List GitRef
  remoteGeneration : String
  remoteRefs : List GitRef
  completedInboundChangeIds : List String
  recoveryAction : String
  receipt : String
deriving DecidableEq, Repr

end Anyam.Kernel
