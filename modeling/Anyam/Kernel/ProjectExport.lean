import Anyam.Kernel.Delivery
import Anyam.Kernel.Mirror

/-!
# Project Export contracts

The manifest of a Project Export with the records it carries, under the source's field
names: what the exporter, the verifier and the importer read of them. The records are
typed here, so the verifier's checks that a field is an array, an object or a string
always pass.
-/

namespace Anyam.Kernel

open Anyam.Lib

inductive GitObjectFormat
  | sha1 | sha256
deriving DecidableEq, Repr

structure LargeObjectRef where
  oid : String
  size : Nat
  mediaType : Option String
  relativePath : Option String
  digest : Option String
deriving DecidableEq, Repr

structure RepositoryBundle where
  relativePath : String
  digest : String
  bytes : Nat
deriving DecidableEq, Repr

inductive RepositoryLfsState
  | empty | complete | incomplete | unavailable
deriving DecidableEq, Repr

structure RepositoryLfs where
  state : RepositoryLfsState
  objects : List LargeObjectRef
deriving DecidableEq, Repr

/-- The repository of one Source Space. -/
structure RepositoryExport where
  repositoryId : String
  sourceSpaceId : String
  objectFormat : GitObjectFormat
  defaultBranch : Option String
  refs : List GitRef
  bundle : RepositoryBundle
  lfs : RepositoryLfs
deriving DecidableEq, Repr

/-- How much a disclosure discloses, as the verifier of a manifest ranks them. -/
def DisclosureClassification.disclosureRank : DisclosureClassification → Nat
  | .public => 0
  | .project => 1
  | .restricted => 2

inductive IntentStatus
  | «open» | closed
deriving DecidableEq, Repr

structure Intent where
  id : String
  projectId : String
  status : IntentStatus
  disclosure : DisclosureClassification
deriving DecidableEq, Repr

structure IntentComment where
  id : String
  intentId : String
  projectId : String
  disclosure : DisclosureClassification
deriving DecidableEq, Repr

structure PullRequestReview where
  id : String
  pullRequestId : String
deriving DecidableEq, Repr

structure PullRequest where
  id : String
  projectId : String
  changeId : String
  reviews : Option (List PullRequestReview)
deriving DecidableEq, Repr

/-- A Git observation attached to a revision, of a Workspace or of a Mirror proposal. -/
structure RepositoryObservation where
  manifestDigest : String
deriving DecidableEq, Repr

/-- A Change Revision with the observations a hosted publication adds. -/
structure ObservedChangeRevision extends ChangeRevision where
  sourceSpaceObservations : Option (OrderedMap String RepositoryObservation)
  mirrorRepositoryObservations : Option (OrderedMap String RepositoryObservation)
deriving DecidableEq, Repr

inductive ArtifactFileState
  | included | unavailable
deriving DecidableEq, Repr

/-- The byte disposition of one exported Artifact. -/
structure ProjectExportArtifactFile where
  artifactId : String
  digest : String
  state : ArtifactFileState
  relativePath : Option String
  byteLength : Option Nat
  mediaType : Option String
  reason : Option String
deriving DecidableEq, Repr

structure ProjectExportIntegrity where
  manifestDigest : String
  repositoryDigests : List String
  credentialFree : Bool
  receipt : String
deriving DecidableEq, Repr

/-- `Omit<ProjectExport, "integrity">`. -/
structure ProjectExportContents where
  protocol : String
  version : String
  exportId : String
  project : Project
  repositories : List RepositoryExport
  largeObjects : List LargeObjectRef
  projectRevisions : List ProjectRevision
  changeRevisions : List ObservedChangeRevision
  intents : List Intent
  intentComments : List IntentComment
  pullRequests : List PullRequest
  changes : List Change
  artifacts : List Artifact
  artifactFiles : Option (List ProjectExportArtifactFile)
deriving DecidableEq, Repr

structure ProjectExport extends ProjectExportContents where
  integrity : ProjectExportIntegrity
deriving DecidableEq, Repr

end Anyam.Kernel
