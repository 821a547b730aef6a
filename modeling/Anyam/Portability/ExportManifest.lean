import Mathlib.Algebra.Group.Nat.Defs
import Anyam.Execution.ActionArtifactOutput
import Anyam.Kernel.Paths
import Anyam.Kernel.ProjectExport
import Anyam.Lib.Guards

/-!
# The manifest of a Project Export

`manifestProblems` and `verifyProjectExportManifest` of `portability/project-export.ts`.

- `manifestProblems`: every problem of a manifest, in the order the source finds them, one
  definition per part of the manifest.
- **`verifyProjectExportManifest_eq_ok`**: what an accepted manifest has.
-/

namespace Anyam.Portability

open Anyam.Lib Anyam.Kernel Anyam.Execution

/-! ## Paths -/

/-- `safeRelativePath(".", candidate)` in the working directory `cwd`. -/
def safeRelativePath (cwd : Path) (candidate : String) : Bool :=
  let fromRoot := "/".intercalate (relativePath cwd (resolvePath cwd candidate))
  let upwards := if includes candidate "\\" then "..\\" else "../"
  !isAbsolute candidate && fromRoot ≠ "" && fromRoot ≠ ".." && !startsWith fromRoot upwards &&
    !isAbsolute fromRoot

/-! ## Problems of a manifest -/

/-- One check: its problem when it fails. -/
def problem (p : Prop) [Decidable p] (text : String) : List String := if p then [text] else []

@[simp] theorem problem_eq_nil {p : Prop} [Decidable p] {text : String} :
    problem p text = [] ↔ ¬ p := by
  simp [problem]

def projectProblems (manifest : ProjectExportContents) : List String :=
  problem (manifest.project.id = "" ∨ manifest.project.sourceSpaceIds = [])
      "project identity or Source Space list is empty" ++
    problem (¬ manifest.project.sourceSpaceIds.Nodup) "Project Source Space IDs are duplicated"

/-- `new Map(records.map((record) => [record.id, record]))`. -/
def byId {α : Type} (id : α → String) (records : List α) : OrderedMap String α :=
  OrderedMap.ofList (records.map fun record => (id record, record))

def changeProblems (projectRevisions : OrderedMap String ProjectRevision) (change : Change) :
    List String :=
  problem (¬ ∃ base ∈ projectRevisions.get? change.baseProjectRevisionId,
      base.projectId = change.projectId)
    s!"Change {change.id} has a base Project Revision outside its Project"

/-- The observations of a revision, each with a manifest digest. -/
def observationProblems (revisionId kind : String)
    (observations : Option (OrderedMap String RepositoryObservation)) : List String :=
  (observations.getD OrderedMap.empty).entries.flatMap fun entry =>
    problem (isSha256Digest entry.2.manifestDigest = false)
      s!"Change Revision {revisionId} {kind} {entry.1} has an invalid manifest digest"

/-- A revision against the Change it belongs to. -/
def ownerProblems (revision : ChangeRevision) : Option Change → List String
  | none => [s!"Change Revision {revision.id} refers to a missing Change"]
  | some change =>
    problem (revision.baseProjectRevisionId ≠ some change.baseProjectRevisionId)
        s!"Change Revision {revision.id} disagrees with Change {change.id} about the base Project Revision" ++
      problem (revision.workspaceId ≠ change.workspaceId)
        s!"Change Revision {revision.id} disagrees with Change {change.id} about the Workspace binding"

def changeRevisionProblems (changes : OrderedMap String Change)
    (revision : ObservedChangeRevision) : List String :=
  problem (revision.id = "" ∨ revision.changeId = "" ∨ revision.projectViewId = "")
      "Change Revision lifecycle entry has incomplete identity" ++
    ownerProblems revision.toChangeRevision (changes.get? revision.changeId) ++
    observationProblems revision.id "observation" revision.sourceSpaceObservations ++
    observationProblems revision.id "mirror observation" revision.mirrorRepositoryObservations

/-- The Changes and their revisions. -/
def historyProblems (manifest : ProjectExportContents) : List String :=
  let projectRevisions := byId ProjectRevision.id manifest.projectRevisions
  let changes := byId Change.id manifest.changes
  changes.values.flatMap (changeProblems projectRevisions) ++
    manifest.changeRevisions.flatMap (changeRevisionProblems changes)

def repositoryProblems (cwd : Path) (project : Project) (seen : List String)
    (repository : RepositoryExport) : List String :=
  problem (repository.sourceSpaceId ∉ project.sourceSpaceIds)
      s!"repository {repository.repositoryId} names an undeclared Source Space" ++
    problem (repository.sourceSpaceId ∈ seen)
      s!"Source Space {repository.sourceSpaceId} has more than one exported repository" ++
    problem (repository.repositoryId = "" ∨ repository.refs = [])
      s!"repository {repository.sourceSpaceId} has no identity or refs" ++
    problem (safeRelativePath cwd repository.bundle.relativePath = false)
      s!"repository {repository.sourceSpaceId} bundle path escapes the package" ++
    repository.lfs.objects.flatMap fun object =>
      problem (safeRelativePath cwd (object.relativePath.getD "") = false)
        s!"repository {repository.sourceSpaceId} LFS path escapes the package"

/-- The repositories, after those of the Source Spaces `seen` before them. -/
def repositoriesProblems (cwd : Path) (project : Project) :
    List String → List RepositoryExport → List String
  | _, [] => []
  | seen, repository :: repositories =>
    repositoryProblems cwd project seen repository ++
      repositoriesProblems cwd project (repository.sourceSpaceId :: seen) repositories

/-- The identity of one entry of a list, after the ids `seen` before it. -/
def identityProblems (kind anonymous id : String) (seen : List String) : List String :=
  if id = "" then [s!"{anonymous} has no identity"]
  else problem (id ∈ seen) s!"{kind} {id} is duplicated"

/-- The entries of a list with their own problems, and each id at most once. -/
def entriesProblems {α : Type} (kind anonymous : String) (id : α → String)
    (own : α → List String) : List String → List α → List String
  | _, [] => []
  | seen, entry :: entries =>
    identityProblems kind anonymous (id entry) seen ++ own entry ++
      entriesProblems kind anonymous id own (id entry :: seen) entries

def intentProblems (projectId : String) (intent : Intent) : List String :=
  problem (intent.projectId ≠ projectId) s!"Intent {intent.id} names a different Project"

def intentCommentProblems (projectId : String) (intents : List Intent) (comment : IntentComment) :
    List String :=
  let parent := intents.find? fun intent => intent.id = comment.intentId
  problem (parent = none) s!"Intent comment {comment.id} names an unavailable Intent" ++
    problem (comment.projectId ≠ projectId) s!"Intent comment {comment.id} names a different Project" ++
    problem (∃ intent ∈ parent, intent.disclosure.disclosureRank < comment.disclosure.disclosureRank)
      s!"Intent comment {comment.id} disclosure exceeds its Intent"

def pullRequestProblems (projectId : String) (pullRequest : PullRequest) : List String :=
  problem (pullRequest.projectId ≠ projectId)
      s!"Pull Request {pullRequest.id} names a different Project" ++
    problem (pullRequest.changeId = "") s!"Pull Request {pullRequest.id} has no Change identity" ++
    (pullRequest.reviews.getD []).flatMap fun review =>
      problem (review.id = "" ∨ review.pullRequestId ≠ pullRequest.id)
        s!"Pull Request {pullRequest.id} has an incomplete review record"

/-- Intents, their comments and the Pull Requests. -/
def lifecycleProblems (manifest : ProjectExportContents) : List String :=
  entriesProblems "Intent" "Intent lifecycle entry" Intent.id
      (intentProblems manifest.project.id) [] manifest.intents ++
    entriesProblems "Intent comment" "Intent comment entry" IntentComment.id
      (intentCommentProblems manifest.project.id manifest.intents) [] manifest.intentComments ++
    entriesProblems "Pull Request" "Pull Request compatibility entry" PullRequest.id
      (pullRequestProblems manifest.project.id) [] manifest.pullRequests

/-- `Number.MAX_SAFE_INTEGER`. -/
def maxSafeInteger : Nat := 2 ^ 53 - 1

/-- The bytes an entry names, or its reason for naming none. -/
def dispositionProblems (cwd : Path) (seenPaths : List String)
    (entry : ProjectExportArtifactFile) : List String :=
  match entry.state with
  | .included =>
    problem (¬ ∃ path ∈ truthy entry.relativePath,
        safeRelativePath cwd path = true ∧ startsWith path "artifacts/" = true)
        s!"artifact {entry.artifactId} included path escapes the artifact package" ++
      problem (∃ path ∈ truthy entry.relativePath, path ∈ seenPaths)
        s!"artifact {entry.artifactId} included path is duplicated" ++
      problem (¬ ∃ length ∈ entry.byteLength, length ≤ maxSafeInteger)
        s!"artifact {entry.artifactId} included byte length is invalid" ++
      problem (entry.reason ≠ none)
        s!"artifact {entry.artifactId} included disposition has an unavailable reason"
  | .unavailable =>
    problem (¬ ∃ reason ∈ entry.reason, trim reason ≠ "")
        s!"artifact {entry.artifactId} unavailable disposition has no reason" ++
      problem (entry.relativePath ≠ none ∨ entry.byteLength ≠ none)
        s!"artifact {entry.artifactId} unavailable disposition names bytes"

/-- The byte dispositions, after those of the Artifacts and paths seen before them. -/
def artifactFileProblems (cwd : Path) (artifacts : List Artifact) :
    List String → List String → List ProjectExportArtifactFile → List String
  | _, _, [] => []
  | seen, seenPaths, entry :: entries =>
    problem (entry.artifactId ∉ artifacts.map Artifact.id)
        s!"artifact file {entry.artifactId} is not declared by the Project Export" ++
      problem (entry.artifactId ∈ seen)
        s!"artifact {entry.artifactId} has duplicate byte dispositions" ++
      problem (∃ artifact ∈ artifacts.find? fun artifact => artifact.id = entry.artifactId,
          entry.digest ≠ artifact.digest)
        s!"artifact {entry.artifactId} byte disposition digest differs from Artifact" ++
      dispositionProblems cwd seenPaths entry ++
      artifactFileProblems cwd artifacts (entry.artifactId :: seen)
        (match entry.state with
          | .included => (truthy entry.relativePath).toList ++ seenPaths
          | .unavailable => seenPaths) entries

def artifactProblems (cwd : Path) (manifest : ProjectExportContents) : List String :=
  match manifest.artifactFiles with
  | none => problem (manifest.artifacts ≠ []) "Artifact byte disposition is missing"
  | some entries =>
    artifactFileProblems cwd manifest.artifacts [] [] entries ++
      manifest.artifacts.flatMap fun artifact =>
        problem (artifact.id ∉ entries.map ProjectExportArtifactFile.artifactId)
          s!"artifact {artifact.id} has no byte disposition"

def manifestProblems (cwd : Path) (manifest : ProjectExportContents) : List String :=
  projectProblems manifest ++ historyProblems manifest ++
    repositoriesProblems cwd manifest.project [] manifest.repositories ++
    lifecycleProblems manifest ++ artifactProblems cwd manifest

/-! ## Failures -/

structure PortabilityBudgetReceipt where
  name : String
  limit : String
  asked : String
  receipt : String
deriving DecidableEq, Repr

structure PortabilityFailure where
  errorCode : String
  message : String
  retryable : Bool
  affectedObject : String
  checkpointId : String
  recoveryAction : String
  budget : PortabilityBudgetReceipt
deriving DecidableEq, Repr

abbrev PortabilityResult (α : Type) := Except PortabilityFailure α

def budgetReceipt (asked receipt : String) : PortabilityBudgetReceipt where
  name := "portable-transfer-integrity"
  limit := "the complete declared object set and manifest"
  asked := asked
  receipt := receipt

/-! ## Verification of a manifest -/

/-- What `manifestForDigest` keeps of a manifest. -/
structure ManifestForDigest where
  manifest : ProjectExportContents
  credentialFree : Bool
  repositoryDigests : List String
  receipt : String
deriving DecidableEq, Repr

def manifestForDigest (manifest : ProjectExportContents) : ManifestForDigest where
  manifest := manifest
  credentialFree := true
  repositoryDigests := manifest.repositories.map fun repository => repository.bundle.digest
  receipt := s!"repositories={manifest.repositories.length}; largeObjects={manifest.largeObjects.length}; credentialFields=none"

/-- What the verifier uses of its surroundings: the working directory, `digestText`,
`stableStringify` of a manifest, and the path of the first credential field the scanner
finds. -/
structure ManifestServices where
  cwd : Path
  digestText : String → String
  stableStringify : ManifestForDigest → String
  credentialField : ProjectExport → Option String

variable (services : ManifestServices)

def manifestDigest (manifest : ProjectExportContents) : String :=
  services.digestText (services.stableStringify (manifestForDigest manifest))

def isProjectExportCredentialFree (manifest : ProjectExport) : Bool :=
  services.credentialField manifest = none

def credentialMaterialScannerProtocol : String := "anyam.credential-material-scanner/v1"

/-- `manifest.exportId || "export"`. -/
def affectedExport (manifest : ProjectExport) : String :=
  if manifest.exportId = "" then "export" else manifest.exportId

def verifyProjectExportManifest (manifest : ProjectExport) : PortabilityResult ProjectExport := do
  let problems := manifestProblems services.cwd manifest.toProjectExportContents
  let problemList := "; ".intercalate problems
  require (manifest.protocol = "anyam.export/v1" ∧ manifest.version = "v1") {
    errorCode := "export.protocol_invalid"
    message := "Project Export protocol is not supported."
    retryable := false
    affectedObject := affectedExport manifest
    checkpointId := "checkpoint:manifest:invalid"
    recoveryAction := "provide an anyam.export/v1 manifest"
    budget := budgetReceipt "a v1 Project Export manifest"
      s!"protocol={manifest.protocol}; version={manifest.version}" }
  require (problems = []) {
    errorCode := "export.shape_invalid"
    message := "Project Export shape is incomplete."
    retryable := false
    affectedObject := affectedExport manifest
    checkpointId := "checkpoint:manifest:shape"
    recoveryAction := "regenerate the Project Export with complete Source Space repositories and lineage"
    budget := budgetReceipt "the declared Project Export shape" problemList }
  require (isProjectExportCredentialFree services manifest = true) {
    errorCode := "export.credential_present"
    message := "Project Export contains credential material."
    retryable := false
    affectedObject := affectedExport manifest
    checkpointId := "checkpoint:manifest:credentials"
    recoveryAction := "remove credential material and regenerate the export"
    budget := budgetReceipt "a credential-free Project Export"
      s!"credential field detected in manifest; scanner={credentialMaterialScannerProtocol}" }
  let actualDigest := manifestDigest services manifest.toProjectExportContents
  require (manifest.integrity.manifestDigest = actualDigest) {
    errorCode := "export.manifest_digest_mismatch"
    message := "Project Export manifest digest does not match its contents."
    retryable := false
    affectedObject := affectedExport manifest
    checkpointId := "checkpoint:manifest:digest"
    recoveryAction := "restore the manifest from the owner-controlled export source"
    budget := budgetReceipt "the declared manifest digest"
      s!"expected={manifest.integrity.manifestDigest}; actual={actualDigest}" }
  return manifest

/-- What the verifier checks of a manifest. -/
structure ManifestSound (manifest : ProjectExport) : Prop where
  protocol : manifest.protocol = "anyam.export/v1" ∧ manifest.version = "v1"
  shape : manifestProblems services.cwd manifest.toProjectExportContents = []
  credentialFree : isProjectExportCredentialFree services manifest = true
  digest : manifest.integrity.manifestDigest =
    manifestDigest services manifest.toProjectExportContents

/-- **A manifest is accepted, unchanged, exactly when it is sound.** -/
theorem verifyProjectExportManifest_eq_ok {services : ManifestServices}
    {manifest accepted : ProjectExport} :
    verifyProjectExportManifest services manifest = .ok accepted ↔
      ManifestSound services manifest ∧ accepted = manifest := by
  simp only [verifyProjectExportManifest, bind_eq_ok, require_eq_ok, exists_unit, pure_eq_ok]
  constructor
  · rintro ⟨hprotocol, hshape, hcredential, hdigest, rfl⟩
    exact ⟨⟨hprotocol, hshape, hcredential, hdigest⟩, rfl⟩
  · rintro ⟨h, rfl⟩
    exact ⟨h.protocol, h.shape, h.credentialFree, h.digest, rfl⟩

end Anyam.Portability
