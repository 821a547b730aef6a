import Anyam.Kernel.Contracts
import Anyam.Kernel.Json
import Anyam.Kernel.Mirror
import Anyam.Lib.Guards
import Anyam.Lib.Redaction

/-!
# Public projections

`createPublicProjection` of `disclosure/hybrid.ts`: the revision of a Project that contributors
outside may see, made of the content of public Source Spaces. The catalog, the canonical Project
Revision and the sources it is made from also hold what is not public.

- `publicSourceSpaceIds`, `projectionFiles`, `createPublicProjection`: the projection.
- `PubliclyAlike`: two inputs that agree on what is public.
- **`createPublicProjection_eq_of_publiclyAlike`**: nothing else reaches the projection, or the
  error.
-/

namespace Anyam.Disclosure

open Anyam.Lib Anyam.Kernel

/-- `String.prototype.localeCompare`, and SHA-256 of a text in hexadecimal. -/
structure DisclosureServices where
  localeCompare : String → String → Ordering
  sha256 : String → String

/-! ## Errors -/

inductive HybridDisclosureErrorCode
  | projectMismatch | duplicateSourceSpace | unknownSourceSpace | sourceSpaceNotInProject
  | publicSourceSpaceRequired | missingPublicSnapshot | sourceSnapshotMismatch
  | sourceContentMissing | publicFileInvalid | publicFileCollision | publicProjectionRequired
  | audienceNotAuthorized | privateInputMismatch | sealedOutputInvalid | sealedSideChannel
deriving DecidableEq, Repr

structure HybridDisclosureError where
  code : HybridDisclosureErrorCode
  message : String
  recoveryAction : String
  receipt : String
deriving DecidableEq, Repr

abbrev DisclosureM := Except HybridDisclosureError

/-! ## Objects of the host language -/

section

variable {α : Type}

/-- The array index a property key is, when it is one. -/
def arrayIndex (key : String) : Option Nat :=
  let digits := key.toList
  let index := digits.foldl (fun n c => n * 10 + (c.toNat - 48)) 0
  if digits ≠ [] ∧ digits.all (·.isDigit) ∧ (digits.head? = some '0' → digits = ['0']) ∧
      index < 4294967295 then
    some index
  else none

/-- The order an object gives its properties in: array indices first, by their value. -/
def ownEntries (entries : List (String × α)) : List (String × α) :=
  (entries.filter fun entry => (arrayIndex entry.1).isSome).mergeSort
      (fun left right => (arrayIndex left.1).getD 0 ≤ (arrayIndex right.1).getD 0) ++
    entries.filter fun entry => (arrayIndex entry.1).isNone

/-- `Object.fromEntries`. -/
def fromEntries (entries : List (String × α)) : OrderedMap String α :=
  .ofList (ownEntries (OrderedMap.ofList entries).entries)

/-- `object[key] = text`. The property `__proto__` takes no text. -/
def assign (object : OrderedMap String String) (key text : String) : OrderedMap String String :=
  if key = "__proto__" then object else object.set key text

end

section

variable (services : DisclosureServices)

/-- Entries in the order of their keys. -/
def sortedEntries {α : Type} (entries : List (String × α)) : List (String × α) :=
  entries.mergeSort fun left right => services.localeCompare left.1 right.1 ≠ .gt

mutual

def stableValue : Json → Json
  | .array elements => .array (stableElements elements)
  | .object fields => .object (ownEntries (sortedEntries services (stableFields fields)))
  | value => value

def stableElements : List Json → List Json
  | [] => []
  | element :: elements => stableValue element :: stableElements elements

def stableFields : List (String × Json) → List (String × Json)
  | [] => []
  | (key, value) :: fields => (key, stableValue value) :: stableFields fields

end

def stableJson (value : Json) : String := (stableValue services value).stringify

def digest (value : Json) : String := s!"sha256:{services.sha256 (stableJson services value)}"

/-! ## Source Spaces and paths -/

def sortedUnique (values : List String) (code : HybridDisclosureErrorCode) (message : String) :
    DisclosureM (List String) := do
  let sorted := values.mergeSort fun left right => services.localeCompare left right ≠ .gt
  require sorted.Nodup {
    code, message
    recoveryAction := "remove duplicate Source Space entries and retry the disclosure operation"
    receipt := s!"rule=unique-source-space-identities; count={sorted.length}" }
  return sorted

end

/-- `value.replace(/^\.\//, "")`. -/
def stripCurrentDirectory (value : String) : String :=
  if startsWith value "./" then String.ofList (value.toList.drop 2) else value

def normalizePublicPath (value : String) : DisclosureM String := do
  let replaced := replaceBackslashes value
  let normalized := stripCurrentDirectory (posixNormalize replaced)
  let segments := split '/' replaced
  require (¬ (replaced = "" ∨ normalized = "" ∨ normalized = "." ∨ startsWith normalized "/" ∨
      ".." ∈ segments ∨ normalized = ".." ∨ startsWith normalized "../" ∨
      includes normalized "/../" ∨ '\x00' ∈ normalized.toList ∨ ".git" ∈ segments)) {
    code := .publicFileInvalid
    message := "Public projection contains an invalid file path; projection paths must be relative and outside Git metadata."
    recoveryAction := "remove absolute, traversal, NUL, or .git paths and preview the Publication Change again"
    receipt := "rule=relative-no-traversal-no-git-metadata" }
  return normalized

structure SourceSpace where
  id : String
  name : String
  classification : SourceSpaceClassification
deriving DecidableEq, Repr

/-- A Project, with the name it is shown by. -/
structure NamedProject extends Project where
  name : String
deriving DecidableEq, Repr

def catalogById (sourceSpaces : List SourceSpace) : DisclosureM (OrderedMap String SourceSpace) := do
  require (sourceSpaces.map (·.id)).Nodup {
    code := .duplicateSourceSpace
    message := "The Source Space catalog contains duplicate identities."
    recoveryAction := "provide one catalog entry per Source Space and retry"
    receipt := "rule=unique-source-space-catalog" }
  return .ofList (sourceSpaces.map fun space => (space.id, space))

/-- The checks of one requested Source Space. -/
def requirePublic (project : NamedProject) (revision : ProjectRevision)
    (catalog : OrderedMap String SourceSpace) (id : String) : DisclosureM Unit := do
  let sourceSpace ← orThrow (catalog.get? id) {
    code := .unknownSourceSpace
    message := "The requested Source Space is not in the authorized projection catalog."
    recoveryAction := "refresh the Source Space catalog and retry with an authorized public Source Space"
    receipt := "rule=catalog-membership" }
  require (id ∈ project.sourceSpaceIds) {
    code := .sourceSpaceNotInProject
    message := "The requested Source Space is not owned by the Project."
    recoveryAction := "select a Source Space declared by the Project"
    receipt := "rule=project-source-space-membership" }
  require (sourceSpace.classification = .public) {
    code := .publicSourceSpaceRequired
    message := "A public projection can contain only public Source Spaces."
    recoveryAction := "publish an explicit safe projection of a public Source Space; do not change visibility in place"
    receipt := "rule=public-classification-only" }
  require (revision.sourceSpaceSnapshots.has id = true) {
    code := .missingPublicSnapshot
    message := "The Project Revision has no exact snapshot for one selected public Source Space."
    recoveryAction := "refresh the canonical Project Revision before previewing publication"
    receipt := "rule=revision-snapshot-required" }

def publicSourceSpaceIds (services : DisclosureServices) (project : NamedProject)
    (revision : ProjectRevision) (sourceSpaces : List SourceSpace) (requestedIds : List String) :
    DisclosureM (List String) := do
  require (revision.projectId = project.id) {
    code := .projectMismatch
    message := "The Project Revision does not belong to the requested Project."
    recoveryAction := "derive the public projection from the same Project and Project Revision"
    receipt := "rule=revision-project-equality" }
  let catalog ← catalogById sourceSpaces
  let ids ← sortedUnique services requestedIds .duplicateSourceSpace
    "A public projection cannot disclose one Source Space more than once."
  ids.forM (requirePublic project revision catalog)
  return ids

/-! ## Projection -/

structure PublicProjectionSource where
  sourceSpaceId : String
  snapshotId : String
  files : OrderedMap String String
  mountPath : Option String := none
deriving DecidableEq, Repr

structure PublicProjectionInput where
  project : NamedProject
  canonicalRevision : ProjectRevision
  sourceSpaces : List SourceSpace
  publicSourceSpaceIds : List String
  sources : List PublicProjectionSource
  profileId : Option String := none
deriving DecidableEq, Repr

structure PublicProjectionSourceDescriptor where
  id : String
  name : String
  snapshotId : String
deriving DecidableEq, Repr

structure PublicProjectionRevision where
  projectId : String
  projectName : String
  profileId : String
  lineageId : String
  projectionRevisionId : String
  publicSnapshotId : String
  contentDigest : String
  sourceSpaces : List PublicProjectionSourceDescriptor
  sourceSpaceIds : List String
  sourceSpaceSnapshots : OrderedMap String String
  filePaths : List String
  files : OrderedMap String String
  receipt : String
deriving DecidableEq, Repr

/-- Where the content of a Source Space was put. -/
structure MountDescriptor where
  sourceSpaceId : String
  snapshotId : String
  mountPath : String
deriving DecidableEq, Repr

/-- The sources by their Source Space. -/
def sourcesById (sources : List PublicProjectionSource) :
    DisclosureM (OrderedMap String PublicProjectionSource) :=
  sources.foldlM (fun byId source => do
    require (byId.has source.sourceSpaceId = false) {
      code := .duplicateSourceSpace
      message := "Public projection content names one Source Space more than once."
      recoveryAction := "provide exactly one content snapshot for each selected public Source Space"
      receipt := "rule=unique-source-content-inputs" }
    return byId.set source.sourceSpaceId source) .empty

/-- Put one file below the mount path of its Source Space. -/
def mountFile (mountPath : String) (files : OrderedMap String String) (file : String × String) :
    DisclosureM (OrderedMap String String) := do
  let path ← normalizePublicPath file.1
  let mounted := if mountPath = "" then path else s!"{mountPath}/{path}"
  require (files.has mounted = false) {
    code := .publicFileCollision
    message := "Two public Source Spaces map to the same projection path."
    recoveryAction := "assign explicit non-overlapping public mount paths and preview again"
    receipt := "rule=collision-free-public-projection" }
  return assign files mounted file.2

/-- Put the content of one selected Source Space to what is projected so far. -/
def projectSource (byId : OrderedMap String PublicProjectionSource) (selectedIds : List String)
    (revision : ProjectRevision) (projected : OrderedMap String String × List MountDescriptor)
    (id : String) : DisclosureM (OrderedMap String String × List MountDescriptor) := do
  let source ← orThrow (byId.get? id) {
    code := .sourceContentMissing
    message := "Public projection content is missing for one selected Source Space."
    recoveryAction := "load the exact authorized Source Space snapshot and retry preview"
    receipt := "rule=content-for-every-selected-source-space" }
  require (revision.sourceSpaceSnapshots.get? id = some source.snapshotId) {
    code := .sourceSnapshotMismatch
    message := "Public projection content does not match the exact Project Revision snapshot."
    recoveryAction := "refresh the source content from the requested Project Revision"
    receipt := "rule=content-snapshot-equality" }
  let mountPath ← match source.mountPath with
    | none => pure (if selectedIds.length = 1 then "" else id)
    | some mountPath => normalizePublicPath mountPath
  let files ← (ownEntries source.files.entries).foldlM (mountFile mountPath) projected.1
  return (files, projected.2 ++ [⟨id, source.snapshotId, mountPath⟩])

def projectionFiles (services : DisclosureServices) (sources : List PublicProjectionSource)
    (selectedIds : List String) (revision : ProjectRevision) :
    DisclosureM (OrderedMap String String × List MountDescriptor) := do
  let byId ← sourcesById sources
  let projected ← selectedIds.foldlM (projectSource byId selectedIds revision) (.empty, [])
  return (fromEntries (sortedEntries services (ownEntries projected.1.entries)), projected.2)

/-- What is told of one selected Source Space. -/
def describeSource (catalog : OrderedMap String SourceSpace) (revision : ProjectRevision)
    (id : String) : DisclosureM PublicProjectionSourceDescriptor := do
  let space ← orThrow (catalog.get? id) {
    code := .unknownSourceSpace
    message := "The public Source Space disappeared while constructing the projection."
    recoveryAction := "refresh the Source Space catalog and retry"
    receipt := "rule=stable-catalog-during-projection" }
  let snapshotId ← orThrow (revision.sourceSpaceSnapshots.get? id) {
    code := .missingPublicSnapshot
    message := "A selected public Source Space has no snapshot in the Project Revision."
    recoveryAction := "refresh the canonical Project Revision and retry"
    receipt := "rule=revision-snapshot-required" }
  return { id, name := space.name, snapshotId }

/-- `CONTRACT_VERSIONS.publicProjection`. -/
def publicProjectionProtocol : String := "anyam.public-projection/v1"

def PublicProjectionSourceDescriptor.json (descriptor : PublicProjectionSourceDescriptor) : Json :=
  .object [("id", .string descriptor.id), ("name", .string descriptor.name),
    ("snapshotId", .string descriptor.snapshotId)]

def createPublicProjection (services : DisclosureServices) (input : PublicProjectionInput) :
    DisclosureM PublicProjectionRevision := do
  let selectedIds ← publicSourceSpaceIds services input.project input.canonicalRevision
    input.sourceSpaces input.publicSourceSpaceIds
  let catalog ← catalogById input.sourceSpaces
  let (files, _) ← projectionFiles services input.sources selectedIds input.canonicalRevision
  let profileId := input.profileId.getD "public"
  let sourceSpaces ← selectedIds.mapM (describeSource catalog input.canonicalRevision)
  let lineageId := digest services (.object [
    ("protocol", .string publicProjectionProtocol), ("projectId", .string input.project.id),
    ("profileId", .string profileId), ("sourceSpaceIds", .ofStrings selectedIds)])
  let contentDigest := digest services (.ofTexts files)
  let publicSnapshotId := digest services (.object [
    ("protocol", .string publicProjectionProtocol), ("lineageId", .string lineageId),
    ("sourceSpaces", .array (sourceSpaces.map (·.json))), ("files", .ofTexts files)])
  let projectionRevisionId := digest services (.object [
    ("protocol", .string publicProjectionProtocol), ("lineageId", .string lineageId),
    ("publicSnapshotId", .string publicSnapshotId)])
  return {
    projectId := input.project.id
    projectName := input.project.name
    profileId, lineageId, projectionRevisionId, publicSnapshotId, contentDigest, sourceSpaces, files
    sourceSpaceIds := selectedIds
    sourceSpaceSnapshots := fromEntries (sourceSpaces.map fun space => (space.id, space.snapshotId))
    filePaths := files.keys
    receipt := s!"public-lineage={lineageId}; projection-revision={projectionRevisionId}; canonical-revision=omitted" }

/-! ## What reaches a projection -/

/-- A catalog and a list of sources that name each Source Space once. -/
structure PublicProjectionInput.DuplicateFree (input : PublicProjectionInput) : Prop where
  catalog : (input.sourceSpaces.map (·.id)).Nodup
  sources : (input.sources.map (·.sourceSpaceId)).Nodup

/-- Two inputs that agree on the Project, on the Project the Revision is of, on the requested
Source Spaces, and on the catalog entries, the membership, the snapshots and the sources of these.
-/
structure PubliclyAlike (input input' : PublicProjectionInput) : Prop where
  projectId : input'.project.id = input.project.id
  projectName : input'.project.name = input.project.name
  revisionProjectId : input'.canonicalRevision.projectId = input.canonicalRevision.projectId
  profileId : input'.profileId = input.profileId
  requestedIds : input'.publicSourceSpaceIds = input.publicSourceSpaceIds
  catalog : ∀ space, space.id ∈ input.publicSourceSpaceIds →
    (space ∈ input'.sourceSpaces ↔ space ∈ input.sourceSpaces)
  membership : ∀ id ∈ input.publicSourceSpaceIds,
    (id ∈ input'.project.sourceSpaceIds ↔ id ∈ input.project.sourceSpaceIds)
  snapshots : ∀ id ∈ input.publicSourceSpaceIds,
    input'.canonicalRevision.sourceSpaceSnapshots.get? id =
      input.canonicalRevision.sourceSpaceSnapshots.get? id
  sources : ∀ source, source.sourceSpaceId ∈ input.publicSourceSpaceIds →
    (source ∈ input'.sources ↔ source ∈ input.sources)

section

variable {services : DisclosureServices} {input input' : PublicProjectionInput}

/-- Records under distinct keys, by their key. -/
def keyed {α : Type} (key : α → String) (xs : List α) : OrderedMap String α :=
  .ofList (xs.map fun x => (key x, x))

theorem get?_keyed {α : Type} {key : α → String} {xs : List α} (h : (xs.map key).Nodup)
    {k : String} {x : α} : (keyed key xs).get? k = some x ↔ x ∈ xs ∧ key x = k := by
  rw [keyed, OrderedMap.get?_ofList_iff (by simpa [Function.comp_def] using h), List.mem_map]
  constructor
  · rintro ⟨y, hy, heq⟩
    cases heq
    exact ⟨hy, rfl⟩
  · rintro ⟨hx, rfl⟩
    exact ⟨x, hx, rfl⟩

/-- Two lists of records with the same records of one key give it the same record. -/
theorem keyed_congr {α : Type} {key : α → String} {xs xs' : List α} (h : (xs.map key).Nodup)
    (h' : (xs'.map key).Nodup) {k : String} (hsame : ∀ x, key x = k → (x ∈ xs' ↔ x ∈ xs)) :
    (keyed key xs').get? k = (keyed key xs).get? k := by
  refine Option.ext fun x => ?_
  rw [get?_keyed h, get?_keyed h']
  constructor
  · rintro ⟨hx, hk⟩
    exact ⟨(hsame x hk).mp hx, hk⟩
  · rintro ⟨hx, hk⟩
    exact ⟨(hsame x hk).mpr hx, hk⟩

theorem catalogById_of_nodup {sourceSpaces : List SourceSpace}
    (h : (sourceSpaces.map (·.id)).Nodup) :
    catalogById sourceSpaces = pure (keyed (·.id) sourceSpaces) := by
  rw [catalogById, require_of h]
  rfl

/-- Sources that name each Source Space once are filed under it. -/
theorem sourcesById_of_nodup {sources : List PublicProjectionSource}
    (h : (sources.map (·.sourceSpaceId)).Nodup) :
    sourcesById sources = pure (keyed (·.sourceSpaceId) sources) := by
  -- by induction on the sources that are left, none of which is filed yet
  have hloop : ∀ (sources : List PublicProjectionSource) (byId : OrderedMap String _),
      (sources.map (·.sourceSpaceId)).Nodup →
      (∀ source ∈ sources, byId.get? source.sourceSpaceId = none) →
      sources.foldlM (fun byId source => do
        require (byId.has source.sourceSpaceId = false) {
          code := .duplicateSourceSpace
          message := "Public projection content names one Source Space more than once."
          recoveryAction := "provide exactly one content snapshot for each selected public Source Space"
          receipt := "rule=unique-source-content-inputs" }
        return byId.set source.sourceSpaceId source) byId =
        (pure (sources.foldl (fun byId source => byId.set source.sourceSpaceId source) byId) :
          DisclosureM _) := by
    intro sources
    induction sources with
    | nil => exact fun _ _ _ => rfl
    | cons source sources ih =>
      intro byId hnodup hnew
      rw [List.map_cons, List.nodup_cons] at hnodup
      have hhead : byId.has source.sourceSpaceId = false :=
        OrderedMap.has_eq_false_iff.mpr (hnew source (List.mem_cons_self ..))
      rw [List.foldlM_cons, require_of hhead, List.foldl_cons]
      refine ih _ hnodup.2 fun other hother => ?_
      have hne : other.sourceSpaceId ≠ source.sourceSpaceId := by
        intro heq
        exact hnodup.1 (heq ▸ List.mem_map_of_mem hother)
      rw [OrderedMap.get?_set_ne _ _ hne]
      exact hnew other (List.mem_cons_of_mem _ hother)
  rw [sourcesById, hloop sources .empty h fun _ _ => rfl, keyed, OrderedMap.ofList, List.foldl_map]

namespace PubliclyAlike

theorem requirePublic_eq (h : PubliclyAlike input input') (hfree : input.DuplicateFree)
    (hfree' : input'.DuplicateFree) {id : String} (hid : id ∈ input.publicSourceSpaceIds) :
    requirePublic input'.project input'.canonicalRevision (keyed (·.id) input'.sourceSpaces) id =
      requirePublic input.project input.canonicalRevision (keyed (·.id) input.sourceSpaces) id := by
  have hcatalog := keyed_congr hfree.catalog hfree'.catalog (k := id)
    fun space hspace => h.catalog space (hspace ▸ hid)
  simp only [requirePublic, hcatalog, OrderedMap.has, h.snapshots id hid]
  exact congrArg _ (funext fun space => congrArg (· >>= _) (require_congr (h.membership id hid)))

theorem describeSource_eq (h : PubliclyAlike input input') (hfree : input.DuplicateFree)
    (hfree' : input'.DuplicateFree) {id : String} (hid : id ∈ input.publicSourceSpaceIds) :
    describeSource (keyed (·.id) input'.sourceSpaces) input'.canonicalRevision id =
      describeSource (keyed (·.id) input.sourceSpaces) input.canonicalRevision id := by
  have hcatalog := keyed_congr hfree.catalog hfree'.catalog (k := id)
    fun space hspace => h.catalog space (hspace ▸ hid)
  simp only [describeSource, hcatalog, h.snapshots id hid]

theorem projectSource_eq (h : PubliclyAlike input input') (hfree : input.DuplicateFree)
    (hfree' : input'.DuplicateFree) {id : String} (hid : id ∈ input.publicSourceSpaceIds)
    (selectedIds : List String) (projected : OrderedMap String String × List MountDescriptor) :
    projectSource (keyed (·.sourceSpaceId) input'.sources) selectedIds input'.canonicalRevision
        projected id =
      projectSource (keyed (·.sourceSpaceId) input.sources) selectedIds input.canonicalRevision
        projected id := by
  have hsources := keyed_congr hfree.sources hfree'.sources (k := id)
    fun source hsource => h.sources source (hsource ▸ hid)
  simp only [projectSource, hsources, h.snapshots id hid]

/-- The requested Source Spaces are checked with what is public of them. -/
theorem publicSourceSpaceIds_eq (h : PubliclyAlike input input') (hfree : input.DuplicateFree)
    (hfree' : input'.DuplicateFree) :
    publicSourceSpaceIds services input'.project input'.canonicalRevision input'.sourceSpaces
        input'.publicSourceSpaceIds =
      publicSourceSpaceIds services input.project input.canonicalRevision input.sourceSpaces
        input.publicSourceSpaceIds := by
  have hloop : ∀ ids ⊆ input.publicSourceSpaceIds,
      ids.forM (requirePublic input'.project input'.canonicalRevision
          (keyed (·.id) input'.sourceSpaces)) =
        ids.forM (requirePublic input.project input.canonicalRevision
          (keyed (·.id) input.sourceSpaces)) := fun ids hids =>
    forM_congr fun id hid => h.requirePublic_eq hfree hfree' (hids hid)
  have hsorted : ∀ le, input.publicSourceSpaceIds.mergeSort le ⊆ input.publicSourceSpaceIds :=
    fun le id hid => List.mem_mergeSort.mp hid
  simp only [publicSourceSpaceIds, sortedUnique, h.projectId, h.revisionProjectId,
    h.requestedIds, catalogById_of_nodup hfree.catalog, catalogById_of_nodup hfree'.catalog,
    bind_assoc, pure_bind, hloop _ (hsorted _)]

end PubliclyAlike

theorem subset_of_publicSourceSpaceIds {ids : List String}
    (h : publicSourceSpaceIds services input.project input.canonicalRevision input.sourceSpaces
      input.publicSourceSpaceIds = .ok ids) : ids ⊆ input.publicSourceSpaceIds := by
  simp only [publicSourceSpaceIds, sortedUnique, bind_eq_ok, pure_eq_ok] at h
  obtain ⟨_, -, _, -, _, ⟨_, -, rfl⟩, _, -, rfl⟩ := h
  exact fun id hid => List.mem_mergeSort.mp hid

/-- **Nothing but what is public reaches a projection**: inputs that agree on it give the same
projection, or fail with the same error. -/
theorem createPublicProjection_eq_of_publiclyAlike (h : PubliclyAlike input input')
    (hfree : input.DuplicateFree) (hfree' : input'.DuplicateFree) :
    createPublicProjection services input' = createPublicProjection services input := by
  unfold createPublicProjection
  rw [h.publicSourceSpaceIds_eq hfree hfree']
  cases hids : publicSourceSpaceIds services input.project input.canonicalRevision
      input.sourceSpaces input.publicSourceSpaceIds with
  | error e => rfl
  | ok selectedIds =>
    have hselected := subset_of_publicSourceSpaceIds hids
    have hfiles : projectionFiles services input'.sources selectedIds input'.canonicalRevision =
        projectionFiles services input.sources selectedIds input.canonicalRevision := by
      simp only [projectionFiles, sourcesById_of_nodup hfree.sources,
        sourcesById_of_nodup hfree'.sources, pure_bind]
      refine congrArg (· >>= _) (foldlM_congr (fun projected id hid => ?_) _)
      exact h.projectSource_eq hfree hfree' (hselected hid) selectedIds projected
    have hdescribed : selectedIds.mapM (describeSource (keyed (·.id) input'.sourceSpaces)
          input'.canonicalRevision) =
        selectedIds.mapM (describeSource (keyed (·.id) input.sourceSpaces)
          input.canonicalRevision) :=
      mapM_congr fun id hid => h.describeSource_eq hfree hfree' (hselected hid)
    have hpure : (.ok selectedIds : DisclosureM (List String)) = pure selectedIds := rfl
    simp only [catalogById_of_nodup hfree.catalog, catalogById_of_nodup hfree'.catalog, hfiles,
      h.projectId, h.projectName, h.profileId, hpure, pure_bind, hdescribed]

end

namespace Sample

def services : DisclosureServices where
  localeCompare := compare
  sha256 := id

/-- A Project with a public and a restricted Source Space, and a Revision of some Project. -/
def input (revisionProjectId privateSnapshotId : String) : PublicProjectionInput where
  project := { id := "project:1", name := "Anyam", sourceSpaceIds := ["space:1", "space:2"] }
  canonicalRevision := {
    id := "revision:1"
    projectId := revisionProjectId
    sourceSpaceSnapshots := .ofList [("space:1", "snapshot:1"), ("space:2", privateSnapshotId)]
    parentProjectRevisionId := none
    landedChangeRevisionId := none
    landedChangeRevisionIds := none
    landingCohortId := none }
  sourceSpaces := [⟨"space:1", "docs", .public⟩, ⟨"space:2", "core", .restricted⟩]
  publicSourceSpaceIds := ["space:1"]
  sources := [⟨"space:1", "snapshot:1", .ofList [("README.md", "Anyam")], none⟩]

/-- Inputs that differ in a snapshot of the restricted Source Space. -/
theorem publiclyAlike (snapshotId snapshotId' : String) :
    PubliclyAlike (input "project:1" snapshotId) (input "project:1" snapshotId') where
  projectId := rfl
  projectName := rfl
  revisionProjectId := rfl
  profileId := rfl
  requestedIds := rfl
  catalog := fun _ _ => Iff.rfl
  membership := fun _ _ => Iff.rfl
  snapshots := by
    intro id hid
    cases List.mem_singleton.mp hid
    rfl
  sources := fun _ _ => Iff.rfl

theorem duplicateFree (revisionProjectId snapshotId : String) :
    (input revisionProjectId snapshotId).DuplicateFree where
  catalog := by
    show ["space:1", "space:2"].Nodup
    decide
  sources := List.nodup_singleton _

end Sample

/-- The snapshot of a restricted Source Space reaches no projection. -/
theorem createPublicProjection_eq_of_publiclyAlike_sample :
    createPublicProjection Sample.services (Sample.input "project:1" "snapshot:3") =
      createPublicProjection Sample.services (Sample.input "project:1" "snapshot:2") :=
  createPublicProjection_eq_of_publiclyAlike (Sample.publiclyAlike _ _)
    (Sample.duplicateFree _ _) (Sample.duplicateFree _ _)

/-- **The Project a canonical Revision is of** decides whether there is a projection: two inputs
that differ in nothing else. -/
theorem projection_of_foreign_revision :
    ∃ input input' : PublicProjectionInput,
      input' = { input with canonicalRevision := { input.canonicalRevision with
        projectId := input'.canonicalRevision.projectId } } ∧
      input.DuplicateFree ∧ input'.DuplicateFree ∧
      (createPublicProjection Sample.services input).isOk = true ∧
      (createPublicProjection Sample.services input').isOk = false := by
  refine ⟨Sample.input "project:1" "snapshot:2", Sample.input "project:2" "snapshot:2", rfl,
    Sample.duplicateFree _ _, Sample.duplicateFree _ _, ?_, rfl⟩
  decide +kernel

end Anyam.Disclosure
