import Mathlib.Data.List.Pairwise
import Anyam.ChangeControl.Materialize
import Anyam.Kernel.MountComposition
import Anyam.Kernel.Paths

/-!
# The materialized tree

The second half of `materializeWorkspace`: the files of every mounted Source Space are written to a
fresh staging directory, one after the other. Paths are relative to that directory, and it is of a
POSIX file system: names differ when their characters do.

- `materializeTree`: the mounts and the tree of a materialization that succeeds.
- `OneFilePerEntry`: the tree has one file for each source file, below the mount of its Source Space.
- **`one_file_per_entry_iff`**: it has, unless two source paths of one Source Space are spellings of
  one path.
-/

namespace Anyam.ChangeControl

open Anyam.Lib Anyam.Kernel

/-! ## The file system -/

structure FileTree where
  files : OrderedMap Path String
  directories : List Path
deriving DecidableEq, Repr

namespace FileTree

/-- The staging directory as it is made. -/
def empty : FileTree := ⟨.empty, [[]]⟩

/-- `mkdir(path, { recursive: true })`. -/
def makeDirectories (tree : FileTree) (path : Path) : Except MaterializeFailure FileTree := do
  require (∀ directory ∈ path.inits, tree.files.has directory = false)
    (.io "EEXIST: file already exists")
  return { tree with directories := tree.directories ++ path.inits }

/-- `writeFile(path, content)`. A path that ends with a slash names no file. -/
def writeFile (tree : FileTree) (path : Path) (trailing : Bool) (content : String) :
    Except MaterializeFailure FileTree := do
  require (path ∉ tree.directories ∧ trailing = false)
    (.io "EISDIR: illegal operation on a directory")
  return { tree with files := tree.files.set path content }

end FileTree

/-! ## Writing the files -/

/-- A file of a mounted Source Space. -/
structure MountedFile where
  mount : WorkspaceMount
  sourcePath : String
  content : String
deriving DecidableEq, Repr

/-- `join(mountPath, file)`. -/
def destination (mountPath file : String) : Path := joinPath [] [mountPath, file]

def endsWithSlash (value : String) : Bool := value.toList.getLast? = some '/'

def writeMountedFile (tree : FileTree) (entry : MountedFile) :
    Except MaterializeFailure FileTree := do
  let file ← (normalizedFilePath entry.sourcePath).mapError .rejected
  let destination := destination entry.mount.mountPath file
  let relativeDestination := "/".intercalate destination
  require (¬ startsWith relativeDestination ".." ∧ Char.ofNat 0 ∉ relativeDestination.toList)
    (.rejected {
      code := .workspaceFileInvalid
      message := "Workspace source file escaped its Source Space mount."
      affectedObject := entry.mount.sourceSpaceId
      recoveryAction := "remove traversal from the source file path and retry"
      receipt := s!"source-space={entry.mount.sourceSpaceId}; rule=mount-contained" })
  let tree ← tree.makeDirectories destination.dropLast
  tree.writeFile destination (endsWithSlash file) entry.content

/-- The files of the mounts, in the order they are written. -/
def mountedFiles (sourceById : OrderedMap String WorkspaceSource) (mounts : List WorkspaceMount) :
    List MountedFile :=
  mounts.flatMap fun mount => match sourceById.get? mount.sourceSpaceId with
    | some source => source.files.entries.map fun (path, content) => ⟨mount, path, content⟩
    | none => []

/-- A materialization whose directories can be made and renamed. -/
def materializeTree (text : UnicodeText) (project : Project) (input : CreateWorkspaceInput) :
    Except MaterializeFailure (List WorkspaceMount × FileTree) := do
  let mounts ← (materializeMounts text project input).mapError .rejected
  let sourceById ← (sourcesById input.view input.sources).mapError .rejected
  let tree ← (mountedFiles sourceById mounts).foldlM writeMountedFile .empty
  return (mounts, tree)

/-! ## Names of a source path -/

/-- The segments that `posix.normalize` keeps of a source path. -/
def fileNames (value : String) : List (List Char) :=
  (splitChars '/' (replaceBackslashes value).toList).filter (IsName ·)

theorem isName_of_mem_fileNames {value : String} {name : List Char} (h : name ∈ fileNames value) :
    IsName name ∧ '/' ∉ name := by
  obtain ⟨hmem, hname⟩ := List.mem_filter.mp h
  exact ⟨by simpa using hname, not_mem_of_mem_splitChars hmem⟩

/-- What follows the names of a path that ends with a slash. -/
def slash (trailing : Bool) : List Char := if trailing then ['/'] else []

/-- The segments of joined names, where the last is empty when a slash follows. -/
theorem splitChars_names {names : List (List Char)} (hne : names ≠ [])
    (h : ∀ name ∈ names, '/' ∉ name) (trailing : Bool) :
    splitChars '/' (['/'].intercalate names ++ slash trailing) =
      names ++ if trailing then [[]] else [] := by
  cases trailing with
  | false =>
    rw [slash, if_neg (by decide), if_neg (by decide), List.append_nil, List.append_nil]
    exact splitChars_intercalate hne h
  | true =>
    have hjoin : ['/'].intercalate (names ++ [[]]) = ['/'].intercalate names ++ ['/'] := by
      rw [intercalate_append hne (List.cons_ne_nil _ _), List.intercalate_singleton,
        List.append_nil]
    rw [slash, if_pos rfl, if_pos rfl, ← hjoin]
    refine splitChars_intercalate (by simp) fun seg hseg => ?_
    rcases List.mem_append.mp hseg with hseg | hseg
    · exact h seg hseg
    · rw [List.mem_singleton.mp hseg]
      exact List.not_mem_nil

/-- `posix.normalize` of a path without dot-dot segments. -/
theorem posixNormalize_names {value : String} (hne : replaceBackslashes value ≠ "")
    (htraversal : ".." ∉ split '/' (replaceBackslashes value)) :
    posixNormalize (replaceBackslashes value) =
      if fileNames value = [] then
        if startsWith (replaceBackslashes value) "/" then "/"
        else if endsWithSlash (replaceBackslashes value) then "./" else "."
      else
        String.ofList (slash (startsWith (replaceBackslashes value) "/") ++
          ['/'].intercalate (fileNames value) ++ slash (endsWithSlash (replaceBackslashes value))) := by
  have hchars : (replaceBackslashes value).toList ≠ [] := by simpa using hne
  have hsegments : ['.', '.'] ∉ splitChars '/' (replaceBackslashes value).toList := fun hmem =>
    htraversal (List.mem_map.mpr ⟨_, hmem, rfl⟩)
  have habsolute : startsWith (replaceBackslashes value) "/" =
      decide ((replaceBackslashes value).toList.head? = some '/') := by
    cases hlist : (replaceBackslashes value).toList with
    | nil => exact absurd hlist hchars
    | cons c cs =>
      rw [startsWith, hlist]
      show (('/' == c) && true) = decide (some c = some '/')
      by_cases hc : c = '/'
      · subst hc
        decide
      · have hne : ('/' == c) = false := by simpa using Ne.symm hc
        simp [hne, hc]
  have hbody : (['/'].intercalate (fileNames value) = []) ↔ fileNames value = [] := by
    constructor
    · intro hnil
      by_contra hnames
      have hsplit := splitChars_intercalate hnames fun name hname =>
        (isName_of_mem_fileNames hname).2
      rw [hnil] at hsplit
      have hmem : [] ∈ fileNames value := hsplit ▸ List.mem_singleton_self _
      exact (isName_of_mem_fileNames hmem).1.1 rfl
    · intro hnames
      rw [hnames, List.intercalate_nil]
  have hnormal : ∀ absolute : Bool,
      normalizeSegments absolute (splitChars '/' (replaceBackslashes value).toList) =
        fileNames value := fun _ => normalizeSegments_eq hsegments
  rw [posixNormalize, if_neg hchars]
  simp only [hnormal, habsolute, endsWithSlash, slash, decide_eq_true_eq]
  by_cases hnames : fileNames value = []
  · rw [if_pos hnames, if_pos (hbody.mpr hnames)]
  · rw [if_neg hnames, if_neg (mt hbody.mp hnames)]

/-- Names are not taken for a leading dot segment. -/
theorem dropDotSlash_names {names : List (List Char)} (hne : names ≠ [])
    (h : ∀ name ∈ names, IsName name ∧ '/' ∉ name) (trailing : Bool) :
    dropDotSlash (String.ofList (['/'].intercalate names ++ slash trailing)) =
      String.ofList (['/'].intercalate names ++ slash trailing) := by
  rw [dropDotSlash, String.toList_ofList]
  split
  · rename_i rest heq
    -- the first segment would be a dot
    have hsplit := splitChars_names hne (fun name hname => (h name hname).2) trailing
    rw [heq] at hsplit
    obtain ⟨name, names, rfl⟩ := List.exists_cons_of_ne_nil hne
    have hfirst : splitChars '/' ('.' :: '/' :: rest) = ['.'] :: splitChars '/' rest :=
      splitChars_append (by decide : '/' ∉ ['.']) rest
    rw [hfirst, List.cons_append] at hsplit
    have hdot := (List.cons.inj hsplit).1
    exact absurd hdot.symm (h name (List.mem_cons_self ..)).1.2
  · rfl

theorem endsWithSlash_names {names : List (List Char)} (hne : names ≠ [])
    (h : ∀ name ∈ names, IsName name ∧ '/' ∉ name) (trailing : Bool) :
    endsWithSlash (String.ofList (['/'].intercalate names ++ slash trailing)) = trailing := by
  rw [endsWithSlash, String.toList_ofList]
  cases trailing with
  | true => simp [slash]
  | false =>
    rw [slash, if_neg (by decide), List.append_nil, decide_eq_false_iff_not]
    intro hlast
    obtain ⟨front, hfront⟩ := List.getLast?_eq_some_iff.mp hlast
    -- the last segment would be empty
    have hsplit := splitChars_names (splitChars_ne_nil '/' front)
      (fun seg => not_mem_of_mem_splitChars) true
    rw [intercalate_splitChars, slash, if_pos rfl, if_pos rfl, ← hfront,
      splitChars_intercalate hne fun name hname => (h name hname).2] at hsplit
    exact (h [] (by rw [hsplit]; simp)).1.1 rfl

/-- A source path that is accepted is normalized to its names. -/
theorem normalizedFilePath_ok {value file : String} (h : normalizedFilePath value = .ok file) :
    fileNames value ≠ [] ∧
      file.toList = ['/'].intercalate (fileNames value) ++ slash (endsWithSlash file) := by
  simp only [normalizedFilePath, bind_eq_ok, exists_unit, require_eq_ok, pure_eq_ok] at h
  obtain ⟨⟨hne, hfile, hdot, hhead, htraversal, -⟩, rfl⟩ := h
  rw [posixNormalize_names hne htraversal] at hfile hdot hhead ⊢
  by_cases hnames : fileNames value = []
  · rw [if_pos hnames] at hfile hdot hhead
    by_cases habsolute : startsWith (replaceBackslashes value) "/" = true
    · rw [if_pos habsolute] at hhead
      exact absurd (by decide) hhead
    · by_cases htrailing : endsWithSlash (replaceBackslashes value) = true
      · rw [if_neg habsolute, if_pos htrailing] at hfile
        exact absurd (by decide) hfile
      · rw [if_neg habsolute, if_neg htrailing] at hdot
        exact absurd (by decide) hdot
  · refine ⟨hnames, ?_⟩
    rw [if_neg hnames] at hhead ⊢
    cases habsolute : startsWith (replaceBackslashes value) "/" with
    | true =>
      rw [habsolute] at hhead
      exact absurd (by simp [dropDotSlash, slash]) hhead
    | false =>
      have hslash : slash false = [] := rfl
      rw [hslash, List.nil_append, dropDotSlash_names hnames fun name => isName_of_mem_fileNames,
        endsWithSlash_names hnames fun name => isName_of_mem_fileNames, String.toList_ofList]

/-! ## Where the files are written -/

/-- The place of a file: the segments of the mount path, then the names of the source path. -/
def MountedFile.place (entry : MountedFile) : Path :=
  split '/' entry.mount.mountPath ++ (fileNames entry.sourcePath).map String.ofList

theorem isName_of_mem_split {path : String} (hpath : RelativePath path) {seg : List Char}
    (h : seg ∈ (split '/' path).map String.toList) : IsName seg ∧ seg ≠ ['.', '.'] := by
  obtain ⟨segment, hsegment, rfl⟩ := List.mem_map.mp h
  obtain ⟨hempty, hdot, hdots⟩ := hpath.segments segment hsegment
  simp only [ne_eq, ← String.toList_inj] at hempty hdot hdots
  exact ⟨⟨hempty, hdot⟩, hdots⟩

theorem map_toList_ofList (names : List (List Char)) :
    (names.map String.ofList).map String.toList = names := by
  rw [List.map_map]
  exact (List.map_congr_left fun _ _ => String.toList_ofList).trans (List.map_id _)

theorem map_ofList_toList (segments : List String) :
    (segments.map String.toList).map String.ofList = segments := by
  rw [List.map_map]
  exact (List.map_congr_left fun _ _ => String.ofList_toList).trans (List.map_id _)

theorem fileNames_ne_dots {value : String} (h : ".." ∉ split '/' (replaceBackslashes value)) :
    ['.', '.'] ∉ fileNames value := fun hmem =>
  h (List.mem_map.mpr ⟨_, (List.mem_filter.mp hmem).1, rfl⟩)

/-- A file of a relative mount is written to its place. -/
theorem destination_eq_place {entry : MountedFile} {file : String}
    (hmount : RelativePath entry.mount.mountPath)
    (h : normalizedFilePath entry.sourcePath = .ok file) (hfile : endsWithSlash file = false) :
    destination entry.mount.mountPath file = entry.place := by
  obtain ⟨hnames, hlist⟩ := normalizedFilePath_ok h
  have htraversal : ".." ∉ split '/' (replaceBackslashes entry.sourcePath) := by
    simp only [normalizedFilePath, bind_eq_ok, exists_unit, require_eq_ok] at h
    exact h.1.2.2.2.2.1
  have hsplit : (split '/' file).map String.toList = fileNames entry.sourcePath := by
    rw [split, map_toList_ofList, hlist, hfile, slash, if_neg (by decide), List.append_nil]
    exact splitChars_intercalate hnames fun name hname => (isName_of_mem_fileNames hname).2
  have hsegments : ([] ++ [entry.mount.mountPath, file].flatMap (split '/')).map String.toList =
      (split '/' entry.mount.mountPath).map String.toList ++ fileNames entry.sourcePath := by
    simp [← hsplit]
  rw [destination, joinPath, normalizePath, hsegments, normalizeSegments_eq, List.filter_append,
    List.map_append, List.filter_eq_self.mpr, List.filter_eq_self.mpr, map_ofList_toList,
    MountedFile.place]
  · intro name hname
    simpa using (isName_of_mem_fileNames hname).1
  · intro seg hseg
    simpa using (isName_of_mem_split hmount hseg).1
  · intro hmem
    rcases List.mem_append.mp hmem with hmem | hmem
    · exact (isName_of_mem_split hmount hmem).2 rfl
    · exact fileNames_ne_dots htraversal hmem

/-- What writing one file does. -/
theorem writeMountedFile_ok {tree tree' : FileTree} {entry : MountedFile}
    (hmount : RelativePath entry.mount.mountPath)
    (h : writeMountedFile tree entry = .ok tree') :
    (∃ file, normalizedFilePath entry.sourcePath = .ok file ∧ endsWithSlash file = false) ∧
      tree'.files = tree.files.set entry.place entry.content := by
  simp only [writeMountedFile, bind_eq_ok, exists_unit, require_eq_ok, mapError_eq_ok,
    FileTree.makeDirectories, FileTree.writeFile, pure_eq_ok] at h
  obtain ⟨file, hfile, -, _, ⟨-, rfl⟩, ⟨-, htrailing⟩, rfl⟩ := h
  refine ⟨⟨file, hfile, htrailing⟩, ?_⟩
  rw [← destination_eq_place hmount hfile htrailing]

/-- The files of a run are set in the order they are written. -/
theorem writeMountedFiles_ok {entries : List MountedFile}
    (hmounts : ∀ entry ∈ entries, RelativePath entry.mount.mountPath) {tree tree' : FileTree}
    (h : entries.foldlM writeMountedFile tree = .ok tree') :
    (∀ entry ∈ entries, ∃ file, normalizedFilePath entry.sourcePath = .ok file ∧
      endsWithSlash file = false) ∧
    tree'.files = (entries.map fun entry => (entry.place, entry.content)).foldl
      (fun files p => files.set p.1 p.2) tree.files := by
  induction entries generalizing tree with
  | nil =>
    rw [List.foldlM_nil, pure_eq_ok] at h
    exact ⟨nofun, congrArg FileTree.files h.symm⟩
  | cons entry entries ih =>
    rw [List.foldlM_cons] at h
    obtain ⟨tree₁, hwrite, hrest⟩ := bind_eq_ok.mp h
    obtain ⟨hfile, hset⟩ := writeMountedFile_ok (hmounts entry (List.mem_cons_self ..)) hwrite
    obtain ⟨hfiles, hfold⟩ := ih (fun e he => hmounts e (List.mem_cons_of_mem _ he)) hrest
    refine ⟨List.forall_mem_cons.mpr ⟨hfile, hfiles⟩, ?_⟩
    rw [hfold, hset]
    rfl

/-! ## Mounts and entries -/

/-- A source file of a mounted Source Space. -/
structure IsEntry (sources : List WorkspaceSource) (mounts : List WorkspaceMount)
    (entry : MountedFile) : Prop where
  mounted : entry.mount ∈ mounts
  filed : ∃ source ∈ sources, source.sourceSpaceId = entry.mount.sourceSpaceId ∧
    source.files.get? entry.sourcePath = some entry.content

/-- The tree has exactly one file for each entry, strictly below its own mount and below no
other. -/
structure OneFilePerEntry (sources : List WorkspaceSource) (mounts : List WorkspaceMount)
    (tree : FileTree) : Prop where
  written : ∀ entry, IsEntry sources mounts entry →
    tree.files.get? entry.place = some entry.content
  only : ∀ path ∈ tree.files.keys, ∃ entry, IsEntry sources mounts entry ∧ path = entry.place
  distinct : ∀ entry entry', IsEntry sources mounts entry → IsEntry sources mounts entry' →
    entry.place = entry'.place → entry = entry'
  below : ∀ entry, IsEntry sources mounts entry →
    split '/' entry.mount.mountPath <+: entry.place ∧
      entry.place ≠ split '/' entry.mount.mountPath
  apart : ∀ entry, IsEntry sources mounts entry → ∀ mount ∈ mounts,
    split '/' mount.mountPath <+: entry.place → mount = entry.mount

/-- No two paths of a source are spellings of one path. -/
def OneSpelling (source : WorkspaceSource) : Prop :=
  ∀ path ∈ source.files.keys, ∀ path' ∈ source.files.keys,
    normalizedFilePath path = normalizedFilePath path' → path = path'

/-- What is known of the Unicode tables: they leave a solidus, and do not look past it. -/
structure SolidusBoundary (text : UnicodeText) : Prop where
  nfkc : ∀ left right, text.nfkc (left ++ "/" ++ right) = text.nfkc left ++ "/" ++ text.nfkc right
  toLowerCase : ∀ left right,
    text.toLowerCase (left ++ "/" ++ right) = text.toLowerCase left ++ "/" ++ text.toLowerCase right

variable {text : UnicodeText}

/-- Whole segments in front stay in front when paths are compared. -/
theorem within_of_isPrefix (hboundary : SolidusBoundary text) {outer inner : String}
    (h : split '/' outer <+: split '/' inner) : Within text outer inner := by
  rcases split_isPrefix_iff.mp h with rfl | ⟨rest, hrest⟩
  · exact List.prefix_rfl
  · have hinner : inner = outer ++ "/" ++ String.ofList rest := by
      rw [← String.toList_inj, ← hrest]
      simp
    have hkey : collisionKey text inner =
        collisionKey text outer ++ "/" ++ collisionKey text (String.ofList rest) := by
      rw [hinner, collisionKey, hboundary.nfkc, hboundary.toLowerCase]
      rfl
    refine split_isPrefix_iff.mpr (.inr ⟨(collisionKey text (String.ofList rest)).toList, ?_⟩)
    rw [hkey, String.toList_append, String.toList_append]
    rfl

/-- A loop that files every value under a new key files them in their order. -/
theorem entries_foldlM {ε : Type} {key : WorkspaceSource → String}
    {step : OrderedMap String WorkspaceSource → WorkspaceSource →
      Except ε (OrderedMap String WorkspaceSource)}
    (hstep : ∀ m source m', step m source = .ok m' →
      key source ∉ m.keys ∧ m' = m.set (key source) source)
    {sources : List WorkspaceSource} {m m' : OrderedMap String WorkspaceSource}
    (h : sources.foldlM step m = .ok m') :
    m'.entries = m.entries ++ sources.map fun source => (key source, source) := by
  induction sources generalizing m with
  | nil =>
    rw [List.foldlM_nil, pure_eq_ok] at h
    rw [← h, List.map_nil, List.append_nil]
  | cons source sources ih =>
    rw [List.foldlM_cons] at h
    obtain ⟨_, hfirst, hrest⟩ := bind_eq_ok.mp h
    obtain ⟨hnew, rfl⟩ := hstep m source _ hfirst
    rw [ih hrest, OrderedMap.entries_set_of_not_mem _ hnew, List.map_cons, List.append_assoc,
      List.singleton_append]

theorem sourcesById_ok {view : ProjectView} {sources : List WorkspaceSource}
    {sourceById : OrderedMap String WorkspaceSource}
    (h : sourcesById view sources = .ok sourceById) :
    sourceById.entries = sources.map fun source => (source.sourceSpaceId, source) := by
  refine entries_foldlM (fun m source m' hstep => ?_) h
  simp only [bind_eq_ok, exists_unit, require_eq_ok, pure_eq_ok] at hstep
  obtain ⟨hnew, rfl⟩ := hstep
  exact ⟨OrderedMap.not_mem_keys_iff.mpr (OrderedMap.has_eq_false_iff.mp hnew), rfl⟩

theorem mem_mountedFiles {sources : List WorkspaceSource} {mounts : List WorkspaceMount}
    {sourceById : OrderedMap String WorkspaceSource}
    (h : sourceById.entries = sources.map fun source => (source.sourceSpaceId, source))
    {entry : MountedFile} :
    entry ∈ mountedFiles sourceById mounts ↔ IsEntry sources mounts entry := by
  have hsource : ∀ {id : String} {source : WorkspaceSource}, sourceById.get? id = some source ↔
      source ∈ sources ∧ source.sourceSpaceId = id := by
    intro id source
    rw [OrderedMap.get?_eq_some_iff, h, List.mem_map]
    constructor
    · rintro ⟨source', hmem, heq⟩
      obtain ⟨rfl, rfl⟩ := Prod.mk.inj heq
      exact ⟨hmem, rfl⟩
    · rintro ⟨hmem, rfl⟩
      exact ⟨source, hmem, rfl⟩
  rw [mountedFiles, List.mem_flatMap]
  constructor
  · rintro ⟨mount, hmount, hentry⟩
    cases hget : sourceById.get? mount.sourceSpaceId with
    | none =>
      rw [hget] at hentry
      cases hentry
    | some source =>
      rw [hget] at hentry
      obtain ⟨⟨path, content⟩, hfile, rfl⟩ := List.mem_map.mp hentry
      obtain ⟨hmem, hid⟩ := hsource.mp hget
      exact ⟨hmount, source, hmem, hid, OrderedMap.get?_eq_some_iff.mpr hfile⟩
  · rintro ⟨hmount, source, hmem, hid, hfile⟩
    refine ⟨entry.mount, hmount, ?_⟩
    rw [hsource.mpr ⟨hmem, hid⟩]
    exact List.mem_map.mpr ⟨_, OrderedMap.get?_eq_some_iff.mp hfile, rfl⟩

/-- The mounts of a materialization that succeeds. -/
structure MaterializedMounts (text : UnicodeText) (input : CreateWorkspaceInput)
    (mounts : List WorkspaceMount) : Prop where
  visible : ∀ id, (∃ mount ∈ mounts, mount.sourceSpaceId = id) ↔
    id ∈ input.view.visibleSourceSpaceIds.map trim
  relative : ∀ mount ∈ mounts, RelativePath mount.mountPath
  separate : mounts.Pairwise fun left right => left.sourceSpaceId ≠ right.sourceSpaceId ∧
    ¬ Within text left.mountPath right.mountPath ∧ ¬ Within text right.mountPath left.mountPath

/-- Each mount is made from the input mount it stands for. -/
theorem resolveMounts_ok {view : ProjectView} {sourceById : OrderedMap String WorkspaceSource}
    {mountInputs : List WorkspaceMountInput} {mounts : List WorkspaceMount}
    (h : mountInputs.mapM (resolveMount view sourceById) = .ok mounts) :
    mounts.map (fun mount => WorkspaceMountInput.mk mount.sourceSpaceId mount.mountPath) =
      mountInputs := by
  replace h := mapM_eq_ok.mp h
  induction h with
  | nil => rfl
  | cons hresolve _ ih =>
    simp only [resolveMount, bind_eq_ok, exists_unit, orThrow_eq_ok, require_eq_ok,
      pure_eq_ok] at hresolve
    obtain ⟨source, -, -, rfl⟩ := hresolve
    rw [List.map_cons, ih]

theorem materializeMounts_ok {project : Project} {input : CreateWorkspaceInput}
    {mounts : List WorkspaceMount} (h : materializeMounts text project input = .ok mounts) :
    MaterializedMounts text input mounts := by
  simp only [materializeMounts, bind_eq_ok, exists_unit, require_eq_ok, pure_eq_ok,
    mapError_eq_ok, validateWorkspaceMounts_eq_ok] at h
  obtain ⟨-, sourceById, -, _, ⟨-, hcomposition, rfl⟩, mounts, hresolved, -, rfl⟩ := h
  have hmounts := resolveMounts_ok hresolved
  refine ⟨fun id => ?_, fun mount hmount => ?_, ?_⟩
  · have hids : mounts.map (fun mount => mount.sourceSpaceId) =
        input.mounts.map fun mount => trim mount.sourceSpaceId := by
      have hmap := congrArg (List.map WorkspaceMountInput.sourceSpaceId) hmounts
      rw [List.map_map, List.map_map] at hmap
      exact hmap
    rw [← hcomposition.bijection.mem_iff, ← hids, List.mem_map]
  · have hmem := List.mem_map_of_mem (f := fun mount : WorkspaceMount =>
      WorkspaceMountInput.mk mount.sourceSpaceId mount.mountPath) hmount
    rw [hmounts] at hmem
    obtain ⟨mountInput, hinput, heq⟩ := List.mem_map.mp hmem
    have hpath : canonicalPath text mountInput.mountPath = mount.mountPath :=
      congrArg WorkspaceMountInput.mountPath heq
    rw [← hpath]
    exact hcomposition.relative mountInput hinput
  · have hapart := pairwise_apart_iff.mpr
      ⟨hcomposition.bijection.nodup_iff.mpr hcomposition.distinct, hcomposition.separate⟩
    rw [← hmounts] at hapart
    exact List.pairwise_map.mp hapart

/-! ## One file for each entry -/

theorem mem_keys_ofList {κ α : Type} [DecidableEq κ] {entries : List (κ × α)} {key : κ} :
    key ∈ (OrderedMap.ofList entries).keys ↔ ∃ entry ∈ entries, entry.1 = key := by
  have hfold : ∀ (entries : List (κ × α)) (m : OrderedMap κ α),
      key ∈ (entries.foldl (fun m p => m.set p.1 p.2) m).keys ↔
        key ∈ m.keys ∨ ∃ entry ∈ entries, entry.1 = key := by
    intro entries
    induction entries with
    | nil => simp
    | cons entry entries ih =>
      intro m
      rw [List.foldl_cons, ih, OrderedMap.mem_keys_set, List.exists_mem_cons_iff, @eq_comm _ key,
        or_left_comm, or_assoc]
  rw [OrderedMap.ofList, hfold]
  simp [OrderedMap.keys, OrderedMap.empty]

/-- What a materialization that succeeds has made. -/
structure Materialized (text : UnicodeText) (input : CreateWorkspaceInput)
    (mounts : List WorkspaceMount) (tree : FileTree) : Prop
    extends MaterializedMounts text input mounts where
  oneSource : ∀ source ∈ input.sources, ∀ source' ∈ input.sources,
    source.sourceSpaceId = source'.sourceSpaceId → source = source'
  normalized : ∀ entry, IsEntry input.sources mounts entry →
    ∃ file, normalizedFilePath entry.sourcePath = .ok file ∧ endsWithSlash file = false
  made : ∀ path content, tree.files.get? path = some content →
    ∃ entry, IsEntry input.sources mounts entry ∧ path = entry.place ∧ content = entry.content
  filed : ∀ entry, IsEntry input.sources mounts entry → entry.place ∈ tree.files.keys

theorem materializeTree_ok {project : Project} {input : CreateWorkspaceInput}
    {mounts : List WorkspaceMount} {tree : FileTree}
    (h : materializeTree text project input = .ok (mounts, tree)) :
    Materialized text input mounts tree := by
  simp only [materializeTree, bind_eq_ok, mapError_eq_ok, pure_eq_ok, Prod.mk.injEq] at h
  obtain ⟨mounts, hmounts, sourceById, hsources, tree, hwrite, rfl, rfl⟩ := h
  have hmounted := materializeMounts_ok hmounts
  have hbyId := sourcesById_ok hsources
  have hentries : ∀ {entry}, entry ∈ mountedFiles sourceById mounts ↔
      IsEntry input.sources mounts entry := mem_mountedFiles hbyId
  obtain ⟨hfiles, htree⟩ := writeMountedFiles_ok
    (fun entry hentry => hmounted.relative _ (hentries.mp hentry).mounted) hwrite
  refine ⟨hmounted, fun source hsource source' hsource' hid => ?_,
    fun entry hentry => hfiles entry (hentries.mpr hentry), ?_, ?_⟩
  · have hget : ∀ source ∈ input.sources,
        sourceById.get? source.sourceSpaceId = some source := fun source hmem =>
      OrderedMap.get?_eq_some_iff.mpr (hbyId ▸ List.mem_map_of_mem hmem)
    have hsame := hget source hsource
    rw [hid, hget source' hsource'] at hsame
    exact (Option.some.inj hsame).symm
  · intro path content hget
    rw [htree] at hget
    obtain ⟨entry, hentry, heq⟩ := List.mem_map.mp (OrderedMap.mem_of_get?_ofList hget)
    obtain ⟨rfl, rfl⟩ := Prod.mk.inj heq
    exact ⟨entry, hentries.mp hentry, rfl, rfl⟩
  · intro entry hentry
    rw [htree]
    exact mem_keys_ofList.mpr ⟨_, List.mem_map_of_mem (hentries.mpr hentry), rfl⟩

/-- Paths that are accepted normalize alike when their names are the same. -/
theorem normalizedFilePath_eq_iff {path path' : String}
    (h : ∃ file, normalizedFilePath path = .ok file ∧ endsWithSlash file = false)
    (h' : ∃ file, normalizedFilePath path' = .ok file ∧ endsWithSlash file = false) :
    normalizedFilePath path = normalizedFilePath path' ↔ fileNames path = fileNames path' := by
  obtain ⟨file, hok, hslash⟩ := h
  obtain ⟨file', hok', hslash'⟩ := h'
  obtain ⟨hne, hlist⟩ := normalizedFilePath_ok hok
  obtain ⟨hne', hlist'⟩ := normalizedFilePath_ok hok'
  rw [hslash, slash, if_neg (by decide), List.append_nil] at hlist
  rw [hslash', slash, if_neg (by decide), List.append_nil] at hlist'
  rw [hok, hok', Except.ok.injEq, ← String.toList_inj, hlist, hlist']
  constructor
  · intro hjoin
    rw [← splitChars_intercalate hne fun name hname => (isName_of_mem_fileNames hname).2, hjoin,
      splitChars_intercalate hne' fun name hname => (isName_of_mem_fileNames hname).2]
  · exact congrArg _

theorem MountedFile.place_isPrefix (entry : MountedFile) :
    split '/' entry.mount.mountPath <+: entry.place := List.prefix_append _ _

/-- Files of one mount are at one place when their names are the same. -/
theorem MountedFile.place_inj {entry entry' : MountedFile} (hmount : entry.mount = entry'.mount)
    (h : entry.place = entry'.place) : fileNames entry.sourcePath = fileNames entry'.sourcePath := by
  rw [place, place, hmount] at h
  have hnames := congrArg (List.map String.toList) (List.append_cancel_left h)
  rwa [map_toList_ofList, map_toList_ofList] at hnames

namespace Materialized

variable {input : CreateWorkspaceInput} {mounts : List WorkspaceMount} {tree : FileTree}

/-- A place is below no mount but its own. -/
theorem apart (hboundary : SolidusBoundary text) (h : Materialized text input mounts tree)
    {entry : MountedFile} (hentry : IsEntry input.sources mounts entry) {mount : WorkspaceMount}
    (hmount : mount ∈ mounts) (hstart : split '/' mount.mountPath <+: entry.place) :
    mount = entry.mount := by
  by_contra hne
  have hsymm : Std.Symm fun left right : WorkspaceMount =>
      left.sourceSpaceId ≠ right.sourceSpaceId ∧ ¬ Within text left.mountPath right.mountPath ∧
        ¬ Within text right.mountPath left.mountPath :=
    ⟨fun _ _ hapart => ⟨hapart.1.symm, hapart.2.2, hapart.2.1⟩⟩
  have hapart := h.separate.forall hmount hentry.mounted hne
  rcases List.prefix_or_prefix_of_prefix hstart entry.place_isPrefix with hbefore | hafter
  · exact hapart.2.1 (within_of_isPrefix hboundary hbefore)
  · exact hapart.2.2 (within_of_isPrefix hboundary hafter)

theorem place_ne (h : Materialized text input mounts tree) {entry : MountedFile}
    (hentry : IsEntry input.sources mounts entry) :
    entry.place ≠ split '/' entry.mount.mountPath := by
  obtain ⟨file, hfile, -⟩ := h.normalized entry hentry
  obtain ⟨hnames, -⟩ := normalizedFilePath_ok hfile
  intro hplace
  rw [MountedFile.place, List.append_right_eq_self, List.map_eq_nil_iff] at hplace
  exact hnames hplace

end Materialized

/-- **One file for each entry.** The tree of a materialization has one file for each source file of a
mounted Source Space, with its content, strictly below its own mount and below no other, exactly
when no two paths of a visible Source Space are spellings of one path. -/
theorem one_file_per_entry_iff (hboundary : SolidusBoundary text) {project : Project}
    {input : CreateWorkspaceInput} {mounts : List WorkspaceMount} {tree : FileTree}
    (hmade : materializeTree text project input = .ok (mounts, tree)) :
    OneFilePerEntry input.sources mounts tree ↔
      ∀ source ∈ input.sources,
        source.sourceSpaceId ∈ input.view.visibleSourceSpaceIds.map trim → OneSpelling source := by
  have h := materializeTree_ok hmade
  constructor
  · intro hone source hsource hvisible path hpath path' hpath' hsame
    obtain ⟨mount, hmount, hid⟩ := (h.visible _).mpr hvisible
    obtain ⟨content, hget⟩ := OrderedMap.mem_keys_iff.mp hpath
    obtain ⟨content', hget'⟩ := OrderedMap.mem_keys_iff.mp hpath'
    have hentry : IsEntry input.sources mounts ⟨mount, path, content⟩ :=
      ⟨hmount, source, hsource, hid.symm, hget⟩
    have hentry' : IsEntry input.sources mounts ⟨mount, path', content'⟩ :=
      ⟨hmount, source, hsource, hid.symm, hget'⟩
    have hnames := (normalizedFilePath_eq_iff (h.normalized _ hentry)
      (h.normalized _ hentry')).mp hsame
    have hplace : MountedFile.place ⟨mount, path, content⟩ =
        MountedFile.place ⟨mount, path', content'⟩ := by
      rw [MountedFile.place, MountedFile.place, hnames]
    exact congrArg MountedFile.sourcePath (hone.distinct _ _ hentry hentry' hplace)
  · intro hspelling
    have hdistinct : ∀ entry entry', IsEntry input.sources mounts entry →
        IsEntry input.sources mounts entry' → entry.place = entry'.place → entry = entry' := by
      intro entry entry' hentry hentry' hplace
      have hmount : entry.mount = entry'.mount := h.apart hboundary hentry' hentry.mounted
        (hplace ▸ entry.place_isPrefix)
      obtain ⟨source, hsource, hid, hget⟩ := hentry.filed
      obtain ⟨source', hsource', hid', hget'⟩ := hentry'.filed
      obtain rfl := h.oneSource source hsource source' hsource' (by rw [hid, hid', hmount])
      have hvisible := (h.visible _).mp ⟨_, hentry.mounted, hid.symm⟩
      have hpath := hspelling source hsource hvisible _ (OrderedMap.mem_keys_of_get? hget) _
        (OrderedMap.mem_keys_of_get? hget') ((normalizedFilePath_eq_iff (h.normalized _ hentry)
          (h.normalized _ hentry')).mpr (MountedFile.place_inj hmount hplace))
      rw [hpath, hget'] at hget
      obtain ⟨mount, path, content⟩ := entry
      obtain ⟨mount', path', content'⟩ := entry'
      cases hmount
      cases hpath
      cases hget
      rfl
    refine ⟨fun entry hentry => ?_, fun path hpath => ?_, hdistinct,
      fun entry hentry => ⟨entry.place_isPrefix, h.place_ne hentry⟩,
      fun entry hentry mount hmount => h.apart hboundary hentry hmount⟩
    · obtain ⟨content, hget⟩ := OrderedMap.mem_keys_iff.mp (h.filed entry hentry)
      obtain ⟨entry', hentry', hplace, rfl⟩ := h.made _ _ hget
      rw [hget, hdistinct entry entry' hentry hentry' hplace]
    · obtain ⟨content, hget⟩ := OrderedMap.mem_keys_iff.mp hpath
      obtain ⟨entry, hentry, hplace, -⟩ := h.made _ _ hget
      exact ⟨entry, hentry, hplace⟩

/-! ## Two spellings of one path -/

namespace Sample

theorem mountText_boundary : SolidusBoundary Kernel.Sample.mountText where
  nfkc left right := by
    rw [← String.toList_inj]
    simp [Kernel.Sample.mountText, Kernel.Sample.compatible]
  toLowerCase _ _ := rfl

def treeProject : Project := ⟨"project", ["docs", "web"]⟩

/-- A View of two Source Spaces, of which one has the files. -/
def treeInput (files : List (String × String)) : CreateWorkspaceInput where
  view := {
    id := "view"
    projectId := "project"
    projectRevisionId := "project-revision"
    visibleSourceSpaceIds := ["docs", "web"]
    disclosedSourceSpaceSnapshots := .ofList [("docs", "docs-1"), ("web", "web-1")] }
  sources := [
    ⟨"docs", "docs-1", .ofList [("index.md", "# Docs")]⟩,
    ⟨"web", "web-1", .ofList files⟩]
  mounts := [⟨"docs", "docs"⟩, ⟨"web", "apps/web"⟩]
  directory := "/workspace"

def treeMounts : List WorkspaceMount :=
  [⟨"docs", "docs-1", "docs"⟩, ⟨"web", "web-1", "apps/web"⟩]

def treeDirectories : List Path :=
  [[], [], ["docs"]] ++ [[], ["apps"], ["apps", "web"]] ++
    [[], ["apps"], ["apps", "web"], ["apps", "web", "src"]]

end Sample

open Sample in
/-- Files whose paths have different names are all in the tree. -/
theorem one_file_per_entry_apart :
    OneFilePerEntry (treeInput [("a.txt", "1"), ("src\\b.txt", "2")]).sources treeMounts
      ⟨.ofList [(["docs", "index.md"], "# Docs"), (["apps", "web", "a.txt"], "1"),
        (["apps", "web", "src", "b.txt"], "2")], treeDirectories⟩ :=
  (@one_file_per_entry_iff _ mountText_boundary treeProject
    (treeInput [("a.txt", "1"), ("src\\b.txt", "2")]) _ _ (by decide +kernel)).mpr
    (by unfold OneSpelling; decide +kernel)

open Sample in
/-- Two spellings of one path: the later file is written over the earlier one. -/
theorem one_file_per_spelling : ∃ mounts tree,
    materializeTree Kernel.Sample.mountText treeProject
      (treeInput [("a.txt", "1"), ("./a.txt", "2")]) = .ok (mounts, tree) ∧
    tree.files.get? ["apps", "web", "a.txt"] = some "2" ∧
    ¬ OneFilePerEntry (treeInput [("a.txt", "1"), ("./a.txt", "2")]).sources mounts tree := by
  refine ⟨treeMounts, ⟨.ofList [(["docs", "index.md"], "# Docs"), (["apps", "web", "a.txt"], "2")],
    [[], [], ["docs"]] ++ [[], ["apps"], ["apps", "web"]] ++ [[], ["apps"], ["apps", "web"]]⟩,
    by decide +kernel, by decide +kernel, fun h => ?_⟩
  have hwritten := h.written ⟨⟨"web", "web-1", "apps/web"⟩, "a.txt", "1"⟩
    ⟨by decide +kernel, _, List.mem_cons_of_mem _ (List.mem_cons_self ..), rfl, by decide +kernel⟩
  have hplace : MountedFile.place ⟨⟨"web", "web-1", "apps/web"⟩, "a.txt", "1"⟩ =
      ["apps", "web", "a.txt"] := by decide +kernel
  rw [hplace] at hwritten
  exact absurd hwritten (by decide +kernel)

end Anyam.ChangeControl
