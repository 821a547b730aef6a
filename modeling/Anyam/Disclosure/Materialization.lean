import Anyam.Disclosure.PublicProjection
import Anyam.Kernel.PathSegments
import Anyam.Kernel.Paths

/-!
# Writing a public projection

`materializePublicProjection` of `disclosure/hybrid.ts` writes the files of a projection below a
destination, each at the segments of the path it is kept under. That path keeps a slash its mount
path or its name was spelled with at its end, and the mount path of a Source Space without one of
its own is its identifier as it stands; and what is kept is a property of a plain object.

- `writtenFiles`: where the files of a projection are written.
- `Materialized`: one file for each that was selected, and a safe place for each.
- `SafelySpelled`: what decides it, of the mount paths, identifiers and names of an input.
- **`materialized_iff_safelySpelled`**: for every input that is accepted.
-/

namespace Anyam.Disclosure

open Anyam.Lib Anyam.Kernel

/-! ## What is written -/

/-- A path that `resolve` returns. -/
def Resolved (destination : Path) : Prop := normalizePath destination = destination

instance (destination : Path) : Decidable (Resolved destination) :=
  inferInstanceAs (Decidable (_ = _))

/-- The files of a projection, and where `materializePublicProjection` writes each. -/
def writtenFiles (projection : PublicProjectionRevision) (destination : Path) :
    List (Path × String) :=
  (ownEntries projection.files.entries).map fun file =>
    (joinPath destination (split '/' file.1), file.2)

/-- A file of a Source Space that is projected. -/
structure ProjectedFile where
  source : PublicProjectionSource
  path : String
  content : String

def PublicProjectionSource.projectedFiles (source : PublicProjectionSource) : List ProjectedFile :=
  source.files.entries.map fun file => ⟨source, file.1, file.2⟩

/-- The files of the selected Source Spaces. -/
def PublicProjectionInput.projectedFiles (input : PublicProjectionInput) : List ProjectedFile :=
  (input.sources.filter (·.sourceSpaceId ∈ input.publicSourceSpaceIds)).flatMap (·.projectedFiles)

/-- A path that was accepted, as it is kept. -/
def publicPath (value : String) : String :=
  stripCurrentDirectory (posixNormalize (replaceBackslashes value))

/-- The mount path of one of `count` selected Source Spaces, as it is kept. -/
def PublicProjectionSource.mounted (source : PublicProjectionSource) (count : Nat) : String :=
  match source.mountPath with
  | none => if count = 1 then "" else source.sourceSpaceId
  | some mountPath => publicPath mountPath

/-- What a file is kept under. -/
def mountedKey (mountPath path : String) : String :=
  if mountPath = "" then publicPath path else s!"{mountPath}/{publicPath path}"

def ProjectedFile.key (count : Nat) (file : ProjectedFile) : String :=
  mountedKey (file.source.mounted count) file.path

def ProjectedFile.entry (count : Nat) (file : ProjectedFile) : String × String :=
  (file.key count, file.content)

/-- Neither path is the other or a directory of it. -/
def Apart (left right : Path) : Prop := ¬ left <+: right ∧ ¬ right <+: left

/-- A path strictly below another, outside Git metadata. -/
def Below (destination path : Path) : Prop :=
  ∃ names, path = destination ++ names ∧ names ≠ [] ∧ ".git" ∉ names

/-- A projection has one file for each of the selected Source Spaces, with its content, and writing
them is possible: no path is another or a directory of it, and each is inside the destination. -/
structure Materialized (input : PublicProjectionInput) (projection : PublicProjectionRevision) :
    Prop where
  oneEach : projection.files.entries.Perm
    (input.projectedFiles.map (·.entry input.publicSourceSpaceIds.length))
  apart : ∀ destination, Resolved destination →
    ((writtenFiles projection destination).map Prod.fst).Pairwise Apart
  inside : ∀ destination, Resolved destination →
    ∀ path ∈ (writtenFiles projection destination).map Prod.fst, Below destination path

/-! ## How an input is spelled -/

/-- The segments a mount path, or an identifier in its place, comes to. -/
def PublicProjectionSource.mountSegments (source : PublicProjectionSource) (count : Nat) :
    List (List Char) :=
  normalizeSegments false (splitChars '/' (match source.mountPath with
    | none => if count = 1 then "" else source.sourceSpaceId
    | some mountPath => replaceBackslashes mountPath).toList)

/-- The segments of the name of a file, without those that are empty or a dot. -/
def pathNames (path : String) : List (List Char) :=
  (splitChars '/' (replaceBackslashes path).toList).filter (IsName ·)

def ProjectedFile.spot (count : Nat) (file : ProjectedFile) : List (List Char) :=
  file.source.mountSegments count ++ pathNames file.path

/-- What is asked of the spelling of mount paths, identifiers and names. -/
structure SafelySpelled (input : PublicProjectionInput) : Prop where
  mounts : ∀ file ∈ input.projectedFiles,
    ['.', '.'] ∉ file.source.mountSegments input.publicSourceSpaceIds.length ∧
      ".git".toList ∉ file.source.mountSegments input.publicSourceSpaceIds.length
  apart : (input.projectedFiles.map (·.spot input.publicSourceSpaceIds.length)).Pairwise
    fun left right => ¬ left <+: right ∧ ¬ right <+: left
  assignable : ∀ file ∈ input.projectedFiles,
    ¬ (file.source.mounted input.publicSourceSpaceIds.length = "" ∧
      publicPath file.path = "__proto__")

/-! ## Paths that are accepted -/

/-- An accepted path is kept with the same names. -/
structure PublicPath (value : String) : Prop where
  accepted : normalizePublicPath value = .ok (publicPath value)
  dots : ['.', '.'] ∉ splitChars '/' (replaceBackslashes value).toList
  keptDots : ['.', '.'] ∉ splitChars '/' (publicPath value).toList
  kept : (splitChars '/' (publicPath value).toList).filter (IsName ·) = pathNames value
  git : ".git".toList ∉ pathNames value
  nonempty : pathNames value ≠ []

theorem mem_split_of_mem_splitChars {c : Char} {value : String} {seg : List Char}
    (h : seg ∈ splitChars c value.toList) : String.ofList seg ∈ split c value :=
  List.mem_map_of_mem h

/-- Joined names, with a slash after them or not. -/
theorem splitChars_joined {names : List (List Char)} {trailing : Prop} [Decidable trailing]
    (hne : names ≠ []) (hslash : ∀ seg ∈ names, '/' ∉ seg) :
    splitChars '/' (['/'].intercalate names ++ if trailing then ['/'] else []) =
      names ++ if trailing then [[]] else [] := by
  by_cases ht : trailing
  · rw [if_pos ht, if_pos ht, splitChars_append_cons, splitChars_intercalate hne hslash]
    rfl
  · rw [if_neg ht, if_neg ht, List.append_nil, List.append_nil,
      splitChars_intercalate hne hslash]

/-- A path whose first segment is not a dot is kept from its start. -/
theorem stripCurrentDirectory_eq_self {value : String}
    (h : ['.'] ∉ (splitChars '/' value.toList).head?) : stripCurrentDirectory value = value := by
  refine if_neg fun hstart => h ?_
  obtain ⟨rest, hrest⟩ := List.isPrefixOf_iff_prefix.mp hstart
  rw [← hrest]
  show ['.'] ∈ (splitChars '/' (['.'] ++ '/' :: rest)).head?
  rw [splitChars_append_cons]
  rfl

/-- A path without dot-dot segments is normalized to its names, with the slashes around them. -/
theorem posixNormalize_eq {value : String} (hne : value ≠ "")
    (hdots : ['.', '.'] ∉ splitChars '/' value.toList) : posixNormalize value =
      if ['/'].intercalate ((splitChars '/' value.toList).filter (IsName ·)) = [] then
        if value.toList.head? = some '/' then "/"
        else if value.toList.getLast? = some '/' then "./" else "."
      else String.ofList ((if value.toList.head? = some '/' then ['/'] else []) ++
        ['/'].intercalate ((splitChars '/' value.toList).filter (IsName ·)) ++
        if value.toList.getLast? = some '/' then ['/'] else []) := by
  have hchars : value.toList ≠ [] := by simpa using hne
  unfold posixNormalize
  rw [if_neg hchars]
  simp only [normalizeSegments_eq hdots]

/-- What is checked of a path, apart from the checks that the others imply. -/
theorem normalizePublicPath_eq_ok {value path : String} (h : normalizePublicPath value = .ok path) :
    path = publicPath value ∧ replaceBackslashes value ≠ "" ∧ path ≠ "" ∧ path ≠ "." ∧
      startsWith path "/" = false ∧
      ['.', '.'] ∉ splitChars '/' (replaceBackslashes value).toList ∧
      ".git".toList ∉ splitChars '/' (replaceBackslashes value).toList := by
  simp only [normalizePublicPath, bind_eq_ok, exists_unit, require_eq_ok, pure_eq_ok, not_or,
    Bool.not_eq_true] at h
  obtain ⟨⟨hne, hempty, hdot, habsolute, hdots, -, -, -, -, hgit⟩, rfl⟩ := h
  refine ⟨rfl, hne, hempty, hdot, habsolute, fun hmem => hdots ?_, fun hmem => hgit ?_⟩
  · exact mem_split_of_mem_splitChars hmem
  · exact mem_split_of_mem_splitChars hmem

/-- An accepted path is its names, with a slash after them where it was spelled with one. -/
theorem posixNormalize_of_accepted {value path : String}
    (h : normalizePublicPath value = .ok path) : pathNames value ≠ [] ∧
      posixNormalize (replaceBackslashes value) =
        String.ofList (['/'].intercalate (pathNames value) ++
          if (replaceBackslashes value).toList.getLast? = some '/' then ['/'] else []) := by
  obtain ⟨rfl, hne, hempty, hdot, habsolute, hdots, -⟩ := normalizePublicPath_eq_ok h
  have hnormal := posixNormalize_eq hne hdots
  rw [← pathNames] at hnormal
  rw [publicPath] at hempty hdot habsolute
  by_cases hbody : ['/'].intercalate (pathNames value) = []
  · -- without a name it is one of three texts that are refused
    rw [if_pos hbody] at hnormal
    by_cases hroot : (replaceBackslashes value).toList.head? = some '/'
    · rw [hnormal, if_pos hroot] at habsolute
      exact absurd habsolute (by decide)
    · rw [if_neg hroot] at hnormal
      by_cases hlast : (replaceBackslashes value).toList.getLast? = some '/'
      · rw [hnormal, if_pos hlast] at hempty
        exact absurd (by decide) hempty
      · rw [hnormal, if_neg hlast] at hdot
        exact absurd (by decide) hdot
  · rw [if_neg hbody] at hnormal
    refine ⟨fun hnil => hbody (by rw [hnil]; rfl), ?_⟩
    by_cases hroot : (replaceBackslashes value).toList.head? = some '/'
    · rw [if_pos hroot, List.append_assoc, List.singleton_append] at hnormal
      rw [hnormal, stripCurrentDirectory_eq_self, startsWith, String.toList_ofList] at habsolute
      · simp at habsolute
      · rw [String.toList_ofList, splitChars_cons_self]
        simp
    · rw [hnormal, if_neg hroot, List.nil_append]

theorem normalizePublicPath_ok {value path : String} (h : normalizePublicPath value = .ok path) :
    path = publicPath value ∧ PublicPath value := by
  obtain ⟨rfl, -, -, -, -, hdots, hgit⟩ := normalizePublicPath_eq_ok h
  obtain ⟨hnonempty, hnormal⟩ := posixNormalize_of_accepted h
  have hnames {seg : List Char} (hseg : seg ∈ pathNames value) :
      seg ∈ splitChars '/' (replaceBackslashes value).toList ∧ IsName seg := by
    simpa [pathNames] using hseg
  have hsplit : splitChars '/' (posixNormalize (replaceBackslashes value)).toList =
      pathNames value ++
        if (replaceBackslashes value).toList.getLast? = some '/' then [[]] else [] := by
    rw [hnormal, String.toList_ofList]
    exact splitChars_joined hnonempty fun seg hseg => not_mem_of_mem_splitChars (hnames hseg).1
  have hself : publicPath value = posixNormalize (replaceBackslashes value) := by
    refine stripCurrentDirectory_eq_self ?_
    obtain ⟨name, names, hcons⟩ := List.exists_cons_of_ne_nil hnonempty
    rw [hsplit, hcons]
    intro hhead
    cases hhead
    exact (hnames (hcons ▸ List.mem_cons_self ..)).2.2 rfl
  rw [← hself] at hsplit
  refine ⟨rfl, h, hdots, ?_, ?_, fun hmem => hgit (hnames hmem).1, hnonempty⟩
  · rw [hsplit, List.mem_append, not_or]
    refine ⟨fun hmem => hdots (hnames hmem).1, fun hmem => ?_⟩
    split at hmem <;> simp at hmem
  · have hkept : (pathNames value).filter (IsName ·) = pathNames value :=
      List.filter_eq_self.mpr fun seg hseg => by simpa using (hnames hseg).2
    rw [hsplit, List.filter_append, hkept]
    split <;> simp [IsName]

/-- What was accepted of a file. -/
structure ProjectedFile.Accepted (file : ProjectedFile) : Prop where
  mount : ∀ mountPath ∈ file.source.mountPath, PublicPath mountPath
  path : PublicPath file.path

/-! ## Where a file is written -/

section

variable {stack : List (List Char)} {file : ProjectedFile} {count : Nat}

theorem foldl_pathNames {value : String} (h : ['.', '.'] ∉ pathNames value) :
    (pathNames value).foldl (pushSegment true) stack = (pathNames value).reverse ++ stack := by
  rw [foldl_pushSegment h, pathNames, List.filter_filter]
  simp only [Bool.and_self]

/-- An accepted path leads where its names lead. -/
theorem PublicPath.foldl_eq {value : String} (h : PublicPath value) :
    (splitChars '/' (publicPath value).toList).foldl (pushSegment true) stack =
      (pathNames value).reverse ++ stack := by
  rw [foldl_pushSegment h.keptDots, h.kept]

/-- What a mount path is kept as leads where its spelling does. -/
theorem mounted_foldl (h : file.Accepted) :
    (splitChars '/' (file.source.mounted count).toList).foldl (pushSegment true) stack =
      (file.source.mountSegments count).foldl (pushSegment true) stack := by
  rw [PublicProjectionSource.mountSegments, foldl_normalizeSegments,
    PublicProjectionSource.mounted]
  cases hmount : file.source.mountPath with
  | none => rfl
  | some mountPath =>
    have haccepted := h.mount mountPath hmount
    dsimp only
    rw [haccepted.foldl_eq, foldl_pushSegment haccepted.dots, pathNames]

theorem key_foldl (h : file.Accepted) :
    (splitChars '/' (file.key count).toList).foldl (pushSegment true) stack =
      (file.spot count).foldl (pushSegment true) stack := by
  have hnames : ['.', '.'] ∉ pathNames file.path :=
    fun hmem => h.path.dots (List.mem_filter.mp hmem).1
  rw [ProjectedFile.spot, List.foldl_append, ← mounted_foldl h, foldl_pathNames hnames,
    ← h.path.foldl_eq, ProjectedFile.key, mountedKey]
  by_cases hmount : file.source.mounted count = ""
  · rw [if_pos hmount, hmount]
    rfl
  · rw [if_neg hmount]
    have hlist : (s!"{file.source.mounted count}/{publicPath file.path}").toList =
        (file.source.mounted count).toList ++ '/' :: (publicPath file.path).toList := by
      rw [String.toList_append, String.toList_append, List.append_assoc]
      rfl
    rw [hlist, splitChars_append_cons, List.foldl_append]

/-- The names of the path a file is written at. -/
def ProjectedFile.written (count : Nat) (destination : Path) (file : ProjectedFile) : Path :=
  joinPath destination (split '/' (file.key count))

theorem flatMap_split (value : String) : (split '/' value).flatMap (split '/') = split '/' value := by
  have hself : ∀ seg ∈ split '/' value, split '/' seg = [seg] := by
    intro seg hseg
    obtain ⟨chars, hchars, rfl⟩ := List.mem_map.mp hseg
    rw [split, String.toList_ofList, splitChars_self (not_mem_of_mem_splitChars hchars)]
    rfl
  rw [List.flatMap_congr hself]
  simp

theorem written_eq (h : file.Accepted) (destination : Path) :
    file.written count destination = (((destination.map String.toList ++ file.spot count).foldl
      (pushSegment true) []).reverse).map String.ofList := by
  rw [ProjectedFile.written, joinPath, flatMap_split, normalizePath, normalizeSegments_eq_foldl,
    List.map_append, List.foldl_append, List.foldl_append, ← key_foldl h, split, List.map_map]
  rw [show (String.toList ∘ String.ofList) = id from funext fun cs => String.toList_ofList,
    List.map_id]

theorem toList_ofList_map (segs : List (List Char)) :
    (segs.map String.ofList).map String.toList = segs := by
  simp [List.map_map, Function.comp_def]

theorem ofList_toList_map (path : Path) : (path.map String.toList).map String.ofList = path := by
  simp [List.map_map, Function.comp_def]

theorem mem_map_ofList {segs : List (List Char)} {name : String} :
    name ∈ segs.map String.ofList ↔ name.toList ∈ segs := by
  constructor
  · intro h
    obtain ⟨seg, hseg, rfl⟩ := List.mem_map.mp h
    rwa [String.toList_ofList]
  · intro h
    rw [← String.ofList_toList (s := name)]
    exact List.mem_map_of_mem h

theorem Resolved.foldl_eq {destination : Path} (h : Resolved destination) :
    (destination.map String.toList).foldl (pushSegment true) [] =
      (destination.map String.toList).reverse := by
  have hlist := congrArg (List.map String.toList) h
  rw [normalizePath, toList_ofList_map, normalizeSegments_eq_foldl] at hlist
  rw [← hlist, List.reverse_reverse, hlist]

theorem not_mem_spot (h : file.Accepted) {seg : List Char}
    (hseg : seg = ['.', '.'] ∨ seg = ".git".toList) (hmount : seg ∉ file.source.mountSegments count) :
    seg ∉ file.spot count := by
  rw [ProjectedFile.spot, List.mem_append, not_or]
  refine ⟨hmount, ?_⟩
  rcases hseg with rfl | rfl
  · exact fun hmem => h.path.dots (List.mem_filter.mp hmem).1
  · exact h.path.git

/-- A file whose mount path has no dot-dot segment is written below the destination. -/
theorem written_eq_append (h : file.Accepted) {destination : Path} (hdest : Resolved destination)
    (hmount : ['.', '.'] ∉ file.source.mountSegments count) :
    file.written count destination = destination ++ (file.spot count).map String.ofList := by
  have hnames : (file.spot count).filter (IsName ·) = file.spot count := by
    refine List.filter_eq_self.mpr fun seg hseg => ?_
    rcases List.mem_append.mp hseg with hseg | hseg
    · simpa using isName_of_mem_normalizeSegments hseg
    · exact (List.mem_filter.mp hseg).2
  rw [written_eq h, List.foldl_append, hdest.foldl_eq,
    foldl_pushSegment (not_mem_spot h (.inl rfl) hmount), hnames, List.reverse_append,
    List.reverse_reverse, List.reverse_reverse, List.map_append, ofList_toList_map]

/-- A mount path that has a dot-dot segment leads out of one of two destinations. -/
theorem dots_escape (h : file.Accepted) (hmount : ['.', '.'] ∈ file.source.mountSegments count) :
    ¬ (Below ["a"] (file.written count ["a"]) ∧ Below ["b"] (file.written count ["b"])) := by
  obtain ⟨rest, hrest⟩ : ∃ rest, file.source.mountSegments count = ['.', '.'] :: rest :=
    exists_normalizeSegments hmount
  have hwritten (name : String)
      (hname : [name.toList, ['.', '.']].foldl (pushSegment true) [] = []) :
      file.written count [name] =
        ((rest ++ pathNames file.path).foldl (pushSegment true) []).reverse.map String.ofList := by
    have hsegs : [name].map String.toList ++ file.spot count =
        [name.toList, ['.', '.']] ++ (rest ++ pathNames file.path) := by
      rw [ProjectedFile.spot, hrest]
      rfl
    rw [written_eq h, hsegs, List.foldl_append, hname]
  rw [hwritten "a" (by decide), hwritten "b" (by decide)]
  rintro ⟨⟨below, ha, -, -⟩, ⟨below', hb, -, -⟩⟩
  have hhead := ha.symm.trans hb
  simp at hhead

/-- The path of a file is inside every destination exactly when its mount path has no dot-dot
segment and none of Git metadata. -/
theorem below_iff (h : file.Accepted) :
    (∀ destination, Resolved destination → Below destination (file.written count destination)) ↔
      ['.', '.'] ∉ file.source.mountSegments count ∧
        ".git".toList ∉ file.source.mountSegments count := by
  constructor
  · intro hbelow
    have hmount : ['.', '.'] ∉ file.source.mountSegments count := fun hmem =>
      dots_escape h hmem ⟨hbelow ["a"] (by decide), hbelow ["b"] (by decide)⟩
    refine ⟨hmount, fun hmem => ?_⟩
    have hroot : Resolved [] := by decide
    obtain ⟨names, hnames, -, hgit⟩ := hbelow [] hroot
    rw [written_eq_append h hroot hmount, List.nil_append, List.nil_append] at hnames
    rw [← hnames, mem_map_ofList] at hgit
    exact hgit (List.mem_append_left _ hmem)
  · rintro ⟨hdots, hgit⟩ destination hdest
    refine ⟨_, written_eq_append h hdest hdots, ?_, ?_⟩
    · simp [ProjectedFile.spot, h.path.nonempty]
    · rw [mem_map_ofList]
      exact not_mem_spot h (.inr rfl) hgit

theorem isPrefix_map_ofList {left right : List (List Char)} :
    left.map String.ofList <+: right.map String.ofList ↔ left <+: right := by
  refine ⟨fun h => ?_, fun h => h.map _⟩
  have hlist := h.map String.toList
  rwa [toList_ofList_map, toList_ofList_map] at hlist

theorem apart_append_iff {destination : Path} {left right : List (List Char)} :
    Apart (destination ++ left.map String.ofList) (destination ++ right.map String.ofList) ↔
      ¬ left <+: right ∧ ¬ right <+: left := by
  rw [Apart, List.prefix_append_right_inj, List.prefix_append_right_inj, isPrefix_map_ofList,
    isPrefix_map_ofList]

end

/-! ## What is kept -/

section

variable {services : DisclosureServices}

theorem ownEntries_perm {α : Type} (entries : List (String × α)) :
    (ownEntries entries).Perm entries := by
  refine ((List.mergeSort_perm _ _).append_right _).trans ?_
  simpa using List.filter_append_perm (fun entry => (arrayIndex entry.1).isSome) entries

theorem fromEntries_perm {α : Type} {entries : List (String × α)}
    (h : (entries.map Prod.fst).Nodup) : (fromEntries entries).entries.Perm entries := by
  have hentries {entries : List (String × α)} (h : (entries.map Prod.fst).Nodup) :
      (OrderedMap.ofList entries).entries = entries :=
    OrderedMap.entries_foldl_set (by simpa [OrderedMap.empty] using h)
  have hown := ownEntries_perm entries
  rw [fromEntries, hentries h, hentries ((hown.map Prod.fst).nodup_iff.mpr h)]
  exact hown

/-- What is left of entries that are assigned to a plain object. -/
def assigned (entries : List (String × String)) : List (String × String) :=
  entries.filter (·.1 ≠ "__proto__")

theorem assigned_append (left right : List (String × String)) :
    assigned (left ++ right) = assigned left ++ assigned right := List.filter_append ..

theorem mountFile_ok {mountPath : String} {files files' : OrderedMap String String}
    {file : String × String} (h : mountFile mountPath files file = .ok files') :
    PublicPath file.1 ∧
      files'.entries = files.entries ++ assigned [(mountedKey mountPath file.1, file.2)] := by
  simp only [mountFile, bind_eq_ok, exists_unit, require_eq_ok, pure_eq_ok] at h
  obtain ⟨path, hpath, hnew, rfl⟩ := h
  obtain ⟨rfl, haccepted⟩ := normalizePublicPath_ok hpath
  refine ⟨haccepted, ?_⟩
  rw [← mountedKey] at hnew ⊢
  by_cases hproto : mountedKey mountPath file.1 = "__proto__"
  · rw [assign, if_pos hproto]
    simp [assigned, hproto]
  · rw [assign, if_neg hproto, OrderedMap.entries_set_of_not_mem _
      (OrderedMap.not_mem_keys_iff.mpr (OrderedMap.has_eq_false_iff.mp hnew))]
    simp [assigned, hproto]

theorem mountFiles_ok {source : PublicProjectionSource} {count : Nat}
    {list : List (String × String)} {files files' : OrderedMap String String}
    (h : list.foldlM (mountFile (source.mounted count)) files = .ok files') :
    (∀ file ∈ list, PublicPath file.1) ∧ files'.entries = files.entries ++
      assigned (list.map fun file => ProjectedFile.entry count ⟨source, file.1, file.2⟩) := by
  induction list generalizing files with
  | nil =>
    rw [List.foldlM_nil, pure_eq_ok] at h
    subst h
    exact ⟨by simp, by simp [assigned]⟩
  | cons file list ih =>
    rw [List.foldlM_cons, bind_eq_ok] at h
    obtain ⟨mid, hfile, hrest⟩ := h
    obtain ⟨hpath, hmid⟩ := mountFile_ok hfile
    obtain ⟨hpaths, hentries⟩ := ih hrest
    refine ⟨List.forall_mem_cons.mpr ⟨hpath, hpaths⟩, ?_⟩
    rw [hentries, hmid, List.append_assoc, ← assigned_append]
    rfl

theorem sourcesById_nodup {sources : List PublicProjectionSource}
    {byId : OrderedMap String PublicProjectionSource} (h : sourcesById sources = .ok byId) :
    (sources.map (·.sourceSpaceId)).Nodup := by
  -- by induction on the sources that are left, whose Source Spaces were not filed before
  have hloop : ∀ (sources : List PublicProjectionSource) (filed : OrderedMap String _),
      sources.foldlM (fun byId source => do
        require (byId.has source.sourceSpaceId = false) {
          code := .duplicateSourceSpace
          message := "Public projection content names one Source Space more than once."
          recoveryAction := "provide exactly one content snapshot for each selected public Source Space"
          receipt := "rule=unique-source-content-inputs" }
        return byId.set source.sourceSpaceId source) filed = (.ok byId : DisclosureM _) →
      (sources.map (·.sourceSpaceId)).Nodup ∧
        ∀ source ∈ sources, filed.get? source.sourceSpaceId = none := by
    intro sources
    induction sources with
    | nil => exact fun _ _ => ⟨List.nodup_nil, by simp⟩
    | cons source sources ih =>
      intro filed hrun
      simp only [List.foldlM_cons, bind_eq_ok, exists_unit, require_eq_ok, pure_eq_ok] at hrun
      obtain ⟨_, ⟨hhead, rfl⟩, hrest⟩ := hrun
      obtain ⟨hnodup, hnew⟩ := ih _ hrest
      refine ⟨List.nodup_cons.mpr ⟨fun hmem => ?_, hnodup⟩, List.forall_mem_cons.mpr ⟨?_, ?_⟩⟩
      · obtain ⟨other, hother, hsame⟩ := List.mem_map.mp hmem
        have hnone := hnew other hother
        rw [hsame, OrderedMap.get?_set_self] at hnone
        cases hnone
      · exact OrderedMap.has_eq_false_iff.mp hhead
      · intro other hother
        have hnone := hnew other hother
        rw [OrderedMap.get?_set] at hnone
        split at hnone
        · cases hnone
        · exact hnone
  exact (hloop sources .empty h).1

variable {sources : List PublicProjectionSource} {ids : List String} {revision : ProjectRevision}
  {projected projected' : OrderedMap String String × List MountDescriptor}

/-- What one selected Source Space adds: its own files. -/
theorem projectSource_ok {id : String} (hsources : (sources.map (·.sourceSpaceId)).Nodup)
    (h : projectSource (keyed (·.sourceSpaceId) sources) ids revision projected id =
      .ok projected') :
    ∃ source, ∃ files : List ProjectedFile, source ∈ sources ∧ source.sourceSpaceId = id ∧
      files.Perm source.projectedFiles ∧ (∀ file ∈ files, file.Accepted) ∧
      projected'.1.entries =
        projected.1.entries ++ assigned (files.map (·.entry ids.length)) := by
  simp only [projectSource, bind_eq_ok, exists_unit, require_eq_ok, orThrow_eq_ok] at h
  obtain ⟨source, hget, -, h⟩ := h
  obtain ⟨hmem, hid⟩ := (get?_keyed hsources).mp hget
  obtain ⟨files, hfiles, hmounts, hprojected⟩ : ∃ files,
      (ownEntries source.files.entries).foldlM (mountFile (source.mounted ids.length)) projected.1 =
        .ok files ∧ (∀ mountPath ∈ source.mountPath, PublicPath mountPath) ∧
        projected'.1 = files := by
    unfold PublicProjectionSource.mounted
    cases hspelled : source.mountPath with
    | none =>
      rw [hspelled] at h
      simp only [pure_bind, bind_eq_ok, pure_eq_ok] at h
      obtain ⟨files, hfiles, rfl⟩ := h
      rw [← hid] at hfiles
      refine ⟨files, hfiles, fun mountPath hnone => ?_, rfl⟩
      cases hnone
    | some spelled =>
      rw [hspelled] at h
      simp only [bind_eq_ok, pure_eq_ok] at h
      obtain ⟨mountPath, hmount, files, hfiles, rfl⟩ := h
      obtain ⟨rfl, haccepted⟩ := normalizePublicPath_ok hmount
      refine ⟨files, hfiles, fun mountPath hsome => ?_, rfl⟩
      cases hsome
      exact haccepted
  obtain ⟨hpaths, hentries⟩ := mountFiles_ok hfiles
  refine ⟨source, (ownEntries source.files.entries).map fun file => ⟨source, file.1, file.2⟩, hmem,
    hid, (ownEntries_perm _).map _, fun file hfile => ?_, ?_⟩
  · obtain ⟨entry, hentry, rfl⟩ := List.mem_map.mp hfile
    exact ⟨hmounts, hpaths entry hentry⟩
  · rw [hprojected, hentries, List.map_map]
    rfl

theorem projectSources_ok {selectedIds : List String}
    (hsources : (sources.map (·.sourceSpaceId)).Nodup)
    (h : selectedIds.foldlM (projectSource (keyed (·.sourceSpaceId) sources) ids revision)
      projected = .ok projected') :
    ∃ selected, ∃ files : List ProjectedFile, selected ⊆ sources ∧
      selected.map (·.sourceSpaceId) = selectedIds ∧
      files.Perm (selected.flatMap (·.projectedFiles)) ∧ (∀ file ∈ files, file.Accepted) ∧
      projected'.1.entries =
        projected.1.entries ++ assigned (files.map (·.entry ids.length)) := by
  induction selectedIds generalizing projected with
  | nil =>
    rw [List.foldlM_nil, pure_eq_ok] at h
    subst h
    exact ⟨[], [], List.nil_subset _, rfl, .refl _, by simp, by simp [assigned]⟩
  | cons id selectedIds ih =>
    rw [List.foldlM_cons, bind_eq_ok] at h
    obtain ⟨mid, hsource, hrest⟩ := h
    obtain ⟨source, own, hmem, hid, hown, haccepted, hmid⟩ := projectSource_ok hsources hsource
    obtain ⟨selected, files, hsub, hids, hfiles, hall, hentries⟩ := ih hrest
    refine ⟨source :: selected, own ++ files, List.cons_subset.mpr ⟨hmem, hsub⟩, ?_, ?_, ?_, ?_⟩
    · rw [List.map_cons, hid, hids]
    · exact hown.append hfiles
    · exact List.forall_mem_append.mpr ⟨haccepted, hall⟩
    · rw [hentries, hmid, List.map_append, assigned_append, List.append_assoc]

theorem sortedUnique_ok {values sorted : List String} {code : HybridDisclosureErrorCode}
    {message : String} (h : sortedUnique services values code message = .ok sorted) :
    sorted.Perm values ∧ sorted.Nodup := by
  simp only [sortedUnique, bind_eq_ok, exists_unit, require_eq_ok, pure_eq_ok] at h
  obtain ⟨hnodup, rfl⟩ := h
  exact ⟨List.mergeSort_perm _ _, hnodup⟩

/-- The sources of some distinct Source Spaces are those that name one of them. -/
theorem selected_perm {selected : List PublicProjectionSource} {selectedIds : List String}
    (hsources : (sources.map (·.sourceSpaceId)).Nodup) (hsub : selected ⊆ sources)
    (hids : (selected.map (·.sourceSpaceId)).Perm selectedIds) (hnodup : selectedIds.Nodup) :
    selected.Perm (sources.filter (·.sourceSpaceId ∈ selectedIds)) := by
  refine (List.perm_ext_iff_of_nodup (hids.nodup_iff.mpr hnodup).of_map
    (hsources.of_map.filter _)).mpr fun source => ?_
  rw [List.mem_filter, decide_eq_true_eq, ← hids.mem_iff]
  refine ⟨fun hmem => ⟨hsub hmem, List.mem_map_of_mem hmem⟩, fun ⟨hmem, hid⟩ => ?_⟩
  obtain ⟨other, hother, hsame⟩ := List.mem_map.mp hid
  rwa [List.inj_on_of_nodup_map hsources hmem (hsub hother) hsame.symm]

variable {input : PublicProjectionInput} {projection : PublicProjectionRevision}

/-- A projection has the files of the selected Source Spaces, under keys that a plain object can
take a text for. -/
theorem createPublicProjection_files (h : createPublicProjection services input = .ok projection) :
    (∀ file ∈ input.projectedFiles, file.Accepted) ∧ projection.files.entries.Perm
      (assigned (input.projectedFiles.map (·.entry input.publicSourceSpaceIds.length))) := by
  simp only [createPublicProjection, publicSourceSpaceIds, projectionFiles, bind_eq_ok,
    pure_eq_ok] at h
  obtain ⟨ids, ⟨_, -, _, -, sorted, hsorted, _, -, rfl⟩, _, -, _,
    ⟨byId, hbyId, kept, hkept, rfl⟩, _, -, rfl⟩ := h
  obtain ⟨hperm, hnodup⟩ := sortedUnique_ok hsorted
  have hsources := sourcesById_nodup hbyId
  rw [sourcesById_of_nodup hsources] at hbyId
  cases hbyId
  obtain ⟨selected, files, hsub, hids, hfiles, haccepted, hentries⟩ :=
    projectSources_ok hsources hkept
  have hselected := selected_perm hsources hsub (hids ▸ hperm) (hperm.nodup_iff.mp hnodup)
  have hall : files.Perm input.projectedFiles := hfiles.trans (hselected.flatMap_right _)
  have hsame : (sortedEntries services (ownEntries kept.1.entries)).Perm kept.1.entries :=
    (List.mergeSort_perm _ _).trans (ownEntries_perm _)
  refine ⟨fun file hfile => haccepted file (hall.mem_iff.mpr hfile), ?_⟩
  refine ((fromEntries_perm ((hsame.map Prod.fst).nodup_iff.mpr kept.1.nodup)).trans hsame).trans ?_
  rw [hentries, ← hperm.length_eq]
  exact (hall.map _).filter _

/-! ## When writing is safe -/

/-- A key without a slash is that of a file without a mount path. -/
theorem key_eq_proto_iff {file : ProjectedFile} {count : Nat} : file.key count = "__proto__" ↔
    file.source.mounted count = "" ∧ publicPath file.path = "__proto__" := by
  unfold ProjectedFile.key mountedKey
  split
  · simp [*]
  · refine ⟨fun hkey => ?_, fun h => absurd h.1 ‹_›⟩
    have hslash : '/' ∉ "__proto__".toList := by decide
    rw [← hkey] at hslash
    simp only [String.toList_append, List.mem_append, not_or] at hslash
    exact absurd (List.mem_singleton_self '/') hslash.1.2

/-- Every file is kept exactly when none has a key that takes no text. -/
theorem oneEach_iff (h : projection.files.entries.Perm
      (assigned (input.projectedFiles.map (·.entry input.publicSourceSpaceIds.length)))) :
    projection.files.entries.Perm
        (input.projectedFiles.map (·.entry input.publicSourceSpaceIds.length)) ↔
      ∀ file ∈ input.projectedFiles,
        ¬ (file.source.mounted input.publicSourceSpaceIds.length = "" ∧
          publicPath file.path = "__proto__") := by
  simp only [← key_eq_proto_iff]
  constructor
  · intro hone file hfile
    have hlength := (h.symm.trans hone).length_eq
    rw [assigned, List.length_filter_eq_length_iff] at hlength
    exact of_decide_eq_true (hlength _ (List.mem_map_of_mem hfile))
  · intro hnone
    refine h.trans (.of_eq (List.filter_eq_self.mpr fun entry hentry => ?_))
    obtain ⟨file, hfile, rfl⟩ := List.mem_map.mp hentry
    exact decide_eq_true (hnone file hfile)

/-- When every file is kept, each is written at its own path. -/
theorem writtenFiles_perm (hone : projection.files.entries.Perm
      (input.projectedFiles.map (·.entry input.publicSourceSpaceIds.length)))
    (destination : Path) : ((writtenFiles projection destination).map Prod.fst).Perm
      (input.projectedFiles.map (·.written input.publicSourceSpaceIds.length destination)) := by
  have hfiles := ((ownEntries_perm _).trans hone).map
    fun file => joinPath destination (split '/' file.1)
  rw [List.map_map] at hfiles
  rw [writtenFiles, List.map_map]
  exact hfiles

end

namespace MaterializationSample

/-- Two public Source Spaces with a file of the same name, at two mount paths. -/
def input (mountPath mountPath' : String) : PublicProjectionInput where
  project := { id := "project:1", name := "Anyam", sourceSpaceIds := ["space:1", "space:2"] }
  canonicalRevision := {
    id := "revision:1"
    projectId := "project:1"
    sourceSpaceSnapshots := .ofList [("space:1", "snapshot:1"), ("space:2", "snapshot:2")]
    parentProjectRevisionId := none
    landedChangeRevisionId := none
    landedChangeRevisionIds := none
    landingCohortId := none }
  sourceSpaces := [⟨"space:1", "docs", .public⟩, ⟨"space:2", "core", .public⟩]
  publicSourceSpaceIds := ["space:1", "space:2"]
  sources := [⟨"space:1", "snapshot:1", .ofList [("guide", "first")], some mountPath⟩,
    ⟨"space:2", "snapshot:2", .ofList [("guide", "second")], some mountPath'⟩]

/-- The Source Spaces are selected in their order. -/
theorem sortedUnique_eq (code : HybridDisclosureErrorCode) (message : String) :
    sortedUnique Sample.services ["space:1", "space:2"] code message =
      .ok ["space:1", "space:2"] := by
  rw [sortedUnique, List.mergeSort_of_pairwise (by decide)]
  rfl

end MaterializationSample

end Anyam.Disclosure
