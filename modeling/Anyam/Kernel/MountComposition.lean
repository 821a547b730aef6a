import Mathlib.Data.List.Perm.Subperm
import Anyam.Kernel.PathSegments
import Anyam.Kernel.WorkspaceMounts

/-!
# What the mount validator accepts

`validateWorkspaceMounts` decides one thing: that the mounts are a bijection onto the disclosed
Source Spaces, at relative paths none of which is another or lies below it.

- `canonicalMount`: a mount as it is returned.
- `MountComposition`: the property that is decided.
- **`validateWorkspaceMounts_iff`**: the validator decides it, for a list that is not empty.
- **`revalidates_iff`**: its results are accepted again, as they are, when compatibility
  normalization makes no backslash.
-/

namespace Anyam.Kernel

open Anyam.Lib

variable (text : UnicodeText)

/-- A path as the validator reads it. -/
def canonicalPath (value : String) : String := text.nfkc (replaceBackslashes value)

def canonicalMount (mount : WorkspaceMountInput) : WorkspaceMountInput where
  sourceSpaceId := trim mount.sourceSpaceId
  mountPath := canonicalPath text mount.mountPath

/-- A relative path without empty, dot or dot-dot segments, NUL or drive prefix. -/
structure RelativePath (path : String) : Prop where
  segments : ∀ segment ∈ split '/' path, segment ≠ "" ∧ segment ≠ "." ∧ segment ≠ ".."
  nul : Char.ofNat 0 ∉ path.toList
  drive : drivePath path = false

/-- A path is another one or lies below it, in any case and compatibility form. -/
def Within (outer inner : String) : Prop :=
  split '/' (collisionKey text outer) <+: split '/' (collisionKey text inner)

/-- Mounts of different Source Spaces, neither within the other. -/
def Apart (left right : WorkspaceMountInput) : Prop :=
  left.sourceSpaceId ≠ right.sourceSpaceId ∧ ¬ Within text left.mountPath right.mountPath ∧
    ¬ Within text right.mountPath left.mountPath

/-- A bijection between the Source Spaces and mounts at separate relative paths. -/
structure MountComposition (sourceSpaceIds : List String) (mounts : List WorkspaceMountInput) :
    Prop where
  nonempty : ∀ id ∈ sourceSpaceIds, trim id ≠ ""
  distinct : (sourceSpaceIds.map trim).Nodup
  bijection : (mounts.map fun mount => trim mount.sourceSpaceId).Perm (sourceSpaceIds.map trim)
  relative : ∀ mount ∈ mounts, RelativePath (canonicalPath text mount.mountPath)
  separate : (mounts.map fun mount => canonicalPath text mount.mountPath).Pairwise fun left right =>
    ¬ Within text left right ∧ ¬ Within text right left

/-! ## Paths -/

section

variable {text}

/-- A relative path is not empty, and does not begin with a slash. -/
theorem RelativePath.head {path : String} (h : RelativePath path) :
    path ≠ "" ∧ path.toList.head? ≠ some '/' := by
  constructor
  · rintro rfl
    exact (h.segments "" (by decide)).1 rfl
  · intro hhead
    obtain ⟨rest, hrest⟩ : ∃ rest, path.toList = '/' :: rest := by
      cases hlist : path.toList with
      | nil => rw [hlist] at hhead; cases hhead
      | cons c rest =>
        rw [hlist] at hhead
        cases hhead
        exact ⟨rest, rfl⟩
    refine (h.segments "" ?_).1 rfl
    rw [split, hrest, splitChars_cons_self]
    exact List.mem_cons_self ..

theorem normalizedMountPath_eq_ok {value path : String} :
    normalizedMountPath text value = .ok path ↔
      RelativePath (canonicalPath text value) ∧ path = canonicalPath text value := by
  simp only [normalizedMountPath, bind_eq_ok, exists_unit, require_eq_ok, pure_eq_ok,
    intercalate_split, List.find?_eq_none, decide_eq_true_eq, not_or]
  constructor
  · rintro ⟨⟨-, hdrive, -, hnul, hsegments⟩, rfl⟩
    exact ⟨⟨hsegments, hnul, hdrive⟩, rfl⟩
  · rintro ⟨hpath, rfl⟩
    obtain ⟨hne, hhead⟩ := hpath.head
    exact ⟨⟨hne, hpath.drive, hhead, hpath.nul, hpath.segments⟩, rfl⟩

theorem overlaps_iff {left right : String} :
    overlaps text left right = true ↔ Within text left right ∨ Within text right left := by
  simp only [overlaps, Within, split_isPrefix_iff, Bool.or_eq_true, decide_eq_true_eq,
    List.isPrefixOf_iff_prefix, String.toList_inj]
  constructor
  · rintro ((heq | hright) | hleft)
    · exact .inl (.inl heq)
    · exact .inr (.inr hright)
    · exact .inl (.inr hleft)
  · rintro ((heq | hleft) | heq | hright)
    · exact .inl (.inl heq)
    · exact .inr hleft
    · exact .inl (.inl heq.symm)
    · exact .inl (.inr hright)

end

/-! ## The loops -/

variable {text}

theorem requiredSourceSpaceId_eq_ok {value id : String} {index : Nat} :
    requiredSourceSpaceId value index = .ok id ↔ trim value ≠ "" ∧ id = trim value := by
  simp only [requiredSourceSpaceId, bind_eq_ok, exists_unit, require_eq_ok, pure_eq_ok]
  rw [eq_comm (a := trim value)]

theorem collectSourceSpaceIds_eq_ok {values : List String} {n : Nat} {seen ids : List String}
    (hseen : seen.Nodup) :
    collectSourceSpaceIds (values.zipIdx n) seen = .ok ids ↔
      (∀ value ∈ values, trim value ≠ "") ∧ (seen ++ values.map trim).Nodup ∧
        ids = seen ++ values.map trim := by
  induction values generalizing n seen with
  | nil =>
    simp only [collectSourceSpaceIds, List.zipIdx_nil, List.foldlM_nil, pure_eq_ok, List.map_nil,
      List.append_nil, List.not_mem_nil, false_implies, implies_true, true_and]
    exact ⟨fun h => ⟨hseen, h.symm⟩, fun h => h.2.symm⟩
  | cons value values ih =>
    simp only [collectSourceSpaceIds, List.zipIdx_cons, List.foldlM_cons, bind_eq_ok, exists_unit,
      require_eq_ok, pure_eq_ok, requiredSourceSpaceId_eq_ok]
    rw [List.map_cons, List.append_cons, List.forall_mem_cons]
    constructor
    · rintro ⟨_, ⟨_, ⟨hne, rfl⟩, hnew, rfl⟩, hrest⟩
      have hnodup : (seen ++ [trim value]).Nodup :=
        List.perm_append_comm.nodup_iff.mpr (List.nodup_cons.mpr ⟨hnew, hseen⟩)
      obtain ⟨hvalues, hall, hids⟩ := (ih hnodup).mp hrest
      exact ⟨⟨hne, hvalues⟩, hall, hids⟩
    · rintro ⟨⟨hne, hvalues⟩, hall, hids⟩
      have hnodup : (seen ++ [trim value]).Nodup := (List.nodup_append.mp hall).1
      have hnew : trim value ∉ seen :=
        (List.nodup_cons.mp (List.perm_append_comm.nodup_iff.mp hnodup)).1
      exact ⟨_, ⟨_, ⟨hne, rfl⟩, hnew, rfl⟩, (ih hnodup).mpr ⟨hvalues, hall, hids⟩⟩

/-- One mount is taken when it is of a disclosed Source Space, at a relative path, apart from those
before it. -/
theorem mountStep_eq_ok {ids : List String} {mounted mounted' : List WorkspaceMountInput}
    {mount : WorkspaceMountInput} {index : Nat} :
    mountStep text ids mounted mount index = .ok mounted' ↔
      (trim mount.sourceSpaceId ≠ "" ∧ RelativePath (canonicalPath text mount.mountPath) ∧
        trim mount.sourceSpaceId ∈ ids) ∧
      (∀ prior ∈ mounted, Apart text prior (canonicalMount text mount)) ∧
      mounted' = mounted ++ [canonicalMount text mount] := by
  simp only [mountStep, bind_eq_ok, exists_unit, require_eq_ok, requiredSourceSpaceId_eq_ok,
    normalizedMountPath_eq_ok]
  constructor
  · rintro ⟨_, ⟨hne, rfl⟩, _, ⟨hpath, rfl⟩, hmem, h⟩
    cases hsource : mounted.find? fun prior => prior.sourceSpaceId = trim mount.sourceSpaceId with
    | some prior =>
      rw [hsource] at h
      cases h
    | none =>
      rw [hsource] at h
      cases hoverlap : mounted.find? fun prior =>
          overlaps text prior.mountPath (canonicalPath text mount.mountPath) with
      | some prior =>
        rw [hoverlap] at h
        cases h
      | none =>
        rw [hoverlap] at h
        refine ⟨⟨hne, hpath, hmem⟩, fun prior hprior => ⟨?_, ?_⟩, (Except.ok.inj h).symm⟩
        · simpa [canonicalMount] using List.find?_eq_none.mp hsource prior hprior
        · have hnot := List.find?_eq_none.mp hoverlap prior hprior
          rw [overlaps_iff, not_or] at hnot
          exact hnot
  · rintro ⟨⟨hne, hpath, hmem⟩, hapart, rfl⟩
    refine ⟨_, ⟨hne, rfl⟩, _, ⟨hpath, rfl⟩, hmem, ?_⟩
    have hsource : (mounted.find? fun prior =>
        prior.sourceSpaceId = trim mount.sourceSpaceId) = none :=
      List.find?_eq_none.mpr fun prior hprior => by
        simpa [canonicalMount] using (hapart prior hprior).1
    have hoverlap : (mounted.find? fun prior =>
        overlaps text prior.mountPath (canonicalPath text mount.mountPath)) = none :=
      List.find?_eq_none.mpr fun prior hprior => by
        rw [overlaps_iff, not_or]
        exact (hapart prior hprior).2
    rw [hsource, hoverlap]
    rfl

/-- All mounts are taken when each may be, and any two are apart. -/
theorem mountSteps_eq_ok {ids : List String} {mounts mounted mounted' : List WorkspaceMountInput}
    {n : Nat} (hmounted : mounted.Pairwise (Apart text)) :
    (mounts.zipIdx n).foldlM
        (fun mounted (mount, index) => mountStep text ids mounted mount index) mounted =
      .ok mounted' ↔
      (∀ mount ∈ mounts, trim mount.sourceSpaceId ≠ "" ∧
        RelativePath (canonicalPath text mount.mountPath) ∧ trim mount.sourceSpaceId ∈ ids) ∧
      (mounted ++ mounts.map (canonicalMount text)).Pairwise (Apart text) ∧
      mounted' = mounted ++ mounts.map (canonicalMount text) := by
  induction mounts generalizing n mounted with
  | nil =>
    simp only [List.zipIdx_nil, List.foldlM_nil, pure_eq_ok, List.map_nil, List.append_nil,
      List.not_mem_nil, false_implies, implies_true, true_and]
    exact ⟨fun h => ⟨hmounted, h.symm⟩, fun h => h.2.symm⟩
  | cons mount mounts ih =>
    rw [List.zipIdx_cons, List.foldlM_cons, List.map_cons,
      List.append_cons mounted (canonicalMount text mount), List.forall_mem_cons]
    constructor
    · intro h
      obtain ⟨_, hstep, hrest⟩ := bind_eq_ok.mp h
      obtain ⟨hmount, hapart, rfl⟩ := mountStep_eq_ok.mp hstep
      have hpairwise : (mounted ++ [canonicalMount text mount]).Pairwise (Apart text) := by
        refine List.pairwise_append.mpr ⟨hmounted, List.pairwise_singleton .., ?_⟩
        intro prior hprior later hlater
        rw [List.mem_singleton.mp hlater]
        exact hapart prior hprior
      obtain ⟨hmounts, hall, hresult⟩ := (ih hpairwise).mp hrest
      exact ⟨⟨hmount, hmounts⟩, hall, hresult⟩
    · rintro ⟨⟨hmount, hmounts⟩, hall, hresult⟩
      have hpairwise := (List.pairwise_append.mp hall).1
      have hapart : ∀ prior ∈ mounted, Apart text prior (canonicalMount text mount) :=
        fun prior hprior => (List.pairwise_append.mp hpairwise).2.2 prior hprior _
          (List.mem_singleton_self _)
      exact bind_eq_ok.mpr ⟨_, mountStep_eq_ok.mpr ⟨hmount, hapart, rfl⟩,
        (ih hpairwise).mpr ⟨hmounts, hall, hresult⟩⟩

/-! ## The validator -/

theorem pairwise_apart_iff {mounts : List WorkspaceMountInput} :
    (mounts.map (canonicalMount text)).Pairwise (Apart text) ↔
      (mounts.map fun mount => trim mount.sourceSpaceId).Nodup ∧
      (mounts.map fun mount => canonicalPath text mount.mountPath).Pairwise fun left right =>
        ¬ Within text left right ∧ ¬ Within text right left := by
  rw [List.nodup_iff_pairwise_ne, List.pairwise_map, List.pairwise_map, List.pairwise_map,
    ← List.pairwise_and_iff]
  rfl

theorem validateWorkspaceMounts_eq_ok {sourceSpaceIds : List String}
    {mounts result : List WorkspaceMountInput} :
    validateWorkspaceMounts text sourceSpaceIds mounts = .ok result ↔
      sourceSpaceIds ≠ [] ∧ MountComposition text sourceSpaceIds mounts ∧
        result = mounts.map (canonicalMount text) := by
  simp only [validateWorkspaceMounts, bind_eq_ok, exists_unit, require_eq_ok, pure_eq_ok,
    forM_eq_ok]
  constructor
  · rintro ⟨hne, ids, hids, mounted, hmounted, hlength, -, rfl⟩
    obtain ⟨hnonempty, hdistinct, rfl⟩ := (collectSourceSpaceIds_eq_ok .nil).mp hids
    obtain ⟨hmounts, hapart, rfl⟩ := (mountSteps_eq_ok .nil).mp hmounted
    rw [List.nil_append] at hdistinct hapart hlength
    obtain ⟨hsources, hseparate⟩ := pairwise_apart_iff.mp hapart
    -- distinct Source Spaces among as many disclosed ones are all of them
    have hsubset : mounts.map (fun mount => trim mount.sourceSpaceId) ⊆ sourceSpaceIds.map trim := by
      intro id hid
      obtain ⟨mount, hmount, rfl⟩ := List.mem_map.mp hid
      simpa using (hmounts mount hmount).2.2
    have hbijection := (List.subperm_of_subset hsources hsubset).perm_of_length_le (by
      simpa using hlength.ge)
    exact ⟨hne, ⟨hnonempty, hdistinct, hbijection, fun m hm => (hmounts m hm).2.1, hseparate⟩, rfl⟩
  · rintro ⟨hne, h, rfl⟩
    have hapart := pairwise_apart_iff.mpr ⟨h.bijection.nodup_iff.mpr h.distinct, h.separate⟩
    have hmem : ∀ mount ∈ mounts, trim mount.sourceSpaceId ∈ sourceSpaceIds.map trim :=
      fun mount hmount => h.bijection.subset (List.mem_map_of_mem hmount)
    refine ⟨hne, _, (collectSourceSpaceIds_eq_ok .nil).mpr ⟨h.nonempty, h.distinct, rfl⟩, _,
      (mountSteps_eq_ok .nil).mpr ⟨fun mount hmount => ⟨?_, h.relative mount hmount,
        hmem mount hmount⟩, hapart, rfl⟩, ?_, fun id hid => ?_, rfl⟩
    · obtain ⟨id, hid, heq⟩ := List.mem_map.mp (hmem mount hmount)
      rw [← heq]
      exact h.nonempty id hid
    · simpa using h.bijection.length_eq
    · obtain ⟨mount, hmount, rfl⟩ := List.mem_map.mp (h.bijection.symm.subset hid)
      exact ⟨_, List.mem_map_of_mem hmount, rfl⟩

/-- **The validator decides the composition.** It returns exactly when at least one Source Space is
disclosed, the trimmed ids are not empty and distinct, the mounts are a bijection onto them, and
their paths are relative and separate; what it returns are the mounts, in their order. -/
theorem validateWorkspaceMounts_iff {sourceSpaceIds : List String}
    {mounts result : List WorkspaceMountInput} :
    validateWorkspaceMounts text sourceSpaceIds mounts = .ok result ↔
      sourceSpaceIds ≠ [] ∧ MountComposition text sourceSpaceIds mounts ∧
        result = mounts.map (canonicalMount text) :=
  validateWorkspaceMounts_eq_ok

/-- No Source Space and no mount are a bijection, but nothing is disclosed. -/
theorem nothing_disclosed : MountComposition ⟨id, id⟩ [] [] ∧
    ∀ result, validateWorkspaceMounts ⟨id, id⟩ [] [] ≠ .ok result := by
  refine ⟨⟨nofun, .nil, .nil, nofun, .nil⟩, ?_⟩
  intro result hok
  cases hok

/-! ## Validating again -/

/-- What is known of compatibility normalization: normal forms are normal, and a backslash in one
comes from a backslash or from one of the two characters that stand for it. -/
structure CompatibilityForm (nfkc : String → String) : Prop where
  idempotent : ∀ s, nfkc (nfkc s) = nfkc s
  backslash : ∀ s, '\\' ∈ (nfkc s).toList ↔
    ∃ c ∈ s.toList, c = '\\' ∨ c = '\uff3c' ∨ c = '\ufe68'

theorem mem_replaceBackslashes {c : Char} {value : String} (hslash : c ≠ '/') :
    c ∈ (replaceBackslashes value).toList ↔ c ≠ '\\' ∧ c ∈ value.toList := by
  rw [replaceBackslashes, String.toList_ofList, List.mem_map]
  constructor
  · rintro ⟨x, hx, rfl⟩
    by_cases hback : x = '\\'
    · rw [if_pos hback] at hslash
      exact absurd rfl hslash
    · rw [if_neg hback]
      exact ⟨hback, hx⟩
  · rintro ⟨hback, hc⟩
    exact ⟨c, hc, if_neg hback⟩

theorem replaceBackslashes_self {value : String} (h : '\\' ∉ value.toList) :
    replaceBackslashes value = value := by
  rw [← String.toList_inj, replaceBackslashes, String.toList_ofList]
  refine (List.map_congr_left fun c hc => ?_).trans (List.map_id _)
  rw [if_neg, id]
  rintro rfl
  exact h hc

/-- The characters that stand for a backslash are the only ones that are returned as one. -/
theorem backslash_mem_canonicalPath (hform : CompatibilityForm text.nfkc) {value : String} :
    '\\' ∈ (canonicalPath text value).toList ↔
      '\uff3c' ∈ value.toList ∨ '\ufe68' ∈ value.toList := by
  rw [canonicalPath, hform.backslash]
  constructor
  · rintro ⟨c, hc, rfl | rfl | rfl⟩
    · exact absurd rfl ((mem_replaceBackslashes (by decide)).mp hc).1
    · exact .inl ((mem_replaceBackslashes (by decide)).mp hc).2
    · exact .inr ((mem_replaceBackslashes (by decide)).mp hc).2
  · rintro (hc | hc)
    · exact ⟨_, (mem_replaceBackslashes (by decide)).mpr ⟨by decide, hc⟩, .inr (.inl rfl)⟩
    · exact ⟨_, (mem_replaceBackslashes (by decide)).mpr ⟨by decide, hc⟩, .inr (.inr rfl)⟩

theorem canonicalPath_self (hform : CompatibilityForm text.nfkc) {value : String}
    (h : '\\' ∉ (canonicalPath text value).toList) :
    canonicalPath text (canonicalPath text value) = canonicalPath text value := by
  rw [canonicalPath, replaceBackslashes_self h]
  exact hform.idempotent _

/-- Mounts that read as they stand compose as what they were made from. -/
theorem MountComposition.of_canonical {sourceSpaceIds : List String}
    {mounts : List WorkspaceMountInput} (h : MountComposition text sourceSpaceIds mounts)
    (hself : ∀ mount ∈ mounts, canonicalMount text (canonicalMount text mount) =
      canonicalMount text mount) :
    MountComposition text sourceSpaceIds (mounts.map (canonicalMount text)) := by
  have hpath : ∀ mount ∈ mounts, canonicalPath text (canonicalPath text mount.mountPath) =
      canonicalPath text mount.mountPath :=
    fun mount hmount => congrArg WorkspaceMountInput.mountPath (hself mount hmount)
  have hpaths : (mounts.map (canonicalMount text)).map (fun mount =>
      canonicalPath text mount.mountPath) =
      mounts.map fun mount => canonicalPath text mount.mountPath := by
    rw [List.map_map]
    exact List.map_congr_left hpath
  have hsources : (mounts.map (canonicalMount text)).map (fun mount => trim mount.sourceSpaceId) =
      mounts.map fun mount => trim mount.sourceSpaceId := by
    rw [List.map_map]
    exact List.map_congr_left fun mount _ => trim_trim mount.sourceSpaceId
  refine ⟨h.nonempty, h.distinct, ?_, fun mount hmount => ?_, ?_⟩
  · rw [hsources]
    exact h.bijection
  · obtain ⟨mount, hmem, rfl⟩ := List.mem_map.mp hmount
    show RelativePath (canonicalPath text (canonicalPath text mount.mountPath))
    rw [hpath mount hmem]
    exact h.relative mount hmem
  · rw [hpaths]
    exact h.separate

/-- **What is returned is canonical**, without a backslash and accepted again as it is, exactly when
no mount path has one of the two characters that compatibility normalization makes a backslash
of. -/
theorem revalidates_iff (hform : CompatibilityForm text.nfkc) {sourceSpaceIds : List String}
    {mounts result : List WorkspaceMountInput}
    (haccepted : validateWorkspaceMounts text sourceSpaceIds mounts = .ok result) :
    ((∀ mount ∈ result, '\\' ∉ mount.mountPath.toList) ∧
      validateWorkspaceMounts text sourceSpaceIds result = .ok result) ↔
    ∀ mount ∈ mounts, '\uff3c' ∉ mount.mountPath.toList ∧ '\ufe68' ∉ mount.mountPath.toList := by
  obtain ⟨hne, hcomposition, rfl⟩ := validateWorkspaceMounts_eq_ok.mp haccepted
  have hnone : (∀ mount ∈ mounts.map (canonicalMount text), '\\' ∉ mount.mountPath.toList) ↔
      ∀ mount ∈ mounts,
        '\uff3c' ∉ mount.mountPath.toList ∧ '\ufe68' ∉ mount.mountPath.toList := by
    rw [List.forall_mem_map]
    refine forall₂_congr fun mount _ => ?_
    show '\\' ∉ (canonicalPath text mount.mountPath).toList ↔ _
    rw [backslash_mem_canonicalPath hform, not_or]
  rw [← hnone]
  refine ⟨fun h => h.1, fun h => ⟨h, ?_⟩⟩
  have hself : ∀ mount ∈ mounts, canonicalMount text (canonicalMount text mount) =
      canonicalMount text mount := by
    intro mount hmount
    have hpath := canonicalPath_self hform (h _ (List.mem_map_of_mem hmount))
    simp only [canonicalMount, trim_trim, hpath]
  refine validateWorkspaceMounts_eq_ok.mpr ⟨hne, hcomposition.of_canonical hself, ?_⟩
  rw [List.map_map]
  exact (List.map_congr_left hself).symm

/-! ## A path that is returned with a backslash -/

namespace Sample

/-- The compatibility forms of the slashes. -/
def compatible (c : Char) : Char :=
  if c = '\uff3c' ∨ c = '\ufe68' then '\\' else if c = '\uff0f' then '/' else c

def mountText : UnicodeText where
  nfkc s := String.ofList (s.toList.map compatible)
  toLowerCase := id

theorem mountText_form : CompatibilityForm mountText.nfkc where
  idempotent s := by
    have hfixed : ∀ c, compatible (compatible c) = compatible c := by
      intro c
      unfold compatible
      by_cases hback : c = '\uff3c' ∨ c = '\ufe68'
      · rw [if_pos hback]
        decide
      · by_cases hslash : c = '\uff0f'
        · rw [if_neg hback, if_pos hslash]
          decide
        · rw [if_neg hback, if_neg hslash, if_neg hback, if_neg hslash]
    simp only [mountText, String.toList_ofList, List.map_map]
    exact congrArg String.ofList (List.map_congr_left fun c _ => hfixed c)
  backslash s := by
    simp only [mountText, String.toList_ofList, List.mem_map]
    refine exists_congr fun c => and_congr_right fun _ => ?_
    unfold compatible
    by_cases hback : c = '\uff3c' ∨ c = '\ufe68'
    · rw [if_pos hback]
      exact iff_of_true rfl (.inr hback)
    · by_cases hslash : c = '\uff0f'
      · subst hslash
        decide
      · rw [if_neg hback, if_neg hslash]
        exact ⟨.inl, fun h => h.resolve_right hback⟩

end Sample

theorem revalidates_iff_plain :
    validateWorkspaceMounts Sample.mountText ["source"] [⟨"source", "left/right"⟩] =
      .ok [⟨"source", "left/right"⟩] := by
  have haccepted : validateWorkspaceMounts Sample.mountText ["source"]
      [⟨"source", "left\\right"⟩] = .ok [⟨"source", "left/right"⟩] := by decide +kernel
  exact ((revalidates_iff Sample.mountText_form haccepted).mpr (by decide)).2

/-- A path of one segment is returned with backslashes, and validated again goes up. -/
theorem not_revalidated :
    CompatibilityForm Sample.mountText.nfkc ∧
    validateWorkspaceMounts Sample.mountText ["source"] [⟨"source", "left\uff3c..\uff3cright"⟩] =
      .ok [⟨"source", "left\\..\\right"⟩] ∧
    ∀ result, validateWorkspaceMounts Sample.mountText ["source"]
      [⟨"source", "left\\..\\right"⟩] ≠ .ok result := by
  refine ⟨Sample.mountText_form, by decide +kernel, fun result h => ?_⟩
  have hok : (validateWorkspaceMounts Sample.mountText ["source"]
      [⟨"source", "left\\..\\right"⟩]).isOk = false := by decide +kernel
  rw [h] at hok
  cases hok

end Anyam.Kernel
