import Mathlib.Data.List.Infix
import Anyam.Kernel.Text

/-!
# Segments of a path

A text is split at a separator into segments, and joined back. The two are inverse on segments
without the separator, and one text is a front part of another up to a separator exactly when its
segments are the first segments of the other.

- `intercalate_split`: joining the segments of a text gives the text.
- `splitChars_intercalate`: splitting joined segments gives the segments.
- `split_isPrefix_iff`: being a front part, by segments.
- `foldl_normalizeSegments`: normalizing a front part first changes nothing.
-/

namespace Anyam.Kernel

variable {c : Char}

theorem splitChars_ne_nil (c : Char) : ∀ cs : List Char, splitChars c cs ≠ []
  | [] => by simp [splitChars]
  | x :: xs => by
    rw [splitChars]
    split
    · exact List.cons_ne_nil _ _
    · split <;> exact List.cons_ne_nil _ _

theorem splitChars_cons_self (cs : List Char) : splitChars c (c :: cs) = [] :: splitChars c cs := by
  rw [splitChars, if_pos rfl]

/-- Another character goes to the first segment. -/
theorem splitChars_cons_ne {x : Char} (h : x ≠ c) (cs : List Char) :
    ∃ seg segs, splitChars c cs = seg :: segs ∧ splitChars c (x :: cs) = (x :: seg) :: segs := by
  rw [splitChars, if_neg h]
  cases hsplit : splitChars c cs with
  | nil => exact absurd hsplit (splitChars_ne_nil c cs)
  | cons seg segs => exact ⟨seg, segs, rfl, rfl⟩

theorem intercalate_splitChars (c : Char) (cs : List Char) :
    [c].intercalate (splitChars c cs) = cs := by
  induction cs with
  | nil => rfl
  | cons x cs ih =>
    by_cases hx : x = c
    · subst hx
      rw [splitChars_cons_self, List.intercalate_cons_of_ne_nil (splitChars_ne_nil x cs), ih]
      rfl
    · obtain ⟨seg, segs, hsplit, hcons⟩ := splitChars_cons_ne hx cs
      rw [hsplit] at ih
      rw [hcons]
      cases segs with
      | nil =>
        rw [List.intercalate_singleton] at ih ⊢
        rw [ih]
      | cons seg' segs =>
        rw [List.intercalate_cons_cons] at ih ⊢
        rw [← ih]
        rfl

theorem not_mem_of_mem_splitChars {cs seg : List Char} (h : seg ∈ splitChars c cs) : c ∉ seg := by
  induction cs generalizing seg with
  | nil =>
    obtain rfl := List.mem_singleton.mp h
    exact List.not_mem_nil
  | cons x cs ih =>
    by_cases hx : x = c
    · subst hx
      rw [splitChars_cons_self] at h
      rcases List.mem_cons.mp h with rfl | h
      · exact List.not_mem_nil
      · exact ih h
    · obtain ⟨first, segs, hsplit, hcons⟩ := splitChars_cons_ne hx cs
      rw [hsplit] at ih
      rw [hcons] at h
      rcases List.mem_cons.mp h with rfl | h
      · intro hmem
        rcases List.mem_cons.mp hmem with rfl | hmem
        · exact hx rfl
        · exact ih (List.mem_cons_self ..) hmem
      · exact ih (List.mem_cons_of_mem _ h)

/-- A segment without the separator is split off whole. -/
theorem splitChars_append {seg : List Char} (h : c ∉ seg) (cs : List Char) :
    splitChars c (seg ++ c :: cs) = seg :: splitChars c cs := by
  induction seg with
  | nil => exact splitChars_cons_self cs
  | cons x seg ih =>
    have hx : x ≠ c := fun hx => h (hx ▸ List.mem_cons_self ..)
    obtain ⟨first, segs, hsplit, hcons⟩ := splitChars_cons_ne hx (seg ++ c :: cs)
    rw [ih fun hmem => h (List.mem_cons_of_mem _ hmem)] at hsplit
    rw [List.cons_append, hcons]
    cases hsplit
    rfl

theorem splitChars_self {seg : List Char} (h : c ∉ seg) : splitChars c seg = [seg] := by
  induction seg with
  | nil => rfl
  | cons x seg ih =>
    have hx : x ≠ c := fun hx => h (hx ▸ List.mem_cons_self ..)
    obtain ⟨first, segs, hsplit, hcons⟩ := splitChars_cons_ne hx seg
    rw [ih fun hmem => h (List.mem_cons_of_mem _ hmem)] at hsplit
    rw [hcons]
    cases hsplit
    rfl

theorem splitChars_intercalate {segs : List (List Char)} (hne : segs ≠ [])
    (h : ∀ seg ∈ segs, c ∉ seg) : splitChars c ([c].intercalate segs) = segs := by
  induction segs with
  | nil => exact absurd rfl hne
  | cons seg segs ih =>
    have hseg := h seg (List.mem_cons_self ..)
    cases segs with
    | nil =>
      rw [List.intercalate_singleton]
      exact splitChars_self hseg
    | cons seg' segs =>
      rw [List.intercalate_cons_cons, List.append_assoc]
      show splitChars c (seg ++ c :: [c].intercalate (seg' :: segs)) = _
      rw [splitChars_append hseg, ih (List.cons_ne_nil _ _) fun s hs => h s (List.mem_cons_of_mem _ hs)]

theorem intercalate_append {segs segs' : List (List Char)} (h : segs ≠ []) (h' : segs' ≠ []) :
    [c].intercalate (segs ++ segs') = [c].intercalate segs ++ [c] ++ [c].intercalate segs' := by
  induction segs with
  | nil => exact absurd rfl h
  | cons seg segs ih =>
    cases segs with
    | nil => rw [List.singleton_append, List.intercalate_cons_of_ne_nil h', List.intercalate_singleton]
    | cons seg' segs =>
      rw [List.cons_append, List.cons_append, List.intercalate_cons_cons, ← List.cons_append,
        ih (List.cons_ne_nil _ _), List.intercalate_cons_cons]
      simp only [List.append_assoc]

/-- A text is split on both sides of a separator in it. -/
theorem splitChars_append_cons (xs ys : List Char) :
    splitChars c (xs ++ c :: ys) = splitChars c xs ++ splitChars c ys := by
  have hsegs : ∀ seg ∈ splitChars c xs ++ splitChars c ys, c ∉ seg := by
    intro seg hseg
    rcases List.mem_append.mp hseg with hseg | hseg
    · exact not_mem_of_mem_splitChars hseg
    · exact not_mem_of_mem_splitChars hseg
  rw [← splitChars_intercalate (by simp [splitChars_ne_nil]) hsegs,
    intercalate_append (splitChars_ne_nil c xs) (splitChars_ne_nil c ys),
    intercalate_splitChars, intercalate_splitChars, List.append_assoc]
  rfl

/-- A text, or a front part of it that ends before a separator. -/
theorem splitChars_isPrefix_iff (c : Char) {xs ys : List Char} :
    splitChars c xs <+: splitChars c ys ↔ xs = ys ∨ xs ++ [c] <+: ys := by
  constructor
  · rintro ⟨rest, hrest⟩
    cases rest with
    | nil =>
      rw [List.append_nil] at hrest
      rw [← intercalate_splitChars c xs, hrest, intercalate_splitChars]
      exact .inl rfl
    | cons seg segs =>
      right
      refine ⟨[c].intercalate (seg :: segs), ?_⟩
      rw [← intercalate_splitChars c ys, ← hrest,
        intercalate_append (splitChars_ne_nil c xs) (List.cons_ne_nil _ _),
        intercalate_splitChars]
  · rintro (rfl | ⟨rest, rfl⟩)
    · exact List.prefix_rfl
    · rw [List.append_assoc, List.singleton_append, splitChars_append_cons]
      exact List.prefix_append _ _

/-! ## Normal segments -/

/-- A segment that a normalized path keeps as it is. -/
def IsName (seg : List Char) : Prop := seg ≠ [] ∧ seg ≠ ['.']

instance (seg : List Char) : Decidable (IsName seg) := inferInstanceAs (Decidable (_ ∧ _))

/-- A stack that drops the segments without a name and takes the others ends with the names. -/
theorem foldl_push {push : List (List Char) → List Char → List (List Char)}
    {segs : List (List Char)} {stack : List (List Char)}
    (hdrop : ∀ stack seg, seg = [] ∨ seg = ['.'] → push stack seg = stack)
    (hpush : ∀ stack seg, IsName seg → seg ≠ ['.', '.'] → push stack seg = seg :: stack)
    (h : ['.', '.'] ∉ segs) :
    segs.foldl push stack = (segs.filter (IsName ·)).reverse ++ stack := by
  induction segs generalizing stack with
  | nil => rfl
  | cons seg segs ih =>
    have hseg : seg ≠ ['.', '.'] := fun hseg => h (hseg ▸ List.mem_cons_self ..)
    rw [List.foldl_cons, ih fun hmem => h (List.mem_cons_of_mem _ hmem)]
    by_cases hname : IsName seg
    · rw [hpush _ _ hname hseg, List.filter_cons_of_pos (by simpa using hname),
        List.reverse_cons, List.append_assoc]
      rfl
    · have hnameless : seg = [] ∨ seg = ['.'] := by
        simp only [IsName] at hname
        tauto
      rw [hdrop _ _ hnameless, List.filter_cons_of_neg (by simpa using hname)]

/-- One step of the stack of segments. -/
def pushSegment (absolute : Bool) (stack : List (List Char)) (seg : List Char) :
    List (List Char) :=
  if seg = [] ∨ seg = ['.'] then stack
  else if seg = ['.', '.'] then
    match stack with
    | top :: below => if top = ['.', '.'] then seg :: stack else below
    | [] => if absolute then [] else [seg]
  else seg :: stack

section

variable {absolute : Bool} {stack segs : List (List Char)} {seg : List Char}

theorem normalizeSegments_eq_foldl :
    normalizeSegments absolute segs = (segs.foldl (pushSegment absolute) []).reverse := rfl

theorem pushSegment_drop (h : seg = [] ∨ seg = ['.']) : pushSegment absolute stack seg = stack :=
  if_pos h

theorem pushSegment_name (hname : IsName seg) (hseg : seg ≠ ['.', '.']) :
    pushSegment absolute stack seg = seg :: stack :=
  (if_neg (not_or.mpr hname)).trans (if_neg hseg)

/-- Without a dot-dot segment nothing but empty and dot segments is dropped. -/
theorem foldl_pushSegment (h : ['.', '.'] ∉ segs) :
    segs.foldl (pushSegment absolute) stack = (segs.filter (IsName ·)).reverse ++ stack :=
  foldl_push (fun _ _ hdrop => pushSegment_drop hdrop)
    (fun _ _ hname hseg => pushSegment_name hname hseg) h

theorem normalizeSegments_eq (h : ['.', '.'] ∉ segs) :
    normalizeSegments absolute segs = segs.filter (IsName ·) := by
  rw [normalizeSegments_eq_foldl, foldl_pushSegment h, List.append_nil, List.reverse_reverse]

/-- What holds of the stack after every step holds of normalized segments. -/
theorem normalizeSegments_induction {P : List (List Char) → Prop} (hstart : P [])
    (hstep : ∀ stack seg, P stack → P (pushSegment absolute stack seg)) :
    P (normalizeSegments absolute segs).reverse := by
  rw [normalizeSegments_eq_foldl, List.reverse_reverse]
  exact List.foldlRecOn segs _ hstart fun stack h seg _ => hstep stack seg h

theorem isName_of_mem_normalizeSegments (h : seg ∈ normalizeSegments absolute segs) :
    IsName seg := by
  refine normalizeSegments_induction (P := fun stack => ∀ seg ∈ stack, IsName seg) ?_ ?_ seg
    (List.mem_reverse.mpr h)
  · exact fun _ hmem => absurd hmem List.not_mem_nil
  · intro stack seg hstack other hother
    unfold pushSegment at hother
    grind [IsName]

/-- A dot-dot segment that is left is in front of all the others. -/
theorem exists_normalizeSegments (h : ['.', '.'] ∈ normalizeSegments absolute segs) :
    ∃ rest, normalizeSegments absolute segs = ['.', '.'] :: rest := by
  have hlast : ['.', '.'] ∈ (normalizeSegments absolute segs).reverse →
      (normalizeSegments absolute segs).reverse.getLast? = some ['.', '.'] := by
    refine normalizeSegments_induction
      (P := fun stack => ['.', '.'] ∈ stack → stack.getLast? = some ['.', '.']) ?_ ?_
    · exact fun hmem => absurd hmem List.not_mem_nil
    · intro stack seg hstack hmem
      unfold pushSegment at hmem ⊢
      grind
  have hhead := hlast (List.mem_reverse.mpr h)
  rw [List.getLast?_reverse] at hhead
  exact List.head?_eq_some_iff.mp hhead

/-- A step after a stack of names is a step after what they come to. -/
theorem foldl_pushSegment_step {below : List (List Char)} (h : ∀ seg ∈ stack, IsName seg) :
    (pushSegment false stack seg).reverse.foldl (pushSegment true) below =
      pushSegment true (stack.reverse.foldl (pushSegment true) below) seg := by
  by_cases hdrop : seg = [] ∨ seg = ['.']
  · rw [pushSegment_drop hdrop, pushSegment_drop hdrop]
  · by_cases hdots : seg = ['.', '.']
    · subst hdots
      cases stack with
      | nil => rfl
      | cons top stack =>
        by_cases htop : top = ['.', '.']
        · subst htop
          show (['.', '.'] :: ['.', '.'] :: stack).reverse.foldl (pushSegment true) below = _
          rw [List.reverse_cons, List.foldl_append]
          rfl
        · have hpop (absolute : Bool) (rest : List (List Char)) :
              pushSegment absolute (top :: rest) ['.', '.'] = rest := if_neg htop
          rw [hpop, List.reverse_cons, List.foldl_append, List.foldl_cons, List.foldl_nil,
            pushSegment_name (h top (List.mem_cons_self ..)) htop, hpop]
    · rw [pushSegment_name (not_or.mp hdrop) hdots, List.reverse_cons, List.foldl_append]
      rfl

/-- Segments that are normalized first come to the same. -/
theorem foldl_normalizeSegments :
    (normalizeSegments false segs).foldl (pushSegment true) stack =
      segs.foldl (pushSegment true) stack := by
  induction segs using List.reverseRecOn with
  | nil => rfl
  | append_singleton segs seg ih =>
    have hnames : ∀ seg ∈ segs.foldl (pushSegment false) [], IsName seg := by
      intro seg hseg
      refine @isName_of_mem_normalizeSegments false segs seg ?_
      rw [normalizeSegments_eq_foldl]
      exact List.mem_reverse.mpr hseg
    rw [normalizeSegments_eq_foldl, List.foldl_append, List.foldl_append, ← ih,
      normalizeSegments_eq_foldl]
    exact foldl_pushSegment_step hnames

end

/-! ## Texts -/

theorem intercalate_split (value : String) : "/".intercalate (split '/' value) = value := by
  rw [← String.toList_inj, String.toList_intercalate, split, List.map_map]
  rw [show (String.toList ∘ String.ofList) = id from funext fun cs => String.toList_ofList, List.map_id]
  exact intercalate_splitChars '/' value.toList

/-- The segments of a text are the first segments of another. -/
theorem split_isPrefix_iff {left right : String} : split '/' left <+: split '/' right ↔
    left = right ∨ left.toList ++ ['/'] <+: right.toList := by
  rw [split, split, ← String.toList_inj, ← splitChars_isPrefix_iff]
  constructor
  · intro h
    have hmap := h.map String.toList
    simpa [List.map_map, Function.comp_def] using hmap
  · exact fun h => h.map _

end Anyam.Kernel
