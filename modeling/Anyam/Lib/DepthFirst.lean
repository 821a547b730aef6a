import Mathlib.Data.List.Nodup
import Mathlib.Logic.Relation

/-!
# Depth-first search with completion markers

A search over the parents of nodes, on an explicit stack. A node that is entered is put back with a
marker below its parents; when the marker comes up the node is complete. A node is being visited
from the one to the other. The parents of some nodes cannot be read.

- `loop`: it terminates when the readable nodes are finitely many.
- `Inv`, `Inv.enter`, `Inv.close`, `Inv.skip`: the stack, the visited and the complete nodes.
- **`search_complete`**, **`search_complete_iff`**: the search completes what is reachable, unless a
  node among it is unreadable or on a cycle.
-/

namespace Anyam.Lib.DepthFirst

open Relation

universe u

variable {κ : Type u}

/-- A graph in which finitely many nodes have parents that can be read. -/
structure Graph (κ : Type u) where
  parents : κ → Option (List κ)
  readable : List κ
  mem_readable : ∀ x, (parents x).isSome → x ∈ readable

/-- The stack has the top first; a marked node is complete when it comes up. -/
structure Search (κ : Type u) where
  pending : List (κ × Bool)
  complete : List κ
  visiting : List κ

inductive Verdict (κ : Type u)
  | complete (nodes : List κ)
  | cycle
  | unreadable

/-! ## The search -/

/-- What the nodes that were not entered may still cost. -/
def weight (cost : κ → Nat) (entered : κ → Prop) [DecidablePred entered] : List κ → Nat
  | [] => 0
  | x :: xs => (if entered x then 0 else cost x) + weight cost entered xs

theorem weight_mono (cost : κ → Nat) {entered entered' : κ → Prop} [DecidablePred entered]
    [DecidablePred entered'] (h : ∀ x, entered x → entered' x) (xs : List κ) :
    weight cost entered' xs ≤ weight cost entered xs := by
  induction xs with
  | nil => exact Nat.le_refl 0
  | cons x xs ih =>
    simp only [weight]
    by_cases hx : entered x
    · rw [if_pos hx, if_pos (h x hx)]
      omega
    · rw [if_neg hx]
      split <;> omega

theorem weight_enter (cost : κ → Nat) {entered entered' : κ → Prop} [DecidablePred entered]
    [DecidablePred entered'] (h : ∀ x, entered x → entered' x) {x : κ} (hx : ¬ entered x)
    (hx' : entered' x) {xs : List κ} (hmem : x ∈ xs) :
    weight cost entered' xs + cost x ≤ weight cost entered xs := by
  induction xs with
  | nil => exact nomatch hmem
  | cons y xs ih =>
    simp only [weight]
    by_cases hxy : x = y
    · have hrest := weight_mono cost h xs
      rw [← hxy, if_neg hx, if_pos hx']
      omega
    · have hrest := ih ((List.mem_cons.mp hmem).resolve_left hxy)
      by_cases hy : entered y
      · rw [if_pos hy, if_pos (h y hy)]
        omega
      · rw [if_neg hy]
        split <;> omega

def Graph.cost (graph : Graph κ) (x : κ) : Nat := ((graph.parents x).getD []).length + 2

def Search.Entered (search : Search κ) (x : κ) : Prop := x ∈ search.complete ∨ x ∈ search.visiting

section

variable [DecidableEq κ]

instance (search : Search κ) : DecidablePred search.Entered := fun x =>
  inferInstanceAs (Decidable (x ∈ search.complete ∨ x ∈ search.visiting))

/-- What a search may still take. -/
def Graph.remaining (graph : Graph κ) (search : Search κ) : Nat :=
  search.pending.length + weight graph.cost search.Entered graph.readable

/-- The entries for the parents of a node, and below them its marker. -/
def opened (x : κ) (parents : List κ) (rest : List (κ × Bool)) : List (κ × Bool) :=
  (parents.map fun parent => (parent, false)).reverse ++ (x, true) :: rest

/-- The search that goes on after a marker. -/
def closed (x : κ) (rest : List (κ × Bool)) (complete visiting : List κ) : Search κ :=
  ⟨rest, complete.insert x, visiting.filter (· ≠ x)⟩

variable {graph : Graph κ} {x : κ} {rest : List (κ × Bool)} {complete visiting : List κ}

theorem remaining_closed :
    graph.remaining (closed x rest complete visiting) <
      graph.remaining ⟨(x, true) :: rest, complete, visiting⟩ := by
  have hentered : ∀ y, (Search.mk ((x, true) :: rest) complete visiting).Entered y →
      (closed x rest complete visiting).Entered y := by
    intro y hy
    by_cases hyx : y = x
    · exact .inl (List.mem_insert_iff.mpr (.inl hyx))
    · refine hy.imp (fun h => List.mem_insert_iff.mpr (.inr h)) fun h => ?_
      exact List.mem_filter.mpr ⟨h, decide_eq_true hyx⟩
  have hweight := weight_mono graph.cost hentered graph.readable
  simp only [Graph.remaining, closed, List.length_cons] at hweight ⊢
  omega

theorem remaining_opened {parents : List κ} (hparents : graph.parents x = some parents)
    (hcomplete : x ∉ complete) (hvisiting : x ∉ visiting) :
    graph.remaining ⟨opened x parents rest, complete, x :: visiting⟩ <
      graph.remaining ⟨(x, false) :: rest, complete, visiting⟩ := by
  have hentered : ∀ y, (Search.mk ((x, false) :: rest) complete visiting).Entered y →
      (Search.mk (opened x parents rest) complete (x :: visiting)).Entered y :=
    fun y hy => hy.imp_right (List.mem_cons_of_mem x)
  have hnew : ¬ (Search.mk ((x, false) :: rest) complete visiting).Entered x := by
    rintro (h | h)
    · exact hcomplete h
    · exact hvisiting h
  have hread : x ∈ graph.readable := graph.mem_readable x (by rw [hparents]; rfl)
  have hweight := weight_enter graph.cost hentered hnew (.inr List.mem_cons_self) hread
  have hcost : graph.cost x = parents.length + 2 := by rw [Graph.cost, hparents]; rfl
  simp only [Graph.remaining, opened, List.length_append, List.length_reverse, List.length_map,
    List.length_cons] at hweight ⊢
  omega

variable (graph)

def loop (search : Search κ) : Verdict κ :=
  match search with
  | ⟨[], complete, _⟩ => .complete complete
  | ⟨(x, true) :: rest, complete, visiting⟩ => loop (closed x rest complete visiting)
  | ⟨(x, false) :: rest, complete, visiting⟩ =>
    if x ∈ complete then loop ⟨rest, complete, visiting⟩
    else if x ∈ visiting then .cycle
    else match _hparents : graph.parents x with
      | none => .unreadable
      | some parents => loop ⟨opened x parents rest, complete, x :: visiting⟩
termination_by graph.remaining search
decreasing_by
  · exact remaining_closed
  · exact Nat.add_lt_add_right (Nat.lt_succ_self _) _
  · next hcomplete hvisiting => exact remaining_opened _hparents hcomplete hvisiting

/-- The search from a node. -/
def search (start : κ) : Verdict κ := loop graph ⟨[(start, false)], [], []⟩

end

/-! ## Its invariant -/

variable (graph : Graph κ)

def IsParent (x y : κ) : Prop := ∃ parents, graph.parents x = some parents ∧ y ∈ parents

def Reachable (start x : κ) : Prop := ReflTransGen (IsParent graph) start x

def OnCycle (x : κ) : Prop := TransGen (IsParent graph) x x

/-- Every node is listed after its parents; the last one is first. -/
inductive Settled : List κ → Prop
  | nil : Settled []
  | cons {x : κ} {parents nodes : List κ} (hparents : graph.parents x = some parents)
      (hsub : parents ⊆ nodes) (hnew : x ∉ nodes) (hnodes : Settled nodes) : Settled (x :: nodes)

/-- The entries above the marker of a node: they come from the node, and no parent is forgotten. -/
structure Awaits (complete : List κ) (above : List (κ × Bool)) (x : κ) : Prop where
  from_node : ∀ entry ∈ above, TransGen (IsParent graph) x entry.1
  parents : ∃ parents, graph.parents x = some parents ∧
    ∀ parent ∈ parents, parent ∈ complete ∨ parent ∈ above.map Prod.fst

structure Inv (start : κ) (search : Search κ) : Prop where
  settled : Settled graph search.complete
  reachable_complete : ∀ x ∈ search.complete, Reachable graph start x
  reachable_pending : ∀ entry ∈ search.pending, Reachable graph start entry.1
  start_entered : start ∈ search.complete ∨ start ∈ search.pending.map Prod.fst
  visiting : ∀ x, x ∈ search.visiting ↔ (x, true) ∈ search.pending
  markers : ((search.pending.filter Prod.snd).map Prod.fst ++ search.complete).Nodup
  awaits : ∀ above x below, search.pending = above ++ (x, true) :: below →
    Awaits graph search.complete above x

variable {graph} {start x : κ} {rest : List (κ × Bool)} {complete visiting : List κ}

theorem inv_start : Inv graph start ⟨[(start, false)], [], []⟩ where
  settled := .nil
  reachable_complete := fun _ h => nomatch h
  reachable_pending := by
    intro entry hentry
    cases List.mem_singleton.mp hentry
    exact .refl
  start_entered := .inr List.mem_cons_self
  visiting := by simp
  markers := List.nodup_nil
  awaits := by
    intro above x below h
    have hmem : (x, true) ∈ above ++ (x, true) :: below := List.mem_append_right _ List.mem_cons_self
    rw [← show [(start, false)] = _ from h] at hmem
    simp at hmem

/-- A node that is complete already is passed over. -/
theorem Inv.skip (h : Inv graph start ⟨(x, false) :: rest, complete, visiting⟩)
    (hx : x ∈ complete) : Inv graph start ⟨rest, complete, visiting⟩ where
  settled := h.settled
  reachable_complete := h.reachable_complete
  reachable_pending := fun entry hentry => h.reachable_pending entry (List.mem_cons_of_mem _ hentry)
  start_entered := by
    rcases h.start_entered with hcomplete | hpending
    · exact .inl hcomplete
    · rcases List.mem_cons.mp hpending with rfl | hrest
      · exact .inl hx
      · exact .inr hrest
  visiting := by
    intro y
    rw [h.visiting y]
    simp
  markers := h.markers
  awaits := by
    intro above y below hrest
    obtain ⟨hfrom, parents, hparents, hall⟩ :=
      h.awaits ((x, false) :: above) y below (congrArg ((x, false) :: ·) hrest)
    refine ⟨fun entry hentry => hfrom entry (List.mem_cons_of_mem _ hentry), parents, hparents, ?_⟩
    intro parent hparent
    rcases hall parent hparent with hcomplete | habove
    · exact .inl hcomplete
    · rcases List.mem_cons.mp habove with rfl | habove
      · exact .inl hx
      · exact .inr habove

/-- A node whose marker comes up has complete parents, and is complete. -/
theorem Inv.close [DecidableEq κ]
    (h : Inv graph start ⟨(x, true) :: rest, complete, visiting⟩) :
    Inv graph start (closed x rest complete visiting) := by
  have hmarkers := h.markers
  rw [List.filter_cons_of_pos rfl, List.map_cons, List.cons_append, List.nodup_cons,
    List.mem_append, not_or] at hmarkers
  obtain ⟨⟨hmarked, hnew⟩, hnodup⟩ := hmarkers
  have hunmarked : (x, true) ∉ rest := fun hmem =>
    hmarked (List.mem_map.mpr ⟨_, List.mem_filter.mpr ⟨hmem, rfl⟩, rfl⟩)
  have hinsert : complete.insert x = x :: complete := List.insert_of_not_mem hnew
  obtain ⟨-, parents, hparents, hall⟩ := h.awaits [] x rest rfl
  refine ⟨?_, ?_, ?_, ?_, ?_, ?_, ?_⟩
  · rw [closed, hinsert]
    refine .cons hparents (fun parent hparent => ?_) hnew h.settled
    exact (hall parent hparent).resolve_right (fun hmem => nomatch hmem)
  · intro y hy
    rcases List.mem_insert_iff.mp hy with rfl | hy
    · exact h.reachable_pending _ List.mem_cons_self
    · exact h.reachable_complete y hy
  · exact fun entry hentry => h.reachable_pending entry (List.mem_cons_of_mem _ hentry)
  · rcases h.start_entered with hcomplete | hpending
    · exact .inl (List.mem_insert_iff.mpr (.inr hcomplete))
    · rcases List.mem_cons.mp hpending with rfl | hrest
      · exact .inl (List.mem_insert_iff.mpr (.inl rfl))
      · exact .inr hrest
  · intro y
    have hvisiting := h.visiting y
    simp only [closed, List.mem_filter, decide_eq_true_eq, hvisiting, List.mem_cons, Prod.mk.injEq,
      and_true]
    constructor
    · rintro ⟨hy | hy, hne⟩
      · exact absurd hy hne
      · exact hy
    · intro hy
      exact ⟨.inr hy, fun heq => hunmarked (heq ▸ hy)⟩
  · rw [closed, hinsert]
    exact (List.nodup_middle).mpr (List.nodup_cons.mpr ⟨by
      rw [List.mem_append, not_or]
      exact ⟨hmarked, hnew⟩, hnodup⟩)
  · intro above y below hrest
    obtain ⟨hfrom, parents, hparents, hall⟩ :=
      h.awaits ((x, true) :: above) y below (congrArg ((x, true) :: ·) hrest)
    refine ⟨fun entry hentry => hfrom entry (List.mem_cons_of_mem _ hentry), parents, hparents, ?_⟩
    intro parent hparent
    rcases hall parent hparent with hcomplete | habove
    · exact .inl (List.mem_insert_iff.mpr (.inr hcomplete))
    · rcases List.mem_cons.mp habove with rfl | habove
      · exact .inl (List.mem_insert_iff.mpr (.inl rfl))
      · exact .inr habove

/-- The markers of a stack that a node was opened on. -/
theorem opened_eq_append {parents : List κ} {above below : List (κ × Bool)} {y : κ}
    (h : opened x parents rest = above ++ (y, true) :: below) :
    (y = x ∧ above = (parents.map fun parent => (parent, false)).reverse) ∨
    ∃ between, above = (parents.map fun parent => (parent, false)).reverse ++ (x, true) :: between ∧
      rest = between ++ (y, true) :: below := by
  have hunmarked : (y, true) ∉ (parents.map fun parent => (parent, false)).reverse := by simp
  rcases List.append_eq_append_iff.mp h with ⟨more, habove, hmore⟩ | ⟨more, hparents, hmore⟩
  · cases more with
    | nil =>
      obtain ⟨heq, -⟩ := List.cons.inj hmore
      exact .inl ⟨(Prod.mk.inj heq).1.symm, by rw [habove, List.append_nil]⟩
    | cons entry more =>
      obtain ⟨rfl, hrest⟩ := List.cons.inj hmore
      exact .inr ⟨more, habove, hrest⟩
  · cases more with
    | nil =>
      obtain ⟨heq, -⟩ := List.cons.inj hmore
      exact .inl ⟨(Prod.mk.inj heq).1, by rw [hparents, List.append_nil]⟩
    | cons entry more =>
      obtain ⟨rfl, -⟩ := List.cons.inj hmore
      exact absurd (hparents ▸ List.mem_append_right _ List.mem_cons_self) hunmarked

theorem mem_opened {parents : List κ} {entry : κ × Bool} :
    entry ∈ opened x parents rest ↔
      (entry.1 ∈ parents ∧ entry.2 = false) ∨ entry = (x, true) ∨ entry ∈ rest := by
  obtain ⟨y, marked⟩ := entry
  simp [opened, and_comm, eq_comm]

/-- A node that is entered is put back below its parents. -/
theorem Inv.enter {parents : List κ} (h : Inv graph start ⟨(x, false) :: rest, complete, visiting⟩)
    (hparents : graph.parents x = some parents) (hcomplete : x ∉ complete)
    (hvisiting : x ∉ visiting) :
    Inv graph start ⟨opened x parents rest, complete, x :: visiting⟩ := by
  have hreach := h.reachable_pending _ List.mem_cons_self
  have hparent : ∀ parent ∈ parents, IsParent graph x parent :=
    fun parent hmem => ⟨parents, hparents, hmem⟩
  refine ⟨h.settled, h.reachable_complete, ?_, ?_, ?_, ?_, ?_⟩
  · intro entry hentry
    rcases mem_opened.mp hentry with ⟨hmem, -⟩ | rfl | hrest
    · exact hreach.tail (hparent _ hmem)
    · exact hreach
    · exact h.reachable_pending entry (List.mem_cons_of_mem _ hrest)
  · refine h.start_entered.imp_right fun hpending => ?_
    rcases List.mem_cons.mp hpending with rfl | hrest
    · exact List.mem_map.mpr ⟨_, mem_opened.mpr (.inr (.inl rfl)), rfl⟩
    · obtain ⟨entry, hentry, hkey⟩ := List.mem_map.mp hrest
      exact List.mem_map.mpr ⟨entry, mem_opened.mpr (.inr (.inr hentry)), hkey⟩
  · intro y
    have hold := h.visiting y
    simp only [List.mem_cons, Prod.mk.injEq, Bool.true_eq_false, and_false, false_or] at hold
    simp [mem_opened, hold]
  · have hfilter : (opened x parents rest).filter Prod.snd = (x, true) :: rest.filter Prod.snd := by
      have hnone : ((parents.map fun parent => (parent, false)).reverse).filter Prod.snd = [] := by
        simp
      rw [opened, List.filter_append, hnone, List.filter_cons_of_pos rfl, List.nil_append]
    have hold := h.markers
    rw [List.filter_cons_of_neg (by simp)] at hold
    rw [hfilter, List.map_cons, List.cons_append, List.nodup_cons, List.mem_append, not_or]
    refine ⟨⟨fun hmarked => ?_, hcomplete⟩, hold⟩
    obtain ⟨⟨y, marked⟩, hmem, rfl⟩ := List.mem_map.mp hmarked
    obtain ⟨hrest, rfl⟩ := List.mem_filter.mp hmem
    exact hvisiting ((h.visiting y).mpr (List.mem_cons_of_mem _ hrest))
  · intro above y below hopened
    rcases opened_eq_append hopened with ⟨rfl, rfl⟩ | ⟨between, rfl, hrest⟩
    · refine ⟨fun entry hentry => ?_, parents, hparents, fun parent hmem => .inr ?_⟩
      · obtain ⟨parent, hmem, rfl⟩ := List.mem_map.mp (List.mem_reverse.mp hentry)
        exact .single (hparent parent hmem)
      · simpa using hmem
    · obtain ⟨hfrom, ps, hps, hall⟩ :=
        h.awaits ((x, false) :: between) y below (congrArg ((x, false) :: ·) hrest)
      have hx := hfrom _ List.mem_cons_self
      refine ⟨fun entry hentry => ?_, ps, hps, fun parent hmem => (hall parent hmem).imp_right ?_⟩
      · rcases List.mem_append.mp hentry with hentry | hentry
        · obtain ⟨parent, hmem, rfl⟩ := List.mem_map.mp (List.mem_reverse.mp hentry)
          exact hx.tail (hparent parent hmem)
        · rcases List.mem_cons.mp hentry with rfl | hentry
          · exact hx
          · exact hfrom entry (List.mem_cons_of_mem _ hentry)
      · intro habove
        rw [List.map_append, List.map_cons]
        exact List.mem_append_right _ habove

/-- A node that is met while it is visited is on a cycle. -/
theorem Inv.onCycle (h : Inv graph start ⟨(x, false) :: rest, complete, visiting⟩)
    (hvisiting : x ∈ visiting) : OnCycle graph x := by
  have hmarked := (h.visiting x).mp hvisiting
  obtain ⟨above, below, hrest⟩ := List.append_of_mem
    ((List.mem_cons.mp hmarked).resolve_left (by simp))
  obtain ⟨hfrom, -⟩ := h.awaits ((x, false) :: above) x below (congrArg ((x, false) :: ·) hrest)
  exact hfrom _ List.mem_cons_self

/-! ## What it finds -/

theorem Settled.parents_subset {nodes : List κ} (h : Settled graph nodes) (hx : x ∈ nodes) :
    ∃ parents, graph.parents x = some parents ∧ parents ⊆ nodes := by
  induction h with
  | nil => exact nomatch hx
  | cons hparents hsub hnew hnodes ih =>
    rcases List.mem_cons.mp hx with rfl | hx
    · exact ⟨_, hparents, List.Subset.trans hsub (List.subset_cons_self ..)⟩
    · obtain ⟨parents, hparents, hsub⟩ := ih hx
      exact ⟨parents, hparents, List.Subset.trans hsub (List.subset_cons_self ..)⟩

theorem Settled.mem_of_reachable {nodes : List κ} (h : Settled graph nodes) {y : κ}
    (hx : x ∈ nodes) (hxy : Reachable graph x y) : y ∈ nodes := by
  induction hxy with
  | refl => exact hx
  | tail _ hstep ih =>
    obtain ⟨parents, hparents, hsub⟩ := h.parents_subset ih
    obtain ⟨parents', hparents', hmem⟩ := hstep
    cases hparents.symm.trans hparents'
    exact hsub hmem

theorem Settled.not_onCycle {nodes : List κ} (h : Settled graph nodes) (hx : x ∈ nodes) :
    ¬ OnCycle graph x := by
  induction h with
  | nil => exact nomatch hx
  | cons hparents hsub hnew hnodes ih =>
    rcases List.mem_cons.mp hx with rfl | hx
    · -- the first step of a cycle leads among the earlier nodes, and no step leads back
      intro hcycle
      obtain ⟨y, ⟨parents', hparents', hmem⟩, hback⟩ := TransGen.head'_iff.mp hcycle
      cases hparents.symm.trans hparents'
      exact hnew (hnodes.mem_of_reachable (hsub hmem) hback)
    · exact ih hx

theorem Settled.nodup {nodes : List κ} (h : Settled graph nodes) : nodes.Nodup := by
  induction h with
  | nil => exact List.nodup_nil
  | cons _ _ hnew _ ih => exact List.nodup_cons.mpr ⟨hnew, ih⟩

/-- What a verdict says about the nodes that are reachable. -/
def Verdict.Right (graph : Graph κ) (start : κ) : Verdict κ → Prop
  | .complete nodes =>
    Settled graph nodes ∧ start ∈ nodes ∧ ∀ x ∈ nodes, Reachable graph start x
  | .cycle => ∃ x, Reachable graph start x ∧ OnCycle graph x
  | .unreadable => ∃ x, Reachable graph start x ∧ graph.parents x = none

theorem loop_right [DecidableEq κ] {search : Search κ} (h : Inv graph start search) :
    (loop graph search).Right graph start := by
  fun_induction loop graph search with
  | case1 complete visiting =>
    exact ⟨h.settled, h.start_entered.resolve_right (fun hmem => nomatch hmem), h.reachable_complete⟩
  | case2 x rest complete visiting ih => exact ih h.close
  | case3 x rest complete visiting hcomplete ih => exact ih (h.skip hcomplete)
  | case4 x rest complete visiting hcomplete hvisiting =>
    exact ⟨x, h.reachable_pending _ List.mem_cons_self, h.onCycle hvisiting⟩
  | case5 x rest complete visiting hcomplete hvisiting hparents =>
    exact ⟨x, h.reachable_pending _ List.mem_cons_self, hparents⟩
  | case6 x rest complete visiting hcomplete hvisiting parents hparents ih =>
    exact ih (h.enter hparents hcomplete hvisiting)

/-- Everything that is reachable can be read and is on no cycle. -/
def Sound (graph : Graph κ) (start : κ) : Prop :=
  ∀ x, Reachable graph start x → (∃ parents, graph.parents x = some parents) ∧ ¬ OnCycle graph x

/-- **A search that completes** has found what is reachable, all of it sound. -/
theorem search_complete [DecidableEq κ] {nodes : List κ} (h : search graph start = .complete nodes) :
    nodes.Nodup ∧ (∀ x, x ∈ nodes ↔ Reachable graph start x) ∧ Sound graph start := by
  have hstart : Inv graph start ⟨[(start, false)], [], []⟩ := inv_start
  have hright := loop_right hstart
  rw [show loop graph _ = _ from h] at hright
  obtain ⟨hsettled, hstart, hreach⟩ := hright
  refine ⟨hsettled.nodup, fun x => ⟨hreach x, hsettled.mem_of_reachable hstart⟩, fun x hx => ?_⟩
  have hmem := hsettled.mem_of_reachable hstart hx
  obtain ⟨parents, hparents, -⟩ := hsettled.parents_subset hmem
  exact ⟨⟨parents, hparents⟩, hsettled.not_onCycle hmem⟩

/-- **A search completes** exactly when what is reachable is sound. -/
theorem search_complete_iff [DecidableEq κ] :
    (∃ nodes, search graph start = .complete nodes) ↔ Sound graph start := by
  constructor
  · rintro ⟨nodes, h⟩
    exact (search_complete h).2.2
  · intro hsound
    have hstart : Inv graph start ⟨[(start, false)], [], []⟩ := inv_start
    have hright := loop_right hstart
    cases h : search graph start with
    | complete nodes => exact ⟨nodes, rfl⟩
    | cycle =>
      rw [show loop graph _ = _ from h] at hright
      obtain ⟨x, hx, hcycle⟩ := hright
      exact absurd hcycle (hsound x hx).2
    | unreadable =>
      rw [show loop graph _ = _ from h] at hright
      obtain ⟨x, hx, hnone⟩ := hright
      obtain ⟨parents, hparents⟩ := (hsound x hx).1
      exact nomatch hnone.symm.trans hparents

end Anyam.Lib.DepthFirst
