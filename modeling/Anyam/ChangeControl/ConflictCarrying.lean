import Anyam.ChangeControl.Landing

/-!
# Conflicts and the revision that carries their resolution

`landCohort` looks for open Conflicts in the Workspace of the landed revision only,
and publication looks in the published Workspace only. A Landing therefore carries
every resolution of its members exactly as far as nothing happened outside what
the two look at (**`conflictsCarried_of_settled`**).

The statements speak about positions of the trace: a revision is published at one
position and lands at a later one.
-/

namespace Anyam.ChangeControl

open Anyam.Lib Anyam.Kernel LocalChangeCoordinator LocalSystem

/-! ## What a transition shows -/

/-- The Change Revision an operation published, by its reply. -/
def publishedBy : Reply → Option ChangeRevision
  | .revision revision => some revision
  | .rebased _ revision => some revision
  | _ => none

/-- The Conflict an operation registered. -/
def registeredBy : Operation → Reply → Option Conflict
  | .registerConflict .., .conflict conflict => some conflict
  | _, _ => none

/-- The members an operation landed. -/
def landedBy : Operation → Reply → List LandingMember
  | .landCohort input _ _, .landing _ => input.members
  | _, _ => []

/-- The Conflict was known and resolved in a state. -/
def ResolvedIn (c : LocalChangeCoordinator) (conflict : Conflict) : Prop :=
  ∃ old ∈ c.conflicts.values, old.id = conflict.id ∧ old.changeId = conflict.changeId ∧
    old.state = .resolved

/-- All Conflicts of the Change are resolved, and were in the earlier state. -/
def AllCarried (earlier : LocalChangeCoordinator) (changeId : String)
    (c : LocalChangeCoordinator) : Prop :=
  ∀ conflict ∈ c.conflicts.values, conflict.changeId = changeId →
    conflict.state = .resolved ∧ ResolvedIn earlier conflict

instance (c : LocalChangeCoordinator) (conflict : Conflict) : Decidable (ResolvedIn c conflict) :=
  inferInstanceAs (Decidable (∃ old ∈ c.conflicts.values, _ ∧ _ ∧ _))

instance (earlier : LocalChangeCoordinator) (changeId : String) (c : LocalChangeCoordinator) :
    Decidable (AllCarried earlier changeId c) :=
  inferInstanceAs (Decidable (∀ conflict ∈ c.conflicts.values, _ → _ ∧ ResolvedIn earlier conflict))

/-- Every Landing of the trace finds its members without open Conflicts, and with
every Conflict resolved already when the landed revision was published. -/
def ConflictsCarried (tr : List (Transition LocalSystem Operation Reply)) : Prop :=
  ∀ i < tr.length, ∀ landing ∈ tr[i]?, ∀ member ∈ landedBy landing.op landing.reply,
    ∃ j < i, ∃ publication ∈ tr[j]?, ∃ revision ∈ publishedBy publication.reply,
      revision.id = member.changeRevisionId ∧
        AllCarried publication.pre.control member.changeId landing.pre.control

/-- The Change has no open Conflict in a Workspace other than the revision's. -/
def NoneOpenElsewhere (c : LocalChangeCoordinator) (revision : ChangeRevision) : Prop :=
  ∀ conflict ∈ c.conflicts.values, conflict.changeId = revision.changeId →
    some conflict.workspaceId ≠ revision.workspaceId → conflict.state ≠ .«open»

instance (c : LocalChangeCoordinator) (revision : ChangeRevision) :
    Decidable (NoneOpenElsewhere c revision) :=
  inferInstanceAs (Decidable (∀ conflict ∈ c.conflicts.values, _ → _ → _))

/-- No Conflict is registered against the Change between the two positions. -/
def NoneRegistered (tr : List (Transition LocalSystem Operation Reply)) (changeId : String)
    (j i : Nat) : Prop :=
  ∀ k < i, j < k → ∀ t ∈ tr[k]?, ∀ conflict ∈ registeredBy t.op t.reply,
    conflict.changeId ≠ changeId

instance (tr : List (Transition LocalSystem Operation Reply)) (changeId : String) (j i : Nat) :
    Decidable (NoneRegistered tr changeId j i) :=
  inferInstanceAs (Decidable (∀ k < i, _ → ∀ t ∈ tr[k]?,
    ∀ conflict ∈ registeredBy t.op t.reply, _))

/-- When a landed revision was published, its Change had no open Conflict in another
Workspace; and no Conflict was registered against the Change from then to the
Landing. -/
def SettledLandings (tr : List (Transition LocalSystem Operation Reply)) : Prop :=
  ∀ i < tr.length, ∀ j < i, ∀ landing ∈ tr[i]?, ∀ publication ∈ tr[j]?,
    ∀ revision ∈ publishedBy publication.reply,
      (∃ member ∈ landedBy landing.op landing.reply, member.changeRevisionId = revision.id) →
      NoneOpenElsewhere publication.pre.control revision ∧
        NoneRegistered tr revision.changeId j i

namespace LocalSystem

variable {s s' : LocalSystem} {op : Operation} {reply : Reply}

theorem eq_resolved_of_ne_open {state : ConflictState} (h : state ≠ .«open») :
    state = .resolved := by
  cases state with
  | «open» => exact absurd rfl h
  | resolved => rfl

/-- A publication finds the Conflicts of its own Workspace resolved. -/
theorem Effect.carried_of_published (h : Effect s op reply s') (hk : s.control.Keyed)
    {revision : ChangeRevision} (hpub : publishedBy reply = some revision)
    (helse : NoneOpenElsewhere s.control revision) :
    AllCarried s.control revision.changeId s'.control := by
  -- none open in the published Workspace, none elsewhere: all of them are resolved
  have hall : ∀ {changeId workspaceId : String}, revision.changeId = changeId →
      revision.workspaceId = some workspaceId →
      (∀ conflict ∈ s.control.conflictsOf changeId workspaceId, conflict.state ≠ .«open») →
      ∀ conflict ∈ (markResolutions s.control.conflicts
          (s.control.conflictsOf changeId workspaceId) revision.id).values,
        conflict.changeId = revision.changeId →
          conflict.state = .resolved ∧ ResolvedIn s.control conflict := by
    intro changeId workspaceId howner hplace hopen conflict hconflict hchange
    obtain ⟨old, hmem, resolution, rfl⟩ := mem_marked hk.conflicts hconflict
    have hstate : old.state = .resolved := by
      refine eq_resolved_of_ne_open ?_
      by_cases hws : old.workspaceId = workspaceId
      · exact hopen old (mem_conflictsOf.mpr ⟨hmem, hchange.trans howner, hws⟩)
      · refine helse old hmem hchange fun heq => hws ?_
        rw [hplace] at heq
        exact Option.some.inj heq
    exact ⟨hstate, old, hmem, rfl, rfl, hstate⟩
  cases h with
  | unchanged hreply =>
    rcases hreply with rfl | ⟨failure, rfl⟩
    · cases hpub
    · cases hpub
  | abandoned | createdWorkspace | createdChange | registered | resolved | suspended | restored
  | handedOff | reverted | landed => cases hpub
  | published hpublishable =>
    cases hpub
    exact hall rfl rfl hpublishable.noOpen
  | rebased _ _ hpublishes =>
    cases hpub
    unfold AllCarried
    rw [afterRebase_conflicts]
    exact hall rfl rfl hpublishes.2

/-- As long as no Conflict is registered against the Change, its Conflicts stay
carried. -/
theorem Effect.carried {earlier : LocalChangeCoordinator} {changeId : String}
    (h : Effect s op reply s') (hk : s.control.Keyed)
    (hnone : ∀ conflict ∈ registeredBy op reply, conflict.changeId ≠ changeId)
    (hc : AllCarried earlier changeId s.control) : AllCarried earlier changeId s'.control := by
  have hmarked : ∀ {changeId' workspaceId revisionId : String},
      ∀ conflict ∈ (markResolutions s.control.conflicts
          (s.control.conflictsOf changeId' workspaceId) revisionId).values,
        conflict.changeId = changeId → conflict.state = .resolved ∧ ResolvedIn earlier conflict := by
    intro changeId' workspaceId revisionId conflict hconflict hchange
    obtain ⟨old, hmem, resolution, rfl⟩ := mem_marked hk.conflicts hconflict
    exact hc old hmem hchange
  cases h with
  | unchanged | abandoned | createdWorkspace | createdChange | suspended | restored | handedOff
  | reverted | landed => exact hc
  | registered =>
    exact OrderedMap.forall_values_set hc fun hchange => absurd hchange (hnone _ rfl)
  | resolved hconflict =>
    have hold := hc _ (OrderedMap.mem_values_of_get? hconflict)
    exact OrderedMap.forall_values_set hc fun hchange => ⟨rfl, (hold hchange).2⟩
  | published => exact hmarked
  | rebased =>
    unfold AllCarried
    rw [afterRebase_conflicts]
    exact hmarked

/-- What a step does to the stored revisions: nothing, or one more under a new
id. -/
theorem Effect.revisions_cases (h : Effect s op reply s') (hf : s.Fresh op) :
    (publishedBy reply = none ∧ s'.control.revisions = s.control.revisions) ∨
      ∃ revision, publishedBy reply = some revision ∧
        revision.id ∉ s.control.revisions.keys ∧
        s'.control.revisions = s.control.revisions.set revision.id revision := by
  cases h with
  | unchanged hreply =>
    rcases hreply with rfl | ⟨failure, rfl⟩
    · exact .inl ⟨rfl, rfl⟩
    · exact .inl ⟨rfl, rfl⟩
  | abandoned | createdWorkspace | createdChange | registered | resolved | suspended | restored
  | handedOff | reverted | landed => exact .inl ⟨rfl, rfl⟩
  | published => exact .inr ⟨_, rfl, hf.1, rfl⟩
  | rebased => exact .inr ⟨_, rfl, hf.2.1, afterRebase_revisions⟩

/-- The stored revisions are the published ones. -/
structure Stored (tr : List (Transition LocalSystem Operation Reply)) (s : LocalSystem) : Prop where
  kept : ∀ t ∈ tr, ∀ revision ∈ publishedBy t.reply,
    s.control.revisions.get? revision.id = some revision
  published : ∀ id revision, s.control.revisions.get? id = some revision →
    ∃ t ∈ tr, publishedBy t.reply = some revision

theorem Stored.step {tr : List (Transition LocalSystem Operation Reply)}
    {t : Transition LocalSystem Operation Reply} (hst : Stored tr t.pre)
    (heff : Effect t.pre t.op t.reply t.post) (hf : t.pre.Fresh t.op) :
    Stored (tr ++ [t]) t.post := by
  rcases heff.revisions_cases hf with ⟨hnone, hrevisions⟩ | ⟨revision, hpub, hnew, hrevisions⟩
  · refine ⟨fun x hx other hother => ?_, fun id other hget => ?_⟩
    · rw [hrevisions]
      rcases List.mem_append.mp hx with hold | hlast
      · exact hst.kept x hold other hother
      · rw [List.mem_singleton.mp hlast, hnone] at hother
        cases hother
    · rw [hrevisions] at hget
      obtain ⟨x, hx, hpub⟩ := hst.published id other hget
      exact ⟨x, List.mem_append_left _ hx, hpub⟩
  · refine ⟨fun x hx other hother => ?_, fun id other hget => ?_⟩
    · rw [hrevisions]
      rcases List.mem_append.mp hx with hold | hlast
      · have hget := hst.kept x hold other hother
        have hne : other.id ≠ revision.id := fun heq =>
          hnew (heq ▸ OrderedMap.mem_keys_of_get? hget)
        rw [OrderedMap.get?_set_ne _ _ hne]
        exact hget
      · rw [List.mem_singleton.mp hlast, hpub] at hother
        cases hother
        exact OrderedMap.get?_set_self _ _ _
    · rw [hrevisions, OrderedMap.get?_set] at hget
      split at hget
      · cases hget
        exact ⟨t, List.mem_append_right _ (List.mem_singleton.mpr rfl), hpub⟩
      · obtain ⟨x, hx, hpub'⟩ := hst.published id other hget
        exact ⟨x, List.mem_append_left _ hx, hpub'⟩

end LocalSystem

section Run

variable {text : UnicodeText} {project : Project} {canonicalRevision : ProjectRevision}
  {tr : List (Transition LocalSystem Operation Reply)} {s : LocalSystem}

theorem stored_of_run (hrun : RunFrom text project canonicalRevision Fresh tr s) :
    Sound s ∧ Stored tr s := by
  have hstored : Stored [] (initial project canonicalRevision) :=
    ⟨fun _ h => (nomatch h), fun _ _ h => nomatch h⟩
  exact sound_traceInvariant (sound_initial _ _) Stored (fun _ _ h => h) hstored
    (fun _ _ hst _ hf heff => hst.step heff hf) hrun

/-- A landed member's revision is stored, and belongs to the member's Change. -/
theorem landed_revision {op : Operation} {reply : Reply} {s' : LocalSystem}
    (heff : Effect s op reply s') (hk : s.control.Keyed) {member : LandingMember}
    (hmember : member ∈ landedBy op reply) :
    ∃ revision, s.control.revisions.get? member.changeRevisionId = some revision ∧
      revision.id = member.changeRevisionId ∧ revision.changeId = member.changeId := by
  cases heff with
  | unchanged hreply =>
    rcases hreply with rfl | ⟨failure, rfl⟩
    · cases op <;> cases hmember
    · cases op <;> cases hmember
  | landed hland =>
    obtain ⟨sel, -, hready⟩ := exists_right_of_mem hland.members hmember
    refine ⟨sel.revision, hready.knownRevision, hk.revisions _ _ hready.knownRevision, ?_⟩
    rw [hready.owned, hk.changes _ _ hready.knownChange]
  | _ => cases hmember

/-- From its publication to its Landing, a settled revision keeps the Conflicts of
its Change carried. -/
theorem carried_between {i j : Nat} {landing publication : Transition LocalSystem Operation Reply}
    {revision : ChangeRevision} (hrun : RunFrom text project canonicalRevision Fresh tr s)
    (hi : tr[i]? = some landing) (hj : tr[j]? = some publication) (hij : j < i)
    (hpub : publishedBy publication.reply = some revision)
    (helse : NoneOpenElsewhere publication.pre.control revision)
    (hnone : NoneRegistered tr revision.changeId j i) :
    AllCarried publication.pre.control revision.changeId landing.pre.control := by
  obtain ⟨hbefore, hpubEq, -, hrest⟩ := hrun.at_position hj
  -- the Landing is at position `i - (j + 1)` of the run after the publication
  have hi' : (tr.drop (j + 1))[i - (j + 1)]? = some landing := by
    rw [List.getElem?_drop, ← hi]
    congr 1
    omega
  obtain ⟨hbetween, -, -, -⟩ := hrest.at_position hi'
  have hkeyed : publication.pre.control.Keyed := keyed_of_run hbefore
  have heff := effect_of_eq hpubEq
  have hstart := heff.carried_of_published hkeyed hpub helse
  -- along the part in between, nothing registers against the Change
  have hsegment : ∀ t ∈ (tr.drop (j + 1)).take (i - (j + 1)),
      ∀ conflict ∈ registeredBy t.op t.reply, conflict.changeId ≠ revision.changeId := by
    intro t ht conflict hconflict
    obtain ⟨n, hn, rfl⟩ := List.mem_iff_getElem.mp ht
    rw [List.length_take] at hn
    have hget : tr[j + 1 + n]? = some ((tr.drop (j + 1)).take (i - (j + 1)))[n] := by
      rw [← List.getElem?_eq_getElem, List.getElem?_take_of_lt (by omega), List.getElem?_drop]
    exact hnone (j + 1 + n) (by omega) (by omega) _ hget conflict hconflict
  have hinv := hbetween.traceInvariant (fun tr' s => s.control.Keyed ∧
    ((∀ t ∈ tr', ∀ conflict ∈ registeredBy t.op t.reply,
      conflict.changeId ≠ revision.changeId) →
        AllCarried publication.pre.control revision.changeId s.control))
    ⟨heff.keyed hkeyed, fun _ => hstart⟩ (by
      rintro tr' s op ⟨hk, hcarried⟩ -
      have heff := step_effect text op s
      refine ⟨heff.keyed hk, fun hall => heff.carried hk ?_ (hcarried fun t ht => hall t ?_)⟩
      · exact hall (.of (step text) s op) (by simp)
      · exact List.mem_append_left _ ht)
  exact hinv.2 hsegment

/-- **Resolutions are carried** by the landed revisions of every run whose landings
are settled. -/
theorem conflictsCarried_of_settled (hrun : RunFrom text project canonicalRevision Fresh tr s)
    (hsettled : SettledLandings tr) : ConflictsCarried tr := by
  intro i hi landing hlanding member hmember
  obtain ⟨hbefore, hlandEq, -, -⟩ := hrun.at_position hlanding
  obtain ⟨hs, hst⟩ := stored_of_run hbefore
  obtain ⟨revision, hget, hid, howner⟩ :=
    landed_revision (effect_of_eq hlandEq) hs.keyed hmember
  obtain ⟨publication, hmem, hpub⟩ := hst.published _ _ hget
  -- the publication is at some position before the Landing
  obtain ⟨j, hj, rfl⟩ := List.mem_iff_getElem.mp hmem
  rw [List.length_take] at hj
  have hgetj : tr[j]? = some (tr.take i)[j] := by
    rw [← List.getElem?_eq_getElem, List.getElem?_take_of_lt (by omega)]
  refine ⟨j, by omega, _, hgetj, revision, hpub, hid, ?_⟩
  obtain ⟨helse, hnone⟩ := hsettled i hi j (by omega) landing hlanding _ hgetj revision hpub
    ⟨member, hmember, hid.symm⟩
  rw [← howner]
  exact carried_between hrun hlanding hgetj (by omega) hpub helse hnone

end Run

namespace Sample

/-- A Conflict of `change:A` is resolved, then the Change publishes and lands. -/
def resolvedThenLanded : List Operation :=
  startChange "A" ++
    [.registerConflict (conflictIn "change:A" "workspace:A") "k", .resolveConflict "conflict:k",
     publish "change:A" (some "v") "a", land [⟨"change:A", "change-revision:a"⟩] "r0" "p"]

/-- A Conflict of `change:A` is left open in the Workspace the Change is rebased
away from, and the rebased revision lands. -/
def landedAroundConflict : List Operation :=
  startChange "A" ++
    [.registerConflict (conflictIn "change:A" "workspace:A") "k",
     .beginRebase (rebaseInput "change:A" "r0" "c"), .finishRebase 0 .written "2" "a",
     land [⟨"change:A", "change-revision:a"⟩] "r0" "p"]

end Sample

theorem conflictsCarried_of_settled_sample :
    ConflictsCarried (Sample.ran Sample.resolvedThenLanded).1 := by
  refine conflictsCarried_of_settled (run_exec (by decide +kernel)) ?_
  unfold SettledLandings
  decide +kernel

/-- A Landing goes through with an open Conflict registered against its member. -/
theorem landing_with_open_conflict :
    Admits (step Sample.ascii) AllFresh (.initial Sample.project Sample.canonicalRevision)
        Sample.landedAroundConflict ∧
      ¬ ConflictsCarried (Sample.ran Sample.landedAroundConflict).1 := by
  refine ⟨by decide +kernel, ?_⟩
  unfold ConflictsCarried
  decide +kernel

end Anyam.ChangeControl
