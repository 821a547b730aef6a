import Anyam.ChangeControl.Lineage
import Anyam.Lib.VersionChain

/-!
# Revisions of a Change, with rebases in flight

`rebaseChange` reads its Change, waits, and writes the Change it read. The
published revisions of a Change stay one version chain, and no Landing is
overwritten, in every run in which the Change a rebase finishes on is still the
record it read and no Change id is used twice (**`noLostUpdate_of_run`**).
-/

namespace Anyam.ChangeControl

open Anyam.Lib Anyam.Kernel LocalChangeCoordinator

/-- The published revisions of a Change, oldest first. -/
def revisionsOf (c : LocalChangeCoordinator) (changeId : String) : List ChangeRevision :=
  c.revisions.values.filter fun revision => revision.changeId = changeId

/-- The revisions of a Change are numbered 1, 2, ..., each names the one before,
and the Change names the last. -/
structure Revisions (c : LocalChangeCoordinator) (changeId : String) : Prop where
  chain : VersionChain ChangeRevision.id ChangeRevision.parentRevisionId ChangeRevision.sequence
    (revisionsOf c changeId)
  latest : ∀ change, c.changes.get? changeId = some change →
    change.latestRevisionId = (revisionsOf c changeId).getLast?.map ChangeRevision.id

/-- A step that publishes nothing and moves no Change's latest revision keeps the
chains. -/
theorem Revisions.congr {c c' : LocalChangeCoordinator} {changeId : String}
    (h : Revisions c changeId) (hrevisions : c'.revisions = c.revisions)
    (hlatest : ∀ change', c'.changes.get? changeId = some change' →
      (∃ change, c.changes.get? changeId = some change ∧
        change'.latestRevisionId = change.latestRevisionId) ∨
      change'.latestRevisionId = none ∧ revisionsOf c changeId = []) : Revisions c' changeId := by
  have hlist : revisionsOf c' changeId = revisionsOf c changeId := by
    rw [revisionsOf, revisionsOf, hrevisions]
  refine ⟨hlist ▸ h.chain, fun change' hget => ?_⟩
  rw [hlist]
  rcases hlatest change' hget with ⟨change, hold, heq⟩ | ⟨hnone, hempty⟩
  · rw [heq]
    exact h.latest change hold
  · rw [hnone, hempty]
    rfl

namespace LocalSystem

variable {s s' : LocalSystem} {op : Operation} {reply : Reply}

/-- A finishing rebase finds its Change as it read it, and a new Change does not
take the id of a known one. -/
def Undisturbed (s : LocalSystem) : Operation → Prop
  | .finishRebase index storage _ _ => storage = .written →
    ∀ call ∈ s.inFlight[index]?, s.control.changes.get? call.change.id = some call.change
  | .createChange input _ => ∀ id ∈ input.id, id ∉ s.control.changes.keys
  | .revertChange input _ => ∀ id ∈ input.id, id ∉ s.control.changes.keys
  | _ => True

instance (s : LocalSystem) : (op : Operation) → Decidable (s.Undisturbed op)
  | .finishRebase .. => inferInstanceAs (Decidable (_ → ∀ call ∈ _, _ = _))
  | .createChange .. | .revertChange .. => inferInstanceAs (Decidable (∀ id ∈ _, id ∉ _))
  | .createWorkspace .. | .registerConflict .. | .resolveConflict _ | .publishRevision ..
  | .beginRebase _ | .handoffChange .. | .landCohort .. => .isTrue trivial

/-- A call with fresh generated ids that disturbs no rebase. -/
def UndisturbedCall (s : LocalSystem) (op : Operation) : Prop := s.Fresh op ∧ s.Undisturbed op

instance (s : LocalSystem) (op : Operation) : Decidable (s.UndisturbedCall op) :=
  inferInstanceAs (Decidable (_ ∧ _))

/-! ## The chain -/

structure ChainInv (s : LocalSystem) : Prop where
  revisions : ∀ changeId, Revisions s.control changeId
  known : ∀ revision ∈ s.control.revisions.values,
    revision.changeId ∈ s.control.changes.keys ∧ revision.id ≠ ""

theorem chainInv_initial (project : Project) (canonicalRevision : ProjectRevision) :
    ChainInv (initial project canonicalRevision) := by
  have hnone : ∀ changeId, revisionsOf (initial project canonicalRevision).control changeId = [] :=
    fun _ => rfl
  refine ⟨fun changeId => ⟨?_, fun _ h => nomatch h⟩, fun _ h => nomatch h⟩
  rw [hnone]
  exact VersionChain.nil

/-- A Change without revisions is what a new id names. -/
theorem ChainInv.revisionsOf_new (h : ChainInv s) {changeId : String}
    (hnew : changeId ∉ s.control.changes.keys) : revisionsOf s.control changeId = [] := by
  rw [revisionsOf, List.filter_eq_nil_iff]
  intro revision hrevision hid
  rw [decide_eq_true_eq] at hid
  exact hnew (hid ▸ (h.known revision hrevision).1)

/-- The prior revision `publishRevision` looks up is the last one of its Change. -/
theorem ChainInv.prior (h : ChainInv s) (hk : s.control.Keyed) {changeId : String}
    {change : Change} (hlatest : change.latestRevisionId =
      (revisionsOf s.control changeId).getLast?.map ChangeRevision.id) :
    (truthy change.latestRevisionId).bind s.control.revisions.get? =
      (revisionsOf s.control changeId).getLast? := by
  cases hlast : (revisionsOf s.control changeId).getLast? with
  | none =>
    rw [hlatest, hlast]
    rfl
  | some revision =>
    have hmem : revision ∈ s.control.revisions.values :=
      List.mem_of_mem_filter (List.mem_of_getLast? hlast)
    obtain ⟨id, hget⟩ := OrderedMap.mem_values_iff.mp hmem
    have htruthy : truthy change.latestRevisionId = some revision.id := by
      rw [truthy_eq_some, hlatest, hlast]
      exact ⟨rfl, (h.known revision hmem).2⟩
    rw [htruthy, Option.bind_some, hk.revisions _ _ hget, hget]

/-- Publishing the next revision of a Change extends its chain and leaves the
others. -/
theorem ChainInv.publish (h : ChainInv s) {c' : LocalChangeCoordinator} {change change' : Change}
    {revision : ChangeRevision} {prior : Option ChangeRevision}
    (hprior : prior = (revisionsOf s.control change.id).getLast?)
    (hseq : revision.sequence = (prior.map ChangeRevision.sequence).getD 0 + 1)
    (hparent : revision.parentRevisionId = prior.map ChangeRevision.id)
    (howner : revision.changeId = change.id)
    (hnew : revision.id ∉ s.control.revisions.keys)
    (hrevisions : c'.revisions = s.control.revisions.set revision.id revision)
    (hchanges : ∀ id, c'.changes.get? id =
      if id = change.id then some change' else s.control.changes.get? id)
    (hlatest : change'.latestRevisionId = some revision.id) (changeId : String) :
    Revisions c' changeId := by
  have hold := h.revisions changeId
  have hvalues : c'.revisions.values = s.control.revisions.values ++ [revision] := by
    rw [hrevisions]
    exact OrderedMap.values_set_of_not_mem revision hnew
  by_cases hid : changeId = change.id
  · have hlist : revisionsOf c' changeId = revisionsOf s.control changeId ++ [revision] := by
      rw [revisionsOf, hvalues, List.filter_append]
      simp [revisionsOf, howner, hid]
    rw [← hid] at hprior
    subst hprior
    refine ⟨?_, fun change₀ hget => ?_⟩
    · rw [hlist]
      exact hold.chain.snoc hseq hparent
    · rw [hchanges, if_pos hid] at hget
      cases hget
      rw [hlist, hlatest, List.getLast?_append]
      rfl
  · have hlist : revisionsOf c' changeId = revisionsOf s.control changeId := by
      have hne : revision.changeId ≠ changeId := fun heq => hid (heq.symm.trans howner)
      rw [revisionsOf, hvalues, List.filter_append]
      simp [revisionsOf, hne]
    refine ⟨hlist ▸ hold.chain, fun change₀ hget => ?_⟩
    rw [hchanges, if_neg hid] at hget
    rw [hlist]
    exact hold.latest change₀ hget

theorem Effect.revisionsOf_chain (h : Effect s op reply s') (hs : Sound s)
    (hok : s.UndisturbedCall op) (hc : ChainInv s) (changeId : String) :
    Revisions s'.control changeId := by
  obtain ⟨hfresh, hundisturbed⟩ := hok
  have hold := hc.revisions changeId
  -- a new Change has no revisions and names none
  have hadded : ∀ {change : Change}, change.id ∉ s.control.changes.keys →
      change.latestRevisionId = none → ∀ change',
        (s.control.changes.set change.id change).get? changeId = some change' →
          (∃ old, s.control.changes.get? changeId = some old ∧
            change'.latestRevisionId = old.latestRevisionId) ∨
          change'.latestRevisionId = none ∧ revisionsOf s.control changeId = [] := by
    intro change hnew hnone change' hget
    rw [OrderedMap.get?_set] at hget
    split at hget
    · rename_i hid
      cases hget
      exact .inr ⟨hnone, hc.revisionsOf_new (hid ▸ hnew)⟩
    · exact .inl ⟨change', hget, rfl⟩
  cases h with
  | unchanged | abandoned | createdWorkspace | registered | resolved | suspended | handedOff =>
    exact hold.congr rfl fun change' hget => .inl ⟨change', hget, rfl⟩
  | createdChange _ _ _ hid _ _ hlatest =>
    exact hold.congr rfl (hadded (hid ▸ not_mem_getD hfresh hundisturbed) hlatest)
  | reverted =>
    exact hold.congr rfl (hadded (not_mem_getD hfresh hundisturbed) rfl)
  | @published input uuid change ws hpub =>
    have hlatest := (hc.revisions _).latest change hpub.known
    rw [← hs.keyed.changes _ _ hpub.known] at hlatest
    have hchanges := fun id => OrderedMap.get?_set s.control.changes change.id id
      (updatedChange change ws (s.control.publishedRevision input uuid change ws))
    exact hc.publish (hc.prior hs.keyed hlatest) rfl rfl rfl hfresh.1 rfl hchanges rfl changeId
  | @rebased index workspaceUuid revisionUuid call rebased hcall hrebased =>
    have hread := hundisturbed rfl call hcall
    have hlatest := (hc.revisions _).latest call.change hread
    exact hc.publish (hc.prior hs.keyed hlatest) rfl rfl rfl hfresh.2.1 afterRebase_revisions
      afterRebase_changes_get? rfl changeId
  | restored hcall hrebased hrefused =>
    exact absurd (hrebased ▸ hs.rebasePublishes hcall hfresh.1) hrefused
  | landed hland =>
    refine hold.congr rfl fun change' hget => .inl ?_
    rcases markLanded_get?_cases hget with hkept | ⟨sel, hsel, hid, rfl⟩
    · exact ⟨change', hkept, rfl⟩
    · obtain ⟨member, -, hready⟩ := hland.ready hsel
      have hknown := hready.knownChange
      rw [← hs.keyed.changes _ _ hknown, hid] at hknown
      exact ⟨sel.change, hknown, rfl⟩

theorem Effect.chainInv (h : Effect s op reply s') (hs : Sound s) (hok : s.UndisturbedCall op)
    (hc : ChainInv s) : ChainInv s' := by
  refine ⟨h.revisionsOf_chain hs hok hc, ?_⟩
  have hext := h.extends hs hok.1
  have hold : ∀ revision ∈ s.control.revisions.values,
      revision.changeId ∈ s'.control.changes.keys ∧ revision.id ≠ "" := fun revision hmem =>
    ⟨hext.changes (hc.known revision hmem).1, (hc.known revision hmem).2⟩
  cases h with
  | unchanged | abandoned | createdWorkspace | createdChange | registered | resolved | suspended
  | restored | handedOff | reverted | landed => exact hold
  | published hpub =>
    refine OrderedMap.forall_values_set hold ⟨?_, opaqueId_ne_empty _ _⟩
    exact OrderedMap.mem_keys_set.mpr (.inl rfl)
  | rebased hcall =>
    rw [afterRebase_revisions]
    exact OrderedMap.forall_values_set hold
      ⟨hext.changes (hs.call hcall).changeId, opaqueId_ne_empty _ _⟩

/-! ## A Landing made while a rebase waits -/

/-- A landed Change is no longer based on the canonical revision. -/
def LandedOffBase (s : LocalSystem) : Prop :=
  ∀ change ∈ s.control.changes.values, change.status = .landed →
    change.baseProjectRevisionId ≠ s.control.canonical.id

theorem Effect.landedOffBase (h : Effect s op reply s') (hs : Sound s) (hf : s.Fresh op)
    (hl : LandedOffBase s) : LandedOffBase s' := by
  have hknown := h.changes_known hs hf
  cases h with
  | unchanged | abandoned | createdWorkspace | registered | resolved | suspended | handedOff =>
    exact hl
  | createdChange _ _ _ _ _ hstatus =>
    refine OrderedMap.forall_values_set hl fun hlanded => ?_
    rw [hstatus] at hlanded
    cases hlanded
  | published | reverted => exact OrderedMap.forall_values_set hl nofun
  | rebased =>
    unfold LandedOffBase
    rw [afterRebase_changes, afterRebase_canonical]
    exact OrderedMap.forall_values_set (OrderedMap.forall_values_set hl nofun) nofun
  | restored hcall hrebased hrefused =>
    exact absurd (hrebased ▸ hs.rebasePublishes hcall hf.1) hrefused
  | landed hland =>
    -- every base was known before, and the new canonical id was not
    intro change hchange _ heq
    have hknown := (landing_changes_known hs hland change hchange).1
    rw [heq] at hknown
    exact hf hknown

/-- The canonical revision is the one of `m`, or was not known in `m`. -/
def CanonicalSince (m s : LocalSystem) : Prop :=
  Extends m.control s.control ∧
    (s.control.canonical.id = m.control.canonical.id ∨
      s.control.canonical.id ∉ m.control.projectRevisions.keys)

theorem Effect.canonicalSince {m : LocalSystem} (h : Effect s op reply s') (hs : Sound s)
    (hf : s.Fresh op) (hc : CanonicalSince m s) : CanonicalSince m s' := by
  refine ⟨hc.1.trans (h.extends hs hf), ?_⟩
  rcases h.lineage_cases hf with
    ⟨input, revisionUuid, landingUuid, selected, next, landing, rfl, -, -, rfl⟩ |
    ⟨-, -, hcanonical, -⟩
  · exact .inr fun hmem => hf (hc.1.projectRevisions hmem)
  · rw [hcanonical]
    exact hc.2

/-- The Change `landed` was landed after `m`, and no later record of it is one that
could have been read in `m`: it is still that record, or its latest revision was
published after `m`. -/
structure Superseded (m : LocalSystem) (landed : Change) (s : LocalSystem) : Prop where
  extend : Extends m.control s.control
  record : ∃ change, s.control.changes.get? landed.id = some change ∧
    (change = landed ∨ ∃ id ∈ change.latestRevisionId, id ∉ m.control.revisions.keys)

theorem Effect.superseded {m : LocalSystem} {landed : Change} (h : Effect s op reply s')
    (hs : Sound s) (hok : s.UndisturbedCall op) (hlanded : landedChange landed = landed)
    (hsup : Superseded m landed s) : Superseded m landed s' := by
  obtain ⟨hf, hundisturbed⟩ := hok
  refine ⟨hsup.extend.trans (h.extends hs hf), ?_⟩
  obtain ⟨change, hget, hrecord⟩ := hsup.record
  have hmem := OrderedMap.mem_keys_of_get? hget
  -- a record under another key leaves this one
  have hother : ∀ {k : String} {v : Change}, k ≠ landed.id →
      ∃ change, (s.control.changes.set k v).get? landed.id = some change ∧
        (change = landed ∨ ∃ id ∈ change.latestRevisionId, id ∉ m.control.revisions.keys) :=
    fun hne => ⟨change, (OrderedMap.get?_set_ne _ _ hne.symm).trans hget, hrecord⟩
  -- a revision published now was not known in `m`
  have hpublished : ∀ {uuid : String}, s.NewRevisionId (opaqueId "change-revision" uuid) →
      opaqueId "change-revision" uuid ∉ m.control.revisions.keys := fun hnew hold =>
    hnew.1 (hsup.extend.revisions hold)
  cases h with
  | unchanged | abandoned | createdWorkspace | registered | resolved | suspended | handedOff =>
    exact ⟨change, hget, hrecord⟩
  | createdChange _ _ _ hid =>
    exact hother fun heq => not_mem_getD hf hundisturbed (hid ▸ heq ▸ hmem)
  | @reverted input _ landed' ws =>
    have hnew : (s.control.revertingChange input _ landed' ws).id ∉ s.control.changes.keys :=
      not_mem_getD hf hundisturbed
    exact hother fun heq => hnew (heq ▸ hmem)
  | @published _ _ change' _ hpub =>
    by_cases hid : change'.id = landed.id
    · rw [← hid]
      exact ⟨_, OrderedMap.get?_set_self _ _ _, .inr ⟨_, rfl, hpublished hf⟩⟩
    · exact hother hid
  | rebased =>
    simp only [afterRebase_changes_get?]
    split
    · exact ⟨_, rfl, .inr ⟨_, rfl, hpublished hf.2⟩⟩
    · exact ⟨change, hget, hrecord⟩
  | restored hcall hrebased hrefused =>
    exact absurd (hrebased ▸ hs.rebasePublishes hcall hf.1) hrefused
  | landed hland =>
    simp only [fileLanding, hland.marked hs.keyed]
    split
    · refine ⟨landedChange change, by rw [hget]; rfl, ?_⟩
      rcases hrecord with rfl | hnew
      · exact .inl hlanded
      · exact .inr hnew
    · exact ⟨change, hget, hrecord⟩

/-- A Landing after the read of a Change leaves a record that was not there to be
read. -/
theorem superseded_of_landing {m s s' : LocalSystem} {read : Change} {input : LandCohortInput}
    {revisionUuid landingUuid : String} {landing : Landing} (hm : Sound m)
    (hoff : LandedOffBase m) (hread : m.control.changes.get? read.id = some read)
    (hs : Sound s) (hf : s.Fresh (.landCohort input revisionUuid landingUuid))
    (hsince : CanonicalSince m s)
    (h : Effect s (.landCohort input revisionUuid landingUuid) (.landing landing) s')
    (hmember : read.id ∈ input.members.map LandingMember.changeId) :
    ∃ landed, landedChange landed = landed ∧ landed.id = read.id ∧ landed ≠ read ∧
      Superseded m landed s' := by
  have hext := h.extends hs hf
  rcases h.lineage_cases hf with
    ⟨_, _, _, selected, next, _, hop, -, hland, rfl⟩ | ⟨hnot, -⟩
  · cases hop
    obtain ⟨member, hmem, hid⟩ := List.mem_map.mp hmember
    obtain ⟨sel, hsel, hready⟩ := exists_right_of_mem hland.members hmem
    have hkey : sel.change.id = read.id := (hs.keyed.changes _ _ hready.knownChange).trans hid
    refine ⟨landedChange sel.change, rfl, hkey, fun heq => ?_,
      hsince.1.trans hext, landedChange sel.change, ?_, .inl rfl⟩
    · -- the record read would be landed on the canonical revision of the Landing
      have hbase : read.baseProjectRevisionId = s.control.canonical.id := by
        rw [← heq]
        exact (hland.based sel hsel).2
      have hstatus : read.status = .landed := by
        rw [← heq]
        rfl
      rcases hsince.2 with hsame | hnew
      · exact hoff read (OrderedMap.mem_values_of_get? hread) hstatus (hbase.trans hsame)
      · exact hnew (hbase ▸ (hm.change hread).1)
    · show (markLanded s.control.changes _).get? _ = _
      exact markLanded_of_mem (hland.changeIds hs.keyed ▸ hland.distinct) hsel
  · exact absurd ⟨landing, rfl⟩ hnot

end LocalSystem

open LocalSystem

section Run

variable {text : UnicodeText} {project : Project} {canonicalRevision : ProjectRevision}
  {tr : List (Transition LocalSystem Operation Reply)} {s : LocalSystem}

/-- The transition landed the Change. -/
def LandsChange (t : Transition LocalSystem Operation Reply) (changeId : String) : Prop :=
  ∃ input, LandingOf t input ∧ changeId ∈ input.members.map LandingMember.changeId

/-- The transition resumed the suspended call and wrote. -/
def Finishes (t : Transition LocalSystem Operation Reply) (call : RebaseCall) : Prop :=
  ∃ index workspaceUuid revisionUuid,
    t.op = .finishRebase index .written workspaceUuid revisionUuid ∧
      t.pre.inFlight[index]? = some call

/-- No update of a run is lost: every Change's revisions are one chain it names the
end of, and a Change landed while a rebase of it waited is still landed after the
rebase. -/
structure NoLostUpdate (tr : List (Transition LocalSystem Operation Reply)) (s : LocalSystem) :
    Prop where
  revisions : ∀ changeId, Revisions s.control changeId
  landings : ∀ before start between land' waiting finish after call,
    tr = before ++ start :: (between ++ land' :: (waiting ++ finish :: after)) →
    start.reply = .suspended call → LandsChange land' call.change.id → Finishes finish call →
    (finish.post.control.changes.get? call.change.id).map Change.status = some .landed

/-- **No lost update**, when every rebase finishes on the Change it read and Change
ids are not used twice. -/
theorem noLostUpdate_of_run (hrun : RunFrom text project canonicalRevision UndisturbedCall tr s) :
    NoLostUpdate tr s := by
  have hfresh : ∀ s op, UndisturbedCall s op → s.Fresh op := fun _ _ h => h.1
  refine ⟨?_, ?_⟩
  · exact (sound_invariant (sound_initial _ _) ChainInv hfresh (chainInv_initial _ _)
      (fun _ _ _ _ hc hs hok heff => heff.chainInv hs hok hc) hrun).2.revisions
  · rintro before start between land' waiting finish after call rfl hsuspended
      ⟨input, ⟨revisionUuid, landingUuid, landing, hop, hreply⟩, hmember⟩
      ⟨index, workspaceUuid, revisionUuid', hfinish, hcall⟩
    obtain ⟨hbefore, hstartEq, hstartOk, hrest⟩ := hrun.split
    obtain ⟨hbetween, hlandEq, hlandOk, hrest⟩ := hrest.split
    obtain ⟨hwaiting, hfinishEq, hfinishOk, -⟩ := hrest.split
    -- the state the Change was read in
    obtain ⟨hm, hoff⟩ := sound_invariant (sound_initial _ _) LandedOffBase hfresh
      (fun _ h => nomatch h) (fun _ _ _ _ hl hs hok heff => heff.landedOffBase hs hok.1 hl) hbefore
    have hstartEff := effect_of_eq hstartEq
    rw [hsuspended] at hstartEff
    obtain ⟨hread, hsame⟩ := hstartEff.suspended_reads hm.keyed
    -- from there to the Landing, and from the Landing to the end of the rebase
    have hsince : CanonicalSince start.pre start.post := by
      rw [CanonicalSince, hsame]
      exact ⟨.refl _, .inl rfl⟩
    obtain ⟨hs, hsince⟩ := sound_invariant (hstartEff.sound hm hstartOk.1)
      (CanonicalSince start.pre) hfresh hsince
      (fun _ _ _ _ hc hs hok heff => heff.canonicalSince hs hok.1 hc) hbetween
    have hlandEff := effect_of_eq hlandEq
    rw [hreply, hop] at hlandEff
    rw [hop] at hlandOk
    obtain ⟨landed, hfixed, hid, hne, hsup⟩ :=
      superseded_of_landing hm hoff hread hs hlandOk.1 hsince hlandEff hmember
    obtain ⟨-, hsup⟩ := sound_invariant (hlandEff.sound hs hlandOk.1)
      (Superseded start.pre landed) hfresh hsup
      (fun _ _ _ _ hsup hs hok heff => heff.superseded hs hok hfixed hsup) hwaiting
    -- so the rebase would not have found the record it read
    rw [hfinish] at hfinishOk
    have hfound := hfinishOk.2 rfl call hcall
    obtain ⟨change, hget, hrecord⟩ := hsup.record
    rw [hid, hfound] at hget
    cases hget
    rcases hrecord with heq | ⟨id, hlatest, hnew⟩
    · exact absurd heq.symm hne
    · exact absurd ((hm.change hread).2 id hlatest) hnew

end Run

namespace Sample

/-- `change:A` publishes, is rebased with nothing in between, and publishes. -/
def rebasedInTurn : List Operation :=
  startChange "A" ++
    [publish "change:A" (some "v") "a", .beginRebase (rebaseInput "change:A" "r0" "c"),
     .finishRebase 0 .written "2" "b", publish "change:A" (some "w") "d"]

/-- `change:A` publishes while a rebase of it waits. -/
def publishedMeanwhile : List Operation :=
  startChange "A" ++
    [.beginRebase (rebaseInput "change:A" "r0" "c"), publish "change:A" (some "v") "a",
     .finishRebase 0 .written "2" "b"]

end Sample

theorem noLostUpdate_of_run_sample :
    NoLostUpdate (Sample.ran Sample.rebasedInTurn).1 (Sample.ran Sample.rebasedInTurn).2 :=
  noLostUpdate_of_run (run_exec (by decide +kernel))

/-- The rebase writes the Change it read before the publication: both revisions are
number 1. -/
theorem stale_rebase_loses_revision :
    Admits (step Sample.ascii) AllFresh (.initial Sample.project Sample.canonicalRevision)
        Sample.publishedMeanwhile ∧
      ¬ NoLostUpdate (Sample.ran Sample.publishedMeanwhile).1
        (Sample.ran Sample.publishedMeanwhile).2 := by
  refine ⟨by decide +kernel, fun hlost => ?_⟩
  have hnumbers : (revisionsOf (Sample.ran Sample.publishedMeanwhile).2.control "change:A").map
      ChangeRevision.sequence = [1, 1] := by
    decide +kernel
  have hchain := (hlost.revisions "change:A").chain.numbered
  have hlength := congrArg List.length hnumbers
  rw [List.length_map] at hlength
  rw [hnumbers, hlength] at hchain
  exact absurd hchain (by decide)

end Anyam.ChangeControl
