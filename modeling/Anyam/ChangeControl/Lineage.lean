import Anyam.ChangeControl.Landing

/-!
# The lineage of Project Revisions

Only a Landing adds a Project Revision, and it adds one on top of the canonical
revision (`Effect.lineage_cases`). From that:

- **`projectRevisions_chain`**: the known Project Revisions are one chain from
  the constructor's to the canonical one, and no Change Revision landed twice.
- **`revertLaw_iff`**: which landed Change Revisions `revertChange` recognises.
-/

namespace Anyam.ChangeControl

open Anyam.Lib Anyam.Kernel LocalChangeCoordinator

namespace LocalSystem

variable {s s' : LocalSystem} {op : Operation} {reply : Reply}
  {text : UnicodeText} {project : Project} {canonicalRevision : ProjectRevision}
  {tr : List (Transition LocalSystem Operation Reply)}

/-- The step landed a cohort: what it checked and what it filed. -/
def LandingStep (s : LocalSystem) (op : Operation) (reply : Reply) (s' : LocalSystem) : Prop :=
  ∃ input revisionUuid landingUuid selected next landing,
    op = .landCohort input revisionUuid landingUuid ∧ reply = .landing landing ∧
      s.control.Landable input selected next ∧
      s' = s.withControl (s.control.fileLanding selected
        (s.control.landedRevision input.cohortId selected next revisionUuid))

/-- A step lands a cohort, or leaves the lineage as it is; any Change Revision
stored by then is an old one or has a new id. -/
theorem Effect.lineage_cases (h : Effect s op reply s') (hf : s.Fresh op) :
    LandingStep s op reply s' ∨
      (¬ (∃ landing, reply = .landing landing) ∧
        s'.control.projectRevisions = s.control.projectRevisions ∧
        s'.control.canonical = s.control.canonical ∧
        ∀ id revision, s'.control.revisions.get? id = some revision →
          s.control.revisions.get? id = some revision ∨
            s.NewRevisionId id ∧ id ≠ "" ∧ revision.id = id) := by
  cases h with
  | landed hland => exact .inl ⟨_, _, _, _, _, _, rfl, rfl, hland, rfl⟩
  | unchanged hreply =>
    refine .inr ⟨?_, rfl, rfl, fun _ _ h => .inl h⟩
    rintro ⟨landing, rfl⟩
    rcases hreply with hidle | ⟨failure, hfailed⟩
    · cases hidle
    · cases hfailed
  | abandoned | createdWorkspace | createdChange | registered | resolved | suspended | restored
  | handedOff | reverted => exact .inr ⟨nofun, rfl, rfl, fun _ _ h => .inl h⟩
  | published =>
    refine .inr ⟨nofun, rfl, rfl, fun id revision hget => ?_⟩
    rw [filePublished_revisions, OrderedMap.get?_set] at hget
    split at hget
    · rename_i hid
      cases hget
      subst hid
      exact .inr ⟨hf, opaqueId_ne_empty _ _, rfl⟩
    · exact .inl hget
  | rebased =>
    refine .inr ⟨nofun, afterRebase_projectRevisions, afterRebase_canonical,
      fun id revision hget => ?_⟩
    rw [afterRebase_revisions, OrderedMap.get?_set] at hget
    split at hget
    · rename_i hid
      cases hget
      subst hid
      exact .inr ⟨hf.2, opaqueId_ne_empty _ _, rfl⟩
    · exact .inl hget

/-! ## One chain, and no revision twice -/

/-- `b` names `a` as its parent. An empty id is left off the record, so only the
constructor's revision could go unnamed. -/
def LandedOn (a b : ProjectRevision) : Prop := b.parentProjectRevisionId = truthy (some a.id)

/-- The Change Revisions a Project Revision landed. -/
def landedIds (revision : ProjectRevision) : List String :=
  revision.landedChangeRevisionIds.getD []

/-- The known Project Revisions are one chain from the constructor's to the
canonical one, and no Change Revision is landed by two of them. -/
structure LinearLineage (canonicalRevision : ProjectRevision) (c : LocalChangeCoordinator) :
    Prop where
  /-- The Project Revisions in the order they were filed. -/
  chain : ∃ landed, c.projectRevisions.values = canonicalRevision :: landed ∧
    (canonicalRevision :: landed).IsChain LandedOn ∧
    (∀ revision ∈ landed, revision.id ≠ "" ∧ (landedIds revision).Nodup) ∧
    (canonicalRevision :: landed).getLast? = some c.canonical
  once : ∀ a ∈ c.projectRevisions.values, ∀ b ∈ c.projectRevisions.values,
    ∀ id, id ∈ landedIds a → id ∈ landedIds b → a = b

structure Lineage (canonicalRevision : ProjectRevision) (s : LocalSystem) : Prop
    extends LinearLineage canonicalRevision s.control where
  /-- A landed revision is no longer based on the canonical one. -/
  spent : ∀ a ∈ s.control.projectRevisions.values, ∀ id ∈ landedIds a,
    ∀ revision, s.control.revisions.get? id = some revision →
      revision.base ≠ s.control.canonical.id

theorem lineage_initial (project : Project) (canonicalRevision : ProjectRevision) :
    Lineage canonicalRevision (initial project canonicalRevision) where
  chain := ⟨[], rfl, .singleton _, nofun, rfl⟩
  once := by
    intro a ha b hb id _ _
    rw [List.mem_singleton.mp ha, List.mem_singleton.mp hb]
  spent := fun _ _ _ _ _ h => nomatch h

/-- The members of a Landing are distinct revisions. -/
theorem revisionIds_nodup {c : LocalChangeCoordinator} {input : LandCohortInput}
    {selected : List Selected} {next : Snapshots} (hk : c.Keyed)
    (h : c.Landable input selected next) :
    (selected.map fun sel => sel.revision.id).Nodup := by
  have hdistinct := h.distinct
  rw [← h.changeIds hk, List.Nodup, List.pairwise_map] at hdistinct
  rw [List.Nodup, List.pairwise_map]
  refine hdistinct.imp_of_mem fun {a b} ha hb hne heq => hne ?_
  obtain ⟨m, -, hm⟩ := h.ready ha
  obtain ⟨m', -, hm'⟩ := h.ready hb
  have hsame : a.revision = b.revision := by
    have hget := hm.knownRevision
    rw [← hk.revisions _ _ hget, heq, hk.revisions _ _ hm'.knownRevision,
      hm'.knownRevision] at hget
    exact (Option.some.inj hget).symm
  rw [← hm.owned, ← hm'.owned, hsame]

/-- A landed member is a stored revision, based on the canonical one. -/
theorem landed_member {c : LocalChangeCoordinator} {input : LandCohortInput}
    {selected : List Selected} {next : Snapshots} (hk : c.Keyed)
    (h : c.Landable input selected next) {id : String}
    (hid : id ∈ selected.map fun sel => sel.revision.id) :
    ∃ revision, c.revisions.get? id = some revision ∧ revision.base = c.canonical.id := by
  obtain ⟨sel, hsel, rfl⟩ := List.mem_map.mp hid
  obtain ⟨member, -, hready⟩ := h.ready hsel
  refine ⟨sel.revision, ?_, (h.based sel hsel).1⟩
  rw [hk.revisions _ _ hready.knownRevision]
  exact hready.knownRevision

theorem Lineage.landing {input : LandCohortInput} {selected : List Selected} {next : Snapshots}
    {revisionUuid : String} (hl : Lineage canonicalRevision s) (hs : Sound s)
    (hfresh : opaqueId "project-revision" revisionUuid ∉ s.control.projectRevisions.keys)
    (h : s.control.Landable input selected next) :
    Lineage canonicalRevision (s.withControl (s.control.fileLanding selected
      (s.control.landedRevision input.cohortId selected next revisionUuid))) := by
  set landing := s.control.landedRevision input.cohortId selected next revisionUuid
  have hvalues : (s.withControl
      (s.control.fileLanding selected landing)).control.projectRevisions.values =
        s.control.projectRevisions.values ++ [landing] :=
    OrderedMap.values_set_of_not_mem landing hfresh
  -- what lands now was based on the canonical revision; what landed before was not
  have hnew : ∀ a ∈ s.control.projectRevisions.values, ∀ id ∈ landedIds a,
      id ∉ landedIds landing := by
    intro a ha id hida hidl
    obtain ⟨revision, hget, hbase⟩ := landed_member hs.keyed h hidl
    exact hl.spent a ha id hida revision hget hbase
  refine ⟨⟨?_, ?_⟩, ?_⟩
  · obtain ⟨landed, hchain, hlinks, hids, hlast⟩ := hl.chain
    refine ⟨landed ++ [landing], ?_, ?_, ?_, ?_⟩
    · rw [← List.cons_append, ← hchain]
      exact hvalues
    · rw [← List.cons_append]
      refine List.isChain_append.mpr ⟨hlinks, .singleton _, ?_⟩
      intro x hx y hy
      rw [hlast] at hx
      cases hx
      cases hy
      rfl
    · intro revision hrevision
      rcases List.mem_append.mp hrevision with hold | hlast'
      · exact hids revision hold
      · cases List.mem_singleton.mp hlast'
        exact ⟨opaqueId_ne_empty _ _, revisionIds_nodup hs.keyed h⟩
    · rw [← List.cons_append, List.getLast?_append]
      rfl
  · intro a ha b hb id hida hidb
    rw [hvalues] at ha hb
    rcases List.mem_append.mp ha with ha | ha
    · rcases List.mem_append.mp hb with hb | hb
      · exact hl.once a ha b hb id hida hidb
      · cases List.mem_singleton.mp hb
        exact absurd hidb (hnew a ha id hida)
    · cases List.mem_singleton.mp ha
      rcases List.mem_append.mp hb with hb | hb
      · exact absurd hida (hnew b hb id hidb)
      · exact (List.mem_singleton.mp hb).symm
  · intro a ha id hida revision hget hbase
    have hknown := hs.revisions revision (OrderedMap.mem_values_of_get? hget)
    rw [hbase] at hknown
    exact hfresh hknown

theorem Effect.lineage (h : Effect s op reply s') (hs : Sound s) (hf : s.Fresh op)
    (hl : Lineage canonicalRevision s) : Lineage canonicalRevision s' := by
  rcases h.lineage_cases hf with
    ⟨input, revisionUuid, landingUuid, selected, next, landing, rfl, rfl, hland, rfl⟩ |
    ⟨-, hprojects, hcanonical, hrevisions⟩
  · exact hl.landing hs hf hland
  · refine ⟨⟨?_, ?_⟩, ?_⟩
    · rw [hprojects, hcanonical]
      exact hl.chain
    · rw [hprojects]
      exact hl.once
    · rw [hprojects, hcanonical]
      intro a ha id hid revision hget
      rcases hrevisions id revision hget with hold | ⟨hnew, -, -⟩
      · exact hl.spent a ha id hid revision hold
      · exact absurd hid (hnew.2 a ha).2

end LocalSystem

open LocalSystem

/-- **The lineage is linear**, in every run with fresh generated ids. -/
theorem projectRevisions_chain {text : UnicodeText} {project : Project}
    {canonicalRevision : ProjectRevision} {tr : List (Transition LocalSystem Operation Reply)}
    {s : LocalSystem} (hrun : RunFrom text project canonicalRevision Fresh tr s) :
    LinearLineage canonicalRevision s.control :=
  (sound_invariant (sound_initial _ _) (Lineage canonicalRevision) (fun _ _ h => h) (lineage_initial _ _)
    (fun _ _ _ _ hl hs hf heff => heff.lineage hs hf hl) hrun).2.toLinearLineage

namespace Sample

/-- `change:A` and `change:B` land together as `project-revision:p`, `change:B`
first; then `change:B` is rebased onto it and lands again. -/
def landedTwice : List Operation :=
  editAndBaseline ++
    [land [memberB, memberA] "r0" "p",
     .beginRebase (rebaseInput "change:B" "project-revision:p" "v"),
     .finishRebase 0 .written "3" "b2",
     land [⟨"change:B", "change-revision:b2"⟩] "project-revision:p" "q"]

end Sample

theorem projectRevisions_chain_sample :
    LinearLineage Sample.canonicalRevision (Sample.ran Sample.landedTwice).2.control :=
  projectRevisions_chain (run_exec (by decide +kernel))

/-! ## Which landed revisions can be reverted -/

section Revert

variable {project : Project} {canonicalRevision : ProjectRevision}
  {tr : List (Transition LocalSystem Operation Reply)}

/-- The transition is a `landCohort` of `input` that returned. -/
def LandingOf (t : Transition LocalSystem Operation Reply) (input : LandCohortInput) : Prop :=
  ∃ revisionUuid landingUuid landing,
    t.op = .landCohort input revisionUuid landingUuid ∧ t.reply = .landing landing

/-- The Landing a reply carries. -/
def landingIn : Reply → Option Landing
  | .landing landing => some landing
  | _ => none

theorem landingIn_eq_some {reply : Reply} {landing : Landing} :
    landingIn reply = some landing ↔ reply = .landing landing := by
  cases reply <;> simp [landingIn]

/-- Some Landing of the run landed the Change Revision, at any position. -/
def LandedBy (tr : List (Transition LocalSystem Operation Reply)) (id : String) : Prop :=
  ∃ t ∈ tr, ∃ input, LandingOf t input ∧ id ∈ input.members.map LandingMember.changeRevisionId

/-- Some Landing of the run landed the Change Revision as its first member. -/
def LandedFirst (tr : List (Transition LocalSystem Operation Reply)) (id : String) : Prop :=
  ∃ t ∈ tr, ∃ input, LandingOf t input ∧
    input.members.head?.map LandingMember.changeRevisionId = some id

theorem landedBy_snoc {t : Transition LocalSystem Operation Reply} {id : String} :
    LandedBy (tr ++ [t]) id ↔ LandedBy tr id ∨ ∃ input, LandingOf t input ∧
      id ∈ input.members.map LandingMember.changeRevisionId := by
  simp only [LandedBy, List.mem_append, List.mem_singleton, or_and_right, exists_or,
    exists_eq_left]

theorem landedFirst_snoc {t : Transition LocalSystem Operation Reply} {id : String} :
    LandedFirst (tr ++ [t]) id ↔ LandedFirst tr id ∨ ∃ input, LandingOf t input ∧
      input.members.head?.map LandingMember.changeRevisionId = some id := by
  simp only [LandedFirst, List.mem_append, List.mem_singleton, or_and_right, exists_or,
    exists_eq_left]

/-- What the singular lineage field records, and that no stored revision is the
empty string or was in the lineage the coordinator was constructed with. -/
structure Recorded (canonicalRevision : ProjectRevision)
    (tr : List (Transition LocalSystem Operation Reply)) (s : LocalSystem) : Prop where
  known : ∀ id ∈ s.control.revisions.keys,
    id ≠ "" ∧ canonicalRevision.landedChangeRevisionId ≠ some id
  landed : ∀ id, LandedBy tr id → id ∈ s.control.revisions.keys
  first : ∀ id, s.control.wasLanded id ↔
    canonicalRevision.landedChangeRevisionId = some id ∨ LandedFirst tr id
  ctor : canonicalRevision ∈ s.control.projectRevisions.values

theorem recorded_initial (project : Project) (canonicalRevision : ProjectRevision) :
    Recorded canonicalRevision [] (initial project canonicalRevision) where
  known := fun _ h => nomatch h
  landed := fun _ ⟨_, h, _⟩ => nomatch h
  first := fun id => by
    constructor
    · rintro ⟨revision, hmem, hid⟩
      cases List.mem_singleton.mp hmem
      exact .inl hid
    · rintro (hid | ⟨_, h, -⟩)
      · exact ⟨canonicalRevision, List.mem_singleton.mpr rfl, hid⟩
      · cases h
  ctor := List.mem_singleton.mpr rfl

/-- The landed revision names the first member, and only it, in its singular
field. -/
theorem wasLanded_fileLanding {c : LocalChangeCoordinator} {selected : List Selected}
    {next : ProjectRevision} (hfresh : next.id ∉ c.projectRevisions.keys) (id : String) :
    (c.fileLanding selected next).wasLanded id ↔
      c.wasLanded id ∨ next.landedChangeRevisionId = some id := by
  have hvalues : (c.fileLanding selected next).projectRevisions.values =
      c.projectRevisions.values ++ [next] := OrderedMap.values_set_of_not_mem next hfresh
  simp only [wasLanded, hvalues, List.mem_append, List.mem_singleton, or_and_right, exists_or,
    exists_eq_left]

theorem Recorded.landing {t : Transition LocalSystem Operation Reply} {input : LandCohortInput}
    {selected : List Selected} {next : Snapshots} {revisionUuid : String}
    (hr : Recorded canonicalRevision tr t.pre) (hk : t.pre.control.Keyed)
    (hfresh : opaqueId "project-revision" revisionUuid ∉ t.pre.control.projectRevisions.keys)
    (hof : ∀ other, LandingOf t other ↔ other = input)
    (h : t.pre.control.Landable input selected next)
    (hpost : t.post = t.pre.withControl (t.pre.control.fileLanding selected
      (t.pre.control.landedRevision input.cohortId selected next revisionUuid))) :
    Recorded canonicalRevision (tr ++ [t]) t.post := by
  have hids := h.revisionIds hk
  have hknown : ∀ id ∈ input.members.map LandingMember.changeRevisionId,
      id ∈ t.pre.control.revisions.keys := by
    intro id hid
    rw [← hids] at hid
    obtain ⟨revision, hget, -⟩ := landed_member hk h hid
    exact OrderedMap.mem_keys_of_get? hget
  rw [hpost]
  refine ⟨hr.known, fun id hid => ?_, fun id => ?_, ?_⟩
  · rcases landedBy_snoc.mp hid with hold | ⟨other, hother, hmem⟩
    · exact hr.landed id hold
    · cases (hof other).mp hother
      exact hknown id hmem
  · have hhead : (truthy (selected.map fun sel => sel.revision.id).head? = some id) ↔
        input.members.head?.map LandingMember.changeRevisionId = some id := by
      rw [hids, truthy_eq_some, List.head?_map, and_iff_left_iff_imp]
      intro hid
      refine (hr.known id (hknown id ?_)).1
      rw [← List.head?_map] at hid
      exact List.mem_of_head? hid
    rw [landedFirst_snoc, wasLanded_fileLanding hfresh, hr.first id, or_assoc]
    refine or_congr_right (or_congr_right (hhead.trans ⟨fun hid => ⟨input, ?_, hid⟩, ?_⟩))
    · exact (hof input).mpr rfl
    · rintro ⟨other, hother, hid⟩
      cases (hof other).mp hother
      exact hid
  · exact OrderedMap.values_set_of_not_mem _ hfresh ▸ List.mem_append_left _ hr.ctor

theorem Recorded.step {t : Transition LocalSystem Operation Reply}
    (hr : Recorded canonicalRevision tr t.pre) (hs : Sound t.pre) (hf : t.pre.Fresh t.op)
    (heff : Effect t.pre t.op t.reply t.post) :
    Recorded canonicalRevision (tr ++ [t]) t.post := by
  rcases heff.lineage_cases hf with
    ⟨input, revisionUuid, landingUuid, selected, next, landing, hop, hreply, hland, hpost⟩ |
    ⟨hreply, hprojects, -, hrevisions⟩
  · rw [hop] at hf
    refine hr.landing hs.keyed hf (fun other => ⟨?_, ?_⟩) hland hpost
    · rintro ⟨_, _, _, hother, -⟩
      rw [hop] at hother
      cases hother
      rfl
    · rintro rfl
      exact ⟨_, _, _, hop, hreply⟩
  · have hnot : ∀ input, ¬ LandingOf t input := fun input ⟨_, _, landing, _, h⟩ =>
      hreply ⟨landing, h⟩
    refine ⟨fun id hid => ?_, fun id hid => ?_, fun id => ?_, hprojects ▸ hr.ctor⟩
    · obtain ⟨revision, hget⟩ := OrderedMap.mem_keys_iff.mp hid
      rcases hrevisions id revision hget with hold | ⟨hnew, hne, -⟩
      · exact hr.known id (OrderedMap.mem_keys_of_get? hold)
      · exact ⟨hne, (hnew.2 canonicalRevision hr.ctor).1⟩
    · rcases landedBy_snoc.mp hid with hold | ⟨input, hof, -⟩
      · exact (heff.extends hs hf).revisions (hr.landed id hold)
      · exact absurd hof (hnot input)
    · rw [landedFirst_snoc]
      simp only [hnot, false_and, exists_false, or_false]
      rw [← hr.first id, wasLanded, wasLanded, hprojects]

/-- What the revert path promises in a state after a run: a revision that landed
can be reverted, without a Workspace or in one based on the canonical revision;
one that never landed is not found. -/
def RevertLaw (tr : List (Transition LocalSystem Operation Reply)) (c : LocalChangeCoordinator)
    (input : RevertChangeInput) (uuid : String) : Prop :=
  (LandedBy tr input.landedChangeRevisionId → (∃ ws, c.RevertWorkspace input.workspaceId ws) →
    ∃ change c', c.revertChange input uuid = .ok (change, c') ∧
      change.revertsChangeRevisionId = some input.landedChangeRevisionId ∧
      change.baseProjectRevisionId = c.canonical.id) ∧
  (¬ LandedBy tr input.landedChangeRevisionId →
    ∃ e, c.revertChange input uuid = .error e ∧ e.code = .revertSourceNotFound)

/-- **Which landed revisions `revertChange` recognises**: those that were the first
member of their Landing. -/
theorem revertLaw_iff {text : UnicodeText} {s : LocalSystem}
    (hrun : RunFrom text project canonicalRevision Fresh tr s) (input : RevertChangeInput)
    (uuid : String) :
    RevertLaw tr s.control input uuid ↔
      (LandedBy tr input.landedChangeRevisionId →
        (∃ ws, s.control.RevertWorkspace input.workspaceId ws) →
          LandedFirst tr input.landedChangeRevisionId) := by
  obtain ⟨hs, hr⟩ := sound_traceInvariant (sound_initial _ _) (Recorded canonicalRevision)
    (fun _ _ h => h) (recorded_initial _ _) (fun _ _ hr hs hf heff => hr.step hs hf heff) hrun
  constructor
  · rintro ⟨hlanded, -⟩ hby hws
    obtain ⟨change, c', hok, -, -⟩ := hlanded hby hws
    obtain ⟨landed, ws, hget, hwas, -⟩ := revertChange_eq_ok.mp hok
    have hid := hs.keyed.revisions _ _ hget
    rw [hid, hr.first] at hwas
    exact hwas.resolve_left (hr.known _ (OrderedMap.mem_keys_of_get? hget)).2
  · intro hfirst
    refine ⟨fun hby hws => ?_, fun hnot => ?_⟩
    · obtain ⟨landed, hget⟩ := OrderedMap.mem_keys_iff.mp (hr.landed _ hby)
      have hid := hs.keyed.revisions _ _ hget
      obtain ⟨ws, hws⟩ := hws
      have hwas : s.control.wasLanded landed.id := by
        rw [hid, hr.first]
        exact .inr (hfirst hby ⟨ws, hws⟩)
      refine ⟨_, _, revertChange_eq_ok.mpr ⟨landed, ws, hget, hwas, hws, rfl, rfl⟩, ?_, hws.base⟩
      exact congrArg some hid
    · refine revertChange_error fun landed hget hwas => hnot ?_
      have hid := hs.keyed.revisions _ _ hget
      rw [hid, hr.first] at hwas
      obtain ⟨t, ht, other, hof, hhead⟩ :=
        hwas.resolve_left (hr.known _ (OrderedMap.mem_keys_of_get? hget)).2
      refine ⟨t, ht, other, hof, ?_⟩
      rw [← List.head?_map] at hhead
      exact List.mem_of_head? hhead

end Revert

namespace Sample

/-- `change:B` and then `change:A` land together. -/
def landedTogether : List Operation := editAndBaseline ++ [land [memberB, memberA] "r0" "p"]

def revert (changeRevisionId : String) : RevertChangeInput :=
  { landedChangeRevisionId := changeRevisionId, intentId := "intent" }

end Sample

theorem revertLaw_iff_sample :
    RevertLaw (Sample.ran Sample.landedTogether).1 (Sample.ran Sample.landedTogether).2.control
        (Sample.revert "change-revision:b") "u" ↔
      (LandedBy (Sample.ran Sample.landedTogether).1 "change-revision:b" →
        (∃ ws, (Sample.ran Sample.landedTogether).2.control.RevertWorkspace none ws) →
          LandedFirst (Sample.ran Sample.landedTogether).1 "change-revision:b") :=
  revertLaw_iff (run_exec (by decide +kernel)) (Sample.revert "change-revision:b") "u"

/-- The second member of a Landing cannot be reverted. -/
theorem second_member_not_revertible :
    Admits (step Sample.ascii) Fresh (.initial Sample.project Sample.canonicalRevision)
        Sample.landedTogether ∧
      ¬ RevertLaw (Sample.ran Sample.landedTogether).1
        (Sample.ran Sample.landedTogether).2.control (Sample.revert "change-revision:a") "u" := by
  have hrefused : ((Sample.ran Sample.landedTogether).2.control.revertChange
      (Sample.revert "change-revision:a") "u").isOk = false := by
    decide +kernel
  refine ⟨by decide +kernel, fun hlaw => ?_⟩
  have hlast : ∃ t ∈ (Sample.ran Sample.landedTogether).1,
      t.op = Sample.land [Sample.memberB, Sample.memberA] "r0" "p" ∧
        (landingIn t.reply).isSome := by
    decide +kernel
  obtain ⟨t, ht, hop, hreply⟩ := hlast
  obtain ⟨landing, hlanding⟩ := Option.isSome_iff_exists.mp hreply
  have hlanded : LandedBy (Sample.ran Sample.landedTogether).1 "change-revision:a" :=
    ⟨t, ht, _, ⟨"p", "p", landing, hop, landingIn_eq_some.mp hlanding⟩, by decide⟩
  obtain ⟨change, c', hok, -, -⟩ := hlaw.1 hlanded ⟨none, .inl ⟨rfl, rfl⟩⟩
  exact Bool.noConfusion (hrefused.symm.trans (congrArg Except.isOk hok))

end Anyam.ChangeControl
