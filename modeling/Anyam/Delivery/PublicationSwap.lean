import Anyam.Delivery.PublicationSystem
import Anyam.Lib.ExpectedRegister

/-!
# The publication pointer as a compare-and-swap

A publication remembers the current Release it was requested against and moves the
pointer when its provider call returns, without comparing again. The pointer and the
expectations of the publications that wait are a `Register`, as the pointer of a
Worker Target is.

- **`publishes_of_run`**: when a matching result arrives only while no other
  publication is under way, unless its Release is current, no result overwrites a
  pointer its publication did not expect; and the pair of Release and Artifact always
  names one publication the provider echoed.
- `second_publication_overwrites`: the code does not wait for that.
-/

namespace Anyam.Delivery

open Anyam.Lib Anyam.Kernel

/-- The current Release a publication under way expects. -/
def ReleasePublicationRecord.expectation (p : ReleasePublicationRecord) : Option (Option String) :=
  if p.state.Unsettled then some p.expectedCurrentReleaseId else none

theorem ReleasePublicationRecord.expectation_eq_some {p : ReleasePublicationRecord}
    {e : Option String} :
    p.expectation = some e ↔ p.state.Unsettled ∧ p.expectedCurrentReleaseId = e := by
  unfold ReleasePublicationRecord.expectation
  split <;> simp_all

namespace ReleasePublicationCoordinator

variable {s s' : ReleasePublicationCoordinator} {p p' : ReleasePublicationRecord}
  {tr : List PublicationTransition} {projectId : String} {target : ReleaseAssetTarget}

/-- The pointer, with the expectation of each publication under way. -/
def pointer (s : ReleasePublicationCoordinator) : Register String (Option String) :=
  .ofRecords s.target.currentReleaseId s.publications.get? ReleasePublicationRecord.expectation

/-- The execution of a publication waits for the provider. -/
def isWaiting (s : ReleasePublicationCoordinator) (id : String) : Bool :=
  match s.executions.get? id with
  | some (.waiting _ _) => true
  | _ => false

/-- The publication whose waiting provider call an operation answers with its own
lineage. -/
def accepting (s : ReleasePublicationCoordinator) (op : PublicationOperation) :
    Option ReleasePublicationRecord :=
  op.result.bind fun r => (s.publications.get? r.1).filter fun p =>
    s.isWaiting r.1 && providerMatches r.2 p

/-- A matching result arrives only while no other publication is under way, unless its
Release is the current one. -/
def AcceptedAlone (s : ReleasePublicationCoordinator) (op : PublicationOperation) : Prop :=
  s.Fresh op ∧ ∀ p ∈ s.accepting op, s.target.currentReleaseId = some p.releaseId ∨
    ∀ q ∈ s.publications.values, q.id ≠ p.id → ¬ q.state.Unsettled

instance (op : PublicationOperation) : Decidable (s.AcceptedAlone op) :=
  inferInstanceAs (Decidable (_ ∧ _))

theorem isWaiting_iff {id : String} :
    s.isWaiting id = true ↔
      ∃ release artifact, s.executions.get? id = some (.waiting release artifact) := by
  unfold isWaiting
  split
  · simp [*]
  · rename_i hother
    refine ⟨nofun, ?_⟩
    rintro ⟨release, artifact, hwaiting⟩
    exact absurd hwaiting (hother release artifact)

theorem pointer_expected {id : String} {e : Option String} :
    s.pointer.expected id = some e ↔
      ∃ p, s.publications.get? id = some p ∧ p.state.Unsettled ∧ p.expectedCurrentReleaseId = e := by
  unfold pointer
  simp only [Register.ofRecords_expected, ReleasePublicationRecord.expectation_eq_some]

/-! ## One operation is one move -/

/-- A publication was accepted: its record, the Target and the pointer after it. -/
structure Accepts (s : ReleasePublicationCoordinator) (op : PublicationOperation)
    (p p' : ReleasePublicationRecord) (s' : ReleasePublicationCoordinator) : Prop where
  found : s.publications.get? p.id = some p
  waiting : s.isWaiting p.id = true
  publishing : p.state = .publishing
  result : ∃ value, op.result = some (p.id, value) ∧ providerMatches value p = true
  same : SameLineage p p'
  state : p'.state = .published
  files : s.Files p' (.settled (.ok p')) (s.target.published p.releaseId p.artifactId) s'

/-- What accepts no publication leaves the pair of pointers and the published records
alone. -/
structure Declines (s s' : ReleasePublicationCoordinator) : Prop where
  quiet : s.pointer.Quiet s'.pointer
  artifact : s'.target.currentArtifactId = s.target.currentArtifactId
  published : ∀ id p, s.publications.get? id = some p → p.state = .published →
    s'.publications.get? id = some p

theorem Declines.refl (s : ReleasePublicationCoordinator) : s.Declines s :=
  ⟨.refl _, rfl, fun _ _ hp _ => hp⟩

theorem Declines.trans {s₁ : ReleasePublicationCoordinator} (h : s.Declines s₁)
    (h' : s₁.Declines s') : s.Declines s' where
  quiet := h.quiet.trans h'.quiet
  artifact := h'.artifact.trans h.artifact
  published id p hp hstate := h'.published id p (h.published id p hp hstate) hstate

/-- An edit of one record that was not published accepts nothing, when an expectation
it leaves open was open before, or is the present pointer. -/
theorem declines_of_edit
    (hpublications : ∀ k, s'.publications.get? k = if k = p'.id then some p' else s.publications.get? k)
    (htarget : s'.target.currentReleaseId = s.target.currentReleaseId ∧
      s'.target.currentArtifactId = s.target.currentArtifactId)
    (hunpublished : ∀ q, s.publications.get? p'.id = some q → q.state ≠ .published)
    (hexpected : p'.state.Unsettled →
      (∃ p, s.publications.get? p'.id = some p ∧ p.state.Unsettled ∧
        p'.expectedCurrentReleaseId = p.expectedCurrentReleaseId) ∨
      p'.expectedCurrentReleaseId = s.target.currentReleaseId) : s.Declines s' where
  quiet := by
    refine Register.quiet_of_edit hpublications htarget.1 fun e he => ?_
    obtain ⟨hopen, rfl⟩ := ReleasePublicationRecord.expectation_eq_some.mp he
    refine (hexpected hopen).imp_left ?_
    rintro ⟨p, hp, hp', hsame⟩
    exact ⟨p, hp, ReleasePublicationRecord.expectation_eq_some.mpr ⟨hp', hsame.symm⟩⟩
  artifact := htarget.2
  published id q hq hstate := by
    rw [hpublications]
    split
    · rename_i hid
      exact absurd hstate (hunpublished q (hid ▸ hq))
    · exact hq

theorem Starts.declines (h : s.Starts p s') : s.Declines s' := by
  obtain ⟨hp, hstate, -, hsame, -, hfiles⟩ := h
  rw [← hsame.id] at hp
  refine declines_of_edit hfiles.publications ⟨by rw [hfiles.target], by rw [hfiles.target]⟩
    (fun q hq => ?_) fun _ => .inl ⟨p, hp, .inl hstate, hsame.expected⟩
  rw [hp] at hq
  cases hq
  simp [hstate]

theorem Requested.declines {uuid : String} (h : s.Requested uuid p s')
    (hfresh : s.publications.get? (opaqueId "release-publication" uuid) = none) :
    s.Declines s' := by
  refine declines_of_edit h.leaves.publications ⟨by rw [h.leaves.target], by rw [h.leaves.target]⟩
    (fun q hq => ?_) fun _ => .inr h.expected
  rw [h.id, hfresh] at hq
  cases hq

theorem Retried.declines {input : ReleasePublicationRetryRequest} (h : s.Retried input p p' s')
    (hs : s.Sound) : s.Declines s' := by
  refine declines_of_edit h.leaves.publications ⟨by rw [h.leaves.target], by rw [h.leaves.target]⟩
    (fun q hq => ?_) fun _ => .inr h.expected
  rw [h.same.id, hs.found h.found] at hq
  cases hq
  exact fun hstate => absurd h.retryable (hstate ▸ by decide)

/-- A result that echoes the lineage of a waiting publication is accepted. -/
theorem accepts_of_files (hs : s.Sound) {id receipt : String} {release : ImmutableRelease}
    {artifact : Artifact} {value : PublishedArtifact} (hp : s.publications.get? id = some p)
    (hwaiting : s.executions.get? id = some (.waiting release artifact))
    (hmatches : providerMatches value p = true) (hsame : SameLineage p p')
    (hpublished : p'.state = .published)
    (hfiles : s.Files p' (.settled (.ok p'))
      (s.target.published release.release.id artifact.id) s') :
    s.Accepts (.answer id (.returned (.succeeded value receipt))) p p' s' := by
  obtain ⟨hstate, hnames⟩ := hs.waiting id p release artifact hp hwaiting
  have hrelease : release.release.id = p.releaseId := hs.releasesKeyed _ _ hnames.1
  rw [hrelease, id_of_artifactOf hnames.2] at hfiles
  have hid := hs.filed hp
  refine ⟨hs.found hp, isWaiting_iff.mpr ⟨_, _, hid ▸ hwaiting⟩, hstate, ⟨value, ?_, hmatches⟩, hsame,
    hpublished, hfiles⟩
  rw [hid]
  rfl

/-- **One operation** accepts the publication whose lineage the provider echoed, or
none. -/
theorem Effect.declines_or_accepts {op : PublicationOperation} (h : Effect s op s') (hs : s.Sound)
    (hfresh : s.Fresh op) : s.Declines s' ∨ ∃ p p', s.Accepts op p p' s' := by
  cases h with
  | unchanged => exact .inl (.refl s)
  | registered => exact .inl ⟨.refl _, rfl, fun _ _ hp _ => hp⟩
  | requested hdrawn hrequest => exact .inl (hrequest.declines (hfresh _ hdrawn))
  | started hdrawn hrequest hstart =>
    exact .inl ((hrequest.declines (hfresh _ hdrawn)).trans hstart.declines)
  | taken _ hstart => exact .inl hstart.declines
  | retried hretry hstart => exact .inl ((hretry.declines hs).trans hstart.declines)
  | retriedRegistered hretry => exact .inl (hretry.declines hs)
  | @answered id answer p release artifact p' target s' hp hwaiting hsame hanswered hfiles =>
    obtain ⟨hstate, hnames⟩ := hs.waiting id p release artifact hp hwaiting
    have hfound := hs.found hp
    cases hanswered with
    | refused publicationState hrefused _ =>
      refine .inl (declines_of_edit hfiles.publications
        ⟨by rw [hfiles.target], by rw [hfiles.target]⟩ (fun q hq => ?_) fun hopen => ?_)
      · rw [hsame.id, hfound] at hq
        cases hq
        simp [hstate]
      · rcases hopen with hopen | hopen <;> rw [hopen] at hrefused <;>
          exact absurd hrefused (by decide)
    | accepted hmatches hpublished =>
      exact .inr ⟨p, p', accepts_of_files hs hp hwaiting hmatches hsame.toSameLineage hpublished hfiles⟩
  | cleaned => exact .inl ⟨.refl _, rfl, fun _ _ hp _ => hp⟩

/-- An accepted publication commits its expectation. -/
theorem Accepts.commits {op : PublicationOperation} (h : s.Accepts op p p' s') :
    s.pointer.Commits p.id (some p.releaseId) s'.pointer := by
  have hclosed : p'.expectation = none := by
    unfold ReleasePublicationRecord.expectation
    rw [h.state, if_neg (by decide)]
  have hcurrent : s'.target.currentReleaseId = some p.releaseId :=
    congrArg ReleaseAssetTarget.currentReleaseId h.files.target
  unfold pointer
  rw [hcurrent]
  exact Register.commits_of_edit (h.same.id ▸ h.files.publications) h.found
    (ReleasePublicationRecord.expectation_eq_some.mpr ⟨.inr h.publishing, rfl⟩) hclosed _

theorem Accepts.accepting {op : PublicationOperation} (h : s.Accepts op p p' s') :
    s.accepting op = some p := by
  obtain ⟨value, hresult, hmatches⟩ := h.result
  unfold ReleasePublicationCoordinator.accepting
  rw [hresult, Option.bind_some, Option.filter_eq_some_iff]
  exact ⟨h.found, by simp [h.waiting, hmatches]⟩

/-- The provider's echo of a waiting publication is always accepted. -/
theorem accepts_of_accepting (hs : s.Sound) {op : PublicationOperation}
    (h : s.accepting op = some p) : ∃ p', s.Accepts op p p' (step op s).2 := by
  obtain ⟨⟨id, value⟩, hresult, hfound⟩ := Option.bind_eq_some_iff.mp h
  obtain ⟨hp, hcond⟩ := Option.filter_eq_some_iff.mp hfound
  obtain ⟨hwaits, hmatches⟩ := Bool.and_eq_true_iff.mp hcond
  obtain ⟨release, artifact, hwaiting⟩ := isWaiting_iff.mp hwaits
  obtain ⟨receipt, rfl⟩ := PublicationOperation.result_eq_some.mp hresult
  obtain ⟨p', target, hsame, hanswered, hfiles⟩ := resume_answered hs _ hp hwaiting
  cases hanswered with
  | refused _ _ hmismatch =>
    rw [hmismatch value receipt rfl] at hmatches
    cases hmatches
  | accepted _ hpublished =>
    exact ⟨p', accepts_of_files hs hp hwaiting hmatches hsame.toSameLineage hpublished hfiles⟩

theorem AcceptedAlone.exclusive {op : PublicationOperation} (hok : s.AcceptedAlone op)
    (hs : s.Sound) (haccepting : s.accepting op = some p) :
    s.pointer.Exclusive p.id (some p.releaseId) := by
  rcases hok.2 p haccepting with hcurrent | halone
  · exact .inl hcurrent.symm
  · refine .inr fun k hk => ?_
    rw [Option.eq_none_iff_forall_ne_some]
    intro e he
    obtain ⟨q, hq, hopen, -⟩ := pointer_expected.mp he
    exact halone q (OrderedMap.mem_values_of_get? hq) (hs.filed hq ▸ hk) hopen

/-! ## Along a run -/

/-- A provider result for a publication that expects another pointer leaves the pair of
pointers alone. -/
def NeverOverwrites (tr : List PublicationTransition) : Prop :=
  ∀ t ∈ tr, ∀ id answer p, t.op = .answer id answer → t.pre.publications.get? id = some p →
    p.expectedCurrentReleaseId ≠ t.pre.target.currentReleaseId →
    t.post.target.currentReleaseId = t.pre.target.currentReleaseId ∧
      t.post.target.currentArtifactId = t.pre.target.currentArtifactId

/-- The pair of pointers is the constructor's, or names one published record whose
lineage the provider echoed in the trace. -/
def PairPublished (target : ReleaseAssetTarget) (tr : List PublicationTransition)
    (s : ReleasePublicationCoordinator) : Prop :=
  s.target.currentReleaseId = target.currentReleaseId ∧
      s.target.currentArtifactId = target.currentArtifactId ∨
    ∃ p, s.publications.get? p.id = some p ∧ p.state = .published ∧
      s.target.currentReleaseId = some p.releaseId ∧
      s.target.currentArtifactId = some p.artifactId ∧
      ∃ t ∈ tr, ∃ value, t.op.result = some (p.id, value) ∧ providerMatches value p = true

theorem acceptedAlone_fresh : ∀ (s : ReleasePublicationCoordinator) (op : PublicationOperation),
    s.AcceptedAlone op → s.Fresh op := fun _ _ h => h.1

/-- Every publication under way expects the present pointer. -/
theorem consistent_of_run (hrun : RunFrom projectId target AcceptedAlone tr s) :
    s.pointer.Consistent := by
  refine (sound_invariant (fun _ s => s.pointer.Consistent) acceptedAlone_fresh ?_ ?_ hrun).2
  · intro id e he
    obtain ⟨p, hp, -⟩ := pointer_expected.mp he
    exact absurd hp (by simp [initial])
  · intro tr s op hs hok hconsistent heffect
    rcases heffect.declines_or_accepts hs hok.1 with hdeclines | ⟨p, p', haccepts⟩
    · exact hconsistent.quiet hdeclines.quiet
    · exact hconsistent.commit haccepts.commits (hok.exclusive hs haccepts.accepting)

theorem neverOverwrites_of_run (hrun : RunFrom projectId target AcceptedAlone tr s) :
    NeverOverwrites tr := by
  intro t ht id answer p hop hp hexpected
  obtain ⟨hs, hok, heffect⟩ := effect_of_mem acceptedAlone_fresh hrun ht
  rcases heffect.declines_or_accepts hs hok.1 with hdeclines | ⟨q, q', haccepts⟩
  · exact ⟨hdeclines.quiet.current, hdeclines.artifact⟩
  · -- the accepted publication is the answered one, and its expectation held
    obtain ⟨tr₁, tr₂, rfl⟩ := List.append_of_mem ht
    obtain ⟨q₂, hq₂, -, hfound⟩ :=
      pointer_expected.mp ((consistent_of_run hrun.split.1).swaps haccepts.commits)
    obtain ⟨value, hresult, -⟩ := haccepts.result
    obtain ⟨receipt, hop'⟩ := PublicationOperation.result_eq_some.mp hresult
    obtain ⟨hid, -⟩ := PublicationOperation.answer.inj (hop.symm.trans hop')
    rw [← hid, hp] at hq₂
    cases hq₂
    exact absurd hfound hexpected

theorem providerMatches_congr {value : PublishedArtifact} (h : SameLineage p p') :
    providerMatches value p' = providerMatches value p := by
  unfold providerMatches
  rw [h.targetId, h.releaseId, h.artifactId, h.releaseDigest, h.artifactDigest]

/-- **The pair names one publication** in every run with fresh identifiers. -/
theorem pairPublished_of_run {ok : ReleasePublicationCoordinator → PublicationOperation → Prop}
    (hfresh : ∀ s op, ok s op → s.Fresh op) (hrun : RunFrom projectId target ok tr s) :
    PairPublished target tr s := by
  refine (sound_invariant (PairPublished target) hfresh (.inl ⟨rfl, rfl⟩) ?_ hrun).2
  intro tr s op hs hok hpair heffect
  rcases heffect.declines_or_accepts hs (hfresh s op hok) with hdeclines | ⟨p, p', haccepts⟩
  · refine hpair.imp ?_ ?_
    · rintro ⟨hrelease, hartifact⟩
      exact ⟨hdeclines.quiet.current.trans hrelease, hdeclines.artifact.trans hartifact⟩
    · rintro ⟨p, hp, hstate, hrelease, hartifact, t, ht, hresult⟩
      exact ⟨p, hdeclines.published p.id p hp hstate, hstate,
        hdeclines.quiet.current.trans hrelease, hdeclines.artifact.trans hartifact,
        t, List.mem_append_left _ ht, hresult⟩
  · obtain ⟨value, hresult, hmatches⟩ := haccepts.result
    refine .inr ⟨p', ?_, haccepts.state, ?_, ?_, .of step s op, ?_, value, ?_, ?_⟩
    · rw [haccepts.files.publications, if_pos rfl]
    · rw [haccepts.files.target, haccepts.same.releaseId]
      rfl
    · rw [haccepts.files.target, haccepts.same.artifactId]
      rfl
    · exact List.mem_append_right _ (List.mem_singleton.mpr rfl)
    · rw [haccepts.same.id]
      exact hresult
    · rw [providerMatches_congr haccepts.same, hmatches]

/-- **The publication pointer is a compare-and-swap** in every run in which a matching
result arrives only while no other publication is under way, unless its Release is
current; and its pair always names one publication. -/
theorem publishes_of_run (hrun : RunFrom projectId target AcceptedAlone tr s) :
    NeverOverwrites tr ∧ PairPublished target tr s :=
  ⟨neverOverwrites_of_run hrun, pairPublished_of_run acceptedAlone_fresh hrun⟩

end ReleasePublicationCoordinator

open ReleasePublicationCoordinator

namespace Sample

/-- Two packages, one after the other. -/
def publishedInTurn : List PublicationOperation :=
  [registerPackage "a", registerPackage "b", publish "a" "1", echoed "a" "1",
   publish "b" "2", echoed "b" "2"]

/-- Two packages, published against the same empty Target. -/
def publishedAtOnce : List PublicationOperation :=
  [registerPackage "a", registerPackage "b", publish "a" "1", publish "b" "2",
   echoed "a" "1", echoed "b" "2"]

end Sample

theorem publishes_of_run_sample :
    NeverOverwrites (Sample.publicationsRan Sample.publishedInTurn).1 ∧
      PairPublished Sample.assetTarget (Sample.publicationsRan Sample.publishedInTurn).1
        (Sample.publicationsRan Sample.publishedInTurn).2 :=
  publishes_of_run (run_exec (by decide +kernel))

/-- Both publications expect an empty Target; the second one overwrites the first. -/
theorem second_publication_overwrites :
    Admits step Fresh (.initial "project" Sample.assetTarget) Sample.publishedAtOnce ∧
      ¬ NeverOverwrites (Sample.publicationsRan Sample.publishedAtOnce).1 := by
  refine ⟨by decide +kernel, fun hnever => ?_⟩
  obtain ⟨t, ht, hop, p, hp, hexpected, hmoved⟩ :
      ∃ t ∈ (Sample.publicationsRan Sample.publishedAtOnce).1,
        t.op.result.map Prod.fst = some "release-publication:2" ∧
        ∃ p ∈ t.pre.publications.get? "release-publication:2",
          p.expectedCurrentReleaseId ≠ t.pre.target.currentReleaseId ∧
          t.post.target.currentReleaseId ≠ t.pre.target.currentReleaseId := by decide +kernel
  obtain ⟨⟨id, value⟩, hresult, hid⟩ := Option.map_eq_some_iff.mp hop
  cases hid
  obtain ⟨receipt, hop'⟩ := PublicationOperation.result_eq_some.mp hresult
  exact hmoved (hnever t ht _ _ p hop' hp hexpected).1

end Anyam.Delivery
