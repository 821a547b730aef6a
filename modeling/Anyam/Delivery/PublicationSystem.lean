import Anyam.Delivery.ReleasePublication
import Anyam.Lib.Run

/-!
# The publication coordinator as a system

Callers publish and retry while provider calls of any number of publications are in
flight, and the provider answers them in any order, with anything, or by throwing.

- `Sound`: records are filed under their ids with the Release and the Artifact they
  name, and an execution waits only for a publication that is publishing.
- **`step_effect`**: everything one operation can do in a sound state.
- **`sound_invariant`**: the run rule over `Effect`.
-/

namespace Anyam.Delivery

open Anyam.Lib Anyam.Kernel

inductive PublicationOperation
  | registerRelease (release : ImmutableRelease)
  | requestPublication (input : ReleasePublicationRequest) (uuid : String)
  | publish (input : ReleasePublicationRequest) (uuid : String)
  | retry (input : ReleasePublicationRetryRequest)
  /-- The provider answers the call a publication's execution waits for. -/
  | answer (publicationId : String) (answer : AdapterAnswer PublishedArtifact)
  /-- `executeOnce` removes a settled execution. -/
  | cleanup (publicationId : String)
deriving Repr

inductive PublicationReply
  | registered
  | publication (record : ReleasePublicationRecord)
  | execution (publicationId : String)
  | threw (error : PublicationError)
  | idle
deriving Repr

/-- The identifier an operation draws for a new publication. -/
def PublicationOperation.drawn : PublicationOperation → Option String
  | .requestPublication _ uuid | .publish _ uuid => some uuid
  | _ => none

/-- The result an operation's provider call answered with. -/
def PublicationOperation.result : PublicationOperation → Option (String × PublishedArtifact)
  | .answer id (.returned (.succeeded value _)) => some (id, value)
  | _ => none

theorem PublicationOperation.result_eq_some {op : PublicationOperation} {id : String}
    {value : PublishedArtifact} :
    op.result = some (id, value) ↔
      ∃ receipt, op = .answer id (.returned (.succeeded value receipt)) := by
  unfold PublicationOperation.result
  split
  · simp
  · rename_i hother
    refine ⟨nofun, ?_⟩
    rintro ⟨receipt, rfl⟩
    exact (hother _ _ _ rfl).elim

namespace ReleasePublicationCoordinator

variable (s : ReleasePublicationCoordinator)

/-! ## One operation -/

def register (release : ImmutableRelease) : PublicationReply × ReleasePublicationCoordinator :=
  match s.registerRelease release with
  | .error error => (.threw error, s)
  | .ok s => (.registered, s)

def request (input : ReleasePublicationRequest) (uuid : String) :
    PublicationReply × ReleasePublicationCoordinator :=
  match s.requestPublication input uuid with
  | .error error => (.threw error, s)
  | .ok (publication, s) => (.publication publication, s)

/-- `publish` after its request. -/
def startRequested (requested : ReleasePublicationRecord) :
    PublicationReply × ReleasePublicationCoordinator :=
  if s.executions.has requested.id then (.execution requested.id, s)
  else if requested.state ≠ .proposed then (.publication requested, s)
  else (.execution requested.id, s.executeOnce requested.id)

def publish (input : ReleasePublicationRequest) (uuid : String) :
    PublicationReply × ReleasePublicationCoordinator :=
  match s.requestPublication input uuid with
  | .error error => (.threw error, s)
  | .ok (requested, s) => s.startRequested requested

def retry (input : ReleasePublicationRetryRequest) :
    PublicationReply × ReleasePublicationCoordinator :=
  match s.retriedBefore input with
  | .error error => (.threw error, s)
  | .ok (some existing) =>
    if s.executions.has existing.id then (.execution existing.id, s)
    else (.publication existing, s)
  | .ok none =>
    match s.retryablePublication input with
    | .error error => (.threw error, s)
    | .ok publication =>
      let publication := s.retried publication input.idempotencyKey
      let s := { s with idempotency := s.idempotency.set input.idempotencyKey publication.id }
      match s.transition publication .proposed publication.receipt with
      | (.error error, s) => (.threw error, s)
      | (.ok publication, s) => (.execution publication.id, s.executeOnce publication.id)

def resume (publicationId : String) (answer : AdapterAnswer PublishedArtifact) :
    PublicationReply × ReleasePublicationCoordinator :=
  match s.executions.get? publicationId, s.publications.get? publicationId with
  | some (.waiting release artifact), some publication =>
    let (execution, s) := s.resumePublish publication release artifact answer
    (.execution publicationId, { s with executions := s.executions.set publicationId execution })
  | _, _ => (.idle, s)

def cleanup (publicationId : String) : PublicationReply × ReleasePublicationCoordinator :=
  match s.executions.get? publicationId with
  | some (.settled _) => (.idle, { s with executions := s.executions.delete publicationId })
  | _ => (.idle, s)

/-- Apply one operation. -/
def step : PublicationOperation → ReleasePublicationCoordinator →
    PublicationReply × ReleasePublicationCoordinator
  | .registerRelease release, s => s.register release
  | .requestPublication input uuid, s => s.request input uuid
  | .publish input uuid, s => s.publish input uuid
  | .retry input, s => s.retry input
  | .answer publicationId answer, s => s.resume publicationId answer
  | .cleanup publicationId, s => s.cleanup publicationId

/-- The drawn identifier is not in use. -/
def Fresh (s : ReleasePublicationCoordinator) (op : PublicationOperation) : Prop :=
  ∀ uuid ∈ op.drawn, s.publications.get? (opaqueId "release-publication" uuid) = none

instance (op : PublicationOperation) : Decidable (s.Fresh op) :=
  inferInstanceAs (Decidable (∀ uuid ∈ op.drawn, _ = none))

variable {s} {s' s₁ : ReleasePublicationCoordinator} {p p' p₁ p₂ : ReleasePublicationRecord}
  {target target₁ : ReleaseAssetTarget}

/-! ## Edits and transitions -/

/-- The fields of a publication record that say what is published where. -/
structure SameLineage (p p' : ReleasePublicationRecord) : Prop where
  id : p'.id = p.id
  targetId : p'.targetId = p.targetId
  releaseId : p'.releaseId = p.releaseId
  artifactId : p'.artifactId = p.artifactId
  releaseDigest : p'.releaseDigest = p.releaseDigest
  artifactDigest : p'.artifactDigest = p.artifactDigest

/-- An edit that keeps the lineage and the expectation. -/
structure SameRequest (p p' : ReleasePublicationRecord) : Prop extends SameLineage p p' where
  expected : p'.expectedCurrentReleaseId = p.expectedCurrentReleaseId

theorem SameRequest.trans {p'' : ReleasePublicationRecord} (h' : SameRequest p' p'')
    (h : SameRequest p p' := by exact ⟨⟨rfl, rfl, rfl, rfl, rfl, rfl⟩, rfl⟩) : SameRequest p p'' where
  id := h'.id.trans h.id
  targetId := h'.targetId.trans h.targetId
  releaseId := h'.releaseId.trans h.releaseId
  artifactId := h'.artifactId.trans h.artifactId
  releaseDigest := h'.releaseDigest.trans h.releaseDigest
  artifactDigest := h'.artifactDigest.trans h.artifactDigest
  expected := h'.expected.trans h.expected

/-- `s'` is `s` with one publication record and the Target replaced. -/
structure Leaves (s : ReleasePublicationCoordinator) (p : ReleasePublicationRecord)
    (target : ReleaseAssetTarget) (s' : ReleasePublicationCoordinator) : Prop where
  publications : ∀ k, s'.publications.get? k = if k = p.id then some p else s.publications.get? k
  target : s'.target = target
  releases : s'.releases = s.releases
  executions : s'.executions = s.executions

/-- Nothing edited yet, but the Target and the keys. -/
theorem Leaves.refl (hp : s.publications.get? p.id = some p) (target : ReleaseAssetTarget)
    (idempotency : OrderedMap String String) :
    s.Leaves p target { s with target, idempotency } where
  publications k := by
    split
    · rename_i hk
      rw [hk, hp]
    · rfl
  target := rfl
  releases := rfl
  executions := rfl

/-- A transition the table has is made. -/
theorem Leaves.transition (h : s.Leaves p₁ target₁ s₁) (p₂ : ReleasePublicationRecord)
    (hid : p₂.id = p₁.id) {next : ReleasePublicationState} (hnext : next ∈ transitions p₂.state) (receipt : String) :
    ∃ p₃ s₂, s₁.transition p₂ next receipt = (.ok p₃, s₂) ∧ SameRequest p₂ p₃ ∧
      p₃.state = next ∧ s.Leaves p₃ target₁ s₂ := by
  refine ⟨{ p₂ with state := next }, _, if_pos hnext, ?_, rfl, fun k => ?_, h.target, h.releases,
    h.executions⟩
  · exact ⟨⟨rfl, rfl, rfl, rfl, rfl, rfl⟩, rfl⟩
  · show (s₁.publications.set p₂.id _).get? k = _
    rw [OrderedMap.get?_set, h.publications, ← hid]
    split <;> rfl

/-! ## Executions -/

/-- What the provider's answer does to a publication that is publishing. -/
inductive PublishAnswered (s : ReleasePublicationCoordinator) (p : ReleasePublicationRecord)
    (release : ImmutableRelease) (artifact : Artifact) :
    AdapterAnswer PublishedArtifact → ReleasePublicationRecord → ReleaseAssetTarget → Prop
  /-- The call failed, or answered with another lineage. -/
  | refused {answer p'} (publicationState : TargetPublicationState)
      (hstate : p'.state ∈ retryablePublicationStates)
      (hmismatch : ∀ value receipt, answer = .returned (.succeeded value receipt) →
        providerMatches value p = false) :
      PublishAnswered s p release artifact answer p' { s.target with publicationState }
  | accepted {value receipt p'} (hmatches : providerMatches value p = true)
      (hstate : p'.state = .published) :
      PublishAnswered s p release artifact (.returned (.succeeded value receipt)) p'
        (s.target.published release.release.id artifact.id)

/-- The answer settles the publication's execution. -/
def Publishes (s : ReleasePublicationCoordinator) (p : ReleasePublicationRecord)
    (release : ImmutableRelease) (artifact : Artifact) (answer : AdapterAnswer PublishedArtifact)
    (next : PublicationExecution × ReleasePublicationCoordinator) : Prop :=
  ∃ p' target, SameRequest p p' ∧ PublishAnswered s p release artifact answer p' target ∧
    next.1 = .settled (.ok p') ∧ s.Leaves p' target next.2

section Executions

variable {release : ImmutableRelease} {artifact : Artifact} {answer : AdapterAnswer PublishedArtifact}

/-- A failed publication settles, and the Target reports `publicationState`. -/
theorem publishes_fail (hp : s.publications.get? p.id = some p) (hstate : p.state = .publishing)
    {next : ReleasePublicationState} (hnext : next ∈ retryablePublicationStates)
    (hmismatch : ∀ value receipt, answer = .returned (.succeeded value receipt) →
      providerMatches value p = false)
    (publicationState : TargetPublicationState) (message recoveryAction receipt : String) :
    s.Publishes p release artifact answer (settleWith
      ((s.setPublicationState publicationState).fail p next message recoveryAction receipt)) := by
  have hleaves : s.Leaves p { s.target with publicationState }
      (s.setPublicationState publicationState) := .refl hp _ s.idempotency
  have hallowed : next ∈ transitions p.state := by
    rw [hstate]
    exact List.mem_cons_of_mem _ hnext
  obtain ⟨p', s', heq, hsame, hp', hleaves'⟩ := hleaves.transition { p with
    recoveryAction := some recoveryAction
    receipt := s!"publication={next}; {message}; {receipt}" } rfl hallowed
    s!"publication={next}; {message}; {receipt}"
  unfold fail
  rw [heq]
  exact ⟨p', _, hsame.trans, .refused publicationState (hp' ▸ hnext) hmismatch, rfl, hleaves'⟩

theorem publishFailureState_mem (failure : DeliveryAdapterFailure) :
    publishFailureState failure ∈ retryablePublicationStates := by
  unfold publishFailureState
  cases failure.outcome with
  | indeterminate => exact List.mem_of_elem_eq_true rfl
  | failed => cases failure.retryable <;> decide

/-- **An answer settles its publication**: as failed, or as published when the
provider echoed its lineage. -/
theorem resumePublish_spec (hp : s.publications.get? p.id = some p)
    (hstate : p.state = .publishing) (answer : AdapterAnswer PublishedArtifact) :
    s.Publishes p release artifact answer (s.resumePublish p release artifact answer) := by
  unfold resumePublish
  cases hanswer : invokePublish answer with
  | failed failure =>
    have hmismatch : ∀ value receipt, answer = .returned (.succeeded value receipt) →
        providerMatches value p = false := by
      rintro value receipt rfl
      cases hanswer
    simp only []
    split
    · exact publishes_fail hp hstate (publishFailureState_mem failure) hmismatch ..
    · exact publishes_fail hp hstate (publishFailureState_mem failure) hmismatch
        s.target.publicationState ..
  | succeeded value providerReceipt =>
    obtain (⟨value', receipt⟩ | failure) | message := answer
    · cases hanswer
      simp only []
      split
      · rename_i hmismatch
        refine publishes_fail hp hstate (by decide) (fun value' receipt heq => ?_) ..
        cases heq
        exact Bool.eq_false_iff.mpr hmismatch
      · rename_i hmatches
        rw [not_not] at hmatches
        have hleaves : s.Leaves p (s.target.published release.release.id artifact.id) _ :=
          .refl hp _ s.idempotency
        have hallowed : .published ∈ transitions p.state := by rw [hstate]; decide
        obtain ⟨p', s', heq, hsame, hp', hleaves'⟩ := hleaves.transition { p with
          toProviderDetails := value.toProviderDetails.over p.toProviderDetails
          providerObjectId := some value.providerObjectId
          receipt := _ } rfl hallowed _
        rw [heq]
        exact ⟨p', _, hsame.trans, .accepted hmatches hp', rfl, hleaves'⟩
    · cases hanswer
    · cases hanswer

/-- The execution of a proposed publication waits for the provider. -/
theorem execute_spec (hp : s.publications.get? p.id = some p) (hstate : p.state = .proposed)
    (hrelease : s.releases.get? p.releaseId = some release)
    (hartifact : artifactOf release p.artifactId = some artifact) :
    ∃ p', SameRequest p p' ∧ p'.state = .publishing ∧
      (s.execute p.id).1 = .waiting release artifact ∧ s.Leaves p' s.target (s.execute p.id).2 := by
  have hleaves : s.Leaves p s.target s := .refl hp _ s.idempotency
  have hallowed : .publishing ∈ transitions p.state := by rw [hstate]; decide
  obtain ⟨p', s', heq, hsame, hp', hleaves'⟩ := hleaves.transition p rfl hallowed
    s!"publication=publishing; releaseDigest={release.releaseDigest}; artifactDigest={artifact.digest}"
  unfold execute
  simp only [hp, hstate, ne_eq, not_true_eq_false, if_false, hrelease, hartifact, heq]
  exact ⟨p', hsame, hp', trivial, hleaves'⟩

end Executions

/-! ## The invariant -/

theorem id_of_artifactOf {release : ImmutableRelease} {artifactId : String} {artifact : Artifact}
    (h : artifactOf release artifactId = some artifact) : artifact.id = artifactId := by
  have hfound := List.find?_some h
  exact of_decide_eq_true hfound

/-- The Release and the Artifact a publication record names. -/
def Names (s : ReleasePublicationCoordinator) (p : ReleasePublicationRecord)
    (release : ImmutableRelease) (artifact : Artifact) : Prop :=
  s.releases.get? p.releaseId = some release ∧ artifactOf release p.artifactId = some artifact

theorem Names.congr {release : ImmutableRelease} {artifact : Artifact}
    (h : s.Names p release artifact) (hreleases : s'.releases = s.releases)
    (hsame : SameLineage p p') : s'.Names p' release artifact := by
  obtain ⟨hrelease, hartifact⟩ := h
  refine ⟨?_, ?_⟩
  · rw [hreleases, hsame.releaseId, hrelease]
  · rw [hsame.artifactId, hartifact]

/-- Records are filed under their ids, a publication names a registered Release and one
of its Artifacts, and a waiting execution publishes these. -/
structure Sound (s : ReleasePublicationCoordinator) : Prop where
  publicationsKeyed : s.publications.SelfKeyed ReleasePublicationRecord.id
  releasesKeyed : s.releases.SelfKeyed fun release => release.release.id
  names : ∀ id p, s.publications.get? id = some p → ∃ release artifact, s.Names p release artifact
  publicationOf : ∀ id e, s.executions.get? id = some e → ∃ p, s.publications.get? id = some p
  waiting : ∀ id p release artifact, s.publications.get? id = some p →
    s.executions.get? id = some (.waiting release artifact) →
    p.state = .publishing ∧ s.Names p release artifact

theorem sound_initial (projectId : String) (target : ReleaseAssetTarget) :
    (initial projectId target).Sound where
  publicationsKeyed := OrderedMap.selfKeyed_empty _
  releasesKeyed := OrderedMap.selfKeyed_empty _
  names := by simp [initial]
  publicationOf := by simp [initial]
  waiting := by simp [initial]

theorem Sound.filed (hs : s.Sound) {id : String} (hp : s.publications.get? id = some p) :
    p.id = id :=
  hs.publicationsKeyed id p hp

theorem Sound.found (hs : s.Sound) {id : String} (hp : s.publications.get? id = some p) :
    s.publications.get? p.id = some p := by
  rw [hs.filed hp, hp]

/-! ## What one operation does -/

/-- `s'` is `s` with one publication record, its execution and the Target replaced. -/
structure Files (s : ReleasePublicationCoordinator) (p : ReleasePublicationRecord)
    (e : PublicationExecution) (target : ReleaseAssetTarget) (s' : ReleasePublicationCoordinator) :
    Prop where
  publications : ∀ k, s'.publications.get? k = if k = p.id then some p else s.publications.get? k
  executions : ∀ k, s'.executions.get? k = if k = p.id then some e else s.executions.get? k
  target : s'.target = target
  releases : s'.releases = s.releases

theorem Leaves.files {e : PublicationExecution} (h : s.Leaves p target s₁) {id : String}
    (hid : p.id = id) :
    s.Files p e target { s₁ with executions := s₁.executions.set id e } where
  publications := h.publications
  executions k := by
    show (s₁.executions.set id e).get? k = _
    rw [OrderedMap.get?_set, h.executions, hid]
  target := h.target
  releases := h.releases

/-- A new publication `p` was filed, expecting the present current Release. -/
structure Requested (s : ReleasePublicationCoordinator) (uuid : String)
    (p : ReleasePublicationRecord) (s' : ReleasePublicationCoordinator) : Prop where
  id : p.id = opaqueId "release-publication" uuid
  state : p.state = .proposed
  expected : p.expectedCurrentReleaseId = s.target.currentReleaseId
  names : ∃ release artifact, s.Names p release artifact
  leaves : s.Leaves p s.target s'

/-- A settled publication `p` was proposed again as `p'`, against the present current
Release. -/
structure Retried (s : ReleasePublicationCoordinator) (input : ReleasePublicationRetryRequest)
    (p p' : ReleasePublicationRecord) (s' : ReleasePublicationCoordinator) : Prop where
  found : s.publications.get? input.publicationId = some p
  retryable : p.state ∈ retryablePublicationStates
  same : SameLineage p p'
  state : p'.state = .proposed
  expected : p'.expectedCurrentReleaseId = s.target.currentReleaseId
  leaves : s.Leaves p' s.target s'

/-- The execution of the proposed publication `p` was started. -/
inductive Starts (s : ReleasePublicationCoordinator) (p : ReleasePublicationRecord)
    (s' : ReleasePublicationCoordinator) : Prop
  | intro {p' release artifact} (hp : s.publications.get? p.id = some p)
      (hstate : p.state = .proposed) (hnames : s.Names p release artifact)
      (hsame : SameRequest p p') (hstarted : p'.state = .publishing)
      (hfiles : s.Files p' (.waiting release artifact) s.target s')

/-- Everything one operation can leave. -/
inductive Effect (s : ReleasePublicationCoordinator) :
    PublicationOperation → ReleasePublicationCoordinator → Prop
  | unchanged {op} : Effect s op s
  | registered {release} (hnew : s.releases.get? release.release.id = none) :
      Effect s (.registerRelease release)
        { s with releases := s.releases.set release.release.id release }
  | requested {op uuid p s'} (hdrawn : op.drawn = some uuid) (hrequest : s.Requested uuid p s') :
      Effect s op s'
  | started {op uuid p s₁ s'} (hdrawn : op.drawn = some uuid) (hrequest : s.Requested uuid p s₁)
      (hstart : s₁.Starts p s') : Effect s op s'
  /-- A publication proposed before is started now. -/
  | taken {op uuid p s'} (hdrawn : op.drawn = some uuid) (hstart : s.Starts p s') : Effect s op s'
  | retried {input p p' s₁ s'} (hretry : s.Retried input p p' s₁) (hstart : s₁.Starts p' s') :
      Effect s (.retry input) s'
  /-- The execution registered for the publication is kept. -/
  | retriedRegistered {input p p' s'} (hretry : s.Retried input p p' s') :
      Effect s (.retry input) s'
  | answered {id answer p release artifact p' target s'} (hp : s.publications.get? id = some p)
      (hwaiting : s.executions.get? id = some (.waiting release artifact))
      (hsame : SameRequest p p') (hanswered : s.PublishAnswered p release artifact answer p' target)
      (hfiles : s.Files p' (.settled (.ok p')) target s') : Effect s (.answer id answer) s'
  | cleaned {id outcome} (hsettled : s.executions.get? id = some (.settled outcome)) :
      Effect s (.cleanup id) { s with executions := s.executions.delete id }

/-! ### Calls -/

theorem registerRelease_ok {release : ImmutableRelease} (h : s.registerRelease release = .ok s') :
    s' = s ∨ s.releases.get? release.release.id = none ∧
      s' = { s with releases := s.releases.set release.release.id release } := by
  simp only [registerRelease, bind_eq_ok, require_eq_ok, exists_unit] at h
  obtain ⟨-, h⟩ := h
  cases hcurrent : s.releases.get? release.release.id with
  | some current =>
    simp only [hcurrent, bind_eq_ok, require_eq_ok, exists_unit, pure_eq_ok] at h
    exact .inl h.2.symm
  | none =>
    simp only [hcurrent, pure_eq_ok] at h
    exact .inr ⟨rfl, h.symm⟩

theorem requestPublication_ok {input : ReleasePublicationRequest} {uuid : String} (hs : s.Sound)
    (h : s.requestPublication input uuid = .ok (p, s')) :
    s' = s ∧ s.publications.get? p.id = some p ∨ s.Requested uuid p s' := by
  unfold requestPublication at h
  rw [bind_eq_ok] at h
  obtain ⟨existing, hbefore, h⟩ := h
  cases existing with
  | some existing =>
    cases h
    unfold requestedBefore at hbefore
    split at hbefore
    · cases hbefore
    · simp only [bind_eq_ok, orThrow_eq_ok, pure_eq_ok, Option.some.injEq] at hbefore
      obtain ⟨found, hfound, rfl⟩ := hbefore
      exact .inl ⟨rfl, hs.found (Option.filter_eq_some_iff.mp hfound).1⟩
  | none =>
    simp only [bind_eq_ok, orThrow_eq_ok, require_eq_ok, exists_unit, pure_eq_ok,
      Prod.mk.injEq] at h
    obtain ⟨release, hrelease, artifact, hartifact, -, hexpected, rfl, rfl⟩ := h
    have hrelease' : release.release.id = input.releaseId := hs.releasesKeyed _ _ hrelease
    refine .inr ⟨rfl, rfl, hexpected, ⟨release, artifact, ?_, ?_⟩, ?_⟩
    · show s.releases.get? release.release.id = _
      rw [hrelease', hrelease]
    · show artifactOf release artifact.id = _
      rw [id_of_artifactOf hartifact, hartifact]
    · exact ⟨fun k => s.publications.get?_set _ k _, rfl, rfl, rfl⟩

theorem register_effect (release : ImmutableRelease) :
    Effect s (.registerRelease release) (s.register release).2 := by
  unfold register
  cases h : s.registerRelease release with
  | error error => exact .unchanged
  | ok s₁ =>
    rcases registerRelease_ok h with rfl | ⟨hnew, rfl⟩
    · exact .unchanged
    · exact .registered hnew

theorem request_effect (hs : s.Sound) (input : ReleasePublicationRequest) (uuid : String) :
    Effect s (.requestPublication input uuid) (s.request input uuid).2 := by
  unfold request
  cases h : s.requestPublication input uuid with
  | error error => exact .unchanged
  | ok requested =>
    obtain ⟨p, s₁⟩ := requested
    rcases requestPublication_ok hs h with ⟨rfl, -⟩ | hrequest
    · exact .unchanged
    · exact .requested rfl hrequest

theorem executeOnce_starts {release : ImmutableRelease} {artifact : Artifact}
    (hp : s.publications.get? p.id = some p) (hstate : p.state = .proposed)
    (hnames : s.Names p release artifact) (hfree : ¬ s.executions.has p.id) :
    s.Starts p (s.executeOnce p.id) := by
  obtain ⟨p', hsame, hstarted, hwaiting, hleaves⟩ := execute_spec hp hstate hnames.1 hnames.2
  unfold executeOnce
  rw [if_neg hfree]
  exact .intro hp hstate hnames hsame hstarted (hwaiting ▸ hleaves.files hsame.id)

/-- `publish` after its request starts a proposed publication without an execution, and
nothing else. -/
theorem startRequested_cases {release : ImmutableRelease} {artifact : Artifact}
    (hp : s.publications.get? p.id = some p) (hnames : s.Names p release artifact) :
    (s.startRequested p).2 = s ∨ s.Starts p (s.startRequested p).2 := by
  unfold startRequested
  by_cases hbusy : s.executions.has p.id
  · rw [if_pos hbusy]
    exact .inl rfl
  · rw [if_neg hbusy]
    by_cases hstate : p.state = .proposed
    · rw [if_neg (not_not.mpr hstate)]
      exact .inr (executeOnce_starts hp hstate hnames hbusy)
    · rw [if_pos hstate]
      exact .inl rfl

theorem publish_effect (hs : s.Sound) (input : ReleasePublicationRequest) (uuid : String) :
    Effect s (.publish input uuid) (s.publish input uuid).2 := by
  unfold publish
  cases h : s.requestPublication input uuid with
  | error error => exact .unchanged
  | ok requested =>
    obtain ⟨p, s₁⟩ := requested
    rcases requestPublication_ok hs h with ⟨rfl, hp⟩ | hrequest
    · obtain ⟨release, artifact, hnames⟩ := hs.names _ p hp
      rcases startRequested_cases hp hnames with heq | hstart
      · simp only [heq]
        exact .unchanged
      · exact .taken rfl hstart
    · obtain ⟨release, artifact, hnames⟩ := hrequest.names
      have hp : s₁.publications.get? p.id = some p := by simp [hrequest.leaves.publications]
      have hnames' : s₁.Names p release artifact :=
        hnames.congr hrequest.leaves.releases ⟨rfl, rfl, rfl, rfl, rfl, rfl⟩
      rcases startRequested_cases hp hnames' with heq | hstart
      · simp only [heq]
        exact .requested rfl hrequest
      · exact .started rfl hrequest hstart

theorem retry_effect (hs : s.Sound) (input : ReleasePublicationRetryRequest) :
    Effect s (.retry input) (s.retry input).2 := by
  unfold retry
  cases s.retriedBefore input with
  | error error => exact .unchanged
  | ok before =>
    cases before with
    | some existing =>
      simp only []
      split <;> exact .unchanged
    | none =>
      cases h : s.retryablePublication input with
      | error error => exact .unchanged
      | ok p =>
        unfold retryablePublication at h
        simp only [bind_eq_ok, orThrow_eq_ok, require_eq_ok, exists_unit, pure_eq_ok] at h
        obtain ⟨found, hfound, hretryable, rfl⟩ := h
        have hfiled := Leaves.refl (hs.found hfound) s.target
          (s.idempotency.set input.idempotencyKey (s.retried found input.idempotencyKey).id)
        have hallowed : .proposed ∈ transitions found.state := by
          revert hretryable
          cases found.state <;> decide
        obtain ⟨p', s₁, heq, hsame, hp', hleaves⟩ := hfiled.transition
          (s.retried found input.idempotencyKey) rfl hallowed
          (s.retried found input.idempotencyKey).receipt
        have hlineage : SameLineage found p' :=
          ⟨hsame.id, hsame.targetId, hsame.releaseId, hsame.artifactId, hsame.releaseDigest,
            hsame.artifactDigest⟩
        have hretry : s.Retried input found p' s₁ :=
          ⟨hfound, hretryable, hlineage, hp', hsame.expected, hleaves⟩
        simp only [heq]
        by_cases hbusy : s₁.executions.has p'.id
        · rw [executeOnce, if_pos hbusy]
          exact .retriedRegistered hretry
        · obtain ⟨release, artifact, hnames⟩ := hs.names _ found hfound
          have hp : s₁.publications.get? p'.id = some p' := by simp [hleaves.publications]
          exact .retried hretry
            (executeOnce_starts hp hp' (hnames.congr hleaves.releases hlineage) hbusy)

/-! ### Answers -/

/-- The answer a waiting execution gets settles its publication. -/
theorem resume_answered (hs : s.Sound) {id : String} {release : ImmutableRelease}
    {artifact : Artifact} (answer : AdapterAnswer PublishedArtifact)
    (hp : s.publications.get? id = some p)
    (hwaiting : s.executions.get? id = some (.waiting release artifact)) :
    ∃ p' target, SameRequest p p' ∧ s.PublishAnswered p release artifact answer p' target ∧
      s.Files p' (.settled (.ok p')) target (s.resume id answer).2 := by
  obtain ⟨hstate, -⟩ := hs.waiting id p release artifact hp hwaiting
  obtain ⟨p', target, hsame, hanswered, hsettled, hleaves⟩ :
      s.Publishes p release artifact answer (s.resumePublish p release artifact answer) :=
    resumePublish_spec (hs.found hp) hstate answer
  refine ⟨p', target, hsame, hanswered, ?_⟩
  unfold resume
  rw [hwaiting, hp]
  exact hsettled ▸ hleaves.files (hsame.id.trans (hs.filed hp))

theorem resume_effect (hs : s.Sound) (id : String) (answer : AdapterAnswer PublishedArtifact) :
    Effect s (.answer id answer) (s.resume id answer).2 := by
  cases hwaiting : s.executions.get? id with
  | none =>
    unfold resume
    rw [hwaiting]
    exact .unchanged
  | some e =>
    obtain ⟨p, hp⟩ := hs.publicationOf id e hwaiting
    cases e with
    | waiting release artifact =>
      obtain ⟨p', target, hsame, hanswered, hfiles⟩ := resume_answered hs answer hp hwaiting
      exact .answered hp hwaiting hsame hanswered hfiles
    | settled outcome =>
      unfold resume
      rw [hwaiting]
      exact .unchanged

theorem cleanup_effect (id : String) : Effect s (.cleanup id) (s.cleanup id).2 := by
  unfold cleanup
  split
  · exact .cleaned ‹_›
  · exact .unchanged

/-- **What one operation does** in a sound state. -/
theorem step_effect (hs : s.Sound) (op : PublicationOperation) : Effect s op (step op s).2 := by
  cases op with
  | registerRelease release => exact register_effect release
  | requestPublication input uuid => exact request_effect hs input uuid
  | publish input uuid => exact publish_effect hs input uuid
  | retry input => exact retry_effect hs input
  | answer id answer => exact resume_effect hs id answer
  | cleanup id => exact cleanup_effect id

/-! ## Soundness is kept -/

/-- A record and its execution are replaced together, with the Release and the Artifact
the record names. -/
theorem Sound.files (hs : s.Sound) {e : PublicationExecution} (hfiles : s.Files p e target s')
    (hnames : ∃ release artifact, s.Names p release artifact)
    (hwaiting : ∀ release artifact, e = .waiting release artifact →
      p.state = .publishing ∧ s.Names p release artifact) : s'.Sound where
  publicationsKeyed id q hq := by
    rw [hfiles.publications] at hq
    split at hq
    · rename_i hid
      rw [← Option.some.inj hq, hid]
    · exact hs.publicationsKeyed id q hq
  releasesKeyed := hfiles.releases ▸ hs.releasesKeyed
  names id q hq := by
    rw [hfiles.publications] at hq
    unfold Names
    rw [hfiles.releases]
    split at hq
    · exact Option.some.inj hq ▸ hnames
    · exact hs.names id q hq
  publicationOf id e' he' := by
    rw [hfiles.publications]
    rw [hfiles.executions] at he'
    split
    · exact ⟨p, rfl⟩
    · rename_i hid
      rw [if_neg hid] at he'
      exact hs.publicationOf id e' he'
  waiting id q release artifact hq he' := by
    unfold Names
    rw [hfiles.releases]
    rw [hfiles.publications] at hq
    rw [hfiles.executions] at he'
    split at hq
    · rename_i hid
      rw [if_pos hid] at he'
      exact Option.some.inj hq ▸ hwaiting release artifact (Option.some.inj he')
    · rename_i hid
      rw [if_neg hid] at he'
      exact hs.waiting id q release artifact hq he'

/-- A record without a waiting execution is replaced. -/
theorem Sound.leaves (hs : s.Sound) (hleaves : s.Leaves p target s')
    (hnames : ∃ release artifact, s.Names p release artifact)
    (hfree : ∀ release artifact, s.executions.get? p.id ≠ some (.waiting release artifact)) :
    s'.Sound where
  publicationsKeyed id q hq := by
    rw [hleaves.publications] at hq
    split at hq
    · rename_i hid
      rw [← Option.some.inj hq, hid]
    · exact hs.publicationsKeyed id q hq
  releasesKeyed := hleaves.releases ▸ hs.releasesKeyed
  names id q hq := by
    rw [hleaves.publications] at hq
    unfold Names
    rw [hleaves.releases]
    split at hq
    · exact Option.some.inj hq ▸ hnames
    · exact hs.names id q hq
  publicationOf id e he := by
    rw [hleaves.executions] at he
    rw [hleaves.publications]
    split
    · exact ⟨p, rfl⟩
    · exact hs.publicationOf id e he
  waiting id q release artifact hq he := by
    unfold Names
    rw [hleaves.releases]
    rw [hleaves.executions] at he
    rw [hleaves.publications] at hq
    split at hq
    · rename_i hid
      exact absurd (hid ▸ he) (hfree release artifact)
    · exact hs.waiting id q release artifact hq he

theorem Sound.register (hs : s.Sound) {release : ImmutableRelease}
    (hnew : s.releases.get? release.release.id = none) :
    Sound { s with releases := s.releases.set release.release.id release } := by
  have hkept : ∀ {p release' artifact}, s.Names p release' artifact →
      Names { s with releases := s.releases.set release.release.id release } p release' artifact := by
    rintro p release' artifact ⟨hrelease, hartifact⟩
    refine ⟨?_, hartifact⟩
    show (s.releases.set release.release.id release).get? p.releaseId = some release'
    rw [OrderedMap.get?_set_ne, hrelease]
    intro hid
    rw [hid, hnew] at hrelease
    cases hrelease
  refine ⟨hs.publicationsKeyed, hs.releasesKeyed.set rfl, fun id p hp => ?_, hs.publicationOf,
    fun id p release' artifact hp he => ?_⟩
  · obtain ⟨release', artifact, hnames⟩ := hs.names id p hp
    exact ⟨release', artifact, hkept hnames⟩
  · obtain ⟨hstate, hnames⟩ := hs.waiting id p release' artifact hp he
    exact ⟨hstate, hkept hnames⟩

theorem Sound.cleanup (hs : s.Sound) (id : String) :
    Sound { s with executions := s.executions.delete id } := by
  have hkept : ∀ k e, (s.executions.delete id).get? k = some e → s.executions.get? k = some e := by
    intro k e he
    rw [OrderedMap.get?_delete] at he
    split at he
    · cases he
    · exact he
  exact ⟨hs.publicationsKeyed, hs.releasesKeyed, hs.names,
    fun k e he => hs.publicationOf k e (hkept k e he),
    fun k p release artifact hp he => hs.waiting k p release artifact hp (hkept k _ he)⟩

theorem Requested.sound {uuid : String} (h : s.Requested uuid p s') (hs : s.Sound)
    (hfresh : s.publications.get? (opaqueId "release-publication" uuid) = none) : s'.Sound := by
  refine hs.leaves h.leaves h.names fun release artifact he => ?_
  obtain ⟨q, hq⟩ := hs.publicationOf _ _ he
  rw [h.id, hfresh] at hq
  cases hq

theorem Retried.sound {input : ReleasePublicationRetryRequest} (h : s.Retried input p p' s')
    (hs : s.Sound) : s'.Sound := by
  obtain ⟨release, artifact, hnames⟩ := hs.names _ p h.found
  refine hs.leaves h.leaves ⟨release, artifact, hnames.congr rfl h.same⟩ fun release artifact he => ?_
  rw [h.same.id] at he
  -- a publication whose execution waits is publishing, and cannot be retried
  have hstate := (hs.waiting _ p release artifact (hs.found h.found) he).1
  exact absurd h.retryable (hstate ▸ by decide)

theorem Starts.sound (h : s.Starts p s') (hs : s.Sound) : s'.Sound := by
  obtain ⟨-, -, hnames, hsame, hstarted, hfiles⟩ := h
  refine hs.files hfiles ⟨_, _, hnames.congr rfl hsame.toSameLineage⟩ fun release artifact he => ?_
  cases he
  exact ⟨hstarted, hnames.congr rfl hsame.toSameLineage⟩

/-- **One operation keeps soundness.** -/
theorem Effect.sound {op : PublicationOperation} (h : Effect s op s') (hs : s.Sound)
    (hfresh : s.Fresh op) : s'.Sound := by
  cases h with
  | unchanged => exact hs
  | registered hnew => exact hs.register hnew
  | requested hdrawn hrequest => exact hrequest.sound hs (hfresh _ hdrawn)
  | started hdrawn hrequest hstart => exact hstart.sound (hrequest.sound hs (hfresh _ hdrawn))
  | taken _ hstart => exact hstart.sound hs
  | retried hretry hstart => exact hstart.sound (hretry.sound hs)
  | retriedRegistered hretry => exact hretry.sound hs
  | answered hp _ hsame _ hfiles =>
    obtain ⟨release, artifact, hnames⟩ := hs.names _ _ hp
    refine hs.files hfiles ⟨release, artifact, hnames.congr rfl hsame.toSameLineage⟩ ?_
    intro release artifact he
    cases he
  | cleaned => exact hs.cleanup _

/-! ## Runs -/

abbrev PublicationTransition :=
  Transition ReleasePublicationCoordinator PublicationOperation PublicationReply

/-- A run of a new coordinator whose operations each satisfied `ok`. -/
abbrev RunFrom (projectId : String) (target : ReleaseAssetTarget)
    (ok : ReleasePublicationCoordinator → PublicationOperation → Prop) :
    List PublicationTransition → ReleasePublicationCoordinator → Prop :=
  Run step ok (initial projectId target)

variable {projectId : String} {ok : ReleasePublicationCoordinator → PublicationOperation → Prop}
  {tr : List PublicationTransition}

/-- **The run rule**: what holds at the start and every effect in a sound state keeps
holds along every run with fresh identifiers. -/
theorem sound_invariant (I : List PublicationTransition → ReleasePublicationCoordinator → Prop)
    (hfresh : ∀ s op, ok s op → s.Fresh op) (h0 : I [] (initial projectId target))
    (hstep : ∀ tr s op, s.Sound → ok s op → I tr s → Effect s op (step op s).2 →
      I (tr ++ [.of step s op]) (step op s).2)
    (hrun : RunFrom projectId target ok tr s) : s.Sound ∧ I tr s := by
  refine hrun.traceInvariant (fun tr s => s.Sound ∧ I tr s) ⟨sound_initial _ _, h0⟩ ?_
  rintro tr s op ⟨hs, hI⟩ hok
  have heffect := step_effect hs op
  exact ⟨heffect.sound hs (hfresh s op hok), hstep tr s op hs hok hI heffect⟩

theorem sound_of_run (hfresh : ∀ s op, ok s op → s.Fresh op)
    (hrun : RunFrom projectId target ok tr s) : s.Sound :=
  (sound_invariant (fun _ _ => True) hfresh trivial (fun _ _ _ _ _ _ _ => trivial) hrun).1

/-- A transition of a run was one effect in a sound state. -/
theorem effect_of_mem (hfresh : ∀ s op, ok s op → s.Fresh op)
    (hrun : RunFrom projectId target ok tr s) {t : PublicationTransition} (ht : t ∈ tr) :
    t.pre.Sound ∧ ok t.pre t.op ∧ Effect t.pre t.op t.post := by
  obtain ⟨tr₁, tr₂, rfl⟩ := List.append_of_mem ht
  obtain ⟨hbefore, heq, hok, -⟩ := hrun.split
  have hs := sound_of_run hfresh hbefore
  refine ⟨hs, hok, ?_⟩
  rw [heq]
  exact step_effect hs t.op

end ReleasePublicationCoordinator

/-! ## Concrete runs -/

namespace Sample

/-- A release asset Target for the package of the sample Releases. -/
def assetTarget : ReleaseAssetTarget where
  id := "assets"
  projectId := "project"
  name := "packages"
  adapterId := "adapter"
  acceptedArtifactTypes := ["package"]
  requiredEvidenceKeys := []
  state := .configured
  deploymentProfile := none
  currentReleaseId := none
  currentArtifactId := none
  releaseHistory := []
  publicationState := .configured
  contractDigest := "contract"

/-- A sealed Release of one package, with its id for its digests. -/
def packageRelease (id : String) : ImmutableRelease where
  projectId := "project"
  release := {
    id
    projectRevisionId := "r0"
    artifactIds := [id]
    evidenceIds := []
    configurationDigests := []
    policyVersion := "policy"
    status := .ready
    migrationPlan := none }
  artifacts := [⟨id, "package", id, "r0"⟩]
  evidence := []
  releaseDigest := id

def registerPackage (releaseId : String) : PublicationOperation :=
  .registerRelease (packageRelease releaseId)

/-- Publish the package of a Release as `release-publication:uuid`. -/
def publish (releaseId uuid : String) : PublicationOperation :=
  .publish ⟨releaseId, releaseId, uuid, ⟨"principal", "actor", "session", "client"⟩, none⟩ uuid

/-- The provider echoes the lineage of a Release's package. -/
def echoed (releaseId uuid : String) : PublicationOperation :=
  .answer (opaqueId "release-publication" uuid) (.returned (.succeeded {
    targetId := "assets"
    releaseId
    artifactId := releaseId
    releaseDigest := releaseId
    artifactDigest := releaseId
    providerObjectId := uuid
    receipt := "receipt" } "receipt"))

/-- The trace and final state of a list of operations on the sample Target. -/
def publicationsRan (ops : List PublicationOperation) :
    List ReleasePublicationCoordinator.PublicationTransition × ReleasePublicationCoordinator :=
  exec ReleasePublicationCoordinator.step (.initial "project" assetTarget) ops

end Sample

end Anyam.Delivery
