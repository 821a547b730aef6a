import Anyam.Authority.Records
import Anyam.Disclosure.PublicProjection
import Anyam.Kernel.Evidence

/-!
# Audience summaries

`summarizeIntentForAudience`, `summarizePullRequestForAudience` and `summarizeChangeForAudience` of
`disclosure/hybrid.ts`. An Intent, a Pull Request and a comment are shown to an audience by rank. A
Change is shown in two ways only: to the public what is public, to any other audience all of it.

- `disclosureRank`: public, project, restricted.
- `ChangeAlike`, `IntentAlike`: inputs that differ only in records above the audience.
- **`summaries_respect_rank`**: no such record reaches a summary, but for a Change and the project
  audience.
-/

namespace Anyam.Disclosure

open Anyam.Lib Anyam.Kernel
open Anyam.Authority (PullRequestStatus PullRequestReviewState)

def disclosureRank : DisclosureClassification → Nat
  | .public => 0
  | .project => 1
  | .restricted => 2

/-- An audience that is not cleared for a classification. -/
def Above (classification audience : DisclosureClassification) : Prop :=
  disclosureRank audience < disclosureRank classification

instance (classification audience : DisclosureClassification) :
    Decidable (Above classification audience) :=
  inferInstanceAs (Decidable (_ < _))

/-! ## Intents -/

structure CommentSummary where
  id : String
  body : String
  disclosure : DisclosureClassification
deriving DecidableEq, Repr

structure AudienceIntentSummary where
  audience : DisclosureClassification
  projectId : String
  intentId : String
  title : String
  description : String
  status : Authority.IntentStatus
  labels : List String
  comments : List CommentSummary
  receipt : String
deriving DecidableEq, Repr

structure IntentSummaryInput where
  project : Project
  intent : Authority.Intent
  comments : Option (List Authority.IntentComment) := none
  audience : DisclosureClassification
deriving DecidableEq, Repr

section

variable (services : DisclosureServices)

/-- The order comments are shown in: by their time, then by their id. -/
def commentOrder (left right : Authority.IntentComment) : Bool :=
  (services.localeCompare left.createdAt right.createdAt).then
    (services.localeCompare left.id right.id) ≠ .gt

def summarizeIntentForAudience (input : IntentSummaryInput) :
    DisclosureM (Option AudienceIntentSummary) := do
  let intent := input.intent
  require (intent.projectId = input.project.id) {
    code := .projectMismatch
    message := "The Intent does not belong to the requested Project."
    recoveryAction := "derive the Intent summary from the same Project that owns the Intent"
    receipt := "rule=intent-project-equality" }
  if Above intent.disclosure input.audience then
    return none
  let comments := ((input.comments.getD []).filter fun comment =>
      comment.intentId = intent.id ∧ ¬ Above comment.disclosure input.audience).mergeSort
    (commentOrder services)
  return some {
    audience := input.audience
    projectId := input.project.id
    intentId := intent.id
    title := intent.title
    description := intent.description
    status := intent.status
    labels := intent.labels
    comments := comments.map fun comment => ⟨comment.id, comment.body, comment.disclosure⟩
    receipt := s!"audience={input.audience}; intent={intent.id}; inaccessible-metadata=omitted; author=omitted; assignees=omitted" }

end

/-! ## Pull Requests -/

structure AudiencePullRequestSummary where
  audience : DisclosureClassification
  projectId : String
  pullRequestId : String
  changeId : Option String := none
  title : String
  description : String
  status : PullRequestStatus
  reviewState : PullRequestReviewState
  headRef : String
  baseRef : String
  revisionCount : Nat
  receipt : String
deriving DecidableEq, Repr

structure PullRequestSummaryInput where
  project : Project
  pullRequest : Authority.PullRequest
  audience : DisclosureClassification
deriving DecidableEq, Repr

def summarizePullRequestForAudience (input : PullRequestSummaryInput) :
    DisclosureM (Option AudiencePullRequestSummary) := do
  let pullRequest := input.pullRequest
  require (pullRequest.projectId = input.project.id) {
    code := .projectMismatch
    message := "The Pull Request does not belong to the requested Project."
    recoveryAction := "derive the Pull Request summary from the same Project that owns it"
    receipt := "rule=pull-request-project-equality" }
  if Above pullRequest.disclosure input.audience then
    return none
  return some {
    audience := input.audience
    projectId := input.project.id
    pullRequestId := pullRequest.id
    changeId := if input.audience = .public then none else some pullRequest.changeId
    title := pullRequest.title
    description := pullRequest.description
    status := pullRequest.status
    reviewState := pullRequest.reviewState
    headRef := pullRequest.headRef
    baseRef := pullRequest.baseRef
    revisionCount := pullRequest.revisionIds.length
    receipt := s!"audience={input.audience}; pullRequest={pullRequest.id}; provider-identity=omitted; remoteRepository=omitted; canonicalAuthority=anyam" }

/-! ## Changes -/

structure PublicChangeEffect where
  sourceSpaceId : String
  publicLabel : String
  internalLabel : Option String := none
deriving DecidableEq, Repr

structure AudienceEvidenceProjection where
  id : String
  outcome : EvidenceOutcome
  disclosure : DisclosureClassification
deriving DecidableEq, Repr

structure AudienceChangeSummary where
  audience : DisclosureClassification
  projectId : String
  changeId : String
  revisionId : String
  summary : String
  affectedSourceSpaceIds : List String
  declaredEffects : List String
  evidence : List AudienceEvidenceProjection
  receipt : String
deriving DecidableEq, Repr

structure ChangeSummaryInput where
  project : Project
  changeRevision : ChangeRevision
  sourceSpaces : List SourceSpace
  audience : DisclosureClassification
  publicSummary : String
  internalSummary : Option String := none
  publicProjection : Option PublicProjectionRevision := none
  effects : Option (List PublicChangeEffect) := none
  evidence : Option (List Evidence) := none
deriving DecidableEq, Repr

/-- An effect is on a Source Space of the catalog and of the Project. -/
def requireEffect (project : Project) (catalog : OrderedMap String SourceSpace)
    (effect : PublicChangeEffect) : DisclosureM Unit := do
  require (catalog.has effect.sourceSpaceId = true) {
    code := .unknownSourceSpace
    message := "A Change effect names a Source Space outside the disclosure catalog."
    recoveryAction := "refresh the Project Source Space catalog and retry the audience projection"
    receipt := "rule=effect-source-space-catalog-membership" }
  require (effect.sourceSpaceId ∈ project.sourceSpaceIds) {
    code := .sourceSpaceNotInProject
    message := "A Change effect names a Source Space outside the Project."
    recoveryAction := "attach the effect to a Source Space owned by the Project"
    receipt := "rule=effect-project-membership" }

def isPublic (catalog : OrderedMap String SourceSpace) (id : String) : Bool :=
  (catalog.get? id).any (·.classification = .public)

section

variable (services : DisclosureServices)

/-- `[...new Set(ids)].sort(localeCompare)`. -/
def uniqueSorted (ids : List String) : List String :=
  ids.eraseDups.mergeSort fun left right => services.localeCompare left right ≠ .gt

/-- The id that a public summary gives what it shows. -/
def publicId (domain projectionId : String) (fields : List (String × Json)) : String :=
  digest services (.object (
    ("domain", .string domain) :: ("projectionId", .string projectionId) :: fields))

def summarizeEvidence (audience : DisclosureClassification) (projectionId : String)
    (record : Evidence) : AudienceEvidenceProjection where
  id := if audience = .public then
      publicId services "public-evidence" projectionId [("evidence", .string record.id)]
    else record.id
  outcome := record.outcome
  disclosure := if audience = .public then .public else record.disclosure.classification

def summarizeChangeForAudience (input : ChangeSummaryInput) : DisclosureM AudienceChangeSummary := do
  let catalog ← catalogById input.sourceSpaces
  require (¬ (input.audience = .public ∧ input.publicProjection = none)) {
    code := .publicProjectionRequired
    message := "A public Change summary requires the exact public Project View Revision it describes."
    recoveryAction := "derive or load the public projection before rendering the public Change summary"
    receipt := "rule=public-summary-binds-to-public-projection" }
  let effectInputs := input.effects.getD []
  effectInputs.forM (requireEffect input.project catalog)
  let visibleEffects := effectInputs.filter fun effect => isPublic catalog effect.sourceSpaceId
  let revision := input.changeRevision
  let affected := revision.affectedSourceSpaceIds.getD []
  let projectionId := (input.publicProjection.map (·.projectionRevisionId)).getD
    s!"project:{input.project.id}"
  let changeId := if input.audience = .public then
      publicId services "public-change" projectionId [("changeId", .string revision.changeId)]
    else revision.changeId
  return {
    audience := input.audience
    projectId := input.project.id
    changeId
    revisionId := if input.audience = .public then
        publicId services "public-change-revision" projectionId
          [("changeId", .string changeId), ("sequence", .number s!"{revision.sequence}")]
      else revision.id
    summary := if input.audience = .public then input.publicSummary
      else input.internalSummary.getD input.publicSummary
    affectedSourceSpaceIds := uniqueSorted services (
      if input.audience = .public then
        affected.filter (isPublic catalog) ++ visibleEffects.map (·.sourceSpaceId)
      else affected ++ effectInputs.map (·.sourceSpaceId))
    declaredEffects := if input.audience = .public then visibleEffects.map (·.publicLabel)
      else effectInputs.map fun effect => effect.internalLabel.getD effect.publicLabel
    evidence := ((input.evidence.getD []).filter fun record =>
        input.audience ≠ .public ∨ record.disclosure.classification = .public).map
      (summarizeEvidence services input.audience projectionId)
    receipt := s!"audience={input.audience}; projection={projectionId}; inaccessible-metadata=omitted" }

end

/-! ## Records above an audience -/

/-- The rank of the audiences a Source Space is for: everyone, the Project, or its readers. -/
def sourceSpaceRank : SourceSpaceClassification → Nat
  | .public => 0
  | .internal => 1
  | .restricted | .resultOnly => 2

/-- A Source Space is above an audience. -/
def SpaceAbove (audience : DisclosureClassification) (space : SourceSpace) : Prop :=
  disclosureRank audience < sourceSpaceRank space.classification

instance (audience : DisclosureClassification) (space : SourceSpace) :
    Decidable (SpaceAbove audience space) :=
  inferInstanceAs (Decidable (_ < _))

/-- An id is that of a Source Space above the audience of an input. -/
def ChangeSummaryInput.Hidden (input : ChangeSummaryInput) (id : String) : Prop :=
  ∃ space ∈ input.sourceSpaces, space.id = id ∧ SpaceAbove input.audience space

instance (input : ChangeSummaryInput) (id : String) : Decidable (input.Hidden id) :=
  inferInstanceAs (Decidable (∃ space ∈ input.sourceSpaces, _))

/-- Two inputs that differ only in Evidence, effects and Source Spaces above the audience. The
effects above it are on Source Spaces of the Project, as those of any input that is not refused. -/
structure ChangeAlike (input input' : ChangeSummaryInput) : Prop where
  project : input'.project = input.project
  changeRevision : { input'.changeRevision with affectedSourceSpaceIds := none } =
    { input.changeRevision with affectedSourceSpaceIds := none }
  audience : input'.audience = input.audience
  publicSummary : input'.publicSummary = input.publicSummary
  internalSummary : input'.internalSummary = input.internalSummary
  publicProjection : input'.publicProjection = input.publicProjection
  catalog : (input'.sourceSpaces.map (·.id)).Nodup ↔ (input.sourceSpaces.map (·.id)).Nodup
  sourceSpaces : input'.sourceSpaces.filter (¬ SpaceAbove input'.audience ·) =
    input.sourceSpaces.filter (¬ SpaceAbove input.audience ·)
  affected : (input'.changeRevision.affectedSourceSpaceIds.getD []).filter (¬ input'.Hidden ·) =
    (input.changeRevision.affectedSourceSpaceIds.getD []).filter (¬ input.Hidden ·)
  effects : (input'.effects.getD []).filter (¬ input'.Hidden ·.sourceSpaceId) =
    (input.effects.getD []).filter (¬ input.Hidden ·.sourceSpaceId)
  evidence : (input'.evidence.getD []).filter
      (¬ Above ·.disclosure.classification input'.audience) =
    (input.evidence.getD []).filter (¬ Above ·.disclosure.classification input.audience)
  ofProject : ∀ effect ∈ input.effects.getD [], input.Hidden effect.sourceSpaceId →
    effect.sourceSpaceId ∈ input.project.sourceSpaceIds
  ofProject' : ∀ effect ∈ input'.effects.getD [], input'.Hidden effect.sourceSpaceId →
    effect.sourceSpaceId ∈ input'.project.sourceSpaceIds

/-- Two inputs that differ only in comments above the audience. -/
structure IntentAlike (input input' : IntentSummaryInput) : Prop where
  project : input'.project = input.project
  intent : input'.intent = input.intent
  audience : input'.audience = input.audience
  comments : (input'.comments.getD []).filter (¬ Above ·.disclosure input'.audience) =
    (input.comments.getD []).filter (¬ Above ·.disclosure input.audience)

section

variable {services : DisclosureServices} {input input' : ChangeSummaryInput}

theorem has_keyed {α : Type} {key : α → String} {xs : List α} (h : (xs.map key).Nodup)
    {k : String} : (keyed key xs).has k = true ↔ ∃ x ∈ xs, key x = k := by
  rw [OrderedMap.has, Option.isSome_iff_exists]
  exact exists_congr fun x => get?_keyed h

theorem isPublic_keyed {spaces : List SourceSpace} (h : (spaces.map (·.id)).Nodup) {id : String} :
    isPublic (keyed (·.id) spaces) id = true ↔
      ∃ space ∈ spaces, space.id = id ∧ space.classification = .public := by
  rw [isPublic, Option.any_eq_true]
  constructor
  · rintro ⟨space, hspace, hpublic⟩
    obtain ⟨hmem, hid⟩ := (get?_keyed h).mp hspace
    exact ⟨space, hmem, hid, of_decide_eq_true hpublic⟩
  · rintro ⟨space, hmem, hid, hpublic⟩
    exact ⟨space, (get?_keyed h).mpr ⟨hmem, hid⟩, decide_eq_true hpublic⟩

/-- For the public, what is above it is what is not public. -/
theorem spaceAbove_public {space : SourceSpace} :
    SpaceAbove .public space ↔ space.classification ≠ .public := by
  rw [SpaceAbove]
  cases space.classification <;> decide

theorem above_public {classification : DisclosureClassification} :
    Above classification .public ↔ classification ≠ .public := by
  cases classification <;> decide

/-- Nothing is above the restricted audience. -/
theorem not_spaceAbove_restricted {space : SourceSpace} : ¬ SpaceAbove .restricted space := by
  rw [SpaceAbove]
  cases space.classification <;> decide

theorem not_above_restricted {classification : DisclosureClassification} :
    ¬ Above classification .restricted := by
  cases classification <;> decide

theorem not_hidden_restricted (h : input.audience = .restricted) {id : String} :
    ¬ input.Hidden id := by
  rintro ⟨space, -, -, habove⟩
  rw [h] at habove
  exact not_spaceAbove_restricted habove

namespace ChangeAlike

theorem revision_eq (h : ChangeAlike input input') :
    input'.changeRevision.id = input.changeRevision.id ∧
      input'.changeRevision.changeId = input.changeRevision.changeId ∧
      input'.changeRevision.sequence = input.changeRevision.sequence := by
  refine ⟨?_, ?_, ?_⟩
  · exact congrArg (·.id) h.changeRevision
  · exact congrArg (·.changeId) h.changeRevision
  · exact congrArg (·.sequence) h.changeRevision

/-- A Source Space that is not above the audience is in both catalogs. -/
theorem mem_iff (h : ChangeAlike input input') {space : SourceSpace}
    (hspace : ¬ SpaceAbove input.audience space) :
    space ∈ input'.sourceSpaces ↔ space ∈ input.sourceSpaces := by
  have hmem := congrArg (space ∈ ·) h.sourceSpaces
  rw [h.audience] at hmem
  simpa [hspace] using hmem

/-- The summary of a Change for an audience that nothing is above. -/
theorem restricted_eq (h : ChangeAlike input input') (haudience : input.audience = .restricted) :
    summarizeChangeForAudience services input' = summarizeChangeForAudience services input := by
  have haudience' : input'.audience = .restricted := h.audience.trans haudience
  have hspaces := h.sourceSpaces
  have haffected := h.affected
  have heffects := h.effects
  have hevidence := h.evidence
  simp only [haudience, haudience', not_spaceAbove_restricted, not_above_restricted,
    not_hidden_restricted haudience, not_hidden_restricted haudience', not_false_eq_true,
    decide_true, List.filter_true] at hspaces haffected heffects hevidence
  obtain ⟨hid, hchange, hsequence⟩ := h.revision_eq
  simp only [summarizeChangeForAudience, h.project, h.audience, h.publicSummary, h.internalSummary,
    h.publicProjection, hspaces, haffected, heffects, hevidence, hid, hchange, hsequence]

/-- The same Source Spaces are public. -/
theorem isPublic_eq (h : ChangeAlike input input') (haudience : input.audience = .public)
    (hnodup : (input.sourceSpaces.map (·.id)).Nodup) :
    isPublic (keyed (·.id) input'.sourceSpaces) = isPublic (keyed (·.id) input.sourceSpaces) := by
  funext id
  rw [Bool.eq_iff_iff, isPublic_keyed (h.catalog.mpr hnodup), isPublic_keyed hnodup]
  refine exists_congr fun space => ?_
  constructor
  · rintro ⟨hmem, hid, hpublic⟩
    have hspace : ¬ SpaceAbove input.audience space := by
      rw [haudience, spaceAbove_public]
      exact not_not_intro hpublic
    exact ⟨(h.mem_iff hspace).mp hmem, hid, hpublic⟩
  · rintro ⟨hmem, hid, hpublic⟩
    have hspace : ¬ SpaceAbove input.audience space := by
      rw [haudience, spaceAbove_public]
      exact not_not_intro hpublic
    exact ⟨(h.mem_iff hspace).mpr hmem, hid, hpublic⟩

end ChangeAlike

/-- A public Source Space is not hidden from the public. -/
theorem not_hidden_of_isPublic (haudience : input.audience = .public)
    (hnodup : (input.sourceSpaces.map (·.id)).Nodup) {id : String}
    (h : isPublic (keyed (·.id) input.sourceSpaces) id = true) : ¬ input.Hidden id := by
  obtain ⟨space, hmem, rfl, hpublic⟩ := (isPublic_keyed hnodup).mp h
  rintro ⟨other, hother, hid, habove⟩
  obtain rfl : other = space := List.inj_on_of_nodup_map hnodup hother hmem hid
  rw [haudience, spaceAbove_public] at habove
  exact habove hpublic

/-- What is public of a list does not depend on what is hidden in it. -/
theorem filter_isPublic {α : Type} (haudience : input.audience = .public)
    (hnodup : (input.sourceSpaces.map (·.id)).Nodup) (id : α → String) (xs : List α) :
    (xs.filter fun x => ¬ input.Hidden (id x)).filter
        (fun x => isPublic (keyed (·.id) input.sourceSpaces) (id x)) =
      xs.filter fun x => isPublic (keyed (·.id) input.sourceSpaces) (id x) := by
  rw [List.filter_filter]
  refine List.filter_congr fun x _ => ?_
  by_cases hpublic : isPublic (keyed (·.id) input.sourceSpaces) (id x) = true
  · rw [hpublic, Bool.true_and]
    exact decide_eq_true (not_hidden_of_isPublic haudience hnodup hpublic)
  · rw [Bool.eq_false_iff.mpr hpublic, Bool.false_and]

namespace ChangeAlike

/-- What is public of two lists that agree on what is not hidden. -/
theorem filter_isPublic_eq (h : ChangeAlike input input') (haudience : input.audience = .public)
    (hnodup : (input.sourceSpaces.map (·.id)).Nodup) {α : Type} (id : α → String) {xs xs' : List α}
    (hxs : (xs'.filter fun x => ¬ input'.Hidden (id x)) = xs.filter fun x => ¬ input.Hidden (id x)) :
    (xs'.filter fun x => isPublic (keyed (·.id) input.sourceSpaces) (id x)) =
      xs.filter fun x => isPublic (keyed (·.id) input.sourceSpaces) (id x) := by
  have hpublic := h.isPublic_eq haudience hnodup
  have hleft := filter_isPublic (h.audience.trans haudience) (h.catalog.mpr hnodup) id xs'
  rw [hpublic, hxs] at hleft
  exact hleft.symm.trans (filter_isPublic haudience hnodup id xs)

/-- The same effects are refused, with the same error. -/
theorem requireEffects_eq (h : ChangeAlike input input')
    (hnodup : (input.sourceSpaces.map (·.id)).Nodup) :
    (input'.effects.getD []).forM
        (requireEffect input'.project (keyed (·.id) input'.sourceSpaces)) =
      (input.effects.getD []).forM
        (requireEffect input.project (keyed (·.id) input.sourceSpaces)) := by
  -- a hidden effect is of the Project, and is not refused
  have hpass {other : ChangeSummaryInput} (hother : (other.sourceSpaces.map (·.id)).Nodup)
      (hproject : ∀ effect ∈ other.effects.getD [], other.Hidden effect.sourceSpaceId →
        effect.sourceSpaceId ∈ other.project.sourceSpaceIds) :
      ((other.effects.getD []).filter (¬ other.Hidden ·.sourceSpaceId)).forM
          (requireEffect other.project (keyed (·.id) other.sourceSpaces)) =
        (other.effects.getD []).forM
          (requireEffect other.project (keyed (·.id) other.sourceSpaces)) := by
    refine forM_filter fun effect heffect hhidden => ?_
    have hhidden : other.Hidden effect.sourceSpaceId := by simpa using hhidden
    have hhas : (keyed (·.id) other.sourceSpaces).has effect.sourceSpaceId = true := by
      obtain ⟨space, hmem, hid, -⟩ := hhidden
      exact (has_keyed hother).mpr ⟨space, hmem, hid⟩
    rw [requireEffect, require_of hhas, require_of (hproject effect heffect hhidden)]
    rfl
  rw [← hpass (h.catalog.mpr hnodup) h.ofProject', ← hpass hnodup h.ofProject, h.effects]
  refine forM_congr fun effect heffect => ?_
  have hmem' := heffect
  rw [← h.effects] at hmem'
  have hvisible : ¬ input.Hidden effect.sourceSpaceId := by simpa using (List.mem_filter.mp heffect).2
  have hvisible' : ¬ input'.Hidden effect.sourceSpaceId := by
    simpa using (List.mem_filter.mp hmem').2
  have hhas : (keyed (·.id) input'.sourceSpaces).has effect.sourceSpaceId =
      (keyed (·.id) input.sourceSpaces).has effect.sourceSpaceId := by
    rw [Bool.eq_iff_iff, has_keyed (h.catalog.mpr hnodup), has_keyed hnodup]
    constructor
    · rintro ⟨space, hspace, hid⟩
      have hnot : ¬ SpaceAbove input.audience space := fun habove =>
        hvisible' ⟨space, hspace, hid, h.audience ▸ habove⟩
      exact ⟨space, (h.mem_iff hnot).mp hspace, hid⟩
    · rintro ⟨space, hspace, hid⟩
      have hnot : ¬ SpaceAbove input.audience space := fun habove =>
        hvisible ⟨space, hspace, hid, habove⟩
      exact ⟨space, (h.mem_iff hnot).mpr hspace, hid⟩
  simp only [requireEffect, hhas, h.project]

/-- The public summary of a Change. -/
theorem public_eq (h : ChangeAlike input input') (haudience : input.audience = .public) :
    summarizeChangeForAudience services input' = summarizeChangeForAudience services input := by
  have haudience' : input'.audience = .public := h.audience.trans haudience
  by_cases hnodup : (input.sourceSpaces.map (·.id)).Nodup
  · have hnodup' := h.catalog.mpr hnodup
    have hpublic := h.isPublic_eq haudience hnodup
    have heffects := h.filter_isPublic_eq haudience hnodup PublicChangeEffect.sourceSpaceId h.effects
    have haffected := h.filter_isPublic_eq haudience hnodup (fun id => id) h.affected
    have hrequire := h.requireEffects_eq hnodup
    rw [h.project] at hrequire
    have hevidence : (input'.evidence.getD []).filter
          (fun record => record.disclosure.classification = .public) =
        (input.evidence.getD []).filter fun record =>
          record.disclosure.classification = .public := by
      simpa [haudience, haudience', above_public] using h.evidence
    obtain ⟨-, hchange, hsequence⟩ := h.revision_eq
    simp only [summarizeChangeForAudience, catalogById_of_nodup hnodup,
      catalogById_of_nodup hnodup', pure_bind, h.project, hrequire, hpublic, heffects,
      haffected, haudience, haudience', h.publicSummary, h.publicProjection, hchange,
      hsequence, hevidence, ne_eq, not_true_eq_false, false_or, if_true]
  · have hrefused {other : ChangeSummaryInput}
        (hother : ¬ (other.sourceSpaces.map (·.id)).Nodup) :
        summarizeChangeForAudience services other = .error {
          code := .duplicateSourceSpace
          message := "The Source Space catalog contains duplicate identities."
          recoveryAction := "provide one catalog entry per Source Space and retry"
          receipt := "rule=unique-source-space-catalog" } := by
      rw [summarizeChangeForAudience, catalogById, require, if_neg hother]
      rfl
    rw [hrefused hnodup, hrefused fun hnodup' => hnodup (h.catalog.mp hnodup')]

end ChangeAlike

/-- The comments that are shown. -/
theorem IntentAlike.summary_eq {services : DisclosureServices} {input input' : IntentSummaryInput}
    (h : IntentAlike input input') :
    summarizeIntentForAudience services input' = summarizeIntentForAudience services input := by
  have hshown (comments : List Authority.IntentComment) (intentId : String)
      (audience : DisclosureClassification) :
      comments.filter (fun comment =>
          comment.intentId = intentId ∧ ¬ Above comment.disclosure audience) =
        (comments.filter (¬ Above ·.disclosure audience)).filter (·.intentId = intentId) := by
    rw [List.filter_filter]
    exact List.filter_congr fun comment _ => by simp
  have hcomments := h.comments
  rw [h.audience] at hcomments
  simp only [summarizeIntentForAudience, hshown, hcomments, h.project, h.intent, h.audience]

end

/-- **Audience summaries respect disclosure rank**, but for a Change and the project audience. A
Change is summarized alike, or refused alike, whatever Evidence, effects and affected Source Spaces
there are above the audience, and so is an Intent whatever comments there are; and an Intent or a
Pull Request of the Project is left out exactly when it is above the audience itself. -/
theorem summaries_respect_rank (services : DisclosureServices) :
    (∀ input input', input.audience ≠ .project → ChangeAlike input input' →
      summarizeChangeForAudience services input' = summarizeChangeForAudience services input) ∧
    (∀ input input', IntentAlike input input' →
      summarizeIntentForAudience services input' = summarizeIntentForAudience services input) ∧
    (∀ input, input.intent.projectId = input.project.id →
      (summarizeIntentForAudience services input = .ok none ↔
        Above input.intent.disclosure input.audience)) ∧
    ∀ input, input.pullRequest.projectId = input.project.id →
      (summarizePullRequestForAudience input = .ok none ↔
        Above input.pullRequest.disclosure input.audience) := by
  refine ⟨fun input input' haudience h => ?_, fun input input' h => h.summary_eq,
    fun input hproject => ?_, fun input hproject => ?_⟩
  · cases hof : input.audience with
    | «public» => exact h.public_eq hof
    | project => exact absurd hof haudience
    | restricted => exact h.restricted_eq hof
  · rw [summarizeIntentForAudience, require_of hproject]
    by_cases habove : Above input.intent.disclosure input.audience
    · simp only [habove, iff_true]
      rfl
    · simp only [habove, iff_false]
      rintro ⟨⟩
  · rw [summarizePullRequestForAudience, require_of hproject]
    by_cases habove : Above input.pullRequest.disclosure input.audience
    · simp only [habove, iff_true]
      rfl
    · simp only [habove, iff_false]
      rintro ⟨⟩

/-! ## A Change that is shown to its Project -/

namespace Sample

def reviewedRevision (affectedSourceSpaceIds : List String) : ChangeRevision where
  id := "change-revision:1"
  changeId := "change:1"
  projectRevisionId := "revision:1"
  projectViewId := "view:1"
  sequence := 1
  parentRevisionId := none
  declaredEffects := []
  baseProjectRevisionId := none
  workspaceId := none
  sourceSpaceSnapshots := none
  affectedSourceSpaceIds := some affectedSourceSpaceIds
  affectedModuleIds := none
  affectedTargetIds := none
  author := none
  conflictIds := none
  kind := none

/-- A Change of a Project with a public and a restricted Source Space. -/
def changeInput (audience : DisclosureClassification) (sourceSpaceIds : List String)
    (evidence : List Evidence) : ChangeSummaryInput where
  project := { id := "project:1", sourceSpaceIds := ["space:1", "space:2"] }
  changeRevision := reviewedRevision sourceSpaceIds
  sourceSpaces := [⟨"space:1", "docs", .public⟩, ⟨"space:2", "core", .restricted⟩,
    ⟨"space:3", "other", .restricted⟩]
  audience
  publicSummary := "public"
  publicProjection := (createPublicProjection services (input "project:1" "snapshot:2")).toOption
  effects := some (sourceSpaceIds.map fun id => ⟨id, id, none⟩)
  evidence := some evidence

def restrictedEvidence : Evidence where
  id := "evidence:1"
  key := "tests"
  outcome := .failed
  validityKey := "validity"
  projectRevisionId := "revision:1"
  projectViewId := "view:1"
  changeRevisionId := none
  actor := ⟨"principal", "actor", "session", "client"⟩
  policyVersion := "policy"
  disclosure := ⟨"projection", .restricted⟩
  targetId := none

/-- The restricted Source Space and the restricted Evidence of a Change are above the audiences
below. -/
theorem changeAlike (audience : DisclosureClassification) (h : audience ≠ .restricted) :
    ChangeAlike (changeInput audience ["space:1"] [])
      (changeInput audience ["space:1", "space:2"] [restrictedEvidence]) := by
  cases audience with
  | restricted => exact absurd rfl h
  | «public» | project =>
    exact ⟨rfl, rfl, rfl, rfl, rfl, rfl, Iff.rfl, rfl, by decide, by decide, by decide, by decide,
      by decide⟩

/-- A restricted Intent of a Project. -/
def restrictedIntent (projectId : String) : IntentSummaryInput where
  project := { id := "project:1", sourceSpaceIds := [] }
  intent := {
    id := "intent:1"
    projectId
    title := "title"
    description := "description"
    status := .open
    author := ⟨"principal", "actor", "session", "client"⟩
    assigneePrincipalIds := []
    labels := []
    disclosure := .restricted
    createdAt := "now"
    updatedAt := "now"
    receipt := "receipt" }
  audience := .public

end Sample

theorem summaries_respect_rank_sample :
    summarizeChangeForAudience Sample.services
        (Sample.changeInput .public ["space:1", "space:2"] [Sample.restrictedEvidence]) =
      summarizeChangeForAudience Sample.services (Sample.changeInput .public ["space:1"] []) ∧
    summarizeIntentForAudience Sample.services (Sample.restrictedIntent "project:1") = .ok none :=
  ⟨(summaries_respect_rank Sample.services).1 _ _ nofun (Sample.changeAlike .public nofun),
    ((summaries_respect_rank Sample.services).2.2.1 (Sample.restrictedIntent "project:1") rfl).mpr
      (by decide)⟩

/-- A Change of the project audience shows what is restricted; a restricted Intent of another
Project is refused, not left out; and an effect on a restricted Source Space that is not of the
Project is refused. -/
theorem rank_not_respected :
    (∃ input input', ChangeAlike input input' ∧ input.audience = .project ∧
      summarizeChangeForAudience Sample.services input' ≠
        summarizeChangeForAudience Sample.services input) ∧
    (∃ input : IntentSummaryInput, Above input.intent.disclosure input.audience ∧
      summarizeIntentForAudience Sample.services input ≠ .ok none) ∧
    ∃ input : ChangeSummaryInput, input.audience = .public ∧
      (∃ effect ∈ input.effects.getD [], input.Hidden effect.sourceSpaceId) ∧
      (summarizeChangeForAudience Sample.services input).isOk = false ∧
      (summarizeChangeForAudience Sample.services
        { input with effects := some ((input.effects.getD []).filter
          (¬ input.Hidden ·.sourceSpaceId)) }).isOk = true := by
  refine ⟨⟨_, _, Sample.changeAlike .project nofun, rfl, ?_⟩,
    ⟨Sample.restrictedIntent "project:2", by decide, ?_⟩,
    ⟨Sample.changeInput .public ["space:3"] [], rfl, by decide, ?_, ?_⟩⟩
  · intro h
    have hevidence := congrArg (fun summary => summary.toOption.map (·.evidence.length)) h
    revert hevidence
    decide +kernel
  · decide +kernel
  · decide +kernel
  · decide +kernel

end Anyam.Disclosure
