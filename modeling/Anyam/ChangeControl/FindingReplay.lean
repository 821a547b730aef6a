import Anyam.ChangeControl.SeparationOfDuty

/-!
# Findings under a key

A finding submitted under an idempotency key is replayed when the key comes again. The findings and
the keys of a run change in four ways (`FindingEffect`), and none of them takes a key from its
finding.

- `KeyHonored`: what a submission under a key promises, in its own state and in the states after it.
- **`key_honored_iff`**: the promise is kept unless the key has a finding of the same Change Revision
  that is another one.
-/

namespace Anyam.ChangeControl

open Anyam.Lib Anyam.Kernel CollaborationCoordinator

/-- The finding is the one that the call submits. -/
structure Submits (input : SubmitFindingInput) (finding : ReviewFinding) : Prop where
  cohort : finding.cohortId = input.cohortId
  change : finding.changeId = input.changeId
  revision : finding.changeRevisionId = input.changeRevisionId
  kind : finding.kind = input.kind
  severity : finding.severity = input.severity
  summary : finding.summary = input.summary

/-- The call gets past its checks: the cohort is known, has the member, and the summary is not
blank. -/
def AdmitsFinding (c : CollaborationCoordinator) (input : SubmitFindingInput) : Prop :=
  ∃ cohort, c.cohorts.get? input.cohortId = some cohort ∧
    (∃ member ∈ cohort.members, member.changeId = input.changeId ∧
      member.changeRevisionId = input.changeRevisionId) ∧ trim input.summary ≠ ""

/-! ## Methods that leave the findings alone -/

/-- The two states have the same findings and keys. -/
structure SameFindings (c c' : CollaborationCoordinator) : Prop where
  findings : c'.findings = c.findings
  idempotency : c'.idempotency = c.idempotency

theorem SameFindings.refl (c : CollaborationCoordinator) : SameFindings c c := ⟨rfl, rfl⟩

theorem SameFindings.trans {c₁ c₂ c₃ : CollaborationCoordinator} (h : SameFindings c₁ c₂)
    (h' : SameFindings c₂ c₃) : SameFindings c₁ c₃ :=
  ⟨h'.findings.trans h.findings, h'.idempotency.trans h.idempotency⟩

namespace CollaborationCoordinator

variable {c c' : CollaborationCoordinator} {sha256 : StableValue → String} {now : String}

theorem appendAudit_sameFindings (event : CollaborationAuditEvent) :
    SameFindings c (c.appendAudit event) := ⟨rfl, rfl⟩

theorem foldl_sameFindings {α : Type} {f : CollaborationCoordinator → α → CollaborationCoordinator}
    (hf : ∀ c a, SameFindings c (f c a)) (l : List α) (c : CollaborationCoordinator) :
    SameFindings c (l.foldl f c) := by
  induction l generalizing c with
  | nil => exact .refl c
  | cons a l ih => exact (hf c a).trans (ih (f c a))

theorem auditVerifiers_sameFindings (c : CollaborationCoordinator) (cohort : IntegrationCohort)
    (evidence : List Evidence) (now : String) :
    SameFindings c (c.auditVerifiers cohort evidence now) :=
  foldl_sameFindings (fun _ _ => appendAudit_sameFindings _) _ c

theorem finishCohort_sameFindings (call : CohortCall) (now : String) :
    SameFindings c (c.finishCohort call now).2 := by
  have hauthor : ∀ c member,
      SameFindings c (auditAuthor (c.composedCohort call now).id call.actor now c member) := by
    intro c member
    unfold auditAuthor
    split
    · exact .refl c
    · exact appendAudit_sameFindings _
  have hsame := foldl_sameFindings hauthor call.members
    { c with cohorts := c.cohorts.set (c.composedCohort call now).id (c.composedCohort call now) }
  exact ⟨hsame.findings, hsame.idempotency⟩

theorem detectConflict_sameFindings {call : CohortCall} {analyzerId : String}
    {candidate : IntegrationConflictCandidate} {conflict : IntegrationConflict}
    (h : c.detectConflict sha256 call analyzerId candidate now = .ok (conflict, c')) :
    SameFindings c c' := by
  simp only [detectConflict, bind_eq_ok, exists_unit, pure_eq_ok, Prod.mk.injEq] at h
  obtain ⟨-, -, -, -, rfl⟩ := h
  exact ⟨rfl, rfl⟩

theorem detectConflicts_sameFindings (call : CohortCall) (analyzerId now : String)
    (candidates : List IntegrationConflictCandidate) (c : CollaborationCoordinator)
    (conflictIds : List String) :
    SameFindings c (detectConflicts sha256 call analyzerId now c conflictIds candidates).2 := by
  induction candidates generalizing c conflictIds with
  | nil => exact .refl c
  | cons candidate rest ih =>
    unfold detectConflicts
    cases h : c.detectConflict sha256 call analyzerId candidate now with
    | error e => exact .refl c
    | ok result => exact (detectConflict_sameFindings h).trans (ih result.2 _)

theorem analyzerAnswered_sameFindings (call : CohortCall)
    (candidates : Option (List IntegrationConflictCandidate)) (now : String) :
    SameFindings c (c.analyzerAnswered sha256 call candidates now).2 := by
  unfold analyzerAnswered
  split
  · exact .refl c
  · exact .refl c
  · rename_i analyzerId pending candidates hpending
    have hsame := @detectConflicts_sameFindings sha256 call analyzerId now candidates c
      call.conflictIds
    split
    · rename_i heq
      rw [heq] at hsame
      exact hsame
    · rename_i heq
      rw [heq] at hsame
      exact hsame

theorem beginLand_sameFindings (input : CollaborationEvaluationInput) (actor : ActorRef)
    (now : String) : SameFindings c (c.beginLand sha256 input actor now).2 := by
  unfold beginLand
  cases heval : c.evaluateLanding sha256 input now with
  | error e => exact .refl c
  | ok result =>
    obtain ⟨explanation, audited⟩ := result
    obtain ⟨cohort, -, -, rfl⟩ := evaluateLanding_ok heval
    exact auditVerifiers_sameFindings c cohort input.evidence now

theorem finishLand_sameFindings {call : LandCall} {landing : Option Landing}
    {result : Landing × CollaborationPolicyExplanation}
    (h : c.finishLand call landing now = .ok (result, c')) : SameFindings c c' := by
  simp only [finishLand, bind_eq_ok, orThrow_eq_ok, exists_unit, pure_eq_ok, Prod.mk.injEq] at h
  obtain ⟨result, -, -, -, rfl⟩ := h
  exact ⟨rfl, rfl⟩

/-! ## Methods that change the findings or the keys -/

/-- What an idempotency key is bound to. -/
def boundTo? (c : CollaborationCoordinator) (idempotencyKey : Option String) : Option String :=
  (truthy idempotencyKey).bind fun key => truthy (c.idempotency.get? key)

/-- The keys of the first state are bound as they were, and a new one is bound to an id. -/
structure KeysKept (c c' : CollaborationCoordinator) : Prop where
  kept : ∀ key id, c.idempotency.get? key = some id → id ≠ "" → c'.idempotency.get? key = some id
  added : ∀ key id, c'.idempotency.get? key = some id → c.idempotency.get? key = some id ∨ id ≠ ""

theorem keysKept_of_eq (h : c'.idempotency = c.idempotency) : KeysKept c c' := by
  constructor
  · rw [h]
    exact fun _ _ hkey _ => hkey
  · rw [h]
    exact fun _ _ hkey => .inl hkey

/-- A key that was not bound is bound to a new id. -/
theorem keysKept_of_unbound {idempotencyKey : Option String} {id : String}
    (hunbound : c.boundTo? idempotencyKey = none) (hid : id ≠ "")
    (hkeys : c'.idempotency = match truthy idempotencyKey with
      | none => c.idempotency
      | some key => c.idempotency.set key id) : KeysKept c c' := by
  cases hkey : truthy idempotencyKey with
  | none =>
    rw [hkey] at hkeys
    exact keysKept_of_eq hkeys
  | some key =>
    rw [hkey] at hkeys
    rw [boundTo?, hkey, Option.bind_some] at hunbound
    constructor
    · intro key' bound hbound hne
      rw [hkeys, OrderedMap.get?_set]
      split
      · rename_i heq
        subst heq
        rw [hbound] at hunbound
        exact absurd (truthy_eq_some.mpr ⟨rfl, hne⟩) (by rw [hunbound]; exact nofun)
      · exact hbound
    · intro key' bound hbound
      rw [hkeys, OrderedMap.get?_set] at hbound
      split at hbound
      · cases hbound
        exact .inr hid
      · exact .inl hbound

/-- What `submitFinding` returns: the finding of its key, which is of the same Change Revision, or a
new one. -/
theorem submitFinding_ok {input : SubmitFindingInput} {uuid : String} {finding : ReviewFinding}
    (h : c.submitFinding input uuid now = .ok (finding, c')) :
    AdmitsFinding c input ∧
      ((∃ id, c.boundTo? input.idempotencyKey = some id ∧ c.findings.get? id = some finding ∧
          finding.changeId = input.changeId ∧ finding.changeRevisionId = input.changeRevisionId ∧
          c' = c) ∨
        c.boundTo? input.idempotencyKey = none ∧ finding.id = opaqueId "review-finding" uuid ∧
          finding.state = .«open» ∧
          (∃ cohort, c.cohorts.get? input.cohortId = some cohort ∧
            Submits { input with cohortId := cohort.id } finding) ∧
          c'.cohorts = c.cohorts ∧ c'.findings = c.findings.set finding.id finding ∧
          c'.idempotency = match truthy input.idempotencyKey with
            | none => c.idempotency
            | some key => c.idempotency.set key finding.id) := by
  simp only [submitFinding, bind_eq_ok, exists_unit, requireCohort_eq_ok, requireMember,
    orThrow_eq_ok, nonEmpty, require_eq_ok] at h
  obtain ⟨cohort, hcohort, member, hmember, hsummary, h⟩ := h
  have hfound := List.find?_some hmember
  simp only [decide_eq_true_eq] at hfound
  refine ⟨⟨cohort, hcohort, ⟨member, List.mem_of_find?_eq_some hmember, hfound⟩, hsummary⟩, ?_⟩
  split at h
  · rename_i id hbound
    simp only [bind_eq_ok, orThrow_eq_ok, pure_eq_ok, Prod.mk.injEq, Option.filter_eq_some_iff,
      decide_eq_true_eq] at h
    obtain ⟨existing, ⟨hexisting, hchange, hrevision⟩, rfl, rfl⟩ := h
    exact .inl ⟨id, hbound, hexisting, hchange, hrevision, rfl⟩
  · rename_i hbound
    simp only [pure_eq_ok, Prod.mk.injEq] at h
    obtain ⟨rfl, rfl⟩ := h
    exact .inr ⟨hbound, rfl, rfl, ⟨cohort, hcohort, rfl, rfl, rfl, rfl, rfl, rfl⟩, rfl, rfl, rfl⟩

/-- A bound key is replayed with its finding if that is of the same Change Revision, and refused
otherwise. -/
theorem submitFinding_bound {input : SubmitFindingInput} {id : String}
    (hadmits : AdmitsFinding c input) (hbound : c.boundTo? input.idempotencyKey = some id)
    (uuid now : String) :
    (∀ finding, c.findings.get? id = some finding → finding.changeId = input.changeId →
        finding.changeRevisionId = input.changeRevisionId →
        c.submitFinding input uuid now = .ok (finding, c)) ∧
      ((∀ finding, c.findings.get? id = some finding →
          ¬ (finding.changeId = input.changeId ∧
            finding.changeRevisionId = input.changeRevisionId)) →
        ∃ e, c.submitFinding input uuid now = .error e ∧ e.code = .idempotencyConflict) := by
  obtain ⟨cohort, hcohort, ⟨member, hmember, hchange, hrevision⟩, hsummary⟩ := hadmits
  have hfind : ∃ found, c.requireCohort input.cohortId = .ok cohort ∧
      requireMember cohort input.changeId input.changeRevisionId = .ok found ∧
      nonEmpty input.summary "review.summary" = .ok () := by
    cases hfound : cohort.members.find? fun candidate =>
        candidate.changeId = input.changeId ∧
          candidate.changeRevisionId = input.changeRevisionId with
    | none =>
      have hnot := List.find?_eq_none.mp hfound member hmember
      simp only [decide_eq_true_eq] at hnot
      exact absurd ⟨hchange, hrevision⟩ hnot
    | some found =>
      refine ⟨found, requireCohort_eq_ok.mpr hcohort, ?_, require_of hsummary⟩
      rw [requireMember, orThrow_eq_ok]
      exact hfound
  obtain ⟨found, hrequire, hmember, hsummary⟩ := hfind
  rw [boundTo?] at hbound
  simp only [submitFinding, bind, Except.bind, hrequire, hmember, hsummary, hbound]
  cases hexisting : (c.findings.get? id).filter fun existing =>
      existing.changeId = input.changeId ∧ existing.changeRevisionId = input.changeRevisionId with
  | none =>
    refine ⟨fun finding hget hchange hrevision => ?_, fun _ => ⟨_, rfl, rfl⟩⟩
    rw [hget, Option.filter_some, if_pos (by simp [hchange, hrevision])] at hexisting
    cases hexisting
  | some existing =>
    rw [Option.filter_eq_some_iff] at hexisting
    simp only [decide_eq_true_eq] at hexisting
    refine ⟨fun finding hget _ _ => ?_, fun hnone => absurd hexisting.2 (hnone _ hexisting.1)⟩
    rw [hexisting.1] at hget
    rw [← Option.some.inj hget]
    rfl

theorem approve_findings {input : ApproveInput} {uuid : String} {approval : ReviewApproval}
    (h : c.approve sha256 input uuid now = .ok (approval, c')) :
    c'.findings = c.findings ∧ KeysKept c c' := by
  simp only [approve, bind_eq_ok] at h
  obtain ⟨⟨cohort, requirement, member⟩, -, h⟩ := h
  simp only at h
  split at h
  · simp only [bind_eq_ok, pure_eq_ok, Prod.mk.injEq] at h
    obtain ⟨existing, -, -, rfl⟩ := h
    exact ⟨rfl, keysKept_of_eq rfl⟩
  · rename_i hbound
    split at h
    · simp only [pure_eq_ok, Prod.mk.injEq] at h
      obtain ⟨-, rfl⟩ := h
      exact ⟨rfl, keysKept_of_eq rfl⟩
    · simp only [pure_eq_ok, Prod.mk.injEq] at h
      obtain ⟨rfl, rfl⟩ := h
      exact ⟨rfl, keysKept_of_unbound hbound (opaqueId_ne_empty _ _) rfl⟩

theorem resolveFinding_ok {input : ResolveFindingInput} {updated : ReviewFinding}
    (h : c.resolveFinding input now = .ok (updated, c')) :
    (∃ finding, c.findings.get? input.findingId = some finding ∧ updated.id = finding.id ∧
      updated.state = .resolved ∧ ∀ input, Submits input finding → Submits input updated) ∧
      c'.findings = c.findings.set updated.id updated ∧ c'.idempotency = c.idempotency := by
  simp only [resolveFinding, bind_eq_ok, exists_unit, orThrow_eq_ok, pure_eq_ok,
    Prod.mk.injEq] at h
  obtain ⟨finding, hfinding, -, rfl, rfl⟩ := h
  exact ⟨⟨finding, hfinding, rfl, rfl, fun _ h =>
    ⟨h.cohort, h.change, h.revision, h.kind, h.severity, h.summary⟩⟩, rfl, rfl⟩

end CollaborationCoordinator

/-! ## What one step does to the findings -/

/-- Everything one operation can do to the findings and the keys. -/
inductive FindingEffect (s : CollaborationSystem) :
    CollaborationOperation → CollaborationSystem → Prop
  /-- The findings stay. -/
  | kept {op s'} (hfindings : s'.control.findings = s.control.findings)
      (hkeys : KeysKept s.control s'.control) : FindingEffect s op s'
  | submitted {input uuid now s'} {finding : ReviewFinding}
      (hid : finding.id = opaqueId "review-finding" uuid) (hstate : finding.state = .«open»)
      (hfindings : s'.control.findings = s.control.findings.set finding.id finding)
      (hkeys : KeysKept s.control s'.control) :
      FindingEffect s (.submitFinding input uuid now) s'
  /-- A finding is filed under its id with another state. -/
  | resolved {op s' id} {finding updated : ReviewFinding}
      (hfinding : s.control.findings.get? id = some finding) (hid : updated.id = finding.id)
      (hstate : updated.state = .resolved)
      (hsubmits : ∀ input, Submits input finding → Submits input updated)
      (hfindings : s'.control.findings = s.control.findings.set updated.id updated)
      (hkeys : KeysKept s.control s'.control) : FindingEffect s op s'

theorem FindingEffect.of_same {s s' : CollaborationSystem} {op : CollaborationOperation}
    (h : SameFindings s.control s'.control) : FindingEffect s op s' :=
  .kept h.findings (keysKept_of_eq h.idempotency)

namespace CollaborationSystem

variable {s s' : CollaborationSystem} {sha256 : StableValue → String}

theorem updating_findings {op : CollaborationOperation}
    {x : Except CollaborationError CollaborationCoordinator}
    (hok : ∀ control, x = .ok control → SameFindings s.control control) :
    FindingEffect s op (s.updating x).2 := by
  obtain e | control := x
  · exact .of_same (.refl _)
  · exact .of_same (hok control rfl)

theorem atomically_findings {ε α : Type} {op : CollaborationOperation}
    (fault : ε → CollaborationFailure) (reply : α → CollaborationReply)
    {x : Except ε (α × CollaborationCoordinator)}
    (hok : ∀ a control, x = .ok (a, control) → FindingEffect s op (s.withControl control)) :
    FindingEffect s op (s.atomically fault reply x).2 := by
  obtain e | ⟨a, control⟩ := x
  · exact .of_same (.refl _)
  · exact hok a control rfl

theorem advance_sameFindings (call : CohortCall) (now : String) :
    SameFindings s.control (s.advance call now).2.control := by
  unfold advance
  split
  · exact finishCohort_sameFindings call now
  · exact .refl _

/-- **What one step does to the findings.** -/
theorem step_findingEffect (sha256 : StableValue → String) (op : CollaborationOperation)
    (s : CollaborationSystem) : FindingEffect s op (step sha256 op s).2 := by
  cases op with
  | setCanonicalProjectRevision revision =>
    refine updating_findings fun control h => ?_
    simp only [setCanonicalProjectRevision, bind_eq_ok, pure_eq_ok, exists_unit] at h
    obtain ⟨-, rfl⟩ := h
    exact ⟨rfl, rfl⟩
  | activatePolicy policy =>
    refine updating_findings fun control h => ?_
    simp only [activatePolicy, bind_eq_ok, pure_eq_ok, exists_unit] at h
    obtain ⟨-, -, rfl⟩ := h
    exact ⟨rfl, rfl⟩
  | beginCohort input uuid now =>
    refine .of_same ?_
    show SameFindings s.control (s.compose input uuid now).2.control
    unfold compose
    split
    · exact advance_sameFindings _ now
    · exact .refl _
  | analyzerAnswered index candidates now =>
    refine .of_same ?_
    show SameFindings s.control (s.answerAnalyzer sha256 index candidates now).2.control
    unfold answerAnalyzer
    split
    · exact .refl _
    · rename_i call hcall
      have hanswered := @analyzerAnswered_sameFindings s.control sha256 call candidates now
      simp only
      split
      · exact hanswered.trans (@advance_sameFindings
          ⟨(s.control.analyzerAnswered sha256 call candidates now).2,
            s.composing.eraseIdx index, s.landing⟩ _ now)
      · exact hanswered
  | submitFinding input uuid now =>
    refine atomically_findings _ _ fun finding control h => ?_
    obtain ⟨-, ⟨-, -, -, -, -, rfl⟩ | ⟨hbound, hid, hstate, -, -, hfindings, hkeys⟩⟩ :=
      submitFinding_ok h
    · exact .of_same (.refl _)
    · exact .submitted hid hstate hfindings
        (keysKept_of_unbound hbound (hid ▸ opaqueId_ne_empty _ _) hkeys)
  | resolveFinding input now =>
    refine atomically_findings _ _ fun updated control h => ?_
    obtain ⟨⟨finding, hfinding, hid, hstate, hsubmits⟩, hfindings, hkeys⟩ := resolveFinding_ok h
    exact .resolved hfinding hid hstate hsubmits hfindings (keysKept_of_eq hkeys)
  | approve input uuid now =>
    refine atomically_findings _ _ fun approval control h => ?_
    obtain ⟨hfindings, hkeys⟩ := approve_findings h
    exact .kept hfindings hkeys
  | resolveConflict input now =>
    refine atomically_findings _ _ fun conflict control h => ?_
    simp only [resolveConflict, bind_eq_ok, pure_eq_ok, exists_unit, Prod.mk.injEq] at h
    obtain ⟨old, -, cohort, -, -, -, rfl⟩ := h
    exact .of_same ⟨rfl, rfl⟩
  | evaluateLanding input now =>
    refine atomically_findings _ _ fun explanation control h => ?_
    obtain ⟨cohort, -, -, rfl⟩ := evaluateLanding_ok h
    exact .of_same (auditVerifiers_sameFindings ..)
  | beginLand input actor now =>
    refine .of_same ?_
    have hsame := @beginLand_sameFindings s.control sha256 input actor now
    show SameFindings s.control (s.startLanding sha256 input actor now).2.control
    unfold startLanding
    simp only
    split
    · exact hsame
    · exact hsame
  | authorityAnswered index landing now =>
    refine .of_same ?_
    show SameFindings s.control (s.answerAuthority index landing now).2.control
    unfold answerAuthority
    split
    · exact .refl _
    · simp only
      split
      · rename_i hfinish
        exact finishLand_sameFindings hfinish
      · exact .refl _
  | recordPromotionAuthority input now =>
    refine updating_findings fun control h => ?_
    simp only [recordPromotionAuthority, bind_eq_ok, pure_eq_ok, exists_unit] at h
    obtain ⟨-, -, -, -, rfl⟩ := h
    exact appendAudit_sameFindings _

/-! ## Runs -/

/-- Findings are filed under their ids and never dismissed, and keys are bound to ids. -/
structure FiledFindings (s : CollaborationSystem) : Prop where
  keyed : OrderedMap.SelfKeyed ReviewFinding.id s.control.findings
  states : ∀ finding ∈ s.control.findings.values, finding.state ≠ .dismissed
  bound : ∀ key id, s.control.idempotency.get? key = some id → id ≠ ""
  cohorts : OrderedMap.SelfKeyed IntegrationCohort.id s.control.cohorts

theorem FiledFindings.step (h : FiledFindings s) (hcomposed : Composed s)
    (op : CollaborationOperation) : FiledFindings (step sha256 op s).2 := by
  have hcohorts := (hcomposed.step (step_reviewEffect sha256 op s)).keyed
  have heff := step_findingEffect sha256 op s
  have hbound : KeysKept s.control (CollaborationSystem.step sha256 op s).2.control →
      ∀ key id, (CollaborationSystem.step sha256 op s).2.control.idempotency.get? key = some id →
        id ≠ "" := fun hkeys key id hkey =>
    (hkeys.added key id hkey).elim (h.bound key id) fun hid => hid
  generalize (CollaborationSystem.step sha256 op s).2 = s' at heff hcohorts hbound
  cases heff with
  | kept hfindings hkeys =>
    refine ⟨?_, ?_, hbound hkeys, hcohorts⟩
    · rw [hfindings]
      exact h.keyed
    · rw [hfindings]
      exact h.states
  | submitted _ hstate hfindings hkeys =>
    refine ⟨?_, ?_, hbound hkeys, hcohorts⟩
    · rw [hfindings]
      exact h.keyed.set rfl
    · rw [hfindings]
      exact OrderedMap.forall_values_set h.states (by rw [hstate]; decide)
  | resolved _ _ hstate _ hfindings hkeys =>
    refine ⟨?_, ?_, hbound hkeys, hcohorts⟩
    · rw [hfindings]
      exact h.keyed.set rfl
    · rw [hfindings]
      exact OrderedMap.forall_values_set h.states (by rw [hstate]; decide)

/-- A run keeps findings and cohorts on file. -/
theorem FiledFindings.run {ok : CollaborationSystem → CollaborationOperation → Prop}
    {tr : List (Transition CollaborationSystem CollaborationOperation CollaborationReply)}
    (hrun : Run (CollaborationSystem.step sha256) ok s tr s')
    (h : FiledFindings s ∧ Composed s) : FiledFindings s' ∧ Composed s' :=
  hrun.invariant (fun s => FiledFindings s ∧ Composed s) h fun s op h _ =>
    ⟨h.1.step h.2 op, h.2.step (step_reviewEffect sha256 op s)⟩

theorem filedFindings_initial (input : CollaborationCoordinatorInput) :
    FiledFindings (initial input) ∧ Composed (initial input) := by
  refine ⟨⟨?_, ?_, ?_, ?_⟩, composed_initial input⟩
  · exact OrderedMap.selfKeyed_empty _
  · exact fun _ h => nomatch h
  · exact fun _ _ h => nomatch h
  · exact OrderedMap.selfKeyed_empty _

/-- No finding has the id that a submission draws. -/
def FreshFindingId (s : CollaborationSystem) (op : CollaborationOperation) : Prop :=
  ∀ input uuid now, op = .submitFinding input uuid now →
    s.control.findings.get? (opaqueId "review-finding" uuid) = none

/-- A finding stays on file as what it was submitted as. -/
theorem finding_kept {input : SubmitFindingInput} {id : String}
    {tr : List (Transition CollaborationSystem CollaborationOperation CollaborationReply)}
    (hrun : Run (step sha256) FreshFindingId s tr s') (hfiled : FiledFindings s)
    (hcomposed : Composed s)
    (hstored : ∃ stored, s.control.findings.get? id = some stored ∧ Submits input stored) :
    (FiledFindings s' ∧ Composed s') ∧
      ∃ stored, s'.control.findings.get? id = some stored ∧ Submits input stored := by
  refine hrun.invariant (fun s => (FiledFindings s ∧ Composed s) ∧
    ∃ stored, s.control.findings.get? id = some stored ∧ Submits input stored)
    ⟨⟨hfiled, hcomposed⟩, hstored⟩ ?_
  rintro s op ⟨⟨hfiled, hcomposed⟩, stored, hget, hsubmits⟩ hfresh
  refine ⟨⟨hfiled.step hcomposed op, hcomposed.step (step_reviewEffect sha256 op s)⟩, ?_⟩
  have heff := step_findingEffect sha256 op s
  generalize (CollaborationSystem.step sha256 op s).2 = s' at heff
  cases heff with
  | kept hfindings _ => exact ⟨stored, hfindings ▸ hget, hsubmits⟩
  | submitted hid _ hfindings _ =>
    refine ⟨stored, ?_, hsubmits⟩
    rw [hfindings, OrderedMap.get?_set_ne, hget]
    rintro rfl
    rw [hid, hfresh _ _ _ rfl] at hget
    cases hget
  | @resolved _ _ _ finding updated hfinding hid _ hupdated hfindings _ =>
    rw [hfindings]
    by_cases heq : id = updated.id
    · refine ⟨updated, heq ▸ OrderedMap.get?_set_self _ _ _, hupdated input ?_⟩
      -- the finding that is resolved is the one on file under the id
      have hkey := hfiled.keyed _ _ hfinding
      rw [heq, hid, hkey, hfinding] at hget
      exact Option.some.inj hget ▸ hsubmits
    · exact ⟨stored, (OrderedMap.get?_set_ne _ _ heq).trans hget, hsubmits⟩

/-- A key stays bound to its finding. -/
theorem bound_kept {idempotencyKey : Option String} {id : String}
    {tr : List (Transition CollaborationSystem CollaborationOperation CollaborationReply)}
    (hrun : Run (step sha256) (fun _ _ => True) s tr s')
    (hbound : s.control.boundTo? idempotencyKey = some id) :
    s'.control.boundTo? idempotencyKey = some id := by
  refine hrun.invariant (fun s => s.control.boundTo? idempotencyKey = some id) hbound ?_
  intro s op hbound _
  have hkeys : KeysKept s.control (step sha256 op s).2.control := by
    have heff := step_findingEffect sha256 op s
    generalize (step sha256 op s).2 = s' at heff
    cases heff with
    | kept _ hkeys => exact hkeys
    | submitted _ _ _ hkeys => exact hkeys
    | resolved _ _ _ _ _ hkeys => exact hkeys
  obtain ⟨key, hkey, htruthy⟩ := Option.bind_eq_some_iff.mp hbound
  obtain ⟨hget, hne⟩ := truthy_eq_some.mp htruthy
  exact Option.bind_eq_some_iff.mpr ⟨key, hkey,
    truthy_eq_some.mpr ⟨hkeys.kept key id hget hne, hne⟩⟩

end CollaborationSystem

open CollaborationSystem

/-! ## The promise -/

/-- What a submission under a key promises. -/
structure KeyHonored (sha256 : StableValue → String) (s : CollaborationSystem)
    (input : SubmitFindingInput) : Prop where
  /-- The finding is on file from then on, and while it is open and blocking, so is its cohort. -/
  acknowledged : ∀ uuid now finding c',
    s.control.submitFinding input uuid now = .ok (finding, c') →
    ∀ tr s', Run (step sha256) FreshFindingId (s.withControl c') tr s' →
      ∃ stored, s'.control.findings.get? finding.id = some stored ∧ Submits input stored ∧
        stored.state ≠ .dismissed ∧
        (stored.state = .«open» → input.severity = .blocking →
          ∀ evaluation now explanation c'', evaluation.cohortId = input.cohortId →
            s'.control.evaluateLanding sha256 evaluation now = .ok (explanation, c'') →
              explanation.decision = .deny)
  /-- The same call returns the same finding and changes nothing. -/
  repeated : ∀ uuid now finding c',
    s.control.submitFinding input uuid now = .ok (finding, c') →
    ∀ uuid' now', c'.submitFinding input uuid' now' = .ok (finding, c')
  /-- So it does in every later state in which it returns, but for what became of the finding. -/
  replayed : ∀ uuid now finding c',
    s.control.submitFinding input uuid now = .ok (finding, c') →
    ∀ tr s', Run (step sha256) (fun _ _ => True) (s.withControl c') tr s' →
      ∀ uuid' now' finding' c'', s'.control.submitFinding input uuid' now' = .ok (finding', c'') →
        finding'.id = finding.id ∧ c'' = s'.control
  /-- A key that is bound to anything else is refused. -/
  reused : ∀ id, s.control.boundTo? input.idempotencyKey = some id →
    (∀ existing, s.control.findings.get? id = some existing → ¬ Submits input existing) →
    ∀ uuid now, ∃ e, s.control.submitFinding input uuid now = .error e ∧
      (AdmitsFinding s.control input → e.code = .idempotencyConflict)

/-- The key has a finding of the same Change Revision that is another one. -/
def KeyShadowed (c : CollaborationCoordinator) (input : SubmitFindingInput) : Prop :=
  AdmitsFinding c input ∧ ∃ id existing, c.boundTo? input.idempotencyKey = some id ∧
    c.findings.get? id = some existing ∧ existing.changeId = input.changeId ∧
    existing.changeRevisionId = input.changeRevisionId ∧ ¬ Submits input existing

namespace CollaborationSystem

variable {s s' : CollaborationSystem} {sha256 : StableValue → String}

/-- What is returned under a key that is not shadowed: a finding that is on file as submitted, to
which the key is bound. -/
theorem returned_of_not_shadowed (hfiled : FiledFindings s) {input : SubmitFindingInput}
    {key : String} (hkey : truthy input.idempotencyKey = some key)
    (hshadowed : ¬ KeyShadowed s.control input) {uuid now : String} {finding : ReviewFinding}
    {c' : CollaborationCoordinator}
    (h : s.control.submitFinding input uuid now = .ok (finding, c')) :
    AdmitsFinding c' input ∧ c'.boundTo? input.idempotencyKey = some finding.id ∧
      c'.findings.get? finding.id = some finding ∧ Submits input finding := by
  obtain ⟨hadmits, ⟨id, hbound, hget, hchange, hrevision, rfl⟩ |
    ⟨-, hid, -, ⟨cohort, hcohort, hsubmits⟩, hcohorts, hfindings, hkeys⟩⟩ := submitFinding_ok h
  · have hkeyed : finding.id = id := hfiled.keyed _ _ hget
    refine ⟨hadmits, hkeyed ▸ hbound, hkeyed ▸ hget, ?_⟩
    by_contra hnot
    exact hshadowed ⟨hadmits, id, finding, hbound, hget, hchange, hrevision, hnot⟩
  · refine ⟨?_, ?_, ?_, ?_⟩
    · rw [AdmitsFinding, hcohorts]
      exact hadmits
    · rw [hkey] at hkeys
      rw [boundTo?, hkey, Option.bind_some, hkeys]
      refine truthy_eq_some.mpr ⟨OrderedMap.get?_set_self _ _ _, ?_⟩
      rw [hid]
      exact opaqueId_ne_empty _ _
    · rw [hfindings]
      exact OrderedMap.get?_set_self _ _ _
    · have hcohortId : cohort.id = input.cohortId := hfiled.cohorts _ _ hcohort
      exact ⟨hsubmits.cohort.trans hcohortId, hsubmits.change, hsubmits.revision, hsubmits.kind,
        hsubmits.severity, hsubmits.summary⟩

/-- An open blocking finding of a cohort denies its Landing. -/
theorem denied_of_finding (hfiled : FiledFindings s) {finding : ReviewFinding} {id : String}
    (hget : s.control.findings.get? id = some finding) (hopen : finding.state = .«open»)
    (hblocking : finding.severity = .blocking) {evaluation : CollaborationEvaluationInput}
    {now : String} {explanation : CollaborationPolicyExplanation} {c' : CollaborationCoordinator}
    (hcohort : finding.cohortId = evaluation.cohortId)
    (h : s.control.evaluateLanding sha256 evaluation now = .ok (explanation, c')) :
    explanation.decision = .deny := by
  obtain ⟨cohort, hknown, hexplanation, -⟩ := evaluateLanding_ok h
  have hid : cohort.id = evaluation.cohortId := hfiled.cohorts _ _ hknown
  have hmem : finding ∈ (s.control.listFindings cohort.id).filter fun candidate =>
      candidate.state = .«open» ∧
        (candidate.severity = .blocking ∨ candidate.kind = .requestChanges) := by
    refine List.mem_filter.mpr ⟨List.mem_filter.mpr
      ⟨OrderedMap.mem_values_of_get? hget, ?_⟩, ?_⟩
    · simp [hcohort, hid]
    · simp [hopen, hblocking]
  have hblocked : s.control.landingBlockers sha256 cohort evaluation.evidence ≠ [] := by
    intro hnone
    simp only [landingBlockers, List.append_eq_nil_iff] at hnone
    have hfindings : s.control.findingBlockers cohort = [] := hnone.1.1.2
    rw [findingBlockers, List.map_eq_nil_iff] at hfindings
    rw [hfindings] at hmem
    cases hmem
  -- projecting an explanation keeps its decision
  have hdecision : (s.control.explain sha256 cohort evaluation.evidence).decision = .deny :=
    if_neg hblocked
  rcases hexplanation with rfl | ⟨audience, visibleScopeIds, rfl⟩
  · exact hdecision
  · exact hdecision

end CollaborationSystem

/-- **A submission under a key.** In every reachable state the promise of a call with an idempotency
key is kept exactly when the key does not have a finding of the same Change Revision that is of
another cohort, kind, severity or summary. -/
theorem key_honored_iff {sha256 : StableValue → String} {coordinator : CollaborationCoordinatorInput}
    {tr : List (Transition CollaborationSystem CollaborationOperation CollaborationReply)}
    {s : CollaborationSystem}
    (hrun : Run (step sha256) (fun _ _ => True) (initial coordinator) tr s)
    {input : SubmitFindingInput} {key : String} (hkey : truthy input.idempotencyKey = some key) :
    KeyHonored sha256 s input ↔ ¬ KeyShadowed s.control input := by
  obtain ⟨hfiled, hcomposed⟩ := FiledFindings.run hrun (filedFindings_initial coordinator)
  constructor
  · rintro h ⟨hadmits, id, existing, hbound, hget, hchange, hrevision, hother⟩
    have hrefused := h.reused id hbound
      (fun found hfound => by rw [hget] at hfound; exact Option.some.inj hfound ▸ hother) "" ""
    obtain ⟨e, herror, -⟩ := hrefused
    rw [(submitFinding_bound hadmits hbound "" "").1 existing hget hchange hrevision] at herror
    cases herror
  · intro hshadowed
    have hnext : ∀ {uuid now finding c'}, s.control.submitFinding input uuid now = .ok (finding, c') →
        FiledFindings (s.withControl c') ∧ Composed (s.withControl c') := by
      intro uuid now finding c' h
      have hstep : (step sha256 (.submitFinding input uuid now) s).2 = s.withControl c' := by
        show (s.atomically _ _ (s.control.submitFinding input uuid now)).2 = _
        rw [h]
        rfl
      rw [← hstep]
      exact ⟨hfiled.step hcomposed _, hcomposed.step (step_reviewEffect sha256 _ s)⟩
    refine ⟨fun uuid now finding c' h tr s' hlater => ?_, fun uuid now finding c' h uuid' now' => ?_,
      fun uuid now finding c' h tr s' hlater uuid' now' finding' c'' hagain => ?_,
      fun id hbound hother uuid now => ?_⟩
    · obtain ⟨-, -, hget, hsubmits⟩ := returned_of_not_shadowed hfiled hkey hshadowed h
      obtain ⟨⟨hfiled', -⟩, stored, hstored, hsame⟩ :=
        finding_kept hlater (hnext h).1 (hnext h).2 ⟨finding, hget, hsubmits⟩
      refine ⟨stored, hstored, hsame, hfiled'.states _ (OrderedMap.mem_values_of_get? hstored),
        fun hopen hblocking evaluation now explanation c'' hcohort heval => ?_⟩
      exact denied_of_finding hfiled' hstored hopen (hsame.severity.trans hblocking)
        (hsame.cohort.trans hcohort.symm) heval
    · obtain ⟨hadmits, hbound, hget, hsubmits⟩ := returned_of_not_shadowed hfiled hkey hshadowed h
      exact (submitFinding_bound hadmits hbound uuid' now').1 finding hget hsubmits.change
        hsubmits.revision
    · obtain ⟨-, hbound, -, -⟩ := returned_of_not_shadowed hfiled hkey hshadowed h
      have hbound' := bound_kept hlater hbound
      obtain ⟨hfiled', -⟩ := FiledFindings.run hlater (hnext h)
      obtain ⟨-, ⟨id, hid, hget, -, -, rfl⟩ | ⟨hnone, -⟩⟩ := submitFinding_ok hagain
      · rw [hbound'] at hid
        exact ⟨(hfiled'.keyed _ _ hget).trans (Option.some.inj hid).symm, rfl⟩
      · rw [hbound'] at hnone
        cases hnone
    · by_cases hadmits : AdmitsFinding s.control input
      · have hnone : ∀ finding, s.control.findings.get? id = some finding →
            ¬ (finding.changeId = input.changeId ∧
              finding.changeRevisionId = input.changeRevisionId) := fun finding hget hsame =>
          hshadowed ⟨hadmits, id, finding, hbound, hget, hsame.1, hsame.2, hother finding hget⟩
        obtain ⟨e, herror, hcode⟩ := (submitFinding_bound hadmits hbound uuid now).2 hnone
        exact ⟨e, herror, fun _ => hcode⟩
      · cases hresult : s.control.submitFinding input uuid now with
        | ok result => exact absurd (submitFinding_ok hresult).1 hadmits
        | error e => exact ⟨e, rfl, fun h => absurd h hadmits⟩

/-! ## A key that is used again -/

namespace CohortSample

def comment : SubmitFindingInput where
  cohortId := "cohort"
  changeId := "change:A"
  changeRevisionId := "change-revision:a"
  author := actor "reviewer"
  kind := .comment
  severity := .info
  summary := "A name could be clearer."
  idempotencyKey := some "key"

/-- A blocking finding of the same Change Revision under the same key. -/
def objection : SubmitFindingInput :=
  { comment with kind := .security, severity := .blocking, summary := "A secret is logged." }

def commented : CollaborationSystem :=
  (ran (configured ⟨"v1", [], none⟩ []) [.beginCohort (declaring []) "1" "t0",
    .submitFinding comment "2" "t1"]).2

end CohortSample

open CohortSample in
/-- The same comment again is the comment on file. -/
theorem key_honored_comment : KeyHonored CohortSample.sha256 commented comment := by
  refine (key_honored_iff (run_exec (Admits.of_forall (fun _ _ => trivial) _ _))
    (show truthy comment.idempotencyKey = some "key" by decide)).mpr ?_
  rintro ⟨-, id, existing, hbound, hget, -, -, hother⟩
  have hid : commented.control.boundTo? comment.idempotencyKey = some "review-finding:2" := by
    decide +kernel
  cases hid.symm.trans hbound
  have hsame : ∃ finding, commented.control.findings.get? "review-finding:2" = some finding ∧
      Submits comment finding := ⟨_, rfl, rfl, rfl, rfl, rfl, rfl, rfl⟩
  obtain ⟨finding, hfinding, hsubmits⟩ := hsame
  exact hother (Option.some.inj (hfinding.symm.trans hget) ▸ hsubmits)

open CohortSample in
/-- The blocking finding is answered with the comment, and is not on file. -/
theorem objection_not_honored :
    (∃ tr, Run (step CohortSample.sha256) (fun _ _ => True)
      (initial (configured ⟨"v1", [], none⟩ [])) tr commented) ∧
    ∃ finding, commented.control.submitFinding objection "3" "t2" = .ok (finding, commented.control) ∧
      finding.severity = .info ∧ ¬ KeyHonored CohortSample.sha256 commented objection := by
  refine ⟨⟨_, run_exec (Admits.of_forall (fun _ _ => trivial) _ _)⟩, ?_⟩
  have hreturned : ∃ finding, commented.control.submitFinding objection "3" "t2" =
      .ok (finding, commented.control) ∧ finding.severity = .info ∧
        commented.control.findings.get? finding.id = some finding := by
    refine ⟨_, rfl, ?_, ?_⟩
    · decide +kernel
    · decide +kernel
  obtain ⟨finding, hok, hseverity, hget⟩ := hreturned
  refine ⟨finding, hok, hseverity, fun h => ?_⟩
  obtain ⟨stored, hstored, hsubmits, -⟩ := h.acknowledged _ _ _ _ hok _ _ .nil
  have hsame : some finding = some stored := hget.symm.trans hstored
  have hblocking := hsubmits.severity
  rw [← Option.some.inj hsame, hseverity] at hblocking
  cases hblocking

end Anyam.ChangeControl
