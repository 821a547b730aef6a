import Anyam.Authority.TargetHistory

/-!
# The identity of an execution

The execution digest is to be the same for every handoff of a Promotion under one execution key, so
that a provider recognizes a reconciliation as the operation it has started. It is taken over
records that no call writes again, over the parts of the Target that an execution keeps, and over
the Promotion, which every accepted answer replaces. All it covers of the Promotion is pinned by
the checks, but for the digest of the Release: when that is `declared:`, an answer may bring its
own.

- **`contexts_agree`**: two contexts of a Promotion differ in the digest of its Release alone.
- **`executionDigest_stable`**: while the answers keep that digest, so is the execution digest.
- **`declared_digest_changes`**: an answer that brings the digest of the Release.
-/

namespace Anyam.Authority

open Anyam.Lib Anyam.Kernel Anyam.Delivery

/-- The answers that are recorded for a Promotion and leave it to be reconciled keep the digest of
its Release. -/
def KeepsReleaseDigest (services : AuthorityServices) (promotionId : String)
    (s : AuthorityPlaneSnapshot) (call : AuthorityCall) : Prop :=
  ∀ pair ∈ acceptedAnswer services s call, pair.1.promotion.id = promotionId →
    PromotionState.recoverable pair.2.promotion.state = true →
      pair.2.promotion.releaseDigest = pair.1.promotion.releaseDigest

instance KeepsReleaseDigest.decidable (services : AuthorityServices) (promotionId : String)
    (s : AuthorityPlaneSnapshot) (call : AuthorityCall) :
    Decidable (KeepsReleaseDigest services promotionId s call) :=
  inferInstanceAs (Decidable (∀ pair ∈ acceptedAnswer services s call, _ → _ → _))

/-- What an execution keeps of a Target. -/
structure SameTarget (target target' : Target) : Prop where
  id : target'.id = target.id
  projectId : target'.projectId = target.projectId
  adapterId : target'.adapterId = target.adapterId
  acceptedArtifactTypes : target'.acceptedArtifactTypes = target.acceptedArtifactTypes
  requiredEvidenceKeys : target'.requiredEvidenceKeys = target.requiredEvidenceKeys
  deploymentProfile : target'.deploymentProfile = target.deploymentProfile

theorem SameTarget.refl (target : Target) : SameTarget target target :=
  ⟨rfl, rfl, rfl, rfl, rfl, rfl⟩

theorem SameTarget.trans {target target' target'' : Target} (h : SameTarget target target')
    (h' : SameTarget target' target'') : SameTarget target target'' :=
  ⟨h'.id.trans h.id, h'.projectId.trans h.projectId, h'.adapterId.trans h.adapterId,
    h'.acceptedArtifactTypes.trans h.acceptedArtifactTypes,
    h'.requiredEvidenceKeys.trans h.requiredEvidenceKeys,
    h'.deploymentProfile.trans h.deploymentProfile⟩

theorem SameBinding.refl (promotion : PromotionRecord) : SameBinding promotion promotion :=
  ⟨rfl, rfl, rfl, rfl, rfl, rfl, rfl, rfl⟩

theorem SameBinding.trans {p q r : PromotionRecord} (h : SameBinding p q) (h' : SameBinding q r) :
    SameBinding p r :=
  ⟨h'.id.trans h.id, h'.projectId.trans h.projectId, h'.targetId.trans h.targetId,
    h'.releaseId.trans h.releaseId, h'.previousReleaseId.trans h.previousReleaseId,
    h'.expectedCurrentReleaseId.trans h.expectedCurrentReleaseId, h'.kind.trans h.kind,
    h'.idempotencyKey.trans h.idempotencyKey⟩

theorem KeepsInputs.refl (s : AuthorityPlaneSnapshot) : KeepsInputs s s :=
  ⟨.refl _, .refl _, .refl _, .refl _⟩

theorem KeepsInputs.trans {s s' s'' : AuthorityPlaneSnapshot} (h : KeepsInputs s s')
    (h' : KeepsInputs s' s'') : KeepsInputs s s'' :=
  ⟨h.projects.trans h'.projects, h.releases.trans h'.releases, h.artifacts.trans h'.artifacts,
    h.evidence.trans h'.evidence⟩

/-- What a stretch of a run keeps for the contexts of a Promotion: its records, the Realm, the
binding of the Promotion, and the identity of every Target. -/
structure KeepsIdentity (promotionId : String) (s s' : AuthorityPlaneSnapshot) : Prop where
  realm : s'.realmId = s.realmId
  inputs : KeepsInputs s s'
  promotion : ∀ promotion, s.promotions.get? promotionId = some promotion →
    ∃ promotion', s'.promotions.get? promotionId = some promotion' ∧
      SameBinding promotion promotion'
  targets : ∀ id target, s.targets.get? id = some target →
    ∃ target', s'.targets.get? id = some target' ∧ SameTarget target target'

section

variable {services : AuthorityServices} {s s' : AuthorityPlaneSnapshot} {call : AuthorityCall}
  {reply : AuthorityReply} {promotionId : String}

theorem KeepsIdentity.refl (promotionId : String) (s : AuthorityPlaneSnapshot) :
    KeepsIdentity promotionId s s :=
  ⟨rfl, .refl s, fun promotion hget => ⟨promotion, hget, .refl promotion⟩,
    fun _ target hget => ⟨target, hget, .refl target⟩⟩

theorem KeepsIdentity.trans {s'' : AuthorityPlaneSnapshot} (h : KeepsIdentity promotionId s s')
    (h' : KeepsIdentity promotionId s' s'') : KeepsIdentity promotionId s s'' := by
  refine ⟨h'.realm.trans h.realm, h.inputs.trans h'.inputs, fun promotion hget => ?_,
    fun id target hget => ?_⟩
  · obtain ⟨promotion', hget', hsame⟩ := h.promotion promotion hget
    obtain ⟨promotion'', hget'', hsame'⟩ := h'.promotion promotion' hget'
    exact ⟨promotion'', hget'', hsame.trans hsame'⟩
  · obtain ⟨target', hget', hsame⟩ := h.targets id target hget
    obtain ⟨target'', hget'', hsame'⟩ := h'.targets id target' hget'
    exact ⟨target'', hget'', hsame.trans hsame'⟩

/-- A Promotion that is there is written by a handoff of its own, or kept. -/
theorem Moves.promotion {promotion : PromotionRecord} (h : Moves services s call reply s')
    (hfiled : Filed s) (hget : s.promotions.get? promotionId = some promotion) :
    s'.promotions.get? promotionId = some promotion ∨ ∃ input context recorded result promotion',
      call.operation.handoff s = some input ∧
      Handed services s input context recorded s' result ∧ reply = .ok (some result) ∧
      context.promotion = promotion ∧ s'.promotions.get? promotionId = some promotion' ∧
      SameBinding promotion promotion' ∧ promotion'.state = recorded.promotion.state ∧
      promotion'.releaseDigest = recorded.promotion.releaseDigest ∧
      promotion'.executionIdempotencyKey = some input.executionIdempotencyKey := by
  cases h with
  | alone hsame _ | configured _ hsame _ =>
    left
    rw [hsame]
    exact hget
  | @requested _ _ created hnew hset _ =>
    left
    have hne : promotionId ≠ created.id := by
      rintro rfl
      rw [hnew.unused] at hget
      cases hget
    rw [hset, OrderedMap.get?_set_ne _ _ hne]
    exact hget
  | @handed input context recorded result _ hcall h =>
    by_cases hid : promotionId = context.promotion.id
    · right
      have hnamed := h.from_records.promotion_at hfiled
      have hpromotion := h.from_records.promotion
      rw [← hnamed, ← hid, hget] at hpromotion
      obtain rfl := Option.some.inj hpromotion
      obtain ⟨promotion', hget', hbinding, hstate, hdigest, hkey⟩ := h.promotion hfiled
      rw [← hid] at hget'
      exact ⟨input, context, recorded, result, promotion', hcall, h, rfl, rfl, hget', hbinding,
        hstate, hdigest, hkey⟩
    · left
      obtain ⟨checkpoint, -, hset⟩ := h.promotions
      rw [hset, OrderedMap.get?_set_ne _ _ hid]
      exact hget

theorem step_realmId (services : AuthorityServices) (call : AuthorityCall)
    (s : AuthorityPlaneSnapshot) : (step services call s).2.realmId = s.realmId := by
  rcases step_cases services call s with ⟨failure, -, heq⟩ | ⟨s', result, hperform, heq⟩
  · rw [heq]
  · rw [heq]
    cases perform_ok hperform with
    | unchanged h => rw [h]
    | terminal _ _ _ _ _ _ _ h => rw [h.eq]
    | transition _ _ _ hsteps => exact hsteps.realmId

/-- **Step**: a call keeps what the contexts of a Promotion are made of. -/
theorem step_keepsIdentity (services : AuthorityServices) (call : AuthorityCall)
    (promotionId : String) (hfiled : Filed s) :
    KeepsIdentity promotionId s (step services call s).2 := by
  refine ⟨step_realmId services call s, step_keeps services call s, fun promotion hget => ?_,
    fun id target hget => ?_⟩
  · rcases (step_moves services call s).promotion hfiled hget with
      hkept | ⟨_, _, _, _, promotion', -, -, -, -, hget', hsame, -⟩
    · exact ⟨promotion, hkept, .refl promotion⟩
    · exact ⟨promotion', hget', hsame⟩
  · rcases (step_moves services call s).target hfiled hget with
      hkept | ⟨_, _, _, _, -, -, -, -, hset⟩
    · exact ⟨target, hkept, .refl target⟩
    · exact ⟨_, hset, rfl, rfl, rfl, rfl, rfl, rfl⟩

/-- **Step**: a Promotion that is to be reconciled was so before, with the digest of its Release,
unless an answer brings one. -/
theorem step_releaseDigest (services : AuthorityServices) (call : AuthorityCall)
    (hfiled : Filed s) (hkeeps : KeepsReleaseDigest services promotionId s call)
    {promotion promotion' : PromotionRecord}
    (hget : s.promotions.get? promotionId = some promotion)
    (hget' : (step services call s).2.promotions.get? promotionId = some promotion')
    (hrecoverable : PromotionState.recoverable promotion'.state = true) :
    PromotionState.recoverable promotion.state = true ∧
      promotion'.releaseDigest = promotion.releaseDigest := by
  rcases (step_moves services call s).promotion hfiled hget with
    hkept |
    ⟨input, context, recorded, _, written, hcall, h, -, rfl, hwritten, -, hstate, hdigest, -⟩
  · obtain rfl := Option.some.inj (hget'.symm.trans hkept)
    exact ⟨hrecoverable, rfl⟩
  · obtain rfl := Option.some.inj (hget'.symm.trans hwritten)
    have hstarted := AuthorityOperation.handoff_started hcall
    have hsame : input.promotion = context.promotion :=
      Option.some.inj (hstarted.promotion.symm.trans h.from_records.promotion)
    refine ⟨hsame ▸ hstarted.recoverable, ?_⟩
    rw [hdigest]
    rw [hstate] at hrecoverable
    have hid := hfiled.promotions _ _ hget
    cases h.answer with
    | unknown hunknown => exact hunknown.releaseDigest
    | answered hanswer hvalid =>
      exact hkeeps _ (acceptedAnswer_eq_some hcall h.from_records hanswer hvalid) hid hrecoverable

end

/-! ## Two contexts of one Promotion -/

section

variable {services : AuthorityServices} {s s' s₁ s₂ : AuthorityPlaneSnapshot}
  {promotionId key : String} {session₁ session₂ : AuthoritySession}
  {c₁ c₂ : PromotionExecutionContext}

/-- The Release to go back to, when there is one, is the recorded one with its bundle. -/
theorem previousBundle_ok {promotion : PromotionRecord} {project : Project}
    {previous : Option PromotionExecutionReleaseBundle}
    (h : previousBundle s promotionId promotion project = .ok previous) :
    (truthy promotion.previousReleaseId = none ∧ previous = none) ∨
      ∃ id release bundle, truthy promotion.previousReleaseId = some id ∧
        s.releases.get? id = some release ∧ releaseBundle s release = some bundle ∧
        previous = some bundle := by
  unfold previousBundle at h
  cases hnamed : truthy promotion.previousReleaseId with
  | none =>
    rw [hnamed] at h
    exact .inl ⟨rfl, (Except.ok.inj h).symm⟩
  | some id =>
    simp only [hnamed, map_eq_ok, orThrow_eq_ok, Option.bind_eq_some_iff,
      Option.filter_eq_some_iff] at h
    obtain ⟨bundle, ⟨release, ⟨hget, -⟩, hbundle⟩, rfl⟩ := h
    exact .inr ⟨id, release, bundle, rfl, hget, hbundle, rfl⟩

/-- The Release to go back to is the same while the records are kept. -/
theorem previousBundle_agree {promotion₁ promotion₂ : PromotionRecord} {project₁ project₂ : Project}
    {previous₁ previous₂ : Option PromotionExecutionReleaseBundle} (hinputs : KeepsInputs s₁ s₂)
    (hsame : promotion₂.previousReleaseId = promotion₁.previousReleaseId)
    (h₁ : previousBundle s₁ promotionId promotion₁ project₁ = .ok previous₁)
    (h₂ : previousBundle s₂ promotionId promotion₂ project₂ = .ok previous₂) :
    previous₂ = previous₁ := by
  rcases previousBundle_ok h₁ with ⟨hnone, rfl⟩ | ⟨id, release, bundle, hid, hget, hbundle, rfl⟩
  · rcases previousBundle_ok h₂ with ⟨-, rfl⟩ | ⟨id, _, _, hid, -, -, -⟩
    · rfl
    · rw [hsame, hnone] at hid
      cases hid
  · rcases previousBundle_ok h₂ with
      ⟨hnone, -⟩ | ⟨id', release', bundle', hid', hget', hbundle', rfl⟩
    · rw [hsame, hid] at hnone
      cases hnone
    · rw [hsame, hid] at hid'
      obtain rfl := Option.some.inj hid'
      obtain rfl := Option.some.inj ((hinputs.releases _ _ hget).symm.trans hget')
      exact congrArg some (Option.some.inj ((hinputs.bundle hbundle).symm.trans hbundle')).symm

/-- **Two contexts of a Promotion differ in the digest of its Release alone**, as far as the
execution digest goes. -/
theorem contexts_agree (hfiled₁ : Filed s₁) (hfiled₂ : Filed s₂)
    (hkeeps : KeepsIdentity promotionId s₁ s₂)
    (h₁ : ContextOf services s₁ promotionId key session₁ c₁)
    (h₂ : ContextOf services s₂ promotionId key session₂ c₂)
    (hdigest : c₂.promotion.releaseDigest = c₁.promotion.releaseDigest) :
    c₂.executionDigest = c₁.executionDigest := by
  obtain ⟨promotion', hpromotion', hbinding⟩ := hkeeps.promotion _ h₁.promotion
  obtain rfl := Option.some.inj (hpromotion'.symm.trans h₂.promotion)
  have hrelease : c₂.release = c₁.release := by
    have hget := h₂.release
    rw [hbinding.releaseId] at hget
    exact Option.some.inj (hget.symm.trans (hkeeps.inputs.releases _ _ h₁.release))
  have hproject : c₂.project = c₁.project := by
    obtain ⟨revision₁, -, -, hget₁⟩ := projectForRelease_eq_some.mp h₁.project
    obtain ⟨revision₂, -, -, hget₂⟩ := projectForRelease_eq_some.mp h₂.project
    have hid₁ : c₁.project.id = revision₁.projectId := hfiled₁.projects _ _ hget₁
    have hid₂ : c₂.project.id = revision₂.projectId := hfiled₂.projects _ _ hget₂
    rw [← hid₂, h₂.projectId, hbinding.projectId, ← h₁.projectId, hid₁] at hget₂
    exact Option.some.inj (hget₂.symm.trans (hkeeps.inputs.projects _ _ hget₁))
  have hbundle : (⟨c₂.release, c₂.artifacts, c₂.evidence⟩ : PromotionExecutionReleaseBundle) =
      ⟨c₁.release, c₁.artifacts, c₁.evidence⟩ := by
    have hget := h₂.bundle
    rw [hrelease] at hget
    rw [hrelease]
    exact Option.some.inj (hget.symm.trans (hkeeps.inputs.bundle h₁.bundle))
  obtain ⟨-, hartifacts, hevidence⟩ := PromotionExecutionReleaseBundle.mk.inj hbundle
  have hprevious := previousBundle_agree hkeeps.inputs hbinding.previousReleaseId h₁.previous
    h₂.previous
  obtain ⟨target', htarget', hsame⟩ := hkeeps.targets _ _ h₁.target
  have htarget := h₂.target
  rw [hbinding.targetId] at htarget
  obtain rfl := Option.some.inj (htarget'.symm.trans htarget)
  obtain ⟨profile₁, hprofile₁, hdigest₁⟩ := h₁.digest
  obtain ⟨profile₂, hprofile₂, hdigest₂⟩ := h₂.digest
  have hprofile : profile₂ = profile₁ := by
    unfold targetDeploymentProfile at hprofile₁ hprofile₂
    rw [hsame.deploymentProfile, hsame.id] at hprofile₂
    exact Except.ok.inj (hprofile₂.symm.trans hprofile₁)
  rw [hdigest₁, hdigest₂]
  refine congrArg services.executionDigest ?_
  simp only [executionClaims, hprofile, hprevious, hartifacts, hevidence, hrelease, hproject,
    hdigest, hsame.id, hsame.projectId, hsame.adapterId, hsame.acceptedArtifactTypes,
    hsame.requiredEvidenceKeys, hbinding.id, hbinding.projectId, hbinding.targetId,
    hbinding.releaseId, hbinding.previousReleaseId, hbinding.expectedCurrentReleaseId,
    hbinding.kind, hbinding.idempotencyKey, h₁.expectedCurrent, h₂.expectedCurrent, h₁.key, h₂.key,
    h₁.realm, h₂.realm, hkeeps.realm]

variable {ok : AuthorityPlaneSnapshot → AuthorityCall → Prop} {realmId : String}
  {tr₁ tr₂ : List AuthorityTransition}

/-- **Run**: what the contexts of a Promotion are made of is kept, and so is the digest of its
Release while it is to be reconciled and the answers keep it. -/
theorem keepsIdentity_of_run (h₁ : AuthorityRun services ok realmId tr₁ s₁)
    (h₂ : Run (step services) ok s₁ tr₂ s₂) {promotion : PromotionRecord}
    (hget : s₁.promotions.get? promotionId = some promotion)
    (hkeeps : ∀ t ∈ tr₂, KeepsReleaseDigest services promotionId t.pre t.op) :
    KeepsIdentity promotionId s₁ s₂ ∧
      ∀ promotion', s₂.promotions.get? promotionId = some promotion' →
        PromotionState.recoverable promotion'.state = true →
          promotion'.releaseDigest = promotion.releaseDigest := by
  have hrun : Filed s₂ ∧ KeepsIdentity promotionId s₁ s₂ ∧
      ((∀ t ∈ tr₂, KeepsReleaseDigest services promotionId t.pre t.op) →
        ∀ promotion', s₂.promotions.get? promotionId = some promotion' →
          PromotionState.recoverable promotion'.state = true →
            promotion'.releaseDigest = promotion.releaseDigest) := by
    refine h₂.traceInvariant (fun tr s => Filed s ∧ KeepsIdentity promotionId s₁ s ∧
      ((∀ t ∈ tr, KeepsReleaseDigest services promotionId t.pre t.op) →
        ∀ promotion', s.promotions.get? promotionId = some promotion' →
          PromotionState.recoverable promotion'.state = true →
            promotion'.releaseDigest = promotion.releaseDigest))
      ⟨filed_of_run h₁, .refl .., fun _ promotion' hget' _ => ?_⟩
      fun tr s call ⟨hfiled, hidentity, hdigest⟩ _ =>
        ⟨step_filed services call hfiled,
          hidentity.trans (step_keepsIdentity services call promotionId hfiled),
          fun hkeeps promotion' hget' hrecoverable => ?_⟩
    · rw [Option.some.inj (hget'.symm.trans hget)]
    · rw [List.forall_mem_append, List.forall_mem_singleton] at hkeeps
      obtain ⟨before, hbefore, -⟩ := hidentity.promotion _ hget
      obtain ⟨hstill, hsame⟩ :=
        step_releaseDigest services call hfiled hkeeps.2 hbefore hget' hrecoverable
      exact hsame.trans (hdigest hkeeps.1 before hbefore hstill)
  exact ⟨hrun.2.1, hrun.2.2 hkeeps⟩

/-- The call hands a Promotion off, with the context that is made for it. -/
def AuthorityCall.MakesContext (call : AuthorityCall) (services : AuthorityServices)
    (s : AuthorityPlaneSnapshot) (input : PromotionHandoff) (context : PromotionExecutionContext) :
    Prop :=
  call.operation.handoff s = some input ∧
    createPromotionExecutionContext services s input.promotionId input.executionIdempotencyKey
      input.session = .ok context

/-- **The execution digest is stable**: every two contexts that are made for a Promotion under one
execution key have one execution digest, when the answers recorded for it in between, which leave it
to be reconciled, keep the digest of its Release. -/
theorem executionDigest_stable {call₁ call₂ : AuthorityCall} {input₁ input₂ : PromotionHandoff}
    (h₁ : AuthorityRun services ok realmId tr₁ s₁) (h₂ : Run (step services) ok s₁ tr₂ s₂)
    (hkeeps : ∀ t ∈ tr₂, KeepsReleaseDigest services input₁.promotionId t.pre t.op)
    (hmade₁ : call₁.MakesContext services s₁ input₁ c₁)
    (hmade₂ : call₂.MakesContext services s₂ input₂ c₂)
    (hpromotion : input₂.promotionId = input₁.promotionId)
    (hkey : input₂.executionIdempotencyKey = input₁.executionIdempotencyKey) :
    c₂.executionDigest = c₁.executionDigest := by
  have hstarted := AuthorityOperation.handoff_started hmade₂.1
  have hof₁ := createPromotionExecutionContext_eq_ok.mp hmade₁.2
  have hof₂ := createPromotionExecutionContext_eq_ok.mp hmade₂.2
  have hsame : input₂.promotion = c₂.promotion :=
    Option.some.inj (hstarted.promotion.symm.trans hof₂.promotion)
  rw [hpromotion, hkey] at hof₂
  obtain ⟨hidentity, hdigest⟩ := keepsIdentity_of_run h₁ h₂ hof₁.promotion hkeeps
  exact contexts_agree (filed_of_run h₁) (filed_of_run (h₁.append h₂)) hidentity hof₁ hof₂
    (hdigest _ hof₂.promotion (hsame ▸ hstarted.recoverable))

/-- **What a Promotion is bound to never changes**, along any run: the records it is made of, its
own binding and the identity of every Target. -/
theorem promotions_bound (h₁ : AuthorityRun services ok realmId tr₁ s₁)
    (h₂ : Run (step services) ok s₁ tr₂ s₂) (promotionId : String) :
    KeepsIdentity promotionId s₁ s₂ :=
  (h₂.invariant (fun s => Filed s ∧ KeepsIdentity promotionId s₁ s) ⟨filed_of_run h₁, .refl ..⟩
    fun _ call ⟨hfiled, hkept⟩ _ => ⟨step_filed services call hfiled,
      hkept.trans (step_keepsIdentity services call promotionId hfiled)⟩).2

end

namespace Sample

/-- The services with an execution digest that shows the digest of the Release. -/
def digestServices : AuthorityServices :=
  { services with executionDigest := fun claims => "sha256:" ++ claims.promotionReleaseDigest }

/-- The outcome is not known, and the Promotion carries the digest it is given. -/
def degradedExecutor (releaseDigest : String → String) : TrustedPromotionExecutor := fun context =>
  let result := answer context .indeterminate .degraded .degraded context.target.currentReleaseId
    (context.target.releaseHistory.getD [])
  .ok { result with promotion := {
    result.promotion with releaseDigest := releaseDigest context.promotion.releaseDigest } }

def reconcile (key promotion reconciliation : String) (executor : TrustedPromotionExecutor) :
    AuthorityCall where
  operation := .reconcilePromotion {
    promotionId := promotion
    reconciliationIdempotencyKey := reconciliation
    executor
    session }
  drawn := drawn key

/-- The requested Promotion. -/
def ready : List AuthorityTransition × AuthorityPlaneSnapshot :=
  exec (step digestServices) (emptyAuthorityPlaneSnapshot "realm:1") promotionRequested

/-- The requested Promotion, handed off. -/
def handedOff (executor : TrustedPromotionExecutor) :
    List AuthorityTransition × AuthorityPlaneSnapshot :=
  exec (step digestServices) ready.2 [handOff "9" "promotion:1" "execution:1" executor]

/-- The Promotion and the key a call hands off, and the execution digest of the context. -/
def made (s : AuthorityPlaneSnapshot) (call : AuthorityCall) : Option (String × String × String) :=
  (call.operation.handoff s).bind fun input =>
    (createPromotionExecutionContext digestServices s input.promotionId
      input.executionIdempotencyKey input.session).toOption.map fun context =>
        (input.promotionId, input.executionIdempotencyKey, context.executionDigest)

theorem made_eq_some {s : AuthorityPlaneSnapshot} {call : AuthorityCall}
    {promotionId key digest : String} (h : made s call = some (promotionId, key, digest)) :
    ∃ input context, call.MakesContext digestServices s input context ∧
      input.promotionId = promotionId ∧ input.executionIdempotencyKey = key ∧
      context.executionDigest = digest := by
  obtain ⟨input, hcall, hmade⟩ := Option.bind_eq_some_iff.mp h
  obtain ⟨context, hcontext, heq⟩ := Option.map_eq_some_iff.mp hmade
  obtain ⟨hid, hrest⟩ := Prod.mk.inj heq
  obtain ⟨hkey, hdigest⟩ := Prod.mk.inj hrest
  exact ⟨input, context, ⟨hcall, toOption_eq_some.mp hcontext⟩, hid, hkey, hdigest⟩

theorem run_ready : AuthorityRun digestServices (fun _ _ => True) "realm:1" ready.1 ready.2 :=
  run_exec (.of_forall (fun _ _ => trivial) ..)

theorem run_handedOff (executor : TrustedPromotionExecutor) :
    Run (step digestServices) (fun _ _ => True) ready.2 (handedOff executor).1
      (handedOff executor).2 :=
  run_exec (.of_forall (fun _ _ => trivial) ..)

end Sample

/-- A Promotion that was handed off, and answered. -/
theorem promotions_bound_sample : ∃ promotion promotion',
    Sample.ready.2.promotions.get? "promotion:1" = some promotion ∧
      (Sample.handedOff Sample.healthyExecutor).2.promotions.get? "promotion:1" = some promotion' ∧
      SameBinding promotion promotion' := by
  obtain ⟨promotion, hget⟩ := Option.isSome_iff_exists.mp
    (show (Sample.ready.2.promotions.get? "promotion:1").isSome = true by decide +kernel)
  have hbound := promotions_bound Sample.run_ready (Sample.run_handedOff Sample.healthyExecutor)
    "promotion:1"
  exact ⟨promotion, (hbound.promotion promotion hget).imp fun _ h => ⟨hget, h⟩⟩

/-- A handoff of a Promotion and its reconciliation have one execution digest. -/
theorem executionDigest_stable_sample :
    ∃ s₁ s₂ call₁ call₂ input₁ input₂ c₁ c₂,
      AuthorityCall.MakesContext call₁ Sample.digestServices s₁ input₁ c₁ ∧
      AuthorityCall.MakesContext call₂ Sample.digestServices s₂ input₂ c₂ ∧
      input₁.promotionId = "promotion:1" ∧ input₂.promotionId = "promotion:1" ∧
      c₂.executionDigest = c₁.executionDigest := by
  let executor := Sample.degradedExecutor id
  -- one evaluation of the run for all that is read off it
  obtain ⟨hkeeps, hfirst, hsecond⟩ :
      (∀ t ∈ (Sample.handedOff executor).1,
        KeepsReleaseDigest Sample.digestServices "promotion:1" t.pre t.op) ∧
      Sample.made Sample.ready.2 (Sample.handOff "9" "promotion:1" "execution:1" executor)
        = some ("promotion:1", "execution:1", "sha256:declared:release:1") ∧
      Sample.made (Sample.handedOff executor).2
        (Sample.reconcile "10" "promotion:1" "reconciliation:1" Sample.healthyExecutor)
        = some ("promotion:1", "execution:1", "sha256:declared:release:1") := by decide +kernel
  obtain ⟨input₁, c₁, hmade₁, hid₁, hkey₁, -⟩ := Sample.made_eq_some hfirst
  obtain ⟨input₂, c₂, hmade₂, hid₂, hkey₂, -⟩ := Sample.made_eq_some hsecond
  exact ⟨_, _, _, _, input₁, input₂, c₁, c₂, hmade₁, hmade₂, hid₁, hid₂,
    executionDigest_stable Sample.run_ready (Sample.run_handedOff executor) (hid₁ ▸ hkeeps) hmade₁
      hmade₂ (hid₂.trans hid₁.symm) (hkey₂.trans hkey₁.symm)⟩

/-- **An answer brings the digest of the Release**: the Promotion was requested without one, and the
execution digest of its reconciliation is not the one that was handed off. -/
theorem declared_digest_changes :
    ∃ tr₁ s₁ tr₂ s₂ call₁ call₂ input₁ input₂ c₁ c₂,
      AuthorityRun Sample.digestServices (fun _ _ => True) "realm:1" tr₁ s₁ ∧
      Run (step Sample.digestServices) (fun _ _ => True) s₁ tr₂ s₂ ∧
      AuthorityCall.MakesContext call₁ Sample.digestServices s₁ input₁ c₁ ∧
      AuthorityCall.MakesContext call₂ Sample.digestServices s₂ input₂ c₂ ∧
      input₂.promotionId = input₁.promotionId ∧
      input₂.executionIdempotencyKey = input₁.executionIdempotencyKey ∧
      c₂.executionDigest ≠ c₁.executionDigest := by
  let executor := Sample.degradedExecutor fun _ => "sha256:release"
  obtain ⟨hfirst, hsecond⟩ :
      Sample.made Sample.ready.2 (Sample.handOff "9" "promotion:1" "execution:1" executor)
        = some ("promotion:1", "execution:1", "sha256:declared:release:1") ∧
      Sample.made (Sample.handedOff executor).2
        (Sample.reconcile "10" "promotion:1" "reconciliation:1" Sample.healthyExecutor)
        = some ("promotion:1", "execution:1", "sha256:sha256:release") := by decide +kernel
  obtain ⟨input₁, c₁, hmade₁, hid₁, hkey₁, hdigest₁⟩ := Sample.made_eq_some hfirst
  obtain ⟨input₂, c₂, hmade₂, hid₂, hkey₂, hdigest₂⟩ := Sample.made_eq_some hsecond
  refine ⟨_, _, _, _, _, _, input₁, input₂, c₁, c₂, Sample.run_ready,
    Sample.run_handedOff executor, hmade₁, hmade₂, hid₂.trans hid₁.symm, hkey₂.trans hkey₁.symm,
    ?_⟩
  rw [hdigest₁, hdigest₂]
  decide

end Anyam.Authority
