import Anyam.Identity.Authorization

/-!
# Hidden Source Space policies

A Source Space that is not discoverable is hidden from every Principal that does not read it, and
a decision about it should then say no more than that it is not available. Two states of a Realm
that differ only in such a policy are compared here, request by request.

An evaluation redacts the details of its factors and stops at the policy itself before it looks at
what the policy holds. Two parts come after that without asking whether the policy is hidden: the
explicit denies and the model providers. Each adds a factor of its own.

- `AlikeButFor`: states that differ in the policy of one Source Space.
- **`hiddenPolicy_unseen_iff`**: the explanations are the same exactly when those two parts find
  the same in both policies.
- **`hidden_deny_explained`**: a deny of a hidden policy that the explanation shows.
-/

namespace Anyam.Identity

open Anyam.Lib Anyam.Kernel

/-! ## Two states -/

/-- A policy is hidden from a Principal: not discoverable, and not read by it. -/
def SourceSpacePolicy.HiddenFrom (policy : SourceSpacePolicy) (principalId : String) : Prop :=
  policy.discoverable = false ∧ principalId ∉ policy.readerPrincipalIds

/-- Two states that differ in the policy of one Source Space alone. -/
structure AlikeButFor (sourceSpaceId : String) (s s' : RealmState) : Prop where
  rest : s' = { s with sourceSpacePolicies := s'.sourceSpacePolicies }
  others : ∀ id, id ≠ sourceSpaceId →
    s'.sourceSpacePolicies.get? id = s.sourceSpacePolicies.get? id

/-- The Source Space a request is about. -/
def PolicyEvaluationInput.requestedSourceSpaceId (input : PolicyEvaluationInput) :
    Option String :=
  input.sourceSpaceId <|> input.resource.sourceSpaceId

/-- The capability a request is for. -/
def PolicyEvaluationInput.requestedCapability (input : PolicyEvaluationInput) :
    Option Capability :=
  input.capability <|> (roleCapabilities .owner).find? (·.text = input.operation)

/-- A decision but for its generated identifier and its time. -/
def PolicyDecision.content (decision : PolicyDecision) : PolicyDecision :=
  { decision with explanation := { decision.explanation with id := "", recheckAt := "" } }

/-- What an evaluation answers, but for the identifier and the time. -/
def answered (services : RealmServices) (input : PolicyEvaluationInput) (drawn : RealmDrawn)
    (clock : RealmClock) (s : RealmState) : Except RealmFailure PolicyDecision :=
  (evaluate services input drawn clock s).1.map PolicyDecision.content

/-- The two parts that read a hidden policy find the same in both. -/
structure SameDenials (input : PolicyEvaluationInput) (capability : Capability)
    (policy policy' : SourceSpacePolicy) : Prop where
  capability : capability ∈ policy.deniedCapabilities ↔ capability ∈ policy'.deniedCapabilities
  modelProvider : modelDenied input.modelProvider policy.allowedModelProviders =
    modelDenied input.modelProvider policy'.allowedModelProviders

instance {input : PolicyEvaluationInput} {capability : Capability}
    {policy policy' : SourceSpacePolicy} : Decidable (SameDenials input capability policy policy') :=
  decidable_of_iff (_ ∧ _) ⟨fun h => ⟨h.1, h.2⟩, fun h => ⟨h.1, h.2⟩⟩

section

variable {services : RealmServices} {s s' : RealmState} {input : PolicyEvaluationInput}
  {drawn drawn' : RealmDrawn} {clock : RealmClock}

/-- Without a capability nothing of the state is looked at. -/
theorem answered_of_none (h : input.requestedCapability = none) :
    answered services input drawn clock s = answered services input drawn' clock s' := by
  have hnone : (input.capability <|>
      (roleCapabilities .owner).find? (·.text = input.operation)) = none := h
  simp only [answered, evaluate, evaluateDecision, capabilityForOperation, hnone]
  rfl

theorem answered_of_some {capability : Capability}
    (h : input.requestedCapability = some capability) :
    answered services input drawn clock s =
      .ok (policyDecision s (policyContext s input capability)
        (policyFindings services s (policyContext s input capability) true clock) "" "") := by
  have hsome : (input.capability <|>
      (roleCapabilities .owner).find? (·.text = input.operation)) = some capability := h
  simp only [answered, evaluate, evaluateDecision, capabilityForOperation, hsome]
  rfl

end

/-! ## What is found of a hidden policy -/

section

variable (services : RealmServices) (s : RealmState) (c : PolicyContext) (clock : RealmClock)

/-- The parts before the two that read a hidden policy. None of them looks at what it holds. -/
def findingsBefore : List PolicyFinding :=
  [principalFinding s c, actorFinding s c, clientFinding s c, clientAudienceFinding s c,
    sessionFinding services s c true clock, roleFinding s c, relationshipDenyFinding s c,
    .unsettled ⟨"source-space-policy", .unknown, none⟩]

/-- The parts after them. -/
def findingsAfter : List PolicyFinding :=
  [grantFinding services s c clock, approvalFinding c, promotionFinding c]

end

section

variable {services : RealmServices} {s s' : RealmState} {c : PolicyContext}
  {clock : RealmClock} {policy policy' : SourceSpacePolicy} {sourceSpaceId : String}

/-- The two parts, as the factors they add: one each, or none. -/
def denialFactors (c : PolicyContext) (policy : SourceSpacePolicy) : List PolicyFactor :=
  (if c.capability ∈ policy.deniedCapabilities then [⟨"source-space-deny", .denied, none⟩]
    else []) ++
  (if modelDenied c.input.modelProvider policy.allowedModelProviders then
    [⟨"model-provider", .denied, none⟩] else [])

theorem policyFindings_of_hidden (hhidden : c.hidden = true) (hpolicy : c.sourcePolicy = some policy) :
    policyFindings services s c true clock = findingsBefore services s c clock ++
      [sourceSpaceDenyFinding c, modelProviderFinding c] ++ findingsAfter services s c clock := by
  have hspace : sourceSpaceFinding s c = .unsettled ⟨"source-space-policy", .unknown, none⟩ := by
    simp only [sourceSpaceFinding, hpolicy, hhidden, if_true]
  rw [policyFindings, hspace]
  rfl

theorem denialFactors_eq (hhidden : c.hidden = true) (hpolicy : c.sourcePolicy = some policy) :
    (sourceSpaceDenyFinding c).factors ++ (modelProviderFinding c).factors =
      denialFactors c policy := by
  simp only [sourceSpaceDenyFinding, modelProviderFinding, hpolicy, Option.any_some,
    PolicyContext.factor, hhidden, if_true, decide_eq_true_eq, denialFactors]
  congr 1
  · split <;> rfl
  · split <;> rfl

theorem mem_denialFactors_capability :
    ⟨"source-space-deny", .denied, none⟩ ∈ denialFactors c policy ↔
      c.capability ∈ policy.deniedCapabilities := by
  unfold denialFactors
  by_cases hcapability : c.capability ∈ policy.deniedCapabilities
  · simp [hcapability]
  · by_cases hmodel : modelDenied c.input.modelProvider policy.allowedModelProviders = true
    · simp [hcapability, hmodel]
    · simp [hcapability, hmodel]

theorem mem_denialFactors_modelProvider :
    ⟨"model-provider", .denied, none⟩ ∈ denialFactors c policy ↔
      modelDenied c.input.modelProvider policy.allowedModelProviders = true := by
  unfold denialFactors
  by_cases hcapability : c.capability ∈ policy.deniedCapabilities
  · by_cases hmodel : modelDenied c.input.modelProvider policy.allowedModelProviders = true
    · simp [hcapability, hmodel]
    · simp [hcapability, hmodel]
  · simp [hcapability]

/-- The names of the two factors differ, so that each tells of its own part. -/
theorem denialFactors_eq_iff :
    denialFactors c policy = denialFactors c policy' ↔
      SameDenials c.input c.capability policy policy' := by
  constructor
  · intro h
    refine ⟨?_, Bool.eq_iff_iff.mpr ?_⟩
    · rw [← mem_denialFactors_capability, h, mem_denialFactors_capability]
    · rw [← mem_denialFactors_modelProvider, h, mem_denialFactors_modelProvider]
  · rintro ⟨hcapability, hmodel⟩
    simp only [denialFactors, hcapability, hmodel]

/-- The decision on a hidden Source Space, but for what the two parts find. -/
def hiddenDecision (services : RealmServices) (s : RealmState) (c : PolicyContext)
    (clock : RealmClock) (denials : List PolicyFactor) : PolicyDecision :=
  let findings := findingsBefore services s c clock ++ findingsAfter services s c clock
  let decision := policyDecision s c findings "" ""
  { decision with explanation := { decision.explanation with
    factors := (findingsBefore services s c clock).flatMap (·.factors) ++ denials ++
      (findingsAfter services s c clock).flatMap (·.factors) } }

theorem policyDecision_of_hidden (hhidden : c.hidden = true)
    (hpolicy : c.sourcePolicy = some policy) :
    policyDecision s c (policyFindings services s c true clock) "" "" =
      hiddenDecision services s c clock (denialFactors c policy) := by
  have hsatisfied : (sourceSpaceDenyFinding c).satisfiedCapabilities ++
      (modelProviderFinding c).satisfiedCapabilities = [] := by
    unfold sourceSpaceDenyFinding modelProviderFinding
    split <;> split <;> rfl
  have hmissing : (sourceSpaceDenyFinding c).missingCapabilities ++
      (modelProviderFinding c).missingCapabilities = [] := by
    unfold sourceSpaceDenyFinding modelProviderFinding
    split <;> split <;> rfl
  have hdeny : ∀ findings, policyDecisionKind c findings = .deny := fun findings => by
    rw [policyDecisionKind, hhidden, if_pos (.inl rfl)]
  rw [policyFindings_of_hidden hhidden hpolicy, hiddenDecision, ← denialFactors_eq hhidden hpolicy]
  simp only [policyDecision, hdeny, List.flatMap_append, List.flatMap_cons, List.flatMap_nil,
    List.append_nil, hsatisfied, hmissing]

/-! ## Requests about a hidden Source Space -/

theorem policyContext_of_hidden {input : PolicyEvaluationInput} {capability : Capability}
    (hget : s.sourceSpacePolicies.get? sourceSpaceId = some policy)
    (hhidden : policy.HiddenFrom input.principalId)
    (hrequest : input.requestedSourceSpaceId = some sourceSpaceId) (hnamed : sourceSpaceId ≠ "") :
    policyContext s input capability = {
      input, capability
      requestedSourceSpaceId := some sourceSpaceId
      sourcePolicy := some policy
      hidden := true } := by
  have hrequest' : (input.sourceSpaceId <|> input.resource.sourceSpaceId) = some sourceSpaceId :=
    hrequest
  have hfound : (truthy (some sourceSpaceId)).bind s.sourceSpacePolicies.get? = some policy := by
    rw [truthy_eq_some.mpr ⟨rfl, hnamed⟩]
    exact hget
  simp only [policyContext, hrequest', hfound, Option.any_some, hhidden.1, hhidden.2]
  simp

/-- **What is seen of a hidden policy**: a request is answered in the same way whatever the policy
holds, exactly when its denied capabilities and its model providers deny the same. -/
theorem hiddenPolicy_unseen_iff {input : PolicyEvaluationInput} {drawn drawn' : RealmDrawn}
    (halike : AlikeButFor sourceSpaceId s s')
    (hget : s.sourceSpacePolicies.get? sourceSpaceId = some policy)
    (hget' : s'.sourceSpacePolicies.get? sourceSpaceId = some policy')
    (hhidden : policy.HiddenFrom input.principalId)
    (hhidden' : policy'.HiddenFrom input.principalId)
    (hrequest : input.requestedSourceSpaceId = some sourceSpaceId) :
    answered services input drawn clock s = answered services input drawn' clock s' ↔
      ∀ capability ∈ input.requestedCapability, sourceSpaceId ≠ "" →
        SameDenials input capability policy policy' := by
  cases hcapability : input.requestedCapability with
  | none => exact iff_of_true (answered_of_none hcapability) nofun
  | some capability =>
    rw [answered_of_some hcapability, answered_of_some hcapability, Except.ok.injEq]
    have hone : (∀ capability' ∈ some capability, sourceSpaceId ≠ "" →
        SameDenials input capability' policy policy') ↔
          (sourceSpaceId ≠ "" → SameDenials input capability policy policy') := by simp
    rw [hone]
    by_cases hnamed : sourceSpaceId = ""
    · -- the empty name looks no policy up, in either state
      refine iff_of_true ?_ fun h => absurd hnamed h
      have hrequest' : (input.sourceSpaceId <|> input.resource.sourceSpaceId) = some "" :=
        hnamed ▸ hrequest
      have hcontext : ∀ t : RealmState, policyContext t input capability =
          { policyContext s input capability with sourcePolicy := none } := fun t => by
        simp only [policyContext, hrequest']
        rfl
      rw [hcontext s', hcontext s, halike.rest]
      rfl
    · rw [policyContext_of_hidden hget hhidden hrequest hnamed,
        policyContext_of_hidden hget' hhidden' hrequest hnamed,
        policyDecision_of_hidden rfl rfl, policyDecision_of_hidden rfl rfl]
      let c : PolicyContext := {
        input, capability
        requestedSourceSpaceId := some sourceSpaceId
        sourcePolicy := some policy
        hidden := true }
      have hsame : ∀ denials, hiddenDecision services s' { c with sourcePolicy := some policy' }
          clock denials = hiddenDecision services s c clock denials := by
        intro denials
        rw [halike.rest]
        rfl
      show hiddenDecision services s c clock (denialFactors c policy) =
        hiddenDecision services s' { c with sourcePolicy := some policy' } clock
          (denialFactors c policy') ↔ _
      rw [hsame, ← denialFactors_eq_iff (c := c)]
      constructor
      · intro h _
        have hfactors := congrArg (·.explanation.factors) h
        exact List.append_cancel_left (List.append_cancel_right hfactors)
      · intro h
        rw [h hnamed]

end

namespace Sample

/-- A Source Space that nobody reads, with the capabilities its policy denies. -/
def concealed (denied : List Capability) : SourceSpacePolicy where
  id := "source-space-policy:6"
  realmId := "realm:1"
  sourceSpaceId := "space:1"
  classification := .restricted
  allowedCapabilities := [.sourceRead]
  deniedCapabilities := denied
  readerPrincipalIds := []
  allowedModelProviders := []
  discoverable := false
  policyVersion := "realm:1:policy:v1"

def concealing (denied : List Capability) : List RealmCall := session ++ [
  call "6" (.setSourceSpacePolicy {
    sourceSpaceId := "space:1"
    classification := .restricted
    allowedCapabilities := [.sourceRead]
    deniedCapabilities := some denied
    discoverable := some false })]

/-- A request to read the Source Space. -/
def reading : PolicyEvaluationInput where
  operation := "source.read"
  principalId := "principal:1"
  actorId := "actor:3"
  clientId := "client:anyam-web"
  sessionId := "session:3"
  resource := project "project:1"
  sourceSpaceId := some "space:1"

/-- The answer to the request after those calls. -/
def concealedReading (denied : List Capability) : Except RealmFailure PolicyDecision :=
  answered services reading { uuid := fun _ => "8", token := "8" } (fun _ => 0)
    (after (concealing denied)).policy

theorem concealing_get? (denied : List Capability) :
    (after (concealing denied)).policy.sourceSpacePolicies.get? "space:1" =
      some (concealed denied) := rfl

theorem concealing_alike (denied denied' : List Capability) :
    AlikeButFor "space:1" (after (concealing denied)).policy (after (concealing denied')).policy := by
  refine ⟨rfl, fun id hid => ?_⟩
  show ((after session).policy.sourceSpacePolicies.set "space:1" (concealed denied')).get? id =
    ((after session).policy.sourceSpacePolicies.set "space:1" (concealed denied)).get? id
  rw [OrderedMap.get?_set_ne _ _ hid, OrderedMap.get?_set_ne _ _ hid]

theorem concealed_hidden (denied : List Capability) : (concealed denied).HiddenFrom "principal:1" :=
  ⟨rfl, List.not_mem_nil⟩

end Sample

/-- Two policies that deny other capabilities than the one asked for. -/
theorem hiddenPolicy_unseen_iff_sample :
    Sample.concealedReading [.secretUse] = Sample.concealedReading [] :=
  (hiddenPolicy_unseen_iff (Sample.concealing_alike [.secretUse] [])
    (Sample.concealing_get? [.secretUse]) (Sample.concealing_get? []) (Sample.concealed_hidden _)
    (Sample.concealed_hidden _) rfl).mpr (by decide)

/-- **A deny of a hidden policy that the explanation shows**: two Realms, alike but for a policy
that is hidden from the Principal, answer its request with different factors. -/
theorem hidden_deny_explained :
    ∃ tr tr' system system' policy policy',
      RealmRun Sample.services Sample.settings ConfinedCall Sample.options
        "1970-01-01T00:00:00.000Z" tr system ∧
      RealmRun Sample.services Sample.settings ConfinedCall Sample.options
        "1970-01-01T00:00:00.000Z" tr' system' ∧
      AlikeButFor "space:1" system.policy system'.policy ∧
      system.policy.sourceSpacePolicies.get? "space:1" = some policy ∧
      system'.policy.sourceSpacePolicies.get? "space:1" = some policy' ∧
      policy.HiddenFrom Sample.reading.principalId ∧
      policy'.HiddenFrom Sample.reading.principalId ∧
      Sample.reading.requestedSourceSpaceId = some "space:1" ∧
      answered Sample.services Sample.reading { uuid := fun _ => "8", token := "8" } (fun _ => 0)
          system.policy ≠
        answered Sample.services Sample.reading { uuid := fun _ => "8", token := "8" }
          (fun _ => 0) system'.policy := by
  refine ⟨_, _, Sample.after (Sample.concealing [.sourceRead]), Sample.after (Sample.concealing []),
    _, _, run_exec (by decide +kernel), run_exec (by decide +kernel), Sample.concealing_alike _ _,
    Sample.concealing_get? _, Sample.concealing_get? _, Sample.concealed_hidden _,
    Sample.concealed_hidden _, rfl, ?_⟩
  show Sample.concealedReading [.sourceRead] ≠ Sample.concealedReading []
  decide +kernel

end Anyam.Identity
