import Anyam.Identity.Delegation

/-!
# Authorization soundness

What a decision to allow rests on. Each part of an evaluation that neither denies a request nor
leaves it undecided has established something of it; a Session and a Grant are looked at up to
the Session of a human and to a Grant that was not derived.

- `Authorized`: all that an allowed request has.
- `sessionChainIsActive_iff`, `grantChainIsActive_iff`: the walks to the parents, as chains.
- **`RealmRun.authorized_iff`**: along a run whose derivations are confined, an allowed request is
  authorized exactly when the approval it requires names its approver.
- **`unnamed_approval_allows`**: a request that nobody is named to have approved.
-/

namespace Anyam.Identity

open Anyam.Lib Anyam.Kernel

/-! ## What is allowed -/

/-- A Session is active, unexpired and of the current epoch, and a human's when no other Session
delegated it. -/
structure SessionLive (services : RealmServices) (s : RealmState) (now : Int)
    (session : RealmSession) : Prop where
  active : session.status = .active
  unexpired : services.expired session.expiresAt now = false
  epoch : session.authorizationEpoch = s.realm.authorizationEpoch
  human : delegatingSession session = none → session.actorKind = some .human

/-- A Grant is active, unexpired and of the current epoch. -/
structure GrantLive (services : RealmServices) (s : RealmState) (now : Int)
    (grant : RealmCapabilityGrant) : Prop where
  active : grant.status = .active
  unexpired : services.expired grant.expiresAt now = false
  epoch : grant.authorizationEpoch = s.realm.authorizationEpoch

/-- The Principal, the Actor and its enrolled agent are active. -/
structure PartiesActive (s : RealmState) (c : PolicyContext) : Prop where
  principal : ∃ principal, s.principals.get? c.input.principalId = some principal ∧
    principal.realmId = s.realm.id ∧ principal.status = .active
  actor : ∃ actor, s.actors.get? c.input.actorId = some actor ∧ actor.status = .active ∧
    actor.principalId = c.input.principalId ∧ actor.realmId = s.realm.id ∧
    (actor.kind = .agent → ∃ id agent, truthy actor.agentId = some id ∧
      s.agents.get? id = some agent ∧ agent.status = .active)

/-- The Session of the request, and every Session it was delegated from. -/
def SessionAuthorized (services : RealmServices) (s : RealmState) (c : PolicyContext)
    (clock : RealmClock) : Prop :=
  ∃ session, chainedSession s c = some session ∧
    Grounded s.sessions delegatingSession
      (fun distance => SessionLive services s (clock.sub 0 [distance])) 0 session

/-- Some relationship grants the capability, and none denies it. -/
structure RelationshipAuthorized (s : RealmState) (c : PolicyContext) : Prop where
  granted : ∃ binding ∈ s.bindings c.input.principalId c.input.resource,
    c.capability ∈ roleCapabilities binding.role
  notDenied : ∀ binding ∈ s.bindings c.input.principalId c.input.resource,
    c.capability ∉ binding.deniedCapabilities

/-- The Source Space policy that applies allows the Principal, the capability and the model
provider. -/
structure SourceSpaceAuthorized (s : RealmState) (c : PolicyContext)
    (policy : SourceSpacePolicy) : Prop where
  current : policy.policyVersion = s.realm.policyVersion
  visible : policy.discoverable = true ∨ c.input.principalId ∈ policy.readerPrincipalIds
  reader : policy.readerPrincipalIds = [] ∨ c.input.principalId ∈ policy.readerPrincipalIds
  allowed : c.capability ∈ policy.allowedCapabilities
  notDenied : c.capability ∉ policy.deniedCapabilities
  modelProvider : ∀ provider ∈ truthy c.input.modelProvider,
    policy.allowedModelProviders ≠ [] → provider ∈ policy.allowedModelProviders

/-- The Grant of the request, and every Grant it was derived from, covers the request. -/
def GrantAuthorized (services : RealmServices) (s : RealmState) (c : PolicyContext)
    (clock : RealmClock) : Prop :=
  ∃ grantId taskId grant, namedGrant c = some (grantId, taskId) ∧
    chainedGrant s c grantId taskId = some grant ∧
    Grounded s.grants parentGrant
      (fun distance g => GrantLive services s (clock.sub 2 [distance]) g ∧ Covers c g) 0 grant

/-- An approval was given, by a named Actor who is neither the author nor the verifier. -/
def ApprovalAuthorized (approval : PolicyApproval) : Prop :=
  approval.approved = true ∧ ∃ approver, truthy approval.approverActorId = some approver ∧
    approval.authorActorId ≠ some approver ∧ approval.verifierActorId ≠ some approver

/-- All that a request should have to be allowed. -/
structure Authorized (services : RealmServices) (s : RealmState) (c : PolicyContext)
    (clock : RealmClock) : Prop where
  parties : PartiesActive s c
  session : SessionAuthorized services s c clock
  relationship : RelationshipAuthorized s c
  sourceSpace : ∀ policy ∈ c.sourcePolicy, SourceSpaceAuthorized s c policy
  «protected» : c.sourcePolicy = none → sourcePolicyRequired c = true →
    c.input.protected = some false
  grant : GrantAuthorized services s c clock
  approval : ∀ approval ∈ c.input.approval, approval.required = true →
    ApprovalAuthorized approval

/-- A required approval names its approver. -/
def ApproverNamed (input : PolicyEvaluationInput) : Prop :=
  ∀ approval ∈ input.approval, approval.required = true →
    truthy approval.approverActorId ≠ none

/-! ## What each part has established -/

/-- A part that lets a request pass. -/
def PolicyFinding.Passes (finding : PolicyFinding) : Prop :=
  finding.denied = false ∧ finding.unknown = false

section

variable {services : RealmServices} {s : RealmState} {c : PolicyContext}

theorem principal_of_passes (h : (principalFinding s c).Passes) :
    ∃ principal, s.principals.get? c.input.principalId = some principal ∧
      principal.realmId = s.realm.id ∧ principal.status = .active := by
  simp only [principalFinding] at h
  split at h
  · rename_i hany
    obtain ⟨principal, hget, hactive⟩ := (Option.any_eq_true ..).mp hany
    simp only [Bool.and_eq_true, decide_eq_true_eq] at hactive
    exact ⟨principal, hget, hactive.1, hactive.2⟩
  · cases h.1

theorem agentIsActive_iff {agentId : Option String} :
    agentIsActive s agentId = true ↔ ∃ id agent, truthy agentId = some id ∧
      s.agents.get? id = some agent ∧ agent.status = .active := by
  unfold agentIsActive
  cases truthy agentId with
  | none => simp
  | some id => simp [Option.any_eq_true]

theorem actor_of_passes (h : (actorFinding s c).Passes) :
    ∃ actor, s.actors.get? c.input.actorId = some actor ∧ actor.status = .active ∧
      actor.principalId = c.input.principalId ∧ actor.realmId = s.realm.id ∧
      (actor.kind = .agent → ∃ id agent, truthy actor.agentId = some id ∧
        s.agents.get? id = some agent ∧ agent.status = .active) := by
  unfold actorFinding at h
  split at h
  · rename_i hany
    obtain ⟨actor, hget, hactive⟩ := (Option.any_eq_true ..).mp hany
    simp only [actorPasses, Bool.and_eq_true, Bool.or_eq_true, decide_eq_true_eq] at hactive
    obtain ⟨⟨⟨hstatus, hprincipal⟩, hrealm⟩, hagent⟩ := hactive
    refine ⟨actor, hget, hstatus, hprincipal, hrealm, fun hkind => ?_⟩
    exact agentIsActive_iff.mp (hagent.resolve_left (not_not_intro hkind))
  · cases h.1

/-- A Session that passes is one whose walk went up to a human. -/
theorem session_of_passes {observe : Bool} {clock : RealmClock}
    (h : (sessionFinding services s c observe clock).Passes) :
    ∃ session, chainedSession s c = some session ∧
      sessionChainIsActive services s (clock.sub 0) session = true := by
  unfold sessionFinding at h
  split at h
  · cases h.2
  · rename_i session hsession
    split at h
    · cases h.1
    · rename_i hactive
      exact ⟨session, hsession, not_not.mp hactive⟩

theorem granted_of_passes (h : (roleFinding s c).Passes) :
    ∃ binding ∈ s.bindings c.input.principalId c.input.resource,
      c.capability ∈ roleCapabilities binding.role := by
  simp only [roleFinding] at h
  split at h
  · rename_i hany
    obtain ⟨binding, hmem, hcapability⟩ := List.any_eq_true.mp hany
    exact ⟨binding, hmem, decide_eq_true_eq.mp hcapability⟩
  · cases h.1

theorem notDenied_of_passes (h : (relationshipDenyFinding s c).Passes) :
    ∀ binding ∈ s.bindings c.input.principalId c.input.resource,
      c.capability ∉ binding.deniedCapabilities := by
  unfold relationshipDenyFinding at h
  split at h
  · cases h.1
  · rename_i hnone
    intro binding hmem hdenied
    exact hnone (List.any_eq_true.mpr ⟨binding, hmem, decide_eq_true hdenied⟩)

/-- What the three parts on the Source Space policy have established. -/
theorem sourceSpace_of_passes (hvisible : c.hidden = false → ∀ policy ∈ c.sourcePolicy,
      policy.discoverable = true ∨ c.input.principalId ∈ policy.readerPrincipalIds)
    (h : (sourceSpaceFinding s c).Passes) (hdeny : (sourceSpaceDenyFinding c).Passes)
    (hmodel : (modelProviderFinding c).Passes) {policy : SourceSpacePolicy}
    (hpolicy : c.sourcePolicy = some policy) : SourceSpaceAuthorized s c policy := by
  simp only [sourceSpaceFinding, hpolicy] at h
  split_ifs at h with hhidden hversion hreader hallowed
  · cases h.2
  · cases h.2
  · cases h.1
  · refine ⟨not_not.mp hversion, hvisible (Bool.not_eq_true _ ▸ hhidden) policy hpolicy, ?_,
      hallowed, fun hdenied => ?_, ?_⟩
    · by_contra hnot
      rw [not_or] at hnot
      exact hreader hnot
    · simp only [sourceSpaceDenyFinding, hpolicy, Option.any_some, hdenied, decide_true,
        if_true] at hdeny
      cases hdeny.1
    · refine modelDenied_eq_false.mp (Bool.not_eq_true _ ▸ fun hdenied => ?_)
      simp only [modelProviderFinding, hpolicy, Option.any_some, hdenied, if_true] at hmodel
      cases hmodel.1
  · cases h.1

theorem unprotected_of_passes (h : (sourceSpaceFinding s c).Passes)
    (hpolicy : c.sourcePolicy = none) (hrequired : sourcePolicyRequired c = true) :
    c.input.protected = some false := by
  by_contra hprotected
  simp only [sourceSpaceFinding, hpolicy] at h
  rw [if_pos ⟨hrequired, hprotected⟩] at h
  cases h.2

/-- A Grant that passes is one whose walk went up to a Grant that was not derived. -/
theorem grant_of_passes {clock : RealmClock} (h : (grantFinding services s c clock).Passes) :
    ∃ grantId taskId grant, namedGrant c = some (grantId, taskId) ∧
      chainedGrant s c grantId taskId = some grant ∧
      grantChainIsActive services s (clock.sub 2) grant = true ∧ Covers c grant := by
  unfold grantFinding at h
  split at h
  · cases h.1
  · rename_i grantId taskId hnamed
    split at h
    · cases h.2
    · rename_i grant hgrant
      split at h
      · cases h.1
      · rename_i hactive
        refine ⟨grantId, taskId, grant, hnamed, hgrant, not_not.mp hactive, ?_⟩
        exact grantAccepts_iff.mp (by rw [grantAccepts, h.1]; rfl)

/-- An approval that passes was given, and its approver, if named, is neither of the two. -/
theorem approval_of_passes (h : (approvalFinding c).Passes) {approval : PolicyApproval}
    (happroval : c.input.approval = some approval) (hrequired : approval.required = true) :
    approval.approved = true ∧ ∀ approver ∈ truthy approval.approverActorId,
      approval.authorActorId ≠ some approver ∧ approval.verifierActorId ≠ some approver := by
  simp only [approvalFinding, happroval] at h
  split_ifs at h with hduty happroved
  · cases h.1
  · refine ⟨happroved, fun approver happrover => ?_⟩
    rw [Option.mem_def.mp happrover, Option.any_some, Bool.or_eq_true, not_or] at hduty
    simp only [decide_eq_true_eq] at hduty
    exact ⟨fun h => hduty.1 h.symm, fun h => hduty.2 h.symm⟩
  · cases h.1

/-- A decision to allow: nothing is hidden, and every part passes. -/
theorem policyDecisionKind_eq_allow {findings : List PolicyFinding} :
    policyDecisionKind c findings = .allow ↔
      c.hidden = false ∧ ∀ finding ∈ findings, finding.Passes := by
  unfold policyDecisionKind PolicyFinding.Passes
  constructor
  · intro h
    split_ifs at h with hdeny hunknown
    rw [not_or, Bool.not_eq_true, Bool.not_eq_true] at hdeny
    refine ⟨hdeny.1, fun finding hmem => ⟨?_, ?_⟩⟩
    · simpa using List.any_eq_false.mp hdeny.2 finding hmem
    · simpa using List.any_eq_false.mp (Bool.not_eq_true _ ▸ hunknown) finding hmem
  · rintro ⟨hhidden, hpasses⟩
    have hdenied : findings.any (·.denied) = false :=
      List.any_eq_false.mpr fun finding hmem => by rw [(hpasses finding hmem).1]; simp
    have hunknown : findings.any (·.unknown) = false :=
      List.any_eq_false.mpr fun finding hmem => by rw [(hpasses finding hmem).2]; simp
    simp [hhidden, hdenied, hunknown]

/-- What is not hidden is discoverable, or the Principal is one of its readers. -/
theorem visible_of_not_hidden {input : PolicyEvaluationInput} {capability : Capability}
    (h : (policyContext s input capability).hidden = false) :
    ∀ policy ∈ (policyContext s input capability).sourcePolicy,
      policy.discoverable = true ∨ input.principalId ∈ policy.readerPrincipalIds := by
  intro policy hpolicy
  have hnot : (!policy.discoverable && decide (input.principalId ∉ policy.readerPrincipalIds)) =
      false := by
    have hany : (policyContext s input capability).sourcePolicy.any (fun policy =>
        !policy.discoverable && input.principalId ∉ policy.readerPrincipalIds) = false :=
      (Bool.or_eq_false_iff.mp h).1
    rwa [Option.mem_def.mp hpolicy, Option.any_some] at hany
  by_cases hreader : input.principalId ∈ policy.readerPrincipalIds
  · exact .inr hreader
  · exact .inl (by simpa [hreader] using hnot)

end

/-! ## The walks to the parents -/

section

variable {services : RealmServices} {s : RealmState}

/-- **The walk over Sessions**: it succeeds exactly on a chain of Sessions that each pass. -/
theorem sessionChainIsActive_iff (hsound : SessionsSound s.toRealmRecords) {k : String}
    {session : RealmSession} (hget : s.sessions.get? k = some session) {clock : RealmClock} :
    sessionChainIsActive services s clock session = true ↔
      Grounded s.sessions delegatingSession
        (fun distance x => sessionPasses services s (clock [distance]) x = true) 0 session := by
  refine chainHolds_iff_grounded (fun k x hx => (hsound k x hx).keyed) ?_
  rwa [(hsound k session hget).keyed]

theorem grantChainIsActive_iff (hkeyed : s.grants.SelfKeyed (·.id)) {k : String}
    {grant : RealmCapabilityGrant} (hget : s.grants.get? k = some grant) {clock : RealmClock} :
    grantChainIsActive services s clock grant = true ↔
      Grounded s.grants parentGrant
        (fun distance x => grantPasses services s (clock [distance]) x = true) 0 grant := by
  refine chainHolds_iff_grounded hkeyed ?_
  have hid : grant.id = k := hkeyed k grant hget
  rwa [hid]

theorem sessionLive_of_passes {k : String} {now : Int} {session : RealmSession}
    (hsound : SessionSound k session) (h : sessionPasses services s now session = true) :
    SessionLive services s now session := by
  simp only [sessionPasses, Bool.and_eq_true, decide_eq_true_eq, Bool.not_eq_true'] at h
  obtain ⟨⟨⟨⟨-, hstatus⟩, hexpired⟩, hepoch⟩, -⟩ := h
  exact ⟨hstatus, hexpired, hepoch, hsound.human⟩

theorem grantLive_of_passes {now : Int} {grant : RealmCapabilityGrant}
    (h : grantPasses services s now grant = true) : GrantLive services s now grant := by
  simp only [grantPasses, Bool.and_eq_true, decide_eq_true_eq, Bool.not_eq_true'] at h
  exact ⟨h.1.1, h.1.2, h.2⟩

/-- Up to a human: every Session of the chain is live. -/
theorem sessionAuthorized_of_active (hsound : SessionsSound s.toRealmRecords) {c : PolicyContext}
    {clock : RealmClock} {session : RealmSession} (hsession : chainedSession s c = some session)
    (h : sessionChainIsActive services s (clock.sub 0) session = true) :
    SessionAuthorized services s c clock := by
  have hget := (Option.filter_eq_some_iff.mp hsession).1
  refine ⟨session, hsession, ?_⟩
  refine ((sessionChainIsActive_iff hsound hget).mp h).carry (P := fun x => ∃ k, SessionSound k x)
    ⟨_, hsound _ _ hget⟩ ?_ ?_
  · rintro x y p - - hy
    exact ⟨p, hsound p y hy⟩
  · rintro distance x hpasses ⟨k, hx⟩
    exact sessionLive_of_passes hx hpasses

/-- Up to a Grant that was not derived: what a Grant covers, the Grants it was derived from
cover. -/
theorem grantAuthorized_of_active {realmId : String}
    (hledger : Ledger GrantWithin realmId s.toRealmRecords) {c : PolicyContext}
    {clock : RealmClock} {grantId taskId : String} {grant : RealmCapabilityGrant}
    (hnamed : namedGrant c = some (grantId, taskId))
    (hgrant : chainedGrant s c grantId taskId = some grant)
    (h : grantChainIsActive services s (clock.sub 2) grant = true) (hcovers : Covers c grant) :
    GrantAuthorized services s c clock := by
  have hget := (Option.filter_eq_some_iff.mp hgrant).1
  refine ⟨grantId, taskId, grant, hnamed, hgrant, ?_⟩
  refine ((grantChainIsActive_iff hledger.keyed hget).mp h).carry
    (P := fun g => Covers c g ∧ ∃ k, s.grants.get? k = some g) ⟨hcovers, _, hget⟩ ?_ ?_
  · rintro x y p ⟨hx, k, hxget⟩ hparent hy
    obtain ⟨y', hy', hwithin⟩ := hledger.parents k x p hxget hparent
    obtain rfl : y = y' := Option.some.inj (hy.symm.trans hy')
    exact ⟨hx.of_within hwithin, p, hy⟩
  · rintro distance x hpasses ⟨hx, -⟩
    exact ⟨grantLive_of_passes hpasses, hx⟩

/-! ## Soundness -/

/-- **An allowed request is authorized exactly when its approver is named**, in a state whose
derived Grants lie within their parents. -/
theorem authorized_iff_of_ledger {realmId : String}
    (hledger : Ledger GrantWithin realmId s.toRealmRecords) {input : PolicyEvaluationInput}
    {capability : Capability} {observe : Bool} {clock : RealmClock}
    (h : policyDecisionKind (policyContext s input capability)
      (policyFindings services s (policyContext s input capability) observe clock) = .allow) :
    Authorized services s (policyContext s input capability) clock ↔ ApproverNamed input := by
  obtain ⟨hhidden, hpasses⟩ := policyDecisionKind_eq_allow.mp h
  simp only [policyFindings, List.forall_mem_cons] at hpasses
  obtain ⟨hprincipal, hactor, -, -, hsession, hrole, hdeny, hspace, hspaceDeny, hmodel, hgrant,
    happroval, -⟩ := hpasses
  constructor
  · rintro hauthorized approval hmem hrequired hnone
    obtain ⟨-, approver, happrover, -⟩ := hauthorized.approval approval hmem hrequired
    rw [hnone] at happrover
    cases happrover
  · intro hnamed
    obtain ⟨session, hget, hactive⟩ := session_of_passes hsession
    obtain ⟨grantId, taskId, grant, hids, hgrantGet, hgrantActive, hcovers⟩ :=
      grant_of_passes hgrant
    refine ⟨⟨principal_of_passes hprincipal, actor_of_passes hactor⟩,
      sessionAuthorized_of_active hledger.sessions hget hactive,
      ⟨granted_of_passes hrole, notDenied_of_passes hdeny⟩, fun policy hpolicy => ?_,
      unprotected_of_passes hspace, ?_, fun approval hmem hrequired => ?_⟩
    · exact sourceSpace_of_passes visible_of_not_hidden hspace hspaceDeny hmodel hpolicy
    · exact grantAuthorized_of_active hledger hids hgrantGet hgrantActive hcovers
    · obtain ⟨happroved, hduty⟩ := approval_of_passes happroval hmem hrequired
      obtain ⟨approver, happrover⟩ :=
        Option.ne_none_iff_exists'.mp (hnamed approval hmem hrequired)
      exact ⟨happroved, approver, happrover, hduty approver happrover⟩

end

/-! ## Runs -/

section

variable {services : RealmServices} {settings : RealmSettings} {realmId : String}

/-- A call that draws new identifiers and whose derivations are confined. -/
def ConfinedCall (system : RealmSystem) (call : RealmCall) : Prop :=
  call.Fresh system ∧ ∀ operation ∈ call.operation.method?, operation.Confines system.policy

instance {system : RealmSystem} {call : RealmCall} : Decidable (ConfinedCall system call) :=
  inferInstanceAs (Decidable (_ ∧ _))

theorem statusBlind_within : StatusBlind GrantWithin :=
  statusBlind_of_authority fun _ _ =>
    ⟨fun h => ⟨h.resource, h.actions, h.deniedActions, h.sourceSpaces, h.effects,
      h.modelProviders, h.credentialClasses⟩,
    fun h => ⟨h.resource, h.actions, h.deniedActions, h.sourceSpaces, h.effects,
      h.modelProviders, h.credentialClasses⟩⟩

/-- A method whose derivations are confined derives Grants that lie within their parents. -/
theorem establishes_within {s : RealmState}
    (hledger : Ledger GrantWithin realmId s.toRealmRecords) {operation : PolicyOperation}
    {drawn : RealmDrawn} {clock : RealmClock} (h : operation.Confines s) :
    Establishes services settings GrantWithin s operation drawn clock := by
  intro mid asked now id parent hquiet hasks hid hparent hwidens hdate
  refine (within_newGrant_iff hwidens).mpr ?_
  rw [hquiet.realm]
  cases operation with
  | createCapabilityGrant input =>
    obtain ⟨rfl, rfl⟩ := hasks
    exact h id hid parent hparent
  | createOwnerTaskGrant input =>
    have hnone : asked.parentGrantId = none := hasks
    rw [hnone] at hid
    cases hid
  | delegateAgent input =>
    obtain ⟨hget, hresource, hactions, -⟩ := DelegationAsks.parent hledger hasks hid hparent
    refine ⟨hresource, fun action hmem hp => absurd hp ?_⟩
    rw [hactions] at hmem
    exact h parent hget action hmem
  | _ => exact hasks.elim

/-- **Authorization is sound** along every run whose derivations are confined, for an approval
that names its approver: an allowed request is then authorized, and otherwise it is not. -/
theorem RealmRun.authorized_iff {options : RealmIdentityPolicyOptions} {createdAt : String}
    {tr system} (h : RealmRun services settings ConfinedCall options createdAt tr system)
    {input : PolicyEvaluationInput} {drawn : RealmDrawn} {clock : RealmClock}
    {decision : PolicyDecision} {after : RealmState}
    (hdecision : evaluate services input drawn clock system.policy = (.ok decision, after))
    (hallowed : decision.allowed = true) :
    ∃ capability, (input.capability <|>
        (roleCapabilities .owner).find? (·.text = input.operation)) = some capability ∧
      (Authorized services system.policy (policyContext system.policy input capability) clock ↔
        ApproverNamed input) := by
  have hledgers := h.ledgers statusBlind_within (fun system call hcall =>
    ⟨hcall.1, fun operation hoperation hledger =>
      establishes_within hledger (hcall.2 operation hoperation)⟩) rfl
  simp only [evaluate, evaluateDecision, capabilityForOperation, Transact.bind_eq_ok,
    Transact.orThrow_eq_ok, Transact.state_eq_ok, Transact.update_eq_ok, Transact.pure_eq_ok]
    at hdecision
  obtain ⟨capability, _, ⟨hcapability, rfl⟩, _, _, ⟨rfl, rfl⟩, _, _, -, rfl, -⟩ := hdecision
  exact ⟨capability, hcapability,
    authorized_iff_of_ledger (hledgers _ (.inl rfl)) (decide_eq_true_eq.mp hallowed)⟩

end

namespace Sample

/-- A request to inspect a project, with an approval that is required and given. -/
def approved (approverActorId : Option String) : PolicyEvaluationInput where
  operation := "project.inspect"
  principalId := "principal:1"
  actorId := "actor:3"
  clientId := "client:anyam-web"
  sessionId := "session:3"
  taskId := some "task:4"
  grantId := some "grant:7"
  resource := project "project:1"
  approval := some {
    required := true
    approved := true
    approverActorId
    authorActorId := some "actor:3" }

def evaluated (approverActorId : Option String) : Except RealmFailure PolicyDecision × RealmState :=
  evaluate services (approved approverActorId) { uuid := fun _ => "8", token := "8" } (fun _ => 0)
    (after narrowing).policy

/-- An evaluation that allowed returned a decision. -/
theorem allowed_of_evaluated {approverActorId : Option String}
    (h : (evaluated approverActorId).1.toOption.any (·.allowed) = true) :
    ∃ decision s', evaluated approverActorId = (.ok decision, s') ∧ decision.allowed = true := by
  rcases hevaluated : evaluated approverActorId with ⟨failure | decision, s'⟩
  · rw [hevaluated] at h
    cases h
  · rw [hevaluated] at h
    exact ⟨decision, s', rfl, h⟩

theorem confined_run : RealmRun services settings ConfinedCall options "1970-01-01T00:00:00.000Z"
    (exec (realmStep services settings) initial narrowing).1 (after narrowing) :=
  run_exec (by decide +kernel)

end Sample

/-- A request whose approver is named is authorized. -/
theorem RealmRun.authorized_iff_sample :
    ∃ decision s', Sample.evaluated (some "actor:9") = (.ok decision, s') ∧
      decision.allowed = true ∧ ∃ capability,
        Authorized Sample.services (Sample.after Sample.narrowing).policy
          (policyContext (Sample.after Sample.narrowing).policy (Sample.approved (some "actor:9"))
            capability) (fun _ => 0) := by
  obtain ⟨decision, s', hevaluated, hallowed⟩ :=
    @Sample.allowed_of_evaluated (some "actor:9") (by decide +kernel)
  obtain ⟨capability, -, hiff⟩ :=
    RealmRun.authorized_iff Sample.confined_run hevaluated hallowed
  refine ⟨decision, s', hevaluated, hallowed, capability, hiff.mpr ?_⟩
  rintro approval happroval - hnone
  cases happroval
  cases hnone

/-- **An approval that nobody is named to have given**: the request that requires it is
allowed. -/
theorem unnamed_approval_allows :
    ∃ tr system decision s', RealmRun Sample.services Sample.settings ConfinedCall Sample.options
        "1970-01-01T00:00:00.000Z" tr system ∧
      evaluate Sample.services (Sample.approved none) { uuid := fun _ => "8", token := "8" }
        (fun _ => 0) system.policy = (.ok decision, s') ∧ decision.allowed = true ∧
      ∀ capability, ¬ Authorized Sample.services system.policy
        (policyContext system.policy (Sample.approved none) capability) (fun _ => 0) := by
  obtain ⟨decision, s', hevaluated, hallowed⟩ :=
    @Sample.allowed_of_evaluated none (by decide +kernel)
  refine ⟨_, _, decision, s', Sample.confined_run, hevaluated, hallowed, fun capability h => ?_⟩
  obtain ⟨-, approver, hnamed, -⟩ := h.approval _ rfl rfl
  cases hnamed

end Anyam.Identity
