import Anyam.Identity.RealmRevocation

/-!
# Policy evaluation

`evaluate`, `evaluateReadOnly` and `authorize` of `RealmIdentityPolicy`. A decision is gathered
from parts that look at one subject each: a part adds its factors, and may deny the request or
leave it undecided. A `PolicyFinding` is what a part adds.

- `policyFindings`: the parts, in the order the source takes them.
- `evaluateDecision`: the decision and its explanation. An observing evaluation marks a Session
  and a Grant whose time is over.
-/

namespace Anyam.Identity

open Anyam.Lib Anyam.Kernel RealmM

/-- What a part of an evaluation adds. -/
structure PolicyFinding where
  factors : List PolicyFactor := []
  denied : Bool := false
  unknown : Bool := false
  satisfiedCapabilities : List Capability := []
  missingCapabilities : List Capability := []
deriving DecidableEq, Repr

namespace PolicyFinding

def nothing : PolicyFinding := {}

def satisfied (factor : PolicyFactor) : PolicyFinding := { factors := [factor] }

def denies (factor : PolicyFactor) : PolicyFinding := { factors := [factor], denied := true }

def unsettled (factor : PolicyFactor) : PolicyFinding := { factors := [factor], unknown := true }

end PolicyFinding

open PolicyFinding

/-- What every part of an evaluation reads of the request. -/
structure PolicyContext where
  input : PolicyEvaluationInput
  capability : Capability
  requestedSourceSpaceId : Option String
  sourcePolicy : Option SourceSpacePolicy
  hidden : Bool

def policyContext (s : RealmState) (input : PolicyEvaluationInput) (capability : Capability) :
    PolicyContext :=
  let requestedSourceSpaceId := input.sourceSpaceId <|> input.resource.sourceSpaceId
  let sourcePolicy := (truthy requestedSourceSpaceId).bind s.sourceSpacePolicies.get?
  { input, capability, requestedSourceSpaceId, sourcePolicy
    hidden := sourcePolicy.any (fun policy =>
      !policy.discoverable && input.principalId ∉ policy.readerPrincipalIds) ||
        input.discoverable = some false }

/-- A factor whose detail is told only of what is not hidden. -/
def PolicyContext.factor (c : PolicyContext) (name : String) (status : FactorStatus)
    (detail : String) : PolicyFactor :=
  ⟨name, status, if c.hidden then none else some detail⟩

def capabilityForOperation (operation : String) (capability : Option Capability) :
    RealmM Capability :=
  orThrow (capability <|> (roleCapabilities .owner).find? (·.text = operation)) {
    code := "policy.capability_missing"
    message := s!"Operation {operation} must declare a semantic capability before policy evaluation."
    recoveryAction := "map the operation to a stable Anyam capability and retry"
    receipt := "capability mapping required" }

section

variable (services : RealmServices) (s : RealmState) (c : PolicyContext)

/-! ## The parts of a decision -/

def principalFinding : PolicyFinding :=
  let principal := s.principals.get? c.input.principalId
  if principal.any (fun principal => principal.realmId = s.realm.id && principal.status = .active) then
    satisfied ⟨"principal", .satisfied, none⟩
  else denies (c.factor "principal" (if principal.isSome then .denied else .unknown)
    "principal is not active in this Realm")

/-- What an evaluation asks of the Actor. -/
def actorPasses (actor : RealmActor) : Bool :=
  actor.status = .active && actor.principalId = c.input.principalId &&
    actor.realmId = s.realm.id && (actor.kind ≠ .agent || agentIsActive s actor.agentId)

def actorFinding : PolicyFinding :=
  if (s.actors.get? c.input.actorId).any (actorPasses s c) then
    satisfied ⟨"actor-chain", .satisfied, none⟩
  else denies (c.factor "actor-chain" .denied "Actor does not belong to the Principal")

def clientFinding : PolicyFinding :=
  match (s.clients.get? c.input.clientId).filter fun client =>
      client.status = .active ∧ client.realmId = s.realm.id with
  | none => unsettled (c.factor "client" .unknown "client is not active")
  | some client =>
    if client.allowedOperations ≠ [] ∧ c.input.operation ∉ client.allowedOperations ∧
        c.capability.text ∉ client.allowedOperations then
      denies (c.factor "client-consent" .denied "client did not consent to this operation")
    else satisfied ⟨"client-consent", .satisfied, none⟩

def clientAudienceFinding : PolicyFinding :=
  match c.input.requiredCredentialClass with
  | none => nothing
  | some required =>
    if (s.clients.get? c.input.clientId).any (required ∈ ·.allowedAudiences) then
      satisfied ⟨"client-audience", .satisfied, none⟩
    else denies (c.factor "client-audience" .denied
      s!"client is not registered for the {required.text} audience")

/-- The Session of the request's Principal, Actor and Client. -/
def chainedSession : Option RealmSession :=
  (s.sessions.get? c.input.sessionId).filter fun session =>
    session.principalId = c.input.principalId ∧ session.actorId = c.input.actorId ∧
      session.clientId = c.input.clientId

def sessionFinding (observe : Bool) (clock : RealmClock) : PolicyFinding :=
  match chainedSession s c with
  | none => unsettled (c.factor "session-chain" .unknown "session does not match the request chain")
  | some session =>
    if ¬ sessionChainIsActive services s (clock.sub 0) session then
      let seen := if observe then markExpiredSession services (clock [1]) session else session
      denies (c.factor "session" .denied (if seen.status = .active then
        "the delegated Session chain is inactive" else s!"session is {seen.status.text}"))
    else if c.input.requiredAuthStrength = some .passkey ∧ session.strength ≠ .passkey then
      denies (c.factor "authentication-strength" .denied "recent passkey authentication is required")
    else satisfied ⟨"session", .satisfied, none⟩

def roleFinding : PolicyFinding :=
  let bindings := s.bindings c.input.principalId c.input.resource
  if bindings.any (c.capability ∈ roleCapabilities ·.role) then
    { satisfied (c.factor "role-and-relationships" .satisfied s!"bindings={bindings.length}") with
      satisfiedCapabilities := [c.capability] }
  else
    { denies (c.factor "role-and-relationships" .missing
        "no matching role or relationship grants this capability") with
      missingCapabilities := [c.capability] }

def relationshipDenyFinding : PolicyFinding :=
  if (s.bindings c.input.principalId c.input.resource).any (c.capability ∈ ·.deniedCapabilities) then
    denies (c.factor "relationship-deny" .denied "an explicit relationship deny applies")
  else nothing

/-- A Source Space policy must exist for a Source Space and for the two source capabilities. -/
def sourcePolicyRequired : Bool :=
  c.requestedSourceSpaceId.isSome || c.capability = .sourceRead || c.capability = .sourcePropose

def sourceSpaceFinding : PolicyFinding :=
  match c.sourcePolicy with
  | none =>
    if sourcePolicyRequired c ∧ c.input.protected ≠ some false then
      unsettled (c.factor "source-space-policy" .unknown "Source Space policy is unavailable")
    else if sourcePolicyRequired c then satisfied ⟨"source-space-policy", .satisfied, none⟩
    else satisfied ⟨"source-space-policy", .satisfied, some "not applicable to this resource"⟩
  | some policy =>
    if c.hidden then unsettled ⟨"source-space-policy", .unknown, none⟩
    else if policy.policyVersion ≠ s.realm.policyVersion then
      unsettled (c.factor "source-space-policy" .unknown
        "Source Space policy is stale for the active Realm policy version")
    else if policy.readerPrincipalIds ≠ [] ∧ c.input.principalId ∉ policy.readerPrincipalIds then
      denies ⟨"source-space-readers", .denied,
        some "Principal is not in the Source Space reader set"⟩
    else if c.capability ∉ policy.allowedCapabilities then
      denies ⟨"source-space-policy", .denied,
        some "Source Space policy does not allow this capability"⟩
    else satisfied ⟨"source-space-policy", .satisfied, none⟩

def sourceSpaceDenyFinding : PolicyFinding :=
  if c.sourcePolicy.any (c.capability ∈ ·.deniedCapabilities) then
    denies (c.factor "source-space-deny" .denied
      "Source Space policy explicitly denies this capability")
  else nothing

/-- A named model provider outside a list that is not empty. -/
def modelDenied (modelProvider : Option String) (allowed : List String) : Bool :=
  (truthy modelProvider).any fun provider => allowed ≠ [] && provider ∉ allowed

def modelProviderFinding : PolicyFinding :=
  if c.sourcePolicy.any fun policy =>
      modelDenied c.input.modelProvider policy.allowedModelProviders then
    denies (c.factor "model-provider" .denied
      "model provider is outside the Source Space trust zone")
  else nothing

/-- The Grant of the request's whole chain. -/
def chainedGrant (grantId taskId : String) : Option RealmCapabilityGrant :=
  (s.grants.get? grantId).filter fun grant =>
    (s.tasks.get? taskId).isSome ∧ grant.taskId = taskId ∧ grant.sessionId = c.input.sessionId ∧
      grant.principalId = c.input.principalId ∧ grant.actorId = c.input.actorId ∧
      grant.clientId = c.input.clientId

/-- What a Grant itself is asked for. -/
def grantScopeFinding (grant : RealmCapabilityGrant) : PolicyFinding :=
  if ¬ resourceMatches grant.resource c.input.resource then
    denies (c.factor "grant-resource" .denied "Capability Grant is scoped to another resource")
  else if c.capability ∉ grant.actions then
    { denies (c.factor "grant-capability" .missing
        "Capability Grant does not include the requested capability") with
      missingCapabilities := [c.capability] }
  else if c.capability ∈ grant.deniedActions then
    denies (c.factor "grant-deny" .denied
      "Capability Grant explicitly denies the requested capability")
  else if (truthy c.requestedSourceSpaceId).any (· ∉ grant.sourceSpaceIds) then
    denies (c.factor "grant-source-space" .denied
      "Capability Grant does not include this Source Space")
  else if (truthy c.input.effect).any (· ∉ grant.effects) then
    denies (c.factor "grant-effect" .missing
      "Capability Grant does not include the requested effect")
  else if modelDenied c.input.modelProvider grant.allowedModelProviders then
    denies (c.factor "grant-model-provider" .denied
      "Capability Grant does not permit this model provider")
  else if c.input.requiredCredentialClass.any (· ∉ grant.allowedCredentialClasses) then
    denies (c.factor "grant-audience" .denied
      "Capability Grant does not permit this credential class")
  else satisfied ⟨"task-grant", .satisfied, none⟩

/-- The Grant and the Task the request names, when it names both. -/
def namedGrant : Option (String × String) := do
  return (← truthy c.input.grantId, ← truthy c.input.taskId)

def grantFinding (clock : RealmClock) : PolicyFinding :=
  match namedGrant c with
  | none => denies (c.factor "task-grant" .missing
      "protected operations require a task-scoped Capability Grant")
  | some (grantId, taskId) =>
    match chainedGrant s c grantId taskId with
    | none => unsettled (c.factor "task-grant" .unknown
        "Capability Grant and Task chain do not match")
    | some grant =>
      if ¬ grantChainIsActive services s (clock.sub 2) grant then
        denies (c.factor "task-grant" .denied "Capability Grant is expired, revoked, or stale")
      else grantScopeFinding c grant

def approvalFinding : PolicyFinding :=
  match c.input.approval with
  | none => nothing
  | some approval =>
    if ¬ approval.required then nothing
    else if (truthy approval.approverActorId).any fun approver =>
        some approver = approval.authorActorId || some approver = approval.verifierActorId then
      denies (c.factor "separation-of-duty" .denied
        "author and verifier cannot approve this operation")
    else if approval.approved then satisfied ⟨"approval", .satisfied, none⟩
    else denies (c.factor "approval" .missing "an independent approval is required")

def promotionFinding : PolicyFinding :=
  if c.input.authorityClass = some .promotion ∧ truthy c.input.promotionId = none then
    denies (c.factor "promotion-authority" .missing
      "Promotion authority requires a Promotion identity")
  else nothing

/-- The parts of a decision, in their order. -/
def policyFindings (observe : Bool) (clock : RealmClock) : List PolicyFinding :=
  [principalFinding s c, actorFinding s c, clientFinding s c, clientAudienceFinding s c,
    sessionFinding services s c observe clock, roleFinding s c, relationshipDenyFinding s c,
    sourceSpaceFinding s c, sourceSpaceDenyFinding c, modelProviderFinding c,
    grantFinding services s c clock, approvalFinding c, promotionFinding c]

/-! ## The decision -/

def policyDecisionKind (findings : List PolicyFinding) : PolicyDecisionKind :=
  if c.hidden ∨ findings.any (·.denied) then .deny
  else if findings.any (·.unknown) then .indeterminate
  else .allow

def policyCode (decision : PolicyDecisionKind) : PolicyCode :=
  if c.hidden then .notFound
  else match decision with
    | .allow => .allowed
    | .indeterminate => .indeterminate
    | .deny => .forbidden

def policyRemediation (decision : PolicyDecisionKind) : String :=
  if c.hidden then
    "request the resource through an owner-approved Source Space or Project View; hidden resources are not disclosed"
  else if decision = .allow then "none"
  else
    "request the missing capability or approval from the Realm owner, then re-evaluate against the current policy and grant epoch"

def policyDecision (findings : List PolicyFinding) (id recheckAt : String) : PolicyDecision :=
  let decision := policyDecisionKind c findings
  { allowed := decision = .allow
    explanation := {
      id, decision, recheckAt
      code := policyCode c decision
      operation := c.input.operation
      resource := if c.hidden then none else some c.input.resource
      policyVersion := s.realm.policyVersion
      authorizationEpoch := s.realm.authorizationEpoch
      satisfiedCapabilities := findings.flatMap (·.satisfiedCapabilities)
      missingCapabilities := (findings.flatMap (·.missingCapabilities)).dedup
      factors := findings.flatMap (·.factors)
      remediation := policyRemediation c decision
      safeProjection := !c.hidden } }

/-- What an observing evaluation writes: a Session and a Grant whose chain is not active are
marked when their own time is over. -/
def observed (clock : RealmClock) : RealmState :=
  let sessions := match chainedSession s c with
    | none => s.sessions
    | some session =>
      if sessionChainIsActive services s (clock.sub 0) session then s.sessions
      else s.sessions.set c.input.sessionId (markExpiredSession services (clock [1]) session)
  let grants := match namedGrant c with
    | none => s.grants
    | some (grantId, taskId) => match chainedGrant s c grantId taskId with
      | none => s.grants
      | some grant =>
        if ¬ grantChainIsActive services s (clock.sub 2) grant ∧ grant.status = .active ∧
            services.expired grant.expiresAt (clock [3]) then
          s.grants.set grantId { grant with status := .expired }
        else s.grants
  { s with sessions, grants }

end

section

variable (services : RealmServices)

def evaluateDecision (input : PolicyEvaluationInput) (observe : Bool) (drawn : RealmDrawn)
    (clock : RealmClock) : RealmM PolicyDecision := do
  let capability ← capabilityForOperation input.operation input.capability
  let s ← state
  let c := policyContext s input capability
  update fun s => if observe then observed services s c clock else s
  return policyDecision s c (policyFindings services s c observe clock)
    (drawn.opaqueId "policy-decision") (services.toISOString (clock [4]))

def evaluateReadOnly (input : PolicyEvaluationInput) (drawn : RealmDrawn) (clock : RealmClock) :
    RealmM PolicyDecision :=
  evaluateDecision services input false drawn clock

def evaluate (input : PolicyEvaluationInput) (drawn : RealmDrawn) (clock : RealmClock) :
    RealmM PolicyDecision :=
  evaluateDecision services input true drawn clock

def authorize (input : PolicyEvaluationInput) (drawn : RealmDrawn) (clock : RealmClock) :
    RealmM PolicyExplanation := do
  let result ← evaluate services input drawn clock
  let explanation := result.explanation
  let name := (input.capability.map (·.text)).getD input.operation
  require (result.allowed = true) {
    code := explanation.code.text
    message := if explanation.code = .notFound then
        "The requested resource is not available in this Realm."
      else s!"Capability {name} is {explanation.decision.text} for this request."
    explanation := some explanation
    recoveryAction := explanation.remediation
    receipt := s!"policy={explanation.policyVersion}; epoch={explanation.authorizationEpoch}; decision={explanation.decision.text}" }
  return explanation

end

end Anyam.Identity
