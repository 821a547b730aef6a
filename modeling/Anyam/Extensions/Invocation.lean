import Anyam.Extensions.RegistryRuns
import Anyam.Identity.RealmSystem

/-!
# The authority of an invocation

An invocation that is allowed, or goes on as a proposal, should hold what the manifest declares,
what the installation was granted, and what the policy allows now. `Intersects` is that; the policy
is asked one capability at a time, and hears of an effect only together with the capability that has
its name.

- `invoke_ok`: what an invocation that was not blocked went through.
- `authorizeInvocation_ok`: what it asked of the policy.
- `EffectsNamed`: every requested effect goes along with a requested capability.
- **`invoke_intersects_iff`**: the authority of an invocation is the intersection exactly when they
  all do.
-/

namespace Anyam.Extensions

open Anyam.Lib Anyam.Kernel Anyam.Identity
open Transact

section

variable (services : RealmServices)

/-- An answer that the policy gave, in some state of the Realm. -/
def Answered (evaluation : PolicyEvaluation) : Prop :=
  ∃ drawn clock realm,
    (evaluate services evaluation.input drawn clock realm).1 = .ok evaluation.decision

/-- What the registry asked of the policy between two states. -/
def during (w w' : ExtensionWorld) : List PolicyEvaluation :=
  w'.evaluations.drop w.evaluations.length

/-- A question about a resource, for an authorization. -/
structure AskedFor (authorization : ExtensionAuthorization) (resource : ResourceRef)
    (input : PolicyEvaluationInput) : Prop where
  principalId : input.principalId = authorization.principalId
  actorId : input.actorId = authorization.actorId
  clientId : input.clientId = authorization.clientId
  sessionId : input.sessionId = authorization.sessionId
  taskId : input.taskId = some authorization.taskId
  grantId : input.grantId = some authorization.grantId
  resource : input.resource = resource

/-- During a call the policy allowed something of a kind, on the resource of an invocation and for
its authorization. -/
def AllowedDuring (w w' : ExtensionWorld) (input : InvokeExtensionInput)
    (names : PolicyEvaluationInput → Prop) : Prop :=
  ∃ evaluation ∈ during w w', Answered services evaluation ∧ evaluation.decision.allowed = true ∧
    AskedFor input.authorization input.resource evaluation.input ∧ names evaluation.input

/-- **The intersection**: what an invocation between two states holds of its installation, of the
manifest, and of the policy. -/
structure Intersects (w w' : ExtensionWorld) (input : InvokeExtensionInput)
    (installation : ExtensionInstallation) (manifest : ExtensionManifest) : Prop where
  installed : w.installations.get? input.installationId = some installation
  pinned : Pinned w.manifests installation manifest
  enabled : installation.lifecycle = .enabled
  inScope : scopeContains installation.scope input.resource = true
  effects : ∀ effect ∈ input.requestedEffects,
    effect ∈ installation.grantedEffects ∧ effect ∈ manifest.requestedEffects
  capabilities : ∀ capability ∈ input.requestedCapabilities,
    capability.text ∈ installation.grantedCapabilities ∧
      capability.text ∈ manifest.requestedCapabilities
  capabilitiesAllowed : ∀ capability ∈ input.requestedCapabilities,
    AllowedDuring services w w' input (·.capability = some capability)
  effectsAllowed : ∀ effect ∈ input.requestedEffects,
    AllowedDuring services w w' input (·.effect = some effect)

end

/-- Every effect is, for some capability, the first that matches its name. -/
def EffectsNamed (effects : List String) (capabilities : List Capability) : Prop :=
  ∀ effect ∈ effects, ∃ capability ∈ capabilities, effectOf effects capability = some effect

instance {effects : List String} {capabilities : List Capability} :
    Decidable (EffectsNamed effects capabilities) :=
  inferInstanceAs (Decidable (∀ effect ∈ effects, ∃ capability ∈ capabilities,
    effectOf effects capability = some effect))

/-! ## What the policy is asked -/

section

variable {services : RealmServices} {drawn : ExtensionDrawn} {clock : RealmClock}
  {w w' : ExtensionWorld}

theorem evaluatePolicy_ok {input : PolicyEvaluationInput} {realmDrawn : RealmDrawn}
    {decision : PolicyDecision}
    (h : evaluatePolicy services input realmDrawn clock w = (.ok decision, w')) :
    w'.evaluations = w.evaluations ++ [⟨input, decision⟩] ∧
      Answered services ⟨input, decision⟩ := by
  unfold evaluatePolicy at h
  split at h
  · rename_i found realm hfound
    cases h
    exact ⟨rfl, realmDrawn, clock, w.realm, by rw [hfound]⟩
  · cases h

theorem authorize_ok {authorization : ExtensionAuthorization} {input : AuthorizedOperation}
    {i : Nat} {explanation : PolicyExplanation}
    (h : authorize services authorization input drawn clock i w = (.ok explanation, w')) :
    ∃ decision, w'.evaluations = w.evaluations ++ [⟨asPolicyInput authorization input, decision⟩] ∧
      Answered services ⟨asPolicyInput authorization input, decision⟩ ∧
      decision.allowed = true := by
  obtain ⟨decision, mid, hevaluated, hrest⟩ := Transact.bind_eq_ok.mp h
  obtain ⟨_, mid', hrequired, hreturned⟩ := Transact.bind_eq_ok.mp hrest
  obtain ⟨hallowed, rfl⟩ := Transact.require_eq_ok.mp hrequired
  obtain ⟨-, rfl⟩ := Transact.pure_eq_ok.mp hreturned
  obtain ⟨hevaluations, hanswered⟩ := evaluatePolicy_ok hevaluated
  exact ⟨decision, hevaluations, hanswered, hallowed⟩

/-- What an invocation asks for a capability, as the policy reads it. -/
def invocationInput (input : InvokeExtensionInput) (capability : Capability) :
    PolicyEvaluationInput :=
  asPolicyInput input.authorization (invocationOperation input capability)

/-- **The questions of an invocation** that no answer refused: one for each capability, in order. -/
theorem authorizeInvocation_ok {input : InvokeExtensionInput} {capabilities : List Capability}
    {i : Nat} {explanations : List PolicyExplanation}
    (h : authorizeInvocation services input drawn clock capabilities i w =
      (.ok (explanations, none), w')) :
    ∃ asked : List PolicyEvaluation, w'.evaluations = w.evaluations ++ asked ∧
      asked.map (·.input) = capabilities.map (invocationInput input) ∧
      ∀ evaluation ∈ asked, Answered services evaluation ∧ evaluation.decision.allowed = true := by
  induction capabilities generalizing i explanations w with
  | nil =>
    obtain ⟨-, rfl⟩ := Transact.pure_eq_ok.mp h
    exact ⟨[], (List.append_nil _).symm, rfl, fun _ hmem => nomatch hmem⟩
  | cons capability rest ih =>
    obtain ⟨answer, mid, hanswer, hrest⟩ := Transact.bind_eq_ok.mp h
    cases answer with
    | error thrown =>
      obtain ⟨hrefused, -⟩ := Transact.pure_eq_ok.mp hrest
      cases hrefused
    | ok explanation =>
      obtain ⟨⟨later, refusal⟩, mid', hlater, hreturned⟩ := Transact.bind_eq_ok.mp hrest
      obtain ⟨hpair, rfl⟩ := Transact.pure_eq_ok.mp hreturned
      cases hpair
      obtain ⟨decision, hfirst, hanswered, hallowed⟩ :=
        authorize_ok (Transact.attempt_eq_ok.mp hanswer)
      obtain ⟨asked, hevaluations, hinputs, hall⟩ := ih hlater
      refine ⟨⟨invocationInput input capability, decision⟩ :: asked, ?_, ?_, ?_⟩
      · rw [hevaluations, hfirst, List.append_assoc]
        rfl
      · rw [List.map_cons, List.map_cons, hinputs]
      · intro evaluation hmem
        rcases List.mem_cons.mp hmem with rfl | hmem
        · exact ⟨hanswered, hallowed⟩
        · exact hall evaluation hmem

theorem ungranted_eq_nil {requested granted declared : List String} :
    ungranted requested granted declared = [] ↔
      ∀ value ∈ requested, value ∈ granted ∧ value ∈ declared := by
  simp [ungranted, List.filter_eq_nil_iff]

/-- The checks of an invocation that was not blocked. -/
structure Checked (w : ExtensionWorld) (input : InvokeExtensionInput)
    (installation : ExtensionInstallation) (manifest : ExtensionManifest) : Prop where
  installed : w.installations.get? input.installationId = some installation
  found : getManifest w installation.manifestId (some installation.manifestVersion)
    (some installation.manifestDigest) = some manifest
  named : ∀ effect ∈ input.requestedEffects, effect ≠ ""
  inScope : scopeContains installation.scope input.resource = true
  enabled : installation.lifecycle = .enabled
  effects : ungranted input.requestedEffects installation.grantedEffects
    manifest.requestedEffects = []
  capabilities : ungranted (input.requestedCapabilities.map (·.text))
    installation.grantedCapabilities manifest.requestedCapabilities = []

theorem requireManifest_ok {id version digest : String} {manifest : ExtensionManifest}
    (h : requireManifest id version digest w = (.ok manifest, w')) :
    w' = w ∧ getManifest w id (some version) (some digest) = some manifest := by
  obtain ⟨found, mid, hfound, hthrow⟩ := Transact.bind_eq_ok.mp h
  obtain ⟨rfl, rfl⟩ := Transact.state_eq_ok.mp hfound
  obtain ⟨hget, rfl⟩ := Transact.orThrow_eq_ok.mp hthrow
  exact ⟨rfl, hget⟩

theorem evaluations_event {entry : ExtensionEvent} {u : Unit}
    (h : event entry w = (.ok u, w')) : w'.evaluations = w.evaluations := by
  simp only [event, ExtensionM.update, Transact.update_eq_ok] at h
  rw [← h]

theorem blockedInvocation_status {input : InvokeExtensionInput}
    {installation : ExtensionInstallation} {code : ExtensionErrorCode} {nextAction : String}
    {explanations : List PolicyExplanation} {result : ExtensionInvocationResult}
    (h : blockedInvocation input installation code nextAction explanations w = (.ok result, w')) :
    result.status = .blocked := by
  obtain ⟨_, mid, -, hreturned⟩ := Transact.bind_eq_ok.mp h
  obtain ⟨rfl, -⟩ := Transact.pure_eq_ok.mp hreturned
  rfl

/-- **What an invocation went through** that was not blocked. -/
theorem invoke_ok {input : InvokeExtensionInput} {result : ExtensionInvocationResult}
    (h : invoke services input drawn clock w = (.ok result, w'))
    (hstatus : result.status ≠ .blocked) :
    ∃ installation manifest explanations mid, Checked w input installation manifest ∧
      authorizeInvocation services input drawn clock input.requestedCapabilities 0 w =
        (.ok (explanations, none), mid) ∧ w'.evaluations = mid.evaluations := by
  obtain ⟨installation, w₁, hinstallation, hlookup⟩ := Transact.bind_eq_ok.mp h
  obtain ⟨rfl, hinstalled⟩ := requireInstallation_ok hinstallation
  obtain ⟨manifest, w₂, hmanifest, hlists⟩ := Transact.bind_eq_ok.mp hlookup
  obtain ⟨rfl, hfound⟩ := requireManifest_ok hmanifest
  obtain ⟨effects, w₃, heffects, hlist⟩ := Transact.bind_eq_ok.mp hlists
  obtain ⟨rfl, rfl, hnamed⟩ := unique_ok heffects
  obtain ⟨capabilities, w₄, hcapabilities, hchecks⟩ := Transact.bind_eq_ok.mp hlist
  obtain ⟨rfl, rfl, -⟩ := unique_ok hcapabilities
  by_cases hscope : scopeContains installation.scope input.resource = true
  swap
  · rw [if_pos hscope] at hchecks
    exact absurd (blockedInvocation_status hchecks) hstatus
  rw [if_neg (not_not.mpr hscope)] at hchecks
  by_cases henabled : installation.lifecycle = .enabled
  swap
  · rw [if_pos henabled] at hchecks
    exact absurd (blockedInvocation_status hchecks) hstatus
  rw [if_neg (not_not.mpr henabled)] at hchecks
  split at hchecks
  · exact absurd (blockedInvocation_status hchecks) hstatus
  by_cases hmissing : ungranted input.requestedEffects installation.grantedEffects
        manifest.requestedEffects ≠ [] ∨
      ungranted (input.requestedCapabilities.map (·.text)) installation.grantedCapabilities
        manifest.requestedCapabilities ≠ []
  · rw [if_pos hmissing] at hchecks
    exact absurd (blockedInvocation_status hchecks) hstatus
  rw [if_neg hmissing] at hchecks
  rw [not_or, not_not, not_not] at hmissing
  obtain ⟨⟨explanations, refusal⟩, mid, hasked, hended⟩ := Transact.bind_eq_ok.mp hchecks
  cases refusal with
  | some message => exact absurd (blockedInvocation_status hended) hstatus
  | none =>
    refine ⟨installation, manifest, explanations, mid,
      ⟨hinstalled, hfound, hnamed, hscope, henabled, hmissing.1, hmissing.2⟩, hasked, ?_⟩
    obtain ⟨found, mid', hstate, hrecorded⟩ := Transact.bind_eq_ok.mp hended
    obtain ⟨-, rfl⟩ := Transact.state_eq_ok.mp hstate
    obtain ⟨_, mid'', hevent, hreturned⟩ := Transact.bind_eq_ok.mp hrecorded
    obtain ⟨-, rfl⟩ := Transact.pure_eq_ok.mp hreturned
    exact evaluations_event hevent

/-! ## The intersection -/

theorem askedFor_invocationInput {input : InvokeExtensionInput} {capability : Capability} :
    AskedFor input.authorization input.resource (invocationInput input capability) :=
  ⟨rfl, rfl, rfl, rfl, rfl, rfl, rfl⟩

/-- What the policy allowed during an invocation is what goes along with its capabilities. -/
theorem allowedDuring_iff {input : InvokeExtensionInput} {asked : List PolicyEvaluation}
    {names : PolicyEvaluationInput → Prop} (hduring : during w w' = asked)
    (hinputs : asked.map (·.input) = input.requestedCapabilities.map (invocationInput input))
    (hall : ∀ evaluation ∈ asked,
      Answered services evaluation ∧ evaluation.decision.allowed = true) :
    AllowedDuring services w w' input names ↔
      ∃ capability ∈ input.requestedCapabilities, names (invocationInput input capability) := by
  rw [AllowedDuring, hduring]
  constructor
  · rintro ⟨evaluation, hmem, -, -, -, hnames⟩
    have hinput : evaluation.input ∈ asked.map (·.input) := List.mem_map_of_mem hmem
    rw [hinputs] at hinput
    obtain ⟨capability, hcapability, heq⟩ := List.mem_map.mp hinput
    exact ⟨capability, hcapability, heq ▸ hnames⟩
  · rintro ⟨capability, hcapability, hnames⟩
    have hinput : invocationInput input capability ∈ asked.map (·.input) := by
      rw [hinputs]
      exact List.mem_map_of_mem hcapability
    obtain ⟨evaluation, hmem, heq⟩ := List.mem_map.mp hinput
    obtain ⟨hanswered, hallowed⟩ := hall evaluation hmem
    have heq : evaluation.input = invocationInput input capability := heq
    exact ⟨evaluation, hmem, hanswered, hallowed, heq ▸ askedFor_invocationInput, heq ▸ hnames⟩

theorem effect_invocationInput {input : InvokeExtensionInput} {capability : Capability}
    {effect : String} (hnamed : effect ≠ "") :
    (invocationInput input capability).effect = some effect ↔
      effectOf input.requestedEffects capability = some effect := by
  show truthy (effectOf input.requestedEffects capability) = some effect ↔ _
  rw [truthy_eq_some, and_iff_left hnamed]

variable {kernelCompatibility : List String} {realm : RealmState}
  {tr : List (Transition ExtensionWorld ExtensionCall (Except ExtensionFailure Unit))}

/-- **When an invocation has the intersection for its authority**: exactly when every effect it
requests goes along with a requested capability. All else holds of every invocation. -/
theorem invoke_intersects_iff (hrun : RegistryRun services kernelCompatibility realm tr w)
    {input : InvokeExtensionInput} {result : ExtensionInvocationResult}
    (hinvoke : invoke services input drawn clock w = (.ok result, w'))
    (hstatus : result.status = .allowed ∨ result.status = .proposal) :
    (∃ installation manifest, Intersects services w w' input installation manifest) ↔
      EffectsNamed input.requestedEffects input.requestedCapabilities := by
  have hunblocked : result.status ≠ .blocked := by
    rcases hstatus with h | h <;> rw [h] <;> decide
  obtain ⟨installation, manifest, explanations, mid, hchecked, hasked, hlog⟩ :=
    invoke_ok hinvoke hunblocked
  obtain ⟨asked, hevaluations, hinputs, hall⟩ := authorizeInvocation_ok hasked
  have hduring : during w w' = asked := by
    rw [during, hlog, hevaluations, List.drop_left]
  constructor
  · rintro ⟨_, _, hintersects⟩ effect heffect
    obtain ⟨capability, hcapability, hnames⟩ :=
      (allowedDuring_iff hduring hinputs hall).mp (hintersects.effectsAllowed effect heffect)
    refine ⟨capability, hcapability, ?_⟩
    exact (effect_invocationInput (hchecked.named effect heffect)).mp hnames
  · intro hnamed
    -- the installation is pinned to the manifest that was looked up
    obtain ⟨declaring, hdeclaring, -⟩ :=
      hrun.sound.installations input.installationId installation hchecked.installed
    have hsound := hrun.sound.manifests declaring hdeclaring.registered
    have hpinned : Pinned w.manifests installation manifest :=
      pinned_of_getManifest (hdeclaring.version ▸ hsound.version)
        (hdeclaring.digest ▸ hsound.digest) hchecked.found
    refine ⟨installation, manifest, {
      installed := hchecked.installed
      pinned := hpinned
      enabled := hchecked.enabled
      inScope := hchecked.inScope
      effects := ungranted_eq_nil.mp hchecked.effects
      capabilities := fun capability hcapability =>
        ungranted_eq_nil.mp hchecked.capabilities _ (List.mem_map_of_mem hcapability)
      capabilitiesAllowed := fun capability hcapability =>
        (allowedDuring_iff hduring hinputs hall).mpr ⟨capability, hcapability, rfl⟩
      effectsAllowed := fun effect heffect => ?_ }⟩
    obtain ⟨capability, hcapability, hof⟩ := hnamed effect heffect
    refine (allowedDuring_iff hduring hinputs hall).mpr ⟨capability, hcapability, ?_⟩
    exact (effect_invocationInput (hchecked.named effect heffect)).mpr hof

end

/-! ## A concrete registry -/

namespace Sample

/-- A Realm whose owner has a Grant for installing extensions and for running. -/
def policy : RealmState :=
  (Identity.Sample.after (Identity.Sample.session ++ [Identity.Sample.call "6"
    (.createCapabilityGrant {
      principalId := "principal:1"
      actorId := "actor:3"
      clientId := "client:anyam-web"
      sessionId := "session:3"
      taskId := "task:4"
      resource := Identity.Sample.project "project:1"
      sourceSpaceIds := []
      actions := [.extensionInstall, .runInvoke]
      effects := some ["extension.install", "run.invoke"] })])).policy

def authorization : ExtensionAuthorization where
  principalId := "principal:1"
  actorId := "actor:3"
  clientId := "client:anyam-web"
  sessionId := "session:3"
  taskId := "task:4"
  grantId := "grant:6"
  resource := Identity.Sample.project "project:1"

def manifest : ExtensionManifest where
  id := "extension:1"
  name := "Runner"
  version := "1.0.0"
  kind := .action
  trust := .verified
  source := "registry"
  digest := "sha256:1"
  requestedEffects := ["run.invoke", "provider.invoke"]
  requestedCapabilities := ["run.invoke"]
  lifecycle := .proposed
  compatibility := ["anyam.kernel/v1", "anyam.extension/v1"]
  provenance := ⟨"registry", "publisher", "receipt"⟩

def drawn : ExtensionDrawn where
  uuid := fun _ => "1"
  evaluation := fun _ => { uuid := fun _ => "1", token := "1" }

def clock : RealmClock := fun _ => 0

/-- The manifest is registered, and installed in the project with all it declares. -/
def calls : List ExtensionCall := [
  ⟨.registerManifest manifest "sha256:1", drawn, clock⟩,
  ⟨.install {
    manifestId := "extension:1"
    manifestVersion := "1.0.0"
    packageDigest := "sha256:1"
    scope := .project "realm:1" none "project:1"
    grantedEffects := ["run.invoke", "provider.invoke"]
    grantedCapabilities := [.runInvoke]
    authorization }, drawn, clock⟩]

def kernelCompatibility : List String := ["anyam.kernel/v1"]

def executed :=
  exec (extensionStep Identity.Sample.services kernelCompatibility) (initialWorld policy) calls

theorem run_executed :
    RegistryRun Identity.Sample.services kernelCompatibility policy executed.1 executed.2 :=
  run_exec (Admits.of_forall (fun _ _ => trivial) _ _)

def request (requestedEffects : List String) (requestedCapabilities : List Capability) :
    InvokeExtensionInput where
  installationId := "extension-installation:1"
  requestedEffects
  requestedCapabilities
  resource := Identity.Sample.project "project:1"
  authorization

def invoked (input : InvokeExtensionInput) :
    Except ExtensionFailure ExtensionInvocationResult × ExtensionWorld :=
  invoke Identity.Sample.services input drawn clock executed.2

theorem exists_result (returned : Except ExtensionFailure ExtensionInvocationResult)
    (status : ExtensionInvocationStatus)
    (h : returned.toOption.map (·.status) = some status) :
    ∃ result, returned = .ok result ∧ result.status = status := by
  cases returned with
  | error thrown => cases h
  | ok result => exact ⟨result, rfl, Option.some.inj h⟩

/-- The same extension without a verified publisher. -/
def unverified : ExtensionManifest := { manifest with trust := .unverified }

def installed :=
  exec (extensionStep Identity.Sample.services kernelCompatibility) (initialWorld policy)
    (⟨.registerManifest unverified "sha256:1", drawn, clock⟩ :: calls.drop 1)

theorem unverified_not_highRisk_sample : ∃ installation,
    installed.2.installations.get? "extension-installation:1" = some installation ∧
      installation.grantedEffects = ["run.invoke", "provider.invoke"] ∧
      ∀ value ∈ installation.grantedEffects ++ installation.grantedCapabilities,
        value ∉ highRiskEffects := by
  have hrun : RegistryRun Identity.Sample.services kernelCompatibility policy installed.1
      installed.2 := run_exec (Admits.of_forall (fun _ _ => trivial) _ _)
  obtain ⟨installation, hget, heffects, manifest, hmem, ⟨hid, hversion, hdigest⟩, htrust⟩ :
      ∃ installation ∈ installed.2.installations.get? "extension-installation:1",
        installation.grantedEffects = ["run.invoke", "provider.invoke"] ∧
        ∃ manifest ∈ installed.2.manifests.values, (manifest.id = installation.manifestId ∧
          manifest.version = installation.manifestVersion ∧
          manifest.digest = installation.manifestDigest) ∧ manifest.trust = .unverified := by
    decide +kernel
  exact ⟨installation, hget, heffects,
    unverified_not_highRisk hrun hget ⟨hmem, hid, hversion, hdigest⟩ htrust⟩

/-- A run asked for under its own name. -/
theorem runInvoke_intersects :
    ∃ result, (invoked (request ["run.invoke"] [.runInvoke])).1 = .ok result ∧
      result.status = .allowed ∧
      ∃ installation manifest, Intersects Identity.Sample.services executed.2
        (invoked (request ["run.invoke"] [.runInvoke])).2 (request ["run.invoke"] [.runInvoke])
        installation manifest := by
  obtain ⟨result, hresult, hstatus⟩ :=
    exists_result (invoked (request ["run.invoke"] [.runInvoke])).1 .allowed (by decide +kernel)
  refine ⟨result, hresult, hstatus, ?_⟩
  exact (invoke_intersects_iff run_executed (Prod.ext hresult rfl) (.inl hstatus)).mpr
    (by decide +kernel)

/-- **An effect that no policy decision named**: an invocation of a provider, for which the Grant
has no effect, is allowed when it requests no capability. -/
theorem effect_unasked :
    ∃ tr w, RegistryRun Identity.Sample.services kernelCompatibility policy tr w ∧
      ∃ result w', invoke Identity.Sample.services (request ["provider.invoke"] []) drawn clock w =
        (.ok result, w') ∧ result.status = .allowed ∧
      ¬ ∃ installation manifest, Intersects Identity.Sample.services w w'
        (request ["provider.invoke"] []) installation manifest := by
  obtain ⟨result, hresult, hstatus⟩ :=
    exists_result (invoked (request ["provider.invoke"] [])).1 .allowed (by decide +kernel)
  refine ⟨_, _, run_executed, result, (invoked (request ["provider.invoke"] [])).2,
    Prod.ext hresult rfl, hstatus, ?_⟩
  rintro ⟨_, _, hintersects⟩
  obtain ⟨evaluation, hmem, -⟩ :=
    hintersects.effectsAllowed "provider.invoke" (List.mem_singleton_self _)
  have hnone : during executed.2 (invoked (request ["provider.invoke"] [])).2 = [] := by
    decide +kernel
  rw [hnone] at hmem
  cases hmem

end Sample

end Anyam.Extensions
