import Anyam.Extensions.Registry
import Anyam.Lib.Run

/-!
# Runs of the extension registry

The methods of a registry called one after the other, with any arguments, while the other callers
of the policy bring it to any states.

- `extensionStep`: one call. `RegistryRun`: the runs from a new registry.
- `Pinned`: the manifest of an installation, by identifier, version and digest
  (`Pinned.unique`).
- **`RegistryRun.sound`**: in every run an installation has a pinned manifest that declares what it
  was granted, and that was not blocked.
- **`unverified_not_highRisk`**: so no installation of an unverified extension was granted a
  high-risk effect or capability.
-/

namespace Anyam.Extensions

open Anyam.Lib Anyam.Kernel Anyam.Identity
open Transact

/-! ## Calls -/

/-- What happens next: a method of the registry, or the policy comes to another state. -/
inductive ExtensionOperation
  | registerManifest (manifest : ExtensionManifest) (packageDigest : String)
  | install (input : InstallExtensionInput)
  | replace (input : ReplaceExtensionInput)
  | transition (input : ExtensionTransitionInput) (target : ExtensionTransition)
  | invoke (input : InvokeExtensionInput)
  | policy (realm : RealmState)

structure ExtensionCall where
  operation : ExtensionOperation
  drawn : ExtensionDrawn
  clock : RealmClock

/-- Drop what a method returns. -/
def discard {α : Type} (m : ExtensionM α) : ExtensionM Unit := do
  let _ ← m
  return ()

section

variable (services : RealmServices) (kernelCompatibility : List String)

def extensionStep (call : ExtensionCall) : ExtensionM Unit :=
  match call.operation with
  | .registerManifest manifest packageDigest =>
    discard (registerManifest kernelCompatibility manifest packageDigest)
  | .install input => discard (install services input call.drawn call.clock)
  | .replace input => discard (replace services input call.drawn call.clock)
  | .transition input target => discard (transition services input target call.drawn call.clock)
  | .invoke input => discard (invoke services input call.drawn call.clock)
  | .policy realm => ExtensionM.update fun w => { w with realm }

/-- A run of calls from a new registry. -/
abbrev RegistryRun (realm : RealmState) :=
  Run (extensionStep services kernelCompatibility) (fun _ _ => True) (initialWorld realm)

end

/-! ## What a registry has at all times -/

/-- The manifest that an installation is pinned to. -/
structure Pinned (manifests : OrderedMap String ExtensionManifest)
    (installation : ExtensionInstallation) (manifest : ExtensionManifest) : Prop where
  registered : manifest ∈ manifests.values
  id : manifest.id = installation.manifestId
  version : manifest.version = installation.manifestVersion
  digest : manifest.digest = installation.manifestDigest

/-- A manifest declares what an installation was granted. -/
structure Declares (manifest : ExtensionManifest) (installation : ExtensionInstallation) :
    Prop where
  installable : manifest.lifecycle ∉ [.blocked, .deprecated, .revoked]
  effects : ∀ effect ∈ installation.grantedEffects, effect ∈ manifest.requestedEffects
  capabilities : ∀ capability ∈ installation.grantedCapabilities,
    capability ∈ manifest.requestedCapabilities
  noWrite : "canonical.write" ∉ installation.grantedEffects

/-- What a manifest is once it is registered. -/
structure ManifestSound (manifest : ExtensionManifest) : Prop where
  version : manifest.version ≠ ""
  digest : manifest.digest ≠ ""
  blocked : manifest.trust = .unverified →
    highRisk (manifest.requestedEffects ++ manifest.requestedCapabilities) ≠ [] →
    manifest.lifecycle = .blocked

structure RegistrySound (w : ExtensionWorld) : Prop where
  keyed : w.manifests.SelfKeyed manifestPin
  manifests : ∀ manifest ∈ w.manifests.values, ManifestSound manifest
  installations : ∀ id installation, w.installations.get? id = some installation →
    ∃ manifest, Pinned w.manifests installation manifest ∧ Declares manifest installation

/-- An installation is pinned to one manifest. -/
theorem Pinned.unique {manifests : OrderedMap String ExtensionManifest}
    {installation : ExtensionInstallation} {manifest other : ExtensionManifest}
    (hkeyed : manifests.SelfKeyed manifestPin) (h : Pinned manifests installation manifest)
    (h' : Pinned manifests installation other) : manifest = other := by
  have hpin : manifestPin manifest = manifestPin other := by
    rw [manifestPin, manifestPin, h.id, h.version, h.digest, h'.id, h'.version, h'.digest]
  obtain ⟨k, hk⟩ := OrderedMap.mem_values_iff.mp h.registered
  obtain ⟨k', hk'⟩ := OrderedMap.mem_values_iff.mp h'.registered
  have hkey : k = k' := (hkeyed k manifest hk).symm.trans (hpin.trans (hkeyed k' other hk'))
  rw [hkey, hk'] at hk
  exact (Option.some.inj hk).symm

/-- What `getManifest` finds for a version and a digest that are not empty. -/
theorem pinned_of_getManifest {w : ExtensionWorld} {installation : ExtensionInstallation}
    {manifest : ExtensionManifest} (hversion : installation.manifestVersion ≠ "")
    (hdigest : installation.manifestDigest ≠ "")
    (h : getManifest w installation.manifestId (some installation.manifestVersion)
      (some installation.manifestDigest) = some manifest) :
    Pinned w.manifests installation manifest := by
  have hmem := List.mem_of_head? h
  simp only [List.mem_filter, decide_eq_true_eq, truthy, if_neg hversion, if_neg hdigest,
    Option.all_some] at hmem
  obtain ⟨⟨⟨hregistered, hid⟩, hversion⟩, hdigest⟩ := hmem
  exact ⟨hregistered, hid, hversion, hdigest⟩

/-! ## What leaves the books alone -/

/-- The manifests and the installations are as they were. -/
structure SameBooks (w w' : ExtensionWorld) : Prop where
  manifests : w'.manifests = w.manifests
  installations : w'.installations = w.installations

instance : Std.Refl SameBooks := ⟨fun _ => ⟨rfl, rfl⟩⟩

instance : IsTrans ExtensionWorld SameBooks where
  trans _ _ _ h h' :=
    ⟨h'.manifests.trans h.manifests, h'.installations.trans h.installations⟩

/-- A computation that writes to no field at all. -/
abbrev Checks {α : Type} (m : ExtensionM α) : Prop := Keeps Eq m

theorem Checks.sameBooks {α : Type} {m : ExtensionM α} (h : Checks m) : Keeps SameBooks m :=
  h.mono fun heq => heq ▸ refl _

theorem checks_requireText {value field : String} {code : ExtensionErrorCode} :
    Checks (requireText value field code) := keeps_require

theorem checks_unique {values : List String} {field : String} : Checks (unique values field) :=
  keeps_bind keeps_require fun _ => keeps_bind keeps_require fun _ => keeps_pure

theorem checks_assertDigest {value field : String} : Checks (assertDigest value field) :=
  keeps_bind checks_requireText fun _ => keeps_require

theorem checks_requireManifest {id version digest : String} :
    Checks (requireManifest id version digest) :=
  keeps_bind keeps_state fun _ => keeps_orThrow

theorem checks_requireInstallation {id : String} : Checks (requireInstallation id) :=
  keeps_bind keeps_state fun _ => keeps_orThrow

theorem checks_validateScopeIds : ∀ {scope : ExtensionScope}, Checks (validateScopeIds scope)
  | .realm _ => keeps_pure
  | .organization .. => checks_requireText
  | .project _ none _ => checks_requireText
  | .project _ (some _) _ => keeps_bind checks_requireText fun _ => checks_requireText

theorem checks_validateScope {scope : ExtensionScope} : Checks (validateScope scope) :=
  keeps_bind checks_requireText fun _ => keeps_bind checks_validateScopeIds fun _ =>
    keeps_bind keeps_state fun _ => keeps_require

theorem sameBooks_event {entry : ExtensionEvent} : Keeps SameBooks (event entry) :=
  fun _ => ⟨rfl, rfl⟩

section

variable {services : RealmServices}

theorem sameBooks_evaluatePolicy {input : PolicyEvaluationInput} {drawn : RealmDrawn}
    {clock : RealmClock} : Keeps SameBooks (evaluatePolicy services input drawn clock) := by
  intro w
  unfold evaluatePolicy
  split
  · exact ⟨rfl, rfl⟩
  · exact ⟨rfl, rfl⟩

theorem sameBooks_authorize {authorization : ExtensionAuthorization} {input : AuthorizedOperation}
    {drawn : ExtensionDrawn} {clock : RealmClock} {i : Nat} :
    Keeps SameBooks (authorize services authorization input drawn clock i) :=
  keeps_bind sameBooks_evaluatePolicy fun _ => keeps_bind keeps_require fun _ => keeps_pure

theorem sameBooks_authorizeGrants {input : InstallExtensionInput} {drawn : ExtensionDrawn}
    {clock : RealmClock} {capabilities : List Capability} {i : Nat} :
    Keeps SameBooks (authorizeGrants services input drawn clock capabilities i) := by
  induction capabilities generalizing i with
  | nil => exact keeps_pure
  | cons capability rest ih => exact keeps_bind sameBooks_authorize fun _ => ih

theorem sameBooks_blockedInvocation {input : InvokeExtensionInput}
    {installation : ExtensionInstallation} {code : ExtensionErrorCode} {nextAction : String}
    {explanations : List PolicyExplanation} :
    Keeps SameBooks (blockedInvocation input installation code nextAction explanations) :=
  keeps_bind sameBooks_event fun _ => keeps_pure

theorem sameBooks_authorizeInvocation {input : InvokeExtensionInput} {drawn : ExtensionDrawn}
    {clock : RealmClock} {capabilities : List Capability} {i : Nat} :
    Keeps SameBooks (authorizeInvocation services input drawn clock capabilities i) := by
  induction capabilities generalizing i with
  | nil => exact keeps_pure
  | cons capability rest ih =>
    refine keeps_bind sameBooks_authorize.attempt fun answer => ?_
    cases answer with
    | error => exact keeps_pure
    | ok => exact keeps_bind ih fun _ => keeps_pure

/-- **An invocation changes no manifest and no installation**, whatever it returns. -/
theorem sameBooks_invoke {input : InvokeExtensionInput} {drawn : ExtensionDrawn}
    {clock : RealmClock} : Keeps SameBooks (invoke services input drawn clock) := by
  refine keeps_bind checks_requireInstallation.sameBooks fun installation => ?_
  refine keeps_bind checks_requireManifest.sameBooks fun manifest => ?_
  refine keeps_bind checks_unique.sameBooks fun effects => ?_
  refine keeps_bind checks_unique.sameBooks fun capabilities => ?_
  split
  · exact sameBooks_blockedInvocation
  split
  · exact sameBooks_blockedInvocation
  split
  · exact sameBooks_blockedInvocation
  dsimp only
  split
  · exact sameBooks_blockedInvocation
  refine keeps_bind sameBooks_authorizeInvocation fun answer => ?_
  obtain ⟨explanations, refusal⟩ := answer
  cases refusal with
  | some message => exact sameBooks_blockedInvocation
  | none => exact keeps_bind keeps_state fun _ => keeps_bind sameBooks_event fun _ => keeps_pure

end

/-! ## What a method leaves -/

theorem ne_empty_of_not_blank {value : String} (h : isBlank value = false) : value ≠ "" := by
  rintro rfl
  revert h
  decide

theorem requireText_ok {value field : String} {code : ExtensionErrorCode}
    {w w' : ExtensionWorld} (h : requireText value field code w = (.ok (), w')) : value ≠ "" := by
  simp only [requireText, ExtensionM.require, Transact.require_eq_ok] at h
  exact ne_empty_of_not_blank h.1

theorem assertDigest_ok {value field : String} {w w' : ExtensionWorld}
    (h : assertDigest value field w = (.ok (), w')) : value ≠ "" := by
  obtain ⟨_, mid, hmid, -⟩ := Transact.bind_eq_ok.mp h
  exact requireText_ok hmid

theorem unique_ok {values values' : List String} {field : String} {w w' : ExtensionWorld}
    (h : unique values field w = (.ok values', w')) :
    values' = values ∧ w' = w ∧ ∀ value ∈ values, value ≠ "" := by
  simp only [unique, ExtensionM.require, Transact.bind_eq_ok, Transact.require_eq_ok, Transact.pure_eq_ok] at h
  obtain ⟨-, _, ⟨hblank, rfl⟩, -, _, ⟨-, rfl⟩, rfl, rfl⟩ := h
  exact ⟨rfl, rfl, fun value hvalue => ne_empty_of_not_blank (hblank value hvalue)⟩

theorem RegistrySound.of_sameBooks {w w' : ExtensionWorld} (h : RegistrySound w)
    (hsame : SameBooks w w') : RegistrySound w' where
  keyed := hsame.manifests ▸ h.keyed
  manifests := hsame.manifests ▸ h.manifests
  installations := by
    rw [hsame.manifests, hsame.installations]
    exact h.installations

/-- An installation is written, pinned to a manifest that declares what it was granted. -/
theorem RegistrySound.installed {w w' : ExtensionWorld} (h : RegistrySound w)
    {installation : ExtensionInstallation} (manifest : ExtensionManifest) {id : String}
    (hpinned : Pinned w.manifests installation manifest) (hdeclares : Declares manifest installation)
    (hmanifests : w'.manifests = w.manifests)
    (hinstallations : w'.installations = w.installations.set id installation) :
    RegistrySound w' where
  keyed := hmanifests ▸ h.keyed
  manifests := hmanifests ▸ h.manifests
  installations := by
    intro k found hfound
    rw [hinstallations, OrderedMap.get?_set] at hfound
    rw [hmanifests]
    split at hfound
    · cases hfound
      exact ⟨manifest, hpinned, hdeclares⟩
    · exact h.installations k found hfound

/-- A manifest is written under a key that was free. -/
theorem RegistrySound.registered {w w' : ExtensionWorld} (h : RegistrySound w)
    {manifest : ExtensionManifest} (hsound : ManifestSound manifest)
    (hfree : w.manifests.get? (manifestPin manifest) = none)
    (hmanifests : w'.manifests = w.manifests.set (manifestPin manifest) manifest)
    (hinstallations : w'.installations = w.installations) : RegistrySound w' := by
  have hvalues : w'.manifests.values = w.manifests.values ++ [manifest] := by
    rw [hmanifests]
    exact OrderedMap.values_set_of_not_mem _ (OrderedMap.not_mem_keys_iff.mpr hfree)
  refine ⟨?_, ?_, ?_⟩
  · rw [hmanifests]
    exact h.keyed.set rfl
  · intro candidate hcandidate
    rw [hvalues, List.mem_append, List.mem_singleton] at hcandidate
    rcases hcandidate with hold | rfl
    · exact h.manifests candidate hold
    · exact hsound
  · intro k installation hinstallation
    rw [hinstallations] at hinstallation
    obtain ⟨pinned, hpinned, hdeclares⟩ := h.installations k installation hinstallation
    refine ⟨pinned, ⟨?_, hpinned.id, hpinned.version, hpinned.digest⟩, hdeclares⟩
    rw [hvalues]
    exact List.mem_append_left _ hpinned.registered

theorem manifestSound_normalized {manifest : ExtensionManifest} (hversion : manifest.version ≠ "")
    (hdigest : manifest.digest ≠ "") : ManifestSound (normalizedManifest manifest) := by
  refine ⟨hversion, hdigest, fun htrust hrisk => ?_⟩
  have htrust' : manifest.trust = .unverified := htrust
  have hrisk' : highRisk (manifest.requestedEffects ++ manifest.requestedCapabilities) ≠ [] := hrisk
  simp only [normalizedManifest, if_pos htrust', if_pos hrisk']

theorem checks_checkManifestTexts {manifest : ExtensionManifest} :
    Checks (checkManifestTexts manifest) :=
  keeps_bind checks_requireText fun _ => keeps_bind checks_requireText fun _ =>
    keeps_bind checks_requireText fun _ => keeps_bind checks_requireText fun _ =>
    keeps_bind checks_requireText fun _ => keeps_bind checks_requireText fun _ =>
    keeps_bind checks_requireText fun _ => checks_assertDigest

theorem checkManifestTexts_ok {manifest : ExtensionManifest} {w w' : ExtensionWorld}
    (h : checkManifestTexts manifest w = (.ok (), w')) :
    manifest.version ≠ "" ∧ manifest.digest ≠ "" := by
  simp only [checkManifestTexts, Transact.bind_eq_ok] at h
  obtain ⟨_, _, -, _, _, -, _, _, hversion, _, _, -, _, _, -, _, _, -, _, _, -, hdigest⟩ := h
  exact ⟨requireText_ok hversion, assertDigest_ok hdigest⟩

theorem checks_checkManifest {kernelCompatibility : List String} {manifest : ExtensionManifest}
    {packageDigest : String} :
    Checks (checkManifest kernelCompatibility manifest packageDigest) :=
  keeps_bind checks_checkManifestTexts fun _ => keeps_bind checks_assertDigest fun _ =>
    keeps_bind keeps_require fun _ => keeps_bind keeps_require fun _ =>
    keeps_bind checks_unique fun _ => keeps_bind keeps_require fun _ =>
    keeps_bind checks_unique fun _ => keeps_bind checks_unique fun _ => keeps_pure

theorem checkManifest_ok {kernelCompatibility : List String} {manifest : ExtensionManifest}
    {packageDigest : String} {w w' : ExtensionWorld}
    (h : checkManifest kernelCompatibility manifest packageDigest w = (.ok (), w')) :
    manifest.version ≠ "" ∧ manifest.digest ≠ "" := by
  obtain ⟨_, mid, htexts, -⟩ := Transact.bind_eq_ok.mp h
  exact checkManifestTexts_ok htexts

/-- A manifest that was not there is filed under its pin. -/
theorem sound_fileManifest {manifest : ExtensionManifest} {w : ExtensionWorld}
    (h : RegistrySound w) (hsound : ManifestSound (normalizedManifest manifest))
    (hfree : w.manifests.get? (manifestPin (normalizedManifest manifest)) = none) :
    RegistrySound (fileManifest manifest w).2 := by
  refine bind_reads keeps_state h fun _ _ => ?_
  refine bind_require h fun _ => ?_
  exact h.registered hsound hfree rfl rfl

theorem sound_registerManifest {kernelCompatibility : List String} {manifest : ExtensionManifest}
    {packageDigest : String} {w : ExtensionWorld} (h : RegistrySound w) :
    RegistrySound (registerManifest kernelCompatibility manifest packageDigest w).2 := by
  rw [registerManifest]
  refine bind_reads checks_checkManifest h fun _ hchecked => ?_
  refine bind_reads keeps_state h fun found hfound => ?_
  obtain ⟨rfl, -⟩ := Transact.state_eq_ok.mp hfound
  cases hfree : w.manifests.get? (manifestPin (normalizedManifest manifest)) with
  | some existing =>
    simp only
    exact h
  | none =>
    obtain ⟨hversion, hdigest⟩ := checkManifest_ok hchecked
    simp only
    exact sound_fileManifest h (manifestSound_normalized hversion hdigest) hfree

section

variable {services : RealmServices} {drawn : ExtensionDrawn} {clock : RealmClock}
  {w : ExtensionWorld}

theorem checks_requireInstallable {input : InstallExtensionInput} :
    Checks (requireInstallable input) :=
  keeps_bind keeps_state fun _ => keeps_bind keeps_orThrow fun _ =>
    keeps_bind keeps_require fun _ => keeps_bind checks_validateScope fun _ =>
    keeps_bind keeps_require fun _ => keeps_bind checks_unique fun _ =>
    keeps_bind checks_unique fun _ => keeps_bind keeps_require fun _ =>
    keeps_bind keeps_require fun _ => keeps_pure

/-- What an installation is made for: a registered manifest, open to it, that declares the grants. -/
theorem requireInstallable_ok {input : InstallExtensionInput} {manifest : ExtensionManifest}
    {w' : ExtensionWorld} (h : requireInstallable input w = (.ok manifest, w')) :
    manifest ∈ w.manifests.values ∧ manifest.lifecycle ∉ [.blocked, .deprecated, .revoked] ∧
      (∀ effect ∈ input.grantedEffects, effect ∈ manifest.requestedEffects) ∧
      (∀ capability ∈ input.grantedCapabilities.map (·.text),
        capability ∈ manifest.requestedCapabilities) ∧
      "canonical.write" ∉ input.grantedEffects := by
  obtain ⟨found, w₁, hstate, hlookup⟩ := Transact.bind_eq_ok.mp h
  obtain ⟨rfl, rfl⟩ := Transact.state_eq_ok.mp hstate
  obtain ⟨candidate, w₂, hthrow, hchecks⟩ := Transact.bind_eq_ok.mp hlookup
  obtain ⟨hfound, rfl⟩ := Transact.orThrow_eq_ok.mp hthrow
  obtain ⟨_, w₃, hopen, hscopes⟩ := Transact.bind_eq_ok.mp hchecks
  obtain ⟨hlifecycle, rfl⟩ := Transact.require_eq_ok.mp hopen
  obtain ⟨_, w₄, -, hscope⟩ := Transact.bind_eq_ok.mp hscopes
  obtain ⟨_, w₅, -, hlists⟩ := Transact.bind_eq_ok.mp hscope
  obtain ⟨effects, w₆, heffects, hlist⟩ := Transact.bind_eq_ok.mp hlists
  obtain ⟨rfl, rfl, -⟩ := unique_ok heffects
  obtain ⟨capabilities, w₇, hcapabilities, hgrants⟩ := Transact.bind_eq_ok.mp hlist
  obtain ⟨rfl, rfl, -⟩ := unique_ok hcapabilities
  obtain ⟨_, w₈, hmissing, hboundary⟩ := Transact.bind_eq_ok.mp hgrants
  obtain ⟨⟨hnoEffects, hnoCapabilities⟩, rfl⟩ := Transact.require_eq_ok.mp hmissing
  obtain ⟨_, w₉, hwrite, hreturned⟩ := Transact.bind_eq_ok.mp hboundary
  obtain ⟨hnoWrite, rfl⟩ := Transact.require_eq_ok.mp hwrite
  obtain ⟨rfl, -⟩ := Transact.pure_eq_ok.mp hreturned
  have hmem := List.mem_of_head? hfound
  simp only [List.mem_filter] at hmem
  refine ⟨hmem.1.1.1, hlifecycle, fun effect heffect => ?_, fun capability hcapability => ?_,
    hnoWrite⟩
  · simpa using List.filter_eq_nil_iff.mp hnoEffects effect heffect
  · simpa using List.filter_eq_nil_iff.mp hnoCapabilities capability hcapability

theorem fileInstallation_books {installation : ExtensionInstallation} {actor : ActorRef} :
    (fileInstallation installation actor w).2.manifests = w.manifests ∧
      (fileInstallation installation actor w).2.installations =
        w.installations.set installation.id installation :=
  ⟨rfl, rfl⟩

/-- **An installation is pinned** to the manifest it was made for, which declares its grants. -/
theorem sound_install {input : InstallExtensionInput} (h : RegistrySound w) :
    RegistrySound (install services input drawn clock w).2 ∧
      (install services input drawn clock w).2.manifests = w.manifests := by
  let P (w' : ExtensionWorld) : Prop := RegistrySound w' ∧ w'.manifests = w.manifests
  have hsame : ∀ {w'}, SameBooks w w' → P w' := fun hw' => ⟨h.of_sameBooks hw', hw'.manifests⟩
  refine bind_reads (P := P) checks_requireInstallable (hsame (refl w)) fun manifest hfound => ?_
  obtain ⟨hregistered, hinstallable, heffects, hcapabilities, hwrite⟩ :=
    requireInstallable_ok hfound
  -- the evaluations leave the books alone
  refine bind_leaves (Q := SameBooks w) (sameBooks_authorize w) hsame fun _ asked _ hasked => ?_
  refine bind_leaves (Q := SameBooks w) (Trans.trans hasked (sameBooks_authorizeGrants asked)) hsame
    fun _ granted _ hgranted => ?_
  refine bind_reads (P := P) keeps_state (hsame hgranted) fun found _ => ?_
  obtain ⟨hmanifests, hinstallations⟩ := fileInstallation_books
  refine ⟨(h.of_sameBooks hgranted).installed manifest ?_ ?_ hmanifests hinstallations,
    hmanifests.trans hgranted.manifests⟩
  · exact ⟨hgranted.manifests ▸ hregistered, rfl, rfl, rfl⟩
  · exact ⟨hinstallable, heffects, hcapabilities, hwrite⟩

theorem requireInstallation_ok {id : String} {installation : ExtensionInstallation}
    {w' : ExtensionWorld} (h : requireInstallation id w = (.ok installation, w')) :
    w' = w ∧ w.installations.get? id = some installation := by
  obtain ⟨found, mid, hfound, hthrow⟩ := Transact.bind_eq_ok.mp h
  obtain ⟨rfl, rfl⟩ := state_eq_ok.mp hfound
  obtain ⟨hget, rfl⟩ := orThrow_eq_ok.mp hthrow
  exact ⟨rfl, hget⟩

/-- An installation that was filed may be filed again in another lifecycle. -/
theorem RegistrySound.moved {w' : ExtensionWorld} (h : RegistrySound w) {k id : String}
    {installation : ExtensionInstallation} (hw' : RegistrySound w')
    (hmanifests : w'.manifests = w.manifests)
    (hinstallation : w.installations.get? k = some installation) (lifecycle : ExtensionLifecycle)
    {w'' : ExtensionWorld} (hmanifests' : w''.manifests = w'.manifests)
    (hinstallations' :
      w''.installations = w'.installations.set id { installation with lifecycle }) :
    RegistrySound w'' := by
  obtain ⟨manifest, hpinned, hdeclares⟩ := h.installations k installation hinstallation
  refine hw'.installed manifest ?_ ?_ hmanifests' hinstallations'
  · exact ⟨hmanifests ▸ hpinned.registered, hpinned.id, hpinned.version, hpinned.digest⟩
  · exact ⟨hdeclares.installable, hdeclares.effects, hdeclares.capabilities, hdeclares.noWrite⟩

theorem sound_replace {input : ReplaceExtensionInput} (h : RegistrySound w) :
    RegistrySound (replace services input drawn clock w).2 := by
  refine bind_reads checks_requireInstallation h fun current hcurrent => ?_
  refine bind_reads checks_requireManifest h fun manifest _ => ?_
  refine bind_require h fun _ => ?_
  refine bind_leaves (Q := SameBooks w) (sameBooks_authorize w) h.of_sameBooks
    fun _ asked _ hasked => ?_
  have hsound := h.of_sameBooks hasked
  refine bind_require hsound fun _ => ?_
  refine bind_leaves (Q := fun w' => RegistrySound w' ∧ w'.manifests = asked.manifests)
    (sound_install hsound) And.left fun replacement installed _ hinstalled => ?_
  exact h.moved hinstalled.1 (hinstalled.2.trans hasked.manifests)
    (requireInstallation_ok hcurrent).2 .replaced rfl rfl

theorem sound_transition {input : ExtensionTransitionInput} {target : ExtensionTransition}
    (h : RegistrySound w) : RegistrySound (transition services input target drawn clock w).2 := by
  refine bind_reads checks_requireInstallation h fun installation hinstallation => ?_
  refine bind_leaves (Q := SameBooks w) (sameBooks_authorize w) h.of_sameBooks
    fun _ asked _ hasked => ?_
  have hsound := h.of_sameBooks hasked
  refine bind_require hsound fun _ => ?_
  exact h.moved hsound hasked.manifests (requireInstallation_ok hinstallation).2 target.lifecycle
    rfl rfl

theorem discard_snd {α : Type} (m : ExtensionM α) (w : ExtensionWorld) :
    (discard m w).2 = (m w).2 :=
  bind_leaves (Q := (· = (m w).2)) rfl id fun _ _ _ h => h

/-- **One call keeps a registry sound.** -/
theorem sound_extensionStep {kernelCompatibility : List String} {call : ExtensionCall}
    (h : RegistrySound w) : RegistrySound (extensionStep services kernelCompatibility call w).2 := by
  obtain ⟨operation, drawn, clock⟩ := call
  cases operation with
  | registerManifest manifest packageDigest =>
    rw [extensionStep, discard_snd]
    exact sound_registerManifest h
  | install input =>
    rw [extensionStep, discard_snd]
    exact (sound_install h).1
  | replace input =>
    rw [extensionStep, discard_snd]
    exact sound_replace h
  | transition input target =>
    rw [extensionStep, discard_snd]
    exact sound_transition h
  | invoke input =>
    rw [extensionStep, discard_snd]
    exact h.of_sameBooks (sameBooks_invoke w)
  | policy realm => exact h.of_sameBooks ⟨rfl, rfl⟩

theorem sound_initialWorld (realm : RealmState) : RegistrySound (initialWorld realm) where
  keyed := OrderedMap.selfKeyed_empty _
  manifests := fun _ h => nomatch h
  installations := fun _ _ h => nomatch h

variable {kernelCompatibility : List String} {realm : RealmState}
  {tr : List (Transition ExtensionWorld ExtensionCall (Except ExtensionFailure Unit))}

/-- **In every run**: what is installed is pinned to a manifest that declares it. -/
theorem RegistryRun.sound (h : RegistryRun services kernelCompatibility realm tr w) :
    RegistrySound w :=
  h.invariant RegistrySound (sound_initialWorld realm) fun _ _ hsound _ =>
    sound_extensionStep hsound

/-- **An unverified extension holds nothing of high risk**, in any run. -/
theorem unverified_not_highRisk (h : RegistryRun services kernelCompatibility realm tr w)
    {id : String} {installation : ExtensionInstallation} {manifest : ExtensionManifest}
    (hinstallation : w.installations.get? id = some installation)
    (hpinned : Pinned w.manifests installation manifest) (htrust : manifest.trust = .unverified) :
    ∀ value ∈ installation.grantedEffects ++ installation.grantedCapabilities,
      value ∉ highRiskEffects := by
  intro value hvalue hrisk
  obtain ⟨declaring, hdeclaring, hdeclares⟩ := h.sound.installations id installation hinstallation
  cases hpinned.unique h.sound.keyed hdeclaring
  have hrequested : value ∈ manifest.requestedEffects ++ manifest.requestedCapabilities := by
    rcases List.mem_append.mp hvalue with heffect | hcapability
    · exact List.mem_append_left _ (hdeclares.effects value heffect)
    · exact List.mem_append_right _ (hdeclares.capabilities value hcapability)
  have hrisky : highRisk (manifest.requestedEffects ++ manifest.requestedCapabilities) ≠ [] := by
    refine List.ne_nil_of_mem (a := value) ?_
    exact List.mem_filter.mpr ⟨hrequested, decide_eq_true hrisk⟩
  -- such a manifest was blocked when it was registered
  have hblocked := (h.sound.manifests manifest hpinned.registered).blocked htrust hrisky
  exact hdeclares.installable (by simp [hblocked])

end

end Anyam.Extensions
