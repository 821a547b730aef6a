import Anyam.Identity.RealmSystem

/-!
# Delegation attenuates

A Grant that is derived from another one should allow nothing that its parent does not. The
operations compare the actions, the Source Spaces, the effects, the model providers and the
credential classes with the parent's, and each budget and expiry that is given; what they never
look at has to be narrow by itself.

- `Attenuates`: what a derived Grant should be of its parent. `Narrows`: what the checks leave
  open.
- **`attenuates_newGrant_iff`**: a derived Grant attenuates exactly when the open part narrows.
- **`RealmRun.attenuates`**: along a run whose derivations narrow, every derived Grant attenuates.
- **`derived_wider_than_parent`**: a run in which one does not.
-/

namespace Anyam.Identity

open Anyam.Lib Anyam.Kernel

/-! ## What a Grant accepts -/

/-- What the evaluation asks of a Grant itself. -/
structure Covers (c : PolicyContext) (g : RealmCapabilityGrant) : Prop where
  resource : resourceMatches g.resource c.input.resource = true
  action : c.capability ∈ g.actions
  notDenied : c.capability ∉ g.deniedActions
  sourceSpace : ∀ id ∈ truthy c.requestedSourceSpaceId, id ∈ g.sourceSpaceIds
  effect : ∀ effect ∈ truthy c.input.effect, effect ∈ g.effects
  modelProvider : ∀ provider ∈ truthy c.input.modelProvider,
    g.allowedModelProviders ≠ [] → provider ∈ g.allowedModelProviders
  credentialClass : ∀ required ∈ c.input.requiredCredentialClass,
    required ∈ g.allowedCredentialClasses

/-- A Grant passes its part of an evaluation. -/
def grantAccepts (c : PolicyContext) (g : RealmCapabilityGrant) : Bool :=
  !(grantScopeFinding c g).denied

theorem any_not_mem {α : Type} [DecidableEq α] {value : Option α} {allowed : List α} :
    ¬ value.any (fun x => decide (x ∉ allowed)) = true ↔ ∀ x ∈ value, x ∈ allowed := by
  cases value <;> simp

theorem modelDenied_eq_false {modelProvider : Option String} {allowed : List String} :
    modelDenied modelProvider allowed = false ↔
      ∀ provider ∈ truthy modelProvider, allowed ≠ [] → provider ∈ allowed := by
  unfold modelDenied
  cases truthy modelProvider with
  | none => simp
  | some provider => by_cases hnil : allowed = [] <;> simp [hnil]

/-- The branches of the evaluation on a Grant, taken together. -/
theorem grantAccepts_iff {c : PolicyContext} {g : RealmCapabilityGrant} :
    grantAccepts c g = true ↔ Covers c g := by
  unfold grantAccepts grantScopeFinding
  constructor
  · intro h
    split_ifs at h with hresource haction hdenied hspace heffect hmodel hclass
    -- every branch but the last denies
    all_goals try cases h
    exact ⟨hresource, haction, hdenied, any_not_mem.mp hspace,
      any_not_mem.mp heffect, modelDenied_eq_false.mp (Bool.not_eq_true _ ▸ hmodel),
      any_not_mem.mp hclass⟩
  · intro h
    rw [if_neg (not_not_intro h.resource), if_neg (not_not_intro h.action), if_neg h.notDenied,
      if_neg (any_not_mem.mpr h.sourceSpace), if_neg (any_not_mem.mpr h.effect),
      if_neg (Bool.not_eq_true _ ▸ modelDenied_eq_false.mpr h.modelProvider),
      if_neg (any_not_mem.mpr h.credentialClass)]
    rfl

/-! ## Attenuation -/

/-- The scopes of a Grant lie within those of its parent. -/
structure GrantWithin (g p : RealmCapabilityGrant) : Prop where
  resource : resourceMatches p.resource g.resource = true
  actions : ∀ action ∈ g.actions, action ∈ p.actions
  deniedActions : ∀ action ∈ g.actions, action ∈ p.deniedActions → action ∈ g.deniedActions
  sourceSpaces : ∀ id ∈ g.sourceSpaceIds, id ∈ p.sourceSpaceIds
  effects : ∀ effect ∈ g.effects, effect ∈ p.effects
  modelProviders : p.allowedModelProviders ≠ [] → g.allowedModelProviders ≠ [] ∧
    ∀ provider ∈ g.allowedModelProviders, provider ∈ p.allowedModelProviders
  credentialClasses : ∀ credentialClass ∈ g.allowedCredentialClasses,
    credentialClass ∈ p.allowedCredentialClasses

/-- A Grant lies within its parent: in its scopes, in what an evaluation accepts under it, in
every bound of the parent's budget, and in its lifetime. -/
structure Attenuates (services : RealmServices) (g p : RealmCapabilityGrant) : Prop
    extends GrantWithin g p where
  accepts : ∀ c, grantAccepts c g = true → grantAccepts c p = true
  budget : ∀ dimension bound, p.budget.get? dimension = some bound →
    ∃ value, g.budget.get? dimension = some value ∧ value.within bound = true
  lifetime : ∀ now, services.expired p.expiresAt now = true →
    services.expired g.expiresAt now = true

/-- **What a Grant covers, one that it lies within covers.** -/
theorem Covers.of_within {c : PolicyContext} {g p : RealmCapabilityGrant} (h : Covers c g)
    (hwithin : GrantWithin g p) : Covers c p where
  resource := resourceMatches_trans hwithin.resource h.resource
  action := hwithin.actions _ h.action
  notDenied := fun hp => h.notDenied (hwithin.deniedActions _ h.action hp)
  sourceSpace := fun id hid => hwithin.sourceSpaces id (h.sourceSpace id hid)
  effect := fun effect heffect => hwithin.effects effect (h.effect effect heffect)
  modelProvider := by
    intro provider hprovider hne
    obtain ⟨hgne, hsub⟩ := hwithin.modelProviders hne
    exact hsub provider (h.modelProvider provider hprovider hgne)
  credentialClass := fun required hrequired =>
    hwithin.credentialClasses required (h.credentialClass required hrequired)

/-! ## What the checks leave open -/

section

variable (services : RealmServices) (settings : RealmSettings)

/-- A derived Grant lies in the resource of its parent and keeps what the parent denies. -/
structure Confines (realmId : String) (asked : CreateTaskGrantInput)
    (parent : RealmCapabilityGrant) : Prop where
  resource : resourceMatches parent.resource { asked.resource with realmId } = true
  deniedActions : ∀ action ∈ asked.actions, action ∈ parent.deniedActions →
    action ∈ asked.deniedActions.getD []

/-- A derived Grant also bounds what its parent bounds, and ends no later when no time is
given. -/
structure Narrows (realmId : String) (asked : CreateTaskGrantInput) (now : Int)
    (parent : RealmCapabilityGrant) : Prop extends Confines realmId asked parent where
  budget : ∀ dimension ∈ parent.budget.keys, dimension ∈ (asked.budget.getD .empty).keys
  lifetime : asked.expiresAt = none → ∀ time, services.dateParse parent.expiresAt = some time →
    ∃ own, services.dateParse (expiry services now settings.credentialLifetimeMs) = some own ∧
      own ≤ time

end

section

variable {services : RealmServices} {settings : RealmSettings}

theorem expired_iff {value : String} {now : Int} :
    services.expired value now = true ↔ ∃ time, services.dateParse value = some time ∧
      time ≤ now := by
  unfold RealmServices.expired
  cases services.dateParse value <;> simp

/-- Ending whenever another one ends is ending no later than it. -/
theorem forall_expired_iff {value parent : String} :
    (∀ now, services.expired parent now = true → services.expired value now = true) ↔
      ∀ time, services.dateParse parent = some time →
        ∃ own, services.dateParse value = some own ∧ own ≤ time := by
  simp only [expired_iff]
  constructor
  · intro h time htime
    exact h time ⟨time, htime, Int.le_refl _⟩
  · rintro h now ⟨time, htime, hle⟩
    obtain ⟨own, hown, hle'⟩ := h time htime
    exact ⟨own, hown, Int.le_trans hle' hle⟩

/-- What the checks of a derived Grant have compared. -/
theorem widens_eq_false {asked : CreateTaskGrantInput} {agent : Option RealmAgent}
    {parent : RealmCapabilityGrant} (h : widens services asked agent parent = false) :
    services.after (asked.expiresAt.getD parent.expiresAt) parent.expiresAt = false ∧
      (∀ action ∈ asked.actions, action ∈ parent.actions) ∧
      (∀ id ∈ asked.sourceSpaceIds, id ∈ parent.sourceSpaceIds) ∧
      (parent.allowedModelProviders ≠ [] → grantModelProviders asked agent ≠ [] ∧
        ∀ provider ∈ grantModelProviders asked agent, provider ∈ parent.allowedModelProviders) ∧
      (∀ credentialClass ∈ grantCredentialClasses asked agent,
        credentialClass ∈ parent.allowedCredentialClasses) ∧
      (∀ effect ∈ asked.effects.getD [], effect ∈ parent.effects) ∧
      budgetIsNarrower (asked.budget.getD .empty) parent.budget = true := by
  simp only [widens, Bool.or_eq_false_iff, Bool.not_eq_false', listIsSubset_iff] at h
  obtain ⟨⟨⟨⟨⟨⟨hexpiry, hactions⟩, hspaces⟩, hmodels⟩, hclasses⟩, heffects⟩, hbudget⟩ := h
  refine ⟨hexpiry, hactions, hspaces, fun hne => ?_, hclasses, heffects, hbudget⟩
  simpa [hne] using hmodels

/-- A bound that is within another one, dimension by dimension. -/
theorem budget_iff {budget parent : Budget} (h : budgetIsNarrower budget parent = true) :
    (∀ dimension bound, parent.get? dimension = some bound →
      ∃ value, budget.get? dimension = some value ∧ value.within bound = true) ↔
      ∀ dimension ∈ parent.keys, dimension ∈ budget.keys := by
  rw [budgetIsNarrower_iff] at h
  constructor
  · intro hbounded dimension hmem
    obtain ⟨bound, hbound⟩ := OrderedMap.mem_keys_iff.mp hmem
    obtain ⟨value, hvalue, -⟩ := hbounded dimension bound hbound
    exact OrderedMap.mem_keys_of_get? hvalue
  · intro hkeys dimension bound hbound
    obtain ⟨value, hvalue⟩ :=
      OrderedMap.mem_keys_iff.mp (hkeys dimension (OrderedMap.mem_keys_of_get? hbound))
    exact ⟨value, hvalue, h dimension value bound hvalue hbound⟩

/-- A new Grant lies within the parent it was checked against exactly when it is confined. -/
theorem within_newGrant_iff {s : RealmState} {asked : CreateTaskGrantInput} {drawn : RealmDrawn}
    {now : Int} {parent : RealmCapabilityGrant}
    (h : widens services asked (s.agentOf (s.actors.get? asked.actorId)) parent = false) :
    GrantWithin (newGrant services settings s asked drawn now) parent ↔
      Confines s.realm.id asked parent := by
  obtain ⟨-, hactions, hspaces, hmodels, hclasses, heffects, -⟩ := widens_eq_false h
  constructor
  · intro hwithin
    exact ⟨hwithin.resource, hwithin.deniedActions⟩
  · intro hconfines
    exact ⟨hconfines.resource, hactions, hconfines.deniedActions, hspaces, heffects, hmodels,
      hclasses⟩

/-- The time a new Grant ends, against its parent. -/
theorem lifetime_newGrant_iff {s : RealmState} {asked : CreateTaskGrantInput}
    {drawn : RealmDrawn} {now : Int} {parent : RealmCapabilityGrant}
    (h : services.after (asked.expiresAt.getD parent.expiresAt) parent.expiresAt = false)
    (hdate : ∀ expiresAt ∈ asked.expiresAt, services.dateParse expiresAt ≠ none) :
    (∀ time, services.dateParse parent.expiresAt = some time →
      ∃ own, services.dateParse (newGrant services settings s asked drawn now).expiresAt =
        some own ∧ own ≤ time) ↔
      (asked.expiresAt = none → ∀ time, services.dateParse parent.expiresAt = some time →
        ∃ own, services.dateParse (expiry services now settings.credentialLifetimeMs) =
          some own ∧ own ≤ time) := by
  have hexpiresAt : (newGrant services settings s asked drawn now).expiresAt =
      asked.expiresAt.getD (expiry services now settings.credentialLifetimeMs) := rfl
  rw [hexpiresAt]
  cases hgiven : asked.expiresAt with
  | none => simp
  | some expiresAt =>
    -- a time that is given was compared with the parent's
    simp only [Option.getD_some, reduceCtorEq, false_implies, iff_true]
    intro time htime
    obtain ⟨own, hown⟩ := Option.ne_none_iff_exists'.mp (hdate expiresAt (by rw [hgiven]; rfl))
    refine ⟨own, hown, ?_⟩
    rw [hgiven, Option.getD_some] at h
    simp only [RealmServices.after, hown, htime, decide_eq_false_iff_not] at h
    omega

/-- **What the checks leave open is all that a derived Grant can miss.** -/
theorem attenuates_newGrant_iff {s : RealmState} {asked : CreateTaskGrantInput}
    {drawn : RealmDrawn} {now : Int} {parent : RealmCapabilityGrant}
    (h : widens services asked (s.agentOf (s.actors.get? asked.actorId)) parent = false)
    (hdate : ∀ expiresAt ∈ asked.expiresAt, services.dateParse expiresAt ≠ none) :
    Attenuates services (newGrant services settings s asked drawn now) parent ↔
      Narrows services settings s.realm.id asked now parent := by
  obtain ⟨hexpiry, -, -, -, -, -, hbudget⟩ := widens_eq_false h
  constructor
  · intro hattenuates
    refine ⟨(within_newGrant_iff h).mp hattenuates.toGrantWithin, ?_, ?_⟩
    · exact (budget_iff hbudget).mp hattenuates.budget
    · exact (lifetime_newGrant_iff hexpiry hdate).mp (forall_expired_iff.mp hattenuates.lifetime)
  · intro hnarrows
    have hwithin : GrantWithin (newGrant services settings s asked drawn now) parent :=
      (within_newGrant_iff h).mpr hnarrows.toConfines
    refine ⟨hwithin, fun c hc => ?_, (budget_iff hbudget).mpr hnarrows.budget, ?_⟩
    · exact grantAccepts_iff.mpr ((grantAccepts_iff.mp hc).of_within hwithin)
    · exact forall_expired_iff.mpr ((lifetime_newGrant_iff hexpiry hdate).mpr hnarrows.lifetime)

end

/-! ## Runs that narrow -/

section

variable (services : RealmServices) (settings : RealmSettings)

/-- The derivations of a method are confined to their parents. -/
def PolicyOperation.Confines (s : RealmState) : PolicyOperation → Prop
  | .createCapabilityGrant input => ∀ id ∈ truthy input.parentGrantId,
      ∀ parent ∈ s.grants.get? id, Identity.Confines s.realm.id input parent
  | .delegateAgent input => ∀ parent ∈ s.grants.get? input.parentGrantId,
      ∀ action ∈ input.actions, action ∉ parent.deniedActions
  | _ => True

/-- The derivations of a method narrow what its checks leave open. A delegation has the resource
and the expiry of its Grant checked. -/
def PolicyOperation.Narrows (s : RealmState) (clock : RealmClock) : PolicyOperation → Prop
  | .createCapabilityGrant input => ∀ id ∈ truthy input.parentGrantId,
      ∀ parent ∈ s.grants.get? id,
        Identity.Narrows services settings s.realm.id input (clock [3]) parent
  | .delegateAgent input => ∀ parent ∈ s.grants.get? input.parentGrantId,
      (∀ action ∈ input.actions, action ∉ parent.deniedActions) ∧
        ∀ dimension ∈ parent.budget.keys, dimension ∈ (input.budget.getD .empty).keys
  | _ => True

instance {realmId : String} {asked : CreateTaskGrantInput} {parent : RealmCapabilityGrant} :
    Decidable (Identity.Confines realmId asked parent) :=
  decidable_of_iff (resourceMatches parent.resource { asked.resource with realmId } = true ∧
    ∀ action ∈ asked.actions, action ∈ parent.deniedActions →
      action ∈ asked.deniedActions.getD []) ⟨fun h => ⟨h.1, h.2⟩, fun h => ⟨h.1, h.2⟩⟩

instance {realmId : String} {asked : CreateTaskGrantInput} {now : Int}
    {parent : RealmCapabilityGrant} :
    Decidable (Identity.Narrows services settings realmId asked now parent) :=
  decidable_of_iff (Identity.Confines realmId asked parent ∧
    (∀ dimension ∈ parent.budget.keys, dimension ∈ (asked.budget.getD .empty).keys) ∧
    (asked.expiresAt = none → ∀ time ∈ services.dateParse parent.expiresAt,
      ∃ own ∈ services.dateParse (expiry services now settings.credentialLifetimeMs),
        own ≤ time)) ⟨fun h => ⟨h.1, h.2.1, h.2.2⟩, fun h => ⟨h.1, h.2, h.3⟩⟩

instance PolicyOperation.decidableConfines {s : RealmState} (operation : PolicyOperation) :
    Decidable (operation.Confines s) := by
  cases operation with
  | createCapabilityGrant input =>
    exact inferInstanceAs (Decidable (∀ id ∈ truthy input.parentGrantId,
      ∀ parent ∈ s.grants.get? id, Identity.Confines s.realm.id input parent))
  | delegateAgent input =>
    exact inferInstanceAs (Decidable (∀ parent ∈ s.grants.get? input.parentGrantId,
      ∀ action ∈ input.actions, action ∉ parent.deniedActions))
  | _ => exact instDecidableTrue

instance PolicyOperation.decidableNarrows {s : RealmState} {clock : RealmClock}
    (operation : PolicyOperation) : Decidable (operation.Narrows services settings s clock) := by
  cases operation with
  | createCapabilityGrant input =>
    exact inferInstanceAs (Decidable (∀ id ∈ truthy input.parentGrantId,
      ∀ parent ∈ s.grants.get? id,
        Identity.Narrows services settings s.realm.id input (clock [3]) parent))
  | delegateAgent input =>
    exact inferInstanceAs (Decidable (∀ parent ∈ s.grants.get? input.parentGrantId,
      (∀ action ∈ input.actions, action ∉ parent.deniedActions) ∧
        ∀ dimension ∈ parent.budget.keys, dimension ∈ (input.budget.getD .empty).keys))
  | _ => exact instDecidableTrue

/-- A call that draws new identifiers and whose derivations narrow. -/
def NarrowingCall (system : RealmSystem) (call : RealmCall) : Prop :=
  call.Fresh system ∧ ∀ operation ∈ call.operation.method?,
    operation.Narrows services settings system.policy call.clock

instance {system : RealmSystem} {call : RealmCall} :
    Decidable (NarrowingCall services settings system call) :=
  inferInstanceAs (Decidable (_ ∧ _))

end

section

variable {services : RealmServices} {settings : RealmSettings} {realmId : String}

theorem statusBlind_attenuates : StatusBlind (Attenuates services) :=
  statusBlind_of_authority fun _ _ =>
    ⟨fun h => ⟨⟨h.resource, h.actions, h.deniedActions, h.sourceSpaces, h.effects,
      h.modelProviders, h.credentialClasses⟩, h.accepts, h.budget, h.lifetime⟩,
    fun h => ⟨⟨h.resource, h.actions, h.deniedActions, h.sourceSpaces, h.effects,
      h.modelProviders, h.credentialClasses⟩, h.accepts, h.budget, h.lifetime⟩⟩

/-- The parent a delegation was checked against is the one its Grant names. -/
theorem DelegationAsks.parent {R : RealmCapabilityGrant → RealmCapabilityGrant → Prop}
    {s : RealmState} (hledger : Ledger R realmId s.toRealmRecords) {input : AgentDelegationInput}
    {asked : CreateTaskGrantInput} (h : DelegationAsks services s input asked) {id : String}
    {parent : RealmCapabilityGrant} (hid : truthy asked.parentGrantId = some id)
    (hparent : s.grants.get? id = some parent) :
    s.grants.get? input.parentGrantId = some parent ∧
      resourceMatches parent.resource { asked.resource with realmId := s.realm.id } = true ∧
      asked.actions = input.actions ∧ asked.deniedActions = none ∧
      asked.budget = some (input.budget.getD .empty) ∧ asked.expiresAt ≠ none := by
  obtain ⟨parentSession, agentSession, task, parties, scope, consentAt, hdelegable, rfl⟩ := h
  have hkey : parties.parentGrant.id = input.parentGrantId :=
    hledger.keyed _ _ hdelegable.parent
  obtain ⟨hsome, -⟩ := truthy_eq_some.mp hid
  obtain rfl : parties.parentGrant.id = id := Option.some.inj hsome
  rw [hkey, hdelegable.parent] at hparent
  cases hparent
  refine ⟨hdelegable.parent, ?_, rfl, rfl, ?_, nofun⟩
  · -- the resource that was compared is already of this Realm
    have hresource := hdelegable.resource
    have hrealm : input.resource.realmId = s.realm.id := by
      rw [← (resourceMatches_iff.mp hresource).1, hledger.ofRealm _ _ hdelegable.parent,
        hledger.realm]
    rw [← hrealm]
    exact hresource
  · rw [hdelegable.scope]
    rfl

/-- A method whose derivations narrow derives Grants that attenuate. -/
theorem establishes_attenuates {s : RealmState}
    (hledger : Ledger (Attenuates services) realmId s.toRealmRecords)
    {operation : PolicyOperation} {drawn : RealmDrawn} {clock : RealmClock}
    (h : operation.Narrows services settings s clock) :
    Establishes services settings (Attenuates services) s operation drawn clock := by
  intro mid asked now id parent hquiet hasks hid hparent hwidens hdate
  refine (attenuates_newGrant_iff hwidens hdate).mpr ?_
  rw [hquiet.realm]
  cases operation with
  | createCapabilityGrant input =>
    obtain ⟨rfl, rfl⟩ := hasks
    exact h id hid parent hparent
  | createOwnerTaskGrant input =>
    have hnone : asked.parentGrantId = none := hasks
    rw [hnone] at hid
    cases hid
  | delegateAgent input =>
    obtain ⟨hget, hresource, hactions, hdenied, hbudget, hgiven⟩ :=
      DelegationAsks.parent hledger hasks hid hparent
    obtain ⟨hopen, hdimensions⟩ := h parent hget
    refine ⟨⟨hresource, fun action hmem hp => absurd hp ?_⟩, ?_, fun hnone => absurd hnone hgiven⟩
    · rw [hactions] at hmem
      exact hopen action hmem
    · rw [hbudget]
      exact hdimensions
  | _ => exact hasks.elim

/-- **Delegation attenuates**, along every run whose derivations narrow what their checks leave
open: every derived Grant has its parent, and lies within it. -/
theorem RealmRun.attenuates {options : RealmIdentityPolicyOptions} {createdAt : String}
    {tr system} (h : RealmRun services settings (NarrowingCall services settings) options createdAt
      tr system) {k : String} {g : RealmCapabilityGrant}
    (hg : system.policy.grants.get? k = some g) {id : String} (hid : parentGrant g = some id) :
    ∃ p, system.policy.grants.get? id = some p ∧ Attenuates services g p := by
  have hledgers := h.ledgers statusBlind_attenuates (fun system call hcall =>
    ⟨hcall.1, fun operation hoperation hledger =>
      establishes_attenuates hledger (hcall.2 operation hoperation)⟩) rfl
  exact (hledgers _ (.inl rfl)).parents k g id hg hid

end

namespace Sample

/-- A Grant in one project, and a Grant derived from it in another. -/
def widening : List RealmCall :=
  session ++ [call "6" (grantOf "project:1" none), call "7" (grantOf "project:2" (some "grant:6"))]

/-- A Grant in one project, and a Grant derived from it in the same one. -/
def narrowing : List RealmCall :=
  session ++ [call "6" (grantOf "project:1" none), call "7" (grantOf "project:1" (some "grant:6"))]

/-- A request to inspect a project. -/
def inspect (projectId : String) : PolicyContext where
  input := {
    operation := "project.inspect"
    principalId := "principal:1"
    actorId := "actor:3"
    clientId := "client:anyam-web"
    sessionId := "session:3"
    taskId := some "task:4"
    grantId := some "grant:7"
    resource := project projectId }
  capability := .projectInspect
  requestedSourceSpaceId := none
  sourcePolicy := none
  hidden := false

end Sample

/-- **A derived Grant that is wider than its parent**: it is accepted for a project that its
parent is not accepted for. -/
theorem derived_wider_than_parent :
    ∃ tr system g p c,
      RealmRun Sample.services Sample.settings (fun system call => call.Fresh system)
        Sample.options "1970-01-01T00:00:00.000Z" tr system ∧
      system.policy.grants.get? "grant:7" = some g ∧ parentGrant g = some "grant:6" ∧
      system.policy.grants.get? "grant:6" = some p ∧
      grantAccepts c g = true ∧ grantAccepts c p = false := by
  have hrun : Admits (realmStep Sample.services Sample.settings)
      (fun system call => call.Fresh system) Sample.initial Sample.widening := by decide +kernel
  have hchild : ((Sample.after Sample.widening).policy.grants.get? "grant:7").any (fun g =>
      parentGrant g = some "grant:6" && grantAccepts (Sample.inspect "project:2") g) = true := by
    decide +kernel
  have hparent : ((Sample.after Sample.widening).policy.grants.get? "grant:6").any (fun p =>
      !grantAccepts (Sample.inspect "project:2") p) = true := by decide +kernel
  obtain ⟨g, hg, haccepts⟩ := (Option.any_eq_true ..).mp hchild
  obtain ⟨p, hp, hrejects⟩ := (Option.any_eq_true ..).mp hparent
  simp only [Bool.and_eq_true, decide_eq_true_eq] at haccepts
  exact ⟨_, _, g, p, _, run_exec hrun, hg, haccepts.1, hp, haccepts.2, by simpa using hrejects⟩

/-- A derived Grant in the project of its parent attenuates. -/
theorem RealmRun.attenuates_sample :
    ∃ g p, (Sample.after Sample.narrowing).policy.grants.get? "grant:7" = some g ∧
      (Sample.after Sample.narrowing).policy.grants.get? "grant:6" = some p ∧
      Attenuates Sample.services g p := by
  have hrun : Admits (realmStep Sample.services Sample.settings)
      (NarrowingCall Sample.services Sample.settings) Sample.initial Sample.narrowing := by
    decide +kernel
  have hchild : ((Sample.after Sample.narrowing).policy.grants.get? "grant:7").any (fun g =>
      parentGrant g = some "grant:6") = true := by decide +kernel
  obtain ⟨g, hg, hparent⟩ := (Option.any_eq_true ..).mp hchild
  obtain ⟨p, hp, hattenuates⟩ :=
    RealmRun.attenuates (run_exec hrun) hg (decide_eq_true_eq.mp hparent)
  exact ⟨g, p, hg, hp, hattenuates⟩

end Anyam.Identity
