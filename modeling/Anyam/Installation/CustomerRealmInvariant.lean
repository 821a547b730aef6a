import Anyam.Installation.CustomerRealmCalls

/-!
# Phases of an installation over its runs

The calls that enroll, report, export and restore. A report of readiness resumes a phase that it
remembers from another report, or `realm-ready`: it can come back to `realm-ready` after an owner
was enrolled, or without any resources. An enrollment writes to the policy before its owner is
saved.

- `Coherent`, `Permitted`: the conditions under which a call keeps the invariant.
- **`run_kept`**: a permitted call keeps the invariant, and an owner that was enrolled.
-/

namespace Anyam.Installation

open Anyam.Lib Anyam.Identity Anyam.Kernel Anyam.Portability InstallationM
open CustomerRealmInstallationPhase CustomerRealmInstallationState

/-- A bundle whose state has the facts behind its phases, and whose Realm has one owner. -/
structure Coherent (bundle : CustomerRealmRecoveryBundle) : Prop where
  imported : bundle.state.ProjectImported → bundle.state.ImportSucceeded
  remembered : ∀ phase ∈ rememberedPhase bundle.state,
    phase ∈ readinessPhases ∧ phase ≠ .degraded ∧ bundle.state.Done phase
  policy : OneOwner bundle.realmSnapshot.relationships

/-- When a call keeps the phase and the facts together: an owner is enrolled when there is none; a
report of readiness that ends a degraded phase resumes one before the Realm, or finds the resources
verified; and what is restored is coherent. -/
def Permitted (installation : CustomerRealmInstallation) : InstallationCall → Prop
  | .enrollVerifiedOwner _ => installation.state.phase = .realmReady →
    installation.state.owner = none ∧
      ∀ identity ∈ installation.identity, Ownerless identity.relationships
  | .recordDeploymentReadiness input => input.status = .ready →
    installation.state.phase = .degraded →
      (∃ phase ∈ rememberedPhase installation.state, phase.early = true) ∨
        installation.state.ResourcesVerified
  | .restoreRecovery bundle => installation.state.phase = .new → Coherent bundle
  | .install _ | .createProject _ _ | .importProject _ | .recover | .exportRecovery _
  | .activateRecovery _ => True

section

variable {host : InstallationHost} {world : InstallationWorld}
  {owner : Option CustomerRealmOwner} {installation : CustomerRealmInstallation}

/-! ## The Project -/

theorem createProject_kept {project : Project} {sourceSpaceIds : List String}
    (h : Kept owner installation) :
    Kept owner (createProject host world project sourceSpaceIds installation).2 := by
  refine requirePhase_bind h fun hphase => ?_
  obtain ⟨hverified, howner, hopen⟩ := atPhase_of_mem h hphase
  rw [state_bind]
  refine Transact.bind_require h fun _ => ?_
  refine Transact.bind_require h fun _ => ?_
  refine transition_leaves h (moved_kept h rfl ?_ ⟨hverified, howner, rfl, hopen⟩)
  refine ⟨h.sound.verified, ?_, fun phase hphase => ?_, h.sound.policy⟩
  · rintro ⟨_, ⟨⟩, ⟨⟩⟩
  · obtain ⟨hready, hdegraded, howned, -⟩ := h.sound.remembered phase hphase
    refine ⟨hready, hdegraded, howned, fun _ => rfl, fun hfinished => ?_⟩
    rw [hopen phase hphase] at hfinished
    cases hfinished

theorem importProject_kept {input : ImportInput} (h : Kept owner installation) :
    Kept owner (importProject host world input installation).2 := by
  refine requirePhase_bind h fun hphase => ?_
  obtain ⟨hverified, howner, -, hopen⟩ := atPhase_of_mem h hphase
  refine Transact.bind_require h fun _ => ?_
  rw [state_bind]
  refine Transact.bind_require h fun _ => ?_
  refine requireProject_bind h fun project _ => ?_
  refine transition_kept h rfl ?_ ⟨hverified, howner, rfl, hopen⟩ fun h₁ => ?_
  · refine ⟨h.sound.verified, ?_, fun phase hphase => ?_, h.sound.policy⟩
    · rintro ⟨_, ⟨⟩, ⟨⟩⟩
    · obtain ⟨hready, hdegraded, howned, -⟩ := h.sound.remembered phase hphase
      refine ⟨hready, hdegraded, howned, fun _ => rfl, fun hfinished => ?_⟩
      rw [hopen phase hphase] at hfinished
      cases hfinished
  rw [state_bind]
  refine requireProject_bind h₁ fun project _ => ?_
  refine Transact.bind_orThrow h₁ fun result _ => ?_
  refine finishImportAnswer_kept h₁ ⟨_, List.mem_append_right _ (List.mem_singleton_self _), rfl⟩ ?_
  refine ⟨hverified, howner, rfl, ?_, hopen⟩
  rintro ⟨_, ⟨⟩, ⟨⟩⟩

/-! ## The owner -/

/-- The relationships of a policy are not written. -/
def SameRelationships (s s' : RealmState) : Prop := s.relationships = s'.relationships

instance : IsTrans RealmState SameRelationships := ⟨fun _ _ _ => Eq.trans⟩

instance : Std.Refl SameRelationships := ⟨fun _ => rfl⟩

theorem keeps_requirePrincipal {principalId : String} :
    Transact.Keeps SameRelationships (requirePrincipal principalId) :=
  Transact.keeps_bind Transact.keeps_state fun _ => Transact.keeps_orThrow

theorem keeps_createPrincipal {services : RealmServices} {id : Option String}
    {displayName : String} {drawn : RealmDrawn} {clock : RealmClock} :
    Transact.Keeps SameRelationships (createPrincipal services id displayName drawn clock) :=
  Transact.keeps_bind Transact.keeps_state fun _ =>
    Transact.keeps_bind Transact.keeps_require fun _ =>
      Transact.keeps_bind (Transact.keeps_update fun _ => rfl) fun _ => Transact.keeps_pure

theorem keeps_registerPasskey {principalId credentialId : String}
    {relyingPartyId : Option String} {signCount : Option Int} :
    Transact.Keeps SameRelationships
      (registerPasskey principalId credentialId relyingPartyId signCount) :=
  Transact.keeps_bind keeps_requirePrincipal fun _ =>
    Transact.keeps_bind Transact.keeps_state fun _ =>
      Transact.keeps_bind Transact.keeps_require fun _ =>
        Transact.keeps_bind (Transact.keeps_update fun _ => rfl) fun _ => Transact.keeps_pure

theorem keeps_registerOidcProvider {id : Option String} {issuer clientId : String}
    {drawn : RealmDrawn} :
    Transact.Keeps SameRelationships (registerOidcProvider id issuer clientId drawn) :=
  Transact.keeps_bind Transact.keeps_state fun _ =>
    Transact.keeps_bind Transact.keeps_require fun _ =>
      Transact.keeps_bind (Transact.keeps_update fun _ => rfl) fun _ => Transact.keeps_pure

theorem keeps_linkOidcIdentity {principalId issuer subject : String} :
    Transact.Keeps SameRelationships (linkOidcIdentity principalId issuer subject) :=
  Transact.keeps_bind keeps_requirePrincipal fun _ =>
    Transact.keeps_bind Transact.keeps_state fun _ =>
      Transact.keeps_bind Transact.keeps_orThrow fun _ =>
        Transact.keeps_bind Transact.keeps_require fun _ =>
          Transact.keeps_bind (Transact.keeps_update fun _ => rfl) fun _ => Transact.keeps_pure

theorem keeps_ofRealm {R : RealmState → RealmState → Prop} {α : Type} {m : RealmM α}
    (h : Transact.Keeps R m) : Transact.Keeps R (ofRealm m) := h

theorem keeps_registerAuthentication {principal : Principal} {authentication : OwnerAuthentication} :
    Transact.Keeps SameRelationships (registerAuthentication world principal authentication) := by
  cases authentication with
  | passkey credentialId receipt =>
    exact Transact.keeps_bind Transact.keeps_require fun _ =>
      Transact.keeps_bind (keeps_ofRealm keeps_registerPasskey) fun _ => Transact.keeps_pure
  | oidc issuer subject clientId receipt =>
    refine Transact.keeps_bind Transact.keeps_require fun _ =>
      Transact.keeps_bind Transact.keeps_state fun s => ?_
    by_cases hprovider : s.oidcProvider issuer = none
    · simp only [if_pos hprovider]
      exact Transact.keeps_bind (keeps_ofRealm keeps_registerOidcProvider) fun _ =>
        Transact.keeps_bind (keeps_ofRealm keeps_linkOidcIdentity) fun _ => Transact.keeps_pure
    · simp only [if_neg hprovider]
      exact Transact.keeps_bind (keeps_ofRealm keeps_linkOidcIdentity) fun _ =>
        Transact.keeps_pure

/-- A relationship is added to a policy without an owner. -/
theorem oneOwner_set {relationships : OrderedMap String Relationship} {id : String}
    {binding : Relationship} (h : Ownerless relationships) :
    OneOwner (relationships.set id binding) := by
  intro left hleft right hright hleftOwner hrightOwner
  have hnew {other : Relationship} (hmem : other ∈ (relationships.set id binding).values)
      (howner : other.role = .owner) : other = binding := by
    rcases OrderedMap.mem_values_set hmem with hother | hother
    · exact hother
    · exact absurd howner (h other hother)
  rw [hnew hleft hleftOwner, hnew hright hrightOwner]

variable (host world) in
/-- An enrollment, returned or thrown, adds at most one owner. -/
theorem enrollPrincipal_oneOwner (input : EnrollInput) (realmId : String) {identity : RealmState}
    (h : Ownerless identity.relationships) :
    OneOwner (enrollPrincipal host world input realmId identity).2.relationships := by
  let Same (s : RealmState) : Prop := SameRelationships identity s
  let One (s : RealmState) : Prop := OneOwner s.relationships
  have hdone {s : RealmState} (hs : Same s) : One s := Ownerless.oneOwner (hs ▸ h)
  refine Transact.bind_leaves (P := One) (Q := Same)
    (keeps_ofRealm keeps_createPrincipal identity) hdone fun principal s _ hs => ?_
  refine Transact.bind_leaves (P := One) (Q := Same)
    (Eq.trans hs (keeps_registerAuthentication s)) hdone fun _ s _ hs => ?_
  -- the relationship of the owner is written last
  refine Transact.bind_leaves (P := One) (Q := One) ?_ id fun _ _ _ hs => hs
  refine Transact.bind_leaves (P := One) (Q := Same)
    (Eq.trans hs (keeps_requirePrincipal s)) hdone fun _ s _ hs => ?_
  exact oneOwner_set (hs ▸ h)

theorem onPolicy_bind {α β : Type} {P : CustomerRealmInstallation → Prop} {identity : RealmState}
    {m : PolicyM α} {f : α → InstallationM β}
    (hm : P { installation with identity := some (m identity).2 })
    (hf : ∀ a, P (f a { installation with identity := some (m identity).2 }).2) :
    P ((onPolicy identity m >>= f) installation).2 :=
  Transact.bind_leaves
    (Q := fun next => next = { installation with identity := some (m identity).2 }) rfl
    (fun h => h ▸ hm) fun a _ _ hmid => hmid ▸ hf a

/-- A policy with one owner. -/
theorem Kept.policy {identity : RealmState} (h : Kept owner installation)
    (hpolicy : OneOwner identity.relationships) :
    Kept owner { installation with identity := some identity } := by
  refine ⟨⟨⟨h.sound.verified, h.sound.imported, h.sound.remembered, ?_⟩, h.sound.phase⟩, h.owner⟩
  rintro _ ⟨⟩
  exact hpolicy

theorem enrollVerifiedOwner_kept {input : EnrollInput} (h : Kept owner installation)
    (hpermitted : Permitted installation (.enrollVerifiedOwner input)) :
    Kept owner (enrollVerifiedOwner host world input installation).2 := by
  refine requirePhase_bind h fun hphase => ?_
  obtain ⟨hnone, hownerless⟩ := hpermitted (List.mem_singleton.mp hphase)
  obtain ⟨hverified, hopen⟩ := atPhase_of_mem h hphase
  refine Transact.bind_require h fun _ => ?_
  refine Transact.bind_require h fun _ => ?_
  refine Transact.bind_require h fun _ => ?_
  rw [self_bind]
  refine Transact.bind_orThrow h fun ⟨identity, realmId⟩ hfound => ?_
  have hidentity := (of_bind_map hfound).1
  have h₁ := h.policy (enrollPrincipal_oneOwner host world input realmId
    (hownerless identity hidentity))
  refine onPolicy_bind h₁ fun principal => ?_
  refine transition_leaves h₁ ⟨⟨moved_facts ?_, moved_atPhase ⟨hverified, rfl, hopen⟩⟩, ?_⟩
  · refine ⟨h₁.sound.verified, h₁.sound.imported, fun phase hphase => ?_, h₁.sound.policy⟩
    obtain ⟨hready, hdegraded, -, hprojected, hfinished⟩ := h₁.sound.remembered phase hphase
    exact ⟨hready, hdegraded, fun _ => rfl, hprojected, hfinished⟩
  · intro enrolled henrolled
    have hmem := h.owner enrolled henrolled
    rw [hnone] at hmem
    cases hmem

/-! ## Reports of readiness -/

variable (host world) in
/-- The command of a report is among the commands, with the outcome of the report. -/
theorem mem_readinessCommands (input : ReadinessInput) (s : CustomerRealmInstallationState) :
    ∃ command ∈ readinessCommands host world input s,
      command.operation = .deploymentReadiness ∧ command.status = input.status.commandStatus := by
  rw [readinessCommands]
  cases hfind : s.pendingCommands.find? (fun command =>
    command.operation = .deploymentReadiness ∧ command.operationId = input.operationId) with
  | none =>
    exact ⟨_, List.mem_append_right _ (List.mem_singleton_self _), rfl, rfl⟩
  | some existing =>
    obtain ⟨hmem, hoperation, -⟩ := command_of_find hfind
    exact ⟨_, List.mem_map.mpr ⟨existing, hmem, if_pos rfl⟩, hoperation, rfl⟩

/-- What is remembered after a report. -/
theorem remembered_of_report {input : ReadinessInput} {s s' : CustomerRealmInstallationState}
    (h : s'.deploymentReadiness = some (readinessRecord input s)) :
    rememberedPhase s' =
      (rememberedPhase s).or (if s.phase = .degraded then none else some s.phase) := by
  rw [rememberedPhase, h]
  rfl

/-- A phase can be resumed with its facts and, for a working phase, verified resources. -/
theorem atPhase_resumed {s : CustomerRealmInstallationState}
    {phase : CustomerRealmInstallationPhase} (hready : phase ∈ readinessPhases)
    (hdegraded : phase ≠ .degraded) (hdone : s.Done phase)
    (hverified : phase.working = true → s.ResourcesVerified)
    (hremembered : rememberedPhase s = some phase) : s.AtPhase phase := by
  obtain ⟨howned, hprojected, hfinished⟩ := hdone
  have hopen (h : phase.importFinished = false) : s.ImportOpen := by
    intro other hother
    rw [hremembered] at hother
    cases hother
    exact h
  cases phase with
  | accountReady | provisioning =>
    intro other hother
    rw [hremembered] at hother
    cases hother
    rfl
  | realmReady => exact ⟨hverified rfl, hopen rfl⟩
  | ownerReady => exact ⟨hverified rfl, howned rfl, hopen rfl⟩
  | projectReady | importing => exact ⟨hverified rfl, howned rfl, hprojected rfl, hopen rfl⟩
  | imported | active => exact ⟨hverified rfl, howned rfl, hfinished rfl⟩
  | degraded => exact absurd rfl hdegraded
  | new | accountVerifying | blocked | recoveryPending =>
    exact absurd hready (by decide)

/-- A phase in which a report is accepted, outside a degraded one, is before the Realm with nothing
later remembered, or has verified resources. -/
theorem verified_or_early {s : CustomerRealmInstallationState}
    {phase : CustomerRealmInstallationPhase} (h : s.AtPhase phase)
    (hready : phase ∈ readinessPhases) (hdegraded : phase ≠ .degraded) :
    s.ResourcesVerified ∨
      phase.early = true ∧ ∀ other ∈ rememberedPhase s, other.early = true := by
  cases phase with
  | accountReady | provisioning => exact .inr ⟨rfl, h⟩
  | realmReady | ownerReady | projectReady | importing | imported | active =>
    exact .inl (verified_of_working h rfl)
  | degraded => exact absurd rfl hdegraded
  | new | accountVerifying | blocked | recoveryPending =>
    exact absurd hready (by decide)

theorem not_early_of_working {phase : CustomerRealmInstallationPhase}
    (h : phase.working = true) : phase.early ≠ true := by
  revert h
  cases phase <;> decide

theorem recordDeploymentReadiness_kept {input : ReadinessInput} (h : Kept owner installation)
    (hpermitted : Permitted installation (.recordDeploymentReadiness input)) :
    Kept owner (recordDeploymentReadiness host world input installation).2 := by
  refine requirePhase_bind h fun hready => ?_
  refine Transact.bind_require h fun _ => ?_
  rw [state_bind]
  have hat := h.sound.phase
  -- what is remembered, before and after the report, has its facts
  have hremembered (s : CustomerRealmInstallationState)
      (hrecord : s.deploymentReadiness = some (readinessRecord input installation.state))
      (hdone : ∀ phase, installation.state.Done phase → s.Done phase) :
      ∀ phase ∈ rememberedPhase s,
        phase ∈ readinessPhases ∧ phase ≠ .degraded ∧ s.Done phase := by
    intro phase hphase
    rw [remembered_of_report hrecord] at hphase
    rcases Option.or_eq_some_iff.mp hphase with hphase | ⟨-, hphase⟩
    · obtain ⟨hready, hdegraded, hfacts⟩ := h.sound.remembered phase hphase
      exact ⟨hready, hdegraded, hdone phase hfacts⟩
    · by_cases hdegraded : installation.state.phase = .degraded
      · rw [if_pos hdegraded] at hphase
        cases hphase
      · rw [if_neg hdegraded] at hphase
        cases hphase
        exact ⟨hready, hdegraded, hdone _ (done_of_atPhase hat)⟩
  by_cases hinput : input.status = .ready
  · simp only [if_pos hinput]
    refine transition_leaves h (moved_kept h rfl ⟨h.sound.verified, h.sound.imported,
      hremembered _ rfl fun _ => id, h.sound.policy⟩ ?_)
    rw [resumedPhase]
    cases hphase : rememberedPhase installation.state with
    | some phase =>
      rw [Option.getD_some]
      obtain ⟨hresumable, hdegraded, hfacts⟩ := h.sound.remembered phase hphase
      refine atPhase_resumed hresumable hdegraded hfacts (fun hworking => ?_) ?_
      · show installation.state.ResourcesVerified
        by_cases hof : installation.state.phase = .degraded
        · refine (hpermitted hinput hof).resolve_left ?_
          rintro ⟨other, hother, hearly⟩
          cases hphase.symm.trans hother
          exact not_early_of_working hworking hearly
        · refine (verified_or_early hat hready hof).resolve_right ?_
          rintro ⟨-, hearly⟩
          exact not_early_of_working hworking (hearly phase hphase)
      · rw [remembered_of_report rfl, hphase]
        rfl
    | none =>
      rw [Option.getD_none]
      by_cases hof : installation.state.phase = .degraded
      · rw [if_pos hof]
        refine ⟨(hpermitted hinput hof).resolve_left ?_, ?_⟩
        · rintro ⟨_, hother, -⟩
          cases hphase.symm.trans hother
        · intro other hother
          rw [remembered_of_report rfl, hphase, if_pos hof] at hother
          cases hother
      · rw [if_neg hof]
        have hdone : installation.state.Done installation.state.phase := done_of_atPhase hat
        have hverified (hworking : installation.state.phase.working = true) :
            installation.state.ResourcesVerified := verified_of_working hat hworking
        refine atPhase_resumed hready hof hdone hverified ?_
        rw [remembered_of_report rfl, hphase, if_neg hof]
        rfl
  · simp only [if_neg hinput]
    refine transition_leaves h (moved_kept h rfl ⟨h.sound.verified, h.sound.imported,
      hremembered _ rfl fun _ => id, h.sound.policy⟩ ?_)
    refine atPhase_failed _ rfl ?_ trivial
    obtain ⟨command, hmem, hoperation, hstatus⟩ :=
      mem_readinessCommands host world input installation.state
    refine .inl ⟨command, hmem, hoperation, ?_⟩
    rw [hstatus]
    cases hof : input.status with
    | ready => exact absurd hof hinput
    | retryable | blocked => rintro ⟨⟩

/-! ## Recovery bundles -/

theorem keeps_requireProjectExport {s : CustomerRealmInstallationState}
    {projectExport : Option ProjectExport} :
    Transact.Keeps Eq (requireProjectExport host s projectExport) := by
  cases projectExport with
  | none => exact Transact.keeps_pure
  | some projectExport =>
    exact Transact.keeps_bind Transact.keeps_ofExcept fun _ => Transact.keeps_require

theorem exportRecovery_kept {projectExport : Option ProjectExport} (h : Kept owner installation) :
    Kept owner (exportRecovery host world projectExport installation).2 := by
  rw [exportRecovery, self_bind]
  refine Transact.bind_orThrow h fun found _ => ?_
  refine Transact.bind_reads keeps_requireProjectExport h fun _ _ => ?_
  refine transition_kept h rfl h.sound.toFacts h.sound.phase fun h₁ => ?_
  rw [state_bind]
  exact Transact.bind_require h₁ fun _ => h₁

/-- A policy that is restored from a snapshot with one owner. -/
theorem restorePolicy_oneOwner {snapshot : RealmRecoverySnapshot} {identity : RealmState}
    (hsnapshot : OneOwner snapshot.relationships) (h : OneOwner identity.relationships) :
    OneOwner (restorePolicy snapshot identity).2.relationships := by
  let One (s : RealmState) : Prop := OneOwner s.relationships
  refine Transact.bind_leaves (P := One) (Q := One) ?_ id fun _ _ _ hs => hs
  refine Transact.bind_require (P := One) h fun _ => ?_
  refine Transact.bind_leaves (P := One) (Q := fun s => identity = s) rfl (fun hs => hs ▸ h)
    fun _ s _ _ => ?_
  exact Transact.bind_require (P := One) (by subst_vars; exact h) fun _ => hsnapshot

theorem restoreRecovery_kept {bundle : CustomerRealmRecoveryBundle} (h : Kept owner installation)
    (hpermitted : Permitted installation (.restoreRecovery bundle)) :
    Kept owner (restoreRecovery host world bundle installation).2 := by
  refine Transact.bind_require h fun _ => ?_
  refine requirePhase_bind h fun hphase => ?_
  have hcoherent := hpermitted (List.mem_singleton.mp hphase)
  have hnone : installation.state.owner = none := (atPhase_of_mem h hphase).1
  rw [state_bind]
  refine Transact.bind_require h fun _ => ?_
  refine Transact.bind_require h fun _ => ?_
  have hinitial (realmId createdAt : String) :
      OneOwner (initialRealmState { realmId } createdAt).relationships := by
    rintro _ ⟨⟩
  have h₁ (realmId createdAt : String) :=
    h.policy (restorePolicy_oneOwner hcoherent.policy (hinitial realmId createdAt))
  refine onPolicy_bind (h₁ _ _) fun realmSnapshot => ?_
  have hplanned : ¬ (restoredState bundle realmSnapshot).ResourcesVerified := by
    rintro ⟨resources, hresources, hverified⟩
    obtain ⟨_, -, rfl⟩ := Option.map_eq_some_iff.mp hresources
    cases hverified
  refine transition_leaves (h₁ _ _) ⟨⟨moved_facts ?_, moved_atPhase ⟨hplanned, rfl⟩⟩, ?_⟩
  · exact ⟨fun hverified => absurd hverified hplanned, hcoherent.imported, hcoherent.remembered,
      (h₁ _ _).sound.policy⟩
  · intro enrolled henrolled
    have hmem := h.owner enrolled henrolled
    rw [hnone] at hmem
    cases hmem

/-- The phase of an activation has what it asks for. -/
theorem atPhase_activated {s s' : CustomerRealmInstallationState}
    (hverified : s'.ResourcesVerified) (howner : s'.owner.isSome) (hproject : s'.project = s.project)
    (himported : s'.ProjectImported → s'.ImportSucceeded)
    (hremembered : ∀ phase ∈ rememberedPhase s', s'.Done phase) :
    s'.AtPhase (activatedPhase s) := by
  have hopen (hnot : ¬ s'.ProjectImported) : s'.ImportOpen := by
    intro phase hphase
    obtain ⟨-, -, hfinished⟩ := hremembered phase hphase
    exact Bool.eq_false_iff.mpr fun h => hnot (hfinished h).1
  rw [activatedPhase]
  cases hof : s.project with
  | none =>
    refine ⟨hverified, howner, hopen ?_⟩
    rintro ⟨_, hmem, -⟩
    rw [hproject, hof] at hmem
    cases hmem
  | some project =>
    by_cases hstate : project.state = .imported
    · simp only [if_pos hstate]
      have hdone : s'.ProjectImported := ⟨project, hproject.trans hof, hstate⟩
      exact ⟨hverified, howner, hdone, himported hdone⟩
    · simp only [if_neg hstate]
      refine ⟨hverified, howner, by rw [hproject, hof]; rfl, hopen ?_⟩
      rintro ⟨_, hmem, himported⟩
      rw [hproject, hof] at hmem
      cases hmem
      exact hstate himported

theorem activateRecovery_kept {input : ActivateInput} (h : Kept owner installation) :
    Kept owner (activateRecovery host world input installation).2 := by
  refine requirePhase_bind h fun hphase => ?_
  obtain ⟨hnot, hrealm⟩ := atPhase_of_mem h hphase
  rw [self_bind]
  refine Transact.bind_require h fun hinput => ?_
  have howner : installation.state.owner.isSome := by
    obtain ⟨enrolled, henrolled, -⟩ := Option.map_eq_some_iff.mp hinput.2.symm
    exact Option.isSome_of_mem henrolled
  refine requireAccount_bind h fun account haccount => ?_
  refine Transact.bind_orThrow h fun resources _ => ?_
  refine Transact.bind_orThrow h fun inspected _ => ?_
  cases inspected with
  | failed failure => exact recordProviderFailure_kept h (.inr ⟨rfl, hnot⟩) trivial
  | succeeded _ receipt _ =>
    refine Transact.bind_orThrow h fun identity _ => ?_
    refine transition_leaves h (moved_kept h rfl ?_ ?_)
    · exact ⟨fun _ => ⟨haccount, hrealm⟩, h.sound.imported, h.sound.remembered, h.sound.policy⟩
    · exact atPhase_activated ⟨_, rfl, rfl⟩ howner rfl h.sound.imported
        fun phase hphase => (h.sound.remembered phase hphase).2.2

/-! ## Runs -/

/-- A permitted call keeps the invariant and the owner. -/
theorem run_kept {call : InstallationCall} (h : Kept owner installation)
    (hpermitted : Permitted installation call) :
    Kept owner (call.run host world installation).2 := by
  cases call with
  | install input => exact install_kept h
  | enrollVerifiedOwner input => exact enrollVerifiedOwner_kept h hpermitted
  | createProject project sourceSpaceIds => exact createProject_kept h
  | importProject input => exact importProject_kept h
  | recordDeploymentReadiness input => exact recordDeploymentReadiness_kept h hpermitted
  | recover => exact recover_kept h
  | exportRecovery projectExport =>
    exact Transact.bind_leaves (exportRecovery_kept h) id fun _ _ _ h => h
  | restoreRecovery bundle => exact restoreRecovery_kept h hpermitted
  | activateRecovery input => exact activateRecovery_kept h

/-- A new installation. -/
theorem newInstallation_sound (installationId now : String) :
    Sound (newInstallation host installationId now) := by
  refine ⟨⟨?_, ?_, ?_, ?_⟩, rfl, rfl⟩
  · rintro ⟨_, ⟨⟩, -⟩
  · rintro ⟨_, ⟨⟩, -⟩
  · rintro _ ⟨⟩
  · rintro _ ⟨⟩

end

end Anyam.Installation
