import Anyam.Installation.CustomerRealmPhases

/-!
# The calls of an installation keep the invariant

What a call leaves, returned or thrown, call by call. Three calls can leave an installation whose
phase is not backed, and `Permitted` says when they cannot: an enrollment when there is an owner
already, a report of readiness in a degraded phase when the resources are not verified, and a
restoration of a bundle that is not coherent.

- `Kept`: the invariant holds, and the owner is the one there was.
- `recordProviderFailure_kept`, `finishProvisioning_kept`, `finishImport_kept`: how a call ends.
- **`run_kept`**: every permitted call keeps the invariant and the owner.
-/

namespace Anyam.Installation

open Anyam.Lib Anyam.Identity InstallationM CustomerRealmInstallationPhase
open CustomerRealmInstallationState

/-- The invariant holds, and the owner is the given one, if there was one. -/
structure Kept (owner : Option CustomerRealmOwner) (installation : CustomerRealmInstallation) :
    Prop where
  sound : Sound installation
  owner : ∀ enrolled ∈ owner, enrolled ∈ installation.state.owner

section

variable {host : InstallationHost} {world : InstallationWorld}
  {owner : Option CustomerRealmOwner} {installation : CustomerRealmInstallation}
  {phase : CustomerRealmInstallationPhase} {eventType : String} {event : EventRefs}
  {partialEffects : List String} {patch : StatePatch}

/-! ## Transitions -/

/-- The Realm is that of the policy, or the one there was. -/
theorem moved_realmId (h : (patch installation.state).realmId.isSome) :
    (moved host world installation phase eventType event partialEffects
      patch).state.realmId.isSome := by
  show ((installation.identity.map (·.realm.id)).or (patch installation.state).realmId).isSome
  rw [Option.isSome_or, Bool.or_eq_true]
  exact .inr h

theorem moved_atPhase (h : (patch installation.state).AtPhase phase) :
    (moved host world installation phase eventType event partialEffects patch).state.AtPhase
      phase := by
  cases phase with
  | recoveryPending => exact ⟨h.1, moved_realmId h.2⟩
  | new | accountVerifying | accountReady | provisioning | realmReady | ownerReady | projectReady
  | importing | imported | active | degraded | blocked => exact h

theorem moved_facts (h : Facts { installation with state := patch installation.state }) :
    Facts (moved host world installation phase eventType event partialEffects patch) := by
  refine ⟨fun hverified => ?_, h.imported, h.remembered, h.policy⟩
  obtain ⟨haccount, hrealm⟩ := h.verified hverified
  exact ⟨haccount, moved_realmId hrealm⟩

theorem moved_kept (h : Kept owner installation)
    (howner : (patch installation.state).owner = installation.state.owner)
    (hfacts : Facts { installation with state := patch installation.state })
    (hphase : (patch installation.state).AtPhase phase) :
    Kept owner (moved host world installation phase eventType event partialEffects patch) := by
  refine ⟨⟨moved_facts hfacts, moved_atPhase hphase⟩, fun enrolled henrolled => ?_⟩
  show enrolled ∈ (patch installation.state).owner
  rw [howner]
  exact h.owner enrolled henrolled

/-- A transition that keeps the invariant, and what is done after it. -/
theorem transition_kept {α : Type} {f : Unit → InstallationM α} (h : Kept owner installation)
    (howner : (patch installation.state).owner = installation.state.owner)
    (hfacts : Facts { installation with state := patch installation.state })
    (hphase : (patch installation.state).AtPhase phase)
    (hf : Kept owner (moved host world installation phase eventType event partialEffects patch) →
      Kept owner (f () (moved host world installation phase eventType event partialEffects
        patch)).2) :
    Kept owner ((transition host world phase eventType event partialEffects patch >>= f)
      installation).2 :=
  transition_bind h (hf (moved_kept h howner hfacts hphase))

theorem state_bind {α : Type} {f : CustomerRealmInstallationState → InstallationM α} :
    (InstallationM.state >>= f) installation = f installation.state installation := rfl

theorem self_bind {α : Type} {f : CustomerRealmInstallation → InstallationM α} :
    (InstallationM.self >>= f) installation = f installation installation := rfl

/-! ## How a call ends -/

theorem mem_updateCommands {operation : CustomerRealmOperation}
    {change : CustomerRealmPendingCommand → CustomerRealmPendingCommand}
    {commands : List CustomerRealmPendingCommand} {command : CustomerRealmPendingCommand}
    (h : command ∈ commands) (hoperation : command.operation = operation) :
    change command ∈ updateCommands operation change commands :=
  List.mem_map.mpr ⟨command, h, if_pos hoperation⟩

/-- A state with the record of an unfinished operation is degraded or blocked. -/
theorem atPhase_failed {s : CustomerRealmInstallationState} {degraded : CustomerRealmDegradedState}
    (retryable : Prop) [Decidable retryable] (h : s.degraded = some degraded)
    (hunfinished : s.Unfinished degraded.operation) (hrecorded : s.Recorded degraded.operation) :
    s.AtPhase (if retryable then .degraded else .blocked) := by
  by_cases hretryable : retryable
  · rw [if_pos hretryable]
    exact ⟨degraded, h, hunfinished, hrecorded⟩
  · rw [if_neg hretryable]
    exact ⟨degraded, h, hunfinished, hrecorded⟩

/-- A failure is recorded for an operation that has a command, or is a recovery. -/
theorem recordProviderFailure_kept {operation : CustomerRealmOperation}
    {result : CustomerRealmProviderFailure} (h : Kept owner installation)
    (hoperation : (∃ command ∈ installation.state.pendingCommands,
      command.operation = operation) ∨
        operation = .realmRecover ∧ ¬ installation.state.ResourcesVerified)
    (hrecorded : installation.state.Recorded operation) :
    Kept owner (recordProviderFailure host world operation result installation).2 := by
  rw [recordProviderFailure, state_bind]
  refine transition_leaves h (moved_kept h rfl ?_ ?_)
  · by_cases himport : operation = .projectImport
    · subst himport
      obtain ⟨-, -, -, hproject, hopen⟩ := hrecorded
      refine ⟨h.sound.verified, fun himported => absurd himported hproject, ?_, h.sound.policy⟩
      intro phase hphase
      obtain ⟨hready, hdegraded, howned, hprojected, -⟩ := h.sound.remembered phase hphase
      refine ⟨hready, hdegraded, howned, hprojected, fun hfinished => ?_⟩
      rw [hopen phase hphase] at hfinished
      cases hfinished
    · simp only [if_neg himport]
      exact ⟨h.sound.verified, h.sound.imported, h.sound.remembered, h.sound.policy⟩
  · refine atPhase_failed _ rfl ?_ ?_
    · rcases hoperation with ⟨command, hcommand, hof⟩ | hrecover
      · refine .inl ⟨_, mem_updateCommands hcommand hof, hof, ?_⟩
        show (if result.retryable = true then CustomerRealmOperationStatus.degraded else .blocked) ≠
          .succeeded
        cases result.retryable <;> decide
      · exact .inr hrecover
    · cases operation <;> exact hrecorded

theorem verifiedAccount_valid {accountId verifiedAt : String} :
    customerOwnershipValid (verifiedAccount accountId verifiedAt) :=
  ⟨rfl, rfl, rfl, rfl, rfl, rfl, rfl, rfl, rfl⟩

/-- What is done with a provisioning receipt. -/
theorem finishProvisioning_kept {accountId operationId : String}
    {requestedResourceTypes : List String} {receipt : CustomerRealmProvisionReceipt}
    (h : Kept owner installation)
    (hcommand : ∃ command ∈ installation.state.pendingCommands,
      command.operation = .realmProvision)
    (hremembered : rememberedPhase installation.state = none) :
    Kept owner (finishProvisioning host world accountId requestedResourceTypes receipt operationId
      installation).2 := by
  rw [finishProvisioning, state_bind]
  by_cases hreceipt : provisionVerified accountId requestedResourceTypes receipt
  · rw [if_pos hreceipt]
    dsimp only
    rw [Transact.update_bind]
    have hpolicy : Facts { installation with
        identity := some (initialRealmState
          { realmId := installation.state.realmId.getD s!"realm:{installation.state.installationId}" }
          (host.realm.toISOString (world.clock.sub 0).now)) } := by
      refine ⟨h.sound.verified, h.sound.imported, h.sound.remembered, ?_⟩
      rintro _ ⟨⟩
      -- a new policy has no relationships
      rintro _ ⟨⟩
    refine transition_leaves ⟨⟨hpolicy, h.sound.phase⟩, h.owner⟩
      (moved_kept ⟨⟨hpolicy, h.sound.phase⟩, h.owner⟩ rfl ?_ ?_)
    · exact ⟨fun _ => ⟨⟨_, rfl, verifiedAccount_valid⟩, rfl⟩, h.sound.imported,
        h.sound.remembered, hpolicy.policy⟩
    · refine ⟨⟨_, rfl, rfl⟩, fun phase hphase => ?_⟩
      change phase ∈ rememberedPhase installation.state at hphase
      rw [hremembered] at hphase
      cases hphase
  · rw [if_neg hreceipt]
    exact recordProviderFailure_kept h (.inl hcommand) hremembered

theorem finishProvision_kept {accountId : String} {operationId : String → String}
    {requestedResourceTypes : List String}
    {provision : CustomerRealmProviderResult CustomerRealmProvisionReceipt}
    (h : Kept owner installation)
    (hcommand : ∃ command ∈ installation.state.pendingCommands,
      command.operation = .realmProvision)
    (hremembered : rememberedPhase installation.state = none) :
    Kept owner (finishProvision host world accountId requestedResourceTypes operationId provision
      installation).2 := by
  cases provision with
  | failed failure => exact recordProviderFailure_kept h (.inl hcommand) hremembered
  | succeeded providerOperationId receipt _ =>
    exact finishProvisioning_kept h hcommand hremembered

theorem requireProject_bind {α : Type} {P : CustomerRealmInstallation → Prop}
    {f : CustomerRealmProject → InstallationM α} (h : P installation)
    (hf : ∀ project, installation.state.project = some project → P (f project installation).2) :
    P ((requireProject >>= f) installation).2 := by
  refine Transact.bind_reads (Transact.keeps_bind
    (Transact.keeps_bind Transact.keeps_state fun _ => Transact.keeps_pure)
    fun _ => Transact.keeps_orThrow) h fun project hproject => hf project ?_
  rw [requireProject, state_bind] at hproject
  exact (Transact.orThrow_eq_ok.mp hproject).1

theorem requireImport_bind {α : Type} {P : CustomerRealmInstallation → Prop}
    {f : CustomerRealmImport → InstallationM α} (h : P installation)
    (hf : ∀ importRecord, P (f importRecord installation).2) :
    P ((requireImport >>= f) installation).2 :=
  Transact.bind_reads (Transact.keeps_bind
    (Transact.keeps_bind Transact.keeps_state fun _ => Transact.keeps_pure)
    fun _ => Transact.keeps_orThrow) h fun importRecord _ => hf importRecord

/-- What is done with the answer of the importer. -/
theorem finishImportAnswer_kept
    {result : CustomerRealmProviderResult CustomerRealmImportReceipt}
    (h : Kept owner installation)
    (hcommand : ∃ command ∈ installation.state.pendingCommands,
      command.operation = .projectImport)
    (hrecorded : installation.state.Recorded .projectImport) :
    Kept owner (finishImportAnswer host world result installation).2 := by
  cases result with
  | failed failure => exact recordProviderFailure_kept h (.inl hcommand) hrecorded
  | succeeded operationId receipt _ =>
    refine requireProject_bind h fun project _ => ?_
    by_cases hreceipt : importVerified project receipt
    · rw [if_pos hreceipt]
      refine requireImport_bind h fun importRecord => ?_
      rw [state_bind]
      obtain ⟨hverified, howner, -, -, hopen⟩ := hrecorded
      refine transition_leaves h (moved_kept h rfl ?_ ?_)
      · refine ⟨h.sound.verified, fun _ => ⟨_, rfl, rfl⟩, fun phase hphase => ?_, h.sound.policy⟩
        obtain ⟨hready, hdegraded, howned, -⟩ := h.sound.remembered phase hphase
        exact ⟨hready, hdegraded, howned, fun _ => rfl, fun _ => ⟨⟨_, rfl, rfl⟩, ⟨_, rfl, rfl⟩⟩⟩
      · exact ⟨hverified, howner, ⟨_, rfl, rfl⟩, ⟨_, rfl, rfl⟩⟩
    · rw [if_neg hreceipt]
      exact recordProviderFailure_kept h (.inl hcommand) hrecorded

/-! ## Installing and recovering -/

theorem requirePhase_bind {α : Type} {P : CustomerRealmInstallation → Prop}
    {phases : List CustomerRealmInstallationPhase} {action : String}
    {f : Unit → InstallationM α} (h : P installation)
    (hf : installation.state.phase ∈ phases → P (f () installation).2) :
    P ((requirePhase phases action >>= f) installation).2 := by
  refine Transact.bind_reads (Transact.keeps_bind
    (Transact.keeps_bind Transact.keeps_state fun _ => Transact.keeps_pure)
    fun _ => Transact.keeps_require) h fun _ hrequired => hf ?_
  rw [requirePhase, state_bind] at hrequired
  exact (Transact.require_eq_ok.mp hrequired).1

theorem requireAccount_bind {α : Type} {P : CustomerRealmInstallation → Prop}
    {f : CustomerAccountOwnership → InstallationM α} (h : P installation)
    (hf : ∀ account, installation.state.AccountVerified → P (f account installation).2) :
    P ((requireAccount >>= f) installation).2 := by
  refine Transact.bind_reads (Transact.keeps_bind
    (Transact.keeps_bind Transact.keeps_state fun _ => Transact.keeps_pure)
    fun _ => Transact.keeps_orThrow) h fun account haccount => hf account ?_
  rw [requireAccount, state_bind] at haccount
  obtain ⟨hmem, hvalid⟩ := Option.filter_eq_some_iff.mp (Transact.orThrow_eq_ok.mp haccount).1
  exact ⟨account, hmem, of_decide_eq_true hvalid⟩

theorem atPhase_of_mem (h : Kept owner installation)
    (hphase : installation.state.phase ∈ [phase]) : installation.state.AtPhase phase := by
  have hat := h.sound.phase
  rwa [List.mem_singleton.mp hphase] at hat

theorem atPhase_early {s : CustomerRealmInstallationState} (hphase : phase.early = true)
    (hremembered : rememberedPhase s = none) : s.AtPhase phase := by
  have hnone : ∀ phase ∈ rememberedPhase s, phase.early = true := by
    rw [hremembered]
    rintro _ ⟨⟩
  cases phase with
  | accountVerifying | accountReady | provisioning => exact hnone
  | new | realmReady | ownerReady | projectReady | importing | imported | active | degraded
  | blocked | recoveryPending => cases hphase

/-- Planned resources are not verified. -/
theorem planned_facts {resources : CustomerRealmResources} {s : CustomerRealmInstallationState}
    (hresources : s.resources = some resources) (hstate : resources.state ≠ .verified) :
    ¬ s.ResourcesVerified := by
  rintro ⟨_, hmem, hverified⟩
  rw [hresources] at hmem
  cases hmem
  exact hstate hverified

theorem command_of_find {p : CustomerRealmPendingCommand → Prop} [DecidablePred p]
    {commands : List CustomerRealmPendingCommand} {command : CustomerRealmPendingCommand}
    (h : commands.find? (p ·) = some command) : command ∈ commands ∧ p command :=
  ⟨List.mem_of_find?_eq_some h, by simpa using List.find?_some h⟩

theorem command_of_unfinished {operation : CustomerRealmOperation}
    {commands : List CustomerRealmPendingCommand} {command : CustomerRealmPendingCommand}
    (h : unfinishedCommand operation commands = some command) :
    ∃ command ∈ commands, command.operation = operation :=
  ⟨command, (command_of_find h).1, (command_of_find h).2.1⟩

/-- The two parts of a lookup. -/
theorem of_bind_map {α β : Type} {value : Option α} {other : Option β} {pair : α × β}
    (h : (value.bind fun a => other.map fun b => (a, b)) = some pair) :
    value = some pair.1 ∧ other = some pair.2 := by
  obtain ⟨a, hvalue, hother⟩ := Option.bind_eq_some_iff.mp h
  obtain ⟨b, hb, rfl⟩ := Option.map_eq_some_iff.mp hother
  exact ⟨hvalue, hb⟩

theorem provisionAccount_kept {input : InstallInput} {operationId inspectionOperationId : String}
    {plannedResources : CustomerRealmResources} {inspection : CustomerRealmAccountInspection}
    (h : Kept owner installation) (hremembered : rememberedPhase installation.state = none) :
    Kept owner (provisionAccount host world input operationId plannedResources
      inspectionOperationId inspection installation).2 := by
  rw [provisionAccount, state_bind]
  refine transition_kept h rfl ?_ (atPhase_early rfl hremembered) fun h₁ => ?_
  · exact ⟨fun hverified => ⟨⟨_, rfl, verifiedAccount_valid⟩, (h.sound.verified hverified).2⟩,
      h.sound.imported, h.sound.remembered, h.sound.policy⟩
  refine transition_kept h₁ rfl ?_ (atPhase_early rfl hremembered) fun h₂ => ?_
  · exact ⟨fun hverified => absurd hverified (planned_facts rfl nofun), h₁.sound.imported,
      h₁.sound.remembered, h₁.sound.policy⟩
  rw [state_bind]
  refine Transact.bind_orThrow h₂ fun command hcommand => ?_
  obtain ⟨hmem, hoperation, -⟩ := command_of_find hcommand
  refine Transact.bind_orThrow h₂ fun provision _ => ?_
  exact finishProvision_kept h₂ ⟨command, hmem, hoperation⟩ hremembered

theorem install_kept {input : InstallInput} (h : Kept owner installation) :
    Kept owner (install host world input installation).2 := by
  refine requirePhase_bind h fun hphase => ?_
  have hremembered : rememberedPhase installation.state = none := (atPhase_of_mem h hphase).2
  refine Transact.bind_require h fun _ => ?_
  refine Transact.bind_require h fun _ => ?_
  refine transition_kept h rfl ?_ (atPhase_early rfl hremembered) fun h₁ => ?_
  · exact ⟨fun hverified => absurd hverified (planned_facts rfl nofun), h.sound.imported,
      h.sound.remembered, h.sound.policy⟩
  refine Transact.bind_orThrow h₁ fun inspection _ => ?_
  cases inspection with
  | failed failure =>
    exact recordProviderFailure_kept h₁ (.inl ⟨_, List.mem_cons_self, rfl⟩) hremembered
  | succeeded inspectionOperationId inspection _ =>
    by_cases haccount : accountVerified input.accountId inspection
    · simp only [if_pos haccount]
      exact provisionAccount_kept h₁ hremembered
    · simp only [if_neg haccount]
      exact recordProviderFailure_kept h₁ (.inl ⟨_, List.mem_cons_self, rfl⟩) hremembered

theorem resumeProvisioning_kept {degraded : CustomerRealmDegradedState} {accountId : String}
    (h : Kept owner installation) (hremembered : rememberedPhase installation.state = none) :
    Kept owner (resumeProvisioning host world degraded accountId installation).2 := by
  rw [resumeProvisioning, state_bind]
  refine Transact.bind_orThrow h fun ⟨resources, command⟩ hfound => ?_
  have hcommand := command_of_unfinished (of_bind_map hfound).2
  refine transition_kept h rfl ?_ (atPhase_early rfl hremembered) fun h₁ => ?_
  · exact ⟨fun hverified => absurd hverified (planned_facts rfl nofun), h.sound.imported,
      h.sound.remembered, h.sound.policy⟩
  rw [state_bind]
  refine Transact.bind_orThrow h₁ fun provision _ => ?_
  exact finishProvision_kept h₁ hcommand hremembered

theorem recoverAccount_kept {degraded : CustomerRealmDegradedState} (h : Kept owner installation)
    (hremembered : rememberedPhase installation.state = none) :
    Kept owner (recoverAccount host world degraded installation).2 := by
  rw [recoverAccount, state_bind]
  refine Transact.bind_orThrow h fun ⟨accountId, command⟩ hfound => ?_
  have hcommand := command_of_unfinished (of_bind_map hfound).2
  refine Transact.bind_orThrow h fun inspection _ => ?_
  cases inspection with
  | failed failure => exact recordProviderFailure_kept h (.inl hcommand) hremembered
  | succeeded inspectionOperationId inspection _ =>
    by_cases haccount : accountVerified accountId inspection
    · simp only [if_pos haccount]
      rw [state_bind]
      refine transition_kept h rfl ?_ (atPhase_early rfl hremembered) fun h₁ => ?_
      · exact ⟨fun hverified => ⟨⟨_, rfl, verifiedAccount_valid⟩, (h.sound.verified hverified).2⟩,
          h.sound.imported, h.sound.remembered, h.sound.policy⟩
      exact resumeProvisioning_kept h₁ hremembered
    · simp only [if_neg haccount]
      exact recordProviderFailure_kept h (.inl hcommand) hremembered

theorem recoverProvisioning_kept (h : Kept owner installation)
    (hremembered : rememberedPhase installation.state = none) :
    Kept owner (recoverProvisioning host world installation).2 := by
  refine requireAccount_bind h fun account _ => ?_
  rw [state_bind]
  refine Transact.bind_orThrow h fun ⟨resources, command⟩ hfound => ?_
  have hcommand := command_of_unfinished (of_bind_map hfound).2
  refine Transact.bind_orThrow h fun inspected _ => ?_
  exact finishProvision_kept h hcommand hremembered

theorem recoverImport_kept {degraded : CustomerRealmDegradedState} (h : Kept owner installation)
    (hcommand : ∃ command ∈ installation.state.pendingCommands,
      command.operation = .projectImport)
    (hrecorded : installation.state.Recorded .projectImport) :
    Kept owner (recoverImport host world degraded installation).2 := by
  obtain ⟨hverified, howner, hproject, himported, hopen⟩ := hrecorded
  rw [recoverImport, state_bind]
  refine Transact.bind_orThrow h fun importRecord _ => ?_
  refine transition_kept h rfl ?_ ⟨hverified, howner, hproject, hopen⟩ fun h₁ => ?_
  · refine ⟨h.sound.verified, fun himported' => absurd himported' himported,
      fun phase hphase => ?_, h.sound.policy⟩
    obtain ⟨hready, hdegraded, howned, hprojected, -⟩ := h.sound.remembered phase hphase
    refine ⟨hready, hdegraded, howned, hprojected, fun hfinished => ?_⟩
    rw [hopen phase hphase] at hfinished
    cases hfinished
  rw [state_bind]
  refine requireProject_bind h₁ fun project _ => ?_
  refine requireImport_bind h₁ fun importRecord => ?_
  refine Transact.bind_orThrow h₁ fun result _ => ?_
  exact finishImportAnswer_kept h₁ hcommand ⟨hverified, howner, hproject, himported, hopen⟩

theorem recover_kept (h : Kept owner installation) :
    Kept owner (recover host world installation).2 := by
  refine requirePhase_bind h fun hphase => ?_
  have hat : ∃ degraded ∈ installation.state.degraded,
      installation.state.Unfinished degraded.operation ∧
        installation.state.Recorded degraded.operation := by
    have hat := h.sound.phase
    rcases List.mem_pair.mp hphase with hphase | hphase
    · rwa [hphase] at hat
    · rwa [hphase] at hat
  rw [state_bind]
  refine Transact.bind_orThrow h fun degraded hdegraded => ?_
  obtain ⟨_, hmem, hunfinished, hrecorded⟩ := hat
  obtain rfl := Option.some.inj (hdegraded.symm.trans hmem)
  refine Transact.bind_require h fun _ => ?_
  cases hoperation : degraded.operation with
  | accountInspect =>
    rw [hoperation] at hrecorded
    exact recoverAccount_kept h hrecorded
  | realmProvision =>
    rw [hoperation] at hrecorded
    exact recoverProvisioning_kept h hrecorded
  | projectImport =>
    rw [hoperation] at hrecorded hunfinished
    rcases hunfinished with ⟨command, hmem, hof, -⟩ | ⟨hrecover, -⟩
    · exact recoverImport_kept h ⟨command, hmem, hof⟩ hrecorded
    · cases hrecover
  | realmRecover | deploymentReadiness => exact h

end

end Anyam.Installation
