import Anyam.Installation.CustomerRealm

/-!
# Phases and the facts behind them

What a phase of an installation says of its state, and the invariant that its calls keep under
the conditions of `Anyam.Installation.CustomerRealmCalls`.

- **`Backed`**: every phase is backed by the facts it stands for, and the policy has one owner.
- `Facts`: what holds in every phase, the remembered phase included.
- `AtPhase`, `Recorded`: what a phase, and the record of a failure, promise to what comes next.
- **`Sound.backed`**: the invariant implies `Backed`.
-/

namespace Anyam.Installation

open Anyam.Lib Anyam.Identity

/-! ## Groups of phases -/

namespace CustomerRealmInstallationPhase

/-- `realm-ready` and every later working phase. -/
def working : CustomerRealmInstallationPhase → Bool
  | realmReady | ownerReady | projectReady | importing | imported | active => true
  | _ => false

/-- `owner-ready` and later. -/
def owned : CustomerRealmInstallationPhase → Bool
  | ownerReady | projectReady | importing | imported | active => true
  | _ => false

/-- `project-ready` and later. -/
def projected : CustomerRealmInstallationPhase → Bool
  | projectReady | importing | imported | active => true
  | _ => false

def importFinished : CustomerRealmInstallationPhase → Bool
  | imported | active => true
  | _ => false

def failed : CustomerRealmInstallationPhase → Bool
  | degraded | blocked => true
  | _ => false

/-- The phases of an installation before its Realm. -/
def early : CustomerRealmInstallationPhase → Bool
  | accountVerifying | accountReady | provisioning => true
  | _ => false

end CustomerRealmInstallationPhase

open CustomerRealmInstallationPhase

/-! ## Facts of a state -/

namespace CustomerRealmInstallationState

variable (s : CustomerRealmInstallationState)

def AccountVerified : Prop := ∃ account ∈ s.account, customerOwnershipValid account

def ResourcesVerified : Prop := ∃ resources ∈ s.resources, resources.state = .verified

def ImportSucceeded : Prop := ∃ importRecord ∈ s.importRecord, importRecord.state = .succeeded

def ProjectImported : Prop := ∃ project ∈ s.project, project.state = .imported

/-- An operation that still has to be completed: a command of it has not succeeded. A recovery has
no command; it is complete once the resources are verified. -/
def Unfinished (operation : CustomerRealmOperation) : Prop :=
  (∃ command ∈ s.pendingCommands, command.operation = operation ∧ command.status ≠ .succeeded) ∨
    operation = .realmRecover ∧ ¬ s.ResourcesVerified

/-- What a phase asks for beyond the account and the resources. -/
def Done (phase : CustomerRealmInstallationPhase) : Prop :=
  (phase.owned = true → s.owner.isSome) ∧ (phase.projected = true → s.project.isSome) ∧
    (phase.importFinished = true → s.ProjectImported ∧ s.ImportSucceeded)

/-- No finished import is remembered. -/
def ImportOpen : Prop := ∀ phase ∈ rememberedPhase s, phase.importFinished = false

/-- What the record of a failure promises to the recovery. -/
def Recorded : CustomerRealmOperation → Prop
  | .accountInspect | .realmProvision => rememberedPhase s = none
  | .projectImport => s.ResourcesVerified ∧ s.owner.isSome ∧ s.project.isSome ∧
      ¬ s.ProjectImported ∧ s.ImportOpen
  | .realmRecover | .deploymentReadiness => True

/-- What a phase promises to the calls that are made in it. -/
def AtPhase : CustomerRealmInstallationPhase → Prop
  | .new => s.owner = none ∧ rememberedPhase s = none
  | .accountVerifying | .accountReady | .provisioning =>
    ∀ phase ∈ rememberedPhase s, phase.early = true
  | .realmReady => s.ResourcesVerified ∧ s.ImportOpen
  | .ownerReady => s.ResourcesVerified ∧ s.owner.isSome ∧ s.ImportOpen
  | .projectReady | .importing =>
    s.ResourcesVerified ∧ s.owner.isSome ∧ s.project.isSome ∧ s.ImportOpen
  | .imported | .active =>
    s.ResourcesVerified ∧ s.owner.isSome ∧ s.ProjectImported ∧ s.ImportSucceeded
  | .degraded | .blocked =>
    ∃ degraded ∈ s.degraded, s.Unfinished degraded.operation ∧ s.Recorded degraded.operation
  | .recoveryPending => ¬ s.ResourcesVerified ∧ s.realmId.isSome

end CustomerRealmInstallationState

/-- The owner relationships of a policy are of one Principal. -/
def OneOwner (relationships : OrderedMap String Relationship) : Prop :=
  ∀ binding ∈ relationships.values, ∀ binding' ∈ relationships.values,
    binding.role = .owner → binding'.role = .owner → binding.principalId = binding'.principalId

/-- No Principal of a policy is an owner. -/
def Ownerless (relationships : OrderedMap String Relationship) : Prop :=
  ∀ binding ∈ relationships.values, binding.role ≠ .owner

theorem Ownerless.oneOwner {relationships : OrderedMap String Relationship}
    (h : Ownerless relationships) : OneOwner relationships :=
  fun binding hbinding _ _ howner _ => absurd howner (h binding hbinding)

/-! ## What the phase of an installation stands for -/

/-- Every phase is backed by facts. -/
structure Backed (installation : CustomerRealmInstallation) : Prop where
  realm : installation.state.phase.working = true →
    installation.state.AccountVerified ∧ installation.state.ResourcesVerified ∧
      installation.state.realmId.isSome
  owner : installation.state.phase.owned = true → installation.state.owner.isSome
  project : installation.state.phase.projected = true → installation.state.project.isSome
  imported : installation.state.phase.importFinished = true → installation.state.ImportSucceeded
  recovery : installation.state.phase.failed = true →
    ∃ degraded ∈ installation.state.degraded,
      installation.state.Unfinished degraded.operation
  policy : ∀ identity ∈ installation.identity, OneOwner identity.relationships

/-- What holds of an installation in every phase. -/
structure Facts (installation : CustomerRealmInstallation) : Prop where
  verified : installation.state.ResourcesVerified →
    installation.state.AccountVerified ∧ installation.state.realmId.isSome
  imported : installation.state.ProjectImported → installation.state.ImportSucceeded
  remembered : ∀ phase ∈ rememberedPhase installation.state,
    phase ∈ readinessPhases ∧ phase ≠ .degraded ∧ installation.state.Done phase
  policy : ∀ identity ∈ installation.identity, OneOwner identity.relationships

/-- The invariant of an installation. -/
structure Sound (installation : CustomerRealmInstallation) : Prop extends Facts installation where
  phase : installation.state.AtPhase installation.state.phase

section

variable {s : CustomerRealmInstallationState} {phase : CustomerRealmInstallationPhase}
  {installation : CustomerRealmInstallation}

theorem CustomerRealmInstallationState.ProjectImported.isSome (h : s.ProjectImported) :
    s.project.isSome := by
  obtain ⟨project, hproject, -⟩ := h
  exact Option.isSome_of_mem hproject

/-- A working phase has verified resources. -/
theorem verified_of_working (h : s.AtPhase phase) (hphase : phase.working = true) :
    s.ResourcesVerified := by
  cases phase with
  | realmReady | ownerReady | projectReady | importing | imported | active => exact h.1
  | new | accountVerifying | accountReady | provisioning | degraded | blocked
  | recoveryPending => cases hphase

/-- A phase has what it asks for. -/
theorem done_of_atPhase (h : s.AtPhase phase) : s.Done phase := by
  cases phase with
  | ownerReady => exact ⟨fun _ => h.2.1, nofun, nofun⟩
  | projectReady | importing => exact ⟨fun _ => h.2.1, fun _ => h.2.2.1, nofun⟩
  | imported | active => exact ⟨fun _ => h.2.1, fun _ => h.2.2.1.isSome, fun _ => h.2.2⟩
  | new | accountVerifying | accountReady | provisioning | realmReady | degraded | blocked
  | recoveryPending => exact ⟨nofun, nofun, nofun⟩

/-- The invariant backs every phase. -/
theorem Sound.backed (h : Sound installation) : Backed installation := by
  obtain ⟨howned, hprojected, himported⟩ := done_of_atPhase h.phase
  refine ⟨fun hphase => ?_, howned, hprojected, fun hphase => (himported hphase).2,
    fun hphase => ?_, h.policy⟩
  · have hverified := verified_of_working h.phase hphase
    obtain ⟨haccount, hrealm⟩ := h.verified hverified
    exact ⟨haccount, hverified, hrealm⟩
  · have hat := h.phase
    generalize installation.state.phase = phase at hat hphase
    cases phase with
    | degraded | blocked =>
      obtain ⟨degraded, hdegraded, hunfinished, -⟩ := hat
      exact ⟨degraded, hdegraded, hunfinished⟩
    | new | accountVerifying | accountReady | provisioning | realmReady | ownerReady
    | projectReady | importing | imported | active | recoveryPending => cases hphase

end

/-! ## Transitions -/

section

variable (host : InstallationHost) (world : InstallationWorld)

/-- An installation after a transition that was saved. -/
def moved (installation : CustomerRealmInstallation) (phase : CustomerRealmInstallationPhase)
    (eventType : String) (event : EventRefs) (partialEffects : List String) (patch : StatePatch) :
    CustomerRealmInstallation :=
  { installation with
    state := nextState host world installation phase eventType event partialEffects patch }

variable {host world} {P : CustomerRealmInstallation → Prop}
  {installation : CustomerRealmInstallation} {phase : CustomerRealmInstallationPhase}
  {eventType : String} {event : EventRefs} {partialEffects : List String} {patch : StatePatch}

theorem transition_saved (h : world.saved eventType = true) :
    transition host world phase eventType event partialEffects patch installation =
      (.ok (), moved host world installation phase eventType event partialEffects patch) := by
  rw [transition, Transact.bind_of_ok (a := ()) (Transact.require_eq_ok.mpr ⟨h, rfl⟩)]
  rfl

theorem transition_failed (h : world.saved eventType ≠ true) :
    transition host world phase eventType event partialEffects patch installation =
      (.error .store, installation) := by
  rw [transition, Transact.bind_of_error]
  rw [Transact.require, Lib.require, if_neg h]

/-- A transition is saved, or leaves the installation as it was. -/
theorem transition_bind {α : Type} {f : Unit → InstallationM α} (hfailed : P installation)
    (hsaved : P (f () (moved host world installation phase eventType event partialEffects
      patch)).2) :
    P ((transition host world phase eventType event partialEffects patch >>= f)
      installation).2 := by
  by_cases hstore : world.saved eventType = true
  · rw [Transact.bind_of_ok (transition_saved hstore)]
    exact hsaved
  · rw [Transact.bind_of_error (transition_failed hstore)]
    exact hfailed

theorem transition_leaves (hfailed : P installation)
    (hsaved : P (moved host world installation phase eventType event partialEffects patch)) :
    P (transition host world phase eventType event partialEffects patch installation).2 := by
  by_cases hstore : world.saved eventType = true
  · rw [transition_saved hstore]
    exact hsaved
  · rw [transition_failed hstore]
    exact hfailed

end

end Anyam.Installation
