import Anyam.Governance.Profiles
import Anyam.Lib.Run

/-!
# Replaying a Governance Profile

A bundle has a profile, the observations of it and what they came to; a replay registers the
profile in another registry and evaluates the observations there. The evaluation is of the first
profile that the registry has under the identifier, which can be of another version; and a bundle
is exported without the scan for credential material that its verification makes.

- `judge`: what observations come to against a profile, without the records that are written.
- `evaluate_ready_iff`: when an evaluation is ready.
- `Sound`: what holds of a registry in every state.
- `Faithful`: what a replay promises.
- **`replay_faithful_iff`**: a bundle is accepted exactly when the scan finds nothing, and replayed
  faithfully exactly when the target has no other first profile of the identifier.
-/

namespace Anyam.Governance

open Anyam.Lib Anyam.Kernel Anyam.Identity Anyam.Extensions GovernanceM

/-! ## What observations come to -/

def controlBlockers (control : GovernanceControl) (observation : GovernanceControlObservation) :
    List String :=
  if observation.status = .failed ∧ control.required = true then
    [s!"Control {control.id} failed; next={observation.nextAction}."]
  else if observation.status = .indeterminate ∧ control.required = true then
    [s!"Control {control.id} is indeterminate; next={observation.nextAction}."]
  else []

def controlAdvisories (control : GovernanceControl) (observation : GovernanceControlObservation) :
    List String :=
  if control.required = true ∨ observation.status = .satisfied then []
  else [s!"Control {control.id} is {observation.status.text}; next={observation.nextAction}."]

/-- What is said of the controls, and the statuses that were observed. -/
structure Findings where
  statuses : List ControlStatus
  blockers : List String
  advisories : List String
deriving DecidableEq, Repr

def findings (observed : OrderedMap String GovernanceControlObservation) :
    List GovernanceControl → Findings
  | [] => ⟨[], [], []⟩
  | control :: controls =>
    let rest := findings observed controls
    match observed.get? control.id with
    | none =>
      if control.required then { rest with blockers := missingMessage control :: rest.blockers }
      else { rest with advisories := missingMessage control :: rest.advisories }
    | some observation => {
      statuses := observation.status :: rest.statuses
      blockers := controlBlockers control observation ++ rest.blockers
      advisories := controlAdvisories control observation ++ rest.advisories }

structure Verdict where
  status : EvaluationStatus
  blockers : List String
  advisories : List String
deriving DecidableEq, Repr

def GovernanceEvaluation.verdict (evaluation : GovernanceEvaluation) : Verdict where
  status := evaluation.status
  blockers := evaluation.blockers
  advisories := evaluation.advisories

/-- What observations come to against a profile. -/
def judge (profile : ProfileDefinition) (observations : List GovernanceControlObservation) :
    Checked Verdict := do
  let controls ← controlMap profile.controls
  let observed ← readObservations profile.id controls .empty observations
  let found := findings observed controls.values
  return {
    status := evaluationStatus found.blockers (found.statuses.any (· = .indeterminate))
    blockers := found.blockers
    advisories := found.advisories }

section

variable {services : GovernanceServices} {realm : GovernanceRealm} {drawn : GovernanceDrawn}
  {profile : GovernanceProfile} {scope : GovernanceScope}
  {observed : OrderedMap String GovernanceControlObservation}
  {registry registry' : GovernanceProfileRegistry}

/-- A tally has these findings: the evidence of each is under its own identifier. -/
structure Tallied (drawn : GovernanceDrawn) (tally : Tally) (found : Findings) : Prop where
  ids : tally.evidenceIds = (List.range found.statuses.length).map drawn.evidenceId
  evidence : ∀ i status, found.statuses[i]? = some status →
    (tally.evidence.get? (drawn.evidenceId i)).map (·.status) = some status
  blockers : tally.blockers = found.blockers
  advisories : tally.advisories = found.advisories

theorem tallyObservation_eq {control : GovernanceControl}
    {observation : GovernanceControlObservation} {tally : Tally} :
    tallyObservation control observation tally = { tally with
      blockers := tally.blockers ++ controlBlockers control observation
      advisories := tally.advisories ++ controlAdvisories control observation } := by
  unfold tallyObservation controlBlockers controlAdvisories
  cases hstatus : observation.status <;> cases hrequired : control.required <;>
    simp [Tally.block, Tally.advise]

/-- The findings of the controls that were read, and of those that follow. -/
def Findings.append (found rest : Findings) : Findings where
  statuses := found.statuses ++ rest.statuses
  blockers := found.blockers ++ rest.blockers
  advisories := found.advisories ++ rest.advisories

theorem tallied_foldl {controls : List GovernanceControl} {tally : Tally} {found : Findings}
    (h : Tallied drawn tally found) :
    Tallied drawn (controls.foldl (tallyControl services realm drawn profile scope observed) tally)
      (found.append (findings observed controls)) := by
  induction controls generalizing tally found with
  | nil => simpa [findings, Findings.append] using h
  | cons control controls ih =>
    rw [List.foldl_cons, findings, tallyControl]
    cases hobserved : observed.get? control.id with
    | none =>
      dsimp only
      cases hrequired : control.required with
      | true =>
        have hnext : Tallied drawn (tally.block (missingMessage control))
            { found with blockers := found.blockers ++ [missingMessage control] } :=
          ⟨h.ids, h.evidence, congrArg (· ++ _) h.blockers, h.advisories⟩
        simpa [Findings.append] using ih hnext
      | false =>
        have hnext : Tallied drawn (tally.advise (missingMessage control))
            { found with advisories := found.advisories ++ [missingMessage control] } :=
          ⟨h.ids, h.evidence, h.blockers, congrArg (· ++ _) h.advisories⟩
        simpa [Findings.append] using ih hnext
    | some observation =>
      dsimp only
      rw [tallyObservation_eq]
      have hlength : tally.evidenceIds.length = found.statuses.length := by
        rw [h.ids, List.length_map, List.length_range]
      have hnext : Tallied drawn { tally with
            evidence := tally.evidence.set (drawn.evidenceId tally.evidenceIds.length)
              (controlEvidence services realm profile scope
                (drawn.evidenceId tally.evidenceIds.length) control.id observation)
            evidenceIds := tally.evidenceIds ++ [drawn.evidenceId tally.evidenceIds.length]
            blockers := tally.blockers ++ controlBlockers control observation
            advisories := tally.advisories ++ controlAdvisories control observation }
          { statuses := found.statuses ++ [observation.status]
            blockers := found.blockers ++ controlBlockers control observation
            advisories := found.advisories ++ controlAdvisories control observation } := by
        refine ⟨?_, fun i status hstatus => ?_, congrArg (· ++ _) h.blockers,
          congrArg (· ++ _) h.advisories⟩
        · rw [hlength, List.length_append, List.length_singleton, List.range_succ, List.map_append,
            h.ids]
          rfl
        · rw [hlength]
          rcases Nat.lt_or_ge i found.statuses.length with hlt | hge
          · rw [List.getElem?_append_left hlt] at hstatus
            rw [OrderedMap.get?_set_ne _ _ fun heq => Nat.ne_of_lt hlt (drawn.distinct heq)]
            exact h.evidence i status hstatus
          · rw [List.getElem?_append_right hge] at hstatus
            have hzero := (List.getElem?_eq_some_iff.mp hstatus).1
            rw [List.length_singleton] at hzero
            have hi : i = found.statuses.length := by omega
            subst hi
            rw [Nat.sub_self] at hstatus
            rw [OrderedMap.get?_set_self]
            exact hstatus
      simpa [Findings.append] using ih hnext

/-- Some evidence of an evaluation is indeterminate exactly when an observation is. -/
theorem Tallied.any_indeterminate {tally : Tally} {found : Findings}
    (h : Tallied drawn tally found) :
    (tally.evidenceIds.any fun id =>
        (tally.evidence.get? id).any (·.status = .indeterminate)) =
      found.statuses.any (· = .indeterminate) := by
  have hstatus (i : Nat) (hi : i < found.statuses.length) :
      (tally.evidence.get? (drawn.evidenceId i)).any (·.status = .indeterminate) =
        decide (found.statuses[i] = .indeterminate) := by
    have hget := h.evidence i found.statuses[i] (List.getElem?_eq_getElem hi)
    obtain ⟨evidence, hevidence, hof⟩ := Option.map_eq_some_iff.mp hget
    rw [hevidence, Option.any_some, hof]
  rw [Bool.eq_iff_iff, List.any_eq_true, List.any_eq_true, h.ids]
  constructor
  · rintro ⟨id, hid, hany⟩
    obtain ⟨i, hi, rfl⟩ := List.mem_map.mp hid
    have hlt := List.mem_range.mp hi
    rw [hstatus i hlt] at hany
    exact ⟨_, List.getElem_mem hlt, hany⟩
  · rintro ⟨status, hmem, hany⟩
    obtain ⟨i, hlt, rfl⟩ := List.getElem_of_mem hmem
    exact ⟨_, List.mem_map_of_mem (List.mem_range.mpr hlt), (hstatus i hlt).trans hany⟩

/-! ## What a method returned -/

theorem requireProfile_ok {profileId : String}
    (h : requireProfile profileId registry = (.ok profile, registry')) :
    registry.getProfile profileId = some profile ∧ registry = registry' := by
  obtain ⟨read, mid, hread, hfound⟩ := Transact.bind_eq_ok.mp h
  obtain ⟨rfl, rfl⟩ := Transact.state_eq_ok.mp hread
  exact Transact.orThrow_eq_ok.mp hfound

theorem getProfile_id {profileId : String} (h : registry.getProfile profileId = some profile) :
    profile.id = profileId := by
  simpa using List.find?_some h

theorem getProfile_mem {profileId : String} (h : registry.getProfile profileId = some profile) :
    profile ∈ registry.profiles.values :=
  List.mem_of_find?_eq_some h

/-- An evaluation judges the first profile of the identifier, and leaves the profiles. -/
theorem evaluate_ok {input : EvaluateGovernanceProfileInput} {evaluation : GovernanceEvaluation}
    (h : evaluate services realm drawn input registry = (.ok evaluation, registry')) :
    ∃ profile, registry.getProfile input.profileId = some profile ∧
      evaluation.profileId = profile.id ∧ evaluation.profileDigest = profile.digest ∧
      judge profile.toProfileDefinition input.observations = .ok evaluation.verdict ∧
      registry'.profiles = registry.profiles := by
  unfold evaluate at h
  obtain ⟨profile, mid, hprofile, h⟩ := Transact.bind_eq_ok.mp h
  obtain ⟨hfound, rfl⟩ := requireProfile_ok hprofile
  obtain ⟨_, mid, hscope, h⟩ := Transact.bind_eq_ok.mp h
  obtain ⟨-, rfl⟩ := Transact.ofExcept_eq_ok.mp hscope
  obtain ⟨read, mid, hread, h⟩ := Transact.bind_eq_ok.mp h
  obtain ⟨rfl, rfl⟩ := Transact.state_eq_ok.mp hread
  obtain ⟨_, mid, hactive, h⟩ := Transact.bind_eq_ok.mp h
  obtain ⟨-, rfl⟩ := Transact.require_eq_ok.mp hactive
  obtain ⟨_, mid, hallowed, h⟩ := Transact.bind_eq_ok.mp h
  obtain ⟨-, rfl⟩ := Transact.require_eq_ok.mp hallowed
  obtain ⟨controls, mid, hread, h⟩ := Transact.bind_eq_ok.mp h
  obtain ⟨hcontrols, rfl⟩ := Transact.ofExcept_eq_ok.mp hread
  obtain ⟨observed, mid, hread, h⟩ := Transact.bind_eq_ok.mp h
  obtain ⟨hobserved, rfl⟩ := Transact.ofExcept_eq_ok.mp hread
  obtain ⟨_, mid, hwritten, h⟩ := Transact.bind_eq_ok.mp h
  obtain rfl := Transact.update_eq_ok.mp hwritten
  obtain ⟨rfl, rfl⟩ := Transact.pure_eq_ok.mp h
  have htallied : Tallied drawn (controls.values.foldl
      (tallyControl services realm drawn profile input.scope observed)
      { evidence := registry.evidence }) (findings observed controls.values) := by
    have hstart : Tallied drawn { evidence := registry.evidence } ⟨[], [], []⟩ :=
      ⟨rfl, fun _ _ hstatus => absurd hstatus nofun, rfl, rfl⟩
    simpa [Findings.append] using tallied_foldl hstart
  refine ⟨profile, hfound, rfl, rfl, ?_, rfl⟩
  simp only [judge, hcontrols, hobserved, bind, Except.bind]
  rw [← htallied.any_indeterminate, ← htallied.blockers, ← htallied.advisories]
  rfl

/-! ## What a ready evaluation says -/

/-- The controls that are read are those of the profile. -/
theorem readControls_ok {read result : OrderedMap String GovernanceControl}
    {controls : List GovernanceControl} (hkeyed : OrderedMap.SelfKeyed (·.id) read)
    (h : readControls read controls = .ok result) :
    result.values = read.values ++ controls ∧ OrderedMap.SelfKeyed (·.id) result := by
  induction controls generalizing read with
  | nil =>
    cases h
    exact ⟨(List.append_nil _).symm, hkeyed⟩
  | cons control controls ih =>
    simp only [readControls, bind_eq_ok, require_eq_ok, exists_unit] at h
    obtain ⟨-, -, -, -, -, hnew, hrest⟩ := h
    obtain ⟨hvalues, hresult⟩ := ih (hkeyed.set rfl) hrest
    rw [OrderedMap.values_set_of_not_mem _ (OrderedMap.not_mem_keys_iff.mpr hnew),
      List.append_assoc] at hvalues
    exact ⟨hvalues, hresult⟩

/-- An observation is read under its control, which the profile declares. -/
theorem readObservations_ok {profileId : String} {controls : OrderedMap String GovernanceControl}
    {read : OrderedMap String GovernanceControlObservation}
    {observations : List GovernanceControlObservation}
    (h : readObservations profileId controls read observations = .ok observed) :
    (∀ id o, observed.get? id = some o ↔
      read.get? id = some o ∨ o ∈ observations ∧ o.controlId = id) ∧
      ∀ o ∈ observations, (controls.get? o.controlId).isSome := by
  induction observations generalizing read with
  | nil =>
    cases h
    exact ⟨by simp, nofun⟩
  | cons observation observations ih =>
    simp only [readObservations, bind_eq_ok, require_eq_ok, exists_unit] at h
    obtain ⟨hknown, hnew, -, -, -, -, -, hrest⟩ := h
    obtain ⟨hget, hall⟩ := ih hrest
    refine ⟨fun id o => ?_, List.forall_mem_cons.mpr ⟨hknown, hall⟩⟩
    rw [hget, OrderedMap.get?_set]
    grind

theorem findings_blockers_eq_nil {controls : List GovernanceControl} :
    (findings observed controls).blockers = [] ↔ ∀ control ∈ controls, control.required = true →
      (observed.get? control.id).map (·.status) = some .satisfied := by
  induction controls with
  | nil => simp [findings]
  | cons control controls ih =>
    rw [List.forall_mem_cons, ← ih, findings]
    cases observed.get? control.id with
    | none => cases hrequired : control.required <;> simp
    | some observation =>
      cases hstatus : observation.status <;> cases hrequired : control.required <;>
        simp [controlBlockers, hstatus, hrequired]

theorem mem_findings_statuses {controls : List GovernanceControl} {status : ControlStatus} :
    status ∈ (findings observed controls).statuses ↔
      ∃ control ∈ controls, (observed.get? control.id).map (·.status) = some status := by
  induction controls with
  | nil => simp [findings]
  | cons control controls ih =>
    rw [List.exists_mem_cons_iff, ← ih, findings]
    cases observed.get? control.id with
    | none => cases hrequired : control.required <;> simp
    | some observation => simp [eq_comm]

/-- **When an evaluation is ready**: every required control of the profile was observed to be
satisfied, and no observation is indeterminate. -/
theorem evaluate_ready_iff {input : EvaluateGovernanceProfileInput}
    {evaluation : GovernanceEvaluation}
    (h : evaluate services realm drawn input registry = (.ok evaluation, registry')) :
    ∃ profile, registry.getProfile input.profileId = some profile ∧
      (evaluation.status = .ready ↔
        (∀ control ∈ profile.controls, control.required = true →
          ∃ o ∈ input.observations, o.controlId = control.id ∧ o.status = .satisfied) ∧
        ∀ o ∈ input.observations, o.status ≠ .indeterminate) := by
  obtain ⟨profile, hprofile, -, -, hjudged, -⟩ := evaluate_ok h
  simp only [judge, controlMap, bind_eq_ok, require_eq_ok, exists_unit, pure_eq_ok] at hjudged
  obtain ⟨_, ⟨controls, hcontrols, -, rfl⟩, observed, hobserved, hverdict⟩ := hjudged
  obtain ⟨hvalues, hkeyed⟩ := readControls_ok (OrderedMap.selfKeyed_empty _) hcontrols
  obtain ⟨hget, hknown⟩ := readObservations_ok hobserved
  have hof (id : String) (status : ControlStatus) :
      (observed.get? id).map (·.status) = some status ↔
        ∃ o ∈ input.observations, o.controlId = id ∧ o.status = status := by
    simp only [Option.map_eq_some_iff, hget, OrderedMap.get?_empty, reduceCtorEq, false_or,
      and_assoc]
  have hready : evaluation.status = .ready ↔ (findings observed controls.values).blockers = [] ∧
      ControlStatus.indeterminate ∉ (findings observed controls.values).statuses := by
    rw [show evaluation.status = evaluation.verdict.status from rfl, ← hverdict]
    simp only [evaluationStatus]
    grind
  refine ⟨profile, hprofile, hready.trans (and_congr ?_ ?_)⟩
  · simp only [findings_blockers_eq_nil, hof]
    rw [hvalues]
    rfl
  · rw [mem_findings_statuses]
    simp only [hof]
    constructor
    · rintro hnone o ho hstatus
      obtain ⟨control, hcontrol⟩ := Option.isSome_iff_exists.mp (hknown o ho)
      exact hnone ⟨control, OrderedMap.mem_values_of_get? hcontrol, o, ho,
        (hkeyed _ _ hcontrol).symm, hstatus⟩
    · rintro hnone ⟨_, -, o, ho, -, hstatus⟩
      exact hnone o ho hstatus

/-! ## The profiles over a run -/

/-- What holds of a registry in every state: a profile is stored under its key, and has the digest
of its definition. -/
structure Sound (services : GovernanceServices) (registry : GovernanceProfileRegistry) : Prop where
  keyed : OrderedMap.SelfKeyed profileKey registry.profiles
  digests : ∀ profile ∈ registry.profiles.values,
    services.profileDigest profile.toProfileDefinition = profile.digest

theorem Sound.of_profiles (h : Sound services registry)
    (hprofiles : registry'.profiles = registry.profiles) : Sound services registry' :=
  ⟨hprofiles ▸ h.keyed, hprofiles ▸ h.digests⟩

theorem Sound.set (h : Sound services registry)
    (hdigest : services.profileDigest profile.toProfileDefinition = profile.digest)
    (hprofiles : registry'.profiles = registry.profiles.set (profileKey profile) profile) :
    Sound services registry' := by
  refine ⟨hprofiles ▸ h.keyed.set rfl, fun other hother => ?_⟩
  rw [hprofiles] at hother
  rcases OrderedMap.mem_values_set hother with rfl | hold
  · exact hdigest
  · exact h.digests other hold

theorem storeProfile_sound (h : Sound services registry)
    (hdigest : services.profileDigest profile.toProfileDefinition = profile.digest) :
    Sound services (storeProfile profile registry) := by
  unfold storeProfile
  split
  · exact h
  · exact h.set hdigest rfl

theorem checkProfile_digest (h : checkProfile services realm profile = .ok ()) :
    services.profileDigest profile.toProfileDefinition = profile.digest := by
  simp only [checkProfile, bind_eq_ok, require_eq_ok, exists_unit] at h
  obtain ⟨-, -, -, -, -, -, -, -, _, -, -, hdigest⟩ := h
  exact hdigest

/-- A profile that was stored is the first of its identifier, unless there was one before. -/
theorem getProfile_storeProfile {found : GovernanceProfile}
    (h : (storeProfile profile registry).getProfile profile.id = some found) :
    registry.getProfile profile.id = some found ∨
      registry.getProfile profile.id = none ∧ found = profile := by
  unfold storeProfile at h
  split at h
  · exact .inl h
  · next hnew =>
    have hkey : profileKey profile ∉ registry.profiles.keys := by
      rw [OrderedMap.not_mem_keys_iff]
      exact Option.not_isSome_iff_eq_none.mp hnew
    rw [GovernanceProfileRegistry.getProfile, OrderedMap.values_set_of_not_mem _ hkey,
      List.find?_append, Option.or_eq_some_iff] at h
    rcases h with hold | ⟨hnone, hlast⟩
    · exact .inl hold
    · refine .inr ⟨hnone, ?_⟩
      have := List.mem_of_find?_eq_some hlast
      exact List.mem_singleton.mp this

/-- The first value that a test finds, written again under its key, is the first one still. -/
theorem find?_replace {α : Type} {key : α → String} {p : α → Bool} {v w : α}
    {entries : List (String × α)} (hkeyed : ∀ entry ∈ entries, key entry.2 = entry.1)
    (hfound : (entries.map Prod.snd).find? p = some v) (hw : p w = true) :
    ((OrderedMap.replace (key v) w entries).map Prod.snd).find? p = some w := by
  induction entries with
  | nil => cases hfound
  | cons entry entries ih =>
    have hrest := ih fun other hother => hkeyed other (List.mem_cons_of_mem _ hother)
    have hhead := hkeyed entry List.mem_cons_self
    rw [List.map_cons, List.find?_cons] at hfound
    by_cases hkey : entry.1 = key v
    · simp [OrderedMap.replace, hkey, hw]
    · cases hp : p entry.2 with
      | true =>
        rw [hp] at hfound
        cases hfound
        exact absurd hhead.symm hkey
      | false =>
        rw [hp] at hfound
        simpa [OrderedMap.replace, hkey, hp] using hrest hfound

/-- What an activation leaves. -/
theorem activateProfile_ok {profileId : String} {authorization : ExtensionAuthorization} {u : Unit}
    (h : activateProfile realm drawn profileId scope authorization registry = (.ok u, registry')) :
    ∃ profile, registry.getProfile profileId = some profile ∧
      registry'.profiles = registry.profiles.set (profileKey profile)
        { profile with lifecycle := .active } := by
  unfold activateProfile at h
  obtain ⟨profile, mid, hprofile, h⟩ := Transact.bind_eq_ok.mp h
  obtain ⟨hfound, rfl⟩ := requireProfile_ok hprofile
  obtain ⟨_, mid, hretired, h⟩ := Transact.bind_eq_ok.mp h
  obtain ⟨-, rfl⟩ := Transact.require_eq_ok.mp hretired
  obtain ⟨_, mid, hscope, h⟩ := Transact.bind_eq_ok.mp h
  obtain ⟨-, rfl⟩ := Transact.ofExcept_eq_ok.mp hscope
  obtain ⟨_, mid, hallowed, h⟩ := Transact.bind_eq_ok.mp h
  obtain ⟨-, rfl⟩ := Transact.require_eq_ok.mp hallowed
  obtain rfl := Transact.update_eq_ok.mp h
  exact ⟨profile, hfound, rfl⟩

/-- An activation keeps the first profile of its identifier, but for its lifecycle. -/
theorem getProfile_activated {profileId : String} (h : Sound services registry)
    (hfound : registry.getProfile profileId = some profile)
    (hprofiles : registry'.profiles = registry.profiles.set (profileKey profile)
      { profile with lifecycle := .active }) :
    registry'.getProfile profileId = some { profile with lifecycle := .active } := by
  obtain ⟨key, hget⟩ := OrderedMap.mem_values_iff.mp (getProfile_mem hfound)
  have hkey : profileKey profile ∈ registry.profiles.keys := by
    rw [h.keyed key profile hget]
    exact OrderedMap.mem_keys_of_get? hget
  rw [GovernanceProfileRegistry.getProfile, hprofiles, OrderedMap.set, dif_pos hkey]
  exact find?_replace (OrderedMap.selfKeyed_iff.mp h.keyed) hfound
    (by simpa using getProfile_id hfound)

theorem Sound.activated {profileId : String} (h : Sound services registry)
    (hfound : registry.getProfile profileId = some profile)
    (hprofiles : registry'.profiles = registry.profiles.set (profileKey profile)
      { profile with lifecycle := .active }) : Sound services registry' := by
  let active : GovernanceProfile := { profile with lifecycle := .active }
  have hdigest : services.profileDigest active.toProfileDefinition = active.digest :=
    h.digests profile (getProfile_mem hfound)
  exact h.set hdigest hprofiles

theorem keeps_requireProfile {profileId : String} : Transact.Keeps Eq (requireProfile profileId) :=
  Transact.keeps_bind Transact.keeps_state fun _ => Transact.keeps_orThrow

theorem activateProfile_sound {profileId : String} {authorization : ExtensionAuthorization}
    (h : Sound services registry) :
    Sound services (activateProfile realm drawn profileId scope authorization registry).2 := by
  refine Transact.bind_reads keeps_requireProfile h fun profile hprofile => ?_
  obtain ⟨hfound, -⟩ := requireProfile_ok hprofile
  refine Transact.bind_require h fun _ => ?_
  refine Transact.bind_reads Transact.keeps_ofExcept h fun _ _ => ?_
  refine Transact.bind_reads Transact.keeps_require h fun _ _ => ?_
  exact h.activated hfound rfl

theorem evaluate_sound {input : EvaluateGovernanceProfileInput} (h : Sound services registry) :
    Sound services (evaluate services realm drawn input registry).2 := by
  refine Transact.bind_reads keeps_requireProfile h fun profile _ => ?_
  refine Transact.bind_reads Transact.keeps_ofExcept h fun _ _ => ?_
  refine Transact.bind_reads Transact.keeps_state h fun _ _ => ?_
  refine Transact.bind_require h fun _ => ?_
  refine Transact.bind_reads Transact.keeps_require h fun _ _ => ?_
  refine Transact.bind_reads Transact.keeps_ofExcept h fun controls _ => ?_
  refine Transact.bind_reads Transact.keeps_ofExcept h fun observed _ => ?_
  exact h.of_profiles rfl

theorem registerProfile_sound (h : Sound services registry) :
    Sound services (registerProfile services realm profile registry).2 := by
  refine Transact.bind_reads Transact.keeps_ofExcept h fun _ hchecked => ?_
  exact storeProfile_sound h (checkProfile_digest (Transact.ofExcept_eq_ok.mp hchecked).1)

theorem exportProfile_sound {profileId : String} {input : EvaluateGovernanceProfileInput}
    (h : Sound services registry) :
    Sound services (exportProfile services realm drawn profileId input registry).2 := by
  refine Transact.bind_require h fun _ => ?_
  refine Transact.bind_reads keeps_requireProfile h fun profile _ => ?_
  exact Transact.bind_leaves (evaluate_sound h) id fun _ _ _ h => h

theorem replay_sound {bundle : GovernanceProfileExport} {input : ReplayGovernanceProfileInput}
    (h : Sound services registry) :
    Sound services (replay services realm drawn bundle input registry).2 := by
  refine Transact.bind_reads Transact.keeps_ofExcept h fun verified _ => ?_
  refine Transact.bind_reads Transact.keeps_ofExcept h fun _ _ => ?_
  refine Transact.bind_leaves (registerProfile_sound h) id fun _ mid _ h => ?_
  refine Transact.bind_reads Transact.keeps_state h fun read _ => ?_
  by_cases hactive : read.applicationFor (targetProfile verified input.scope) input.scope = none
  · simp only [if_pos hactive]
    exact Transact.bind_leaves (activateProfile_sound h) id fun _ _ _ h => evaluate_sound h
  · simp only [if_neg hactive]
    exact evaluate_sound h

end

/-- The calls of a registry. -/
inductive GovernanceCall
  | registerProfile (profile : GovernanceProfile)
  | activateProfile (profileId : String) (scope : GovernanceScope)
      (authorization : ExtensionAuthorization)
  | evaluate (input : EvaluateGovernanceProfileInput)
  | exportProfile (profileId : String) (input : EvaluateGovernanceProfileInput)
  | replay (bundle : GovernanceProfileExport) (input : ReplayGovernanceProfileInput)

structure GovernanceOp where
  call : GovernanceCall
  realm : GovernanceRealm
  drawn : GovernanceDrawn

def GovernanceOp.run (services : GovernanceServices) (op : GovernanceOp) : GovernanceM Unit :=
  match op.call with
  | .registerProfile profile => registerProfile services op.realm profile
  | .activateProfile profileId scope authorization =>
    activateProfile op.realm op.drawn profileId scope authorization
  | .evaluate input => do let _ ← evaluate services op.realm op.drawn input
  | .exportProfile profileId input => do
    let _ ← exportProfile services op.realm op.drawn profileId input
  | .replay bundle input => do let _ ← replay services op.realm op.drawn bundle input

/-- A call runs to its end; what it wrote before it threw stays. -/
def governanceStep (services : GovernanceServices) (op : GovernanceOp)
    (registry : GovernanceProfileRegistry) :
    Except GovernanceProfileError Unit × GovernanceProfileRegistry :=
  op.run services registry

abbrev GovernanceRun (services : GovernanceServices)
    (tr : List (Transition GovernanceProfileRegistry GovernanceOp
      (Except GovernanceProfileError Unit))) (registry : GovernanceProfileRegistry) : Prop :=
  Run (governanceStep services) (fun _ _ => True) {} tr registry

theorem sound_of_run {services : GovernanceServices} {registry : GovernanceProfileRegistry}
    {tr : List (Transition GovernanceProfileRegistry GovernanceOp
      (Except GovernanceProfileError Unit))} (hrun : GovernanceRun services tr registry) :
    Sound services registry := by
  refine hrun.invariant (Sound services) ⟨OrderedMap.selfKeyed_empty _, ?_⟩ fun s op h _ => ?_
  · rintro _ ⟨⟩
  · obtain ⟨call, realm, drawn⟩ := op
    cases call with
    | registerProfile profile => exact registerProfile_sound h
    | activateProfile profileId scope authorization => exact activateProfile_sound h
    | evaluate input => exact Transact.bind_leaves (evaluate_sound h) id fun _ _ _ h => h
    | exportProfile profileId input =>
      exact Transact.bind_leaves (exportProfile_sound h) id fun _ _ _ h => h
    | replay bundle input => exact Transact.bind_leaves (replay_sound h) id fun _ _ _ h => h

/-! ## Export and replay -/

/-- The evaluation of a replay is of the profile of the bundle, and comes to what the evaluation in
the bundle does. -/
structure Faithful (bundle : GovernanceProfileExport) (evaluation : GovernanceEvaluation)
    (target : GovernanceProfileRegistry) : Prop where
  digest : evaluation.profileDigest = bundle.profile.digest
  controls : (target.getProfile evaluation.profileId).map (·.controls) = some bundle.profile.controls
  verdict : evaluation.verdict = bundle.evaluation.verdict

/-- The first profile that a registry has under the identifier, if any, is that of the bundle. -/
def FirstIs (bundle : GovernanceProfileExport) (target : GovernanceProfileRegistry) : Prop :=
  ∀ profile ∈ target.getProfile bundle.profile.id, profile.digest = bundle.profile.digest

section

variable {services : GovernanceServices} {realm : GovernanceRealm} {drawn : GovernanceDrawn}
  {registry registry' : GovernanceProfileRegistry} {bundle : GovernanceProfileExport}

/-- What is exported. -/
structure Exported (services : GovernanceServices) (bundle : GovernanceProfileExport) : Prop where
  protocol : bundle.protocol = "anyam.governance-profile-export/v1" ∧ bundle.version = "v1" ∧
    bundle.credentialFree = true
  integrity : services.exportDigest bundle.toExportContents = bundle.integrityDigest
  digest : services.profileDigest bundle.profile.toProfileDefinition = bundle.profile.digest
  judged : judge bundle.profile.toProfileDefinition bundle.observations =
    .ok bundle.evaluation.verdict

theorem exportProfile_ok {profileId : String} {input : EvaluateGovernanceProfileInput}
    (h : Sound services registry)
    (hexport : exportProfile services realm drawn profileId input registry =
      (.ok bundle, registry')) : Exported services bundle := by
  unfold exportProfile at hexport
  obtain ⟨_, mid, hchecked, hexport⟩ := Transact.bind_eq_ok.mp hexport
  obtain ⟨hsame, rfl⟩ := Transact.require_eq_ok.mp hchecked
  obtain ⟨profile, mid, hprofile, hexport⟩ := Transact.bind_eq_ok.mp hexport
  obtain ⟨hfound, rfl⟩ := requireProfile_ok hprofile
  obtain ⟨evaluation, mid, hevaluated, hexport⟩ := Transact.bind_eq_ok.mp hexport
  obtain ⟨judged, hjudged, -, -, hverdict, -⟩ := evaluate_ok hevaluated
  obtain ⟨rfl, -⟩ := Transact.pure_eq_ok.mp hexport
  rw [hsame, hfound] at hjudged
  obtain rfl := Option.some.inj hjudged
  exact ⟨⟨rfl, rfl, rfl⟩, rfl, h.digests profile (getProfile_mem hfound), hverdict⟩

theorem verifyGovernanceProfileExport_eq_ok {verified : GovernanceProfileExport}
    (h : verifyGovernanceProfileExport services bundle = .ok verified) :
    truthy (services.scanCredentialMaterial bundle.toExportContents) = none ∧
      services.profileDigest bundle.profile.toProfileDefinition = bundle.profile.digest ∧
      bundle = verified := by
  simp only [verifyGovernanceProfileExport, bind_eq_ok, require_eq_ok, exists_const,
    pure_eq_ok] at h
  obtain ⟨-, -, hscanned, hdigest, hsame⟩ := h
  exact ⟨hscanned, hdigest, hsame⟩

/-- An exported bundle passes its verification exactly when the scan finds nothing. -/
theorem Exported.verified_iff (h : Exported services bundle) :
    verifyGovernanceProfileExport services bundle = .ok bundle ↔
      truthy (services.scanCredentialMaterial bundle.toExportContents) = none := by
  refine ⟨fun hverified => (verifyGovernanceProfileExport_eq_ok hverified).1, fun hscanned => ?_⟩
  simp only [verifyGovernanceProfileExport, bind_eq_ok, require_eq_ok, exists_const, pure_eq_ok,
    and_true]
  exact ⟨h.protocol, h.integrity, hscanned, h.digest⟩

/-- What a replay evaluated: the first profile of the identifier in the target, which is that of
the bundle when there was none. -/
theorem replay_ok {input : ReplayGovernanceProfileInput} {evaluation : GovernanceEvaluation}
    (h : Sound services registry) (hinput : input.observations = none)
    (hreplay : replay services realm drawn bundle input registry = (.ok evaluation, registry')) :
    ∃ profile, registry'.getProfile bundle.profile.id = some profile ∧
      evaluation.profileId = bundle.profile.id ∧ evaluation.profileDigest = profile.digest ∧
      judge profile.toProfileDefinition bundle.observations = .ok evaluation.verdict ∧
      Sound services registry' ∧
      ((∃ first, registry.getProfile bundle.profile.id = some first ∧
          profile.digest = first.digest) ∨
        registry.getProfile bundle.profile.id = none ∧ profile.digest = bundle.profile.digest) := by
  have hsound : Sound services registry' := by
    have hleft : Sound services (replay services realm drawn bundle input registry).2 :=
      replay_sound h
    rwa [hreplay] at hleft
  unfold replay at hreplay
  obtain ⟨verified, mid, hread, hreplay⟩ := Transact.bind_eq_ok.mp hreplay
  obtain ⟨hverified, rfl⟩ := Transact.ofExcept_eq_ok.mp hread
  obtain ⟨-, -, rfl⟩ := verifyGovernanceProfileExport_eq_ok hverified
  obtain ⟨_, mid, hscope, hreplay⟩ := Transact.bind_eq_ok.mp hreplay
  obtain ⟨-, rfl⟩ := Transact.ofExcept_eq_ok.mp hscope
  obtain ⟨_, mid, hregistered, hreplay⟩ := Transact.bind_eq_ok.mp hreplay
  obtain ⟨_, mid', hread, hwritten⟩ := Transact.bind_eq_ok.mp hregistered
  obtain ⟨hchecked, rfl⟩ := Transact.ofExcept_eq_ok.mp hread
  obtain rfl := Transact.update_eq_ok.mp hwritten
  have hstored := storeProfile_sound h (checkProfile_digest hchecked)
  obtain ⟨read, mid, hread, hreplay⟩ := Transact.bind_eq_ok.mp hreplay
  obtain ⟨rfl, rfl⟩ := Transact.state_eq_ok.mp hread
  -- the profile that is evaluated is the first one that was stored, but for its lifecycle
  have hevaluated : ∃ ready stored, evaluate services realm drawn {
        profileId := (targetProfile bundle input.scope).id
        scope := input.scope
        observations := input.observations.getD bundle.observations
        authorization := input.authorization } ready = (.ok evaluation, registry') ∧
      (storeProfile (targetProfile bundle input.scope) registry).getProfile
        bundle.profile.id = some stored ∧
      ∀ profile, ready.getProfile bundle.profile.id = some profile →
        profile.digest = stored.digest := by
    split at hreplay
    · obtain ⟨_, ready, hactivated, hreplay⟩ := Transact.bind_eq_ok.mp hreplay
      obtain ⟨stored, hfound, hprofiles⟩ := activateProfile_ok hactivated
      refine ⟨ready, stored, hreplay, hfound, fun profile hprofile => ?_⟩
      have hready := getProfile_activated hstored hfound hprofiles
      cases hready.symm.trans hprofile
      rfl
    · obtain ⟨stored, hfound, -⟩ := evaluate_ok hreplay
      refine ⟨_, stored, hreplay, hfound, fun profile hprofile => ?_⟩
      cases hfound.symm.trans hprofile
      rfl
  obtain ⟨ready, stored, hevaluate, hfirst, hsame⟩ := hevaluated
  obtain ⟨profile, hfound, hid, hdigest, hjudged, hprofiles⟩ := evaluate_ok hevaluate
  have hprofile : ready.getProfile bundle.profile.id = some profile := hfound
  refine ⟨profile, ?_, hid.trans (getProfile_id hprofile), hdigest, ?_, hsound, ?_⟩
  · rw [GovernanceProfileRegistry.getProfile, hprofiles]
    exact hprofile
  · rw [hinput] at hjudged
    exact hjudged
  · rw [hsame profile hprofile]
    rcases getProfile_storeProfile hfirst with hold | ⟨hnone, hnew⟩
    · exact .inl ⟨stored, hold, rfl⟩
    · refine .inr ⟨hnone, ?_⟩
      rw [hnew]
      rfl

/-- **Replays are faithful exactly when the target has no other version first.** An exported bundle
is accepted exactly when the scan finds no credential material in it; and a replay of it, in any
registry that a run reaches, is faithful exactly when the first profile that the registry had under
the identifier, if any, has the digest of the bundle's. -/
theorem replay_faithful_iff {tr tr' : List (Transition GovernanceProfileRegistry GovernanceOp
      (Except GovernanceProfileError Unit))} {source source' target target' : GovernanceProfileRegistry}
    {realm' : GovernanceRealm} {drawn' : GovernanceDrawn} {profileId : String}
    {input : EvaluateGovernanceProfileInput}
    (hsource : GovernanceRun services tr source) (htarget : GovernanceRun services tr' target)
    (hexport : exportProfile services realm drawn profileId input source = (.ok bundle, source'))
    (hcollision : ∀ definition, services.profileDigest definition =
      services.profileDigest bundle.profile.toProfileDefinition →
        definition = bundle.profile.toProfileDefinition) :
    (verifyGovernanceProfileExport services bundle = .ok bundle ↔
      truthy (services.scanCredentialMaterial bundle.toExportContents) = none) ∧
    ∀ (replayed : ReplayGovernanceProfileInput) (evaluation : GovernanceEvaluation),
      replayed.observations = none →
      replay services realm' drawn' bundle replayed target = (.ok evaluation, target') →
      (Faithful bundle evaluation target' ↔ FirstIs bundle target) := by
  have hexported := exportProfile_ok (sound_of_run hsource) hexport
  refine ⟨hexported.verified_iff, fun replayed evaluation hinput hreplay => ?_⟩
  obtain ⟨profile, hfound, hid, hdigest, hjudged, hsound, hfirst⟩ :=
    replay_ok (sound_of_run htarget) hinput hreplay
  have hfirstIs : FirstIs bundle target ↔ profile.digest = bundle.profile.digest := by
    rcases hfirst with ⟨first, hget, hsame⟩ | ⟨hnone, hsame⟩
    · rw [hsame]
      refine ⟨fun h => h first hget, fun h other hother => ?_⟩
      cases hget.symm.trans hother
      exact h
    · refine ⟨fun _ => hsame, fun _ other hother => ?_⟩
      cases hnone.symm.trans hother
  rw [hfirstIs]
  constructor
  · exact fun h => hdigest.symm.trans h.digest
  · intro hsame
    have hdefinition : profile.toProfileDefinition = bundle.profile.toProfileDefinition := by
      refine hcollision _ ?_
      rw [hsound.digests profile (getProfile_mem hfound), hsame, hexported.digest]
    refine ⟨hdigest.trans hsame, ?_, ?_⟩
    · rw [hid, hfound, Option.map_some, ← hdefinition]
    · rw [hdefinition, hexported.judged] at hjudged
      exact (Except.ok.inj hjudged).symm

end

/-! ## Two versions of a profile -/

namespace ReplaySample

def permitted : PolicyDecision where
  allowed := true
  explanation := {
    id := "explanation"
    decision := .allow
    code := .allowed
    operation := "operation"
    resource := none
    policyVersion := "policy:1"
    authorizationEpoch := 1
    satisfiedCapabilities := []
    missingCapabilities := []
    factors := []
    remediation := "none"
    recheckAt := "now"
    safeProjection := true }

def realm : GovernanceRealm where
  realm := {
    id := "realm"
    name := "realm"
    relyingPartyId := "anyam.local"
    policyVersion := "policy:1"
    authorizationEpoch := 1
    createdAt := "now" }
  evaluate := fun _ => permitted

def drawn : GovernanceDrawn where
  opaqueId := id
  evidenceId := fun n => String.ofList (List.replicate n 'e')
  distinct := fun m n h => by simpa using congrArg String.length h
  now := "now"

/-- A version of a profile with one control. -/
def profile (version : String) (required : Bool) : GovernanceProfile where
  protocol := "anyam.governance-profile/v1"
  id := "profile"
  name := "profile"
  version := version
  controls := [{
    id := "control"
    title := "title"
    requirement := "requirement"
    owner := "owner"
    required
    evidenceKinds := [] }]
  provenance := { source := "source", publisher := "publisher", receipt := "receipt" }
  digest := s!"sha256:{version}"
  scope := { realmId := "realm" }
  policyVersion := "policy:1"
  lifecycle := .draft
  receipt := "receipt"

def services : GovernanceServices where
  profileDigest := fun definition =>
    if definition = (profile "1" false).toProfileDefinition then "sha256:1" else "sha256:2"
  exportDigest := fun contents => s!"sha256:{contents.exportId}"
  observationsDigest := fun _ => "sha256:observations"
  scanCredentialMaterial := fun _ => none

def authorization : ExtensionAuthorization where
  principalId := "principal"
  actorId := "actor"
  clientId := "client"
  sessionId := "session"
  taskId := "task"
  grantId := "grant"
  resource := { realmId := "realm" }

def input : EvaluateGovernanceProfileInput where
  profileId := "profile"
  scope := { realmId := "realm" }
  observations := [{
    controlId := "control"
    status := .failed
    evidenceRefs := []
    observedAt := "now"
    owner := "owner"
    nextAction := "repair"
    disclosure := { projectionId := "projection", classification := .public }
    receipt := "receipt" }]
  authorization := authorization

def ran (calls : List GovernanceCall) := exec (governanceStep services) {}
  (calls.map fun call => { call, realm, drawn })

/-- The first version is registered and active. -/
def source := ran [.registerProfile (profile "1" false),
  .activateProfile "profile" { realmId := "realm" } authorization]

/-- Another version is registered, in which the control is required. -/
def target := ran [.registerProfile (profile "2" true)]

def exported : Option GovernanceProfileExport :=
  (exportProfile services realm drawn "profile" input source.2).1.toOption

def replayed (registry : GovernanceProfileRegistry) :
    Option (GovernanceProfileExport × GovernanceEvaluation) := do
  let bundle ← exported
  let evaluation ← (replay services realm drawn bundle
    { scope := { realmId := "realm" }, authorization } registry).1.toOption
  return (bundle, evaluation)

theorem ran_any (calls : List GovernanceCall) :
    GovernanceRun services (ran calls).1 (ran calls).2 :=
  run_exec (Admits.of_forall (fun _ _ => trivial) _ _)

end ReplaySample

open ReplaySample in
/-- `evaluate_ready_iff`, with an optional control that failed. -/
theorem evaluate_ready_iff_sample :
    ∃ evaluation, (evaluate services realm drawn input source.2).1 = .ok evaluation ∧
      evaluation.status = .ready ∧ ∀ o ∈ input.observations, o.status ≠ .indeterminate := by
  have hstatus : (evaluate services realm drawn input source.2).1.toOption.map (·.status) =
      some .ready := by decide +kernel
  obtain ⟨evaluation, hevaluated, hready⟩ := Option.map_eq_some_iff.mp hstatus
  have hok := toOption_eq_some.mp hevaluated
  obtain ⟨_, -, hiff⟩ := evaluate_ready_iff (Prod.ext hok rfl)
  exact ⟨evaluation, hok, hready, (hiff.mp hready).2⟩

open ReplaySample in
/-- A bundle that is replayed in a new registry. -/
theorem replay_faithful_iff_sample :
    ∃ bundle evaluation registry, replayed {} = some (bundle, evaluation) ∧
      Faithful bundle evaluation registry := by
  obtain ⟨⟨bundle, evaluation⟩, hreplayed⟩ : ∃ pair, replayed {} = some pair :=
    Option.isSome_iff_exists.mp (by decide +kernel)
  have hread := hreplayed
  unfold replayed at hread
  obtain ⟨_, hexported, hrest⟩ := Option.bind_eq_some_iff.mp hread
  obtain ⟨_, hreplay, hpair⟩ := Option.bind_eq_some_iff.mp hrest
  cases hpair
  have hprofile : bundle.profile.toProfileDefinition = (profile "1" false).toProfileDefinition := by
    have hmap : exported.map (·.profile.toProfileDefinition) =
        some (profile "1" false).toProfileDefinition := by decide +kernel
    rw [hexported] at hmap
    exact Option.some.inj hmap
  have hcollision (definition : ProfileDefinition)
      (h : services.profileDigest definition =
        services.profileDigest bundle.profile.toProfileDefinition) :
      definition = bundle.profile.toProfileDefinition := by
    rw [hprofile] at h ⊢
    by_contra hne
    simp [services, hne] at h
  let copy : ReplayGovernanceProfileInput := { scope := { realmId := "realm" }, authorization }
  refine ⟨bundle, evaluation, (replay services realm drawn bundle copy {}).2, hreplayed, ?_⟩
  refine ((replay_faithful_iff (ran_any _) (ran_any []) (Prod.ext (toOption_eq_some.mp hexported) rfl)
    hcollision).2 copy evaluation rfl (Prod.ext (toOption_eq_some.mp hreplay) rfl)).mpr ?_
  rintro _ ⟨⟩

open ReplaySample in
/-- **Another version is evaluated**: the evaluation of a replay names the version that the target
had registered before, and is blocked where the one in the bundle is not. -/
theorem other_version_replayed :
    GovernanceRun services source.1 source.2 ∧ GovernanceRun services target.1 target.2 ∧
      (replayed target.2).map (fun pair =>
        ((pair.1.profile.digest, pair.1.evaluation.status),
          (pair.2.profileDigest, pair.2.status))) =
        some (("sha256:1", .ready), ("sha256:2", .blocked)) :=
  ⟨ran_any _, ran_any _, by decide +kernel⟩

end Anyam.Governance
