import Mathlib.Data.List.Dedup
import Anyam.Kernel.Delivery
import Anyam.Lib.Guards

/-!
# Target deployment profiles

`delivery/target-deployment.ts`: the normalized Deployment Profile of a Target, the
profile a legacy Target is read with, and the check a Target must pass before a
Promotion. The credential scanner and the SHA-256 digests are given.
-/

namespace Anyam.Delivery

open Anyam.Lib Anyam.Kernel

inductive TargetDeploymentProfileErrorCode
  | invalidProfile | incompleteProfile | resourceConflict
deriving DecidableEq, Repr

structure TargetDeploymentProfileError where
  code : TargetDeploymentProfileErrorCode
  message : String
  recoveryAction : String
  receipt : String
deriving DecidableEq, Repr

/-- `scanCredentialMaterial` on a text and a field name (the path of what it found),
and the digests of a profile and of a Target with its profile. -/
structure ProfileServices where
  scanCredentialMaterial : String → String → Option String
  profileDigest : TargetDeploymentProfileBody → String
  contractDigest : Target → TargetDeploymentProfile → String

structure TargetDeploymentProfileInput where
  environment : TargetEnvironment
  channel : TargetChannel
  audience : String
  runtimeIdentity : String
  routeIdentities : List String
  bindingIdentities : List String
  dataResourceIdentities : List String
  configurationDigests : List String
  secretUseAliases : List String
  dataClass : TargetDataClass
  resourceSharing : TargetResourceSharing
  sharingPolicyDigest : Option String := none
  previewStrategy : Option TargetPreviewStrategy := none
  profileDigest : Option String := none
deriving DecidableEq, Repr

variable (services : ProfileServices)

def safeMetadata (value field : String) : Except TargetDeploymentProfileError String :=
  match services.scanCredentialMaterial value field with
  | some path => .error {
      code := .invalidProfile
      message := s!"{field} contains credential-like material."
      recoveryAction := s!"send a digest or non-secret identity for {field}; no credential values are accepted"
      receipt := s!"field={field}; fieldPath={path}; scanner=anyam.credential-material-scanner/v1; credential-material=rejected" }
  | none => .ok value

def nonEmptyText (value field : String) : Except TargetDeploymentProfileError String := do
  require (trim value ≠ "") {
    code := .invalidProfile
    message := s!"{field} must be a non-empty string."
    recoveryAction := s!"provide a non-empty {field} and retry"
    receipt := s!"field={field}; expected=non-empty-string" }
  safeMetadata services (trim value) field

def identityList (values : List String) (field : String) :
    Except TargetDeploymentProfileError (List String) := do
  require (∀ value ∈ values, trim value ≠ "") {
    code := .invalidProfile
    message := s!"{field} must be an array of non-empty strings."
    recoveryAction := s!"provide a valid {field} list and retry"
    receipt := s!"field={field}; expected=string[]" }
  let normalized ← values.mapM fun value => safeMetadata services (trim value) field
  require normalized.Nodup {
    code := .invalidProfile
    message := s!"{field} must not contain duplicate identities."
    recoveryAction := s!"remove duplicate {field} entries and retry"
    receipt := s!"field={field}; unique={normalized.dedup.length}; count={normalized.length}" }
  return normalized

def previewStrategy : Option TargetPreviewStrategy →
    Except TargetDeploymentProfileError TargetPreviewStrategy
  | none | some .versionUrl => return .versionUrl
  | some (.isolatedTarget targetId) =>
    return .isolatedTarget (← nonEmptyText services targetId "previewStrategy.targetId")
  | some (.customDomainVersionOverride hostname) =>
    return .customDomainVersionOverride (← nonEmptyText services hostname "previewStrategy.hostname")
  | some (.stagingOnly keys) =>
    return .stagingOnly (← identityList services keys "previewStrategy.requiredEvidenceKeys")

/-- `input.sharingPolicyDigest === undefined ? undefined : nonEmpty(…)`. -/
def sharingPolicyDigest : Option String → Except TargetDeploymentProfileError (Option String)
  | none => return none
  | some digest => return some (← nonEmptyText services digest "sharingPolicyDigest")

/-- `profileBody`. The enumerations are types here, so `enumValue` always passes. -/
def profileBody (input : TargetDeploymentProfileInput) :
    Except TargetDeploymentProfileError TargetDeploymentProfileBody := do
  let sharing ← sharingPolicyDigest services input.sharingPolicyDigest
  require (¬ (input.resourceSharing = .ownerApproved ∧ sharing = none)) {
    code := .invalidProfile
    message := "owner-approved resource sharing requires a sharing policy digest."
    recoveryAction := "record the owner-approved sharing policy digest or use isolated sharing"
    receipt := "resourceSharing=owner-approved; sharingPolicyDigest=missing" }
  require (¬ (input.resourceSharing = .isolated ∧ sharing ≠ none)) {
    code := .invalidProfile
    message := "isolated resource sharing cannot carry an approval digest."
    recoveryAction := "remove sharingPolicyDigest or explicitly select owner-approved sharing"
    receipt := "resourceSharing=isolated; sharingPolicyDigest=unexpected" }
  return {
    environment := input.environment
    channel := input.channel
    audience := ← nonEmptyText services input.audience "audience"
    runtimeIdentity := ← nonEmptyText services input.runtimeIdentity "runtimeIdentity"
    routeIdentities := ← identityList services input.routeIdentities "routeIdentities"
    bindingIdentities := ← identityList services input.bindingIdentities "bindingIdentities"
    dataResourceIdentities :=
      ← identityList services input.dataResourceIdentities "dataResourceIdentities"
    configurationDigests := ← identityList services input.configurationDigests "configurationDigests"
    secretUseAliases := ← identityList services input.secretUseAliases "secretUseAliases"
    dataClass := input.dataClass
    resourceSharing := input.resourceSharing
    sharingPolicyDigest := sharing
    previewStrategy := ← previewStrategy services input.previewStrategy }

def createTargetDeploymentProfile (input : TargetDeploymentProfileInput) :
    Except TargetDeploymentProfileError TargetDeploymentProfile := do
  let body ← profileBody services input
  let profileDigest := services.profileDigest body
  let received := input.profileDigest.getD "undefined"
  require (input.profileDigest = none ∨ input.profileDigest = some profileDigest) {
    code := .invalidProfile
    message := "Target Deployment Profile digest does not match its fields."
    recoveryAction := "recompute the profile digest from the exact profile fields and retry"
    receipt := s!"profileDigest={received}; expected={profileDigest}; digest=invalid" }
  return { body with profileDigest }

def defaultTargetDeploymentProfile (targetId : String) :
    Except TargetDeploymentProfileError TargetDeploymentProfile :=
  createTargetDeploymentProfile services {
    environment := .custom
    channel := .stable
    audience := targetId
    runtimeIdentity := s!"target:{targetId}"
    routeIdentities := []
    bindingIdentities := []
    dataResourceIdentities := []
    configurationDigests := []
    secretUseAliases := []
    dataClass := .custom
    resourceSharing := .isolated }

/-- `target.deploymentProfile ?? defaultTargetDeploymentProfile(target)`. -/
def targetDeploymentProfile (target : Target) :
    Except TargetDeploymentProfileError TargetDeploymentProfile :=
  match target.deploymentProfile with
  | some profile => .ok profile
  | none => defaultTargetDeploymentProfile services target.id

def targetDeploymentContractDigest (target : Target) :
    Except TargetDeploymentProfileError String := do
  let profile ← targetDeploymentProfile services target
  return services.contractDigest target profile

/-- The check at the start of a Promotion. -/
def assertTargetCanPromote (target : Target) :
    Except TargetDeploymentProfileError TargetDeploymentProfile := do
  let digests := (target.deploymentProfile.map fun p => p.configurationDigests.length).getD 0
  let found := if target.deploymentProfile.isSome then "incomplete" else "missing"
  let profile ← orThrow (target.deploymentProfile.filter fun p => p.configurationDigests ≠ []) {
    code := .incompleteProfile
    message := s!"Target {target.id} does not have a complete Deployment Profile."
    recoveryAction := "configure an explicit Target Deployment Profile with a configuration digest before requesting Promotion"
    receipt := s!"target={target.id}; deploymentProfile={found}; configurationDigests={digests}; promotion=blocked" }
  require (¬ (profile.environment = .custom ∨ profile.dataClass = .custom)) {
    code := .incompleteProfile
    message := s!"Target {target.id} has an unknown deployment risk classification."
    recoveryAction := "replace custom environment and data classifications with explicit preview, development, staging, or production values before requesting Promotion"
    receipt := s!"target={target.id}; environment={profile.environment}; dataClass={profile.dataClass}; risk=unknown; promotion=blocked" }
  return profile

def resourceIdentities (profile : TargetDeploymentProfile) : List String :=
  s!"runtime:{profile.runtimeIdentity}" ::
    (profile.routeIdentities.map (s!"route:{·}") ++ profile.bindingIdentities.map (s!"binding:{·}")
      ++ profile.dataResourceIdentities.map (s!"data:{·}")
      ++ profile.secretUseAliases.map (s!"secret-use:{·}"))

/-- The check of a new Target against one that is there. -/
def assertIsolatedFrom (candidate : Target) (profile : TargetDeploymentProfile)
    (existing : Target) : Except TargetDeploymentProfileError Unit :=
  if existing.id = candidate.id then .ok () else do
    let existingProfile ← targetDeploymentProfile services existing
    let overlap := (resourceIdentities existingProfile).filter fun identity =>
      identity ∈ resourceIdentities profile
    let shared := ",".intercalate overlap
    require (overlap = [] ∨ (profile.resourceSharing = .ownerApproved ∧
        existingProfile.resourceSharing = .ownerApproved ∧ profile.sharingPolicyDigest ≠ none ∧
        profile.sharingPolicyDigest = existingProfile.sharingPolicyDigest)) {
      code := .resourceConflict
      message := s!"Target {candidate.id} shares resource identity with Target {existing.id} without one matching owner-approved sharing policy."
      recoveryAction := "use an environment-specific resource identity or record matching owner-approved sharing policy digests on both Targets"
      receipt := s!"candidate={candidate.id}; existing={existing.id}; overlap={shared}; sharingPolicyMatch=false; isolation=blocked" }

def assertTargetResourceIsolation (existing : List Target) (candidate : Target) :
    Except TargetDeploymentProfileError Unit := do
  let profile ← targetDeploymentProfile services candidate
  forM existing (assertIsolatedFrom services candidate profile)

end Anyam.Delivery
