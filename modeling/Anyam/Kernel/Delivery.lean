import Anyam.Kernel.Evidence

/-!
# Delivery contracts

Releases, the Artifacts and the migration plan they carry, and the Targets they
are delivered to, with the source's field names. `Target` leaves its optional
pointer and history to the two coordinators' own Target types, which always have
them.
-/

namespace Anyam.Kernel

structure Artifact where
  id : String
  type : String
  digest : String
  projectRevisionId : String
deriving DecidableEq, Repr

inductive ReleaseStatus
  | draft | ready | promoted | recalled
deriving DecidableEq, Repr

inductive MigrationStrategy
  | none | expandContract | manual | custom
deriving DecidableEq, Repr

inductive MigrationCompatibility
  | backwardCompatible | bidirectional | forwardOnly | incompatible | unknown
deriving DecidableEq, Repr

instance : ToString MigrationCompatibility where
  toString
    | .backwardCompatible => "backward-compatible"
    | .bidirectional => "bidirectional"
    | .forwardOnly => "forward-only"
    | .incompatible => "incompatible"
    | .unknown => "unknown"

inductive MigrationRollback
  | safe | applicationOnly | manualDataAction | blocked
deriving DecidableEq, Repr

instance : ToString MigrationRollback where
  toString
    | .safe => "safe"
    | .applicationOnly => "application-only"
    | .manualDataAction => "manual-data-action"
    | .blocked => "blocked"

/-- The fields of a Migration Plan its digest is taken over. -/
structure MigrationPlanBody where
  strategy : MigrationStrategy
  beforeSchemaDigest : Option String
  afterSchemaDigest : Option String
  compatibility : MigrationCompatibility
  rollback : MigrationRollback
  migrationArtifactIds : List String
  requiredEvidenceKeys : List String
deriving DecidableEq, Repr

structure MigrationPlan extends MigrationPlanBody where
  planDigest : String
deriving DecidableEq, Repr

structure Release where
  id : String
  projectRevisionId : String
  artifactIds : List String
  evidenceIds : List String
  configurationDigests : List String
  policyVersion : String
  status : ReleaseStatus
  migrationPlan : Option MigrationPlan
deriving DecidableEq, Repr

inductive TargetState
  | configured | healthy | degraded | unknown
deriving DecidableEq, Repr

inductive TargetEnvironment
  | preview | development | staging | production | custom
deriving DecidableEq, Repr

instance : ToString TargetEnvironment where
  toString
    | .preview => "preview"
    | .development => "development"
    | .staging => "staging"
    | .production => "production"
    | .custom => "custom"

inductive TargetChannel
  | alpha | beta | stable | custom
deriving DecidableEq, Repr

inductive TargetDataClass
  | synthetic | isolated | productionShaped | production | custom
deriving DecidableEq, Repr

instance : ToString TargetDataClass where
  toString
    | .synthetic => "synthetic"
    | .isolated => "isolated"
    | .productionShaped => "production-shaped"
    | .production => "production"
    | .custom => "custom"

inductive TargetResourceSharing
  | isolated | ownerApproved
deriving DecidableEq, Repr

inductive TargetPreviewStrategy
  | versionUrl
  | isolatedTarget (targetId : String)
  | customDomainVersionOverride (hostname : String)
  | stagingOnly (requiredEvidenceKeys : List String)
deriving DecidableEq, Repr

/-- The fields of a Deployment Profile its digest is taken over. -/
structure TargetDeploymentProfileBody where
  environment : TargetEnvironment
  channel : TargetChannel
  audience : String
  runtimeIdentity : String
  routeIdentities : List String
  bindingIdentities : List String
  dataResourceIdentities : List String
  configurationDigests : List String
  secretUseAliases : List String
  dataClass : TargetDataClass
  resourceSharing : TargetResourceSharing
  sharingPolicyDigest : Option String
  previewStrategy : TargetPreviewStrategy
deriving DecidableEq, Repr

structure TargetDeploymentProfile extends TargetDeploymentProfileBody where
  profileDigest : String
deriving DecidableEq, Repr

structure Target where
  id : String
  projectId : String
  name : String
  adapterId : String
  acceptedArtifactTypes : List String
  requiredEvidenceKeys : List String
  state : TargetState
  deploymentProfile : Option TargetDeploymentProfile
deriving DecidableEq, Repr

end Anyam.Kernel
