import Anyam.ChangeControl.Attachment
import Anyam.ChangeControl.ConflictCarrying
import Anyam.ChangeControl.Disclosure
import Anyam.ChangeControl.EvidencePolicy
import Anyam.ChangeControl.RevisionChain
import Anyam.ChangeControl.SeparationOfDuty
import Anyam.ChangeControl.FindingReplay
import Anyam.ChangeControl.CohortAtomicity
import Anyam.ChangeControl.WorkspaceTree
import Anyam.Delivery.PointerSwap
import Anyam.Delivery.KeyReplay
import Anyam.Delivery.MigrationFixpoint
import Anyam.Delivery.PromotionSettling
import Anyam.Delivery.PointerVerification
import Anyam.Delivery.PublicationSwap
import Anyam.Delivery.TargetHealth
import Anyam.Delivery.TargetRestoration
import Anyam.Execution.RunnerEligibility
import Anyam.Execution.RunnerLedger
import Anyam.Execution.RunnerResults
import Anyam.Execution.RunnerStatus
import Anyam.Portability.ExportManifest
import Anyam.Portability.MirrorConcurrency
import Anyam.Portability.MirrorHealth
import Anyam.Portability.MirrorInbound
import Anyam.Portability.MirrorOverwrite
import Anyam.Portability.MirrorReconciliation
import Anyam.Portability.ExportHistory
import Anyam.Authority.OwnerIntent
import Anyam.Authority.Merging
import Anyam.Identity.RealmRecords
import Anyam.Identity.Realm
import Anyam.Identity.RealmGrants
import Anyam.Identity.RealmRevocation
import Anyam.Identity.Evaluation
import Anyam.Identity.RealmEffects
import Anyam.Identity.RealmSystem
import Anyam.Identity.Delegation
import Anyam.Identity.Authorization
import Anyam.Authority.PromotionMoves
import Anyam.Authority.TargetHistory
import Anyam.Authority.ExecutionIdentity
import Anyam.Authority.SQLiteStore
import Anyam.Authority.ProviderOperations
import Anyam.Identity.HiddenPolicy
import Anyam.Disclosure.PublicProjection
import Anyam.Disclosure.AudienceSummary
import Anyam.Installation.CustomerRealmRuns
import Anyam.Installation.RecoveryRoundTrip
import Anyam.Provider.OperationRecovery
import Anyam.Provider.OperationChain
import Anyam.Provider.OperationCleanup
import Anyam.Authority.ReleaseSealing
import Anyam.Kernel.MountComposition
import Anyam.Extensions.Registry
import Anyam.Extensions.RegistryRuns
import Anyam.Extensions.Invocation
import Anyam.Portability.RefEquality
import Anyam.Kernel.JsonText
import Anyam.Execution.RunnerProof
import Anyam.Provider.RecoveryDecoder
import Anyam.Provider.WorkspaceObservation
import Anyam.Disclosure.SealedVerifier
import Anyam.Provider.GradualRollout
import Anyam.Installation.PolicyFollowsState
import Anyam.Governance.ProfileReplay
import Anyam.Disclosure.Materialization
