import Anyam.Kernel.Contracts

/-!
# Evidence

Evidence records and the requirements a policy states about them, with the fields
the policy evaluation reads.
-/

namespace Anyam.Kernel

inductive EvidenceOutcome
  | passed | failed | stale | indeterminate
deriving DecidableEq, Repr

instance : ToString EvidenceOutcome where
  toString
    | .passed => "passed"
    | .failed => "failed"
    | .stale => "stale"
    | .indeterminate => "indeterminate"

structure DisclosurePolicyRef where
  projectionId : String
  classification : DisclosureClassification
deriving DecidableEq, Repr

structure Evidence where
  id : String
  key : String
  outcome : EvidenceOutcome
  validityKey : String
  projectRevisionId : String
  projectViewId : String
  changeRevisionId : Option String
  actor : ActorRef
  policyVersion : String
  disclosure : DisclosurePolicyRef
  targetId : Option String
deriving DecidableEq, Repr

/-- A required key, the validity key it must carry now, and the context fields it is
bound to; an absent field binds nothing. -/
structure EvidenceRequirement where
  key : String
  currentValidityKey : String
  expectedProjectRevisionId : Option String
  expectedProjectViewId : Option String
  expectedChangeRevisionId : Option String
  expectedTargetId : Option String
  expectedDisclosureClassification : Option DisclosureClassification
deriving DecidableEq, Repr

end Anyam.Kernel
