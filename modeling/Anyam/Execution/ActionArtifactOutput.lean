import Anyam.Kernel.Execution
import Anyam.Lib.Guards

/-!
# Typed Action outputs

`create-anyam/src/action-artifact-output.ts`: the declaration an Action makes of its typed
outputs, and the check that binds each declared Artifact to its signed digest. The
contract is typed here, so the checks of its shape always pass.
-/

namespace Anyam.Execution

open Anyam.Lib Anyam.Kernel

structure ActionArtifactOutputError where
  reason : String
deriving DecidableEq, Repr

def ActionArtifactOutputError.message (failure : ActionArtifactOutputError) : String :=
  let reason := failure.reason
  s!"Action Artifact output contract is invalid: {reason}."

/-- The characters an output path may not have: a backslash, a colon, and the control
characters. -/
def forbiddenInPath (c : Char) : Bool :=
  c = '\\' || c = ':' || c.toNat < 32 || c.toNat = 127

def canonicalArtifactOutputPath (value : String) : Bool :=
  value ≠ "" && trim value = value && !value.toList.any forbiddenInPath &&
    (split '/' value).all fun segment =>
      segment ≠ "" && segment ≠ "." && segment ≠ ".." &&
        String.ofList (segment.toList.map Char.toLower) ≠ ".git"

/-- `[a-z0-9]`. -/
def isLowerAlphanumeric (c : Char) : Bool :=
  ('a' ≤ c && c ≤ 'z') || ('0' ≤ c && c ≤ '9')

/-- `/^[a-z][a-z0-9]*(?:[.-][a-z0-9]+)*$/`. -/
def isArtifactType (value : String) : Bool :=
  let words := splitChars '.' (value.toList.map fun c => if c = '-' then '.' else c)
  words.all (fun word => !word.isEmpty && word.all isLowerAlphanumeric) &&
    value.toList.head?.any fun c => 'a' ≤ c && c ≤ 'z'

/-- `/^sha256:[0-9a-f]{64}$/`. -/
def isSha256Digest (value : String) : Bool :=
  startsWith value "sha256:" &&
    let hex := value.toList.drop 7
    hex.length = 64 && hex.all fun c => ('0' ≤ c && c ≤ '9') || ('a' ≤ c && c ≤ 'f')

/-- The entries of a contract, after the paths `seen` before them. -/
def parseOutputs (declaredPaths : Option (List String)) :
    List String → List ActionArtifactOutput → Except ActionArtifactOutputError Unit
  | _, [] => return ()
  | seen, entry :: outputs => do
    require (canonicalArtifactOutputPath entry.path ∧ isArtifactType entry.type)
      ⟨"expected canonical path and Artifact type"⟩
    require (entry.path ∉ seen) ⟨"duplicate output path"⟩
    require (∀ paths ∈ declaredPaths, entry.path ∈ paths) ⟨"typed path is outside Action outputs"⟩
    parseOutputs declaredPaths (entry.path :: seen) outputs

def parseActionArtifactOutputContract (value : ActionArtifactOutputContract)
    (declaredPaths : Option (List String)) :
    Except ActionArtifactOutputError ActionArtifactOutputContract := do
  require (value.outputs ≠ []) ⟨"expected versioned non-empty outputs"⟩
  parseOutputs declaredPaths [] value.outputs
  return value

/-- The fields of a submitted output the contract is about. -/
structure TypedOutput where
  kind : RunnerOutputKind
  outputPath : Option String
  digest : String
deriving DecidableEq, Repr

/-- The declared paths with their digests, after the ones in `digests`. -/
def bindDigests (declaredPaths : List String) :
    OrderedMap String String → List String →
      Except ActionArtifactOutputError (OrderedMap String String)
  | digests, [] => return digests
  | digests, entry :: entries => do
    let malformed : ActionArtifactOutputError :=
      ⟨"normalized output digest is undeclared, duplicated or malformed"⟩
    let (path, digest) ← orThrow (splitAtLast '=' entry) malformed
    require (path ≠ "" ∧ path ∈ declaredPaths ∧ ¬ digests.has path ∧ isSha256Digest digest) malformed
    bindDigests declaredPaths (digests.set path digest) entries

/-- Bind each output to its declaration; returns the declared paths seen. -/
def bindOutputs (contract : ActionArtifactOutputContract) (digests : OrderedMap String String) :
    List String → List TypedOutput → Except ActionArtifactOutputError (List String)
  | seen, [] => return seen
  | seen, output :: outputs =>
    if output.kind = .artifact then do
      let declaration ← orThrow
        ((contract.outputs.find? fun entry => some entry.path = output.outputPath).filter
          fun declaration => declaration.path ∉ seen)
        ⟨"Artifact path is missing, undeclared or duplicated"⟩
      require (digests.get? declaration.path = some output.digest)
        ⟨"Artifact digest differs from normalized Action output"⟩
      bindOutputs contract digests (declaration.path :: seen) outputs
    else do
      require (output.outputPath = none) ⟨"logical output path is only valid on Artifacts"⟩
      bindOutputs contract digests seen outputs

/-- Bind each declared Artifact to its signed normalized Action digest. -/
def validateActionArtifactOutputs (contract : Option ActionArtifactOutputContract)
    (declaredPaths : List String) (status : ActionStatus) (outputDigests : List String)
    (outputs : List TypedOutput) : Except ActionArtifactOutputError Unit :=
  match contract with
  | none =>
    require (∀ output ∈ outputs, output.outputPath = none)
      ⟨"logical output path requires a declared contract"⟩
  | some contract => do
    let contract ← parseActionArtifactOutputContract contract (some declaredPaths)
    let digests ← bindDigests declaredPaths .empty outputDigests
    let seen ← bindOutputs contract digests [] outputs
    require (¬ (status = .succeeded ∧ seen.length ≠ contract.outputs.length))
      ⟨"successful Result is missing declared Artifacts"⟩

end Anyam.Execution
