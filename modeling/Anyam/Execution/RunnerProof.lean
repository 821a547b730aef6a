import Anyam.Kernel.JsonText
import Anyam.Lib.KeyedList

/-!
# Canonical texts of Runner Results

`stableJson` of `execution/runner-proof.ts` and `execution/runner.ts`: what is signed for a Runner
Result, and what its digest, an idempotency key and an immutable manifest are hashed from. The keys
of an object are written in the order of `sort()`, which compares code units.

- `ordered`: a value with the keys of its objects in that order, and `stableJson` is its text.
- `ordered_eq_iff`: two values are ordered alike when they are equal up to the order of keys.
- **`stableJson_injective`**: so canonical texts, signed messages and digest preimages tell apart
  everything but the order of keys.
-/

namespace Anyam.Execution

open Anyam.Lib Anyam.Kernel.JsonText

/-- The order of `sort()`: the first code units that differ decide, or the length. -/
def notAfter : HostString → HostString → Bool
  | [], _ => true
  | _ :: _, [] => false
  | u :: left, v :: right => u < v || (u = v && notAfter left right)

/-- `Object.keys(record).sort()`, with what stands under the keys. -/
def sortedByKey {α : Type} (members : List (HostString × α)) : List (HostString × α) :=
  members.mergeSort fun left right => notAfter left.1 right.1

mutual

def stableJson : Value → HostString
  | .scalar scalar => scalar.text
  | .array elements => '['.toNat :: (joined (stableElements elements) ++ [']'.toNat])
  | .object members =>
    '{'.toNat :: (joined ((sortedByKey (stableMembers members)).map fun member =>
      quoted member.1 ++ ':'.toNat :: member.2) ++ ['}'.toNat])

def stableElements : List Value → List HostString
  | [] => []
  | element :: elements => stableJson element :: stableElements elements

def stableMembers : List (HostString × Value) → List (HostString × HostString)
  | [] => []
  | (key, value) :: members => (key, stableJson value) :: stableMembers members

end

structure RunnerResultMessageInput where
  context : Value
  status : HostString
  output : Value
  outputs : List Value
  recoveryAction : Option HostString

def orUndefined : Option HostString → Value
  | some text => .scalar (.string text)
  | none => .scalar .undefined

def key (name : String) : HostString := units name.toList

/-- The object that is signed for a Runner Result. -/
def RunnerResultMessageInput.claims (input : RunnerResultMessageInput) : Value :=
  .object [(key "context", input.context), (key "status", .scalar (.string input.status)),
    (key "output", input.output), (key "outputs", .array input.outputs),
    (key "recoveryAction", orUndefined input.recoveryAction)]

def runnerResultMessage (input : RunnerResultMessageInput) : HostString :=
  key "anyam.runner-result/v1|" ++ stableJson input.claims

structure RunnerResultDigestInput where
  jobId : HostString
  attemptId : HostString
  result : Value

/-- What `runnerResultDigest` hashes. -/
def RunnerResultDigestInput.claims (input : RunnerResultDigestInput) : Value :=
  .object [(key "jobId", .scalar (.string input.jobId)),
    (key "attemptId", .scalar (.string input.attemptId)), (key "result", input.result)]

def runnerResultPreimage (input : RunnerResultDigestInput) : HostString := stableJson input.claims

/-! ## Equality up to the order of keys -/

mutual

/-- The two are equal as values, whatever the order of the keys of their objects. -/
def sameValue : Value → Value → Bool
  | .scalar left, .scalar right => left = right
  | .array left, .array right => sameElements left right
  | .object left, .object right => left.length = right.length && sameMembers left right
  | _, _ => false

def sameElements : List Value → List Value → Bool
  | [], [] => true
  | left :: lefts, right :: rights => sameValue left right && sameElements lefts rights
  | _, _ => false

/-- Every member on the left has its value under its key on the right. -/
def sameMembers : List (HostString × Value) → List (HostString × Value) → Bool
  | [], _ => true
  | (key, value) :: lefts, rights =>
    ((lastWith Prod.fst rights key).any fun right => sameValue value right.2) &&
      sameMembers lefts rights

end

mutual

/-- The value with the keys of its objects in order. -/
def ordered : Value → Value
  | .scalar scalar => .scalar scalar
  | .array elements => .array (orderedElements elements)
  | .object members => .object (sortedByKey (orderedMembers members))

def orderedElements : List Value → List Value
  | [] => []
  | element :: elements => ordered element :: orderedElements elements

def orderedMembers : List (HostString × Value) → List (HostString × Value)
  | [] => []
  | (key, value) :: members => (key, ordered value) :: orderedMembers members

end

/-! ## The text of an ordered value -/

theorem memberTexts_eq_map (members : List (HostString × Value)) :
    memberTexts members = members.map fun member =>
      quoted member.1 ++ ':'.toNat :: member.2.text := by
  induction members with
  | nil => rfl
  | cons member members ih => rw [memberTexts, ih, List.map_cons]

/-- Texts of members are sorted as the members are. -/
theorem map_text_sortedByKey (members : List (HostString × Value)) :
    (sortedByKey members).map (fun member => (member.1, member.2.text)) =
      sortedByKey (members.map fun member => (member.1, member.2.text)) :=
  List.map_mergeSort fun _ _ _ _ => rfl

mutual

theorem stableJson_eq_text : ∀ value : Value, stableJson value = (ordered value).text
  | .scalar _ => rfl
  | .array elements => by
    rw [stableJson, stableElements_eq_texts elements]
    rfl
  | .object members => by
    rw [stableJson, stableMembers_eq_texts members, ← map_text_sortedByKey, List.map_map]
    simp only [ordered, Value.text, memberTexts_eq_map]
    rfl

theorem stableElements_eq_texts : ∀ elements : List Value,
    stableElements elements = elementTexts (orderedElements elements)
  | [] => rfl
  | element :: elements => by
    rw [stableElements, stableJson_eq_text element, stableElements_eq_texts elements]
    rfl

theorem stableMembers_eq_texts : ∀ members : List (HostString × Value),
    stableMembers members = (orderedMembers members).map fun member => (member.1, member.2.text)
  | [] => rfl
  | (key, value) :: members => by
    rw [stableMembers, stableJson_eq_text value, stableMembers_eq_texts members]
    rfl

end

/-! ## Ordering alike -/

theorem orderedMembers_eq_map (members : List (HostString × Value)) :
    orderedMembers members = members.map fun member => (member.1, ordered member.2) := by
  induction members with
  | nil => rfl
  | cons member members ih => rw [orderedMembers, ih, List.map_cons]

theorem keys_orderedMembers (members : List (HostString × Value)) :
    (orderedMembers members).map Prod.fst = members.map Prod.fst := by
  rw [orderedMembers_eq_map, List.map_map]
  rfl

theorem notAfter_total (left right : HostString) :
    notAfter left right = true ∨ notAfter right left = true := by
  induction left generalizing right with
  | nil => exact .inl rfl
  | cons u left ih =>
    cases right with
    | nil => exact .inr rfl
    | cons v right =>
      simp only [notAfter, Bool.or_eq_true, Bool.and_eq_true, decide_eq_true_eq]
      rcases Nat.lt_trichotomy u v with huv | rfl | hvu
      · exact .inl (.inl huv)
      · exact (ih right).imp (fun h => .inr ⟨rfl, h⟩) fun h => .inr ⟨rfl, h⟩
      · exact .inr (.inl hvu)

theorem notAfter_trans {left middle right : HostString} (h : notAfter left middle = true)
    (h' : notAfter middle right = true) : notAfter left right = true := by
  induction left generalizing middle right with
  | nil => rfl
  | cons u left ih =>
    cases middle with
    | nil => exact nomatch h
    | cons v middle =>
      cases right with
      | nil => exact nomatch h'
      | cons w right =>
        simp only [notAfter, Bool.or_eq_true, Bool.and_eq_true, decide_eq_true_eq] at h h' ⊢
        rcases h with huv | ⟨rfl, hrest⟩
        · omega
        · exact h'.imp_right fun h' => ⟨h'.1, ih hrest h'.2⟩

theorem notAfter_antisymm {left right : HostString} (h : notAfter left right = true)
    (h' : notAfter right left = true) : left = right := by
  induction left generalizing right with
  | nil =>
    cases right with
    | nil => rfl
    | cons v right => exact nomatch h'
  | cons u left ih =>
    cases right with
    | nil => exact nomatch h
    | cons v right =>
      simp only [notAfter, Bool.or_eq_true, Bool.and_eq_true, decide_eq_true_eq] at h h'
      rcases h with huv | ⟨huv, hrest⟩
      · omega
      · rcases h' with hvu | ⟨-, hrest'⟩
        · omega
        · rw [huv, ih hrest hrest']

/-- With distinct keys, being sorted to the same list is being equal up to the order. -/
theorem sortedByKey_eq_iff {left right : List (HostString × Value)}
    (hleft : (left.map Prod.fst).Nodup) :
    sortedByKey left = sortedByKey right ↔ left.Perm right := by
  constructor
  · intro h
    have hperm := List.mergeSort_perm left fun left right => notAfter left.1 right.1
    rw [show left.mergeSort _ = sortedByKey right from h] at hperm
    exact hperm.symm.trans (List.mergeSort_perm right _)
  · intro hperm
    have hsorted : ∀ members : List (HostString × Value),
        (sortedByKey members).Pairwise fun left right => notAfter left.1 right.1 := by
      refine List.pairwise_mergeSort (fun a b c hab hbc => notAfter_trans hab hbc) fun a b => ?_
      exact Bool.or_eq_true_iff.mpr (notAfter_total a.1 b.1)
    refine List.Perm.eq_of_pairwise ?_ (hsorted left) (hsorted right)
      (((List.mergeSort_perm left _).trans hperm).trans (List.mergeSort_perm right _).symm)
    -- two members of one key are one member
    intro a b ha hb hab hba
    have ha' : a ∈ left := List.mem_mergeSort.mp ha
    have hb' : b ∈ left := hperm.symm.subset (List.mem_mergeSort.mp hb)
    exact List.inj_on_of_nodup_map hleft ha' hb' (notAfter_antisymm hab hba)

theorem distinctKeys_of_mem {members : List (HostString × Value)} {member : HostString × Value}
    (h : distinctMembers members) (hmem : member ∈ members) : member.2.distinctKeys := by
  induction members with
  | nil => exact nomatch hmem
  | cons first members ih =>
    rw [distinctMembers, Bool.and_eq_true] at h
    rcases List.mem_cons.mp hmem with rfl | hmem
    · exact h.1
    · exact ih h.2 hmem

/-- What stands under a key is ordered in its place. -/
theorem lastWith_orderedMembers (members : List (HostString × Value)) (key : HostString) :
    lastWith Prod.fst (orderedMembers members) key =
      (lastWith Prod.fst members key).map fun member => (member.1, ordered member.2) := by
  rw [orderedMembers_eq_map, lastWith, lastWith, ← List.map_reverse, List.find?_map]
  rfl

mutual

theorem ordered_eq_iff : ∀ {left right : Value}, left.distinctKeys → right.distinctKeys →
    (ordered left = ordered right ↔ sameValue left right)
  | .scalar left, .scalar right, _, _ => by simp [ordered, sameValue]
  | .array left, .array right, hleft, hright => by
    rw [ordered, ordered, sameValue, ← orderedElements_eq_iff hleft hright, Value.array.injEq]
  | .object left, .object right, hleft, hright => by
    rw [Value.distinctKeys, Bool.and_eq_true, decide_eq_true_eq] at hleft hright
    have hkeys : ((orderedMembers left).map Prod.fst).Nodup := by
      rw [keys_orderedMembers]
      exact hleft.1
    rw [ordered, ordered, sameValue, Value.object.injEq, sortedByKey_eq_iff hkeys,
      ← sameListing_iff_perm hkeys, SameListing, Bool.and_eq_true,
      ← orderedMembers_resolve_iff hleft.2 hright.2]
    simp [orderedMembers_eq_map]
  | .scalar _, .array _, _, _ | .scalar _, .object _, _, _ | .array _, .scalar _, _, _
  | .array _, .object _, _, _ | .object _, .scalar _, _, _ | .object _, .array _, _, _ => by
    simp [ordered, sameValue]

theorem orderedElements_eq_iff : ∀ {left right : List Value}, distinctElements left →
    distinctElements right → (orderedElements left = orderedElements right ↔
      sameElements left right)
  | [], [], _, _ => by simp [sameElements]
  | left :: lefts, right :: rights, hleft, hright => by
    rw [distinctElements, Bool.and_eq_true] at hleft hright
    rw [orderedElements, orderedElements, sameElements, Bool.and_eq_true, List.cons.injEq,
      ordered_eq_iff hleft.1 hright.1, orderedElements_eq_iff hleft.2 hright.2]
  | [], _ :: _, _, _ | _ :: _, [], _, _ => by simp [orderedElements, sameElements]

theorem orderedMembers_resolve_iff : ∀ {left right : List (HostString × Value)},
    distinctMembers left → distinctMembers right →
    ((∀ member ∈ orderedMembers left,
      lastWith Prod.fst (orderedMembers right) member.1 = some member) ↔ sameMembers left right)
  | [], _, _, _ => by simp [orderedMembers, sameMembers]
  | (key, value) :: left, right, hleft, hright => by
    rw [distinctMembers, Bool.and_eq_true] at hleft
    rw [orderedMembers, List.forall_mem_cons, sameMembers, Bool.and_eq_true,
      orderedMembers_resolve_iff hleft.2 hright]
    refine and_congr_left' ?_
    rw [lastWith_orderedMembers]
    cases hfound : lastWith Prod.fst right key with
    | none => simp
    | some member =>
      obtain ⟨hmem, hkey⟩ := lastWith_eq_some hfound
      have hvalue := ordered_eq_iff hleft.1 (distinctKeys_of_mem hright hmem)
      simp [hkey, ← hvalue, eq_comm]

end

/-- Canonical texts are equal exactly for values that are equal up to the order of keys. -/
theorem stableJson_eq_iff {left right : Value} (hleft : left.distinctKeys)
    (hright : right.distinctKeys) : stableJson left = stableJson right ↔ sameValue left right := by
  rw [← ordered_eq_iff hleft hright, stableJson_eq_text, stableJson_eq_text]
  exact ⟨text_injective, congrArg Value.text⟩

/-! ## Messages and preimages -/

/-- Both results have the same parts, up to the order of keys. -/
def SameResult (left right : RunnerResultMessageInput) : Prop :=
  sameValue left.context right.context ∧ left.status = right.status ∧
    sameValue left.output right.output ∧ sameElements left.outputs right.outputs ∧
    left.recoveryAction = right.recoveryAction

def SameDigestInput (left right : RunnerResultDigestInput) : Prop :=
  left.jobId = right.jobId ∧ left.attemptId = right.attemptId ∧ sameValue left.result right.result

theorem sameValue_string {left right : HostString} :
    sameValue (.scalar (.string left)) (.scalar (.string right)) ↔ left = right := by
  simp [sameValue]

theorem sameValue_orUndefined {left right : Option HostString} :
    sameValue (orUndefined left) (orUndefined right) ↔ left = right := by
  cases left <;> cases right <;> simp [orUndefined, sameValue]

/-- Objects that are written with the same distinct keys are compared value by value. -/
theorem sameMembers_iff {right : List (HostString × Value)} (hright : (right.map Prod.fst).Nodup)
    {left some : List (HostString × Value)} (hsome : some ⊆ right)
    (hkeys : left.map Prod.fst = some.map Prod.fst) :
    sameMembers left right ↔ sameElements (left.map Prod.snd) (some.map Prod.snd) := by
  induction left generalizing some with
  | nil =>
    cases some with
    | nil => simp [sameMembers, sameElements]
    | cons member some => exact nomatch hkeys
  | cons member left ih =>
    cases some with
    | nil => exact nomatch hkeys
    | cons member' some =>
      obtain ⟨hmem, hsub⟩ := List.cons_subset.mp hsome
      obtain ⟨hkey, hrest⟩ := List.cons.inj hkeys
      have hkey : member.1 = member'.1 := hkey
      rw [sameMembers, hkey, lastWith_of_nodup hright hmem, List.map_cons, List.map_cons,
        sameElements, Bool.and_eq_true, Bool.and_eq_true, ih hsub hrest]
      rfl

theorem sameValue_object {left right : List (HostString × Value)}
    (hright : (right.map Prod.fst).Nodup) (hkeys : left.map Prod.fst = right.map Prod.fst) :
    sameValue (.object left) (.object right) ↔
      sameElements (left.map Prod.snd) (right.map Prod.snd) := by
  have hlength : left.length = right.length := by
    simpa using congrArg List.length hkeys
  rw [sameValue, Bool.and_eq_true, decide_eq_true_eq, and_iff_right hlength]
  exact sameMembers_iff hright (List.Subset.refl right) hkeys

theorem sameValue_resultClaims {left right : RunnerResultMessageInput} :
    sameValue left.claims right.claims ↔ SameResult left right := by
  have hkeys : [key "context", key "status", key "output", key "outputs",
      key "recoveryAction"].Nodup := by decide
  refine (sameValue_object ?_ ?_).trans ?_
  · exact hkeys
  · rfl
  simp only [List.map_cons, List.map_nil, sameElements, Bool.and_true, Bool.and_eq_true,
    sameValue_string, sameValue_orUndefined, SameResult]
  rfl

theorem sameValue_digestClaims {left right : RunnerResultDigestInput} :
    sameValue left.claims right.claims ↔ SameDigestInput left right := by
  have hkeys : [key "jobId", key "attemptId", key "result"].Nodup := by decide
  refine (sameValue_object ?_ ?_).trans ?_
  · exact hkeys
  · rfl
  simp only [List.map_cons, List.map_nil, sameElements, Bool.and_true, Bool.and_eq_true,
    sameValue_string, SameDigestInput]

theorem distinctKeys_resultClaims {input : RunnerResultMessageInput}
    (hcontext : input.context.distinctKeys) (houtput : input.output.distinctKeys)
    (houtputs : distinctElements input.outputs) : input.claims.distinctKeys := by
  have hkeys : [key "context", key "status", key "output", key "outputs",
      key "recoveryAction"].Nodup := by decide
  have hrecovery : (orUndefined input.recoveryAction).distinctKeys := by
    cases input.recoveryAction <;> rfl
  rw [RunnerResultMessageInput.claims, Value.distinctKeys, Bool.and_eq_true, decide_eq_true_eq]
  refine ⟨hkeys, ?_⟩
  simp [distinctMembers, Value.distinctKeys, hcontext, houtput, houtputs, hrecovery]

theorem distinctKeys_digestClaims {input : RunnerResultDigestInput}
    (hresult : input.result.distinctKeys) : input.claims.distinctKeys := by
  have hkeys : [key "jobId", key "attemptId", key "result"].Nodup := by decide
  rw [RunnerResultDigestInput.claims, Value.distinctKeys, Bool.and_eq_true, decide_eq_true_eq]
  refine ⟨hkeys, ?_⟩
  simp [distinctMembers, Value.distinctKeys, hresult]

/-- A result whose objects have distinct keys. -/
def RunnerResultMessageInput.Distinct (input : RunnerResultMessageInput) : Prop :=
  input.context.distinctKeys ∧ input.output.distinctKeys ∧ distinctElements input.outputs

/-- **Canonical texts tell values apart**, and so do messages and preimages. -/
theorem stableJson_injective :
    (∀ left right : Value, left.distinctKeys → right.distinctKeys →
      (stableJson left = stableJson right ↔ sameValue left right)) ∧
    (∀ left right : RunnerResultMessageInput, left.Distinct → right.Distinct →
      (runnerResultMessage left = runnerResultMessage right ↔ SameResult left right)) ∧
    (∀ left right : RunnerResultDigestInput, left.result.distinctKeys → right.result.distinctKeys →
      (runnerResultPreimage left = runnerResultPreimage right ↔ SameDigestInput left right)) := by
  refine ⟨?_, ?_, ?_⟩
  · intro left right hleft hright
    exact stableJson_eq_iff hleft hright
  · intro left right hleft hright
    rw [runnerResultMessage, runnerResultMessage, List.append_cancel_left_eq,
      stableJson_eq_iff (distinctKeys_resultClaims hleft.1 hleft.2.1 hleft.2.2)
        (distinctKeys_resultClaims hright.1 hright.2.1 hright.2.2)]
    exact sameValue_resultClaims
  · intro left right hleft hright
    rw [runnerResultPreimage, runnerResultPreimage,
      stableJson_eq_iff (distinctKeys_digestClaims hleft) (distinctKeys_digestClaims hright)]
    exact sameValue_digestClaims

/-- Two objects that differ in the order of their keys and in a text of quotes and braces. -/
theorem stableJson_injective_sample :
    stableJson (.object [(units ['b'], .scalar .null), (units ['a'], .scalar (.bool true))]) =
        stableJson (.object [(units ['a'], .scalar (.bool true)), (units ['b'], .scalar .null)]) ∧
      stableJson (.array [.scalar (.string (units ['"', ',', '"']))]) ≠
        stableJson (.array [.scalar (.string []), .scalar (.string [])]) := by
  refine ⟨(stableJson_injective.1 _ _ (by decide) (by decide)).mpr (by decide), fun h => ?_⟩
  exact absurd ((stableJson_injective.1 _ _ (by decide) (by decide)).mp h) (by decide)

end Anyam.Execution
