import Anyam.Provider.OperationRecovery

/-!
# The chain of the records of an operation

However calls are interleaved, every record of an operation replaces the one before it: a record is
put with the digest of the record it was made from, and without a collision of digests only that
record has it. So attempts count up, no digest comes back, and a success is never undone.

A success is verified only if its read-back has the digest of its output. A direct execution compares
it with the output of its own observation, a callback with nothing, and both keep the output of an
earlier attempt. A record also keeps the checkpoint that a callback was emitted against, through the
attempts after it. `Consistent` leaves out what makes these differ.

- `Chained`: the records of an operation in a reachable store.
- `reached_chained`: every run keeps it.
- **`operationSound`**: in the consistent runs every success is verified, and no late callback is
  taken.
-/

namespace Anyam.Provider.Operation

open Anyam.Lib CustomerProviderQualificationCoordinator

/-- The records that were put for an operation, oldest first. -/
def World.chain (world : World) (operationId : String) : List StoredRecord :=
  world.history.filter (·.record.operationId = operationId)

/-- What the digest of a record is about. -/
def pendingForm (record : CustomerProviderOperationRecord) : CustomerProviderOperationRecord :=
  { record with checkpoint := { record.checkpoint with stateDigest := "pending", receipt := "pending" } }

/-- No two records of a list are hashed to one digest. -/
def NoCollision (host : ProviderHost) (chain : List StoredRecord) : Prop :=
  ∀ stored ∈ chain, ∀ other ∈ chain,
    host.recordDigest (pendingForm stored.record) = host.recordDigest (pendingForm other.record) →
      pendingForm stored.record = pendingForm other.record

instance (host : ProviderHost) (chain : List StoredRecord) : Decidable (NoCollision host chain) :=
  inferInstanceAs (Decidable (∀ stored ∈ chain, ∀ other ∈ chain, _))

/-- A callback emitted against a digest is not one of an attempt before the current one: no record
before a pending one has the digest. -/
def Fresh (chain : List StoredRecord) (digest : String) : Prop :=
  ∀ early start late, chain = early ++ start :: late → start.record.state = .pending →
    ∀ stored ∈ early, stored.record.checkpoint.stateDigest ≠ digest

/-- The success was read back from the provider, with the digest of its output if it has one. -/
def VerifiedSuccess (calls : List ProviderCall) (record : CustomerProviderOperationRecord) : Prop :=
  (∃ readBack, .readBack record.operationId (.ok readBack) ∈ calls ∧ readBack.status = .present ∧
    record.readBackDigest = readBack.digest ∧ record.readBackDigest.isSome) ∧
  ∀ digest ∈ record.outputDigest, record.readBackDigest = some digest

/-- The answers with which successes are verified and callbacks are those of the current attempt. -/
def Consistent : Given
  | .readBack record expectedDigest true, answer => ∀ readBack ∈ answer.readBack.toOption,
      readBack.status = .present → ∀ digest ∈ expectedDigest <|> record.outputDigest,
        readBack.digest = some digest
  | .readBack record none false, answer => ∀ readBack ∈ answer.readBack.toOption,
      readBack.status = .present → ∀ digest ∈ record.outputDigest, readBack.digest = some digest
  | .put record, _ => record.state = .pending → record.callbackStateDigest.join = none
  | _, _ => True

instance : ∀ request answer, Decidable (Consistent request answer)
  | .readBack _ _ true, _ => inferInstanceAs (Decidable (∀ readBack ∈ _, _ → ∀ digest ∈ _, _))
  | .readBack _ none false, _ => inferInstanceAs (Decidable (∀ readBack ∈ _, _ → ∀ digest ∈ _, _))
  | .readBack _ (some _) false, _ => inferInstanceAs (Decidable True)
  | .put _, _ => inferInstanceAs (Decidable (_ → _))
  | .clock, _ => inferInstanceAs (Decidable True)
  | .get _, _ => inferInstanceAs (Decidable True)
  | .execute _, _ => inferInstanceAs (Decidable True)
  | .cleanup _, _ => inferInstanceAs (Decidable True)

variable {coordinator : CustomerProviderQualificationCoordinator} {given' : Given}
  {world world' : World} {record current : CustomerProviderOperationRecord} {stored : StoredRecord}
  {operationId : String}

/-! ## The chain -/

/-- The records of an operation count their attempts, the last is in the store, and a success is
followed by successes. -/
structure Chained (world : World) (operationId : String) (chain : List StoredRecord) : Prop where
  attempts : chain.map (·.record.checkpoint.attempts) = List.range chain.length
  current : world.records.get? operationId = chain.getLast?.map (·.record)
  succeeded : chain.Pairwise fun earlier later =>
    earlier.record.state = .succeeded → later.record.state = .succeeded

/-- Two records that one digest is about differ in their checkpoint's own texts at most. -/
theorem alike_of_digest {host : ProviderHost} {chain : List StoredRecord}
    (hcollision : NoCollision host chain) {left right : StoredRecord} (hleft : left ∈ chain)
    (hright : right ∈ chain) (hsealed : ∀ found ∈ chain, Sealed host found.record)
    (hdigest : left.record.checkpoint.stateDigest = right.record.checkpoint.stateDigest) :
    pendingForm left.record = pendingForm right.record := by
  refine hcollision left hleft right hright ?_
  have hleft' := (hsealed left hleft).digest
  have hright' := (hsealed right hright).digest
  rw [hdigest, hright'] at hleft'
  exact hleft'.symm

/-- No digest of a chain comes back. -/
theorem Chained.digests {chain : List StoredRecord} {host : ProviderHost}
    (h : Chained world operationId chain) (hcollision : NoCollision host chain)
    (hsealed : ∀ found ∈ chain, Sealed host found.record) :
    (chain.map (·.record.checkpoint.stateDigest)).Nodup := by
  have hattempts : (chain.map (·.record.checkpoint.attempts)).Nodup := by
    rw [h.attempts]
    exact List.nodup_range
  refine (List.nodup_map_iff_inj_on (List.Nodup.of_map _ hattempts)).mpr
    fun left hleft right hright hdigest => ?_
  have halike := alike_of_digest hcollision hleft hright hsealed hdigest
  refine List.inj_on_of_nodup_map hattempts hleft hright ?_
  exact congrArg (fun record => record.checkpoint.attempts) halike

theorem chain_store (world : World) (stored : StoredRecord) (operationId : String) :
    (world.store stored).chain operationId =
      world.chain operationId ++
        if stored.record.operationId = operationId then [stored] else [] := by
  rw [World.chain, World.store, List.filter_append, World.chain]
  by_cases h : stored.record.operationId = operationId <;> simp [h]

theorem World.store_get? (world : World) (stored : StoredRecord) (operationId : String) :
    (world.store stored).records.get? operationId =
      if stored.record.operationId = operationId then some stored.record
      else world.records.get? operationId := by
  show (world.records.set stored.record.operationId stored.record).get? operationId = _
  by_cases h : stored.record.operationId = operationId
  · rw [if_pos h, ← h, OrderedMap.get?_set_self]
  · rw [if_neg h, OrderedMap.get?_set_ne _ _ (Ne.symm h)]

/-- A record that follows from the last one of a chain. -/
theorem Chained.snoc {chain : List StoredRecord} (h : Chained world operationId chain)
    (hid : stored.record.operationId = operationId)
    (hattempts : stored.record.checkpoint.attempts = chain.length)
    (hsucceeded : ∀ last ∈ chain.getLast?, last.record.state = .succeeded →
      stored.record.state = .succeeded) :
    Chained (world.store stored) operationId (chain ++ [stored]) where
  attempts := by
    rw [List.map_append, h.attempts, List.map_singleton, hattempts, List.length_append,
      List.length_singleton, List.range_succ]
  current := by
    rw [World.store_get?, if_pos hid, List.getLast?_concat]
    rfl
  succeeded := by
    refine List.pairwise_append.mpr ⟨h.succeeded, List.pairwise_singleton _ _, ?_⟩
    intro earlier hearlier later hlater hstate
    obtain rfl := List.mem_singleton.mp hlater
    have hne : chain ≠ [] := List.ne_nil_of_mem hearlier
    refine hsucceeded (chain.getLast hne) (List.getLast?_eq_some_getLast hne) ?_
    by_cases hlast : earlier = chain.getLast hne
    · exact hlast ▸ hstate
    · -- an earlier success was followed by the last record
      have hsplit := h.succeeded
      rw [← List.dropLast_append_getLast hne] at hsplit hearlier
      rcases List.mem_append.mp hearlier with hmem | hmem
      · exact (List.pairwise_append.mp hsplit).2.2 earlier hmem _ (List.mem_singleton_self _) hstate
      · exact absurd (List.mem_singleton.mp hmem) hlast

/-- A record that follows from one counts from it. -/
theorem Follows.attempts {calls : List ProviderCall}
    (h : Follows coordinator given' calls record stored) :
    stored.record.checkpoint.attempts = record.checkpoint.attempts + 1 := by
  cases h <;> rfl

theorem Follows.succeeded {calls : List ProviderCall}
    (h : Follows coordinator given' calls record stored) (hstate : record.state = .succeeded) :
    stored.record.state = .succeeded := by
  cases h with
  | resumed _ hresumable _ => simp [IsResumable, hstate] at hresumable
  | failed _ _ hpending _ => rw [hstate] at hpending; cases hpending
  | unverified _ _ _ hpending => rw [hstate] at hpending; cases hpending
  | completed => rfl
  | calledBack => rfl
  | cleaned => exact hstate

/-- What a put of a run finds: the last record of its operation, alike to the one it replaces. -/
structure Replaces (world : World) (record : CustomerProviderOperationRecord)
    (chain : List StoredRecord) (last : StoredRecord) : Prop where
  isLast : chain.getLast? = some last
  alike : pendingForm last.record = pendingForm record
  digest : last.record.checkpoint.stateDigest = record.checkpoint.stateDigest

theorem Chained.replaces {host : ProviderHost}
    (h : Chained world record.operationId (world.chain record.operationId))
    (hcollision : NoCollision host (world.chain record.operationId))
    (hsealed : AllSealed host world) (hknown : world.Knows record)
    (hexpects : world.Expects record.operationId (some record.checkpoint.stateDigest)) :
    ∃ last, Replaces world record (world.chain record.operationId) last := by
  unfold World.Expects at hexpects
  rw [h.current, Option.map_map] at hexpects
  obtain ⟨last, hlast, hdigest⟩ := Option.map_eq_some_iff.mp hexpects
  obtain ⟨found, hfound, rfl⟩ := hknown
  have hmem : found ∈ world.chain found.record.operationId :=
    List.mem_filter.mpr ⟨hfound, by simp⟩
  refine ⟨last, hlast, ?_, hdigest⟩
  exact alike_of_digest hcollision (List.mem_of_getLast? hlast) hmem
    (fun other hother => hsealed other (List.mem_of_mem_filter hother)) hdigest

/-- **Every move keeps the chains.** -/
theorem Chained.moves (hsealed : AllSealed coordinator.host world)
    (h : Chained world operationId (world.chain operationId))
    (hcollision : NoCollision coordinator.host (world.chain operationId))
    (hmoves : Moves coordinator given' world world') :
    Chained world' operationId (world'.chain operationId) := by
  have hother {stored : StoredRecord} (hid : stored.record.operationId ≠ operationId) :
      Chained (world.store stored) operationId ((world.store stored).chain operationId) := by
    rw [chain_store, if_neg hid, List.append_nil]
    exact ⟨h.attempts, by rw [World.store_get?, if_neg hid, h.current], h.succeeded⟩
  cases hmoves with
  | same => exact h
  | called => exact ⟨h.attempts, h.current, h.succeeded⟩
  | created input now hnone =>
    by_cases hid : input.operationId = operationId
    · subst hid
      have hempty : world.chain input.operationId = [] := by
        have hcurrent := h.current
        rw [hnone] at hcurrent
        exact List.getLast?_eq_none_iff.mp (Option.map_eq_none_iff.mp hcurrent.symm)
      have hsame : (coordinator.host.initialRecord input now).operationId = input.operationId := rfl
      rw [chain_store, if_pos hsame]
      refine h.snoc hsame ?_ ?_
      · rw [hempty]
        rfl
      · rw [hempty]
        exact fun _ hlast => by cases hlast
    · exact hother hid
  | replaced record stored hknown hexpects hfollows =>
    have hsame := hfollows.operationId
    by_cases hid : record.operationId = operationId
    · subst hid
      obtain ⟨last, hlast, halike, -⟩ := h.replaces hcollision hsealed hknown hexpects
      have hattempts : last.record.checkpoint.attempts = record.checkpoint.attempts :=
        congrArg (fun record => record.checkpoint.attempts) halike
      have hstate : last.record.state = record.state := congrArg (·.state) halike
      rw [chain_store, if_pos hsame]
      refine h.snoc hsame ?_ ?_
      · -- the last record of a chain has counted the others
        have hcount : (world.chain record.operationId).getLast?.map (·.record.checkpoint.attempts) =
            (List.range (world.chain record.operationId).length).getLast? := by
          rw [← List.getLast?_map, h.attempts]
        have hne : (world.chain record.operationId).length ≠ 0 := by
          intro hnil
          rw [List.length_eq_zero_iff.mp hnil] at hlast
          cases hlast
        rw [hlast, List.getLast?_range, if_neg hne, Option.map_some, Option.some.injEq] at hcount
        rw [hfollows.attempts, ← hattempts, hcount]
        omega
      · intro found hfound hsucceeded
        rw [hlast] at hfound
        obtain rfl := Option.some.inj hfound
        exact hfollows.succeeded (hstate ▸ hsucceeded)
    · exact hother (hsame ▸ hid)

/-- What a run has stored only grows. -/
theorem NoCollision.of_grows {host : ProviderHost} (hgrows : Grows world world')
    (h : NoCollision host (world'.chain operationId)) :
    NoCollision host (world.chain operationId) := by
  have hsub : world.chain operationId ⊆ world'.chain operationId := by
    obtain ⟨rest, hrest⟩ := hgrows.history
    rw [World.chain, World.chain, ← hrest, List.filter_append]
    exact List.subset_append_left _ _
  exact fun stored hstored other hother => h stored (hsub hstored) other (hsub hother)

theorem reached_chained {tr : List CoordinatorTransition} {pool : CoordinatorPool}
    (hrun : CoordinatorRun coordinator given' tr pool) :
    NoCollision coordinator.host (pool.shared.chain operationId) →
      Chained pool.shared operationId (pool.shared.chain operationId) := by
  refine (reached_of_moves (I := fun world => AllSealed coordinator.host world ∧
    (NoCollision coordinator.host (world.chain operationId) →
      Chained world operationId (world.chain operationId))) ?_ ?_ hrun).2
  · refine ⟨fun _ h => absurd h List.not_mem_nil, fun _ => ⟨rfl, ?_, .nil⟩⟩
    exact OrderedMap.get?_empty operationId
  · rintro world world' ⟨hsealed, hchained⟩ hmoves
    refine ⟨hsealed.moves hmoves, fun hcollision => ?_⟩
    have hbefore := hcollision.of_grows hmoves.grows
    exact (hchained hbefore).moves hsealed hbefore hmoves

/-! ## Verified successes and late callbacks -/

/-- What holds of the records of an operation in a consistent run. -/
structure Sound (calls : List ProviderCall) (chain : List StoredRecord) : Prop where
  verified : ∀ stored ∈ chain, stored.record.state = .succeeded →
    VerifiedSuccess calls stored.record
  /-- No late callback was taken. -/
  callbacks : ∀ before stored after digest, chain = before ++ stored :: after →
    stored.callback = some digest → Fresh before digest
  /-- The checkpoint that the last record names for a callback is one of the current attempt. -/
  fresh : ∀ last ∈ chain.getLast?, ∀ digest,
    last.record.callbackStateDigest = some (some digest) → Fresh chain digest
  pending : ∀ last ∈ chain.getLast?, last.record.state = .pending →
    last.record.callbackStateDigest.join = none

theorem VerifiedSuccess.mono {calls calls' : List ProviderCall} (hsub : calls ⊆ calls')
    (h : VerifiedSuccess calls record) : VerifiedSuccess calls' record := by
  obtain ⟨⟨readBack, hcall, hpresent⟩, hdigest⟩ := h
  exact ⟨⟨readBack, hsub hcall, hpresent⟩, hdigest⟩

theorem Sound.mono {calls calls' : List ProviderCall} {chain : List StoredRecord}
    (hsub : calls ⊆ calls') (h : Sound calls chain) : Sound calls' chain :=
  { h with verified := fun stored hstored hstate => (h.verified stored hstored hstate).mono hsub }

/-- A record that is not pending starts no attempt. -/
theorem Fresh.snoc {chain : List StoredRecord} {digest : String}
    (hstate : stored.record.state ≠ .pending) (h : Fresh chain digest) :
    Fresh (chain ++ [stored]) digest := by
  intro early start late hsplit hpending found hfound
  rcases List.eq_nil_or_concat late with rfl | ⟨late, last, rfl⟩
  · obtain ⟨-, hlast⟩ := List.append_inj' hsplit rfl
    exact absurd hpending (List.singleton_inj.mp hlast ▸ hstate)
  · rw [List.concat_eq_append, ← List.cons_append, ← List.append_assoc] at hsplit
    obtain ⟨hchain, -⟩ := List.append_inj' hsplit rfl
    exact h early start late hchain hpending found hfound

/-- The last digest of a chain is not one of an earlier record. -/
theorem fresh_last {chain : List StoredRecord} {last : StoredRecord}
    (hlast : chain.getLast? = some last)
    (hdigests : (chain.map (·.record.checkpoint.stateDigest)).Nodup) :
    Fresh chain last.record.checkpoint.stateDigest := by
  intro early start late hsplit _ found hfound hdigest
  subst hsplit
  rw [List.map_append] at hdigests
  have hdisjoint := List.disjoint_of_nodup_append hdigests
  refine hdisjoint (List.mem_map_of_mem hfound) ?_
  rw [hdigest]
  refine List.mem_map_of_mem (List.mem_of_getLast? ?_)
  rwa [List.getLast?_append_of_ne_nil _ (List.cons_ne_nil _ _)] at hlast

/-- One more record of a consistent run. -/
theorem Sound.snoc {calls : List ProviderCall} {chain : List StoredRecord} (h : Sound calls chain)
    (hverified : stored.record.state = .succeeded → VerifiedSuccess calls stored.record)
    (hcallback : ∀ digest, stored.callback = some digest → Fresh chain digest)
    (hfresh : ∀ digest, stored.record.callbackStateDigest = some (some digest) →
      stored.record.state ≠ .pending ∧ Fresh chain digest) :
    Sound calls (chain ++ [stored]) where
  verified found hfound hstate := by
    rcases List.mem_append.mp hfound with hold | hnew
    · exact h.verified found hold hstate
    · obtain rfl := List.mem_singleton.mp hnew
      exact hverified hstate
  callbacks before found after digest hsplit hfound := by
    rcases List.eq_nil_or_concat after with rfl | ⟨after, last, rfl⟩
    · obtain ⟨hchain, hlast⟩ := List.append_inj' hsplit rfl
      rw [← hchain]
      exact hcallback digest (List.singleton_inj.mp hlast ▸ hfound)
    · rw [List.concat_eq_append, ← List.cons_append, ← List.append_assoc] at hsplit
      obtain ⟨hchain, -⟩ := List.append_inj' hsplit rfl
      exact h.callbacks before found after digest hchain hfound
  fresh last hlast digest hdigest := by
    rw [List.getLast?_concat] at hlast
    obtain rfl := Option.some.inj hlast
    obtain ⟨hstate, hbefore⟩ := hfresh digest hdigest
    exact hbefore.snoc hstate
  pending last hlast hstate := by
    rw [List.getLast?_concat] at hlast
    obtain rfl := Option.some.inj hlast
    cases hdigest : stored.record.callbackStateDigest.join with
    | none => rfl
    | some digest => exact absurd hstate (hfresh digest (Option.join_eq_some_iff.mp hdigest)).1

theorem given_eq_some {text : Option String} {value : String} (h : given text = some value) :
    text = some value := (Option.filter_eq_some_iff.mp h).1

/-- A success that was read back for an observation of the record. -/
theorem verified_completed {calls : List ProviderCall}
    {observation : CustomerProviderOperationObservation} {readBack : CustomerProviderReadBack}
    {now : String} (hverified : ¬ Unverified observation readBack)
    (hgiven : ∃ answer, answer.readBack = .ok readBack ∧
      Consistent (.readBack record (given observation.outputDigest) false) answer)
    (hcall : .readBack record.operationId (.ok readBack) ∈ calls) :
    VerifiedSuccess calls (coordinator.completedRecord record observation readBack now) := by
  obtain ⟨hpresent, hdigest, hmatch⟩ : readBack.status = .present ∧ given readBack.digest ≠ none ∧
      ∀ digest ∈ given observation.outputDigest, readBack.digest = some digest := by
    simpa [Unverified] using hverified
  obtain ⟨value, hvalue⟩ := Option.ne_none_iff_exists'.mp hdigest
  refine ⟨⟨readBack, hcall, hpresent, rfl, ?_⟩, fun digest houtput => ?_⟩
  · show readBack.digest.isSome
    rw [given_eq_some hvalue]
    rfl
  · change digest ∈ (given observation.outputDigest <|> record.outputDigest) at houtput
    show readBack.digest = some digest
    obtain ⟨answer, hanswer, hconsistent⟩ := hgiven
    cases hgiven : given observation.outputDigest with
    | some output =>
      rw [hgiven] at houtput
      exact hmatch digest (hgiven ▸ houtput)
    | none =>
      rw [hgiven] at hconsistent houtput
      exact hconsistent readBack (by rw [hanswer]; rfl) hpresent digest houtput

theorem verified_calledBack {calls : List ProviderCall} {input : CallbackInput}
    {readBack : CustomerProviderReadBack} {now : String}
    (hpresent : readBack.status = .present ∧ (given readBack.digest).isSome)
    (hgiven : ∃ answer, answer.readBack = .ok readBack ∧
      Consistent (.readBack record (given input.outputDigest) true) answer)
    (hcall : .readBack record.operationId (.ok readBack) ∈ calls) :
    VerifiedSuccess calls (coordinator.callbackRecord record input readBack now) := by
  obtain ⟨value, hvalue⟩ := Option.isSome_iff_exists.mp hpresent.2
  obtain ⟨answer, hanswer, hconsistent⟩ := hgiven
  refine ⟨⟨readBack, hcall, hpresent.1, rfl, ?_⟩, fun digest houtput => ?_⟩
  · show readBack.digest.isSome
    rw [given_eq_some hvalue]
    rfl
  · exact hconsistent readBack (by rw [hanswer]; rfl) hpresent.1 digest houtput

/-- **A consistent put keeps the chain sound.** -/
theorem Sound.follows {calls : List ProviderCall} {chain : List StoredRecord} {last : StoredRecord}
    (h : Sound calls chain) (hreplaces : Replaces world record chain last)
    (hdigests : (chain.map (·.record.checkpoint.stateDigest)).Nodup)
    (hfollows : Follows coordinator Consistent calls record stored) :
    Sound calls (chain ++ [stored]) := by
  obtain ⟨hlast, halike, hdigest⟩ := hreplaces
  have hstate : last.record.state = record.state := congrArg (·.state) halike
  have hnamed : last.record.callbackStateDigest = record.callbackStateDigest :=
    congrArg (·.callbackStateDigest) halike
  have hmem : last ∈ chain := List.mem_of_getLast? hlast
  have hfresh (digest : String) (hcallback : record.callbackStateDigest = some (some digest)) :
      Fresh chain digest := h.fresh last hlast digest (hnamed.trans hcallback)
  have hown : Fresh chain record.checkpoint.stateDigest := hdigest ▸ fresh_last hlast hdigests
  cases hfollows with
  | resumed now hresumable hgiven =>
    obtain ⟨answer, hquiet⟩ := hgiven
    have hquiet : record.callbackStateDigest.join = none := hquiet rfl
    refine h.snoc nofun nofun fun digest hcallback => ?_
    have hcallback : record.callbackStateDigest = some (some digest) := hcallback
    rw [hcallback] at hquiet
    cases hquiet
  | failed observation now hpending hrefused =>
    have hnot : ∀ state : CustomerProviderOperationState,
        state = (if observation.status = .indeterminate then .indeterminate
          else if observation.retryable then .degraded else .blocked) →
        state ≠ .pending ∧ state ≠ .succeeded := by
      rintro state rfl
      split
      · exact ⟨nofun, nofun⟩
      · split <;> exact ⟨nofun, nofun⟩
    refine h.snoc (fun hsucceeded => absurd hsucceeded (hnot _ rfl).2) nofun
      fun digest hcallback => ⟨(hnot _ rfl).1, ?_⟩
    change (if isDeferred observation.providerStatus
      then some (some record.checkpoint.stateDigest) else record.callbackStateDigest) = _ at hcallback
    split at hcallback
    · obtain rfl := Option.some.inj (Option.some.inj hcallback)
      exact hown
    · exact hfresh digest hcallback
  | unverified observation readBack now hpending =>
    exact h.snoc nofun nofun fun digest hcallback => ⟨nofun, hfresh digest hcallback⟩
  | completed observation readBack now hpending hverified hgiven hcall =>
    exact h.snoc (fun _ => verified_completed hverified hgiven hcall) nofun
      fun digest hcallback => ⟨nofun, hfresh digest hcallback⟩
  | calledBack input readBack now hexpected hpresent hgiven hcall =>
    refine h.snoc (fun _ => verified_calledBack hpresent hgiven hcall) (fun digest hcallback => ?_)
      nofun
    obtain rfl := Option.some.inj hcallback
    rcases hexpected with hcurrent | hcallback
    · exact hcurrent ▸ hown
    · exact hfresh _ hcallback
  | cleaned receipt now =>
    refine h.snoc (fun hsucceeded => ?_) nofun fun digest hcallback => ⟨fun hpending => ?_, ?_⟩
    · have hbefore := h.verified last hmem (hstate.trans hsucceeded)
      have houtput : last.record.outputDigest = record.outputDigest :=
        congrArg (·.outputDigest) halike
      have hread : last.record.readBackDigest = record.readBackDigest :=
        congrArg (·.readBackDigest) halike
      have hid : last.record.operationId = record.operationId := congrArg (·.operationId) halike
      unfold VerifiedSuccess at hbefore ⊢
      rw [houtput, hread, hid] at hbefore
      exact hbefore
    · have hquiet := h.pending last hlast (hstate.trans hpending)
      rw [hnamed, show record.callbackStateDigest = some (some digest) from hcallback] at hquiet
      cases hquiet
    · exact hfresh digest hcallback

/-- **The records of an operation**: one chain that counts attempts, without a digest that comes
back, in which a success stays one, was read back, and no late callback was taken. -/
structure OperationSound (world : World) (operationId : String) : Prop where
  attempts : (world.chain operationId).map (·.record.checkpoint.attempts) =
    List.range (world.chain operationId).length
  digests : ((world.chain operationId).map (·.record.checkpoint.stateDigest)).Nodup
  current : world.records.get? operationId =
    (world.chain operationId).getLast?.map (·.record)
  succeeded : (world.chain operationId).Pairwise fun earlier later =>
    earlier.record.state = .succeeded → later.record.state = .succeeded
  verified : ∀ stored ∈ world.chain operationId, stored.record.state = .succeeded →
    VerifiedSuccess world.calls stored.record
  callbacks : ∀ before stored after digest, world.chain operationId = before ++ stored :: after →
    stored.callback = some digest → Fresh before digest

theorem Sound.nil {calls : List ProviderCall} : Sound calls [] where
  verified _ h := absurd h List.not_mem_nil
  callbacks before stored after _ hsplit := by simp at hsplit
  fresh _ hlast := by cases hlast
  pending _ hlast := by cases hlast

theorem Sound.moves (hsealed : AllSealed coordinator.host world)
    (hchained : Chained world operationId (world.chain operationId))
    (hcollision : NoCollision coordinator.host (world.chain operationId))
    (h : Sound world.calls (world.chain operationId))
    (hmoves : Moves coordinator Consistent world world') :
    Sound world'.calls (world'.chain operationId) := by
  have hother {stored : StoredRecord} (hid : stored.record.operationId ≠ operationId) :
      Sound (world.store stored).calls ((world.store stored).chain operationId) := by
    rw [chain_store, if_neg hid, List.append_nil]
    exact h
  cases hmoves with
  | same => exact h
  | called call => exact h.mono (List.subset_append_left _ _)
  | created input now hnone =>
    have hid : (coordinator.host.initialRecord input now).operationId = input.operationId := rfl
    by_cases hsame : input.operationId = operationId
    · rw [chain_store, if_pos (hid.trans hsame)]
      exact h.snoc nofun nofun nofun
    · exact hother hsame
  | replaced record stored hknown hexpects hfollows =>
    have hid := hfollows.operationId
    by_cases hsame : record.operationId = operationId
    · subst hsame
      obtain ⟨last, hreplaces⟩ := hchained.replaces hcollision hsealed hknown hexpects
      have hdigests := hchained.digests hcollision fun found hfound =>
        hsealed found (List.mem_of_mem_filter hfound)
      rw [chain_store, if_pos hid]
      exact h.follows hreplaces hdigests hfollows
    · exact hother (hid ▸ hsame)

theorem reached_sound {tr : List CoordinatorTransition} {pool : CoordinatorPool}
    (hrun : CoordinatorRun coordinator Consistent tr pool) :
    NoCollision coordinator.host (pool.shared.chain operationId) →
      Sound pool.shared.calls (pool.shared.chain operationId) := by
  intro hcollision
  refine ((reached_of_moves (I := fun world => AllSealed coordinator.host world ∧
    (NoCollision coordinator.host (world.chain operationId) →
      Chained world operationId (world.chain operationId) ∧
        Sound world.calls (world.chain operationId))) ?_ ?_ hrun).2 hcollision).2
  · refine ⟨fun _ h => absurd h List.not_mem_nil, fun _ => ⟨⟨rfl, ?_, .nil⟩, .nil⟩⟩
    exact OrderedMap.get?_empty operationId
  · rintro world world' ⟨hsealed, hsound⟩ hmoves
    refine ⟨hsealed.moves hmoves, fun hcollision => ?_⟩
    have hbefore := hcollision.of_grows hmoves.grows
    obtain ⟨hchained, hsound⟩ := hsound hbefore
    exact ⟨hchained.moves hsealed hbefore hmoves, hsound.moves hsealed hchained hbefore hmoves⟩

/-- **Provider success is verified success** in every consistent run without a collision of
digests. -/
theorem operationSound {tr : List CoordinatorTransition} {pool : CoordinatorPool}
    (hrun : CoordinatorRun coordinator Consistent tr pool)
    (hcollision : NoCollision coordinator.host (pool.shared.chain operationId)) :
    OperationSound pool.shared operationId := by
  have hchained := reached_chained hrun hcollision
  have hsound := reached_sound hrun hcollision
  refine ⟨hchained.attempts, ?_, hchained.current, hchained.succeeded, hsound.verified,
    hsound.callbacks⟩
  exact hchained.digests hcollision fun found hfound =>
    reached_sealed hrun found (List.mem_of_mem_filter hfound)

/-! ## Runs -/

/-- A run and a callback for it, whose read-back has the digest that the callback gives. -/
def outputCallback (digest expectedStateDigest : String) : CallbackInput where
  operationId := "operation"
  authorization := ownerAuthorization
  providerOperationId := "provider:r2:operation"
  expectedStateDigest
  outputDigest := some digest
  receipt := "callback"

/-- A transport took the operation. -/
def deferredObservation : CustomerProviderOperationObservation where
  status := .indeterminate
  providerOperationId := "provider:r2:operation"
  providerStatus := "transport-accepted"
  retryable := true
  recoveryAction := "wait for the callback"
  receipt := "transport=accepted"

/-- What the adapters answer when the object of the provider has a digest. -/
def storing (digest : String) : Answer :=
  { answering deferredObservation with
    readBack := .ok {
      providerOperationId := "provider:r2:operation"
      status := .present
      digest := some digest
      receipt := "readBack=present" } }

/-- The operation is deferred; then further calls are made, one after another. -/
def deferredThen (later : List (PoolOp Call Answer)) : List (PoolOp Call Answer) :=
  .start (.run bucketInput) :: List.replicate 8 (.resume 0 (storing "output")) ++ later

def ran (operations : List (PoolOp Call Answer)) :=
  exec (Pool.step scanningCoordinator.program) { shared := {} } operations

/-- The digest of the first record of the operation. -/
def firstDigest : String := "operation:0:now"

/-- A callback in time, for the digest that the provider has. -/
def callbackInTime (digest : String) : List (PoolOp Call Answer) :=
  deferredThen (.start (.acceptCallback (outputCallback digest firstDigest)) ::
    List.replicate 8 (.resume 1 (storing "output")))

theorem operationSound_sample :
    OperationSound (ran (callbackInTime "output")).2.shared "operation" ∧
      (ran (callbackInTime "output")).2.shared.records.values.map (·.state) = [.succeeded] :=
  ⟨operationSound (run_exec (by decide +kernel)) (by decide +kernel), by decide +kernel⟩

/-- A callback whose output is not what the provider has makes a success. -/
theorem unverified_success :
    ∃ tr pool, CoordinatorRun scanningCoordinator (fun _ _ => True) tr pool ∧
      NoCollision scanningCoordinator.host (pool.shared.chain "operation") ∧
      pool.shared.records.values.map (fun record =>
        (record.state, record.outputDigest, record.readBackDigest)) =
          [(.succeeded, some "other", some "output")] ∧
      ¬ OperationSound pool.shared "operation" := by
  refine ⟨(ran (callbackInTime "other")).1, (ran (callbackInTime "other")).2,
    run_exec (.of_forall (Pool.Admits.of_forall fun _ _ _ => trivial) _ _), by decide +kernel,
    by decide +kernel, fun hsound => ?_⟩
  have houtput : ∀ stored ∈ (ran (callbackInTime "other")).2.shared.chain "operation",
      stored.record.state = .succeeded → ∀ digest ∈ stored.record.outputDigest,
        stored.record.readBackDigest = some digest :=
    fun stored hstored hstate => (hsound.verified stored hstored hstate).2
  revert houtput
  decide +kernel

end Anyam.Provider.Operation
