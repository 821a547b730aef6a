import Anyam.Authority.Snapshots
import Anyam.Lib.VersionFence
import Mathlib.Data.List.Sort

/-!
# The SQLite store

`AuthoritySQLiteStore`: an Authority snapshot kept as rows, read back with `load`, and written by
`commit` with the difference between the snapshot a client has read and the one it leaves. Rows are
grouped by their collection here. A transaction that throws leaves the rows as they were.

- **`load_ok`**: what is loaded shows the rows.
- **`commit_ok`**: a commit that goes through found the version of the snapshot it is based on.
-/

namespace Anyam.Lib.OrderedMap

variable {α : Type}

/-- The entries, `ORDER BY` their keys. -/
def sorted (m : OrderedMap String α) : OrderedMap String α where
  entries := m.entries.insertionSort fun a b => a.1 ≤ b.1
  nodup := ((List.perm_insertionSort _ _).map _).nodup_iff.mpr m.nodup

@[simp] theorem get?_sorted (m : OrderedMap String α) (k : String) :
    m.sorted.get? k = m.get? k := by
  refine Option.ext fun v => ?_
  rw [get?_eq_some_iff, get?_eq_some_iff]
  exact (List.perm_insertionSort _ _).mem_iff

end Anyam.Lib.OrderedMap

namespace Anyam.Authority

open Anyam.Lib Anyam.Kernel Anyam.Delivery Anyam.Execution

instance Collection.decidableEqRecord : (c : Collection) → DecidableEq c.Record
  | .projects => inferInstanceAs (DecidableEq Project)
  | .sourceSpaces => inferInstanceAs (DecidableEq SourceSpace)
  | .projectRevisions => inferInstanceAs (DecidableEq ProjectRevision)
  | .intents => inferInstanceAs (DecidableEq Intent)
  | .intentComments => inferInstanceAs (DecidableEq IntentComment)
  | .pullRequests => inferInstanceAs (DecidableEq PullRequest)
  | .projectViews => inferInstanceAs (DecidableEq ProjectView)
  | .workspaces => inferInstanceAs (DecidableEq Workspace)
  | .changes => inferInstanceAs (DecidableEq Change)
  | .changeRevisions => inferInstanceAs (DecidableEq ChangeRevision)
  | .runs => inferInstanceAs (DecidableEq Run)
  | .runnerProfiles => inferInstanceAs (DecidableEq RunnerProfile)
  | .runnerAttempts => inferInstanceAs (DecidableEq RunnerAttempt)
  | .runDetails => inferInstanceAs (DecidableEq AcceptedRunDetail)
  | .evidence => inferInstanceAs (DecidableEq Evidence)
  | .artifacts => inferInstanceAs (DecidableEq Artifact)
  | .landings => inferInstanceAs (DecidableEq Landing)
  | .canonicalRefProjections => inferInstanceAs (DecidableEq CanonicalRefProjectionRecord)
  | .releases => inferInstanceAs (DecidableEq Release)
  | .targets => inferInstanceAs (DecidableEq Target)
  | .promotions => inferInstanceAs (DecidableEq PromotionRecord)
  | .mirrors => inferInstanceAs (DecidableEq RepositoryMirror)
  | .mirrorOperations => inferInstanceAs (DecidableEq MirrorOperation)
  | .mirrorCheckpoints => inferInstanceAs (DecidableEq MirrorCheckpoint)
  | .externalProposals => inferInstanceAs (DecidableEq ExternalProposal)
  | .mirrorDeliveries => inferInstanceAs (DecidableEq MirrorDelivery)
  | .canonicalByProject => inferInstanceAs (DecidableEq String)

/-- The rows of the tables, none before a snapshot is stored. -/
abbrev AuthorityRows := Option AuthorityPlaneSnapshot

/-! ## Reading -/

/-- `ORDER BY state_version, event_id`. -/
def EventLe (left right : AuthorityAuditEvent) : Prop :=
  left.stateVersion < right.stateVersion ∨
    (left.stateVersion = right.stateVersion ∧ left.id ≤ right.id)

instance EventLe.decidable : DecidableRel EventLe :=
  fun left right => inferInstanceAs (Decidable (left.stateVersion < right.stateVersion ∨ _))

/-- The rows in the order they are selected in. -/
def readRows (stored : AuthorityPlaneSnapshot) : AuthorityPlaneSnapshot where
  realmId := stored.realmId
  version := stored.version
  records := fun c => (stored.records c).sorted
  idempotency := stored.idempotency.sorted
  audit := stored.audit.insertionSort EventLe

/-- `load`, with the adapter that normalizes. -/
def load (services : AuthorityServices) (rows : AuthorityRows) (realmId : String) :
    Except AuthorityFailure (Option AuthorityPlaneSnapshot) :=
  match rows with
  | none => .ok none
  | some stored => do
    require (stored.realmId = realmId) (.untranslated "authority_sqlite_realm_mismatch")
    return some (← normalizeAuthorityPlaneSnapshot services (readRows stored))

/-! ## Writing -/

/-- The maps hold the same entries, in any order. -/
abbrev SameEntries {α : Type} (m m' : OrderedMap String α) : Prop := m.entries.Perm m'.entries

/-- `assertAuthoritySnapshotEquivalent`. -/
def assertAuthoritySnapshotEquivalent (previous next : AuthorityPlaneSnapshot) :
    Except AuthorityFailure Unit :=
  require (previous.realmId = next.realmId ∧ previous.version = next.version ∧
      (∀ c ∈ Collection.all, SameEntries (previous.records c) (next.records c)) ∧
      SameEntries previous.idempotency next.idempotency ∧ previous.audit = next.audit)
    (.untranslated "authority_sqlite_noop_snapshot_mismatch")

def assertImmutableRecords {α : Type} [DecidableEq α] (previous next : OrderedMap String α)
    (field : String) : Except AuthorityFailure Unit :=
  forM previous.keys fun id => do
    require (next.has id = true)
      (.untranslated s!"authority_sqlite_{field}_deletion_forbidden:{id}")
    require (previous.get? id = next.get? id)
      (.untranslated s!"authority_sqlite_{field}_mutation_forbidden:{id}")

/-- One row of a collection is deleted, kept, or written. -/
def diffRow {α : Type} [DecidableEq α] (before after rows : OrderedMap String α) (id : String) :
    OrderedMap String α :=
  match after.get? id with
  | none => rows.delete id
  | some record => if before.get? id = some record then rows else rows.set id record

/-- `diffCollection`, on the rows of the collection. -/
def diffCollection {α : Type} [DecidableEq α] (before after rows : OrderedMap String α) :
    OrderedMap String α :=
  (before.keys ++ after.keys.filter (· ∉ before.keys)).foldl (diffRow before after) rows

/-- `INSERT` into a table with this key. -/
def insertRow {α : Type} (rows : OrderedMap String α) (entry : String × α) :
    Except AuthorityFailure (OrderedMap String α) := do
  require (rows.has entry.1 = false) (.untranslated "UNIQUE constraint failed")
  return rows.set entry.1 entry.2

def insertRows {α : Type} (rows : OrderedMap String α) :
    List (String × α) → Except AuthorityFailure (OrderedMap String α)
  | [] => .ok rows
  | entry :: entries => do insertRows (← insertRow rows entry) entries

/-- The events under their ids. -/
def eventRows (events : List AuthorityAuditEvent) : OrderedMap String AuthorityAuditEvent :=
  .ofList (events.map fun event => (event.id, event))

/-- The transaction of `commit`. -/
def commitRows (previous next stored : AuthorityPlaneSnapshot) :
    Except AuthorityFailure AuthorityPlaneSnapshot := do
  require (stored.realmId = previous.realmId) (.untranslated "authority_sqlite_realm_mismatch")
  require (stored.version = previous.version) (.untranslated "authority_sqlite_stale_version")
  assertImmutableRecords previous.idempotency next.idempotency "idempotency"
  let idempotency ← insertRows stored.idempotency
    (next.idempotency.entries.filter fun entry => previous.idempotency.has entry.1 = false)
  require ((next.audit.map AuthorityAuditEvent.id).Nodup)
    (.untranslated "authority_sqlite_audit_duplicate")
  assertImmutableRecords (eventRows previous.audit) (eventRows next.audit) "audit"
  let previousIds := previous.audit.map AuthorityAuditEvent.id
  let events := next.audit.filter (·.id ∉ previousIds)
  require (∀ event ∈ events, event.id ∉ stored.audit.map AuthorityAuditEvent.id)
    (.untranslated "UNIQUE constraint failed")
  return {
    realmId := next.realmId
    version := next.version
    records := fun c => diffCollection (previous.records c) (next.records c) (stored.records c)
    idempotency
    audit := stored.audit ++ events }

def commit (previous next : AuthorityPlaneSnapshot) (rows : AuthorityRows) :
    Except AuthorityFailure AuthorityRows := do
  require (previous.realmId = next.realmId) (.untranslated "authority_sqlite_realm_mismatch")
  if next.version = previous.version then
    assertAuthoritySnapshotEquivalent previous next
    return rows
  else
    require (next.version = previous.version + 1)
      (.untranslated "authority_sqlite_version_transition_invalid")
    let stored ← orThrow rows (.untranslated "authority_sqlite_meta_missing")
    return some (← commitRows previous next stored)

/-! ## What is loaded -/

theorem readRows_same (stored : AuthorityPlaneSnapshot) : SameRows stored (readRows stored) :=
  ⟨rfl, rfl, fun _ _ _ => OrderedMap.get?_sorted .., fun _ => OrderedMap.get?_sorted ..⟩

theorem load_ok {services : AuthorityServices} {rows : AuthorityRows} {realmId : String}
    {snapshot : AuthorityPlaneSnapshot} (h : load services rows realmId = .ok (some snapshot)) :
    ∃ stored, rows = some stored ∧ stored.realmId = realmId ∧ SameRows stored snapshot ∧
      snapshot.audit.Perm stored.audit := by
  cases rows with
  | none => cases h
  | some stored =>
    simp only [load, bind_eq_ok, require_eq_ok, exists_unit, pure_eq_ok, Option.some.injEq] at h
    obtain ⟨hrealm, _, hnormalized, rfl⟩ := h
    obtain ⟨hsame, haudit⟩ := normalizeAuthorityPlaneSnapshot_ok hnormalized
    refine ⟨stored, rfl, hrealm, (readRows_same stored).trans hsame, ?_⟩
    rw [haudit]
    exact List.perm_insertionSort _ _

/-! ## What is written -/

section

variable {α : Type} [DecidableEq α] {before after rows rows' : OrderedMap String α}

theorem get?_diffRow_ne {id k : String} (h : k ≠ id) :
    (diffRow before after rows id).get? k = rows.get? k := by
  unfold diffRow
  cases after.get? id with
  | none => simp only [OrderedMap.get?_delete, if_neg h]
  | some record =>
    show (if before.get? id = some record then rows else rows.set id record).get? k = _
    split
    · rfl
    · rw [OrderedMap.get?_set_ne _ _ h]

theorem get?_diffRow_self {id : String}
    (h : rows.get? id = after.get? id ∨ rows.get? id = before.get? id) :
    (diffRow before after rows id).get? id = after.get? id := by
  unfold diffRow
  cases hafter : after.get? id with
  | none => simp only [OrderedMap.get?_delete, if_true]
  | some record =>
    show (if before.get? id = some record then rows else rows.set id record).get? id = _
    split
    · rename_i hbefore
      rw [hafter, hbefore, or_self] at h
      exact h
    · exact OrderedMap.get?_set_self ..

/-- Over rows that show the collection as it was, the difference leaves it as it is to be. -/
theorem get?_diffCollection (hrows : ∀ k, rows.get? k = before.get? k) (k : String) :
    (diffCollection before after rows).get? k = after.get? k := by
  -- a row shows what it is to show, or is still to be visited and shows what it did
  suffices h : ∀ (ids : List String) (rows : OrderedMap String α),
      (∀ k, rows.get? k = after.get? k ∨ k ∈ ids ∧ rows.get? k = before.get? k) →
        ∀ k, (ids.foldl (diffRow before after) rows).get? k = after.get? k by
    refine h _ rows (fun k => ?_) k
    by_cases hmem : k ∈ before.keys ++ after.keys.filter (· ∉ before.keys)
    · exact .inr ⟨hmem, hrows k⟩
    · simp only [List.mem_append, List.mem_filter, decide_eq_true_eq, not_or, not_and,
        not_not] at hmem
      have hbefore := OrderedMap.not_mem_keys_iff.mp hmem.1
      have hafter := OrderedMap.not_mem_keys_iff.mp fun hin => hmem.1 (hmem.2 hin)
      left
      rw [hrows k, hbefore, hafter]
  intro ids
  induction ids with
  | nil => exact fun rows h k => (h k).elim id fun h => absurd h.1 List.not_mem_nil
  | cons id ids ih =>
    refine fun rows h => ih _ fun k => ?_
    by_cases hk : k = id
    · subst hk
      exact .inl (get?_diffRow_self ((h k).imp_right And.right))
    · rw [get?_diffRow_ne hk]
      refine (h k).imp_right fun ⟨hmem, hbefore⟩ => ⟨?_, hbefore⟩
      exact (List.mem_cons.mp hmem).resolve_left hk

/-- Records that are immutable are kept. -/
theorem assertImmutableRecords_eq_ok {field : String} :
    assertImmutableRecords before after field = .ok () ↔ OrderedMap.Kept before after := by
  simp only [assertImmutableRecords, forM_eq_ok, bind_eq_ok, require_eq_ok, exists_unit]
  constructor
  · intro h k v hbefore
    rw [← (h k (OrderedMap.mem_keys_of_get? hbefore)).2, hbefore]
  · intro h k hk
    obtain ⟨v, hbefore⟩ := OrderedMap.mem_keys_iff.mp hk
    have hafter := h k v hbefore
    rw [OrderedMap.has, hafter, hbefore]
    exact ⟨rfl, rfl⟩

end

section

variable {α : Type} {before after rows rows' : OrderedMap String α}

/-- Rows are inserted when their keys are new and distinct, at the end. -/
theorem insertRows_eq_ok {entries : List (String × α)} :
    insertRows rows entries = .ok rows' ↔
      ((rows.entries ++ entries).map Prod.fst).Nodup ∧ rows'.entries = rows.entries ++ entries := by
  induction entries generalizing rows with
  | nil =>
    rw [insertRows, Except.ok.injEq, List.append_nil]
    exact ⟨fun h => ⟨rows.nodup, congrArg _ h.symm⟩, fun h => (OrderedMap.ext_entries h.2).symm⟩
  | cons entry entries ih =>
    simp only [insertRows, insertRow, bind_eq_ok, require_eq_ok, exists_unit, pure_eq_ok,
      OrderedMap.has_eq_false_iff, ← OrderedMap.not_mem_keys_iff]
    rw [List.append_cons]
    constructor
    · rintro ⟨_, ⟨hnew, rfl⟩, h⟩
      rw [ih, OrderedMap.entries_set_of_not_mem _ hnew] at h
      exact h
    · intro h
      have hnew : entry.1 ∉ rows.keys := by
        rw [List.append_assoc, List.map_append, List.nodup_append] at h
        exact fun hmem => h.1.2.2 _ hmem entry.1 (List.mem_cons_self ..) rfl
      refine ⟨_, ⟨hnew, rfl⟩, ih.mpr ?_⟩
      rw [OrderedMap.entries_set_of_not_mem _ hnew]
      exact h

/-- Over the rows of `before`, the entries that are new in `after` give the rows of `after`. -/
theorem insertRows_new (hrows : ∀ k, rows.get? k = before.get? k)
    (hkept : OrderedMap.Kept before after)
    (h : insertRows rows (after.entries.filter fun entry => before.has entry.1 = false) =
      .ok rows') (k : String) : rows'.get? k = after.get? k := by
  obtain ⟨-, hentries⟩ := insertRows_eq_ok.mp h
  refine Option.ext fun v => ?_
  rw [OrderedMap.get?_eq_some_iff, hentries, List.mem_append, ← OrderedMap.get?_eq_some_iff,
    hrows k, List.mem_filter, ← OrderedMap.get?_eq_some_iff, decide_eq_true_eq,
    OrderedMap.has_eq_false_iff]
  constructor
  · rintro (hold | ⟨hnew, -⟩)
    · exact hkept k v hold
    · exact hnew
  · intro hafter
    cases hbefore : before.get? k with
    | none => exact .inr ⟨hafter, rfl⟩
    | some old => exact .inl (hkept k old hbefore ▸ hafter)

end

/-- What a commit found and left, when it wrote. -/
structure Committed (previous next stored stored' : AuthorityPlaneSnapshot) : Prop where
  realm : stored.realmId = previous.realmId
  current : stored.version = previous.version
  version : next.version = previous.version + 1
  kept : OrderedMap.Kept previous.idempotency next.idempotency
  rows : commitRows previous next stored = .ok stored'

section

variable {previous next stored stored' : AuthorityPlaneSnapshot} {rows rows' : AuthorityRows}

theorem commitRows_ok (h : commitRows previous next stored = .ok stored') :
    stored.realmId = previous.realmId ∧ stored.version = previous.version ∧
      OrderedMap.Kept previous.idempotency next.idempotency ∧
      insertRows stored.idempotency (next.idempotency.entries.filter fun entry =>
        previous.idempotency.has entry.1 = false) = .ok stored'.idempotency ∧
      stored'.realmId = next.realmId ∧ stored'.version = next.version ∧
      ∀ c, stored'.records c =
        diffCollection (previous.records c) (next.records c) (stored.records c) := by
  simp only [commitRows, bind_eq_ok, require_eq_ok, exists_unit, pure_eq_ok,
    assertImmutableRecords_eq_ok] at h
  obtain ⟨hrealm, hversion, hkept, idempotency, hinserted, -, -, -, rfl⟩ := h
  exact ⟨hrealm, hversion, hkept, hinserted, rfl, rfl, fun _ => rfl⟩

/-- **A commit leaves the rows alone, or finds the version of the snapshot it is based on.** -/
theorem commit_ok (h : commit previous next rows = .ok rows') :
    (next.version = previous.version ∧ rows' = rows) ∨
      ∃ stored stored', rows = some stored ∧ rows' = some stored' ∧
        Committed previous next stored stored' := by
  simp only [commit, bind_eq_ok, require_eq_ok, exists_unit] at h
  obtain ⟨hrealm, h⟩ := h
  split at h
  · rename_i hversion
    simp only [bind_eq_ok, exists_unit, pure_eq_ok] at h
    exact .inl ⟨hversion, h.2.symm⟩
  · simp only [bind_eq_ok, require_eq_ok, orThrow_eq_ok, exists_unit, pure_eq_ok] at h
    obtain ⟨hversion, stored, rfl, stored', hrows, rfl⟩ := h
    obtain ⟨hrealm', hcurrent, hkept, -⟩ := commitRows_ok hrows
    exact .inr ⟨stored, stored', rfl, rfl, hrealm', hcurrent, hversion, hkept, hrows⟩

/-- **What is committed**: over the rows the previous snapshot shows, the rows of the next one. -/
theorem Committed.same (h : Committed previous next stored stored')
    (hsame : SameRows stored previous) : SameRows stored' next := by
  obtain ⟨-, -, hkept, hinserted, hrealm, hversion, hrecords⟩ := commitRows_ok h.rows
  refine ⟨hrealm.symm, hversion.symm, fun c hc id => ?_, fun key => ?_⟩
  · rw [hrecords c]
    exact (get?_diffCollection (fun k => (hsame.records c hc k).symm) id).symm
  · exact (insertRows_new (fun k => (hsame.idempotency k).symm) hkept hinserted key).symm

theorem Committed.newer (h : Committed previous next stored stored') :
    stored'.version = stored.version + 1 := by
  obtain ⟨-, -, -, -, -, hversion, -⟩ := commitRows_ok h.rows
  rw [hversion, h.version, h.current]

end

/-- The copy is one of the rows as they were, and shows them unless they were written since. -/
abbrev CopyOf (stored copy : AuthorityPlaneSnapshot) : Prop :=
  Dated AuthorityPlaneSnapshot.version SameRows stored copy

end Anyam.Authority
