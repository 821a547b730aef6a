import Anyam.Lib.Run

/-!
# Processes that share a state

A process is a program over a state that other processes also work on. Its steps are indivisible,
and anything may happen between two of them. A step names a request, is given an answer from
outside, may change the state, and goes on with the answer and the state it found. A process ends
with a value or with an error.

- `Process`, `Process.exec`: processes, and their complete runs alone.
- `Pool`, `Pool.step`: any number of processes, one step of one of them at a time. A process that
  is never resumed again has been interrupted.
- **`Process.Keeps C Q`**: while the others move the state along `C.rely`, every step keeps `C.inv`
  and moves it along `C.guar`, and the process ends in `Q`. The rules `keeps_access`, `keeps_bind`,
  `keeps_require` follow the program.
- **`Pool.run_keeps`**: what every process of a pool keeps alone, they keep together.
-/

namespace Anyam.Lib

/-- A process that makes requests in `κ` about a state in `σ` and is answered in `α`. -/
inductive Process (κ σ α ε ρ : Type)
  | done (result : Except ε ρ)
  | step (request : κ) (act : α → σ → σ) (next : α → σ → Process κ σ α ε ρ)

namespace Process

variable {κ σ α ε ρ τ : Type}

protected def bind : Process κ σ α ε ρ → (ρ → Process κ σ α ε τ) → Process κ σ α ε τ
  | done (.ok a), f => f a
  | done (.error e), _ => done (.error e)
  | step request act next, f => step request act fun a s => (next a s).bind f

instance : Monad (Process κ σ α ε) where
  pure a := done (.ok a)
  bind := Process.bind

def throw (e : ε) : Process κ σ α ε ρ := done (.error e)

/-- One step: the value it returns, and the state it leaves. -/
def access (request : κ) (effect : α → σ → ρ × σ) : Process κ σ α ε ρ :=
  step request (fun a s => (effect a s).2) fun a s => done (.ok (effect a s).1)

/-- A value that is computed without a step. -/
def ofExcept (result : Except ε ρ) : Process κ σ α ε ρ := done result

/-- Throw `e` unless `p` holds. -/
def require (p : Prop) [Decidable p] (e : ε) : Process κ σ α ε Unit :=
  if p then pure () else throw e

/-- What the process ended with. -/
def result? : Process κ σ α ε ρ → Option (Except ε ρ)
  | done result => some result
  | step .. => none

/-- What the process asks for next. -/
def request? : Process κ σ α ε ρ → Option κ
  | done _ => none
  | step request _ _ => some request

/-- The complete run of a process alone, with the answers to its steps in turn. -/
def exec : Process κ σ α ε ρ → (Nat → α) → σ → Except ε ρ × σ
  | done result, _, s => (result, s)
  | step _ act next, answers, s =>
    (next (answers 0) s).exec (fun n => answers (n + 1)) (act (answers 0) s)

/-! ## What a process keeps -/

/-- What holds of the state at every step, how others may move it between two steps, how a step
may move it, and which answers a step may be given. -/
structure Contract (κ σ α : Type) where
  inv : σ → Prop
  rely : σ → σ → Prop
  guar : σ → σ → Prop
  admits : κ → α → σ → Prop

/-- From a state on, the process keeps the contract and ends in `Q`. -/
def Keeps (C : Contract κ σ α) (Q : Except ε ρ → σ → Prop) : Process κ σ α ε ρ → σ → Prop
  | done result, s => ∀ s', C.rely s s' → C.inv s' → Q result s'
  | step request act next, s => ∀ a s', C.rely s s' → C.inv s' → C.admits request a s' →
      C.inv (act a s') ∧ C.guar s' (act a s') ∧ (next a s').Keeps C Q (act a s')

section

variable {C : Contract κ σ α} {Q Q' : Except ε ρ → σ → Prop} {p : Process κ σ α ε ρ} {s s' : σ}

theorem keeps_pure {a : ρ} (h : ∀ s', C.rely s s' → C.inv s' → Q (.ok a) s') :
    (pure a : Process κ σ α ε ρ).Keeps C Q s := h

/-- What the others do keeps what is known of the rest of a process. -/
theorem Keeps.stable [IsTrans σ C.rely] (h : p.Keeps C Q s) (hrely : C.rely s s') :
    p.Keeps C Q s' := by
  cases p with
  | done result => exact fun s'' hmore hinv => h s'' (Trans.trans hrely hmore) hinv
  | step request act next =>
    exact fun a s'' hmore hinv hadmits => h a s'' (Trans.trans hrely hmore) hinv hadmits

theorem Keeps.mono (h : p.Keeps C Q s) (himp : ∀ result s, Q result s → Q' result s) :
    p.Keeps C Q' s := by
  induction p generalizing s with
  | done result => exact fun s' hrely hinv => himp _ _ (h s' hrely hinv)
  | step request act next ih =>
    intro a s' hrely hinv hadmits
    obtain ⟨hinv', hguar, hrest⟩ := h a s' hrely hinv hadmits
    exact ⟨hinv', hguar, ih a s' hrest⟩

/-- **The rule of a sequence**: it goes on with the value, and ends with an error at once. -/
theorem keeps_bind [Std.Refl C.rely] {Q : Except ε τ → σ → Prop} {f : ρ → Process κ σ α ε τ}
    {R : ρ → σ → Prop} (hinv : C.inv s)
    (hp : p.Keeps C (fun result s => match result with
      | .ok a => R a s
      | .error e => Q (.error e) s) s)
    (hf : ∀ a s, C.inv s → R a s → (f a).Keeps C Q s) : (p >>= f).Keeps C Q s := by
  induction p generalizing s with
  | done result =>
    cases result with
    | ok a => exact hf a s hinv (hp s (refl s) hinv)
    | error e => exact fun s' hrely hinv' => hp s' hrely hinv'
  | step request act next ih =>
    intro a s' hrely hinv' hadmits
    obtain ⟨hkept, hguar, hrest⟩ := hp a s' hrely hinv' hadmits
    exact ⟨hkept, hguar, ih a s' hkept hrest⟩

/-- **The rule of a step** and what follows it. -/
theorem keeps_access {Q : Except ε τ → σ → Prop} {request : κ} {effect : α → σ → ρ × σ}
    {f : ρ → Process κ σ α ε τ}
    (h : ∀ a s', C.rely s s' → C.inv s' → C.admits request a s' → C.inv (effect a s').2 ∧
      C.guar s' (effect a s').2 ∧ (f (effect a s').1).Keeps C Q (effect a s').2) :
    (access request effect >>= f).Keeps C Q s := h

theorem keeps_ofExcept {Q : Except ε τ → σ → Prop} {result : Except ε ρ}
    {f : ρ → Process κ σ α ε τ} (hok : ∀ a, result = .ok a → (f a).Keeps C Q s)
    (herror : ∀ e, result = .error e → ∀ s', C.rely s s' → C.inv s' → Q (.error e) s') :
    (ofExcept result >>= f).Keeps C Q s := by
  cases result with
  | ok a => exact hok a rfl
  | error e => exact herror e rfl

theorem keeps_require {Q : Except ε τ → σ → Prop} {φ : Prop} [Decidable φ] {e : ε}
    {f : Unit → Process κ σ α ε τ} (hok : φ → (f ()).Keeps C Q s)
    (herror : ¬ φ → ∀ s', C.rely s s' → C.inv s' → Q (.error e) s') :
    (require φ e >>= f).Keeps C Q s := by
  unfold require
  by_cases h : φ
  · rw [if_pos h]
    exact hok h
  · rw [if_neg h]
    exact herror h

/-- A complete run alone. -/
theorem Keeps.exec [Std.Refl C.rely] (hadmits : ∀ request a s, C.admits request a s)
    (h : p.Keeps C Q s) (hinv : C.inv s) (answers : Nat → α) :
    C.inv (p.exec answers s).2 ∧ Q (p.exec answers s).1 (p.exec answers s).2 := by
  induction p generalizing s answers with
  | done result => exact ⟨hinv, h s (refl s) hinv⟩
  | step request act next ih =>
    obtain ⟨hkept, -, hrest⟩ := h (answers 0) s (refl s) hinv (hadmits request _ s)
    exact ih _ _ hrest hkept _

end

end Process

/-! ## Pools -/

/-- A state, and the calls that work on it. -/
structure Pool (μ κ σ α ε ρ : Type) where
  shared : σ
  calls : List (μ × Process κ σ α ε ρ) := []

inductive PoolOp (μ α : Type)
  | start (method : μ)
  | resume (position : Nat) (answer : α)
deriving DecidableEq, Repr

namespace Pool

open Process

variable {μ κ σ α ε ρ : Type}

/-- A call is started, or makes a step. A call that ends replies. -/
def step (program : μ → Process κ σ α ε ρ) :
    PoolOp μ α → Pool μ κ σ α ε ρ → Option (Except ε ρ) × Pool μ κ σ α ε ρ
  | .start method, pool => (none, { pool with calls := pool.calls ++ [(method, program method)] })
  | .resume position answer, pool => match pool.calls[position]? with
    | some (method, .step _ act next) =>
      let rest := next answer pool.shared
      (rest.result?, {
        shared := act answer pool.shared
        calls := pool.calls.set position (method, rest) })
    | _ => (none, pool)

/-- What a process of the pool asks for. -/
def request? (pool : Pool μ κ σ α ε ρ) (position : Nat) : Option κ :=
  pool.calls[position]?.bind (·.2.request?)

/-- Every process that is resumed is given an answer that is admitted. -/
def Admits (admits : κ → α → σ → Prop) (pool : Pool μ κ σ α ε ρ) : PoolOp μ α → Prop
  | .start _ => True
  | .resume position answer => ∀ request ∈ pool.request? position,
      admits request answer pool.shared

instance (admits : κ → α → σ → Prop) [∀ request answer s, Decidable (admits request answer s)]
    (pool : Pool μ κ σ α ε ρ) : ∀ op : PoolOp μ α, Decidable (pool.Admits admits op)
  | .start _ => inferInstanceAs (Decidable True)
  | .resume position _ =>
    inferInstanceAs (Decidable (∀ request ∈ pool.request? position, _))

theorem Admits.of_forall {admits : κ → α → σ → Prop}
    (h : ∀ request answer s, admits request answer s) (pool : Pool μ κ σ α ε ρ) :
    ∀ op : PoolOp μ α, pool.Admits admits op
  | .start _ => trivial
  | .resume _ _ => fun request _ => h request _ _

variable {program : μ → Process κ σ α ε ρ} {C : Contract κ σ α}
  {Q : μ → Except ε ρ → σ → Prop}

/-- The state is in the invariant, and every call keeps the contract from it on. -/
structure Kept (C : Contract κ σ α) (Q : μ → Except ε ρ → σ → Prop) (pool : Pool μ κ σ α ε ρ) :
    Prop where
  inv : C.inv pool.shared
  calls : ∀ call ∈ pool.calls, call.2.Keeps C (Q call.1) pool.shared

/-- A step of a call. -/
theorem step_resume {pool : Pool μ κ σ α ε ρ} {position : Nat} {answer : α} {method : μ}
    {request : κ} {act : α → σ → σ} {next : α → σ → Process κ σ α ε ρ}
    (hposition : pool.calls[position]? = some (method, .step request act next)) :
    Pool.step program (.resume position answer) pool =
      ((next answer pool.shared).result?, {
        shared := act answer pool.shared
        calls := pool.calls.set position (method, next answer pool.shared) }) := by
  simp only [Pool.step, hposition]

/-- A call that has ended, or was never started, makes no step. -/
theorem step_resume_idle {pool : Pool μ κ σ α ε ρ} {position : Nat} {answer : α}
    (hidle : ∀ method request act next,
      pool.calls[position]? ≠ some (method, .step request act next)) :
    Pool.step program (.resume position answer) pool = (none, pool) := by
  cases hposition : pool.calls[position]? with
  | none => simp only [Pool.step, hposition]
  | some call =>
    obtain ⟨method, process⟩ := call
    cases process with
    | done result => simp only [Pool.step, hposition]
    | step request act next => exact absurd hposition (hidle method request act next)

/-- What a step does to a pool. -/
inductive Stepped (C : Contract κ σ α) (Q : μ → Except ε ρ → σ → Prop) (pool : Pool μ κ σ α ε ρ) :
    Option (Except ε ρ) → Pool μ κ σ α ε ρ → Prop
  | quiet (pool' : Pool μ κ σ α ε ρ) (hshared : pool'.shared = pool.shared) :
    Stepped C Q pool none pool'
  | moved (reply : Option (Except ε ρ)) (pool' : Pool μ κ σ α ε ρ)
    (hguar : C.guar pool.shared pool'.shared)
    (hreply : ∀ result, reply = some result → ∃ method, Q method result pool'.shared) :
    Stepped C Q pool reply pool'

theorem Stepped.shared {pool pool' : Pool μ κ σ α ε ρ} {reply : Option (Except ε ρ)}
    (h : Stepped C Q pool reply pool') :
    pool'.shared = pool.shared ∨ C.guar pool.shared pool'.shared := by
  cases h with
  | quiet _ hshared => exact .inl hshared
  | moved _ _ hguar _ => exact .inr hguar

/-- **The step rule**: a step of a pool is one that its process keeps. -/
theorem Kept.step [IsTrans σ C.rely] [Std.Refl C.rely] {pool : Pool μ κ σ α ε ρ} {op : PoolOp μ α}
    (hguar : ∀ {s s'}, C.guar s s' → C.rely s s')
    (hprogram : ∀ method s, C.inv s → (program method).Keeps C (Q method) s)
    (h : pool.Kept C Q) (hadmits : pool.Admits C.admits op) :
    (Pool.step program op pool).2.Kept C Q ∧
      Stepped C Q pool (Pool.step program op pool).1 (Pool.step program op pool).2 := by
  cases op with
  | start method =>
    refine ⟨⟨h.inv, fun call hcall => ?_⟩, .quiet _ rfl⟩
    rcases List.mem_append.mp hcall with hold | hnew
    · exact h.calls call hold
    · obtain rfl := List.mem_singleton.mp hnew
      exact hprogram method _ h.inv
  | resume position answer =>
    by_cases hidle : ∀ method request act next,
        pool.calls[position]? ≠ some (method, .step request act next)
    · rw [step_resume_idle hidle]
      exact ⟨h, .quiet _ rfl⟩
    · push Not at hidle
      obtain ⟨method, request, act, next, hposition⟩ := hidle
      have hcall := h.calls _ (List.mem_of_getElem? hposition)
      have hrequest : request ∈ pool.request? position := by rw [request?, hposition]; rfl
      obtain ⟨hinv, hmoved, hrest⟩ := hcall answer pool.shared (refl _) h.inv
        (hadmits request hrequest)
      rw [step_resume hposition]
      refine ⟨⟨hinv, fun call hmem => ?_⟩, .moved _ _ hmoved fun result hresult => ?_⟩
      · rcases List.mem_or_eq_of_mem_set hmem with hold | rfl
        · exact (h.calls call hold).stable (hguar hmoved)
        · exact hrest
      · refine ⟨method, ?_⟩
        cases hnext : next answer pool.shared with
        | done ended =>
          rw [hnext] at hrest hresult
          obtain rfl := Option.some.inj hresult
          exact hrest _ (refl _) hinv
        | step => rw [hnext] at hresult; cases hresult

/-- **The rule of a pool**: what every process keeps alone, they keep together. -/
theorem run_keeps [IsTrans σ C.rely] [Std.Refl C.rely] {s₀ : σ} {pool : Pool μ κ σ α ε ρ}
    {tr : List (Transition (Pool μ κ σ α ε ρ) (PoolOp μ α) (Option (Except ε ρ)))}
    (hguar : ∀ {s s'}, C.guar s s' → C.rely s s')
    (hprogram : ∀ method s, C.inv s → (program method).Keeps C (Q method) s)
    (hinv : C.inv s₀) (hrun : Run (Pool.step program) (Admits C.admits) { shared := s₀ } tr pool) :
    pool.Kept C Q ∧ ∀ t ∈ tr, Stepped C Q t.pre t.reply t.post := by
  refine hrun.traceInvariant
    (fun tr pool => pool.Kept C Q ∧ ∀ t ∈ tr, Stepped C Q t.pre t.reply t.post)
    ⟨⟨hinv, fun call hcall => absurd hcall List.not_mem_nil⟩, by rintro _ ⟨⟩⟩
    fun tr pool op ⟨hkept, htrace⟩ hadmits => ?_
  obtain ⟨hkept', hstepped⟩ := hkept.step hguar hprogram hadmits
  refine ⟨hkept', fun t ht => ?_⟩
  rcases List.mem_append.mp ht with hold | hnew
  · exact htrace t hold
  · obtain rfl := List.mem_singleton.mp hnew
    exact hstepped

end Pool

end Anyam.Lib
