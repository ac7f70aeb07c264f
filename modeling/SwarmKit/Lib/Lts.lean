import Mathlib.Logic.Function.Basic
import Mathlib.Data.List.Basic

/-
Labelled transition systems given by a partial step function, the shape
every concurrent component of the development is written in: a state
record, a label type that names one atomic step together with whatever
the environment chose in it (a proposal outcome, a random ID, which
branch of a `select` fired), and `step : α → σ → Option σ`, `none`
meaning the step is not enabled.

# What lives here

- `run`: a list of labels run from a state, failing on the first
  disabled label. Counterexample traces are stated through it, so the
  kernel replays them by evaluation.
- `Reachable`: the states some run reaches; `Inductive`: the invariant
  rule, a predicate that holds initially and that every enabled step
  keeps holds on every reachable state.
- `foldl_invariant`: the same rule for a loop over a list whose body
  cannot fail; `foldlM_invariant` for one whose body may stop it.
- A call that returns `Except` is a step through `Except.toOption`. A
  call made of two is peeled apart by `bind_eq_ok`; checks in turn pass
  when each does (`seq_eq_ok`) and fail with the error of one
  (`seq_eq_error`); calls made one after another until one fails keep
  an invariant indexed by a ghost value each call updates
  (`foldlM_except_ghost`); calls over a list all succeed exactly when
  each does (`mapM_eq_ok`), and fail with the error of one
  (`mapM_eq_error`).
- `runOut`: a run whose steps also give an output, as a loop that calls
  a function again and again. It runs to its end when every step is
  enabled (`runOut_total`), keeps an invariant (`runOut_invariant`),
  and gives at most as many outputs of a kind as a measure that each
  such output lowers allows (`runOut_variant`). Where every step lowers
  a measure until the state is fixed and a fixed state stays fixed, a
  run longer than the measure ends fixed (`runOut_settles`).

Nothing in this file names the modelled repository.
-/

namespace Lts

variable {σ α : Type*}

-- ============================ runs

/-- Run the labels in order from `s`, failing on the first disabled one. -/
def run (step : α → σ → Option σ) : σ → List α → Option σ
  | s, [] => some s
  | s, a :: as => (step a s).bind fun s' => run step s' as

variable {step : α → σ → Option σ}

@[simp] theorem run_nil (s : σ) : run step s [] = some s := rfl

theorem run_cons (s : σ) (a : α) (as : List α) :
    run step s (a :: as) = (step a s).bind fun s' => run step s' as := rfl

-- ==================== reachability

/-- The states reachable from `s₀` by a sequence of enabled steps. -/
inductive Reachable (step : α → σ → Option σ) (s₀ : σ) : σ → Prop
  | init : Reachable step s₀ s₀
  | step {s s' : σ} (a : α) :
      Reachable step s₀ s → step a s = some s' → Reachable step s₀ s'

/-- Every state a run ends in is reachable. -/
theorem Reachable.of_run {s₀ s s' : σ} {l : List α}
    (hs : Reachable step s₀ s) (hrun : run step s l = some s') :
    Reachable step s₀ s' := by
  induction l generalizing s with
  | nil =>
      simp only [run_nil, Option.some.injEq] at hrun
      exact hrun ▸ hs
  | cons a l ih =>
      rw [run_cons] at hrun
      cases hstep : step a s with
      | none => rw [hstep] at hrun; cases hrun
      | some s₁ =>
          rw [hstep, Option.bind_some] at hrun
          exact ih (Reachable.step a hs hstep) hrun

/-- A run from the initial state reaches its end state. -/
theorem reachable_of_run {s₀ s' : σ} {l : List α}
    (hrun : run step s₀ l = some s') : Reachable step s₀ s' :=
  Reachable.init.of_run hrun

-- ====================== invariants

/-- `P` holds at `s₀` and every enabled step keeps it. -/
structure Inductive (step : α → σ → Option σ) (s₀ : σ) (P : σ → Prop) : Prop where
  init : P s₀
  step : ∀ {a : α} {s s' : σ}, P s → step a s = some s' → P s'

/-- The invariant rule: an inductive predicate holds on every reachable
state. -/
theorem Inductive.reachable {s₀ : σ} {P : σ → Prop}
    (hP : Inductive step s₀ P) {s : σ} (hs : Reachable step s₀ s) : P s := by
  induction hs with
  | init => exact hP.init
  | step a _ hstep ih => exact hP.step ih hstep

/-- The invariant rule for a loop over a list whose body cannot fail: a
predicate every iteration keeps holds after the loop. -/
theorem foldl_invariant {β : Type*} {P : σ → Prop} (f : σ → β → σ)
    (hf : ∀ s b, P s → P (f s b)) (l : List β) {s : σ} (hs : P s) : P (l.foldl f s) := by
  induction l generalizing s with
  | nil => exact hs
  | cons b l ih => exact ih (hf s b hs)

/-- The invariant rule for a loop whose body may stop the run (`none`):
a predicate every iteration keeps holds of a loop that ran to its end. -/
theorem foldlM_invariant {β : Type*} {P : σ → Prop} (f : σ → β → Option σ)
    (hf : ∀ s b s', f s b = some s' → P s → P s') (l : List β) {s s' : σ}
    (h : l.foldlM f s = some s') (hs : P s) : P s' := by
  induction l generalizing s with
  | nil =>
    cases h
    exact hs
  | cons b l ih =>
    rw [List.foldlM_cons] at h
    obtain ⟨s₁, h₁, h₂⟩ := Option.bind_eq_some_iff.mp h
    exact ih h₂ (hf s b s₁ h₁ hs)

-- ================== fallible calls

/-- A step taken through `Except.toOption` is a call that succeeded. -/
theorem eq_ok_of_toOption {ε : Type*} {x : Except ε σ} {s : σ} (h : x.toOption = some s) : x = .ok s := by
  cases x with
  | error e => cases h
  | ok s' =>
      cases h
      rfl

/-- A call made of two succeeds when the first does and the second does
on its result. -/
theorem bind_eq_ok.{u, v} {ε : Type u} {α β : Type v} {x : Except ε α} {f : α → Except ε β} {b : β} :
    x >>= f = .ok b ↔ ∃ a, x = .ok a ∧ f a = .ok b := by
  cases x with
  | error e =>
    constructor
    · intro h
      cases h
    · rintro ⟨a, h, -⟩
      cases h
  | ok a =>
    constructor
    · intro h
      exact ⟨a, rfl, h⟩
    · rintro ⟨a', h, hf⟩
      cases h
      exact hf

/-- A call that succeeded passes its result on. -/
theorem ok_bind.{u, v} {ε : Type u} {α β : Type v} (a : α) (f : α → Except ε β) :
    (Except.ok a >>= f) = f a := rfl

/-- Two checks in turn pass exactly when both do. -/
theorem seq_eq_ok.{u} {ε : Type u} {β : Type} {x : Except ε Unit} {y : Except ε β} {b : β} :
    (x >>= fun _ => y) = .ok b ↔ x = .ok () ∧ y = .ok b := by
  rw [bind_eq_ok]
  constructor
  · rintro ⟨⟨⟩, hx, hy⟩
    exact ⟨hx, hy⟩
  · rintro ⟨hx, hy⟩
    exact ⟨(), hx, hy⟩

/-- Two checks in turn fail with the error of one of them. -/
theorem seq_eq_error.{u} {ε : Type u} {β : Type} {x : Except ε Unit} {y : Except ε β} {e : ε}
    (h : (x >>= fun _ => y) = .error e) : x = .error e ∨ y = .error e := by
  cases x with
  | error e' =>
    cases h
    exact .inl rfl
  | ok u => exact .inr h

/-- Calls over a list all succeed exactly when each does. -/
theorem mapM_eq_ok {ε β γ : Type*} {f : β → Except ε γ} {l : List β} {cs : List γ} :
    l.mapM f = .ok cs ↔ List.Forall₂ (fun b c => f b = .ok c) l cs := by
  induction l generalizing cs with
  | nil =>
    rw [List.mapM_nil]
    constructor
    · intro h
      cases h
      exact .nil
    · intro h
      cases h
      rfl
  | cons b l ih =>
    rw [List.mapM_cons, bind_eq_ok]
    constructor
    · rintro ⟨c, hc, hrest⟩
      obtain ⟨cs', hl, hpure⟩ := bind_eq_ok.mp hrest
      cases hpure
      exact List.Forall₂.cons hc (ih.mp hl)
    · intro h
      cases h with
      | cons hc hl => exact ⟨_, hc, bind_eq_ok.mpr ⟨_, ih.mpr hl, rfl⟩⟩

/-- The invariant rule for calls made one after another until one fails,
with a ghost value each call updates: an invariant indexed by the ghost
that every call of the list keeps holds after all of them, at the ghost
the whole list leaves. -/
theorem foldlM_except_ghost {ε β γ : Type*} {P : γ → σ → Prop} (f : σ → β → Except ε σ)
    (upd : γ → β → γ) (l : List β) (hf : ∀ b ∈ l, ∀ g s s', f s b = .ok s' → P g s → P (upd g b) s')
    {g : γ} {s s' : σ} (h : l.foldlM f s = .ok s') (hs : P g s) : P (l.foldl upd g) s' := by
  induction l generalizing g s with
  | nil =>
    cases h
    exact hs
  | cons b l ih =>
    rw [List.foldlM_cons] at h
    obtain ⟨s₁, h₁, h₂⟩ := bind_eq_ok.mp h
    exact ih (fun b' hb' => hf b' (List.mem_cons_of_mem b hb')) h₂
      (hf b List.mem_cons_self g s s₁ h₁ hs)

-- =============== runs with outputs

/-- Run the labels in order from `s`, each step also giving an output:
the end state and the outputs in order, failing on the first disabled
label. -/
def runOut {β : Type*} (stepOut : α → σ → Option (σ × β)) : σ → List α → Option (σ × List β)
  | s, [] => some (s, [])
  | s, a :: as => (stepOut a s).bind fun r => (runOut stepOut r.1 as).map fun q => (q.1, r.2 :: q.2)

section runOut

variable {β : Type*} {stepOut : α → σ → Option (σ × β)}

@[simp] theorem runOut_nil (s : σ) : runOut stepOut s [] = some (s, []) := rfl

theorem runOut_cons_of_step {s s' : σ} {a : α} {b : β} (as : List α) (h : stepOut a s = some (s', b)) :
    runOut stepOut s (a :: as) = (runOut stepOut s' as).map fun q => (q.1, b :: q.2) := by
  rw [runOut, h, Option.bind_some]

/-- A run that got to its end took its first step and ran the rest. -/
theorem runOut_cons_eq_some {s t : σ} {a : α} {as : List α} {bs : List β}
    (h : runOut stepOut s (a :: as) = some (t, bs)) :
    ∃ s' b bs', stepOut a s = some (s', b) ∧ runOut stepOut s' as = some (t, bs') ∧ bs = b :: bs' := by
  obtain ⟨⟨s', b⟩, hstep, hrest⟩ := Option.bind_eq_some_iff.mp h
  obtain ⟨⟨t', bs'⟩, hrun, hq⟩ := Option.map_eq_some_iff.mp hrest
  cases hq
  exact ⟨s', b, bs', hstep, hrun, rfl⟩

/-- A run whose every step is enabled runs to its end, one output a
label. -/
theorem runOut_total (h : ∀ a s, (stepOut a s).isSome) (as : List α) (s : σ) :
    ∃ t bs, runOut stepOut s as = some (t, bs) ∧ bs.length = as.length := by
  induction as generalizing s with
  | nil => exact ⟨s, [], rfl, rfl⟩
  | cons a as ih =>
    obtain ⟨⟨s', b⟩, hstep⟩ := Option.isSome_iff_exists.mp (h a s)
    obtain ⟨t, bs, hrun, hlen⟩ := ih s'
    refine ⟨t, b :: bs, ?_, by rw [List.length_cons, hlen, List.length_cons]⟩
    rw [runOut_cons_of_step as hstep, hrun, Option.map_some]

/-- The invariant rule for a run with outputs. -/
theorem runOut_invariant {P : σ → Prop} (h : ∀ a s s' b, stepOut a s = some (s', b) → P s → P s')
    {as : List α} {s t : σ} {bs : List β} (hrun : runOut stepOut s as = some (t, bs)) (hs : P s) :
    P t := by
  induction as generalizing s bs with
  | nil =>
    cases hrun
    exact hs
  | cons a as ih =>
    obtain ⟨s', b, bs', hstep, hrest, -⟩ := runOut_cons_eq_some hrun
    exact ih hrest (h a s s' b hstep hs)

/-- The variant rule: outputs of a kind each lower a measure that no step
raises, so a run gives at most as many of them as the measure was, less
what is left of it. -/
theorem runOut_variant (μ : σ → ℕ) (good : β → Bool)
    (h : ∀ a s s' b, stepOut a s = some (s', b) → μ s' + (if good b then 1 else 0) ≤ μ s)
    {as : List α} {s t : σ} {bs : List β} (hrun : runOut stepOut s as = some (t, bs)) :
    bs.countP good + μ t ≤ μ s := by
  induction as generalizing s bs with
  | nil =>
    cases hrun
    simp
  | cons a as ih =>
    obtain ⟨s', b, bs', hstep, hrest, rfl⟩ := runOut_cons_eq_some hrun
    have hle := h a s s' b hstep
    have hih := ih hrest
    rw [List.countP_cons]
    omega

section settle

/- The labels of a run, a predicate `P` every step keeps, the fixed
states `F` and the output `o` they give, and a measure `μ` every step
from a state that is not fixed lowers. -/
variable {as : List α} {P F : σ → Prop} {o : β} {μ : σ → ℕ}

/-- From a fixed state every step gives `o` and stays fixed. -/
theorem runOut_fixed
    (hfix : ∀ a ∈ as, ∀ s, P s → F s → ∃ s', stepOut a s = some (s', o) ∧ P s' ∧ F s')
    {s : σ} (hs : P s) (hf : F s) :
    ∃ t bs, runOut stepOut s as = some (t, bs) ∧ P t ∧ F t ∧ bs = List.replicate as.length o := by
  induction as generalizing s with
  | nil => exact ⟨s, [], rfl, hs, hf, rfl⟩
  | cons a as ih =>
    obtain ⟨s', hstep, hs', hf'⟩ := hfix a List.mem_cons_self s hs hf
    obtain ⟨t, bs, hrun, ht, hft, rfl⟩ :=
      ih (fun a' ha' => hfix a' (List.mem_cons_of_mem a ha')) hs' hf'
    exact ⟨t, o :: List.replicate as.length o, by rw [runOut_cons_of_step as hstep, hrun]; rfl,
      ht, hft, rfl⟩

/-- The rule of a run that settles: every step from a state that is not
fixed lowers the measure, so a run longer than the measure ends in a
fixed state, its last step giving `o`. -/
theorem runOut_settles
    (hfix : ∀ a ∈ as, ∀ s, P s → F s → ∃ s', stepOut a s = some (s', o) ∧ P s' ∧ F s')
    (hmove : ∀ a ∈ as, ∀ s, P s → ¬ F s → ∃ s' b, stepOut a s = some (s', b) ∧ P s' ∧ μ s' < μ s)
    {s : σ} (hs : P s) (hlen : μ s < as.length) :
    ∃ t bs, runOut stepOut s as = some (t, bs) ∧ P t ∧ F t ∧ bs.getLast? = some o := by
  induction as generalizing s with
  | nil => exact absurd hlen (Nat.not_lt_zero _)
  | cons a as ih =>
    have hfix' := fun a' ha' => hfix a' (List.mem_cons_of_mem a ha')
    by_cases hf : F s
    · -- fixed already: every step from here gives `o`
      obtain ⟨t, bs, hrun, ht, hft, hbs⟩ := runOut_fixed hfix hs hf
      refine ⟨t, bs, hrun, ht, hft, ?_⟩
      rw [hbs, List.length_cons, List.getLast?_replicate]
      rfl
    · obtain ⟨s', b, hstep, hs', hlt⟩ := hmove a List.mem_cons_self s hs hf
      have hlen' : μ s' < as.length := by
        rw [List.length_cons] at hlen
        omega
      obtain ⟨t, bs, hrun, ht, hft, hlast⟩ :=
        ih hfix' (fun a' ha' => hmove a' (List.mem_cons_of_mem a ha')) hs' hlen'
      -- the rest is not empty: it is longer than the measure
      have hne : bs ≠ [] := by
        rintro rfl
        cases hlast
      refine ⟨t, b :: bs, by rw [runOut_cons_of_step as hstep, hrun]; rfl, ht, hft, ?_⟩
      rw [List.getLast?_cons, hlast]
      rfl

end settle

end runOut

end Lts
