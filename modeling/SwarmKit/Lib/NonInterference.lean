import Mathlib.Logic.Function.Basic

/-
Two-run agreement: a function that reads its input only through a
projection of it.

# The notion

`NonInterfering pub f`: two inputs with one projection give one output.
With `pub` a scrub that clears what an observer must not learn, this is
the usual non-interference of a handler: whatever the cleared part held,
the reply is the same.

# Using it

A function that cannot tell an input from its scrubbed copy is
non-interfering (`of_scrub`); so is one that factors through the
projection (`of_factor`). One pair of inputs that agree on the
projection and give different outputs refutes it (`not_of_ne`).

Nothing in this file names the modelled repository.
-/

/-- `f` reads its input only through `pub`. -/
def NonInterfering {σ π α : Type*} (pub : σ → π) (f : σ → α) : Prop :=
  ∀ s₁ s₂, pub s₁ = pub s₂ → f s₁ = f s₂

namespace NonInterfering

variable {σ π α : Type*} {pub : σ → π} {f : σ → α}

theorem of_factor {g : π → α} (h : ∀ s, f s = g (pub s)) : NonInterfering pub f := by
  intro s₁ s₂ hs
  rw [h s₁, h s₂, hs]

/-- A function that gives the same on an input and on its scrub. -/
theorem of_scrub {scrub : σ → σ} {f : σ → α} (h : ∀ s, f (scrub s) = f s) :
    NonInterfering scrub f :=
  of_factor fun s => (h s).symm

/-- Two inputs that agree on the projection and give different outputs. -/
theorem not_of_ne (s₁ s₂ : σ) (hpub : pub s₁ = pub s₂) (hf : f s₁ ≠ f s₂) :
    ¬NonInterfering pub f :=
  fun h => hf (h s₁ s₂ hpub)

end NonInterfering
