import Mathlib.Algebra.Group.Int.Defs
import Mathlib.Algebra.Group.Nat.Defs

/-
Checked int64 arithmetic: the tests Go code makes after an operation
that may have wrapped, and what they detect.

# What lives here

- `InRange`: the integers an `int64` holds. `bmod` by `2 ^ 64`, which is
  how `Int64` arithmetic wraps, keeps such an integer (`bmod_eq_self`),
  lands in the range (`bmod_inRange`), and moves an integer by a
  multiple of `2 ^ 64` (`bmod_sub_mul`).
- `mul_div_eq_iff`: dividing a product by a positive factor gives the
  other factor back exactly when the product did not wrap, the test
  `int64(d/time.Second) != p.Seconds` makes.
- `add_sign_eq_iff`: after adding a nonzero addend to a value that is
  zero or of the addend's sign, the sum keeps the addend's sign exactly
  when it did not wrap.
- `toInt64_neg_iff`: a `uint64` cast to `int64` is negative exactly
  from `2 ^ 63` on, the test `int64(n) < 0` makes of a count.

Nothing in this file names the modelled repository.
-/

namespace Checked

/-- The integers an `int64` holds. -/
def InRange (x : Int) : Prop := -2 ^ 63 ≤ x ∧ x < 2 ^ 63

theorem bmod_eq_self {x : Int} (h : InRange x) : x.bmod (2 ^ 64) = x := by
  rw [Int.bmod_def]
  obtain ⟨h1, h2⟩ := h
  split <;> omega

theorem bmod_inRange (x : Int) : InRange (x.bmod (2 ^ 64)) := by
  constructor
  · have := Int.le_bmod (x := x) (m := 2 ^ 64) (by decide)
    omega
  · have := Int.bmod_lt (x := x) (m := 2 ^ 64) (by decide)
    omega

/-- Wrapping moves an integer by a multiple of `2 ^ 64`. -/
theorem bmod_sub_mul (x : Int) : ∃ k, x.bmod (2 ^ 64) = x - 2 ^ 64 * k := by
  have hcast : ((2 ^ 64 : ℕ) : ℤ) = 2 ^ 64 := rfl
  rw [Int.bmod_def, hcast]
  have h := Int.emod_def x (2 ^ 64)
  split
  · exact ⟨x / 2 ^ 64, by omega⟩
  · exact ⟨x / 2 ^ 64 + 1, by omega⟩

/-- Truncating division by a positive number stays in the range. -/
theorem tdiv_inRange {w b : Int} (hw : InRange w) (hb : 0 < b) : InRange (w.tdiv b) := by
  obtain ⟨h1, h2⟩ := hw
  by_cases h : 0 ≤ w
  · have := Int.tdiv_nonneg (b := b) h (by omega)
    have := Int.tdiv_le_self b h
    constructor <;> omega
  · have hneg : w.tdiv b = -((-w).tdiv b) := by rw [Int.neg_tdiv, Int.neg_neg]
    have := Int.tdiv_nonneg (a := -w) (b := b) (by omega) (by omega)
    have := Int.tdiv_le_self b (a := -w) (by omega)
    constructor <;> omega

theorem toInt_inRange (a : Int64) : InRange a.toInt := ⟨a.le_toInt, a.toInt_lt⟩

theorem toInt_mul_of_inRange {a b : Int64} (h : InRange (a.toInt * b.toInt)) :
    (a * b).toInt = a.toInt * b.toInt := by
  rw [Int64.toInt_mul, bmod_eq_self h]

theorem toInt_add_of_inRange {a b : Int64} (h : InRange (a.toInt + b.toInt)) :
    (a + b).toInt = a.toInt + b.toInt := by
  rw [Int64.toInt_add, bmod_eq_self h]

/-- A product divided by its positive factor gives the other factor back
exactly when the product did not wrap. -/
theorem mul_div_eq_iff {a b : Int64} (hb : 0 < b.toInt) :
    a * b / b = a ↔ InRange (a.toInt * b.toInt) := by
  rw [← Int64.toInt_inj, Int64.toInt_div, Int64.toInt_mul]
  obtain ⟨k, hk⟩ := bmod_sub_mul (a.toInt * b.toInt)
  have hw := bmod_inRange (a.toInt * b.toInt)
  generalize (a.toInt * b.toInt).bmod (2 ^ 64) = w at hk hw ⊢
  rw [bmod_eq_self (tdiv_inRange hw hb)]
  constructor
  · -- the remainder of the division is a multiple of 2 ^ 64 smaller than b
    intro hdiv
    have hr := Int.mul_tdiv_add_tmod w b.toInt
    have hlo := Int.lt_tmod_of_pos w hb
    have hhi := Int.tmod_lt_of_pos w hb
    have hblt := b.toInt_lt
    rw [hdiv, Int.mul_comm] at hr
    have hwp : w = a.toInt * b.toInt := by omega
    exact hwp ▸ hw
  · intro hp
    obtain ⟨h1, h2⟩ := hw
    obtain ⟨h3, h4⟩ := hp
    have hwp : w = a.toInt * b.toInt := by omega
    rw [hwp]
    exact Int.mul_tdiv_cancel _ (by omega)

/-- Go's test after adding a nonzero addend to a value that is zero or of
its sign: the sum's sign differs from the addend's exactly when the sum
wrapped. -/
theorem add_sign_eq_iff {a n : Int64} (hneg : a.toInt < 0 → n.toInt < 0)
    (hpos : 0 < a.toInt → 0 < n.toInt) :
    (decide (a + n < 0) = decide (n < 0)) ↔ InRange (a.toInt + n.toInt) := by
  obtain ⟨k, hk⟩ := bmod_sub_mul (a.toInt + n.toInt)
  have hs := bmod_inRange (a.toInt + n.toInt)
  rw [← Int64.toInt_add] at hk hs
  have ha := toInt_inRange a
  have hn := toInt_inRange n
  simp only [decide_eq_decide, Int64.lt_iff_toInt_lt, Int64.toInt_zero]
  unfold InRange at *
  constructor
  · intro h
    omega
  · intro h
    omega
/-- A `uint64` cast to `int64` is negative exactly from `2 ^ 63` on. -/
theorem toInt64_neg_iff (x : UInt64) : x.toInt64 < 0 ↔ 2 ^ 63 ≤ x.toNat := by
  rw [Int64.lt_iff_toInt_lt]
  have h : x.toInt64.toInt = x.toBitVec.toInt := rfl
  rw [h, BitVec.toInt_eq_toNat_cond]
  have hx : x.toBitVec.toNat = x.toNat := rfl
  have hlt := x.toNat_lt
  split <;> simp_all <;> omega

end Checked
