import Mathlib.Data.List.Perm.Basic
import Mathlib.Order.Defs.Unbundled
import SwarmKit.Lib.ContainerHeap

/-
What the algorithms of `ContainerHeap` guarantee when `less` is a
strict weak order: `up` and `down` end with a heap, and repeated
`Pop`s leave the slice in descending order.

# Positions

The invariants speak of positions through `lessAt`, which reads the
slice with `xs[i]?`: there is no bound to carry, and the bound enters
only where an order fact is chained through a middle position
(`lessAt_negTrans`). A swap is read position by position
(`getElem?_swap_left`, `getElem?_swap_right`, `getElem?_swap_of_ne`),
and `lessAt_congr` moves a comparison from the swapped slice to the old
one.

# Reorders

Every algorithm only swaps positions below a bound `n`: `Reorders n xs
ys` is that closure. It gives the permutation, the positions at and past
`n` untouched, and each position below `n` holding what some position
below `n` held, which is what the sort needs of `Pop`.

# The sift invariants

As in the array heap's usual proof, `up` keeps `UpOrder` (every edge
but the moving element's, and its parent above its children) and `down`
keeps `DownOrder` (every edge below `i0` but those from the moving
element, and its parent above its children); one `move` lemma for a
swap and one `finish` lemma for the stop each, and the loops' run
lemmas by induction on the fuel. `Below xs n i0` is the heap property
for the parents at or past `i0`: `down` from `i0` establishes it.

# The sort

`Sorting xs m` is the state of a heap sort after `n - m` pops: a heap
on the first `m` positions, a descending tail, and no head element below
a tail element. `sorting_pop` is one `Pop`; at `m = 0` the slice is
descending.
-/

namespace ContainerHeap

variable {α : Type*} (less : α → α → Bool)

-- ======================= the order

section Order

variable {less} [IsStrictWeakOrder α (fun a b => less a b)]

theorem less_irrefl (a : α) : less a a = false := by
  have h := irrefl_of (fun a b => less a b = true) a
  simpa using h

theorem less_asymm {a b : α} (h : less a b = true) : less b a = false := by
  have h' := asymm_of (fun a b => less a b = true) h
  simpa using h'

theorem less_trans {a b c : α} (hab : less a b = true) (hbc : less b c = true) :
    less a c = true :=
  trans_of (fun a b => less a b = true) hab hbc

/-- Negative transitivity: not being below is transitive. -/
theorem less_negTrans {a b c : α} (hab : less a b = false) (hbc : less b c = false) :
    less a c = false := by
  cases hac : less a c with
  | false => rfl
  | true =>
    cases hba : less b a with
    | true => rw [less_trans hba hac] at hbc; cases hbc
    | false =>
      cases hcb : less c b with
      | true => rw [less_trans hac hcb] at hab; cases hab
      | false =>
        have h := (@IsStrictWeakOrder.incomp_trans α (fun a b => less a b = true) _ a b c
          ⟨by simp [hab], by simp [hba]⟩ ⟨by simp [hbc], by simp [hcb]⟩).1
        simp [hac] at h

end Order

-- ======================= positions

section Positions

variable {less}

theorem lessAt_of_getElem? {xs : List α} {i j : Nat} {a b : α} (hi : xs[i]? = some a)
    (hj : xs[j]? = some b) : lessAt less xs i j = less a b := by
  simp [lessAt, hi, hj]

theorem lessAt_congr {xs ys : List α} {i j i' j' : Nat} (hi : ys[i]? = xs[i']?)
    (hj : ys[j]? = xs[j']?) : lessAt less ys i j = lessAt less xs i' j' := by
  simp only [lessAt, hi, hj]

theorem lessAt_eq_true {xs : List α} {i j : Nat} (h : lessAt less xs i j = true) :
    ∃ a b, xs[i]? = some a ∧ xs[j]? = some b ∧ less a b = true := by
  unfold lessAt at h
  split at h
  · exact ⟨_, _, ‹_›, ‹_›, h⟩
  · cases h

variable [IsStrictWeakOrder α (fun a b => less a b)]

theorem lessAt_self (xs : List α) (i : Nat) : lessAt less xs i i = false := by
  cases hi : xs[i]? with
  | none => simp [lessAt, hi]
  | some a =>
    rw [lessAt_of_getElem? hi hi]
    exact less_irrefl a

theorem lessAt_asymm {xs : List α} {i j : Nat} (h : lessAt less xs i j = true) :
    lessAt less xs j i = false := by
  obtain ⟨a, b, ha, hb, hab⟩ := lessAt_eq_true h
  rw [lessAt_of_getElem? hb ha, less_asymm hab]

theorem lessAt_trans {xs : List α} {i j k : Nat} (hij : lessAt less xs i j = true)
    (hjk : lessAt less xs j k = true) : lessAt less xs i k = true := by
  obtain ⟨a, b, ha, hb, hab⟩ := lessAt_eq_true hij
  obtain ⟨b', c, hb', hc, hbc⟩ := lessAt_eq_true hjk
  rw [hb] at hb'
  cases hb'
  rw [lessAt_of_getElem? ha hc]
  exact less_trans hab hbc

/-- Negative transitivity at positions, through a middle position that
exists. -/
theorem lessAt_negTrans {xs : List α} {i j k : Nat} (hij : lessAt less xs i j = false)
    (hjk : lessAt less xs j k = false) (hj : j < xs.length) : lessAt less xs i k = false := by
  have hb : xs[j]? = some xs[j] := List.getElem?_eq_getElem hj
  cases ha : xs[i]? with
  | none => simp [lessAt, ha]
  | some a =>
    cases hc : xs[k]? with
    | none => simp [lessAt, ha, hc]
    | some c =>
      rw [lessAt_of_getElem? ha hb] at hij
      rw [lessAt_of_getElem? hb hc] at hjk
      rw [lessAt_of_getElem? ha hc]
      exact less_negTrans hij hjk

end Positions

-- ============================ swap

section Swap

variable {xs : List α} {i j : Nat}

theorem swap_of_lt (hi : i < xs.length) (hj : j < xs.length) :
    swap xs i j = (xs.set i xs[j]).set j xs[i] := by
  simp [swap, List.getElem?_eq_getElem hi, List.getElem?_eq_getElem hj]

@[simp] theorem length_swap (xs : List α) (i j : Nat) : (swap xs i j).length = xs.length := by
  unfold swap
  split <;> simp

theorem getElem?_swap_right (hi : i < xs.length) (hj : j < xs.length) :
    (swap xs i j)[j]? = xs[i]? := by
  simp [swap_of_lt hi hj, hj, List.getElem?_eq_getElem hi]

theorem getElem?_swap_left (hi : i < xs.length) (hj : j < xs.length) :
    (swap xs i j)[i]? = xs[j]? := by
  rw [swap_of_lt hi hj, List.getElem?_set, List.getElem?_set]
  by_cases hij : j = i
  · subst hij
    simp [hi]
  · simp [hij, hi, List.getElem?_eq_getElem hj]

theorem getElem?_swap_of_ne {k : Nat} (hki : k ≠ i) (hkj : k ≠ j) :
    (swap xs i j)[k]? = xs[k]? := by
  unfold swap
  split
  · rw [List.getElem?_set, List.getElem?_set, if_neg (Ne.symm hkj), if_neg (Ne.symm hki)]
  · rfl

/-- Outside the slice `Swap` would panic; here it changes nothing. -/
theorem swap_of_not_lt (h : ¬ (i < xs.length ∧ j < xs.length)) : swap xs i j = xs := by
  unfold swap
  split
  · rename_i a b ha hb
    exact absurd ⟨(List.getElem?_eq_some_iff.1 ha).1, (List.getElem?_eq_some_iff.1 hb).1⟩ h
  · rfl

theorem swap_perm (xs : List α) (i j : Nat) : (swap xs i j).Perm xs := by
  by_cases h : i < xs.length ∧ j < xs.length
  · rw [swap_of_lt h.1 h.2, ← List.swap_eq_of_lt h.1 h.2]
    exact List.swap_perm xs i j
  · rw [swap_of_not_lt h]

end Swap

-- ======================== reorders

/-- `ys` is `xs` after swaps of positions below `n`. -/
inductive Reorders (n : Nat) (xs : List α) : List α → Prop
  | refl : Reorders n xs xs
  | step {ys : List α} {i j : Nat} : Reorders n xs ys → i < n → j < n →
      Reorders n xs (swap ys i j)

namespace Reorders

variable {n : Nat} {xs ys zs : List α}

theorem trans (hxy : Reorders n xs ys) (hyz : Reorders n ys zs) : Reorders n xs zs := by
  induction hyz with
  | refl => exact hxy
  | step _ hi hj ih => exact ih.step hi hj

theorem mono {m : Nat} (h : Reorders n xs ys) (hnm : n ≤ m) : Reorders m xs ys := by
  induction h with
  | refl => exact .refl
  | step _ hi hj ih => exact ih.step (by omega) (by omega)

theorem perm (h : Reorders n xs ys) : ys.Perm xs := by
  induction h with
  | refl => exact List.Perm.refl xs
  | step _ _ _ ih => exact (swap_perm _ _ _).trans ih

theorem length_eq (h : Reorders n xs ys) : ys.length = xs.length := h.perm.length_eq

/-- Positions at and past `n` are untouched. -/
theorem getElem?_of_le (h : Reorders n xs ys) {b : Nat} (hb : n ≤ b) : ys[b]? = xs[b]? := by
  induction h with
  | refl => rfl
  | step _ hi hj ih => rw [getElem?_swap_of_ne (by omega) (by omega), ih]

/-- A position below `n` holds what some position below `n` held. -/
theorem exists_lt (h : Reorders n xs ys) {a : Nat} (ha : a < n) :
    ∃ a' < n, ys[a]? = xs[a']? := by
  induction h generalizing a with
  | refl => exact ⟨a, ha, rfl⟩
  | @step ys i j hr hi hj ih =>
    by_cases hin : i < ys.length ∧ j < ys.length
    · by_cases haj : a = j
      · subst haj
        rw [getElem?_swap_right hin.1 hin.2]
        exact ih hi
      · by_cases hai : a = i
        · subst hai
          rw [getElem?_swap_left hin.1 hin.2]
          exact ih hj
        · rw [getElem?_swap_of_ne hai haj]
          exact ih ha
    · rw [swap_of_not_lt hin]
      exact ih ha

end Reorders

-- =========================== heaps

/-- The heap property for the parents at or past `i0` among the first
`n` positions: no child below its parent. -/
def Below (xs : List α) (n i0 : Nat) : Prop :=
  ∀ k, 0 < k → k < n → i0 ≤ (k - 1) / 2 → lessAt less xs k ((k - 1) / 2) = false

/-- `xs` is a heap on its first `n` positions. -/
def IsHeap (xs : List α) (n : Nat) : Prop := Below less xs n 0

/-- What `up` keeps while the element at `j` rises: every edge but
`j`'s own is in order, and `j`'s parent is not below `j`'s children. -/
structure UpOrder (xs : List α) (n j : Nat) : Prop where
  except : ∀ k, 0 < k → k < n → k ≠ j → lessAt less xs k ((k - 1) / 2) = false
  grand : 0 < j → ∀ c, 0 < c → c < n → (c - 1) / 2 = j → lessAt less xs c ((j - 1) / 2) = false

/-- The child `down` compares with: the right one when it exists and is
below the left one. -/
def minChild (xs : List α) (n i : Nat) : Nat :=
  if 2 * i + 1 + 1 < n ∧ lessAt less xs (2 * i + 1 + 1) (2 * i + 1) then 2 * i + 1 + 1 else 2 * i + 1

theorem minChild_parent (xs : List α) {n i : Nat} (h : 2 * i + 1 < n) :
    2 * i + 1 ≤ minChild less xs n i ∧ minChild less xs n i < n ∧
      (minChild less xs n i - 1) / 2 = i := by
  unfold minChild
  split <;> omega

/-- What `down` from `i0` keeps while the element at `i` sinks: every
edge from a parent at or past `i0` but `i`'s edges to its children is in
order, and when `i` has moved, `i`'s parent is not below `i`'s children. -/
structure DownOrder (xs : List α) (n i0 i : Nat) : Prop where
  start : i0 ≤ i
  except : ∀ k, 0 < k → k < n → i0 ≤ (k - 1) / 2 → (k - 1) / 2 ≠ i →
    lessAt less xs k ((k - 1) / 2) = false
  grand : i0 < i → ∀ c, 0 < c → c < n → (c - 1) / 2 = i → lessAt less xs c ((i - 1) / 2) = false

/-- A heap sort after the pops that left `m` elements: a heap on the
first `m` positions, a descending tail, and no head element below a tail
element. -/
structure Sorting (xs : List α) (m : Nat) : Prop where
  heap : IsHeap less xs m
  tail : ∀ a b, m ≤ a → a < b → b < xs.length → lessAt less xs a b = false
  split : ∀ a b, a < m → m ≤ b → b < xs.length → lessAt less xs a b = false

theorem downLoop_succ (n fuel : Nat) (xs : List α) (i : Nat) :
    downLoop less n (fuel + 1) xs i =
      if n ≤ 2 * i + 1 then (xs, i)
      else if !lessAt less xs (minChild less xs n i) i then (xs, i)
      else downLoop less n fuel (swap xs i (minChild less xs n i)) (minChild less xs n i) := rfl

section Sift

variable {less} [IsStrictWeakOrder α (fun a b => less a b)]
variable {xs : List α} {n i0 i j : Nat}

/-- No position of a heap is below its root. -/
theorem IsHeap.root_min (h : IsHeap less xs n) (hn : n ≤ xs.length) :
    ∀ a, a < n → lessAt less xs a 0 = false := by
  intro a
  induction a using Nat.strongRecOn with
  | _ a ih =>
    intro ha
    rcases Nat.eq_zero_or_pos a with rfl | ha0
    · exact lessAt_self xs 0
    · -- up the parent chain: `a` is not below its parent, which is not below the root
      have hp : (a - 1) / 2 < a := by omega
      exact lessAt_negTrans (h a ha0 ha (Nat.zero_le _)) (ih _ hp (by omega)) (by omega)

/-- No element of a heap filling its slice is below the root. -/
theorem IsHeap.root_min_mem (h : IsHeap less xs xs.length) {r y : α} (hr : xs[0]? = some r)
    (hy : y ∈ xs) : less y r = false := by
  obtain ⟨a, ha⟩ := List.mem_iff_getElem?.1 hy
  have hal : a < xs.length := (List.getElem?_eq_some_iff.1 ha).1
  have hmin := h.root_min (Nat.le_refl _) a hal
  rwa [lessAt_of_getElem? ha hr] at hmin

-- ============================== up

theorem UpOrder.move (o : UpOrder less xs n j) (hn : n ≤ xs.length) (hj : j < n) (hj0 : 0 < j)
    (hlt : lessAt less xs j ((j - 1) / 2) = true) :
    UpOrder less (swap xs ((j - 1) / 2) j) n ((j - 1) / 2) := by
  generalize hp : (j - 1) / 2 = p at hlt ⊢
  have hpl : p < xs.length := by omega
  have hjl : j < xs.length := by omega
  have hsp : (swap xs p j)[p]? = xs[j]? := getElem?_swap_left hpl hjl
  have hsj : (swap xs p j)[j]? = xs[p]? := getElem?_swap_right hpl hjl
  have hpe : 0 < p → lessAt less xs p ((p - 1) / 2) = false := fun hp0 =>
    o.except p hp0 (by omega) (by omega)
  constructor
  · intro k hk0 hkn hkp
    by_cases hkj : k = j
    · -- the old parent, now below `p`
      rw [hkj, hp, lessAt_congr hsj hsp]
      exact lessAt_asymm hlt
    · have hsk : (swap xs p j)[k]? = xs[k]? := getElem?_swap_of_ne hkp hkj
      have hk := o.except k hk0 hkn hkj
      by_cases hcj : (k - 1) / 2 = j
      · -- a child of `j`: its new parent is `j`'s old parent
        rw [hcj, lessAt_congr hsk hsj, ← hp]
        exact o.grand hj0 k hk0 hkn hcj
      · by_cases hcp : (k - 1) / 2 = p
        · -- `j`'s sibling, not below the old parent and so not below `j`
          rw [hcp] at hk ⊢
          rw [lessAt_congr hsk hsp]
          cases hkj' : lessAt less xs k j with
          | false => rfl
          | true => rw [lessAt_trans hkj' hlt] at hk; cases hk
        · rw [lessAt_congr hsk (getElem?_swap_of_ne hcp hcj)]
          exact hk
  · intro hp0 c hc0 hcn hcp
    have hspp : (swap xs p j)[(p - 1) / 2]? = xs[(p - 1) / 2]? :=
      getElem?_swap_of_ne (by omega) (by omega)
    by_cases hcj : c = j
    · rw [hcj, lessAt_congr hsj hspp]
      exact hpe hp0
    · -- `p`'s other child: below `p` is not below `p`'s parent
      rw [lessAt_congr (getElem?_swap_of_ne (by omega) hcj) hspp]
      have hc := o.except c hc0 hcn hcj
      rw [hcp] at hc
      exact lessAt_negTrans hc (hpe hp0) hpl

omit [IsStrictWeakOrder α fun a b => less a b = true] in
theorem UpOrder.finish (o : UpOrder less xs n j)
    (hstop : j = 0 ∨ lessAt less xs j ((j - 1) / 2) = false) : IsHeap less xs n := by
  intro k hk0 hkn _
  by_cases hkj : k = j
  · rcases hstop with h | h
    · omega
    · rw [hkj]
      exact h
  · exact o.except k hk0 hkn hkj

/-- `upLoop` with more fuel than `j` ends with a heap. -/
theorem upLoop_spec (fuel : Nat) (xs : List α) (j : Nat) (hf : j < fuel) (hj : j < n)
    (hn : n ≤ xs.length) (o : UpOrder less xs n j) :
    IsHeap less (upLoop less fuel xs j) n ∧ Reorders n xs (upLoop less fuel xs j) := by
  induction fuel generalizing xs j with
  | zero => omega
  | succ fuel ih =>
    simp only [upLoop]
    by_cases hstop : (j - 1) / 2 = j ∨ (!lessAt less xs j ((j - 1) / 2)) = true
    · rw [if_pos hstop]
      refine ⟨o.finish ?_, .refl⟩
      rcases hstop with h | h
      · exact Or.inl (by omega)
      · exact Or.inr (by simpa using h)
    · rw [if_neg hstop]
      rw [not_or] at hstop
      have hj0 : 0 < j := by omega
      have hlt : lessAt less xs j ((j - 1) / 2) = true := by simpa using hstop.2
      have hstep : Reorders n xs (swap xs ((j - 1) / 2) j) := Reorders.refl.step (by omega) hj
      obtain ⟨hheap, hre⟩ := ih (swap xs ((j - 1) / 2) j) ((j - 1) / 2) (by omega) (by omega)
        (by simpa using hn) (o.move hn hj hj0 hlt)
      exact ⟨hheap, hstep.trans hre⟩

/-- `Push`'s `up`: a heap with one element appended is a heap again. -/
theorem up_append (h : IsHeap less xs n) (hlen : xs.length = n) (x : α) :
    IsHeap less (up less (xs ++ [x]) n) (n + 1) ∧ Reorders (n + 1) (xs ++ [x]) (up less (xs ++ [x]) n) := by
  refine upLoop_spec (n + 1) (xs ++ [x]) n (by omega) (by omega) (by simp [hlen]) ⟨?_, ?_⟩
  · intro k hk0 hkn hkj
    rw [lessAt_congr (List.getElem?_append_left (by omega)) (List.getElem?_append_left (by omega))]
    exact h k hk0 (by omega) (Nat.zero_le _)
  · -- the appended element has no children yet
    intro _ c _ hcn hcp
    omega

-- ============================ down

/-- No child of `i` is below the child `down` picks. -/
theorem minChild_min {c : Nat} (hc0 : 0 < c) (hcn : c < n) (hcp : (c - 1) / 2 = i) :
    lessAt less xs c (minChild less xs n i) = false := by
  have hc : c = 2 * i + 1 ∨ c = 2 * i + 1 + 1 := by omega
  unfold minChild
  by_cases hsel : 2 * i + 1 + 1 < n ∧ lessAt less xs (2 * i + 1 + 1) (2 * i + 1) = true
  · rw [if_pos hsel]
    rcases hc with rfl | rfl
    · exact lessAt_asymm hsel.2
    · exact lessAt_self xs _
  · rw [if_neg hsel]
    rcases hc with rfl | rfl
    · exact lessAt_self xs _
    · simpa [hcn] using hsel

theorem DownOrder.move (o : DownOrder less xs n i0 i) (hn : n ≤ xs.length) (hc : 2 * i + 1 < n)
    (hlt : lessAt less xs (minChild less xs n i) i = true) :
    DownOrder less (swap xs i (minChild less xs n i)) n i0 (minChild less xs n i) := by
  obtain ⟨hji, hjn, hjp⟩ := minChild_parent less xs hc
  have hmin : ∀ c, 0 < c → c < n → (c - 1) / 2 = i → lessAt less xs c (minChild less xs n i) = false :=
    fun c hc0 hcn hcp => minChild_min hc0 hcn hcp
  generalize minChild less xs n i = j at hji hjn hjp hmin hlt ⊢
  have hil : i < xs.length := by omega
  have hjl : j < xs.length := by omega
  have hsi : (swap xs i j)[i]? = xs[j]? := getElem?_swap_left hil hjl
  have hsj : (swap xs i j)[j]? = xs[i]? := getElem?_swap_right hil hjl
  refine ⟨by have := o.start; omega, ?_, ?_⟩
  · intro k hk0 hkn hki0 hkj
    by_cases hk : k = j
    · -- `i`'s old element, now below the child that rose
      rw [hk, hjp, lessAt_congr hsj hsi]
      exact lessAt_asymm hlt
    · by_cases hki : k = i
      · -- the child that rose, against `i`'s parent
        have hq : (swap xs i j)[(k - 1) / 2]? = xs[(k - 1) / 2]? :=
          getElem?_swap_of_ne (by omega) (by omega)
        rw [lessAt_congr (by rw [hki]; exact hsi) hq, hki]
        exact o.grand (by omega) j (by omega) hjn hjp
      · have hsk : (swap xs i j)[k]? = xs[k]? := getElem?_swap_of_ne hki hk
        by_cases hkp : (k - 1) / 2 = i
        · -- the sibling of the child that rose
          rw [hkp, lessAt_congr hsk hsi]
          exact hmin k hk0 hkn hkp
        · rw [lessAt_congr hsk (getElem?_swap_of_ne hkp hkj)]
          exact o.except k hk0 hkn hki0 hkp
  · intro _ c hc0 hcn hcp
    rw [hjp, lessAt_congr (getElem?_swap_of_ne (by omega) (by omega)) hsi]
    have hc := o.except c hc0 hcn (by have := o.start; omega) (by omega)
    rwa [hcp] at hc

theorem DownOrder.finish (o : DownOrder less xs n i0 i) (hn : n ≤ xs.length)
    (hstop : n ≤ 2 * i + 1 ∨ lessAt less xs (minChild less xs n i) i = false) :
    Below less xs n i0 := by
  intro k hk0 hkn hki0
  by_cases hkp : (k - 1) / 2 = i
  · rcases hstop with h | h
    · omega
    · -- a child of `i` is not below the smaller child, which is not below `i`
      have hjn := (minChild_parent less xs (show 2 * i + 1 < n by omega)).2.1
      rw [hkp]
      exact lessAt_negTrans (minChild_min hk0 hkn hkp) h (by omega)
  · exact o.except k hk0 hkn hki0 hkp

/-- `downLoop` with enough fuel ends with the heap property from `i0`. -/
theorem downLoop_spec (fuel : Nat) (xs : List α) (i : Nat) (hf : n ≤ fuel + i)
    (hn : n ≤ xs.length) (o : DownOrder less xs n i0 i) :
    Below less (downLoop less n fuel xs i).1 n i0 ∧ Reorders n xs (downLoop less n fuel xs i).1 := by
  induction fuel generalizing xs i with
  | zero => exact ⟨o.finish hn (Or.inl (by omega)), .refl⟩
  | succ fuel ih =>
    rw [downLoop_succ]
    by_cases hleaf : n ≤ 2 * i + 1
    · rw [if_pos hleaf]
      exact ⟨o.finish hn (Or.inl hleaf), .refl⟩
    · rw [if_neg hleaf]
      by_cases hstop : (!lessAt less xs (minChild less xs n i) i) = true
      · rw [if_pos hstop]
        exact ⟨o.finish hn (Or.inr (by simpa using hstop)), .refl⟩
      · rw [if_neg hstop]
        have hlt : lessAt less xs (minChild less xs n i) i = true := by simpa using hstop
        obtain ⟨hji, hjn, -⟩ := minChild_parent less xs (show 2 * i + 1 < n by omega)
        have hstep : Reorders n xs (swap xs i (minChild less xs n i)) :=
          Reorders.refl.step (by omega) hjn
        obtain ⟨hb, hre⟩ := ih (swap xs i (minChild less xs n i)) (minChild less xs n i)
          (by omega) (by simpa using hn) (o.move hn (by omega) hlt)
        exact ⟨hb, hstep.trans hre⟩

theorem down_spec (hn : n ≤ xs.length) (o : DownOrder less xs n i0 i0) :
    Below less (down less xs i0 n).1 n i0 ∧ Reorders n xs (down less xs i0 n).1 :=
  downLoop_spec n xs i0 (by omega) hn o

omit [IsStrictWeakOrder α fun a b => less a b = true] in
/-- `Fix` at the root is `down` alone: `up` from the root does nothing. -/
theorem fix_zero (xs : List α) (n : Nat) : fix less xs 0 n = (down less xs 0 n).1 := by
  dsimp only [fix]
  split
  · rfl
  · simp [up, upLoop]

/-- `Fix` after the root is overwritten: a heap again. -/
theorem fix_set_zero (h : IsHeap less xs n) (hn : n ≤ xs.length) (x : α) :
    IsHeap less (fix less (xs.set 0 x) 0 n) n ∧ Reorders n (xs.set 0 x) (fix less (xs.set 0 x) 0 n) := by
  rw [fix_zero]
  refine down_spec (by simpa using hn) ⟨Nat.le_refl 0, ?_, ?_⟩
  · intro k hk0 hkn _ hkp
    rw [lessAt_congr (List.getElem?_set_ne (by omega)) (List.getElem?_set_ne (Ne.symm hkp))]
    exact h k hk0 hkn (Nat.zero_le _)
  · intro h0
    omega

-- ============================ sort

omit [IsStrictWeakOrder α fun a b => less a b = true] in
theorem sorting_start (h : IsHeap less xs xs.length) : Sorting less xs xs.length :=
  ⟨h, fun _ _ ha hab hb => by omega, fun _ _ _ hb hb' => by omega⟩

/-- One `Pop`: the root goes to position `m - 1` and `down` restores the
heap on the first `m - 1` positions. -/
theorem sorting_pop (s : Sorting less xs m) (hm : 0 < m) (hml : m ≤ xs.length) :
    Sorting less (pop less xs m) (m - 1) ∧ Reorders m xs (pop less xs m) := by
  have h0 : 0 < xs.length := by omega
  have hl : m - 1 < xs.length := by omega
  have hys : Reorders m xs (swap xs 0 (m - 1)) := Reorders.refl.step hm (by omega)
  have o : DownOrder less (swap xs 0 (m - 1)) (m - 1) 0 0 := by
    refine ⟨Nat.le_refl 0, ?_, ?_⟩
    · intro k hk0 hkn _ hkp
      rw [lessAt_congr (getElem?_swap_of_ne (by omega) (by omega))
        (getElem?_swap_of_ne hkp (by omega))]
      exact s.heap k hk0 (by omega) (Nat.zero_le _)
    · intro h
      omega
  obtain ⟨hb, hre⟩ := down_spec (by simp; omega) o
  have hall : Reorders m xs (pop less xs m) := hys.trans (hre.mono (by omega))
  -- what the tail holds after the pop
  have hlast : (pop less xs m)[m - 1]? = xs[0]? :=
    (hre.getElem?_of_le (Nat.le_refl _)).trans (getElem?_swap_right h0 hl)
  have hpast : ∀ b, m ≤ b → (pop less xs m)[b]? = xs[b]? := fun b hb =>
    (hre.getElem?_of_le (by omega)).trans (getElem?_swap_of_ne (by omega) (by omega))
  have hlen : (pop less xs m).length = xs.length := hall.length_eq
  refine ⟨⟨hb, ?_, ?_⟩, hall⟩
  · intro a b ha hab hb
    rw [hlen] at hb
    by_cases ham : a = m - 1
    · rw [lessAt_congr (by rw [ham]; exact hlast) (hpast b (by omega))]
      exact s.split 0 b hm (by omega) hb
    · rw [lessAt_congr (hpast a (by omega)) (hpast b (by omega))]
      exact s.tail a b (by omega) hab hb
  · intro a b ha hb hbl
    rw [hlen] at hbl
    obtain ⟨a', ha', hza⟩ := hall.exists_lt (show a < m by omega)
    by_cases hbm : b = m - 1
    · -- the popped root is below no element left in the heap
      rw [lessAt_congr hza (by rw [hbm]; exact hlast)]
      exact s.heap.root_min hml a' ha'
    · rw [lessAt_congr hza (hpast b (by omega))]
      exact s.split a' b ha' (by omega) hbl

end Sift

/-- After the last pop the slice is descending. -/
theorem Sorting.pairwise {less : α → α → Bool} {xs : List α} (s : Sorting less xs 0) :
    xs.Pairwise fun a b => less a b = false := by
  rw [List.pairwise_iff_getElem]
  intro a b ha hb hab
  have h := s.tail a b (Nat.zero_le a) hab hb
  rwa [lessAt_of_getElem? (List.getElem?_eq_getElem ha) (List.getElem?_eq_getElem hb)] at h

end ContainerHeap
