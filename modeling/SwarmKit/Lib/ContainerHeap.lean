import Mathlib.Data.List.Basic

/-
The algorithms of Go's container/heap over a slice: `up`, `down`,
`Init`, `Push`, `Pop` and `Fix`, for a heap whose `Less(i, j)` compares
the elements at `i` and `j` and whose `Len` is a number the caller
keeps.

# The slice and the interface

A slice is a list. `Swap(i, j)` exchanges two elements, `Less(i, j)` is
`less` of the elements at `i` and `j` (false outside the list, where Go
would panic; the algorithms never go there while `Len` is at most the
list's length). `Len` is passed as `n`: the caller's `Push` and `Pop`
change it, and what they do to the slice is the caller's.

# The loops

`up` moves `j` to its parent each round and `down` moves `i` to a child,
so `j + 1` and `n` rounds bound them: the loops carry that bound as
fuel.

Nothing in this file names the modelled repository.
-/

namespace ContainerHeap

variable {α : Type*} (less : α → α → Bool)

/-- `h.Swap(i, j)`. -/
def swap (xs : List α) (i j : Nat) : List α :=
  match xs[i]?, xs[j]? with
  | some a, some b => (xs.set i b).set j a
  | _, _ => xs

/-- `h.Less(i, j)`. -/
def lessAt (xs : List α) (i j : Nat) : Bool :=
  match xs[i]?, xs[j]? with
  | some a, some b => less a b
  | _, _ => false

/-- The loop of `up(h, j)`, with at most `fuel` rounds. -/
def upLoop : Nat → List α → Nat → List α
  | 0, xs, _ => xs
  | fuel + 1, xs, j =>
    let i := (j - 1) / 2
    if i = j ∨ !lessAt less xs j i then xs else upLoop fuel (swap xs i j) i

/-- `up(h, j)`. -/
def up (xs : List α) (j : Nat) : List α := upLoop less (j + 1) xs j

/-- The loop of `down(h, i0, n)`, with at most `fuel` rounds: the slice
and where the element ended. -/
def downLoop (n : Nat) : Nat → List α → Nat → List α × Nat
  | 0, xs, i => (xs, i)
  | fuel + 1, xs, i =>
    let j1 := 2 * i + 1
    if n ≤ j1 then (xs, i)
    else
      let j := if j1 + 1 < n ∧ lessAt less xs (j1 + 1) j1 then j1 + 1 else j1
      if !lessAt less xs j i then (xs, i) else downLoop n fuel (swap xs i j) j

/-- `down(h, i0, n)`: the slice, and whether the element moved. -/
def down (xs : List α) (i0 n : Nat) : List α × Bool :=
  let r := downLoop less n n xs i0
  (r.1, decide (i0 < r.2))

/-- `Init(h)` with `Len() = n`: `down` from `n/2 - 1` to 0. -/
def init (xs : List α) (n : Nat) : List α :=
  (List.range (n / 2)).reverse.foldl (fun xs i => (down less xs i n).1) xs

/-- `Pop(h)` with `Len() = n > 0`, before the interface's `Pop`: the
root swapped to `n - 1` and the new root moved down in the first
`n - 1`. -/
def pop (xs : List α) (n : Nat) : List α :=
  (down less (swap xs 0 (n - 1)) 0 (n - 1)).1

/-- `Fix(h, i)` with `Len() = n`. -/
def fix (xs : List α) (i n : Nat) : List α :=
  let r := down less xs i n
  if r.2 then r.1 else up less r.1 i

end ContainerHeap
