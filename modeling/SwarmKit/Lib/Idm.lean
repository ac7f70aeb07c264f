import Mathlib.Data.Finset.Insert
import Mathlib.Data.Finset.Erase

/-
An ID manager over a range of numbers, as a bit sequence keeps it: the
IDs taken, and the position the next serial search starts from.

# Operations

`getSpecificID` takes one ID if it is in the range and free;
`getID` takes a free ID, searching from the position after the last one
it handed out and then from the start of the range, `getFirstID` the
first free one from the start; `release` frees an
ID (one not taken is left as it is). The IDs taken stay in the range,
which the structure carries.

# What the proofs use

The spec lemmas say what each operation does to the IDs taken and that
the range does not move: `getSpecificID_ok`, `getID_ok`,
`getFirstID_ok`, `release_taken`. Nothing else of the search order is used.
A manager is its frame (range and search position) and the IDs taken
(`ext_frame`); taking and releasing a given ID keep the frame.

Nothing in this file names the modelled repository.
-/

/-- An ID manager: the range `[start, stop]`, the IDs taken, and the
ordinal after the last ID a serial search handed out. -/
structure Idm where
  start : Nat
  stop : Nat
  taken : Finset Nat
  curr : Nat
  taken_range : ∀ x ∈ taken, start ≤ x ∧ x ≤ stop

/-- Why an operation failed: the ID is outside the range, it is taken,
or no ID is free. -/
inductive IdmErr
  | outOfSet
  | bitAllocated
  | noBitAvailable
  deriving DecidableEq, Repr

namespace Idm

variable {i i' : Idm} {id : Nat}

/-- An empty manager of `[start, stop]`. -/
def new (start stop : Nat) : Idm := ⟨start, stop, ∅, 0, fun _ h => absurd h (Finset.notMem_empty _)⟩

/-- The first free ID from `n` to the end of the range. -/
def firstFree (i : Idm) (n : Nat) : Option Nat := (List.range' n (i.stop + 1 - n)).find? (· ∉ i.taken)

theorem firstFree_spec {n : Nat} (h : i.firstFree n = some id) : n ≤ id ∧ id ≤ i.stop ∧ id ∉ i.taken := by
  have hmem := List.mem_of_find?_eq_some h
  rw [List.mem_range'_1] at hmem
  have hfree := List.find?_some h
  exact ⟨hmem.1, by omega, by simpa using hfree⟩

/-- Where a serial search finds a free ID: after the last one handed out,
else from the start. -/
def search (i : Idm) : Option Nat :=
  (if i.curr ≠ 0 then i.firstFree (i.start + i.curr) else none) <|> i.firstFree i.start

theorem search_spec (h : i.search = some id) : i.start ≤ id ∧ id ≤ i.stop ∧ id ∉ i.taken := by
  unfold search at h
  by_cases hc : i.curr ≠ 0
  · rw [if_pos hc] at h
    cases hf : i.firstFree (i.start + i.curr) with
    | some id' =>
        rw [hf] at h
        cases h
        obtain ⟨hle, hstop, hnot⟩ := firstFree_spec hf
        exact ⟨by omega, hstop, hnot⟩
    | none =>
        rw [hf] at h
        exact firstFree_spec h
  · rw [if_neg hc] at h
    exact firstFree_spec h

/-- `GetSpecificID`. -/
def getSpecificID (i : Idm) (id : Nat) : Except IdmErr Idm :=
  if h : i.start ≤ id ∧ id ≤ i.stop then
    if id ∈ i.taken then .error .bitAllocated
    else .ok { i with
      taken := insert id i.taken
      taken_range := fun x hx => (Finset.mem_insert.mp hx).elim (fun hx => hx ▸ h) (i.taken_range x) }
  else .error .outOfSet

/-- `GetID(true)`: a serial search; the next one starts after the ID it
hands out. -/
def getID (i : Idm) : Except IdmErr (Nat × Idm) :=
  match h : i.search with
  | none => .error .noBitAvailable
  | some id =>
    .ok (id, { i with
      taken := insert id i.taken
      curr := id - i.start + 1
      taken_range := fun x hx =>
        (Finset.mem_insert.mp hx).elim (fun hx => hx ▸ ⟨(search_spec h).1, (search_spec h).2.1⟩)
          (i.taken_range x) })

/-- `GetID(false)`: the first free ID from the start of the range; a
later serial search starts after it. -/
def getFirstID (i : Idm) : Except IdmErr (Nat × Idm) :=
  match h : i.firstFree i.start with
  | none => .error .noBitAvailable
  | some id =>
    .ok (id, { i with
      taken := insert id i.taken
      curr := id - i.start + 1
      taken_range := fun x hx =>
        (Finset.mem_insert.mp hx).elim (fun hx => hx ▸ ⟨(firstFree_spec h).1, (firstFree_spec h).2.1⟩)
          (i.taken_range x) })

/-- `Release`. -/
def release (i : Idm) (id : Nat) : Idm :=
  { i with
    taken := i.taken.erase id
    taken_range := fun x hx => i.taken_range x (Finset.mem_of_mem_erase hx) }

-- ===================== spec lemmas

theorem getSpecificID_ok (h : i.getSpecificID id = .ok i') :
    id ∉ i.taken ∧ i.start ≤ id ∧ id ≤ i.stop ∧ i'.taken = insert id i.taken ∧
      i'.start = i.start ∧ i'.stop = i.stop := by
  unfold getSpecificID at h
  split at h
  · next hr =>
      split at h
      · cases h
      · next hf =>
          cases h
          exact ⟨hf, hr.1, hr.2, rfl, rfl, rfl⟩
  · cases h

theorem getID_ok {n : Nat} (h : i.getID = .ok (n, i')) :
    n ∉ i.taken ∧ i.start ≤ n ∧ n ≤ i.stop ∧ i'.taken = insert n i.taken ∧
      i'.start = i.start ∧ i'.stop = i.stop := by
  unfold getID at h
  split at h
  · cases h
  · next id hs =>
      cases h
      obtain ⟨hstart, hstop, hnot⟩ := search_spec hs
      exact ⟨hnot, hstart, hstop, rfl, rfl, rfl⟩

theorem getFirstID_ok {n : Nat} (h : i.getFirstID = .ok (n, i')) :
    n ∉ i.taken ∧ i.start ≤ n ∧ n ≤ i.stop ∧ i'.taken = insert n i.taken ∧
      i'.start = i.start ∧ i'.stop = i.stop := by
  unfold getFirstID at h
  split at h
  · cases h
  · next id hs =>
      cases h
      obtain ⟨hstart, hstop, hnot⟩ := firstFree_spec hs
      exact ⟨hnot, hstart, hstop, rfl, rfl, rfl⟩

@[simp] theorem release_taken (i : Idm) (id : Nat) : (i.release id).taken = i.taken.erase id := rfl

@[simp] theorem release_start (i : Idm) (id : Nat) : (i.release id).start = i.start := rfl

@[simp] theorem release_stop (i : Idm) (id : Nat) : (i.release id).stop = i.stop := rfl

@[simp] theorem new_taken (start stop : Nat) : (new start stop).taken = ∅ := rfl

-- ====================== frames

/-- What a manager is besides the IDs it holds: its range and where its
serial search resumes. -/
def frame (i : Idm) : Nat × Nat × Nat := (i.start, i.stop, i.curr)

@[simp] theorem release_frame (i : Idm) (id : Nat) : (i.release id).frame = i.frame := rfl

theorem getSpecificID_frame (h : i.getSpecificID id = .ok i') : i'.frame = i.frame := by
  unfold getSpecificID at h
  split at h
  · split at h
    · cases h
    · cases h
      rfl
  · cases h

/-- An ID in the range and free can be taken. -/
theorem getSpecificID_of_free (hr : i.start ≤ id ∧ id ≤ i.stop) (hf : id ∉ i.taken) :
    ∃ i', i.getSpecificID id = .ok i' := by
  unfold getSpecificID
  rw [dif_pos hr, if_neg hf]
  exact ⟨_, rfl⟩

/-- Two managers with one frame and the same IDs taken are one. -/
theorem ext_frame (hf : i.frame = i'.frame) (ht : i.taken = i'.taken) : i = i' := by
  obtain ⟨start, stop, taken, curr, _⟩ := i
  obtain ⟨start', stop', taken', curr', _⟩ := i'
  simp only [frame, Prod.mk.injEq] at hf
  obtain ⟨rfl, rfl, rfl⟩ := hf
  cases ht
  rfl

end Idm
