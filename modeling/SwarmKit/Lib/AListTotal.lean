import Mathlib.Data.List.AList
import Mathlib.Algebra.BigOperators.Group.List.Basic
import Mathlib.Tactic.Abel

/-
Totals over association lists: an aggregate of a finite map (a count,
a sum of amounts) that a program keeps in a counter and updates as
entries come and go. Each lemma says how the total moves under one map
operation, so that a counter the program adjusts by hand can be shown
equal to the total by one case per operation.

An invariant over the entries of a map takes one case split per write:
an entry read after an insert is the inserted one or one the map had
(`lookup_insert_eq_some`), and after an erase one the map had
(`lookup_erase_eq_some`).

A map a loop builds from a list, inserting each element that passes a
test under its key, is known by two lookups: a key no passing element
has reads what the map had (`lookup_foldl_insert_of_forall`), and with
distinct keys a passing element is found under its own
(`lookup_foldl_insert_of_mem`). When each value is stored under a key it
carries, the list of values is what the map holds, with distinct keys
(`mem_map_snd_iff`, `map_snd_map_nodup`). A property of every stored
entry is decided over the entries (`forall_lookup_iff`).

Nothing in this file names the modelled repository.
-/

namespace AList

variable {α : Type*} {β : α → Type*} [DecidableEq α] {M : Type*} [AddCommMonoid M]

/-- The sum of `f` over the entries of `s`. -/
def total (f : ∀ a, β a → M) (s : AList β) : M :=
  (s.entries.map fun e => f e.1 e.2).sum

omit [DecidableEq α] in
@[simp] theorem total_empty (f : ∀ a, β a → M) : total f (∅ : AList β) = 0 := rfl

/-- Inserting counts the new entry and drops the one it replaces. -/
theorem total_insert (f : ∀ a, β a → M) (a : α) (b : β a) (s : AList β) :
    total f (s.insert a b) = f a b + total f (s.erase a) := by
  simp only [total, entries_insert, List.map_cons, List.sum_cons]
  rfl

/-- The entry at a key is part of the total: erasing it takes it out. -/
theorem total_erase_add {f : ∀ a, β a → M} {a : α} {b : β a} {s : AList β}
    (h : s.lookup a = some b) : total f s = total f (s.erase a) + f a b := by
  have hmem : a ∈ s.entries.keys := mem_keys.mp (lookup_isSome.mp (by simp [h]))
  obtain ⟨b', l₁, l₂, hl₁, hs, hk⟩ := List.exists_of_kerase hmem
  -- the entry found by `exists_of_kerase` is the one `lookup` returns
  have hb : b' = b := by
    have hlook : s.entries.dlookup a = some b := h
    rw [hs, List.dlookup_append, List.dlookup_eq_none.mpr hl₁, Option.none_or,
      List.dlookup_cons_eq] at hlook
    exact Option.some.inj hlook
  subst hb
  have herase : (s.erase a).entries = l₁ ++ l₂ := hk
  simp only [total, herase, hs, List.map_append, List.map_cons, List.sum_append, List.sum_cons]
  abel

/-- Erasing an absent key changes nothing. -/
theorem total_erase_of_notMem (f : ∀ a, β a → M) {a : α} {s : AList β} (h : a ∉ s) :
    total f (s.erase a) = total f s := by
  have hk : (s.erase a).entries = s.entries := List.kerase_of_notMem_keys h
  simp only [total, hk]

/-- Inserting at an absent key adds the new entry. -/
theorem total_insert_of_notMem (f : ∀ a, β a → M) {a : α} (b : β a) {s : AList β} (h : a ∉ s) :
    total f (s.insert a b) = f a b + total f s := by
  rw [total_insert, total_erase_of_notMem f h]

/-- Replacing the entry at a key moves the total by the difference. -/
theorem total_insert_of_lookup {M : Type*} [AddCommGroup M] (f : ∀ a, β a → M) {a : α}
    {b b' : β a} {s : AList β} (h : s.lookup a = some b') :
    total f (s.insert a b) = total f s - f a b' + f a b := by
  rw [total_insert, total_erase_add h]
  abel

omit [DecidableEq α] in
/-- A total of ones over the entries satisfying `p` counts them. -/
theorem total_ite_eq_countP {R : Type*} [AddCommMonoidWithOne R] (p : ∀ a, β a → Prop)
    [∀ a b, Decidable (p a b)] (s : AList β) :
    total (fun a b => if p a b then (1 : R) else 0) s =
      (s.entries.countP fun e => decide (p e.1 e.2) : R) := by
  unfold total
  generalize s.entries = l
  induction l with
  | nil => simp
  | cons e l ih =>
      simp only [List.map_cons, List.sum_cons, List.countP_cons, ih, Nat.cast_add]
      by_cases h : p e.1 e.2 <;> simp [h, add_comm]

/-- An entry after an insert: the inserted one, or one the map had under
another key. -/
theorem lookup_insert_eq_some {κ ν : Type*} [DecidableEq κ] {s : AList fun _ : κ => ν}
    {k k' : κ} {v v' : ν} (h : (s.insert k v).lookup k' = some v') :
    (k' = k ∧ v' = v) ∨ (k' ≠ k ∧ s.lookup k' = some v') := by
  by_cases hk : k' = k
  · subst hk
    rw [lookup_insert, Option.some.injEq] at h
    exact .inl ⟨rfl, h.symm⟩
  · rw [lookup_insert_ne hk] at h
    exact .inr ⟨hk, h⟩

/-- An entry after an erase: one the map had under another key. -/
theorem lookup_erase_eq_some {κ ν : Type*} [DecidableEq κ] {s : AList fun _ : κ => ν}
    {k k' : κ} {v : ν} (h : (s.erase k).lookup k' = some v) : k' ≠ k ∧ s.lookup k' = some v := by
  by_cases hk : k' = k
  · subst hk
    rw [lookup_erase] at h
    cases h
  · rw [lookup_erase_ne hk] at h
    exact ⟨hk, h⟩

-- ============ maps built by a loop

section Build

variable {κ ν : Type*} [DecidableEq κ] (key : ν → κ) (p : ν → Bool)

/-- A key that no passing element has keeps its entry. -/
theorem lookup_foldl_insert_of_forall {l : List ν} {m : AList fun _ : κ => ν} {k : κ}
    (h : ∀ a ∈ l, key a = k → p a = false) :
    (l.foldl (fun m a => if p a then m.insert (key a) a else m) m).lookup k = m.lookup k := by
  induction l generalizing m with
  | nil => rfl
  | cons a l ih =>
      rw [List.foldl_cons, ih fun b hb => h b (List.mem_cons_of_mem a hb)]
      split
      · next hp =>
          -- `a` passes, so its key is another
          have hk : k ≠ key a := fun hk => by
            rw [h a List.mem_cons_self hk.symm] at hp
            cases hp
          exact lookup_insert_ne hk
      · rfl

/-- With distinct keys, a passing element is found under its key. -/
theorem lookup_foldl_insert_of_mem {l : List ν} (hl : (l.map key).Nodup) {a : ν} (ha : a ∈ l)
    (hp : p a = true) (m : AList fun _ : κ => ν) :
    (l.foldl (fun m a => if p a then m.insert (key a) a else m) m).lookup (key a) = some a := by
  induction l generalizing m with
  | nil => cases ha
  | cons b l ih =>
      rw [List.map_cons, List.nodup_cons] at hl
      rw [List.foldl_cons]
      rcases List.mem_cons.mp ha with rfl | ha
      · -- the later elements have other keys and leave the entry alone
        refine (lookup_foldl_insert_of_forall key p fun c hc hck => ?_).trans ?_
        · exact absurd (hck ▸ List.mem_map_of_mem hc) hl.1
        · rw [if_pos hp, lookup_insert]
      · exact ih hl.2 ha _

end Build

-- ======== maps keyed by their values

section Keyed

variable {κ ν : Type*} [DecidableEq κ] {key : ν → κ} {s : AList fun _ : κ => ν}

/-- A property of every stored entry, read through `lookup` or over the
entries: the second form decides it. -/
theorem forall_lookup_iff {P : κ → ν → Prop} :
    (∀ k v, s.lookup k = some v → P k v) ↔ ∀ e ∈ s.entries, P e.1 e.2 := by
  constructor
  · intro h e he
    exact h e.1 e.2 (mem_lookup_iff.mpr he)
  · intro h k v hk
    exact h ⟨k, v⟩ (mem_lookup_iff.mp hk)

/-- With every value stored under its key, the values listed are the
stored ones. -/
theorem mem_map_snd_iff (hs : ∀ k v, s.lookup k = some v → key v = k) {v : ν} :
    v ∈ s.entries.map Sigma.snd ↔ s.lookup (key v) = some v := by
  constructor
  · intro hv
    obtain ⟨⟨k, v'⟩, he, rfl⟩ := List.mem_map.mp hv
    have hk : s.lookup k = some v' := mem_lookup_iff.mpr he
    rw [hs k v' hk]
    exact hk
  · intro hv
    exact List.mem_map.mpr ⟨⟨key v, v⟩, mem_lookup_iff.mp hv, rfl⟩

/-- With every value stored under its key, the values listed have
distinct keys. -/
theorem map_snd_map_nodup (hs : ∀ k v, s.lookup k = some v → key v = k) :
    ((s.entries.map Sigma.snd).map key).Nodup := by
  have hkeys : (s.entries.map Sigma.snd).map key = s.keys := by
    unfold AList.keys List.keys
    rw [List.map_map]
    exact List.map_congr_left fun e he => hs e.1 e.2 (mem_lookup_iff.mpr he)
  rw [hkeys]
  exact s.keys_nodup

end Keyed

end AList
