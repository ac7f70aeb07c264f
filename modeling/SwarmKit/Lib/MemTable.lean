import SwarmKit.Lib.AListTotal

/-
Tables with a primary key and one unique secondary index, kept the way
an in-memory database with radix-tree indexes keeps them: each index is
a map from its key to the object.

# Writes

`insert` stores an object under its primary key and under its secondary
key. When it replaces an object whose secondary key differs, that key is
dropped first; nothing checks whether another object holds the new
secondary key, whose entry is simply overwritten. `delete` drops the
primary key and the secondary key computed from the object it removes,
whichever object that entry holds by then.

# Consistency

`Consistent`: every object is stored under its own primary key, and the
index maps each secondary key to the one stored object that carries it.
An `insert` keeps it when no other stored object carries the new
object's secondary key (`Consistent.insert`); a `delete` keeps it
(`Consistent.delete`). An `insert` that overwrites another object's
entry leaves that object unindexed, and a later `delete` of it drops the
entry of the object that took its key.

Nothing in this file names the modelled repository.
-/

/-- A primary map and a unique secondary index. -/
structure MemTable (κ ι ν : Type*) [DecidableEq κ] [DecidableEq ι] where
  primary : AList fun _ : κ => ν
  secondary : AList fun _ : ι => ν

namespace MemTable

variable {κ ι ν : Type*} [DecidableEq κ] [DecidableEq ι] (key : ν → κ) (sec : ν → ι)

/-- No objects. -/
def empty : MemTable κ ι ν := ⟨∅, ∅⟩

/-- Store `o`, replacing the object under its primary key. -/
def insert (o : ν) (t : MemTable κ ι ν) : MemTable κ ι ν :=
  let secondary := match t.primary.lookup (key o) with
    | some e => if sec e ≠ sec o then t.secondary.erase (sec e) else t.secondary
    | none => t.secondary
  ⟨t.primary.insert (key o) o, secondary.insert (sec o) o⟩

/-- Remove the object under `k`; `none` when there is none. -/
def delete (k : κ) (t : MemTable κ ι ν) : Option (MemTable κ ι ν) :=
  (t.primary.lookup k).map fun e => ⟨t.primary.erase k, t.secondary.erase (sec e)⟩

/-- Every object sits under its own key, and the index holds exactly the
stored objects, each under its secondary key. -/
structure Consistent (t : MemTable κ ι ν) : Prop where
  keyed : ∀ k o, t.primary.lookup k = some o → key o = k
  indexed : ∀ i o, t.secondary.lookup i = some o ↔ t.primary.lookup (key o) = some o ∧ sec o = i

/-- No stored object but one under `k` carries the secondary key `i`. -/
def Free (t : MemTable κ ι ν) (k : κ) (i : ι) : Prop :=
  ∀ o, t.primary.lookup (key o) = some o → sec o = i → key o = k

variable {key sec} {t t' : MemTable κ ι ν}

theorem empty_consistent : (empty : MemTable κ ι ν).Consistent key sec where
  keyed _ _ h := nomatch h
  indexed _ _ := ⟨nofun, fun h => nomatch h.1⟩

/-- The index entry of a stored object is the object. -/
theorem Consistent.secondary_of_primary (h : t.Consistent key sec) {k : κ} {o : ν}
    (ho : t.primary.lookup k = some o) : t.secondary.lookup (sec o) = some o := by
  have hk := h.keyed k o ho
  subst hk
  exact (h.indexed _ o).mpr ⟨ho, rfl⟩

/-- Two stored objects with one secondary key are one object. -/
theorem Consistent.eq_of_sec (h : t.Consistent key sec) {o o' : ν}
    (ho : t.primary.lookup (key o) = some o) (ho' : t.primary.lookup (key o') = some o')
    (hs : sec o = sec o') : o = o' := by
  have h₁ := h.secondary_of_primary ho
  rw [hs, h.secondary_of_primary ho'] at h₁
  exact (Option.some.inj h₁).symm

/-- Off the new key, the index after the first half of `insert` holds
the stored objects other than the one replaced. -/
theorem Consistent.insert_secondary (h : t.Consistent key sec) (o : ν) {i : ι} {o' : ν}
    (hi : i ≠ sec o) :
    (match t.primary.lookup (key o) with
      | some e => if sec e ≠ sec o then t.secondary.erase (sec e) else t.secondary
      | none => t.secondary).lookup i = some o' ↔
      t.primary.lookup (key o') = some o' ∧ sec o' = i ∧ key o' ≠ key o := by
  -- the replaced object is the only stored one under `key o`
  have hne : ∀ e, t.primary.lookup (key o) = some e → (t.primary.lookup (key o') = some o' ∧
      sec o' = i ↔ t.primary.lookup (key o') = some o' ∧ sec o' = i ∧ key o' ≠ key o) ∨
      sec e = i := by
    intro e he
    by_cases hse : sec e = i
    · exact .inr hse
    · refine .inl ⟨fun ⟨ho', hs⟩ => ⟨ho', hs, fun hk => ?_⟩, fun ⟨ho', hs, _⟩ => ⟨ho', hs⟩⟩
      rw [hk, he, Option.some.injEq] at ho'
      exact hse (ho' ▸ hs)
  split
  · next e he =>
      split
      · next hse =>
          by_cases hie : i = sec e
          · subst hie
            rw [AList.lookup_erase]
            refine ⟨nofun, fun ⟨ho', hs, hk⟩ => (hk ?_).elim⟩
            have he' : t.primary.lookup (key e) = some e := h.keyed _ e he ▸ he
            rw [← h.keyed _ e he, h.eq_of_sec ho' he' hs]
          · rw [AList.lookup_erase_ne hie, h.indexed]
            rcases hne e he with hiff | hse'
            · exact hiff
            · exact absurd hse'.symm hie
      · next hse =>
          rw [h.indexed]
          rcases hne e he with hiff | hse'
          · exact hiff
          · exact absurd (hse' ▸ not_not.mp hse) hi
  · next he =>
      rw [h.indexed]
      refine ⟨fun ⟨ho', hs⟩ => ⟨ho', hs, fun hk => ?_⟩, fun ⟨ho', hs, _⟩ => ⟨ho', hs⟩⟩
      rw [hk, he] at ho'
      cases ho'

/-- An insert whose secondary key no other stored object carries keeps
the table consistent. -/
theorem Consistent.insert (h : t.Consistent key sec) {o : ν} (hfree : Free key sec t (key o) (sec o)) :
    (t.insert key sec o).Consistent key sec := by
  refine ⟨fun k o' hk => ?_, fun i o' => ?_⟩
  · rcases AList.lookup_insert_eq_some hk with ⟨rfl, rfl⟩ | ⟨-, hk⟩
    · rfl
    · exact h.keyed k o' hk
  · unfold MemTable.insert
    dsimp only
    by_cases hi : i = sec o
    · subst hi
      rw [AList.lookup_insert]
      by_cases hk : key o' = key o
      · rw [hk, AList.lookup_insert]
        exact ⟨fun he => ⟨he, by cases he; rfl⟩, fun ⟨he, _⟩ => he⟩
      · rw [AList.lookup_insert_ne hk]
        refine ⟨fun he => absurd (congrArg key (Option.some.inj he)) (Ne.symm hk),
          fun ⟨ho', hs⟩ => absurd (hfree o' ho' hs) hk⟩
    · rw [AList.lookup_insert_ne hi, h.insert_secondary o hi]
      by_cases hk : key o' = key o
      · rw [hk, AList.lookup_insert]
        refine ⟨fun ⟨_, _, hne⟩ => absurd rfl hne, fun ⟨he, hs⟩ => ?_⟩
        cases he
        exact absurd hs.symm hi
      · rw [AList.lookup_insert_ne hk]
        exact ⟨fun ⟨ho', hs, _⟩ => ⟨ho', hs⟩, fun ⟨ho', hs⟩ => ⟨ho', hs, hk⟩⟩

/-- A delete keeps the table consistent. -/
theorem Consistent.delete (h : t.Consistent key sec) {k : κ} (hd : t.delete sec k = some t') :
    t'.Consistent key sec := by
  unfold MemTable.delete at hd
  obtain ⟨e, he, rfl⟩ := Option.map_eq_some_iff.mp hd
  have hek : key e = k := h.keyed k e he
  refine ⟨fun k' o hk' => ?_, fun i o => ?_⟩
  · by_cases hkk : k' = k
    · rw [hkk, AList.lookup_erase] at hk'
      cases hk'
    · rw [AList.lookup_erase_ne hkk] at hk'
      exact h.keyed k' o hk'
  · dsimp only
    by_cases hi : i = sec e
    · -- the entry dropped is `e`'s, and no other object carried its key
      subst hi
      rw [AList.lookup_erase]
      refine ⟨nofun, fun ⟨ho, hs⟩ => ?_⟩
      by_cases hkk : key o = k
      · rw [hkk, AList.lookup_erase] at ho
        cases ho
      · rw [AList.lookup_erase_ne hkk] at ho
        exact (hkk (h.eq_of_sec ho (hek ▸ he) hs ▸ hek)).elim
    · rw [AList.lookup_erase_ne hi, h.indexed]
      by_cases hkk : key o = k
      · rw [hkk, AList.lookup_erase]
        refine ⟨fun ⟨ho, hs⟩ => ?_, fun ⟨ho, _⟩ => nomatch ho⟩
        rw [he, Option.some.injEq] at ho
        exact absurd (ho ▸ hs).symm hi
      · rw [AList.lookup_erase_ne hkk]

end MemTable
