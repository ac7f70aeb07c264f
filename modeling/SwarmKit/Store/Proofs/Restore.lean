import SwarmKit.Store.Restore
import SwarmKit.Lib.Lts

/-
The name index across writes and restores (`Restore.lean`).

# Writes

`Indexed`: the name index maps each name to the one service that has
it. `CreateService` and `UpdateService` look the name up before writing,
so the index keeps it through every run of API writes
(`indexed_api_writes`).

# Restore

`RestoreTable` writes each snapshot service and then deletes every old
one it did not update. It does not keep the name index: its writes skip
the name checks, so a snapshot service that took the name of an old
service with another ID overwrites that name's entry; deleting the old
service then drops the entry, and the snapshot's service can no longer
be found by name: a second service with the same name is created
(`restore_drops_moved_name`).
-/

namespace SwarmKit.Store.Named

variable {t t' : ServiceTable}

/-- The name index maps each name to the one stored service with it. -/
def Indexed (t : ServiceTable) : Prop := MemTable.Consistent Service.id Service.name t

@[simp] theorem touchMeta_id (o : Service) (v : Option Nat) : (touchMeta o v).id = o.id := by
  cases v <;> rfl

@[simp] theorem touchMeta_name (o : Service) (v : Option Nat) : (touchMeta o v).name = o.name := by
  cases v <;> rfl

-- ========================== writes

/-- A name the index does not hold is carried by no stored service. -/
theorem Indexed.free_of_none (h : Indexed t) {o : Service} (hn : t.secondary.lookup o.name = none) :
    MemTable.Free Service.id Service.name t o.id o.name := by
  intro o' ho' hs
  have := (h.indexed o.name o').mpr ⟨ho', hs⟩
  rw [hn] at this
  cases this

/-- A name the index holds for `o`'s ID is carried by no other service. -/
theorem Indexed.free_of_same (h : Indexed t) {o e : Service} (he : t.secondary.lookup o.name = some e)
    (hid : e.id = o.id) : MemTable.Free Service.id Service.name t o.id o.name := by
  intro o' ho' hs
  have := (h.indexed o.name o').mpr ⟨ho', hs⟩
  rw [he, Option.some.injEq] at this
  rw [← this, hid]

theorem Indexed.create (h : Indexed t) {v : Option Nat} {s : Service}
    (hc : createService v t s = .ok t') : Indexed t' := by
  unfold createService txCreate at hc
  split at hc
  · cases hc
  · next hn =>
      split at hc
      · cases hc
      · cases hc
        have hfree := h.free_of_none (Option.not_isSome_iff_eq_none.mp hn)
        rw [← touchMeta_id s v, ← touchMeta_name s v] at hfree
        exact h.insert hfree

theorem Indexed.update (h : Indexed t) {v : Option Nat} {s : Service}
    (hu : updateService v t s = .ok t') : Indexed t' := by
  -- the write itself keeps the index once the name is free for the ID
  have hwrite : MemTable.Free Service.id Service.name t s.id s.name →
      txUpdate v t s = .ok t' → Indexed t' := by
    intro hfree hw
    unfold txUpdate at hw
    split at hw
    · cases hw
    · split at hw
      · cases hw
      · cases hw
        rw [← touchMeta_id s v, ← touchMeta_name s v] at hfree
        exact h.insert hfree
  unfold updateService at hu
  split at hu
  · next e he =>
      split at hu
      · cases hu
      · next hid => exact hwrite (h.free_of_same he (not_not.mp hid)) hu
  · next hn => exact hwrite (h.free_of_none hn) hu

theorem Indexed.delete (h : Indexed t) {id : Nat} (hd : deleteService t id = .ok t') :
    Indexed t' := by
  unfold deleteService txDelete at hd
  split at hd
  · cases hd
  · next t'' hdel =>
      cases hd
      exact MemTable.Consistent.delete h hdel

/-- An API write on the service table, with the version of its
transaction. -/
inductive ApiWrite
  | create (v : Option Nat) (s : Service)
  | update (v : Option Nat) (s : Service)
  | delete (id : Nat)

/-- One API write; a refused one leaves the table as it was. -/
def apiStep (a : ApiWrite) (t : ServiceTable) : Option ServiceTable :=
  let r := match a with
    | .create v s => createService v t s
    | .update v s => updateService v t s
    | .delete id => deleteService t id
  match r with
  | .ok t' => some t'
  | .error _ => some t

/-- From a table whose name index is right, every run of API writes
keeps it right. -/
theorem indexed_api_writes {t₀ t : ServiceTable} (h₀ : Indexed t₀)
    (hr : Lts.Reachable apiStep t₀ t) : Indexed t := by
  refine (Lts.Inductive.reachable ⟨h₀, fun {a s s'} hs hstep => ?_⟩ hr)
  unfold apiStep at hstep
  dsimp only at hstep
  split at hstep
  · next t'' hok =>
      cases hstep
      cases a with
      | create v o => exact hs.create hok
      | update v o => exact hs.update hok
      | delete id => exact hs.delete hok
  · cases hstep
    exact hs

-- ========================= the run

/-- The table holds service 1 named 5; the snapshot holds service 2 with
that name, created after service 1 was deleted on the leader. -/
def oldTable : ServiceTable := insert ⟨1, 5, 1⟩ MemTable.empty

/-- The old table's index is right and the snapshot has unique IDs and
names; after `RestoreTable` the table holds exactly service 2, but the
name index has no entry for its name, and `CreateService` then stores a
second service named 5. -/
theorem restore_drops_moved_name :
    Indexed oldTable ∧
    ∃ t₁ t₂, restoreTable oldTable [⟨2, 5, 1⟩] = .ok t₁ ∧
      t₁.primary.entries = [⟨2, ⟨2, 5, 1⟩⟩] ∧ t₁.secondary.lookup 5 = none ∧
      createService (some 7) t₁ ⟨3, 5, 0⟩ = .ok t₂ ∧
      t₂.primary.lookup 2 = some ⟨2, 5, 1⟩ ∧ t₂.primary.lookup 3 = some ⟨3, 5, 7⟩ := by
  refine ⟨MemTable.empty_consistent.insert (fun _ h => nomatch h), _, _, rfl, rfl, rfl, rfl, rfl, rfl⟩

end SwarmKit.Store.Named
