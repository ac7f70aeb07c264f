import Mathlib.Logic.Function.Basic
import Mathlib.Data.Option.Basic

/-
The data the memory store handles (manager/state/store/memory.go and the
generated api.StoreObject / api.StoreAction code): objects with their
`Meta`, the events the store publishes on its watch queue, and the store
actions a transaction is proposed to raft as.

# Abstractions

- An object is its ID, its `Meta` and a `body` standing for every field
  the store layer never reads (spec, status, annotations). The body type
  `B` is a parameter, so each later component instantiates it with the
  fields it does read.
- IDs are `Nat`: the store only compares them.
- The object's Go type decides its table (`*api.Task` lives in `task`);
  here the table travels with the event and the store action instead.
- memdb's tables, reduced to their `id` index, are a finite map per table:
  `Db B := Table → Nat → Option (Object B)`.
-/

namespace SwarmKit.Store

-- ========================== tables

/-- The memdb tables the object storers register (`tableCluster`, …,
`tableVolume`). -/
inductive Table
  | cluster | config | extension | network | node | resource | secret | service
  | task | volume
  deriving DecidableEq, Repr

-- ============================ meta

/-- `api.Version`: the raft index a write was stamped with. -/
structure Version where
  index : Nat
  deriving DecidableEq, Repr

/-- `api.Meta` as `touchMeta` maintains it; the timestamps are readings of
the manager's clock. -/
structure Meta where
  version : Version
  createdAt : Option Nat
  updatedAt : Option Nat
  deriving DecidableEq, Repr

/-- An `api.StoreObject`: its ID, its `Meta` (`objMeta`, as `meta` is a keyword), and the rest of it. -/
structure Object (B : Type) where
  id : Nat
  objMeta : Meta
  body : B
  deriving DecidableEq, Repr

/-- `touchMeta`: stamp the transaction's version and the clock reading
`now` when the transaction has a version; leave the meta alone when it has
none ("we're applying from raft or restoring from a snapshot"). -/
def touchMeta (m : Meta) (version : Option Version) (now : Nat) : Meta :=
  match version with
  | none => m
  | some v => { version := v, createdAt := some (m.createdAt.getD now), updatedAt := some now }

@[simp] theorem touchMeta_none (m : Meta) (now : Nat) : touchMeta m none now = m := rfl

@[simp] theorem touchMeta_version (m : Meta) (v : Version) (now : Nat) :
    (touchMeta m (some v) now).version = v := rfl

-- ========================== events

/-- What the store publishes on its watch queue: the per-object events of a
transaction's changelist (`copy.EventCreate()`, `copy.EventUpdate(oldN)`,
`n.EventDelete()`), and `state.EventCommit` marking the end of a committed
transaction. -/
inductive Event (B : Type) where
  | create (t : Table) (o : Object B)
  | update (t : Table) (o : Object B) (old : Option (Object B))
  | delete (t : Table) (o : Object B)
  | commit (version : Option Version)
  deriving DecidableEq, Repr

/-- `api.StoreActionKind`. -/
inductive StoreActionKind
  | create | update | remove
  deriving DecidableEq, Repr

/-- `api.StoreAction`: what a changelist entry is proposed to raft as. -/
structure StoreAction (B : Type) where
  action : StoreActionKind
  table : Table
  target : Object B
  deriving DecidableEq, Repr

/-- `api.NewStoreAction`: the store action of a changelist event; commit
markers have none (`errUnknownStoreAction`). -/
def newStoreAction {B : Type} : Event B → Option (StoreAction B)
  | .create t o => some ⟨.create, t, o⟩
  | .update t o _ => some ⟨.update, t, o⟩
  | .delete t o => some ⟨.remove, t, o⟩
  | .commit _ => none

/-- `api.EventFromStoreAction(sa, nil)`: the event a replayed store action
publishes. Replayed updates carry no old object. -/
def eventFromStoreAction {B : Type} (sa : StoreAction B) : Event B :=
  match sa.action with
  | .create => .create sa.table sa.target
  | .update => .update sa.table sa.target none
  | .remove => .delete sa.table sa.target

-- =========================== memdb

/-- memdb's tables, keyed by their `id` index. -/
abbrev Db (B : Type) := Table → Nat → Option (Object B)

/-- The empty database `memdb.NewMemDB(schema)` starts from. -/
def Db.empty (B : Type) : Db B := fun _ _ => none

/-- `memdb.Txn.Insert`: the object replaces whatever had its ID. -/
def Db.insert {B : Type} (db : Db B) (t : Table) (o : Object B) : Db B :=
  Function.update db t (Function.update (db t) o.id (some o))

/-- `memdb.Txn.Delete`. -/
def Db.erase {B : Type} (db : Db B) (t : Table) (id : Nat) : Db B :=
  Function.update db t (Function.update (db t) id none)

/-- memdb's `id` index: every object is stored under its own ID. A
database built by `Insert` and `Delete` from the empty one has this
shape; `Delete` of a looked-up object relies on it. -/
def Db.WF {B : Type} (db : Db B) : Prop := ∀ t id o, db t id = some o → o.id = id

section Db

variable {B : Type} (db : Db B)

@[simp] theorem Db.empty_apply (t : Table) (id : Nat) : Db.empty B t id = none := rfl

@[simp] theorem Db.insert_same (t : Table) (o : Object B) : db.insert t o t o.id = some o := by
  simp [Db.insert]

theorem Db.insert_apply (t t' : Table) (o : Object B) (id : Nat) :
    db.insert t o t' id = if t' = t ∧ id = o.id then some o else db t' id := by
  unfold Db.insert
  by_cases ht : t' = t
  · subst ht
    by_cases hid : id = o.id
    · subst hid; simp
    · simp [hid]
  · simp [ht]

theorem Db.erase_apply (t t' : Table) (id id' : Nat) :
    db.erase t id t' id' = if t' = t ∧ id' = id then none else db t' id' := by
  unfold Db.erase
  by_cases ht : t' = t
  · subst ht
    by_cases hid : id' = id
    · subst hid; simp
    · simp [hid]
  · simp [ht]

theorem Db.empty_WF : (Db.empty B).WF := by
  intro t id o h
  simp at h

variable {db}

theorem Db.WF.insert (h : db.WF) (t : Table) (o : Object B) : (db.insert t o).WF := by
  intro t' id o' ho
  rw [Db.insert_apply] at ho
  split at ho
  · rename_i hk
    cases ho
    exact hk.2.symm
  · exact h t' id o' ho

theorem Db.WF.erase (h : db.WF) (t : Table) (id : Nat) : (db.erase t id).WF := by
  intro t' id' o ho
  rw [Db.erase_apply] at ho
  split at ho
  · cases ho
  · exact h t' id' o ho

end Db

-- ================= change identity

section Key

variable {B : Type}

/-- What a store action changes: its kind, table and object ID. -/
def StoreAction.key (sa : StoreAction B) : StoreActionKind × Table × Nat :=
  (sa.action, sa.table, sa.target.id)

/-- What an event reports a change of; commit markers report none. -/
def Event.key (e : Event B) : Option (StoreActionKind × Table × Nat) :=
  (newStoreAction e).map StoreAction.key

@[simp] theorem Event.key_commit (v : Option Version) : (Event.commit v : Event B).key = none := rfl

@[simp] theorem Event.key_eventFromStoreAction (sa : StoreAction B) :
    (eventFromStoreAction sa).key = some sa.key := by
  cases h : sa.action <;> simp [eventFromStoreAction, Event.key, newStoreAction, StoreAction.key, h]

end Key

end SwarmKit.Store
