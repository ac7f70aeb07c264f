import SwarmKit.Lib.MemTable

/-
A table with a unique name index, its writes, and snapshot restore
(manager/state/store/memory.go `tx.create`, `tx.update`, `tx.delete`,
`MemoryStore.Restore`; object.go `RestoreTable`; services.go the service
table schema, `CreateService`, `UpdateService`, `DeleteService`).

# The table

The service table as its `id` and `name` indexes see it: memdb keeps a
unique index as a map from the key to the object, and its `Insert` and
`Delete` are `MemTable.insert` and `MemTable.delete`. A service is its
ID, its name as the name indexer stores it (lower-cased), and its
version. The other tables with a name index (nodes, networks, secrets,
configs) have the same schema and the same restore. The non-unique
indexes (runtime, network, secret, config, custom) are not read here.

# Writes

`tx.create` refuses a taken ID, `tx.update` a missing one or, in a
transaction with a version, a stale version; both stamp the version.
`CreateService` and `UpdateService` first check the name index.
`RestoreTable` runs in `updateLocal`'s transaction, which has no version,
and calls `tx.create` and `tx.update` directly: it updates the snapshot's
objects whose ID exists, creates the others, and then deletes the old
objects it did not update.
-/

namespace SwarmKit.Store.Named

-- ======================= the table

/-- What the `id` and `name` indexes read of an `api.Service`, and its
`Meta.Version`. -/
structure Service where
  id : Nat
  /-- `strings.ToLower(Spec.Annotations.Name)`. -/
  name : Nat
  version : Nat
  deriving DecidableEq, Repr

/-- The service table: by ID, and by name. -/
abbrev ServiceTable := MemTable Nat Nat Service

/-- The errors of the writes here: `ErrExist`, `ErrNotExist`,
`ErrSequenceConflict`, `ErrNameConflict`. -/
inductive Err
  | exist | notExist | sequenceConflict | nameConflict
  deriving DecidableEq, Repr

/-- memdb `Insert` on the service table. -/
def insert (o : Service) (t : ServiceTable) : ServiceTable := MemTable.insert Service.id Service.name o t

/-- `touchMeta`: a transaction with a version stamps it. -/
def touchMeta (o : Service) (curVersion : Option Nat) : Service :=
  match curVersion with
  | some v => { o with version := v }
  | none => o

/-- `tx.create`. -/
def txCreate (curVersion : Option Nat) (t : ServiceTable) (o : Service) : Except Err ServiceTable :=
  if (t.primary.lookup o.id).isSome then .error .exist
  else .ok (insert (touchMeta o curVersion) t)

/-- `tx.update`. -/
def txUpdate (curVersion : Option Nat) (t : ServiceTable) (o : Service) : Except Err ServiceTable :=
  match t.primary.lookup o.id with
  | none => .error .notExist
  | some old =>
    if curVersion.isSome ∧ old.version ≠ o.version then .error .sequenceConflict
    else .ok (insert (touchMeta o curVersion) t)

/-- `tx.delete`: memdb `Delete` of the object stored under the ID. -/
def txDelete (t : ServiceTable) (id : Nat) : Except Err ServiceTable :=
  match MemTable.delete Service.name id t with
  | none => .error .notExist
  | some t => .ok t

/-- `CreateService`: refused when the name is in use. -/
def createService (curVersion : Option Nat) (t : ServiceTable) (s : Service) :
    Except Err ServiceTable :=
  if (t.secondary.lookup s.name).isSome then .error .nameConflict else txCreate curVersion t s

/-- `UpdateService`: refused when another service has the name. -/
def updateService (curVersion : Option Nat) (t : ServiceTable) (s : Service) :
    Except Err ServiceTable :=
  match t.secondary.lookup s.name with
  | some existing => if existing.id ≠ s.id then .error .nameConflict else txUpdate curVersion t s
  | none => txUpdate curVersion t s

/-- `DeleteService`. -/
def deleteService (t : ServiceTable) (id : Nat) : Except Err ServiceTable := txDelete t id

-- ========================= restore

/-- One snapshot object in `RestoreTable`'s first loop, with the IDs it
has updated. -/
def restoreObject (tu : ServiceTable × List Nat) (o : Service) :
    Except Err (ServiceTable × List Nat) :=
  let (t, updated) := tu
  if (t.primary.lookup o.id).isSome then
    (txUpdate none t o).map fun t => (t, o.id :: updated)
  else (txCreate none t o).map fun t => (t, updated)

/-- One old object in `RestoreTable`'s second loop. -/
def deleteStale (updated : List Nat) (t : ServiceTable) (o : Service) : Except Err ServiceTable :=
  if o.id ∈ updated then .ok t else txDelete t o.id

/-- `RestoreTable(tx, table, newObjects)` in a transaction without a
version: the objects the table held, then the two loops. -/
def restoreTable (t : ServiceTable) (newObjects : List Service) : Except Err ServiceTable := do
  let oldObjects := t.primary.entries.map (·.2)
  let (t, updated) ← newObjects.foldlM restoreObject (t, [])
  oldObjects.foldlM (deleteStale updated) t

end SwarmKit.Store.Named
