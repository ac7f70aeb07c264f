import SwarmKit.Raft.Node
import SwarmKit.Store.Watch

/-
Resumable watches (memory.go `WatchFrom`, `changelistBetweenVersions`;
raft.go `ChangesBetween`) on the node of `Node.lean`, over the store's
watches of `Store/Watch.lean`.

# The watch

`WatchFrom(store, version, specifiers...)` without a version is a plain
watch on the store's queue. With one, it runs an empty `Update` to hold
`updateLock` while it reads `GetVersion()` (the raft commit index) and
subscribes to the queue, so no transaction publishes in between; after
the lock is released it fetches the log's changes from `version` up to
the version it read and rebuilds their events, and its goroutine sends
those before whatever the subscription receives (`Watcher.delivered`).

The empty `Update` proposes and publishes nothing, so the watch is a
function of the node state it starts in, enabled when no `Update` holds
the lock; `ApplyStoreActions` runs atomically in the node model, so it
is never half done at that point. The changes are fetched after the
lock is released, from entries at or below the commit index, which raft
never truncates; fetching them at the start gives the same list.

Compaction (`ErrCompacted` from `raftStore.Entries`) and the member
checks (`ErrNoRaftMember`, a nil `GetVersion()`) are not modelled: the
node's log starts at index 1 and the node is a member.
-/

namespace SwarmKit.Raft

open SwarmKit.Store

variable {B : Type}

-- ================== ChangesBetween

/-- `state.Change`: one entry's store actions and its index as version. -/
structure Change (B : Type) where
  storeActions : List (StoreAction B)
  version : Version

/-- Why `ChangesBetween` refuses. -/
inductive ChangesErr
  /-- "versions are out of order" -/
  | outOfOrder
  /-- "last version is out of bounds" -/
  | outOfBounds
  deriving DecidableEq, Repr

/-- The changes of consecutive log entries, the first at index `i`:
entries without data and requests without actions have none. -/
def entryChanges : Nat → List (Entry B) → List (Change B)
  | _, [] => []
  | i, .normal r :: es => (if r.action = [] then [] else [⟨r.action, ⟨i⟩⟩]) ++ entryChanges (i + 1) es
  | i, .other :: es => entryChanges (i + 1) es

/-- `Node.ChangesBetween(from, to)`: the changes of the entries after
`from` up to and including `to`. -/
def changesBetween (log : List (Entry B)) (fromV toV : Version) :
    Except ChangesErr (List (Change B)) :=
  if toV.index < fromV.index then .error .outOfOrder
  else if log.length < toV.index then .error .outOfBounds
  else .ok (entryChanges (fromV.index + 1) ((log.drop fromV.index).take (toV.index - fromV.index)))

/-- The events `changelistBetweenVersions` rebuilds from changes: each
change's actions (`api.EventFromStoreAction(sa, nil)`), then
`state.EventCommit{Version: change.Version}`. -/
def changeEvents (changes : List (Change B)) : List (Event B) :=
  changes.flatMap fun c => c.storeActions.map eventFromStoreAction ++ [.commit (some c.version)]

/-- `MemoryStore.changelistBetweenVersions(from, to)`. -/
def changelistBetweenVersions (log : List (Entry B)) (fromV toV : Version) :
    Except ChangesErr (List (Event B)) :=
  (changesBetween log fromV toV).map changeEvents

-- ======================= WatchFrom

/-- `WatchFrom(store, version, specifiers...)` on the node: `none` while
an `Update` holds the lock (the call waits), otherwise the watch or the
error of `changelistBetweenVersions`. -/
def Node.watchFrom (version : Option Version) (specifiers : List (Specifier B)) (s : Node B) :
    Option (Except ChangesErr (Watcher B)) :=
  match version with
  | none => some (.ok (s.store.watch specifiers))
  | some v =>
    match s.update with
    | some _ => none
    | none =>
      some ((changelistBetweenVersions s.log v ⟨s.commit⟩).map
        fun cl => { s.store.watch specifiers with changelist := cl })

-- ===================== spec lemmas

@[simp] theorem entryChanges_nil (i : Nat) : entryChanges i ([] : List (Entry B)) = [] := rfl

@[simp] theorem changeEvents_nil : changeEvents ([] : List (Change B)) = [] := rfl

@[simp] theorem changeEvents_append (c₁ c₂ : List (Change B)) :
    changeEvents (c₁ ++ c₂) = changeEvents c₁ ++ changeEvents c₂ := by
  simp [changeEvents]

/-- `ChangesBetween` answers for every range inside the log. -/
theorem changesBetween_of_le {log : List (Entry B)} {fromV toV : Version}
    (h₁ : fromV.index ≤ toV.index) (h₂ : toV.index ≤ log.length) :
    changesBetween log fromV toV = .ok (entryChanges (fromV.index + 1)
      ((log.drop fromV.index).take (toV.index - fromV.index))) := by
  simp only [changesBetween, if_neg (Nat.not_lt.mpr h₁), if_neg (Nat.not_lt.mpr h₂)]

/-- With the lock free, a watch from a version at most the commit index,
which the log holds, replays the changes of the entries between them. -/
theorem Node.watchFrom_of_le {s : Node B} {v : Version} (specifiers : List (Specifier B))
    (hu : s.update = none) (hv : v.index ≤ s.commit) (hc : s.commit ≤ s.log.length) :
    s.watchFrom (some v) specifiers =
      some (.ok ⟨specifiers,
        changeEvents (entryChanges (v.index + 1) ((s.log.drop v.index).take (s.commit - v.index))),
        s.store.queue.length⟩) := by
  simp only [Node.watchFrom, hu, changelistBetweenVersions,
    @changesBetween_of_le B s.log v ⟨s.commit⟩ hv hc]
  rfl

end SwarmKit.Raft
