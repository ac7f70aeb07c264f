import SwarmKit.Lib.Lts

/-
Raft DEK rotation (manager/deks.go `RaftDEKManager`; raft.go `Run`'s
snapshot and rotation branches, `needsSnapshot`,
`maybeMarkRotationFinished`, `saveToStorage`, the restart in
`loadAndStart`; raft/storage.go `readFromDisk`; storage/storage.go
`BootstrapFromDisk`, `GC`; etcd's `wal.ReadAll`).

# What is on disk

The TLS key's headers hold the raft DEKs (`RaftDEKData`): the current
one, a pending one while a rotation runs, and `NeedsRotation`. Snapshot
files and WAL entry records are encrypted with the logger's key at the
time they are written; here a file or record is its index and that key.
The WAL is one segment: records in file order, which `GC` never removes
(it keeps the newest segment). Reading it back (`wal.ReadAll` from the
newest snapshot) keeps the records above the snapshot index, each one
cutting off what was read at and above its index, so records of entries
raft later overwrote are dropped only if a record of a lower index above
the snapshot follows them.

# The run loop

`State.run` is the node's memory: the logger's key, `writtenWALIndex`,
`appliedIndex`, `snapshotMeta.Index`, `waitForAppliedIndex`, the snapshot
goroutine (`snapshotInProgress`) and `rotationQueued`, and raft's view
(last index, commit index, the raft store's snapshot index). A crash
loses it; a restart rebuilds it from disk through `readFromDisk`, with
`writtenWALIndex` the raft store's last index after the WAL was read.

The events are the run loop's branches, split where the disk is written
(a crash may fall between any two): entries saved, commit and apply, a
snapshot from the leader, the end of a `Ready`, the snapshot goroutine's
save and its completion, a rotation notification, a rotation request,
and a restart.
-/

namespace SwarmKit.Raft.Rotation

-- ============================ disk

/-- A raft data encryption key. -/
abbrev Key := Nat

/-- `RaftDEKData`: `CurrentDEK`, `PendingDEK`, `NeedsRotation`. -/
structure Headers where
  currentDEK : Key
  pendingDEK : Option Key
  needsRotation : Bool
  deriving DecidableEq, Repr

/-- A WAL entry record: the entry's index and the DEK of its data. -/
structure Record where
  index : Nat
  key : Key
  deriving DecidableEq, Repr

/-- A snapshot file: its index and the DEK it is encrypted with. -/
structure SnapFile where
  index : Nat
  key : Key
  deriving DecidableEq, Repr

/-- The node's state directory and key headers. -/
structure Disk where
  headers : Headers
  snaps : List SnapFile
  wal : List Record
  deriving DecidableEq, Repr

/-- Why reading the disk fails. -/
inductive BootErr
  /-- `encryption.ErrCannotDecrypt` -/
  | cannotDecrypt
  /-- `wal.ErrSliceOutOfRange` -/
  | sliceOutOfRange
  deriving DecidableEq, Repr

-- ========================= reading

/-- The snapshot `snap.Snapshotter.Load` picks: the one of highest index. -/
def newestSnap : List SnapFile → Option SnapFile
  | [] => none
  | s :: ss =>
    match newestSnap ss with
    | some t => if s.index ≤ t.index then some t else some s
    | none => some s

/-- `wal.ReadAll` after the snapshot at `start`: each record above `start`
cuts the entries read at and above its index and is appended. -/
def readAll (start : Nat) : List Record → List Record → Except BootErr (List Record)
  | ents, [] => .ok ents
  | ents, r :: rs =>
    if start < r.index then
      if ents.length < r.index - start - 1 then .error .sliceOutOfRange
      else readAll start (ents.take (r.index - start - 1) ++ [r]) rs
    else readAll start ents rs

/-- `BootstrapFromDisk` with the decrypters of `keys`: load and decrypt the
newest snapshot, then read the WAL after it and decrypt its entries. -/
def bootstrapFromDisk (keys : List Key) (d : Disk) : Except BootErr (Nat × List Record) :=
  match newestSnap d.snaps with
  | some s => if s.key ∈ keys then entries s.index else .error .cannotDecrypt
  | none => entries 0
where
  entries (start : Nat) : Except BootErr (Nat × List Record) :=
    match readAll start [] d.wal with
    | .ok ents => if ents.all (·.key ∈ keys) then .ok (start, ents) else .error .cannotDecrypt
    | .error e => .error e

/-- `UpdateKeys(EncryptionKeys{CurrentDEK: k})`: `k` becomes the current
DEK, no DEK is pending, `NeedsRotation` is kept. -/
def Headers.updateKeys (h : Headers) (k : Key) : Headers := ⟨k, none, h.needsRotation⟩

-- ==================== the run loop

/-- The snapshot goroutine: the applied index it snapshots, the metadata
index it will report, and whether it has finished. -/
structure SnapJob where
  applied : Nat
  metaIndex : Nat
  saved : Bool
  deriving DecidableEq, Repr

/-- The node's memory. -/
structure RunState where
  loggerKey : Key
  writtenWALIndex : Nat
  appliedIndex : Nat
  snapshotIndex : Nat
  waitForAppliedIndex : Nat
  snapshotInProgress : Option SnapJob
  rotationQueued : Bool
  lastIndex : Nat
  commit : Nat
  storeSnapIndex : Nat
  deriving DecidableEq, Repr

/-- The state after loading: the logger on `key`, applied up to the
snapshot, `writtenWALIndex` the raft store's last index. -/
def RunState.loaded (key : Key) (start : Nat) (ents : List Record) : RunState :=
  let last := (ents.getLast?.map (·.index)).getD start
  ⟨key, last, start, start, 0, none, false, last, start, start⟩

/-- `readFromDisk`: the pending DEK if there is one, else the current;
with a pending DEK that reads everything the rotation is marked done,
and on `ErrCannotDecrypt` the disk is read again with both. -/
def readFromDisk (d : Disk) : Except BootErr (Disk × RunState) :=
  match d.headers.pendingDEK with
  | none =>
    (bootstrapFromDisk [d.headers.currentDEK] d).map fun (start, ents) =>
      (d, RunState.loaded d.headers.currentDEK start ents)
  | some p =>
    match bootstrapFromDisk [p] d with
    | .ok (start, ents) => .ok ({ d with headers := d.headers.updateKeys p }, RunState.loaded p start ents)
    | .error .cannotDecrypt =>
      (bootstrapFromDisk [p, d.headers.currentDEK] d).map fun (start, ents) =>
        (d, RunState.loaded p start ents)
    | .error e => .error e

/-- A manager node: its disk and its memory. -/
structure State where
  disk : Disk
  run : RunState
  deriving DecidableEq, Repr

/-- A node started on an empty state directory with DEK `k`. -/
def State.init (k : Key) : State :=
  ⟨⟨⟨k, none, false⟩, [], []⟩, RunState.loaded k 0 []⟩

namespace State

/-- The state with its memory changed by `f`. -/
def withRun (s : State) (f : RunState → RunState) : State := { s with run := f s.run }

/-- `GC(index, term, keepOldSnapshots)`: when the snapshot at `index` is
on disk, older snapshots beyond the `keep` newest of them are removed;
the WAL keeps its one segment. -/
def gc (index keep : Nat) (s : State) : State :=
  if s.disk.snaps.any (·.index = index) then
    let older := s.disk.snaps.filter (·.index < index)
    { s with disk := { s.disk with
        snaps := older.drop (older.length - keep) ++ s.disk.snaps.filter (index ≤ ·.index) } }
  else s

/-- `RaftDEKManager.NeedsRotation`. -/
def needsRotation (s : State) : Bool :=
  s.disk.headers.needsRotation || s.disk.headers.pendingDEK.isSome

/-- `RaftDEKManager.GetKeys`: with `NeedsRotation` and no pending DEK, a
new DEK `fresh` is written as pending and `NeedsRotation` cleared. The
pending DEK of the keys returned. -/
def getKeys (fresh : Key) (s : State) : State × Option Key :=
  let h := s.disk.headers
  if !h.needsRotation || h.pendingDEK.isSome then (s, h.pendingDEK)
  else ({ s with disk := { s.disk with headers := ⟨h.currentDEK, some fresh, false⟩ } }, some fresh)

/-- `needsSnapshot`: with no rotation waiting and one needed, take the
pending DEK, rotate the logger onto it and wait for the last index
written with the old one (or one past the current snapshot); a snapshot
is needed once that index is applied. -/
def needsSnapshot (fresh : Key) (s : State) : State × Bool :=
  let s :=
    if s.run.waitForAppliedIndex = 0 ∧ s.needsRotation then
      match s.getKeys fresh with
      | (s, some p) =>
        let w := s.run.writtenWALIndex
        let w := if w ≤ s.run.snapshotIndex then s.run.snapshotIndex + 1 else w
        s.withRun fun r => { r with loggerKey := p, waitForAppliedIndex := w }
      | (s, none) => s
    else s
  (s, 0 < s.run.waitForAppliedIndex && s.run.waitForAppliedIndex ≤ s.run.appliedIndex)

/-- `maybeMarkRotationFinished`: once a snapshot at the awaited index
exists, the logger's DEK becomes the only one and older snapshots go. -/
def maybeMarkRotationFinished (s : State) : State :=
  if 0 < s.run.waitForAppliedIndex ∧ s.run.waitForAppliedIndex ≤ s.run.snapshotIndex then
    ({ s with disk := { s.disk with headers := s.disk.headers.updateKeys s.run.loggerKey } }.withRun
      fun r => { r with waitForAppliedIndex := 0 }).gc s.run.snapshotIndex 0
  else s

/-- `triggerSnapshot`: the goroutine starts on the applied index. -/
def triggerSnapshot (s : State) : State :=
  s.withRun fun r => { r with snapshotInProgress := some ⟨r.appliedIndex, r.snapshotIndex, false⟩ }

-- ========================== events

/-- `saveToStorage` of `count` entries from index `fromIdx`, which raft
only writes above its commit index: each is a record under the logger's
DEK, and `writtenWALIndex` never goes down. -/
def append (fromIdx count : Nat) (s : State) : Option State :=
  if s.run.commit < fromIdx ∧ s.run.storeSnapIndex < fromIdx ∧ fromIdx ≤ s.run.lastIndex + 1 ∧
      0 < count then
    let last := fromIdx + count - 1
    some { s with
      disk := { s.disk with
        wal := s.disk.wal ++ (List.range count).map fun i => (⟨fromIdx + i, s.run.loggerKey⟩ : Record) },
      run := { s.run with writtenWALIndex := max s.run.writtenWALIndex last, lastIndex := last } }
  else none

/-- Raft's commit index advances over the log. -/
def commitTo (c : Nat) (s : State) : Option State :=
  if s.run.commit ≤ c ∧ c ≤ s.run.lastIndex then some (s.withRun fun r => { r with commit := c })
  else none

/-- `processCommitted` up to a committed index. -/
def apply (k : Nat) (s : State) : Option State :=
  if s.run.appliedIndex < k ∧ k ≤ s.run.commit then some (s.withRun fun r => { r with appliedIndex := k })
  else none

/-- A snapshot from the leader above the commit index: saved under the
logger's DEK, old snapshots collected, the raft store and the node's
indices moved to it. -/
def leaderSnapshot (idx keep : Nat) (s : State) : Option State :=
  if s.run.commit < idx ∧ s.run.storeSnapIndex < idx then
    some (({ s with disk := { s.disk with snaps := s.disk.snaps ++ [(⟨idx, s.run.loggerKey⟩ : SnapFile)] } }.gc
      idx keep).withRun fun r =>
        { r with lastIndex := idx, commit := idx, storeSnapIndex := idx, appliedIndex := idx,
                 snapshotIndex := idx })
  else none

/-- The end of a `Ready`: rotation completion, then a snapshot when none
runs and one is needed for the rotation or by `SnapshotInterval`. -/
def readyEnd (snapshotInterval : Nat) (fresh : Key) (s : State) : Option State :=
  let s := s.maybeMarkRotationFinished
  match s.run.snapshotInProgress with
  | some _ => some s
  | none =>
    let (s, need) := s.needsSnapshot fresh
    if need || (0 < snapshotInterval && snapshotInterval ≤ s.run.appliedIndex - s.run.snapshotIndex) then
      some s.triggerSnapshot
    else some s

/-- The snapshot goroutine: `CreateSnapshot` of its applied index unless
the raft store has a newer one, then `SaveSnapshot` under the logger's
DEK (which may fail); only a saved snapshot's index is reported. -/
def snapshotSave (ok : Bool) (s : State) : Option State :=
  match s.run.snapshotInProgress with
  | some j =>
    if j.saved then none
    else if j.applied ≤ s.run.storeSnapIndex then
      some (s.withRun fun r => { r with snapshotInProgress := some { j with saved := true } })
    else if ok then
      some ({ s with disk := { s.disk with snaps := s.disk.snaps ++ [(⟨j.applied, s.run.loggerKey⟩ : SnapFile)] } }.withRun
        fun r => { r with storeSnapIndex := j.applied,
                          snapshotInProgress := some { j with metaIndex := j.applied, saved := true } })
    else
      some (s.withRun fun r => { r with storeSnapIndex := j.applied,
                                        snapshotInProgress := some { j with saved := true } })
  | none => none

/-- The `snapshotInProgress` branch: a newer snapshot becomes the
node's and older ones are collected; rotation completion; a queued
rotation snapshots again if it needs to. -/
def snapshotDone (keep : Nat) (fresh : Key) (s : State) : Option State :=
  match s.run.snapshotInProgress with
  | some j =>
    if j.saved then
      let s := if s.run.snapshotIndex < j.metaIndex then (s.withRun fun r => { r with snapshotIndex := j.metaIndex }).gc j.metaIndex keep
        else s
      let s := (s.withRun fun r => { r with snapshotInProgress := none }).maybeMarkRotationFinished
      if s.run.rotationQueued then
        match s.needsSnapshot fresh with
        | (s, true) => some (s.withRun fun r => { r with rotationQueued := false }).triggerSnapshot
        | (s, false) => some s
      else some s
    else none
  | none => none

/-- `RotationNotify`: queue the rotation behind a running snapshot, or
snapshot now if one is needed. -/
def rotationNotify (fresh : Key) (s : State) : Option State :=
  match s.run.snapshotInProgress with
  | some _ => some (s.withRun fun r => { r with rotationQueued := true })
  | none =>
    match s.needsSnapshot fresh with
    | (s, true) => some s.triggerSnapshot
    | (s, false) => some s

/-- A rotation is requested (`NeedsRotation` set in the headers). -/
def requestRotation (s : State) : Option State :=
  some { s with disk := { s.disk with headers := { s.disk.headers with needsRotation := true } } }

/-- A crash and a restart: the memory is rebuilt from disk; a node whose
disk cannot be read does not start. -/
def restart (s : State) : Option State :=
  match readFromDisk s.disk with
  | .ok (d, r) => some ⟨d, r⟩
  | .error _ => none

end State

/-- One event, with the environment's choices in it. -/
inductive Act where
  | append (fromIdx count : Nat)
  | commitTo (c : Nat)
  | apply (k : Nat)
  | leaderSnapshot (idx keep : Nat)
  | readyEnd (fresh : Key)
  | snapshotSave (ok : Bool)
  | snapshotDone (keep : Nat) (fresh : Key)
  | rotationNotify (fresh : Key)
  | requestRotation
  | restart
  deriving DecidableEq, Repr

/-- One step, under the configured `SnapshotInterval`. -/
def step (snapshotInterval : Nat) : Act → State → Option State
  | .append fromIdx count => State.append fromIdx count
  | .commitTo c => State.commitTo c
  | .apply k => State.apply k
  | .leaderSnapshot idx keep => State.leaderSnapshot idx keep
  | .readyEnd fresh => State.readyEnd snapshotInterval fresh
  | .snapshotSave ok => State.snapshotSave ok
  | .snapshotDone keep fresh => State.snapshotDone keep fresh
  | .rotationNotify fresh => State.rotationNotify fresh
  | .requestRotation => State.requestRotation
  | .restart => State.restart

end SwarmKit.Raft.Rotation
