import Mathlib.Data.List.Basic

/-
Garbage collection of a raft node's snapshot and WAL files
(manager/state/raft/storage/storage.go `EncryptedRaftLogger.GC`;
snapwrap.go `ListSnapshots`; walwrap.go `ListWALs`).

# The files

A snapshot file is named `%016x-%016x.snap` from its term and index, a
WAL file `%016x-%016x.wal` from its sequence number and the raft index
it starts at. The names are of fixed width, so their lexical order is
the order of the number pairs, which is what the model compares.
`listSnapshots` lists a directory's snapshots newest first, `listWALs`
its WAL files oldest first. A directory holds a name at most once
(`Dir`).

# GC

`GC(index, term, keepOldSnapshots)` walks the snapshots newest first.
Once it has met the current snapshot, the one named from `term` and
`index`, it removes every snapshot more than `keepOldSnapshots` places
after it; the last snapshot it does not try to remove is the oldest one
kept. A failed removal is remembered and the walk goes on; GC then
returns the first such error and touches no WAL file. Otherwise it
finds the first WAL file that starts at or after the oldest kept
snapshot's index and removes the WAL files more than one place before
it (all but the last one when there is none), stopping at the first
file it cannot lock or remove.

# Reading the source

Whether the file system removes, or locks, a file is `FileOps`.
Reading the directories does not fail here, and every name the two
listings return is well formed, so the two `Sscanf` errors are left
out. `sort.Sort` is not stable, but distinct names have one sorted
order, the one `List.mergeSort` computes.
-/

namespace SwarmKit.Raft.Storage

-- ======================= the files

/-- A snapshot file's name: `%016x-%016x.snap` of its term and index. -/
structure SnapName where
  term : Nat
  index : Nat
  deriving DecidableEq, Repr

/-- A WAL file's name: `%016x-%016x.wal` of its sequence number and the
index it starts at. -/
structure WalName where
  seq : Nat
  index : Nat
  deriving DecidableEq, Repr

/-- A directory's files, each name once. -/
structure Dir (α : Type) where
  files : List α
  nodup : files.Nodup

/-- `os.Remove` of one of the directory's files. -/
def Dir.remove {α : Type} [DecidableEq α] (d : Dir α) (f : α) : Dir α :=
  ⟨d.files.erase f, d.nodup.erase f⟩

/-- `a`'s name sorts at or after `b`'s. -/
def SnapName.newerEq (a b : SnapName) : Bool :=
  decide (b.term < a.term ∨ b.term = a.term ∧ b.index ≤ a.index)

/-- `a`'s name sorts at or before `b`'s. -/
def WalName.olderEq (a b : WalName) : Bool :=
  decide (a.seq < b.seq ∨ a.seq = b.seq ∧ a.index ≤ b.index)

/-- `ListSnapshots(dirpath)`: in reverse lexical order, newest first. -/
def listSnapshots (snapDir : Dir SnapName) : List SnapName :=
  snapDir.files.mergeSort SnapName.newerEq

/-- `ListWALs(dirpath)`: in lexical order, oldest first. -/
def listWALs (walDir : Dir WalName) : List WalName :=
  walDir.files.mergeSort WalName.olderEq

/-- Whether the file system does what it is asked, file by file. -/
structure FileOps where
  removeSnap : SnapName → Bool
  lockWAL : WalName → Bool
  removeWAL : WalName → Bool

/-- The errors `GC` returns. -/
inductive GCErr
  /-- the first error of `os.Remove` on an old snapshot -/
  | removeSnapshot (name : SnapName)
  /-- "could not lock old WAL file %s for removal" -/
  | lockWAL (name : WalName)
  /-- "error removing old WAL file %s" -/
  | removeWAL (name : WalName)
  deriving DecidableEq, Repr

-- =============== the snapshot loop

/-- The variables of `GC`'s snapshot loop; `-1` and `""` as Go has them
are `-1` and `none`. -/
structure SnapLoop where
  curSnapshotIdx : Int
  removeErr : Option SnapName
  oldestSnapshot : Option SnapName
  snapDir : Dir SnapName

/-- One iteration of the snapshot loop, on the `i`-th snapshot listed. -/
def snapLoopStep (fs : FileOps) (curSnapshot : SnapName) (keepOldSnapshots : Nat) (s : SnapLoop)
    (p : SnapName × Nat) : SnapLoop :=
  let snapFile := p.1
  let i : Int := p.2
  if 0 ≤ s.curSnapshotIdx ∧ s.curSnapshotIdx < i then
    if (keepOldSnapshots : Int) < i - s.curSnapshotIdx then
      -- removed, or its error kept when it is the first; then `continue`
      if fs.removeSnap snapFile then { s with snapDir := s.snapDir.remove snapFile }
      else { s with removeErr := s.removeErr.or (some snapFile) }
    else { s with oldestSnapshot := some snapFile }
  else if snapFile = curSnapshot then { s with curSnapshotIdx := i, oldestSnapshot := some snapFile }
  else { s with oldestSnapshot := some snapFile }

-- ==================== the WAL loop

/-- `deleteUntil`: one before the first WAL file starting at or after
`snapIndex`, or the last WAL file when none does. -/
def deleteUntil (snapIndex : Nat) (wals : List WalName) : Int :=
  match wals.findIdx? (fun w => decide (snapIndex ≤ w.index)) with
  | some i => (i : Int) - 1
  | none => if wals.length ≠ 0 then (wals.length : Int) - 1 else -1

/-- The loop removing `wals[:deleteUntil]`, which returns at the first
file it cannot lock or remove. -/
def removeWALs (fs : FileOps) : List WalName → Dir WalName → Dir WalName × Option GCErr
  | [], walDir => (walDir, none)
  | w :: ws, walDir =>
    if !fs.lockWAL w then (walDir, some (.lockWAL w))
    else if !fs.removeWAL w then (walDir, some (.removeWAL w))
    else removeWALs fs ws (walDir.remove w)

-- ============================== GC

/-- The snapshot loop of `GC` over the listed snapshots. -/
def snapLoop (fs : FileOps) (index term keepOldSnapshots : Nat) (snapDir : Dir SnapName) : SnapLoop :=
  (listSnapshots snapDir).zipIdx.foldl (snapLoopStep fs ⟨term, index⟩ keepOldSnapshots)
    ⟨-1, none, none, snapDir⟩

/-- `GC(index, term, keepOldSnapshots)`: the two directories after it,
and the error it returns. -/
def gc (fs : FileOps) (index term keepOldSnapshots : Nat) (snapDir : Dir SnapName)
    (walDir : Dir WalName) : Dir SnapName × Dir WalName × Option GCErr :=
  let s := snapLoop fs index term keepOldSnapshots snapDir
  match s.removeErr with
  | some snapFile => (s.snapDir, walDir, some (.removeSnapshot snapFile))
  | none =>
    match s.oldestSnapshot with
    | none => (s.snapDir, walDir, none)
    | some oldestSnapshot =>
      let wals := listWALs walDir
      let r := removeWALs fs (wals.take (deleteUntil oldestSnapshot.index wals).toNat) walDir
      (s.snapDir, r.1, r.2)

end SwarmKit.Raft.Storage
