import SwarmKit.Raft.Rotation

/-
What the raft DEK rotation leaves readable (`Rotation.lean`).

# The wait index

A rotation moves the logger onto the pending DEK and waits for a
snapshot at `waitForAppliedIndex`, the last index written with the old
DEK; the snapshot is written with the new DEK, and once it exists the
old DEK is dropped from the headers. That is safe only if no WAL record
above the snapshot still carries the old DEK when the disk is next read.

`wal.ReadAll` returns records of entries that raft has since
overwritten: a record is cut off only by a later record of a lower or
equal index above the snapshot (`readAll_mem_of_last`), so a record that
no later one overwrites is decrypted at every read
(`readFromDisk_stale`), whatever the raft log says about it.

# The restart

While the node runs, `writtenWALIndex` only grows and bounds every
record it wrote. A restart sets it to the raft store's last index,
which after raft overwrote a tail with fewer entries is below the
overwritten records still in the WAL. A rotation started after such a
restart waits for too low an index, completes on a snapshot below the
stale records and drops their DEK: `rotation_strands_old_entries` is
such a run, from an empty node, for every `SnapshotInterval`.
-/

namespace SwarmKit.Raft.Rotation

-- ==================== reading back

/-- An entry read at position `p` stays there while every later record
lies at or below the snapshot or above the entry's index. Induction on
the remaining records. -/
theorem readAll_getElem? {start p : Nat} {r : Record} :
    ∀ (rs ents out : List Record), readAll start ents rs = .ok out → ents[p]? = some r →
      (∀ q ∈ rs, q.index ≤ start ∨ start + 1 + p < q.index) → out[p]? = some r := by
  intro rs
  induction rs with
  | nil =>
      intro ents out h hp _
      cases h
      exact hp
  | cons q rs ih =>
      intro ents out h hp hq
      have hrest : ∀ q' ∈ rs, q'.index ≤ start ∨ start + 1 + p < q'.index :=
        fun q' hq' => hq q' (List.mem_cons_of_mem q hq')
      unfold readAll at h
      by_cases hs : start < q.index
      · rw [if_pos hs] at h
        by_cases hlen : ents.length < q.index - start - 1
        · rw [if_pos hlen] at h
          cases h
        · rw [if_neg hlen] at h
          -- the cut is above `p`: the entry keeps its position
          have hcut : p < q.index - start - 1 := by
            rcases hq q List.mem_cons_self with h' | h' <;> omega
          have hpl : p < ents.length := (List.getElem?_eq_some_iff.mp hp).1
          refine ih _ out h ?_ hrest
          rw [List.getElem?_append_left (by simp; omega), List.getElem?_take_of_lt hcut, hp]
      · rw [if_neg hs] at h
        exact ih ents out h hp hrest

/-- A record above the snapshot that no later record overwrites is
among the entries `ReadAll` returns. Induction on the records before
it. -/
theorem readAll_mem_of_last {start : Nat} {r : Record} (hr : start < r.index)
    (post : List Record) (hpost : ∀ q ∈ post, q.index ≤ start ∨ r.index < q.index) :
    ∀ (pre ents out : List Record), readAll start ents (pre ++ r :: post) = .ok out → r ∈ out := by
  intro pre
  induction pre with
  | nil =>
      intro ents out h
      simp only [List.nil_append, readAll, if_pos hr] at h
      by_cases hlen : ents.length < r.index - start - 1
      · rw [if_pos hlen] at h
        cases h
      · rw [if_neg hlen] at h
        -- the record lands at position `r.index - start - 1`
        have hk : (ents.take (r.index - start - 1)).length = r.index - start - 1 :=
          List.length_take_of_le (by omega)
        have hat : (ents.take (r.index - start - 1) ++ [r])[r.index - start - 1]? = some r := by
          rw [List.getElem?_append_right (by omega), hk, Nat.sub_self]
          rfl
        refine List.mem_of_getElem? (readAll_getElem? post _ out h hat ?_)
        intro q hq
        rcases hpost q hq with h' | h' <;> omega
  | cons q pre ih =>
      intro ents out h
      simp only [List.cons_append, readAll] at h
      split_ifs at h
      · exact ih _ out h
      · exact ih ents out h

-- =================== stale records

/-- A disk whose WAL holds, above the newest snapshot, a record that no
later record overwrites cannot be read without that record's DEK. -/
theorem bootstrapFromDisk_stale {keys : List Key} {d : Disk} {s : SnapFile} {r : Record}
    {pre post : List Record} (hs : newestSnap d.snaps = some s) (hwal : d.wal = pre ++ r :: post)
    (hr : s.index < r.index) (hpost : ∀ q ∈ post, q.index ≤ s.index ∨ r.index < q.index)
    (hkey : r.key ∉ keys) (x : Nat × List Record) : bootstrapFromDisk keys d ≠ .ok x := by
  intro h
  unfold bootstrapFromDisk at h
  rw [hs] at h
  dsimp only at h
  by_cases hsk : s.key ∈ keys
  · rw [if_pos hsk] at h
    unfold bootstrapFromDisk.entries at h
    cases hra : readAll s.index [] d.wal with
    | error e => rw [hra] at h; cases h
    | ok ents =>
        rw [hra] at h
        dsimp only at h
        have hmem : r ∈ ents := readAll_mem_of_last hr post hpost pre [] ents (hwal ▸ hra)
        have hall : ents.all (·.key ∈ keys) = true := by
          by_contra hn
          rw [if_neg hn] at h
          cases h
        exact hkey (by simpa using List.all_eq_true.mp hall r hmem)
  · rw [if_neg hsk] at h
    cases h

/-- **Such a disk is not readable with the DEKs in its headers.** With
a WAL record above the newest snapshot that no later record overwrites,
under a DEK that is neither the current nor the pending one,
`readFromDisk` fails on each of its attempts. -/
theorem readFromDisk_stale {d : Disk} {s : SnapFile} {r : Record} {pre post : List Record}
    (hs : newestSnap d.snaps = some s) (hwal : d.wal = pre ++ r :: post) (hr : s.index < r.index)
    (hpost : ∀ q ∈ post, q.index ≤ s.index ∨ r.index < q.index)
    (hcur : r.key ≠ d.headers.currentDEK) (hpend : d.headers.pendingDEK ≠ some r.key)
    (x : Disk × RunState) : readFromDisk d ≠ .ok x := by
  have stale := fun keys hkey => @bootstrapFromDisk_stale keys d s r pre post hs hwal hr hpost hkey
  unfold readFromDisk
  cases hp : d.headers.pendingDEK with
  | none =>
      cases hb : bootstrapFromDisk [d.headers.currentDEK] d with
      | error e => simp [Except.map]
      | ok y => exact absurd hb (stale _ (by simpa using hcur) y)
  | some p =>
      have hpr : r.key ∉ [p] := by
        intro hm
        exact hpend (by simp_all)
      cases hb : bootstrapFromDisk [p] d with
      | ok y => exact absurd hb (stale _ hpr y)
      | error e =>
          cases e with
          | sliceOutOfRange => simp [hb]
          | cannotDecrypt =>
              cases hb' : bootstrapFromDisk [p, d.headers.currentDEK] d with
              | error e' => simp [hb, hb', Except.map]
              | ok y => exact absurd hb' (stale _ (by simp_all) y)

-- ===================== the restart

/-- DEK 1 to DEK 2 across a restart: entries 1–10 are written, 5
committed and applied, a new leader overwrites 6–10 with two entries,
and the node restarts with `writtenWALIndex` 7. A rotation is then
requested and waits for index 7; entry 8 is written with DEK 2, applied
and snapshotted, which completes the rotation. -/
def staleRun : List Act :=
  [.append 1 10, .commitTo 5, .apply 5, .append 6 2, .restart, .requestRotation,
   .rotationNotify 2, .append 8 1, .commitTo 8, .apply 8, .readyEnd 3, .snapshotSave true,
   .snapshotDone 0 3]

/-- Where `staleRun` ends: DEK 2 alone in the headers, a DEK 2 snapshot
at 8, and the overwritten records 9 and 10 under DEK 1 in the WAL. -/
def stranded : State :=
  ⟨⟨⟨2, none, false⟩, [⟨8, 2⟩],
    ((List.range 10).map fun i => (⟨i + 1, 1⟩ : Record)) ++ [⟨6, 1⟩, ⟨7, 1⟩, ⟨8, 2⟩]⟩,
   ⟨2, 8, 8, 8, 0, none, false, 8, 8, 8⟩⟩

theorem rotation_strands_old_entries (snapshotInterval : Nat) :
    ∃ s, Lts.Reachable (step snapshotInterval) (State.init 1) s ∧
      s.disk.headers = ⟨2, none, false⟩ ∧ newestSnap s.disk.snaps = some ⟨8, 2⟩ ∧
      (⟨10, 1⟩ : Record) ∈ s.disk.wal ∧ readFromDisk s.disk = .error .cannotDecrypt := by
  -- the rotation snapshot is triggered by `needsSnapshot`, so the interval is never read
  have hrun : Lts.run (step snapshotInterval) (State.init 1) staleRun = some stranded := rfl
  refine ⟨stranded, Lts.reachable_of_run hrun, rfl, rfl, ?_, ?_⟩
  · decide
  · decide +kernel

end SwarmKit.Raft.Rotation
