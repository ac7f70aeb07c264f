import SwarmKit.Raft.Storage
import Mathlib.Data.List.Nodup

/-
What `GC` keeps of a raft node's snapshots and WAL files
(`Storage.lean`).

# The snapshot loop

The walk falls into stretches, one lemma each: before the current
snapshot and for the `keepOldSnapshots` snapshots after it, a step only
records the snapshot as the oldest so far (`foldl_snapLoopStep_marks`);
past them, every step removes its snapshot or keeps the first error
(`foldl_snapLoopStep_removes`). Hence the loop's closed forms: without
the current snapshot it changes nothing (`snapLoop_of_not_mem`); with
it at place `c`, it removes exactly the snapshots past place
`c + keepOldSnapshots` that the file system removes
(`snapLoop_of_getElem`), and when they all go, its `oldestSnapshot` is
the oldest snapshot left (`snapLoop_oldest_kept`).

# The WAL loop

A WAL file before `deleteUntil` is followed by one that starts below
the snapshot's index (`lt_deleteUntil`), so neither the last WAL file
starting at or below it nor any after it is removed. Together:
`gc_keeps_recoverable`.
-/

namespace SwarmKit.Raft.Storage

-- ===================== directories

section Dirs

variable {α : Type} [DecidableEq α]

theorem Dir.remove_files (d : Dir α) (f : α) : (d.remove f).files = d.files.filter (· ≠ f) := by
  show d.files.erase f = _
  rw [d.nodup.erase_eq_filter]
  congr 1
  funext x
  by_cases hx : x = f <;> simp [hx]

/-- Removing a list of files leaves the others. -/
theorem Dir.foldl_remove_files (l : List α) (d : Dir α) :
    (l.foldl Dir.remove d).files = d.files.filter (· ∉ l) := by
  induction l generalizing d with
  | nil => simp
  | cons f l ih =>
    rw [List.foldl_cons, ih, Dir.remove_files, List.filter_filter]
    congr 1
    funext x
    by_cases hx : x = f <;> simp [hx]

end Dirs

-- ====================== list facts

section Lists

variable {β : Type} {l : List β}

/-- In a list without repeats, an element is in the first `n` exactly
when its place is before `n`. -/
theorem getElem_mem_take_iff (h : l.Nodup) {j n : Nat} (hj : j < l.length) :
    l[j] ∈ l.take n ↔ j < n := by
  constructor
  · intro hmem
    obtain ⟨i, hi, hij⟩ := List.mem_take_iff_getElem.mp hmem
    have := (@List.Nodup.getElem_inj_iff _ _ h i (by omega) j hj).mp hij
    omega
  · intro hjn
    exact List.mem_take_iff_getElem.mpr ⟨j, by omega, rfl⟩

theorem getElem_mem_drop_iff (h : l.Nodup) {j n : Nat} (hj : j < l.length) :
    l[j] ∈ l.drop n ↔ n ≤ j := by
  constructor
  · intro hmem
    obtain ⟨i, hi, hij⟩ := List.mem_drop_iff_getElem.mp hmem
    have := (@List.Nodup.getElem_inj_iff _ _ h (n + i) (by omega) j hj).mp hij
    omega
  · intro hjn
    exact List.mem_drop_iff_getElem.mpr ⟨j - n, by omega, by simp only [Nat.add_sub_cancel' hjn]⟩

/-- The elements of a list without repeats that are not in its tail
from `n` on are its first `n`. -/
theorem filter_not_mem_drop (h : l.Nodup) (n : Nat) [DecidableEq β] :
    l.filter (· ∉ l.drop n) = l.take n := by
  conv_lhs => rw [← List.take_append_drop n l]
  rw [List.filter_append, List.filter_eq_self.mpr, List.filter_eq_nil_iff.mpr, List.append_nil]
  · intro a ha
    simpa using ha
  · intro a ha
    simpa using List.disjoint_take_drop h (Nat.le_refl n) ha

end Lists

/-- The oldest snapshot of a listing still in the directory. -/
def oldestKept (snapshots : List SnapName) (snapDir : Dir SnapName) : Option SnapName :=
  (snapshots.filter (· ∈ snapDir.files)).getLast?

-- ==================== the listings

theorem listSnapshots_perm (snapDir : Dir SnapName) : (listSnapshots snapDir).Perm snapDir.files :=
  List.mergeSort_perm _ _

theorem listSnapshots_nodup (snapDir : Dir SnapName) : (listSnapshots snapDir).Nodup :=
  (listSnapshots_perm snapDir).nodup_iff.2 snapDir.nodup

theorem listWALs_perm (walDir : Dir WalName) : (listWALs walDir).Perm walDir.files :=
  List.mergeSort_perm _ _

theorem listWALs_nodup (walDir : Dir WalName) : (listWALs walDir).Nodup :=
  (listWALs_perm walDir).nodup_iff.2 walDir.nodup

-- =============== the snapshot loop

section Loop

variable {fs : FileOps} {cur : SnapName} {k : Nat}

/-- The steps that only record their snapshot as the oldest so far:
before the current snapshot, or within `k` places after it. -/
def Marks (cur : SnapName) (k : Nat) (ci : Int) (p : SnapName × Nat) : Prop :=
  (0 ≤ ci ∧ ci < p.2 ∧ ¬(k : Int) < p.2 - ci) ∨ (¬(0 ≤ ci ∧ ci < p.2) ∧ p.1 ≠ cur)

theorem snapLoopStep_of_marks (s : SnapLoop) (p : SnapName × Nat) (h : Marks cur k s.curSnapshotIdx p) :
    snapLoopStep fs cur k s p = { s with oldestSnapshot := some p.1 } := by
  unfold snapLoopStep
  rcases h with ⟨h0, hlt, hk⟩ | ⟨hafter, hne⟩
  · rw [if_pos ⟨h0, hlt⟩, if_neg hk]
  · rw [if_neg hafter, if_neg hne]

theorem snapLoopStep_of_cur (s : SnapLoop) (p : SnapName × Nat)
    (h : ¬(0 ≤ s.curSnapshotIdx ∧ s.curSnapshotIdx < p.2)) (hcur : p.1 = cur) :
    snapLoopStep fs cur k s p = { s with curSnapshotIdx := p.2, oldestSnapshot := some p.1 } := by
  unfold snapLoopStep
  rw [if_neg h, if_pos hcur]

theorem snapLoopStep_of_removes (s : SnapLoop) (p : SnapName × Nat)
    (h : 0 ≤ s.curSnapshotIdx ∧ s.curSnapshotIdx < p.2) (hk : (k : Int) < p.2 - s.curSnapshotIdx) :
    snapLoopStep fs cur k s p =
      if fs.removeSnap p.1 then { s with snapDir := s.snapDir.remove p.1 }
      else { s with removeErr := s.removeErr.or (some p.1) } := by
  unfold snapLoopStep
  rw [if_pos h, if_pos hk]

theorem getLast?_cons_or {β : Type} (a : β) (l : List β) (o : Option β) :
    (a :: l).getLast?.or o = l.getLast?.or (some a) := by
  rw [List.getLast?_cons]
  cases l.getLast? <;> rfl

/-- A stretch of marking steps: the oldest so far is its last snapshot. -/
theorem foldl_snapLoopStep_marks (l : List SnapName) (n : Nat) (s : SnapLoop)
    (h : ∀ p ∈ l.zipIdx n, Marks cur k s.curSnapshotIdx p) :
    (l.zipIdx n).foldl (snapLoopStep fs cur k) s = { s with oldestSnapshot := l.getLast?.or s.oldestSnapshot } := by
  induction l generalizing n s with
  | nil => rfl
  | cons a l ih =>
    rw [List.zipIdx_cons, List.foldl_cons, snapLoopStep_of_marks s (a, n) (h _ List.mem_cons_self),
      ih (n + 1) { s with oldestSnapshot := some a } fun p hp => h p (List.mem_cons_of_mem _ hp),
      getLast?_cons_or]

/-- Past the kept ones, every step removes its snapshot or keeps the
first error. -/
theorem foldl_snapLoopStep_removes (l : List SnapName) (n : Nat) (s : SnapLoop) (c : Nat)
    (hci : s.curSnapshotIdx = c) (hn : l ≠ [] → c + k < n) :
    (l.zipIdx n).foldl (snapLoopStep fs cur k) s =
      { s with removeErr := s.removeErr.or (l.find? fun f => !fs.removeSnap f),
               snapDir := (l.filter fs.removeSnap).foldl Dir.remove s.snapDir } := by
  induction l generalizing n s with
  | nil =>
    simp only [List.find?_nil, Option.or_none, List.filter_nil, List.foldl_nil]
    rfl
  | cons a l ih =>
    have hpast := hn (List.cons_ne_nil a l)
    rw [List.zipIdx_cons, List.foldl_cons, snapLoopStep_of_removes s (a, n) (by omega) (by omega)]
    cases hok : fs.removeSnap a
    · rw [if_neg Bool.false_ne_true,
        ih (n + 1) { s with removeErr := s.removeErr.or (some a) } hci fun _ => by omega]
      simp [hok]
    · rw [if_pos rfl, ih (n + 1) { s with snapDir := s.snapDir.remove a } hci fun _ => by omega]
      simp [hok]

end Loop

section Closed

variable (fs : FileOps) (index term k : Nat) (snapDir : Dir SnapName)

theorem snapLoop_of_not_mem (h : (⟨term, index⟩ : SnapName) ∉ snapDir.files) :
    snapLoop fs index term k snapDir = ⟨-1, none, (listSnapshots snapDir).getLast?, snapDir⟩ := by
  unfold snapLoop
  rw [foldl_snapLoopStep_marks _ _ _ fun p hp => ?_]
  · simp
  · right
    refine ⟨fun h0 => by simp at h0, fun heq => h ?_⟩
    rw [← heq]
    exact (listSnapshots_perm snapDir).subset (List.fst_mem_of_mem_zipIdx hp)

/-- The listing around the current snapshot at place `c`: the ones
before it, the `k` kept after it, and the rest. -/
theorem listSnapshots_split {c : Nat} (hc : c < (listSnapshots snapDir).length) :
    listSnapshots snapDir = (listSnapshots snapDir).take c ++ (listSnapshots snapDir)[c] ::
      (((listSnapshots snapDir).drop (c + 1)).take k ++ (listSnapshots snapDir).drop (c + 1 + k)) := by
  have hsplit := List.take_append_drop c (listSnapshots snapDir)
  rw [List.drop_eq_getElem_cons hc,
    ← List.take_append_drop k (List.drop (c + 1) (listSnapshots snapDir)), List.drop_drop] at hsplit
  exact hsplit.symm

/-- With the current snapshot at place `c`: the loop removes those past
place `c + k` that the file system removes and keeps the first error,
and the oldest it saw is the last of the `k` after the current one, or
the current one. -/
theorem snapLoop_of_getElem {c : Nat} (hc : c < (listSnapshots snapDir).length)
    (hcur : (listSnapshots snapDir)[c] = ⟨term, index⟩) :
    snapLoop fs index term k snapDir =
      ⟨c, ((listSnapshots snapDir).drop (c + 1 + k)).find? (fun f => !fs.removeSnap f),
        (((listSnapshots snapDir).drop (c + 1)).take k).getLast?.or (some ⟨term, index⟩),
        (((listSnapshots snapDir).drop (c + 1 + k)).filter fs.removeSnap).foldl Dir.remove snapDir⟩ := by
  have hnodup := listSnapshots_nodup snapDir
  have hsplit := listSnapshots_split k snapDir hc
  rw [hcur] at hsplit
  unfold snapLoop
  set L := listSnapshots snapDir
  set W := (L.drop (c + 1)).take k
  set R := L.drop (c + 1 + k)
  have hlen : (L.take c).length = c := by simp only [List.length_take]; omega
  -- before the current snapshot, which is not among them
  have h₁ : ((L.take c).zipIdx 0).foldl (snapLoopStep fs ⟨term, index⟩ k) ⟨-1, none, none, snapDir⟩ =
      ⟨-1, none, (L.take c).getLast?, snapDir⟩ := by
    rw [foldl_snapLoopStep_marks _ _ _ fun p hp => Or.inr ⟨fun h0 => by simp at h0, fun heq => ?_⟩]
    · simp
    · have hmem := List.fst_mem_of_mem_zipIdx hp
      rw [heq, ← hcur] at hmem
      exact Nat.lt_irrefl c ((getElem_mem_take_iff hnodup hc).mp hmem)
  -- the `k` kept after it
  have h₃ : (W.zipIdx (c + 1)).foldl (snapLoopStep fs ⟨term, index⟩ k)
        ⟨c, none, some ⟨term, index⟩, snapDir⟩ =
      ⟨c, none, W.getLast?.or (some ⟨term, index⟩), snapDir⟩ := by
    refine foldl_snapLoopStep_marks _ _ _ fun ⟨f, j⟩ hp => Or.inl ?_
    obtain ⟨hlo, hhi, -⟩ := List.mem_zipIdx hp
    have hW : W.length ≤ k := List.length_take_le _ _
    dsimp only
    omega
  -- past them
  have h₄ : (R.zipIdx (c + 1 + W.length)).foldl (snapLoopStep fs ⟨term, index⟩ k)
        ⟨c, none, W.getLast?.or (some ⟨term, index⟩), snapDir⟩ =
      ⟨c, R.find? (fun f => !fs.removeSnap f), W.getLast?.or (some ⟨term, index⟩),
        (R.filter fs.removeSnap).foldl Dir.remove snapDir⟩ := by
    rw [foldl_snapLoopStep_removes _ _ _ c rfl fun hR => ?_]
    · simp
    · have hlong : c + 1 + k < L.length := by
        by_contra hshort
        exact hR (List.drop_eq_nil_of_le (by omega))
      have hW : W.length = k := by simp only [W, List.length_take, List.length_drop]; omega
      omega
  conv_lhs => rw [hsplit]
  rw [List.zipIdx_append, List.foldl_append, h₁, hlen, Nat.zero_add, List.zipIdx_cons, List.foldl_cons,
    @snapLoopStep_of_cur fs ⟨term, index⟩ k _ (⟨term, index⟩, c) (fun h0 => by simp at h0) rfl,
    List.zipIdx_append, List.foldl_append]
  dsimp only
  rw [h₃, h₄]

/-- When every removal went through, the oldest snapshot the loop saw
is the oldest one left. -/
theorem snapLoop_oldest_kept (h : (snapLoop fs index term k snapDir).removeErr = none) :
    oldestKept (listSnapshots snapDir) (snapLoop fs index term k snapDir).snapDir =
      (snapLoop fs index term k snapDir).oldestSnapshot := by
  have hperm := listSnapshots_perm snapDir
  by_cases hmem : (⟨term, index⟩ : SnapName) ∈ snapDir.files
  · obtain ⟨c, hc, hcur⟩ := List.getElem_of_mem (hperm.mem_iff.2 hmem)
    rw [snapLoop_of_getElem fs index term k snapDir hc hcur] at h ⊢
    dsimp only at h ⊢
    -- every snapshot past the kept ones is gone
    have hall : ((listSnapshots snapDir).drop (c + 1 + k)).filter fs.removeSnap =
        (listSnapshots snapDir).drop (c + 1 + k) :=
      List.filter_eq_self.mpr fun f hf => by simpa using List.find?_eq_none.mp h f hf
    -- so the listing keeps its first `c + 1 + k`
    have hleft : (listSnapshots snapDir).filter
        (· ∈ snapDir.files.filter (· ∉ (listSnapshots snapDir).drop (c + 1 + k))) =
        (listSnapshots snapDir).take (c + 1 + k) := by
      rw [← filter_not_mem_drop (listSnapshots_nodup snapDir)]
      refine List.filter_congr fun f hf => ?_
      simp [hperm.subset hf]
    rw [oldestKept, hall, Dir.foldl_remove_files, hleft, List.take_add, List.getLast?_append,
      List.getLast?_take (i := c + 1) (l := listSnapshots snapDir), if_neg (Nat.succ_ne_zero c), Nat.add_sub_cancel, List.getElem?_eq_getElem hc,
      hcur]
    rfl
  · rw [snapLoop_of_not_mem fs index term k snapDir hmem, oldestKept,
      List.filter_eq_self.mpr fun f hf => by simpa using hperm.subset hf]

end Closed

-- ==================== the WAL loop

/-- A WAL file before `deleteUntil` is followed by one that starts
below the snapshot's index. -/
theorem lt_deleteUntil {snapIndex : Nat} {wals : List WalName} {j : Nat}
    (hj : (j : Int) < deleteUntil snapIndex wals) :
    ∃ h : j + 1 < wals.length, wals[j + 1].index < snapIndex := by
  unfold deleteUntil at hj
  split at hj
  · rename_i i hi
    obtain ⟨hlt, -, hbefore⟩ := List.findIdx?_eq_some_iff_getElem.mp hi
    refine ⟨by omega, ?_⟩
    simpa using hbefore (j + 1) (by omega)
  · rename_i hnone
    split at hj
    · refine ⟨by omega, ?_⟩
      simpa using List.findIdx?_eq_none_iff.mp hnone _ (List.getElem_mem (by omega))
    · omega

/-- Hence no WAL file is removed at or after one past which every WAL
file starts above the snapshot's index. -/
theorem not_mem_take_deleteUntil {wals : List WalName} (hnodup : wals.Nodup) {snapIndex m : Nat}
    (hmax : ∀ m' (h : m' < wals.length), m < m' → snapIndex < wals[m'].index)
    {j : Nat} (hj : j < wals.length) (hmj : m ≤ j) :
    wals[j] ∉ wals.take (deleteUntil snapIndex wals).toNat := by
  rw [getElem_mem_take_iff hnodup hj, Int.lt_toNat]
  intro hlt
  obtain ⟨h1, hidx⟩ := lt_deleteUntil hlt
  have := hmax (j + 1) h1 (by omega)
  omega

/-- The removal loop removes only files it was given. -/
theorem mem_removeWALs (fs : FileOps) (ws : List WalName) (walDir : Dir WalName) {w : WalName}
    (hw : w ∈ walDir.files) (hnot : w ∉ ws) : w ∈ (removeWALs fs ws walDir).1.files := by
  induction ws generalizing walDir with
  | nil => exact hw
  | cons x xs ih =>
    have hne : w ≠ x := fun h => hnot (h ▸ List.mem_cons_self)
    unfold removeWALs
    split
    · exact hw
    split
    · exact hw
    exact ih _ (List.mem_erase_of_ne hne |>.mpr hw) fun h => hnot (List.mem_cons_of_mem x h)

-- ============================== GC

section GC

variable (fs : FileOps) (index term k : Nat) (snapDir : Dir SnapName) (walDir : Dir WalName)

/-- What `GC` leaves: the snapshot loop's directory, and the WAL
directory as it was or after the removal loop. -/
theorem gc_cases :
    (gc fs index term k snapDir walDir).1 = (snapLoop fs index term k snapDir).snapDir ∧
      ((gc fs index term k snapDir walDir).2.1 = walDir ∨
        ∃ o, (snapLoop fs index term k snapDir).removeErr = none ∧
          (snapLoop fs index term k snapDir).oldestSnapshot = some o ∧
          (gc fs index term k snapDir walDir).2.1 =
            (removeWALs fs ((listWALs walDir).take (deleteUntil o.index (listWALs walDir)).toNat)
              walDir).1) := by
  unfold gc
  dsimp only
  split
  · exact ⟨rfl, .inl rfl⟩
  · rename_i herr
    split
    · exact ⟨rfl, .inl rfl⟩
    · rename_i o ho
      exact ⟨rfl, .inr ⟨o, herr, ho, rfl⟩⟩

end GC

theorem gc_keeps_recoverable (fs : FileOps) (index term keepOldSnapshots : Nat)
    (snapDir : Dir SnapName) (walDir : Dir WalName) :
    ((⟨term, index⟩ : SnapName) ∉ snapDir.files →
      (gc fs index term keepOldSnapshots snapDir walDir).1 = snapDir) ∧
    (∀ c (hc : c < (listSnapshots snapDir).length), (listSnapshots snapDir)[c] = ⟨term, index⟩ →
      ∀ j (hj : j < (listSnapshots snapDir).length),
        (j ≤ c + keepOldSnapshots →
          (listSnapshots snapDir)[j] ∈ (gc fs index term keepOldSnapshots snapDir walDir).1.files) ∧
        (c + keepOldSnapshots < j → fs.removeSnap (listSnapshots snapDir)[j] = true →
          (listSnapshots snapDir)[j] ∉ (gc fs index term keepOldSnapshots snapDir walDir).1.files)) ∧
    ∀ o, oldestKept (listSnapshots snapDir) (gc fs index term keepOldSnapshots snapDir walDir).1 = some o →
      ∀ m (hm : m < (listWALs walDir).length), (listWALs walDir)[m].index ≤ o.index →
      (∀ m' (hm' : m' < (listWALs walDir).length), m < m' → o.index < (listWALs walDir)[m'].index) →
      ∀ j (hj : j < (listWALs walDir).length), m ≤ j →
        (listWALs walDir)[j] ∈ (gc fs index term keepOldSnapshots snapDir walDir).2.1.files := by
  obtain ⟨hfst, hwal⟩ := gc_cases fs index term keepOldSnapshots snapDir walDir
  have hnodup := listSnapshots_nodup snapDir
  refine ⟨fun hmem => ?_, fun c hc hcur j hj => ?_, fun o ho m _ _ hmax j hj hmj => ?_⟩
  · rw [hfst, snapLoop_of_not_mem fs index term keepOldSnapshots snapDir hmem]
  · rw [hfst, snapLoop_of_getElem fs index term keepOldSnapshots snapDir hc hcur]
    dsimp only
    rw [Dir.foldl_remove_files, List.mem_filter, decide_eq_true_eq, List.mem_filter]
    constructor
    · -- within the kept ones: not past them, so not removed
      intro hjk
      have hkept : (listSnapshots snapDir)[j] ∉ (listSnapshots snapDir).drop (c + 1 + keepOldSnapshots) := by
        rw [getElem_mem_drop_iff hnodup hj]
        omega
      exact ⟨(listSnapshots_perm snapDir).subset (List.getElem_mem hj), fun h => hkept h.1⟩
    · -- past them, and the file system removed it
      intro hjk hok hleft
      have hpast : (listSnapshots snapDir)[j] ∈ (listSnapshots snapDir).drop (c + 1 + keepOldSnapshots) := by
        rw [getElem_mem_drop_iff hnodup hj]
        omega
      exact hleft.2 ⟨hpast, hok⟩
  · have hw := (listWALs_perm walDir).subset (List.getElem_mem hj)
    rcases hwal with hsame | ⟨o', herr, ho', hrem⟩
    · rw [hsame]
      exact hw
    · -- the WAL loop ran from the oldest kept snapshot
      have hoo : o' = o := by
        rw [hfst, snapLoop_oldest_kept fs index term keepOldSnapshots snapDir herr, ho'] at ho
        exact Option.some.inj ho
      subst hoo
      rw [hrem]
      exact mem_removeWALs fs _ walDir hw (not_mem_take_deleteUntil (listWALs_nodup walDir) hmax hj hmj)

end SwarmKit.Raft.Storage
