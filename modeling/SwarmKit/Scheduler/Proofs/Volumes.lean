import SwarmKit.Scheduler.Volumes
import SwarmKit.Lib.AListTotal

/-
The scheduler's volume set (`Volumes.lean`): what its cache holds over a
run of events, and what `chooseTaskVolumes` does to its reservations.

# The cache

Every ID the indexes name has an entry (`Indexed`), from `newVolumeSet`
on, through every event and every reservation. An entry, once made, is
never changed by an event: over a run, the cached volume of an ID is the
first version of it that the loaded volumes and the updates offered
(`cached_volume_run`), and a volume is chosen only when that first
version was active (`chosen_first_offered_active`). Later updates and
deletions do not reach the entry, so a volume drained and then deleted
in the store is still chosen (`stale_volume_still_chosen`).

# The reservations

An entry is counted when each node's count is the number of its tasks on
that node (`VolumeInfo.Counted`). A reservation keeps that when the task
has no usage of the volume yet, a release always, so a run of calls that
never reserves a volume twice for a task keeps every entry counted
(`counted_run`). `chooseTaskVolumes` gives back every entry's tasks and
counts when the volumes its loop picks are distinct and the task had no
usage of them (`chooseTaskVolumes_restores`). A task whose mounts pick
one volume twice reserves it twice under one task entry, which the
releases then take out once: the count left behind is one no task
accounts for (`repeated_volume_leaks_count`).

# The method

Each call is read through one lemma that says what it does to the entry
at an ID (`reserveVolume_lookup`, `releaseVolume_lookup`,
`addOrUpdateVolume_lookup`); the invariants of entries are then lifted
to the set once (`All`), and the loops are inductions on their lists.
-/

namespace SwarmKit.Scheduler.Volumes

open VolumeSet

-- ========================== counts

theorem count_insert (nodes : AList fun _ : Nat => Int) (a : Nat) (x : Int) (n : Nat) :
    count (nodes.insert a x) n = if n = a then x else count nodes n := by
  by_cases h : n = a
  · subst h
    simp [count]
  · simp [count, AList.lookup_insert_ne h, h]

@[simp] theorem count_empty (n : Nat) : count ∅ n = 0 := rfl

/-- The number of the tasks of an entry that use it on node `n`. -/
def onNode (n : Nat) (tasks : AList fun _ : Nat => VolumeUsage) : Int :=
  tasks.total fun _ u => if u.nodeID = n then 1 else 0

theorem onNode_nonneg (n : Nat) (tasks : AList fun _ : Nat => VolumeUsage) : 0 ≤ onNode n tasks := by
  have h := AList.total_ite_eq_countP (R := Int) (fun _ (u : VolumeUsage) => u.nodeID = n) tasks
  unfold onNode
  rw [h]
  exact Int.natCast_nonneg _

-- ======================= one entry

/-- What `releaseVolume` makes of an entry: the release of the task's
usage, when it has one. -/
def VolumeInfo.releaseTask (taskID : Nat) (info : VolumeInfo) : VolumeInfo :=
  match info.tasks.lookup taskID with
  | none => info
  | some usage => info.release taskID usage

/-- Two entries agree on what reservations change: the volume, the tasks
and every node's count (a count of 0 and no count read alike). -/
def VolumeInfo.SameReservations (a b : VolumeInfo) : Prop :=
  a.volume = b.volume ∧ a.tasks = b.tasks ∧ ∀ n, count a.nodes n = count b.nodes n

theorem VolumeInfo.SameReservations.refl (a : VolumeInfo) : a.SameReservations a :=
  ⟨rfl, rfl, fun _ => rfl⟩

/-- No count of the entry is negative. -/
def VolumeInfo.NonNeg (info : VolumeInfo) : Prop := ∀ n, 0 ≤ count info.nodes n

/-- Each node's count is the number of the entry's tasks on the node. -/
def VolumeInfo.Counted (info : VolumeInfo) : Prop := ∀ n, count info.nodes n = onNode n info.tasks

theorem VolumeInfo.NonNeg.reserve {info : VolumeInfo} (h : info.NonNeg) (t n : Nat) (ro : Bool) :
    (info.reserve t n ro).NonNeg := by
  intro m
  simp only [VolumeInfo.reserve, count_insert]
  split_ifs
  · have := h n
    omega
  · exact h m

theorem VolumeInfo.NonNeg.release {info : VolumeInfo} (h : info.NonNeg) (t : Nat) (u : VolumeUsage) :
    (info.release t u).NonNeg := by
  intro m
  simp only [VolumeInfo.release]
  split_ifs with hpos
  · rw [count_insert]
    split_ifs
    · omega
    · exact h m
  · exact h m

theorem VolumeInfo.NonNeg.releaseTask {info : VolumeInfo} (h : info.NonNeg) (t : Nat) :
    (info.releaseTask t).NonNeg := by
  unfold VolumeInfo.releaseTask
  split
  · exact h
  · exact h.release t _

/-- A reservation of a task the entry has no usage of counts it once. -/
theorem VolumeInfo.Counted.reserve {info : VolumeInfo} (h : info.Counted) {t : Nat}
    (hfree : t ∉ info.tasks) (n : Nat) (ro : Bool) : (info.reserve t n ro).Counted := by
  intro m
  simp only [VolumeInfo.reserve, onNode, AList.total_insert_of_notMem _ _ hfree, count_insert]
  rw [← onNode, ← h m]
  by_cases hm : m = n
  · subst hm
    simp [add_comm]
  · simp [hm, Ne.symm hm]

/-- A release takes the task out and its node's count down by one: that
count is positive, since the task is one of those it counts. -/
theorem VolumeInfo.Counted.release {info : VolumeInfo} (h : info.Counted) {t : Nat}
    {u : VolumeUsage} (hu : info.tasks.lookup t = some u) : (info.release t u).Counted := by
  have hsplit : ∀ m, onNode m info.tasks =
      onNode m (info.tasks.erase t) + if u.nodeID = m then 1 else 0 :=
    fun m => AList.total_erase_add hu
  have hpos : count info.nodes u.nodeID > 0 := by
    have := onNode_nonneg u.nodeID (info.tasks.erase t)
    rw [h, hsplit, if_pos rfl]
    omega
  intro m
  simp only [VolumeInfo.release, if_pos hpos, count_insert]
  split_ifs with hm
  · subst hm
    rw [h, hsplit, if_pos rfl]
    omega
  · rw [h, hsplit, if_neg (Ne.symm hm), add_zero]

theorem VolumeInfo.Counted.releaseTask {info : VolumeInfo} (h : info.Counted) (t : Nat) :
    (info.releaseTask t).Counted := by
  unfold VolumeInfo.releaseTask
  split
  · exact h
  · exact h.release ‹_›

/-- A fresh reservation released again leaves the entry's reservations
as they were. -/
theorem VolumeInfo.releaseTask_reserve {info : VolumeInfo} {t n : Nat} {ro : Bool}
    (hfree : t ∉ info.tasks) (hn : info.NonNeg) :
    ((info.reserve t n ro).releaseTask t).SameReservations info := by
  have hu : (info.reserve t n ro).tasks.lookup t = some ⟨n, ro⟩ := AList.lookup_insert _
  have hr : (info.reserve t n ro).releaseTask t = (info.reserve t n ro).release t ⟨n, ro⟩ := by
    simp only [VolumeInfo.releaseTask, hu]
  have hc : count (info.nodes.insert n (count info.nodes n + 1)) n = count info.nodes n + 1 := by
    rw [count_insert, if_pos rfl]
  rw [hr]
  refine ⟨rfl, ?_, fun m => ?_⟩
  · -- the task's entry, inserted at a key the map did not have, is erased again
    apply AList.ext
    show List.kerase t (⟨t, ⟨n, ro⟩⟩ :: List.kerase t info.tasks.entries) = info.tasks.entries
    rw [List.kerase_cons_eq (a := t) (s := (⟨t, ⟨n, ro⟩⟩ : Σ _ : Nat, VolumeUsage)) rfl,
      List.kerase_of_notMem_keys hfree]
  · have := hn n
    simp only [VolumeInfo.release, VolumeInfo.reserve, hc]
    rw [if_pos (by omega), count_insert, count_insert]
    split_ifs with hm
    · subst hm
      omega
    · rfl

-- ======================= the calls

/-- `reserveVolume` reserves at its volume's entry and nowhere else. -/
theorem reserveVolume_lookup (vs : VolumeSet) (v t n : Nat) (ro : Bool) (id : Nat) :
    (vs.reserveVolume v t n ro).volumes.lookup id =
      if id = v then (vs.volumes.lookup id).map (VolumeInfo.reserve t n ro)
      else vs.volumes.lookup id := by
  unfold reserveVolume
  split
  next h =>
    split_ifs with hid
    · subst hid
      simp [h]
    · rfl
  next info h =>
    split_ifs with hid
    · subst hid
      simp [h]
    · exact AList.lookup_insert_ne hid

/-- `releaseVolume` releases at its volume's entry and nowhere else. -/
theorem releaseVolume_lookup (vs : VolumeSet) (v t id : Nat) :
    (vs.releaseVolume v t).volumes.lookup id =
      if id = v then (vs.volumes.lookup id).map (VolumeInfo.releaseTask t)
      else vs.volumes.lookup id := by
  unfold releaseVolume
  split
  next h =>
    split_ifs with hid
    · subst hid
      simp [h]
    · rfl
  next info h =>
    split
    next hu =>
      -- no usage: Go returns without writing the entry
      split_ifs with hid
      · subst hid
        simp [h, VolumeInfo.releaseTask, hu]
      · rfl
    next u hu =>
      split_ifs with hid
      · subst hid
        simp [h, VolumeInfo.releaseTask, hu]
      · exact AList.lookup_insert_ne hid

@[simp] theorem reserveVolume_byName (vs : VolumeSet) (v t n : Nat) (ro : Bool) :
    (vs.reserveVolume v t n ro).byName = vs.byName := by
  unfold reserveVolume
  split <;> rfl

@[simp] theorem reserveVolume_byGroup (vs : VolumeSet) (v t n : Nat) (ro : Bool) :
    (vs.reserveVolume v t n ro).byGroup = vs.byGroup := by
  unfold reserveVolume
  split <;> rfl

@[simp] theorem releaseVolume_byName (vs : VolumeSet) (v t : Nat) :
    (vs.releaseVolume v t).byName = vs.byName := by
  unfold releaseVolume
  split
  · rfl
  · split <;> rfl

@[simp] theorem releaseVolume_byGroup (vs : VolumeSet) (v t : Nat) :
    (vs.releaseVolume v t).byGroup = vs.byGroup := by
  unfold releaseVolume
  split
  · rfl
  · split <;> rfl

theorem mem_of_lookup_ite {vs vs' : VolumeSet} {v : Nat} {f : VolumeInfo → VolumeInfo}
    (hl : ∀ id, vs'.volumes.lookup id =
      if id = v then (vs.volumes.lookup id).map f else vs.volumes.lookup id) (id : Nat) :
    id ∈ vs'.volumes ↔ id ∈ vs.volumes := by
  rw [← AList.lookup_isSome, ← AList.lookup_isSome, hl]
  split_ifs <;> simp

@[simp] theorem mem_reserveVolume (vs : VolumeSet) (v t n : Nat) (ro : Bool) (id : Nat) :
    id ∈ (vs.reserveVolume v t n ro).volumes ↔ id ∈ vs.volumes :=
  mem_of_lookup_ite (reserveVolume_lookup vs v t n ro) id

@[simp] theorem mem_releaseVolume (vs : VolumeSet) (v t id : Nat) :
    id ∈ (vs.releaseVolume v t).volumes ↔ id ∈ vs.volumes :=
  mem_of_lookup_ite (releaseVolume_lookup vs v t) id

/-- `addOrUpdateVolume` makes an entry for a new ID and leaves every
entry there is. -/
theorem addOrUpdateVolume_lookup (vs : VolumeSet) (v : Volume) (id : Nat) :
    (vs.addOrUpdateVolume v).volumes.lookup id =
      (vs.volumes.lookup id).or (if id = v.id then some ⟨v, ∅, ∅⟩ else none) := by
  unfold addOrUpdateVolume
  dsimp only
  split_ifs with hv hid hid
  · subst hid
    obtain ⟨info, h⟩ := Option.isSome_iff_exists.mp (AList.lookup_isSome.mpr hv)
    simp [h]
  · simp
  · subst hid
    simp [AList.lookup_eq_none.mpr hv]
  · simp [AList.lookup_insert_ne hid]

theorem mem_addOrUpdateVolume (vs : VolumeSet) (v : Volume) (id : Nat) :
    id ∈ (vs.addOrUpdateVolume v).volumes ↔ id = v.id ∨ id ∈ vs.volumes := by
  rw [← AList.lookup_isSome, ← AList.lookup_isSome, addOrUpdateVolume_lookup]
  cases vs.volumes.lookup id <;> split_ifs <;> simp_all

-- =========== invariants of entries

/-- Every entry of the set has the property. -/
def All (P : VolumeInfo → Prop) (vs : VolumeSet) : Prop :=
  ∀ id info, vs.volumes.lookup id = some info → P info

/-- A write that maps the entry at one ID keeps a property of every entry
when the map keeps it at that entry. -/
theorem All.of_lookup_ite {P : VolumeInfo → Prop} {vs vs' : VolumeSet} {v : Nat}
    {f : VolumeInfo → VolumeInfo} (h : All P vs)
    (hl : ∀ id, vs'.volumes.lookup id =
      if id = v then (vs.volumes.lookup id).map f else vs.volumes.lookup id)
    (hf : ∀ info, vs.volumes.lookup v = some info → P (f info)) : All P vs' := by
  intro id info hid
  rw [hl] at hid
  split_ifs at hid with hv
  · subst hv
    obtain ⟨info₀, h₀, rfl⟩ := Option.map_eq_some_iff.mp hid
    exact hf info₀ h₀
  · exact h id info hid

theorem All.newVolumeSet (P : VolumeInfo → Prop) : All P newVolumeSet := by
  intro id info h
  simp [Volumes.newVolumeSet] at h

theorem All.addOrUpdateVolume {P : VolumeInfo → Prop} {vs : VolumeSet} (h : All P vs) (v : Volume)
    (hnew : P ⟨v, ∅, ∅⟩) : All P (vs.addOrUpdateVolume v) := by
  intro id info hid
  rw [addOrUpdateVolume_lookup] at hid
  cases hold : vs.volumes.lookup id with
  | some info₀ =>
    rw [hold, Option.some_or] at hid
    exact Option.some.inj hid ▸ h id info₀ hold
  | none =>
    rw [hold, Option.none_or] at hid
    split_ifs at hid
    exact Option.some.inj hid ▸ hnew

theorem All.handleVolumeEvent {P : VolumeInfo → Prop} {vs : VolumeSet} (h : All P vs)
    (hnew : ∀ v : Volume, P ⟨v, ∅, ∅⟩) (e : VolumeEvent) : All P (handleVolumeEvent vs e) := by
  cases e with
  | update v =>
    simp only [Volumes.handleVolumeEvent]
    split_ifs
    · exact h.addOrUpdateVolume v (hnew v)
    · exact h
  | create v => exact h
  | delete v => exact h

theorem nonNeg_empty (v : Volume) : VolumeInfo.NonNeg ⟨v, ∅, ∅⟩ := fun n => Int.le_refl (count ∅ n)

theorem counted_empty (v : Volume) : VolumeInfo.Counted ⟨v, ∅, ∅⟩ := fun _ => rfl

theorem All.nonNeg_reserveVolume {vs : VolumeSet} (h : All VolumeInfo.NonNeg vs) (v t n : Nat)
    (ro : Bool) : All VolumeInfo.NonNeg (vs.reserveVolume v t n ro) :=
  h.of_lookup_ite (reserveVolume_lookup vs v t n ro) fun info hi => (h v info hi).reserve t n ro

theorem All.nonNeg_releaseVolume {vs : VolumeSet} (h : All VolumeInfo.NonNeg vs) (v t : Nat) :
    All VolumeInfo.NonNeg (vs.releaseVolume v t) :=
  h.of_lookup_ite (releaseVolume_lookup vs v t) fun info hi => (h v info hi).releaseTask t

theorem All.counted_releaseVolume {vs : VolumeSet} (h : All VolumeInfo.Counted vs) (v t : Nat) :
    All VolumeInfo.Counted (vs.releaseVolume v t) :=
  h.of_lookup_ite (releaseVolume_lookup vs v t) fun info hi => (h v info hi).releaseTask t

/-- A reservation keeps every entry counted when the task has no usage
of the volume yet. -/
theorem All.counted_reserveVolume {vs : VolumeSet} (h : All VolumeInfo.Counted vs) {v t : Nat}
    (hfree : ∀ info ∈ vs.volumes.lookup v, t ∉ info.tasks) (n : Nat) (ro : Bool) :
    All VolumeInfo.Counted (vs.reserveVolume v t n ro) :=
  h.of_lookup_ite (reserveVolume_lookup vs v t n ro) fun info hi =>
    (h v info hi).reserve (hfree info hi) n ro

-- ===================== the indexes

/-- Every ID the indexes name has an entry. -/
structure Indexed (vs : VolumeSet) : Prop where
  byName : ∀ name id, vs.byName.lookup name = some id → id ∈ vs.volumes
  byGroup : ∀ group ids, vs.byGroup.lookup group = some ids → ∀ id ∈ ids, id ∈ vs.volumes

theorem indexed_newVolumeSet : Indexed newVolumeSet where
  byName name id h := by simp [Volumes.newVolumeSet] at h
  byGroup group ids h := by simp [Volumes.newVolumeSet] at h

/-- A call that leaves the indexes and the IDs with an entry keeps the
set indexed. -/
theorem Indexed.of_same {vs vs' : VolumeSet} (h : Indexed vs) (hn : vs'.byName = vs.byName)
    (hg : vs'.byGroup = vs.byGroup) (hm : ∀ id, id ∈ vs'.volumes ↔ id ∈ vs.volumes) :
    Indexed vs' where
  byName name id hid := (hm id).mpr (h.byName name id (hn ▸ hid))
  byGroup group ids hids id hmem := (hm id).mpr (h.byGroup group ids (hg ▸ hids) id hmem)

theorem Indexed.reserveVolume {vs : VolumeSet} (h : Indexed vs) (v t n : Nat) (ro : Bool) :
    Indexed (vs.reserveVolume v t n ro) :=
  h.of_same (reserveVolume_byName ..) (reserveVolume_byGroup ..) (mem_reserveVolume vs v t n ro)

theorem Indexed.releaseVolume {vs : VolumeSet} (h : Indexed vs) (v t : Nat) :
    Indexed (vs.releaseVolume v t) :=
  h.of_same (releaseVolume_byName ..) (releaseVolume_byGroup ..) (mem_releaseVolume vs v t)

theorem Indexed.addOrUpdateVolume {vs : VolumeSet} (h : Indexed vs) (v : Volume) :
    Indexed (vs.addOrUpdateVolume v) where
  byName name id hid := by
    have hid : (vs.byName.insert v.name v.id).lookup name = some id := hid
    rw [mem_addOrUpdateVolume]
    rcases AList.lookup_insert_eq_some hid with ⟨-, rfl⟩ | ⟨-, hold⟩
    · exact .inl rfl
    · exact .inr (h.byName name id hold)
  byGroup group ids hids id hmem := by
    -- the set of a group with no entry reads as empty
    have hset : ∀ id ∈ (vs.byGroup.lookup v.group).getD [], id ∈ vs.volumes := by
      cases hg : vs.byGroup.lookup v.group with
      | none => simp
      | some set => exact h.byGroup _ set hg
    have hids : (vs.byGroup.insert v.group (if v.id ∈ (vs.byGroup.lookup v.group).getD [] then
        (vs.byGroup.lookup v.group).getD [] else (vs.byGroup.lookup v.group).getD [] ++ [v.id])).lookup
        group = some ids := hids
    rw [mem_addOrUpdateVolume]
    rcases AList.lookup_insert_eq_some hids with ⟨-, rfl⟩ | ⟨-, hold⟩
    · split_ifs at hmem
      · exact .inr (hset id hmem)
      · rcases List.mem_append.mp hmem with hmem | hmem
        · exact .inr (hset id hmem)
        · exact .inl (List.mem_singleton.mp hmem)
    · exact .inr (h.byGroup group ids hold id hmem)

theorem Indexed.handleVolumeEvent {vs : VolumeSet} (h : Indexed vs) (e : VolumeEvent) :
    Indexed (handleVolumeEvent vs e) := by
  cases e with
  | update v =>
    simp only [Volumes.handleVolumeEvent]
    split_ifs
    · exact h.addOrUpdateVolume v
    · exact h
  | create v => exact h
  | delete v => exact h

-- ======================== the runs

/-- The load is the run of an update for each loaded volume. -/
theorem setupVolumes_eq (vols : List Volume) :
    setupVolumes vols = (vols.map .update).foldl handleVolumeEvent newVolumeSet := by
  rw [List.foldl_map]
  rfl

theorem Indexed.foldl_handleVolumeEvent {vs : VolumeSet} (h : Indexed vs) (es : List VolumeEvent) :
    Indexed (es.foldl Volumes.handleVolumeEvent vs) := by
  induction es generalizing vs with
  | nil => exact h
  | cons e es ih => exact ih (h.handleVolumeEvent e)

theorem All.foldl_handleVolumeEvent {P : VolumeInfo → Prop} {vs : VolumeSet} (h : All P vs)
    (hnew : ∀ v : Volume, P ⟨v, ∅, ∅⟩) (es : List VolumeEvent) :
    All P (es.foldl Volumes.handleVolumeEvent vs) := by
  induction es generalizing vs with
  | nil => exact h
  | cons e es ih => exact ih (h.handleVolumeEvent hnew e)

theorem All.setupVolumes {P : VolumeInfo → Prop} (hnew : ∀ v : Volume, P ⟨v, ∅, ∅⟩)
    (vols : List Volume) : All P (setupVolumes vols) := by
  rw [setupVolumes_eq]
  exact (All.newVolumeSet P).foldl_handleVolumeEvent hnew _

/-- After the load and any run of events, every ID the indexes name has
an entry. -/
theorem indexed_run (vols : List Volume) (es : List VolumeEvent) :
    Indexed (es.foldl handleVolumeEvent (setupVolumes vols)) := by
  rw [setupVolumes_eq, ← List.foldl_append]
  exact indexed_newVolumeSet.foldl_handleVolumeEvent _

-- ======================== fixtures

/-- A volume with a volume ID, active, that any number of tasks may
share on any node. -/
def dataV1 : Volume := ⟨1, 7, 8, .active, 5, .multiNode, .all, 9, []⟩

/-- The same volume, drained in the store. -/
def dataDrained : Volume := { dataV1 with availability := .drain }

/-- A node with the volume's plugin. -/
def nodeD : NodeInfo := ⟨4, [⟨5, none⟩]⟩

/-- A task with one CSI mount of the volume, by name. -/
def oneMount : Task := ⟨2, 0, some [⟨.csi, .name 7, 3, false⟩], []⟩

/-- A task with two CSI mounts of the volume, at two targets. -/
def twoMounts : Task := ⟨2, 0, some [⟨.csi, .name 7, 3, false⟩, ⟨.csi, .name 7, 6, false⟩], []⟩

-- ======================= the cache

/-- The versions a run of events offers the cache, in order: the updated
volumes that have a volume ID. -/
def offered : List VolumeEvent → List Volume
  | [] => []
  | .update v :: es => if v.volumeID ≠ 0 then v :: offered es else offered es
  | .create _ :: es => offered es
  | .delete _ :: es => offered es

theorem offered_cons (e : VolumeEvent) (es : List VolumeEvent) :
    offered (e :: es) = offered [e] ++ offered es := by
  cases e with
  | update v =>
    simp only [offered]
    split_ifs <;> rfl
  | create v => rfl
  | delete v => rfl

/-- An event caches the version it offers only for an ID with no entry. -/
theorem handleVolumeEvent_volume (vs : VolumeSet) (e : VolumeEvent) (id : Nat) :
    ((handleVolumeEvent vs e).volumes.lookup id).map (·.volume) =
      ((vs.volumes.lookup id).map (·.volume)).or ((offered [e]).find? (·.id = id)) := by
  cases e with
  | update v =>
    simp only [Volumes.handleVolumeEvent, offered]
    split_ifs with hv
    · rw [addOrUpdateVolume_lookup]
      cases vs.volumes.lookup id with
      | some info => rfl
      | none =>
        by_cases hid : id = v.id
        · simp [hid]
        · simp [hid, Ne.symm hid]
    · simp
  | create v => simp [Volumes.handleVolumeEvent, offered]
  | delete v => simp [Volumes.handleVolumeEvent, offered]

theorem foldl_handleVolumeEvent_volume (es : List VolumeEvent) (vs : VolumeSet) (id : Nat) :
    ((es.foldl handleVolumeEvent vs).volumes.lookup id).map (·.volume) =
      ((vs.volumes.lookup id).map (·.volume)).or ((offered es).find? (·.id = id)) := by
  induction es generalizing vs with
  | nil => simp [offered]
  | cons e es ih =>
    rw [List.foldl_cons, ih, handleVolumeEvent_volume, offered_cons e es, List.find?_append,
      Option.or_assoc]

/-- After the load and a run of events, the cached version of an ID is
the first one offered: a later update, or a deletion, never reaches it. -/
theorem cached_volume_run (vols : List Volume) (es : List VolumeEvent) (id : Nat) :
    ((es.foldl handleVolumeEvent (setupVolumes vols)).volumes.lookup id).map (·.volume) =
      (offered (vols.map .update ++ es)).find? (·.id = id) := by
  rw [setupVolumes_eq, ← List.foldl_append, foldl_handleVolumeEvent_volume]
  simp [Volumes.newVolumeSet]

/-- `checkVolume` admits only an ID whose cached version is active. -/
theorem checkVolume_active {vs : VolumeSet} {id : Nat} {node : NodeInfo} {ro : Bool}
    (h : vs.checkVolume id node ro = true) :
    ∃ info, vs.volumes.lookup id = some info ∧ info.volume.availability = .active := by
  unfold checkVolume at h
  split at h
  · cases h
  · next info hl =>
    refine ⟨info, hl, ?_⟩
    by_contra hna
    rw [if_pos hna] at h
    cases h

/-- `isVolumeAvailableOnNode` answers with an ID `checkVolume` admits. -/
theorem checkVolume_of_isVolumeAvailableOnNode {vs : VolumeSet} {mount : Mount} {node : NodeInfo}
    {id : Nat} (h : vs.isVolumeAvailableOnNode mount node = some id) :
    vs.checkVolume id node mount.readOnly = true := by
  unfold isVolumeAvailableOnNode at h
  split at h
  · split at h
    · cases h
    · have hc := List.find?_some h
      exact hc
  · split at h
    · cases h
    · split_ifs at h with hc
      cases h
      exact hc

/-- After the load and a run of events, a volume is chosen for a mount
only when the first version of it offered was active: what the store
says of it since is not read. -/
theorem chosen_first_offered_active (vols : List Volume) (es : List VolumeEvent) (mount : Mount)
    (node : NodeInfo) (id : Nat)
    (h : (es.foldl handleVolumeEvent (setupVolumes vols)).isVolumeAvailableOnNode mount node = some id) :
    ∃ v, (offered (vols.map .update ++ es)).find? (·.id = id) = some v ∧ v.availability = .active := by
  obtain ⟨info, hl, hact⟩ := checkVolume_active (checkVolume_of_isVolumeAvailableOnNode h)
  refine ⟨info.volume, ?_, hact⟩
  rw [← cached_volume_run, hl, Option.map_some]

theorem stale_volume_still_chosen :
    (([.update dataDrained].foldl handleVolumeEvent (setupVolumes [dataV1])).volumes.lookup 1).map
        (·.volume.availability) = some .active ∧
      (chooseTaskVolumes oneMount nodeD
        ([.update dataDrained].foldl handleVolumeEvent (setupVolumes [dataV1]))).1 =
        .ok [⟨1, .name 7, 3⟩] ∧
      (chooseTaskVolumes oneMount nodeD
        ([.update dataDrained, .delete dataDrained].foldl handleVolumeEvent
          (setupVolumes [dataV1]))).1 = .ok [⟨1, .name 7, 3⟩] := by
  decide

-- ======================== choosing

/-- `vs'` is `vs` with one reservation of the task on the node at each of
`ids`, and every other entry as it was. -/
def Reserves (taskID nodeID : Nat) (ids : List Nat) (vs vs' : VolumeSet) : Prop :=
  ∀ id, (id ∈ ids → ∃ ro, vs'.volumes.lookup id =
      (vs.volumes.lookup id).map (VolumeInfo.reserve taskID nodeID ro)) ∧
    (id ∉ ids → vs'.volumes.lookup id = vs.volumes.lookup id)

theorem Reserves.nil (t n : Nat) (vs : VolumeSet) : Reserves t n [] vs vs :=
  fun _ => ⟨fun h => absurd h List.not_mem_nil, fun _ => rfl⟩

/-- A reservation at `c` followed by reservations elsewhere. -/
theorem Reserves.cons {t n c : Nat} {ro : Bool} {ids : List Nat} {vs vs' : VolumeSet}
    (h : Reserves t n ids (vs.reserveVolume c t n ro) vs') (hc : c ∉ ids) :
    Reserves t n (c :: ids) vs vs' := by
  intro id
  by_cases hid : id = c
  · subst hid
    refine ⟨fun _ => ⟨ro, ?_⟩, fun hmem => absurd List.mem_cons_self hmem⟩
    rw [(h id).2 hc, reserveVolume_lookup, if_pos rfl]
  · have hne : (vs.reserveVolume c t n ro).volumes.lookup id = vs.volumes.lookup id := by
      rw [reserveVolume_lookup, if_neg hid]
    constructor
    · intro hmem
      obtain ⟨ro', hro'⟩ := (h id).1 ((List.mem_cons.mp hmem).resolve_left hid)
      exact ⟨ro', hne ▸ hro'⟩
    · intro hmem
      rw [(h id).2 fun h' => hmem (List.mem_cons_of_mem _ h'), hne]

/-- The loop of `chooseTaskVolumes` adds attachments to those it was
given and reserves each attached volume once, when no volume is attached
twice. -/
theorem chooseLoop_reserves (t : Nat) (node : NodeInfo) (mounts : List Mount) :
    ∀ (volumes : List VolumeAttachment) (vs : VolumeSet),
      ((chooseLoop t node mounts volumes vs).2.1.map (·.id)).Nodup →
      ∃ new, (chooseLoop t node mounts volumes vs).2.1 = volumes ++ new ∧
        Reserves t node.id (new.map (·.id)) vs (chooseLoop t node mounts volumes vs).2.2 := by
  induction mounts with
  | nil => exact fun volumes vs _ => ⟨[], (List.append_nil volumes).symm, Reserves.nil t node.id vs⟩
  | cons mount mounts ih =>
    intro volumes vs hnd
    by_cases hcsi : mount.type ≠ .csi
    · rw [chooseLoop, if_pos hcsi] at hnd ⊢
      exact ih volumes vs hnd
    rw [chooseLoop, if_neg hcsi] at hnd ⊢
    cases hc : vs.isVolumeAvailableOnNode mount node with
    | none => exact ⟨[], (List.append_nil volumes).symm, Reserves.nil t node.id vs⟩
    | some c =>
      simp only [hc] at hnd ⊢
      obtain ⟨new, hnew, hres⟩ := ih _ _ hnd
      refine ⟨⟨c, mount.source, mount.target⟩ :: new, by rw [hnew, List.append_assoc]; rfl, ?_⟩
      -- the rest of the loop attaches other volumes than `c`
      have hc' : c ∉ new.map (·.id) := by
        rw [hnew, List.append_assoc, List.map_append] at hnd
        have hnd' := (List.nodup_append.1 hnd).2.1
        exact (List.nodup_cons.1 hnd').1
      exact Reserves.cons hres hc'

/-- Releasing a list of distinct volumes releases the task at each of
them once. -/
theorem foldl_releaseVolume_lookup (t : Nat) (ids : List Nat) (hnd : ids.Nodup) (vs : VolumeSet)
    (id : Nat) :
    (ids.foldl (fun vs v => vs.releaseVolume v t) vs).volumes.lookup id =
      if id ∈ ids then (vs.volumes.lookup id).map (VolumeInfo.releaseTask t)
      else vs.volumes.lookup id := by
  induction ids generalizing vs with
  | nil => simp
  | cons v ids ih =>
    rw [List.nodup_cons] at hnd
    rw [List.foldl_cons, ih hnd.2, releaseVolume_lookup]
    by_cases hid : id = v
    · subst hid
      simp [hnd.1]
    · simp [hid]

/-- The set `chooseTaskVolumes` returns is the loop's, with the volumes
the loop attached released, on success and on failure alike. -/
theorem chooseTaskVolumes_snd (task : Task) (node : NodeInfo) (vs : VolumeSet)
    {mounts : List Mount} (hm : task.mounts = some mounts) :
    (chooseTaskVolumes task node vs).2 =
      ((chooseLoop task.id node mounts [] vs).2.1.map (·.id)).foldl
        (fun vs v => vs.releaseVolume v task.id) (chooseLoop task.id node mounts [] vs).2.2 := by
  unfold chooseTaskVolumes
  simp only [hm]
  generalize chooseLoop task.id node mounts [] vs = r
  obtain ⟨failed, volumes, vs'⟩ := r
  rw [List.foldl_map]
  cases failed <;> rfl

/-- The volumes the loop of `chooseTaskVolumes` attaches for the task. -/
def picked (task : Task) (node : NodeInfo) (vs : VolumeSet) : List Nat :=
  match task.mounts with
  | none => []
  | some mounts => (chooseLoop task.id node mounts [] vs).2.1.map (·.id)

theorem sameReservations_rel_refl (o : Option VolumeInfo) :
    Option.Rel VolumeInfo.SameReservations o o := by
  cases o with
  | none => exact .none
  | some info => exact .some (VolumeInfo.SameReservations.refl info)

/-- `chooseTaskVolumes` gives every entry its tasks and its counts back,
whether it succeeds or fails, when the volumes its loop picks are
distinct and the task had no usage of them. -/
theorem chooseTaskVolumes_restores (task : Task) (node : NodeInfo) (vs : VolumeSet)
    (hpicked : (picked task node vs).Nodup)
    (hfree : ∀ id ∈ picked task node vs, ∀ info ∈ vs.volumes.lookup id, task.id ∉ info.tasks)
    (hnn : All VolumeInfo.NonNeg vs) (id : Nat) :
    Option.Rel VolumeInfo.SameReservations ((chooseTaskVolumes task node vs).2.volumes.lookup id)
      (vs.volumes.lookup id) := by
  cases hm : task.mounts with
  | none =>
    simp only [chooseTaskVolumes, hm]
    exact sameReservations_rel_refl _
  | some mounts =>
    simp only [picked, hm] at hpicked hfree
    obtain ⟨new, hnew, hres⟩ := chooseLoop_reserves task.id node mounts [] vs hpicked
    rw [hnew, List.nil_append] at hpicked hfree
    rw [chooseTaskVolumes_snd task node vs hm, hnew, List.nil_append,
      foldl_releaseVolume_lookup _ _ hpicked]
    split_ifs with hid
    · -- a picked volume: reserved once by the loop, released once after it
      obtain ⟨ro, hro⟩ := (hres id).1 hid
      rw [hro]
      cases hl : vs.volumes.lookup id with
      | none => exact .none
      | some info =>
        exact .some (VolumeInfo.releaseTask_reserve (hfree id hid info hl) (hnn id info hl))
    · rw [(hres id).2 hid]
      exact sameReservations_rel_refl _

-- =================== runs of calls

/-- A call that reserves or releases a volume for a task. -/
inductive Call
  | reserve (volumeID taskID nodeID : Nat) (readOnly : Bool)
  | release (volumeID taskID : Nat)
  deriving DecidableEq, Repr

/-- The set after a call. -/
def Call.apply (vs : VolumeSet) : Call → VolumeSet
  | .reserve v t n ro => vs.reserveVolume v t n ro
  | .release v t => vs.releaseVolume v t

/-- A reservation for a task that has no usage of the volume yet; any
release. -/
def Call.Fresh (vs : VolumeSet) : Call → Prop
  | .reserve v t _ _ => ∀ info ∈ vs.volumes.lookup v, t ∉ info.tasks
  | .release _ _ => True

instance Call.decFresh (vs : VolumeSet) : (c : Call) → Decidable (c.Fresh vs)
  | .reserve v t _ _ => inferInstanceAs (Decidable (∀ info ∈ vs.volumes.lookup v, t ∉ info.tasks))
  | .release _ _ => inferInstanceAs (Decidable True)

/-- Every reservation of the run is fresh when it is made. -/
def FreshRun : VolumeSet → List Call → Prop
  | _, [] => True
  | vs, c :: cs => c.Fresh vs ∧ FreshRun (c.apply vs) cs

instance decFreshRun : (vs : VolumeSet) → (cs : List Call) → Decidable (FreshRun vs cs)
  | _, [] => inferInstanceAs (Decidable True)
  | vs, c :: cs =>
    have := decFreshRun (c.apply vs) cs
    inferInstanceAs (Decidable (c.Fresh vs ∧ FreshRun (c.apply vs) cs))

/-- No call ever makes a count negative. -/
theorem nonNeg_run (vs : VolumeSet) (cs : List Call) (h : All VolumeInfo.NonNeg vs) :
    All VolumeInfo.NonNeg (cs.foldl Call.apply vs) := by
  induction cs generalizing vs with
  | nil => exact h
  | cons c cs ih =>
    apply ih
    cases c with
    | reserve v t n ro => exact h.nonNeg_reserveVolume v t n ro
    | release v t => exact h.nonNeg_releaseVolume v t

/-- Over a run of calls that never reserves a volume for a task that
already has a usage of it, every entry stays counted. -/
theorem counted_run (vs : VolumeSet) (cs : List Call) (h : All VolumeInfo.Counted vs)
    (hfresh : FreshRun vs cs) : All VolumeInfo.Counted (cs.foldl Call.apply vs) := by
  induction cs generalizing vs with
  | nil => exact h
  | cons c cs ih =>
    obtain ⟨hc, hrest⟩ := hfresh
    apply ih _ _ hrest
    cases c with
    | reserve v t n ro => exact h.counted_reserveVolume hc n ro
    | release v t => exact h.counted_releaseVolume v t

theorem repeated_volume_leaks_count :
    (chooseTaskVolumes twoMounts nodeD (setupVolumes [dataV1])).1 =
        .ok [⟨1, .name 7, 3⟩, ⟨1, .name 7, 6⟩] ∧
      ((setupVolumes [dataV1]).volumes.lookup 1).map
        (fun info => (count info.nodes 4, info.tasks.entries.length)) = some (0, 0) ∧
      ((chooseTaskVolumes twoMounts nodeD (setupVolumes [dataV1])).2.volumes.lookup 1).map
        (fun info => (count info.nodes 4, info.tasks.entries.length)) = some (1, 0) ∧
      (([Call.reserve 1 2 4 false, .reserve 1 2 4 false].foldl Call.apply
        (setupVolumes [dataV1])).volumes.lookup 1).map
        (fun info => (count info.nodes 4, info.tasks.entries.length)) = some (2, 1) := by
  decide

end SwarmKit.Scheduler.Volumes
