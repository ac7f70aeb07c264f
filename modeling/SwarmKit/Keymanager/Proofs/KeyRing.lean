import Mathlib.Data.List.Dedup
import Mathlib.Data.List.Pairwise
import Mathlib.Data.List.Perm.Subperm
import Mathlib.Algebra.Group.Nat.Defs
import SwarmKit.Lib.Lts
import SwarmKit.Keymanager.KeyRing

/-
What a rotation does to each subsystem's keys.

# The minimum search

On a full subsystem `[a, b, c]` the search compares `b` and then `c`
with `a`, and records `c`'s index in `keys[1:]`, which is `b`'s in the
subsystem: it drops `b` when `c` is older than `a`, and `a` otherwise
(`dropOldest_three`). That is the oldest key exactly when `a` is older
than both, which holds of a subsystem in increasing Lamport time
(`dropOldest_of_sorted`); when `b` alone is the oldest it survives.

# The rotation

Rotating leaves every subsystem of the ring, whatever the orders the
map is walked in, with its keys after `dropOldest` and one new key
(`subsysKeys_rotateRing_of_mem`), and adds no other subsystem. The new
key's time is past the old clock, unless the clock wraps.

# The ring the code keeps

`RingInv` is what the code's rings keep: each subsystem's keys in
increasing Lamport time, at most `keyringSize` of them, none past the
clock. `Run` makes it, storing and restoring the ring keeps it, and so
does every rotation whose clock does not wrap (`rotateRing_inv`): on
those rings a rotation drops exactly the oldest key of every full
subsystem (`rotateRing_drops_oldest`). So along every run of elections
and rotations the minimum search finds the oldest key
(`run_rotation_drops_oldest`); a ring with a full subsystem out of order,
on which it would not, is not one the code writes.
-/

namespace SwarmKit.Keymanager

variable (random : UInt64 → Bytes)

-- ============== the minimum search

/-- The search on a full subsystem compares only the last key with the
first: `b` is never the minimum it finds. -/
theorem minIndex_three (a b c : EncryptionKey) :
    minIndex [a, b, c] = if c.lamportTime < a.lamportTime then 1 else 0 := by
  simp [minIndex, timeAt, List.zipIdx]

theorem dropOldest_three (a b c : EncryptionKey) :
    dropOldest [a, b, c] = if c.lamportTime < a.lamportTime then [a, c] else [b, c] := by
  have hfull : [a, b, c].length = keyringSize := rfl
  rw [dropOldest, if_pos hfull, minIndex_three]
  split <;> rfl

theorem dropOldest_of_ne {keys : List EncryptionKey} (h : keys.length ≠ keyringSize) :
    dropOldest keys = keys := if_neg h

/-- A full subsystem in increasing Lamport time loses its first key. -/
theorem dropOldest_of_sorted {keys : List EncryptionKey}
    (hsorted : (keys.map (·.lamportTime)).Pairwise (· < ·)) :
    dropOldest keys = if keys.length = keyringSize then keys.tail else keys := by
  split
  case isFalse hlen => exact dropOldest_of_ne hlen
  case isTrue hlen =>
    obtain ⟨a, b, c, rfl⟩ := List.length_eq_three.mp hlen
    have hac : a.lamportTime < c.lamportTime := by
      simp only [List.map_cons, List.map_nil, List.pairwise_cons, List.mem_cons] at hsorted
      exact hsorted.1 _ (.inr (.inl rfl))
    rw [dropOldest_three, if_neg (UInt64.lt_asymm hac)]
    rfl

theorem mem_of_mem_dropOldest {keys : List EncryptionKey} {key : EncryptionKey}
    (h : key ∈ dropOldest keys) : key ∈ keys := by
  unfold dropOldest at h
  split at h
  · rcases List.mem_append.mp h with h | h
    · exact List.mem_of_mem_take h
    · exact List.mem_of_mem_drop h
  · exact h

-- =============== the subsystem map

theorem mem_subsystems {keys : List EncryptionKey} {s : String} :
    s ∈ subsystems keys ↔ ∃ key ∈ keys, key.subsystem = s := by
  simp [subsystems]

theorem nodup_subsystems (keys : List EncryptionKey) : (subsystems keys).Nodup :=
  List.nodup_dedup _

theorem subsystem_of_mem_subsysKeys {keys : List EncryptionKey} {s : String} {key : EncryptionKey}
    (h : key ∈ subsysKeys keys s) : key.subsystem = s := by
  simpa [subsysKeys] using (List.mem_filter.mp h).2

theorem mem_of_mem_subsysKeys {keys : List EncryptionKey} {s : String} {key : EncryptionKey}
    (h : key ∈ subsysKeys keys s) : key ∈ keys :=
  (List.mem_filter.mp h).1

theorem subsysKeys_append (keys keys' : List EncryptionKey) (s : String) :
    subsysKeys (keys ++ keys') s = subsysKeys keys s ++ subsysKeys keys' s := by
  simp only [subsysKeys, List.filter_append]

/-- Keys all of one subsystem. -/
theorem subsysKeys_of_forall {keys : List EncryptionKey} {s₀ : String}
    (h : ∀ key ∈ keys, key.subsystem = s₀) (s : String) :
    subsysKeys keys s = if s₀ = s then keys else [] := by
  split
  case isTrue hs =>
    rw [subsysKeys, List.filter_eq_self]
    intro key hkey
    simp [h key hkey, hs]
  case isFalse hs =>
    rw [subsysKeys, List.filter_eq_nil_iff]
    intro key hkey
    simp [h key hkey, hs]

/-- Gathering a map whose entries hold their own subsystem's keys, each
subsystem once: a subsystem's keys are its entry. -/
theorem subsysKeys_flatMap {l : List String} (hnd : l.Nodup) {f : String → List EncryptionKey}
    (hf : ∀ s', ∀ key ∈ f s', key.subsystem = s') (s : String) :
    subsysKeys (l.flatMap f) s = if s ∈ l then f s else [] := by
  induction l with
  | nil => rfl
  | cons s₀ l ih =>
    obtain ⟨hs₀, hnd⟩ := List.nodup_cons.mp hnd
    rw [List.flatMap_cons, subsysKeys_append, subsysKeys_of_forall (hf s₀), ih hnd]
    by_cases hs : s₀ = s
    · subst hs
      simp [hs₀]
    · simp [hs, Ne.symm hs]

theorem mem_subsysKeys_self {keys : List EncryptionKey} {key : EncryptionKey} (h : key ∈ keys) :
    key ∈ subsysKeys keys key.subsystem :=
  List.mem_filter.mpr ⟨h, by simp⟩

-- =============== the rotation loop

@[simp] theorem allocateKey_fst (ring : KeyRing) (subsys : String) :
    (allocateKey random ring subsys).1 = { ring with lClock := ring.lClock + 1 } := rfl

@[simp] theorem allocateKey_subsystem (ring : KeyRing) (subsys : String) :
    (allocateKey random ring subsys).2.subsystem = subsys := rfl

@[simp] theorem allocateKey_lamportTime (ring : KeyRing) (subsys : String) :
    (allocateKey random ring subsys).2.lamportTime = ring.lClock + 1 := rfl

theorem toNat_succ (t : UInt64) : (t + 1).toNat = (t.toNat + 1) % 2 ^ 64 := by
  rw [UInt64.toNat_add, UInt64.toNat_one]

@[simp] theorem rotateSubsystem_fst (st : KeyRing × (String → List EncryptionKey)) (subsys : String) :
    (rotateSubsystem random st subsys).1 = { st.1 with lClock := st.1.lClock + 1 } := rfl

theorem rotateSubsystem_snd (st : KeyRing × (String → List EncryptionKey)) (subsys : String) :
    (rotateSubsystem random st subsys).2 =
      Function.update st.2 subsys (dropOldest (st.2 subsys) ++ [(allocateKey random st.1 subsys).2]) :=
  rfl

/-- The loop leaves the ring's keys alone and advances the clock once per
subsystem. -/
theorem foldl_rotateSubsystem_fst (order : List String)
    (st : KeyRing × (String → List EncryptionKey)) :
    (order.foldl (rotateSubsystem random) st).1.keys = st.1.keys ∧
      (order.foldl (rotateSubsystem random) st).1.lClock.toNat =
        (st.1.lClock.toNat + order.length) % 2 ^ 64 := by
  induction order generalizing st with
  | nil => simp [Nat.mod_eq_of_lt st.1.lClock.toNat_lt]
  | cons s order ih =>
    obtain ⟨hkeys, hclock⟩ := ih (rotateSubsystem random st s)
    rw [List.foldl_cons]
    refine ⟨hkeys, ?_⟩
    rw [hclock, rotateSubsystem_fst, toNat_succ, List.length_cons]
    omega

theorem foldl_rotateSubsystem_of_not_mem {order : List String} {s : String} (hs : s ∉ order)
    (st : KeyRing × (String → List EncryptionKey)) :
    (order.foldl (rotateSubsystem random) st).2 s = st.2 s := by
  induction order generalizing st with
  | nil => rfl
  | cons s₀ order ih =>
    rw [List.mem_cons, not_or] at hs
    rw [List.foldl_cons, ih hs.2, rotateSubsystem_snd, Function.update_of_ne hs.1]

/-- A subsystem the loop visits once ends with its keys after
`dropOldest` and the key allocated on its turn, the `i`-th. -/
theorem foldl_rotateSubsystem_of_mem {order : List String} (hnd : order.Nodup) {s : String}
    (hs : s ∈ order) (st : KeyRing × (String → List EncryptionKey)) :
    ∃ key i, i < order.length ∧ key.subsystem = s ∧
      key.lamportTime.toNat = (st.1.lClock.toNat + i + 1) % 2 ^ 64 ∧
      (order.foldl (rotateSubsystem random) st).2 s = dropOldest (st.2 s) ++ [key] := by
  induction order generalizing st with
  | nil => cases hs
  | cons s₀ order ih =>
    obtain ⟨hs₀, hnd⟩ := List.nodup_cons.mp hnd
    rw [List.foldl_cons]
    by_cases heq : s = s₀
    · -- the subsystem's own turn; the rest of the loop does not come back to it
      subst heq
      refine ⟨(allocateKey random st.1 s).2, 0, by simp, rfl, ?_, ?_⟩
      · rw [allocateKey_lamportTime, toNat_succ]
      · rw [foldl_rotateSubsystem_of_not_mem random hs₀, rotateSubsystem_snd,
          Function.update_self]
    · obtain ⟨key, i, hi, hkey, htime, hst⟩ :=
        ih hnd (List.mem_of_ne_of_mem heq hs) (rotateSubsystem random st s₀)
      refine ⟨key, i + 1, by simpa using hi, hkey, ?_, ?_⟩
      · rw [htime, rotateSubsystem_fst, toNat_succ]
        omega
      · rw [hst, rotateSubsystem_snd, Function.update_of_ne heq]

/-- The map's entries hold their own subsystem's keys, through the loop. -/
theorem foldl_rotateSubsystem_own (order : List String)
    (st : KeyRing × (String → List EncryptionKey))
    (hst : ∀ s, ∀ key ∈ st.2 s, key.subsystem = s) :
    ∀ s, ∀ key ∈ (order.foldl (rotateSubsystem random) st).2 s, key.subsystem = s := by
  refine Lts.foldl_invariant
    (P := fun (st : KeyRing × (String → List EncryptionKey)) => ∀ s, ∀ key ∈ st.2 s, key.subsystem = s)
    _ ?_ order hst
  intro st subsys hst s key hkey
  rw [rotateSubsystem_snd] at hkey
  by_cases heq : s = subsys
  · subst heq
    rw [Function.update_self] at hkey
    rcases List.mem_append.mp hkey with hkey | hkey
    · exact hst s key (mem_of_mem_dropOldest hkey)
    · rw [List.mem_singleton.mp hkey, allocateKey_subsystem]
  · rw [Function.update_of_ne heq] at hkey
    exact hst s key hkey

-- ======================== the ring

section Rotation

variable {order order' : List String} {ring : KeyRing}

theorem rotateRing_lClock (order order' : List String) (ring : KeyRing) :
    (rotateRing random order order' ring).lClock.toNat = (ring.lClock.toNat + order.length) % 2 ^ 64 :=
  (foldl_rotateSubsystem_fst random order _).2

/-- A subsystem's keys after rotating: its entry of the map the loop
leaves, when it is a subsystem of the ring. -/
theorem subsysKeys_rotateRing (horder' : order'.Perm (subsystems ring.keys)) (s : String) :
    subsysKeys (rotateRing random order order' ring).keys s =
      if s ∈ subsystems ring.keys then
        (order.foldl (rotateSubsystem random) ({ ring with keys := [] }, subsysKeys ring.keys)).2 s
      else [] := by
  have hown := foldl_rotateSubsystem_own random order ({ ring with keys := [] }, subsysKeys ring.keys)
    (fun _ _ hkey => subsystem_of_mem_subsysKeys hkey)
  rw [rotateRing, subsysKeys_flatMap (horder'.nodup_iff.mpr (nodup_subsystems _)) hown]
  simp only [horder'.mem_iff]

theorem subsysKeys_rotateRing_of_not_mem (horder' : order'.Perm (subsystems ring.keys))
    {s : String} (hs : s ∉ subsystems ring.keys) :
    subsysKeys (rotateRing random order order' ring).keys s = [] := by
  rw [subsysKeys_rotateRing random horder', if_neg hs]

/-- Every subsystem of the ring, whatever the orders, keeps its keys after
`dropOldest` and gains the key allocated on its turn. -/
theorem subsysKeys_rotateRing_of_mem (horder : order.Perm (subsystems ring.keys))
    (horder' : order'.Perm (subsystems ring.keys)) {s : String} (hs : s ∈ subsystems ring.keys) :
    ∃ key i, i < order.length ∧ key.subsystem = s ∧
      key.lamportTime.toNat = (ring.lClock.toNat + i + 1) % 2 ^ 64 ∧
      subsysKeys (rotateRing random order order' ring).keys s =
        dropOldest (subsysKeys ring.keys s) ++ [key] := by
  obtain ⟨key, i, hi, hkey, htime, hst⟩ := foldl_rotateSubsystem_of_mem random
    (horder.nodup_iff.mpr (nodup_subsystems _)) (horder.mem_iff.mpr hs)
    ({ ring with keys := [] }, subsysKeys ring.keys)
  refine ⟨key, i, hi, hkey, htime, ?_⟩
  rw [subsysKeys_rotateRing random horder', if_pos hs, hst]

/-- Without a wrap, a key allocated during the rotation is past the old
clock and not past the new one. -/
theorem rotated_key_bounds (hwrap : ring.lClock.toNat + order.length < 2 ^ 64) {key : EncryptionKey}
    {i : Nat} (hi : i < order.length)
    (htime : key.lamportTime.toNat = (ring.lClock.toNat + i + 1) % 2 ^ 64) :
    ring.lClock < key.lamportTime ∧ key.lamportTime ≤ (rotateRing random order order' ring).lClock := by
  have hclock := rotateRing_lClock random order order' ring
  rw [UInt64.lt_iff_toNat_lt, UInt64.le_iff_toNat_le, hclock, htime]
  omega

end Rotation

-- ========= the ring the code keeps

/-- What the rings the code writes keep between rotations: each
subsystem's keys in increasing Lamport time, at most `keyringSize` of
them, none past the clock. -/
structure RingInv (ring : KeyRing) : Prop where
  sorted : ∀ s, ((subsysKeys ring.keys s).map (·.lamportTime)).Pairwise (· < ·)
  bounded : ∀ s, (subsysKeys ring.keys s).length ≤ keyringSize
  clock : ∀ key ∈ ring.keys, key.lamportTime ≤ ring.lClock

theorem sorted_dropOldest {keys : List EncryptionKey}
    (hsorted : (keys.map (·.lamportTime)).Pairwise (· < ·)) :
    ((dropOldest keys).map (·.lamportTime)).Pairwise (· < ·) := by
  rw [dropOldest_of_sorted hsorted]
  split
  · rw [List.map_tail]
    exact hsorted.tail
  · exact hsorted

theorem length_dropOldest_lt {keys : List EncryptionKey} (hlen : keys.length ≤ keyringSize) :
    (dropOldest keys).length < keyringSize := by
  by_cases hfull : keys.length = keyringSize
  · obtain ⟨a, b, c, rfl⟩ := List.length_eq_three.mp hfull
    rw [dropOldest_three]
    split <;> simp [keyringSize]
  · rw [dropOldest_of_ne hfull]
    omega

/-- Keys in increasing time, none past `t`, then a key past `t`: still in
increasing time. -/
theorem sorted_append_newer {keys : List EncryptionKey} {key : EncryptionKey} {t : UInt64}
    (hsorted : (keys.map (·.lamportTime)).Pairwise (· < ·)) (hle : ∀ k ∈ keys, k.lamportTime ≤ t)
    (hlt : t < key.lamportTime) : ((keys ++ [key]).map (·.lamportTime)).Pairwise (· < ·) := by
  rw [List.map_append, List.pairwise_append]
  refine ⟨hsorted, List.pairwise_singleton _ _, ?_⟩
  intro a ha b hb
  obtain ⟨k, hk, rfl⟩ := List.mem_map.mp ha
  rw [List.map_singleton, List.mem_singleton] at hb
  subst hb
  exact UInt64.lt_of_le_of_lt (hle k hk) hlt

section Rotation

variable {order order' : List String} {ring : KeyRing}

/-- A rotation adds no subsystem. -/
theorem mem_subsystems_of_mem_rotateRing (horder' : order'.Perm (subsystems ring.keys))
    {key : EncryptionKey} (hkey : key ∈ (rotateRing random order order' ring).keys) :
    key.subsystem ∈ subsystems ring.keys := by
  -- a key of the new ring is in its own subsystem's keys, which are none
  -- for a subsystem the ring did not have
  have hmem := mem_subsysKeys_self hkey
  by_contra hs
  rw [subsysKeys_rotateRing_of_not_mem random horder' hs] at hmem
  cases hmem

/-- A subsystem of the ring after a rotation that does not wrap: its keys
after `dropOldest`, then a key past the old clock and not past the new. -/
theorem rotated_subsystem (horder : order.Perm (subsystems ring.keys))
    (horder' : order'.Perm (subsystems ring.keys)) (hwrap : ring.lClock.toNat + order.length < 2 ^ 64)
    {s : String} (hs : s ∈ subsystems ring.keys) :
    ∃ key, key.subsystem = s ∧ ring.lClock < key.lamportTime ∧
      key.lamportTime ≤ (rotateRing random order order' ring).lClock ∧
      subsysKeys (rotateRing random order order' ring).keys s =
        dropOldest (subsysKeys ring.keys s) ++ [key] := by
  obtain ⟨key, i, hi, hkey, htime, hkeys⟩ := subsysKeys_rotateRing_of_mem random horder horder' hs
  obtain ⟨hlt, hle⟩ := rotated_key_bounds random hwrap hi htime
  exact ⟨key, hkey, hlt, hle, hkeys⟩

/-- On a ring the code keeps, a rotation that does not wrap drops the
first key of every full subsystem, the one with the smallest Lamport
time, and appends a key newer than every key the subsystem had. -/
theorem rotateRing_drops_oldest (hinv : RingInv ring) (horder : order.Perm (subsystems ring.keys))
    (horder' : order'.Perm (subsystems ring.keys)) (hwrap : ring.lClock.toNat + order.length < 2 ^ 64)
    {s : String} (hs : s ∈ subsystems ring.keys) :
    ∃ key, key.subsystem = s ∧ (∀ k ∈ subsysKeys ring.keys s, k.lamportTime < key.lamportTime) ∧
      subsysKeys (rotateRing random order order' ring).keys s =
        (if (subsysKeys ring.keys s).length = keyringSize then (subsysKeys ring.keys s).tail
          else subsysKeys ring.keys s) ++ [key] := by
  obtain ⟨key, hkey, hlt, -, hkeys⟩ := rotated_subsystem random horder horder' hwrap hs
  refine ⟨key, hkey, fun k hk => ?_, ?_⟩
  · exact UInt64.lt_of_le_of_lt (hinv.clock k (mem_of_mem_subsysKeys hk)) hlt
  · rw [hkeys, dropOldest_of_sorted (hinv.sorted s)]

/-- A rotation that does not wrap keeps `RingInv`. -/
theorem rotateRing_inv (hinv : RingInv ring) (horder : order.Perm (subsystems ring.keys))
    (horder' : order'.Perm (subsystems ring.keys)) (hwrap : ring.lClock.toNat + order.length < 2 ^ 64) :
    RingInv (rotateRing random order order' ring) where
  sorted s := by
    by_cases hs : s ∈ subsystems ring.keys
    · obtain ⟨key, -, hlt, -, hkeys⟩ := rotated_subsystem random horder horder' hwrap hs
      rw [hkeys]
      -- every kept key is at most the old clock, the new one past it
      refine sorted_append_newer (sorted_dropOldest (hinv.sorted s)) (fun k hk => ?_) hlt
      exact hinv.clock k (mem_of_mem_subsysKeys (mem_of_mem_dropOldest hk))
    · rw [subsysKeys_rotateRing_of_not_mem random horder' hs]
      exact List.Pairwise.nil
  bounded s := by
    by_cases hs : s ∈ subsystems ring.keys
    · obtain ⟨key, -, -, -, hkeys⟩ := rotated_subsystem random horder horder' hwrap hs
      have hlt := length_dropOldest_lt (hinv.bounded s)
      rw [hkeys, List.length_append, List.length_singleton]
      omega
    · rw [subsysKeys_rotateRing_of_not_mem random horder' hs]
      exact Nat.zero_le _
  clock key hkey := by
    have hmem := mem_subsysKeys_self hkey
    obtain ⟨new, -, -, hle, hkeys⟩ := rotated_subsystem random horder horder' hwrap
      (mem_subsystems_of_mem_rotateRing random horder' hkey)
    rw [hkeys] at hmem
    rcases List.mem_append.mp hmem with hold | hnew
    · have hclock := rotateRing_lClock random order order' ring
      have hk := hinv.clock key (mem_of_mem_subsysKeys (mem_of_mem_dropOldest hold))
      rw [UInt64.le_iff_toNat_le] at hk ⊢
      omega
    · rw [List.mem_singleton.mp hnew]
      exact hle

end Rotation

-- ============================= Run

/-- The ring a cluster stores. -/
def storedRing (cluster : Cluster) : KeyRing :=
  ⟨cluster.encryptionKeyLamportClock, cluster.networkBootstrapKeys⟩

@[simp] theorem storedRing_updateKey (ring : KeyRing) (cluster : Cluster) :
    storedRing (updateKey ring cluster) = ring := rfl

@[simp] theorem updateKey_networkBootstrapKeys (ring : KeyRing) (cluster : Cluster) :
    (updateKey ring cluster).networkBootstrapKeys = ring.keys := rfl

/-- A new leader restores the stored ring. -/
theorem run_of_stored (km : KeyManager) (h : km.cluster.networkBootstrapKeys ≠ []) :
    run random km = { km with keyRing := storedRing km.cluster } := if_neg h

theorem run_of_empty (km : KeyManager) (h : km.cluster.networkBootstrapKeys = []) :
    run random km =
      let keyRing := km.config.subsystems.foldl
        (fun ring subsys => (appendNewKey random subsys)^[keyringSize] ring) km.keyRing
      { km with keyRing, cluster := updateKey keyRing km.cluster } := if_pos h

@[simp] theorem appendNewKey_lClock (subsys : String) (ring : KeyRing) :
    (appendNewKey random subsys ring).lClock = ring.lClock + 1 := rfl

theorem appendNewKey_keys (subsys : String) (ring : KeyRing) :
    (appendNewKey random subsys ring).keys = ring.keys ++ [(allocateKey random ring subsys).2] := rfl

/-- What `Run`'s allocations keep: the whole ring in increasing Lamport
time, none past the clock. -/
structure Timed (ring : KeyRing) : Prop where
  sorted : (ring.keys.map (·.lamportTime)).Pairwise (· < ·)
  clock : ∀ key ∈ ring.keys, key.lamportTime ≤ ring.lClock

theorem appendNewKey_timed {ring : KeyRing} (hring : Timed ring)
    (hwrap : ring.lClock.toNat + 1 < 2 ^ 64) (subsys : String) :
    Timed (appendNewKey random subsys ring) := by
  have hlt : ring.lClock < ring.lClock + 1 := by
    rw [UInt64.lt_iff_toNat_lt, toNat_succ]
    omega
  constructor
  · rw [appendNewKey_keys]
    exact sorted_append_newer hring.sorted hring.clock hlt
  · intro key hkey
    rw [appendNewKey_keys] at hkey
    rcases List.mem_append.mp hkey with hold | hnew
    · exact UInt64.le_of_lt (UInt64.lt_of_le_of_lt (hring.clock key hold) hlt)
    · rw [List.mem_singleton.mp hnew]
      exact UInt64.le_refl _

/-- `n` allocations for one subsystem, without a wrap. -/
theorem iterate_appendNewKey (subsys : String) (n : Nat) {ring : KeyRing} (hring : Timed ring)
    (hwrap : ring.lClock.toNat + n < 2 ^ 64) :
    Timed ((appendNewKey random subsys)^[n] ring) ∧
      ((appendNewKey random subsys)^[n] ring).lClock.toNat = ring.lClock.toNat + n := by
  induction n with
  | zero => exact ⟨hring, rfl⟩
  | succ n ih =>
    obtain ⟨ht, hclock⟩ := ih (by omega)
    rw [Function.iterate_succ_apply']
    refine ⟨appendNewKey_timed random ht (by omega) subsys, ?_⟩
    rw [appendNewKey_lClock, toNat_succ, hclock]
    omega

theorem length_subsysKeys_iterate (subsys : String) (n : Nat) (ring : KeyRing) (s : String) :
    (subsysKeys ((appendNewKey random subsys)^[n] ring).keys s).length =
      (subsysKeys ring.keys s).length + if subsys = s then n else 0 := by
  induction n with
  | zero => simp
  | succ n ih =>
    have hnew : ∀ key ∈ [(allocateKey random ((appendNewKey random subsys)^[n] ring) subsys).2],
        key.subsystem = subsys := by
      intro key hkey
      rw [List.mem_singleton.mp hkey]
      rfl
    rw [Function.iterate_succ_apply', appendNewKey_keys, subsysKeys_append, List.length_append, ih,
      subsysKeys_of_forall hnew]
    by_cases hs : subsys = s
    · simp only [hs, if_true, List.length_singleton]
      omega
    · simp only [hs, if_false, List.length_nil]

theorem subsystem_of_mem_iterate {subsys : String} {n : Nat} {ring : KeyRing} {key : EncryptionKey}
    (h : key ∈ ((appendNewKey random subsys)^[n] ring).keys) : key ∈ ring.keys ∨ key.subsystem = subsys := by
  induction n with
  | zero => exact .inl h
  | succ n ih =>
    rw [Function.iterate_succ_apply', appendNewKey_keys] at h
    rcases List.mem_append.mp h with h | h
    · exact ih h
    · exact .inr (by rw [List.mem_singleton.mp h]; rfl)

/-- `Run`'s allocation loop: each configured subsystem gains `keyringSize`
keys, in increasing time, and the clock advances by as many. -/
theorem foldl_allocate (subs : List String) {ring : KeyRing} (hring : Timed ring)
    (hwrap : ring.lClock.toNat + keyringSize * subs.length < 2 ^ 64) :
    let ring' := subs.foldl (fun ring subsys => (appendNewKey random subsys)^[keyringSize] ring) ring
    Timed ring' ∧ ring'.lClock.toNat = ring.lClock.toNat + keyringSize * subs.length ∧
      (∀ s, (subsysKeys ring'.keys s).length = (subsysKeys ring.keys s).length + keyringSize * subs.count s) ∧
      ∀ key ∈ ring'.keys, key ∈ ring.keys ∨ key.subsystem ∈ subs := by
  induction subs generalizing ring with
  | nil => exact ⟨hring, rfl, fun _ => rfl, fun _ h => .inl h⟩
  | cons subsys subs ih =>
    have hsize : keyringSize = 3 := rfl
    simp only [List.length_cons, hsize] at hwrap
    obtain ⟨ht, hclock⟩ := iterate_appendNewKey random subsys keyringSize hring (by omega)
    obtain ⟨ht', hclock', hlen', hmem'⟩ := ih ht (by rw [hclock, hsize]; omega)
    refine ⟨ht', ?_, fun s => ?_, fun key hkey => ?_⟩
    · rw [List.foldl_cons, hclock', hclock, List.length_cons, hsize]
      omega
    · rw [List.foldl_cons, hlen', length_subsysKeys_iterate, List.count_cons]
      by_cases hs : subsys = s
      · simp only [hs, if_true, beq_self_eq_true, hsize]
        omega
      · simp [hs]
    · rw [List.foldl_cons] at hkey
      rcases hmem' key hkey with h | h
      · rcases subsystem_of_mem_iterate random h with h | h
        · exact .inl h
        · exact .inr (h ▸ List.mem_cons_self)
      · exact .inr (List.mem_cons_of_mem _ h)

theorem ringInv_of_timed {ring : KeyRing} (ht : Timed ring)
    (hbound : ∀ s, (subsysKeys ring.keys s).length ≤ keyringSize) : RingInv ring where
  sorted _ := ht.sorted.sublist ((List.filter_sublist (l := ring.keys)).map _)
  bounded := hbound
  clock := ht.clock

-- =============== the leader's life

/-- A subsystem `New` accepts. -/
def ValidSubsystem (s : String) : Prop := s = subsystemGossip ∨ s = subsystemIPSec

/-- A ring the code can have written, its clock at most `B`. -/
structure Kept (B : Nat) (ring : KeyRing) : Prop where
  inv : RingInv ring
  valid : ∀ key ∈ ring.keys, ValidSubsystem key.subsystem
  bound : ring.lClock.toNat ≤ B

theorem Kept.mono {B B' : Nat} {ring : KeyRing} (h : Kept B ring) (hB : B ≤ B') : Kept B' ring :=
  ⟨h.inv, h.valid, Nat.le_trans h.bound hB⟩

theorem kept_of_keys_nil {B : Nat} {ring : KeyRing} (hkeys : ring.keys = [])
    (hbound : ring.lClock.toNat ≤ B) : Kept B ring where
  inv := ⟨fun _ => by simp [hkeys, subsysKeys], fun _ => by simp [hkeys, subsysKeys],
    fun _ h => by simp [hkeys] at h⟩
  valid _ h := by simp [hkeys] at h
  bound := hbound

/-- The live ring and the stored one are both rings the code can have
written. -/
def ManagerInv (B : Nat) (km : KeyManager) : Prop :=
  Kept B km.keyRing ∧ Kept B (storedRing km.cluster)

/-- An election whose configuration lists each subsystem once, which
`New` does not check. -/
def Event.Sane : Event → Prop
  | .elect config _ => config.subsystems.Nodup
  | .rotate _ _ => True

/-- Each subsystem once, each gossip or IPSec: at most two. -/
theorem length_le_two {l : List String} (hnd : l.Nodup) (hvalid : ∀ s ∈ l, ValidSubsystem s) :
    l.length ≤ 2 := by
  have hsub : l ⊆ [subsystemGossip, subsystemIPSec] := by
    intro s hs
    rcases hvalid s hs with h | h <;> simp [h]
  exact (List.Nodup.subperm hnd hsub).length_le

theorem length_subsystems_le {keys : List EncryptionKey}
    (hvalid : ∀ key ∈ keys, ValidSubsystem key.subsystem) : (subsystems keys).length ≤ 2 := by
  refine length_le_two (nodup_subsystems keys) fun s hs => ?_
  obtain ⟨key, hkey, rfl⟩ := mem_subsystems.mp hs
  exact hvalid key hkey

/-- A rotation of a ring the code wrote allocates at most two keys. -/
theorem Kept.length_order_le {B : Nat} {ring : KeyRing} (h : Kept B ring) {order : List String}
    (horder : order.Perm (subsystems ring.keys)) : order.length ≤ 2 :=
  horder.length_eq ▸ length_subsystems_le h.valid

theorem new_eq_some {config : Config} {cluster : Cluster} {skew : UInt16} {km : KeyManager}
    (h : new config cluster skew = some km) :
    (∀ s ∈ config.subsystems, ValidSubsystem s) ∧
      km = { config, keyRing := ⟨skew.toUInt64, []⟩, cluster } := by
  unfold new at h
  split at h
  case isTrue hall =>
    refine ⟨fun s hs => ?_, (Option.some.inj h).symm⟩
    simpa [ValidSubsystem] using List.all_eq_true.mp hall s hs
  case isFalse => cases h

section Life

variable {B : Nat} {km km' : KeyManager}

/-- A new leader keeps the invariant: it restores a stored ring the code
wrote, or allocates a first one from its skew. -/
theorem elect_managerInv (hinv : ManagerInv B km) (hB : 65535 ≤ B) (hwrap : B + 6 < 2 ^ 64)
    {config : Config} {skew : UInt16} (hnd : config.subsystems.Nodup)
    (h : step random (.elect config skew) km = some km') : ManagerInv (B + 6) km' := by
  obtain ⟨km₁, hnew, rfl⟩ := Option.map_eq_some_iff.mp h
  obtain ⟨hvalid, rfl⟩ := new_eq_some hnew
  by_cases hempty : km.cluster.networkBootstrapKeys = []
  · -- the first leader allocates `keyringSize` keys per subsystem from its skew
    have hlen := length_le_two hnd hvalid
    have hsize : keyringSize = 3 := rfl
    have hskew : skew.toUInt64.toNat ≤ 65535 := by
      have := skew.toNat_lt
      simp only [UInt16.toNat_toUInt64]
      omega
    have htimed : Timed ⟨skew.toUInt64, []⟩ := ⟨List.Pairwise.nil, fun _ h => nomatch h⟩
    obtain ⟨ht, hclock, hcount, hmem⟩ := foldl_allocate random config.subsystems htimed
      (by dsimp only; rw [hsize]; omega)
    have hkept : Kept (B + 6) (config.subsystems.foldl
        (fun ring subsys => (appendNewKey random subsys)^[keyringSize] ring) ⟨skew.toUInt64, []⟩) := by
      refine ⟨ringInv_of_timed ht fun s => ?_, fun key hkey => ?_, ?_⟩
      · rw [hcount s]
        have := List.nodup_iff_count_le_one.mp hnd s
        simp only [subsysKeys, List.filter_nil, List.length_nil, hsize]
        omega
      · rcases hmem key hkey with h | h
        · cases h
        · exact hvalid _ h
      · dsimp only at hclock
        rw [hclock, hsize]
        omega
    rw [run_of_empty random ⟨config, ⟨skew.toUInt64, []⟩, km.cluster⟩ hempty]
    exact ⟨hkept, hkept⟩
  · -- a later leader restores the stored ring
    rw [run_of_stored random ⟨config, ⟨skew.toUInt64, []⟩, km.cluster⟩ hempty]
    exact ⟨hinv.2.mono (by omega), hinv.2.mono (by omega)⟩

/-- What a rotation tick can do: walk the map in orders of its keys, on a
cluster with keys, and store the rotated ring. -/
theorem step_rotate_eq {order order' : List String} (h : step random (.rotate order order') km = some km') :
    order.Perm (subsystems km.keyRing.keys) ∧ order'.Perm (subsystems km.keyRing.keys) ∧
      km.cluster.networkBootstrapKeys ≠ [] ∧
      km' = { km with keyRing := rotateRing random order order' km.keyRing,
                      cluster := updateKey (rotateRing random order order' km.keyRing) km.cluster } := by
  simp only [step] at h
  split at h
  case isFalse => cases h
  case isTrue hp =>
    unfold rotateKey at h
    split at h
    case isTrue => cases h
    case isFalse hne => exact ⟨hp.1, hp.2, hne, (Option.some.inj h).symm⟩

/-- A rotation tick keeps the invariant, within two allocations. -/
theorem rotate_managerInv (hinv : ManagerInv B km) (hwrap : B + 6 < 2 ^ 64)
    {order order' : List String} (h : step random (.rotate order order') km = some km') :
    ManagerInv (B + 6) km' := by
  obtain ⟨horder, horder', -, rfl⟩ := step_rotate_eq random h
  have hlen := hinv.1.length_order_le horder
  have hbound := hinv.1.bound
  have hkept : Kept (B + 6) (rotateRing random order order' km.keyRing) := by
    refine ⟨rotateRing_inv random hinv.1.inv horder horder' (by omega), fun key hkey => ?_, ?_⟩
    · obtain ⟨k, hk, hsub⟩ := mem_subsystems.mp (mem_subsystems_of_mem_rotateRing random horder' hkey)
      exact hsub ▸ hinv.1.valid k hk
    · rw [rotateRing_lClock]
      omega
  exact ⟨hkept, hkept⟩

theorem step_managerInv (hinv : ManagerInv B km) (hB : 65535 ≤ B) (hwrap : B + 6 < 2 ^ 64)
    {e : Event} (he : e.Sane) (h : step random e km = some km') : ManagerInv (B + 6) km' := by
  cases e with
  | elect config skew => exact elect_managerInv random hinv hB hwrap he h
  | rotate order order' => exact rotate_managerInv random hinv hwrap h

/-- The run lemma: a run of `n` sane events keeps the invariant, the clock
bound growing by six an event. -/
theorem run_managerInv {evs : List Event} (hsane : ∀ e ∈ evs, e.Sane) (hinv : ManagerInv B km)
    (hB : 65535 ≤ B) (hwrap : B + 6 * evs.length < 2 ^ 64)
    (hrun : Lts.run (step random) km evs = some km') : ManagerInv (B + 6 * evs.length) km' := by
  induction evs generalizing B km with
  | nil =>
    cases hrun
    exact hinv
  | cons e evs ih =>
    rw [Lts.run_cons] at hrun
    obtain ⟨km₁, hstep, hrest⟩ := Option.bind_eq_some_iff.mp hrun
    simp only [List.length_cons] at hwrap ⊢
    have hinv₁ := step_managerInv random hinv hB (by omega) (hsane e List.mem_cons_self) hstep
    have := ih (fun e he => hsane e (List.mem_cons_of_mem _ he)) hinv₁ (by omega) (by omega) hrest
    rwa [show B + 6 + 6 * evs.length = B + 6 * (evs.length + 1) by omega] at this

end Life

/-- Along every run of a cluster's key managers from a cluster with no
key, with each election configuring a subsystem once, the ring keeps
`RingInv`, and the next rotation drops exactly the first key, the
oldest, of every full subsystem: the code never reaches a ring on which
its minimum search misses. -/
theorem run_rotation_drops_oldest {km₀ km km' : KeyManager} {evs : List Event}
    {order order' : List String} (hkeys : km₀.keyRing.keys = [])
    (hstored : km₀.cluster.networkBootstrapKeys = []) (hclock : km₀.keyRing.lClock.toNat ≤ 65535)
    (hcluster : km₀.cluster.encryptionKeyLamportClock.toNat ≤ 65535) (hsane : ∀ e ∈ evs, e.Sane)
    (hwrap : 65535 + 6 * (evs.length + 1) < 2 ^ 64)
    (hrun : Lts.run (step random) km₀ evs = some km)
    (hrot : step random (.rotate order order') km = some km') :
    RingInv km.keyRing ∧ ∀ s ∈ subsystems km.keyRing.keys, ∃ key, key.subsystem = s ∧
      (∀ k ∈ subsysKeys km.keyRing.keys s, k.lamportTime < key.lamportTime) ∧
      subsysKeys km'.keyRing.keys s =
        (if (subsysKeys km.keyRing.keys s).length = keyringSize then (subsysKeys km.keyRing.keys s).tail
          else subsysKeys km.keyRing.keys s) ++ [key] := by
  have hinit : ManagerInv 65535 km₀ :=
    ⟨kept_of_keys_nil hkeys hclock, kept_of_keys_nil hstored hcluster⟩
  have hinv := run_managerInv random hsane hinit (Nat.le_refl _) (by omega) hrun
  obtain ⟨horder, horder', -, rfl⟩ := step_rotate_eq random hrot
  have hlen := hinv.1.length_order_le horder
  have hbound := hinv.1.bound
  exact ⟨hinv.1.inv, fun s hs =>
    rotateRing_drops_oldest random hinv.1.inv horder horder' (by omega) hs⟩

/-- A manager with no key, configured for nothing yet, on a cluster with
no key. -/
def keylessManager : KeyManager := ⟨⟨[]⟩, ⟨0, []⟩, ⟨[], 0⟩⟩

/-- A leader configured for gossip starts on the keyless cluster, and
the rotation ticker fires: the rotation drops the first of the three keys
`Run` allocated, the oldest. -/
theorem elected_ring_drops_oldest :
    ∃ km km', Lts.run (step fun _ => []) keylessManager [.elect ⟨[subsystemGossip]⟩ 0] = some km ∧
      step (fun _ => []) (.rotate [subsystemGossip] [subsystemGossip]) km = some km' ∧
      (subsysKeys km.keyRing.keys subsystemGossip).length = keyringSize ∧
      (RingInv km.keyRing ∧ ∀ s ∈ subsystems km.keyRing.keys, ∃ key, key.subsystem = s ∧
        (∀ k ∈ subsysKeys km.keyRing.keys s, k.lamportTime < key.lamportTime) ∧
        subsysKeys km'.keyRing.keys s =
          (if (subsysKeys km.keyRing.keys s).length = keyringSize then
            (subsysKeys km.keyRing.keys s).tail
          else subsysKeys km.keyRing.keys s) ++ [key]) := by
  obtain ⟨km, hrun⟩ : ∃ km,
      Lts.run (step fun _ => []) keylessManager [.elect ⟨[subsystemGossip]⟩ 0] = some km :=
    ⟨_, rfl⟩
  have hfull : (subsysKeys km.keyRing.keys subsystemGossip).length = keyringSize := by
    cases hrun
    decide
  obtain ⟨km', hrot⟩ : ∃ km',
      step (fun _ => []) (.rotate [subsystemGossip] [subsystemGossip]) km = some km' := by
    cases hrun
    exact ⟨_, rfl⟩
  have hsane : ∀ e ∈ [Event.elect ⟨[subsystemGossip]⟩ 0], e.Sane := by
    simp [Event.Sane]
  exact ⟨km, km', hrun, hrot, hfull, run_rotation_drops_oldest (fun _ => []) rfl rfl (by decide)
    (by decide) hsane (by decide) hrun hrot⟩

end SwarmKit.Keymanager
