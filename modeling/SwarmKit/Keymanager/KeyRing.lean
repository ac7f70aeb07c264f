import Mathlib.Data.List.Dedup
import Mathlib.Logic.Function.Iterate

/-
The network encryption key ring the leader keeps and rotates
(manager/keymanager/keymanager.go `New`, `allocateKey`, `updateKey`,
`rotateKey`, `Run`).

# The ring

The ring holds the keys of the overlay network's subsystems, gossip and
IPSec, each stamped with the Lamport time of the allocation that made
it; the ring's clock is the last time handed out. The cluster object
stores the ring and its clock, and `Run` starts a new leader's ring from
it, or, when it has no key yet, allocates `keyringSize` keys for each
configured subsystem and stores them.

# Rotation

Every rotation interval `rotateKey` groups the ring's keys by subsystem
in a map, and for each subsystem drops one key when it holds
`keyringSize` of them, the one its minimum search lands on, and appends
a new one. The ring is then gathered back from the map and stored.

# Reading the source

Both loops over the subsystem map go in an order the runtime picks: the
two orders are arguments (`order`, `order'`), and every result that
holds whatever they are asks only that each list the map's keys once.
The bytes `cryptorand.Read` draws for a key are an argument too, one
draw for each Lamport time. Clocks and times are `uint64`, so
`lClock++` wraps. A cluster the store lookup does not find and the
store's errors are left out; a panic is `none`. A leader's life is a
list of events: elections, each starting a new manager on the stored
cluster, and rotation ticks.
-/

namespace SwarmKit.Keymanager

-- ======================== the keys

/-- A byte string. -/
abbrev Bytes := List UInt8

/-- `keyringSize`. -/
def keyringSize : Nat := 3

/-- `SubsystemGossip`. -/
def subsystemGossip : String := "networking:gossip"

/-- `SubsystemIPSec`. -/
def subsystemIPSec : String := "networking:ipsec"

/-- `api.EncryptionKey_Algorithm`. -/
inductive Algorithm
  | aes128GCM
  deriving DecidableEq, Repr

/-- `subsysToAlgo[subsys]`: both subsystems use AES-128-GCM, and the map's
zero value is AES-128-GCM as well. -/
def subsysToAlgo (_subsys : String) : Algorithm := .aes128GCM

/-- `api.EncryptionKey`. -/
structure EncryptionKey where
  subsystem : String
  algorithm : Algorithm
  key : Bytes
  lamportTime : UInt64
  deriving DecidableEq, Repr

/-- `keyRing`. -/
structure KeyRing where
  lClock : UInt64
  keys : List EncryptionKey
  deriving DecidableEq, Repr

/-- The `Config` fields the ring reads. -/
structure Config where
  subsystems : List String
  deriving DecidableEq, Repr

/-- The fields of `api.Cluster` the key manager reads and writes. -/
structure Cluster where
  networkBootstrapKeys : List EncryptionKey
  encryptionKeyLamportClock : UInt64
  deriving DecidableEq, Repr

/-- `KeyManager`, with the cluster object it finds in the store. -/
structure KeyManager where
  config : Config
  keyRing : KeyRing
  cluster : Cluster
  deriving DecidableEq, Repr

/-- `New(store, config)`, with the skew `genSkew` draws: `none` when a
configured subsystem is neither gossip nor IPSec. -/
def new (config : Config) (cluster : Cluster) (skew : UInt16) : Option KeyManager :=
  if config.subsystems.all (fun subsys => subsys = subsystemGossip || subsys = subsystemIPSec) then
    some { config, keyRing := ⟨skew.toUInt64, []⟩, cluster }
  else none

-- ====================== allocating

/-- `allocateKey(ctx, subsys)`: the clock advances and the new key takes
its time; `random` gives the key's bytes. -/
def allocateKey (random : UInt64 → Bytes) (ring : KeyRing) (subsys : String) :
    KeyRing × EncryptionKey :=
  let lClock := ring.lClock + 1
  ({ ring with lClock },
    { subsystem := subsys, algorithm := subsysToAlgo subsys, key := random lClock,
      lamportTime := lClock })

/-- `updateKey(cluster)`: the cluster takes the ring and its clock. -/
def updateKey (ring : KeyRing) (cluster : Cluster) : Cluster :=
  { cluster with encryptionKeyLamportClock := ring.lClock, networkBootstrapKeys := ring.keys }

-- ======================== rotating

/-- The keys of one subsystem, in ring order: the map `rotateKey` builds
holds these under `subsys`. -/
def subsysKeys (keys : List EncryptionKey) (subsys : String) : List EncryptionKey :=
  keys.filter (·.subsystem == subsys)

/-- The keys of the subsystem map: each subsystem of the ring once. -/
def subsystems (keys : List EncryptionKey) : List String :=
  (keys.map (·.subsystem)).dedup

/-- `keys[i].LamportTime`; the search below reads it only in range. -/
def timeAt (keys : List EncryptionKey) (i : Nat) : UInt64 :=
  (keys[i]?.map (·.lamportTime)).getD 0

/-- The minimum search of `rotateKey`: it walks `keys[1:]`, compares each
key with `keys[min]`, and records the key's index in the sub-slice. -/
def minIndex (keys : List EncryptionKey) : Nat :=
  (keys.drop 1).zipIdx.foldl
    (fun min (key, i) => if key.lamportTime < timeAt keys min then i else min) 0

/-- One subsystem's keys before the new one is appended:
`append(keys[0:min], keys[min+1:]...)` when the subsystem is full. -/
def dropOldest (keys : List EncryptionKey) : List EncryptionKey :=
  if keys.length = keyringSize then
    let min := minIndex keys
    keys.take min ++ keys.drop (min + 1)
  else keys

/-- The body of the rotation loop for one subsystem. -/
def rotateSubsystem (random : UInt64 → Bytes)
    (st : KeyRing × (String → List EncryptionKey)) (subsys : String) :
    KeyRing × (String → List EncryptionKey) :=
  let keys := dropOldest (st.2 subsys)
  let (ring, key) := allocateKey random st.1 subsys
  (ring, Function.update st.2 subsys (keys ++ [key]))

/-- The ring after `rotateKey`'s loops over the subsystem map: rotating in
order `order`, then gathering the keys back in order `order'`. -/
def rotateRing (random : UInt64 → Bytes) (order order' : List String) (ring : KeyRing) :
    KeyRing :=
  let st := order.foldl (rotateSubsystem random) ({ ring with keys := [] }, subsysKeys ring.keys)
  { st.1 with keys := order'.flatMap st.2 }

/-- `rotateKey(ctx)`: `none` where it panics, on a cluster with no key. -/
def rotateKey (random : UInt64 → Bytes) (order order' : List String) (km : KeyManager) :
    Option KeyManager :=
  if km.cluster.networkBootstrapKeys = [] then none
  else
    let keyRing := rotateRing random order order' km.keyRing
    some { km with keyRing, cluster := updateKey keyRing km.cluster }

-- ========================= running

/-- `k.keyRing.keys = append(k.keyRing.keys, k.allocateKey(ctx, subsys))`. -/
def appendNewKey (random : UInt64 → Bytes) (subsys : String) (ring : KeyRing) : KeyRing :=
  let (ring', key) := allocateKey random ring subsys
  { ring' with keys := ring.keys ++ [key] }

/-- The start of `Run`: the cluster's ring when it has keys, otherwise
`keyringSize` new keys for each configured subsystem, stored. -/
def run (random : UInt64 → Bytes) (km : KeyManager) : KeyManager :=
  if km.cluster.networkBootstrapKeys = [] then
    let keyRing := km.config.subsystems.foldl
      (fun ring subsys => (appendNewKey random subsys)^[keyringSize] ring) km.keyRing
    { km with keyRing, cluster := updateKey keyRing km.cluster }
  else
    { km with keyRing := ⟨km.cluster.encryptionKeyLamportClock, km.cluster.networkBootstrapKeys⟩ }

-- =============== the leader's life

/-- What happens to a cluster's key manager: a leader is elected and
starts its manager (`New`, then `Run`), or the rotation ticker fires. -/
inductive Event
  | elect (config : Config) (skew : UInt16)
  | rotate (order order' : List String)
  deriving DecidableEq, Repr

/-- One event on the manager of the last leader. A new leader's manager
starts on the stored cluster. The runtime walks the subsystem map in an
order of its keys: another order is no step. -/
def step (random : UInt64 → Bytes) : Event → KeyManager → Option KeyManager
  | .elect config skew, km => (new config km.cluster skew).map (run random)
  | .rotate order order', km =>
    if order.Perm (subsystems km.keyRing.keys) ∧ order'.Perm (subsystems km.keyRing.keys) then
      rotateKey random order order' km
    else none

end SwarmKit.Keymanager
