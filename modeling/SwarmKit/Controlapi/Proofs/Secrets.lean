import SwarmKit.Controlapi.Secrets
import SwarmKit.Lib.NonInterference

/-
Whether secret material leaves through the client-facing APIs
(`Secrets.lean`).

# The control API

Of a secret or a cluster, the calls read only what `scrub` keeps (IDs,
versions, names, labels, flags), and what they reply is redacted, which
clears at least what `scrub` clears. So each reply is the same on a
store and on its scrub (`getSecret_scrub`, `listSecrets_scrub`,
`createSecret_scrub`, `getCluster_scrub`, `listClusters_scrub`), and the
calls are non-interfering (`controlapi_nonInterfering`). `UpdateSecret`
is too on a request without data (`updateSecret_scrub_of_nil`).

# The leaks

A request with data makes `UpdateSecret` compare it with the stored
data and refuse a difference: whether it succeeds says whether the guess
was right. And the watch API sends store events through
`WatchMessageEvent`, which embeds the objects as stored: a watch on the
secret table receives each secret with its data
(`watch_sends_secret_data`).
-/

namespace SwarmKit.Controlapi

open SwarmKit.Store SwarmKit.Watchapi

variable {B : Type} {v : StoreView}

-- ============ what scrubbing keeps

@[simp] theorem scrubObject_id (scrub : B → B) (o : Object B) : (scrubObject scrub o).id = o.id := rfl

@[simp] theorem scrubObject_objMeta (scrub : B → B) (o : Object B) :
    (scrubObject scrub o).objMeta = o.objMeta := rfl

@[simp] theorem scrubObject_body (scrub : B → B) (o : Object B) :
    (scrubObject scrub o).body = scrub o.body := rfl

@[simp] theorem SecretBody.scrub_annotations (s : SecretBody) : s.scrub.spec.annotations = s.spec.annotations :=
  rfl

/-- The secret `UpdateSecret` writes back, from a scrubbed secret, is the
scrub of the one it writes back from the secret. -/
theorem relabel_scrub (secret : Object SecretBody) (version : Version) (labels : List (String × String)) :
    relabel (scrubObject SecretBody.scrub secret) version labels =
      scrubObject SecretBody.scrub (relabel secret version labels) := rfl

@[simp] theorem StoreView.scrub_secrets (v : StoreView) :
    v.scrub.secrets = v.secrets.map (scrubObject SecretBody.scrub) := rfl

@[simp] theorem StoreView.scrub_clusters (v : StoreView) :
    v.scrub.clusters = v.clusters.map (scrubObject ClusterBody.scrub) := rfl

/-- Redacting a cluster drops or clears every key, and so forgets the
scrub. -/
theorem redactCluster_scrub (c : Object ClusterBody) :
    redactCluster (scrubObject ClusterBody.scrub c) = redactCluster c := by
  -- only the rotation's key sits under a constructor the scrub maps over
  cases hr : c.body.rootCA.rootRotation with
  | none => simp [redactCluster, scrubObject, ClusterBody.scrub, hr]
  | some r => simp [redactCluster, scrubObject, ClusterBody.scrub, hr]

-- =========== lookups and scrubbing

theorem StoreView.getSecret_scrub (v : StoreView) (id : Nat) :
    v.scrub.getSecret id = (v.getSecret id).map (scrubObject SecretBody.scrub) := by
  rw [StoreView.getSecret, StoreView.scrub_secrets, List.find?_map]
  rfl

theorem StoreView.getCluster_scrub (v : StoreView) (id : Nat) :
    v.scrub.getCluster id = (v.getCluster id).map (scrubObject ClusterBody.scrub) := by
  rw [StoreView.getCluster, StoreView.scrub_clusters, List.find?_map]
  rfl

theorem StoreView.secretByName_scrub (v : StoreView) (name : String) :
    v.scrub.secretByName name = (v.secretByName name).map (scrubObject SecretBody.scrub) := by
  rw [StoreView.secretByName, StoreView.scrub_secrets, List.find?_map]
  rfl

/-- `tx.find`'s deduplication reads only IDs. Induction on the objects,
the accumulator mapped alongside. -/
theorem dedupByID_map (g : Object B → Object B) (hg : ∀ o, (g o).id = o.id) (l : List (Object B)) :
    dedupByID (l.map g) = (dedupByID l).map g := by
  unfold dedupByID
  suffices h : ∀ acc : List (Object B),
      (l.map g).foldl (fun acc o => if acc.any (·.id == o.id) then acc else acc ++ [o]) (acc.map g) =
        (l.foldl (fun acc o => if acc.any (·.id == o.id) then acc else acc ++ [o]) acc).map g from h []
  induction l with
  | nil => intro acc; rfl
  | cons o l ih =>
      intro acc
      have hany : (acc.map g).any (·.id == (g o).id) = acc.any (·.id == o.id) := by
        simp [hg, Function.comp_def]
      rw [List.map_cons, List.foldl_cons, List.foldl_cons, hany]
      by_cases hin : acc.any (·.id == o.id) = true
      · rw [if_pos hin, if_pos hin]
        exact ih acc
      · rw [if_neg hin, if_neg hin, ← ih, List.map_append, List.map_singleton]

/-- Every selection `ListSecrets` makes reads a secret's name or ID. -/
theorem secretBys_scrub (f : ListFilters) :
    ∀ sel ∈ f.secretBys, ∀ s, sel (scrubObject SecretBody.scrub s) = sel s := by
  intro sel hsel s
  simp only [ListFilters.secretBys, List.mem_append, List.mem_map] at hsel
  rcases hsel with (⟨n, -, rfl⟩ | ⟨p, -, rfl⟩) | ⟨p, -, rfl⟩ <;> rfl

theorem StoreView.findSecrets_scrub (v : StoreView) (bys : List (Object SecretBody → Bool))
    (hbys : ∀ sel ∈ bys, ∀ s, sel (scrubObject SecretBody.scrub s) = sel s) :
    v.scrub.findSecrets bys = (v.findSecrets bys).map (scrubObject SecretBody.scrub) := by
  cases bys with
  | nil => rfl
  | cons sel bys =>
      simp only [StoreView.findSecrets]
      rw [← dedupByID_map _ (scrubObject_id _), List.map_flatMap, StoreView.scrub_secrets]
      congr 1
      apply List.flatMap_congr
      intro sel' hsel'
      -- a selection keeps a scrubbed secret when it keeps the secret
      have hcomp : sel' ∘ scrubObject SecretBody.scrub = sel' := funext (hbys sel' hsel')
      rw [List.filter_map, hcomp]

-- ===================== the replies

theorem getSecret_scrub (secretID : Option Nat) : getSecret v.scrub secretID = getSecret v secretID := by
  cases secretID with
  | none => rfl
  | some secretID =>
      simp only [getSecret, StoreView.getSecret_scrub]
      cases v.getSecret secretID with
      | none => rfl
      | some secret => rfl

theorem listSecrets_scrub (filters : ListFilters) : listSecrets v.scrub filters = listSecrets v filters := by
  unfold listSecrets
  rw [StoreView.findSecrets_scrub v _ (secretBys_scrub filters), List.filter_map, List.map_map]
  rfl

/-- `store.CreateSecret` decides on the name and the ID alone. -/
theorem StoreView.createSecret_scrub (curVersion : Option Version) (now : Nat) (secret : Object SecretBody) :
    v.scrub.createSecret curVersion now secret = v.createSecret curVersion now secret := by
  simp only [StoreView.createSecret, StoreView.secretByName_scrub, StoreView.getSecret_scrub,
    Option.isSome_map]

theorem createSecret_scrub (newSecretDriver : String → Except String Unit) (newID : Nat)
    (curVersion : Option Version) (now : Nat) (spec : SecretSpec) :
    createSecret newSecretDriver newID curVersion now v.scrub spec =
      createSecret newSecretDriver newID curVersion now v spec := by
  simp only [createSecret, StoreView.createSecret_scrub]

/-- `tx.update` reads the stored secret's version only. -/
theorem StoreView.txUpdateSecret_scrub (curVersion : Option Version) (now : Nat) (secret : Object SecretBody) :
    v.scrub.txUpdateSecret curVersion now (scrubObject SecretBody.scrub secret) =
      (v.txUpdateSecret curVersion now secret).map (scrubObject SecretBody.scrub) := by
  unfold StoreView.txUpdateSecret
  rw [scrubObject_id, StoreView.getSecret_scrub]
  cases v.getSecret secret.id with
  | none => rfl
  | some old =>
      simp only [Option.map_some]
      -- the version check reads what the scrub keeps
      split
      · next hc =>
          rw [scrubObject_objMeta, scrubObject_objMeta] at hc
          rw [if_pos hc]
          rfl
      · next hc =>
          rw [scrubObject_objMeta, scrubObject_objMeta] at hc
          rw [if_neg hc]
          rfl

theorem StoreView.updateSecret_scrub (curVersion : Option Version) (now : Nat) (secret : Object SecretBody) :
    v.scrub.updateSecret curVersion now (scrubObject SecretBody.scrub secret) =
      (v.updateSecret curVersion now secret).map (scrubObject SecretBody.scrub) := by
  unfold StoreView.updateSecret
  rw [StoreView.secretByName_scrub, scrubObject_body, SecretBody.scrub_annotations]
  cases v.secretByName secret.body.spec.annotations.name with
  | none => exact v.txUpdateSecret_scrub curVersion now secret
  | some existing =>
      simp only [Option.map_some]
      split
      · next hid =>
          rw [scrubObject_id, scrubObject_id] at hid
          rw [if_pos hid]
          rfl
      · next hid =>
          rw [scrubObject_id, scrubObject_id] at hid
          rw [if_neg hid]
          exact v.txUpdateSecret_scrub curVersion now secret

/-- Without data in the request, `UpdateSecret` never reads the stored
data. -/
theorem updateSecret_scrub_of_nil (curVersion : Option Version) (now : Nat) (request : UpdateSecretRequest)
    (hdata : request.spec.data = []) :
    updateSecret curVersion now v.scrub request = updateSecret curVersion now v request := by
  obtain ⟨_ | secretID, _ | secretVersion, spec⟩ := request
  · rfl
  · rfl
  · rfl
  · simp only [updateSecret, StoreView.getSecret_scrub]
    cases v.getSecret secretID with
    | none => rfl
    | some secret =>
        simp only at hdata
        simp only [Option.map_some, hdata, ne_eq, not_true_eq_false, false_and, or_false]
        split
        · next hname =>
            rw [scrubObject_body, SecretBody.scrub_annotations] at hname
            rw [if_pos hname]
        · next hname =>
            rw [scrubObject_body, SecretBody.scrub_annotations] at hname
            rw [if_neg hname, relabel_scrub, StoreView.updateSecret_scrub]
            -- what is written is redacted, so its scrub replies the same
            cases v.updateSecret curVersion now (relabel secret secretVersion spec.annotations.labels) with
            | error e => rfl
            | ok written => rfl

theorem getCluster_scrub (clusterID : Option Nat) : getCluster v.scrub clusterID = getCluster v clusterID := by
  cases clusterID with
  | none => rfl
  | some clusterID =>
      simp only [getCluster, StoreView.getCluster_scrub]
      cases v.getCluster clusterID with
      | none => rfl
      | some cluster => simp only [Option.map_some, redactCluster_scrub]

theorem listClusters_scrub (filters : Option ListFilters) :
    listClusters v.scrub filters = listClusters v filters := by
  have hredact : ∀ l : List (Object ClusterBody),
      redactClusters (l.map (scrubObject ClusterBody.scrub)) = redactClusters l := by
    intro l
    simp only [redactClusters, List.map_map]
    exact List.map_congr_left fun c _ => redactCluster_scrub c
  cases filters with
  | none => exact hredact v.clusters
  | some f =>
      simp only [listClusters, StoreView.scrub_clusters, List.filter_map]
      exact hredact _

/-- The secret and cluster calls reply the same on two stores that differ
only in secret material: the reads, `CreateSecret`, and `UpdateSecret`
on a request without data. -/
theorem controlapi_nonInterfering :
    (∀ secretID, NonInterfering StoreView.scrub fun v => getSecret v secretID) ∧
    (∀ filters, NonInterfering StoreView.scrub fun v => listSecrets v filters) ∧
    (∀ newSecretDriver newID curVersion now spec,
      NonInterfering StoreView.scrub fun v => createSecret newSecretDriver newID curVersion now v spec) ∧
    (∀ curVersion now (request : UpdateSecretRequest), request.spec.data = [] →
      NonInterfering StoreView.scrub fun v => updateSecret curVersion now v request) ∧
    (∀ clusterID, NonInterfering StoreView.scrub fun v => getCluster v clusterID) ∧
    (∀ filters, NonInterfering StoreView.scrub fun v => listClusters v filters) :=
  ⟨fun _ => .of_scrub fun _ => getSecret_scrub _,
    fun _ => .of_scrub fun _ => listSecrets_scrub _,
    fun _ _ _ _ _ => .of_scrub fun _ => createSecret_scrub _ _ _ _ _,
    fun _ _ _ hdata => .of_scrub fun _ => updateSecret_scrub_of_nil _ _ _ hdata,
    fun _ => .of_scrub fun _ => getCluster_scrub _,
    fun _ => .of_scrub fun _ => listClusters_scrub _⟩

/-- A request that relabels secret 1 and sends no data. -/
def relabelDb : UpdateSecretRequest := ⟨some 1, some ⟨1⟩, ⟨⟨"db", [("tier", "prod")]⟩, [], none⟩⟩

theorem relabel_nonInterfering :
    relabelDb.spec.data = [] ∧
      NonInterfering StoreView.scrub fun v => updateSecret (some ⟨1⟩) 2 v relabelDb :=
  ⟨rfl, controlapi_nonInterfering.2.2.2.1 _ _ relabelDb rfl⟩

-- ======================= the leaks

/-- A secret `db` holding `data`, created at index 1. -/
def dbSecret (data : List Nat) : Object SecretBody :=
  ⟨1, ⟨⟨1⟩, some 0, some 0⟩, ⟨⟨⟨"db", []⟩, data, none⟩, false⟩⟩

/-- What the store publishes for the transaction that creates it. -/
def dbCreated (data : List Nat) : List (Event Body) :=
  [.create .secret ⟨1, ⟨⟨1⟩, some 0, some 0⟩, .secret (dbSecret data).body⟩, .commit (some ⟨1⟩)]

/-- The store's tables after it. -/
def dbStore (data : List Nat) : StoreView := ⟨[dbSecret data], []⟩

/-- A watch on every event (`api.WatchRequest` with one entry of any
kind and no `ResumeFrom`), opened on a new store. -/
def everyEvent : WatchRequest Body := ⟨[fun _ => true], none, false⟩

def everyEventWatcher : Watcher Body := (MemoryStore.new Body).watch everyEvent.watchArgs

/-- An `UpdateSecret` of `db` that changes nothing and sends `[42]` as the
data. -/
def guessRequest : UpdateSecretRequest := ⟨some 1, some ⟨1⟩, ⟨⟨"db", []⟩, [42], none⟩⟩

/-- Stores that differ only in the secret's data: the watch sends the
secret with its data, so its messages differ; and `UpdateSecret` with a
guess of the data succeeds exactly when the guess is right. -/
theorem watch_sends_secret_data :
    (∀ data, (dbCreated data).map scrubEvent = (dbCreated []).map scrubEvent ∧
      (dbStore data).scrub = (dbStore []).scrub) ∧
    (∀ data, (Server.stream everyEvent (everyEventWatcher.delivered (dbCreated data))).sent =
      [⟨[], none⟩, ⟨[⟨.create, ⟨1, ⟨⟨1⟩, some 0, some 0⟩, .secret (dbSecret data).body⟩, none⟩], some ⟨1⟩⟩]) ∧
    ¬NonInterfering (List.map scrubEvent)
      (fun q => (Server.stream everyEvent (everyEventWatcher.delivered q)).sent) ∧
    updateSecret (some ⟨2⟩) 0 (dbStore [42]) guessRequest =
      .ok ⟨1, ⟨⟨2⟩, some 0, some 0⟩, ⟨⟨⟨"db", []⟩, [], none⟩, false⟩⟩ ∧
    updateSecret (some ⟨2⟩) 0 (dbStore [43]) guessRequest =
      .error ⟨.invalidArgument, "only updates to Labels are allowed"⟩ ∧
    ¬NonInterfering StoreView.scrub fun v => updateSecret (some ⟨2⟩) 0 v guessRequest := by
  refine ⟨fun _ => ⟨rfl, rfl⟩, fun _ => rfl, ?_, by decide, by decide, ?_⟩
  · -- the data 42 and 43: one scrub, two different messages
    exact NonInterfering.not_of_ne (dbCreated [42]) (dbCreated [43]) rfl (by decide)
  · exact NonInterfering.not_of_ne (dbStore [42]) (dbStore [43]) rfl (by decide)

end SwarmKit.Controlapi
