import SwarmKit.Raft.Deks
import SwarmKit.Ca.Proofs.KeyReadWriter

/-
That the key file keeps what the key writer holds in memory, with
`RaftDEKData` as its header object (`Deks.lean`, `KeyReadWriter.lean`).

# The DEK headers

A DEK header decodes under the KEK it was encoded under to the DEK, as
long as the DEK is not empty (`decodeHeader_map_encode`), so a header
object whose pending DEK comes with a current one (`RaftDEKData.Valid`)
is read back as it was marshalled (`unmarshalHeaders_marshalled`).

# The invariant

`Persisted k key`: the file holds the plaintext key `key` sealed under
the writer's KEK, beside exactly the DEK headers its header object
marshals under that KEK and the KEK's version, and the header object is
valid. A successful `Write` of a plaintext key establishes it from any
state (`write_persisted`); `ViewAndUpdateHeaders` keeps it when its
callback returns a valid header object (`viewAndUpdateHeaders_persisted`),
and so does `ViewAndRotateKEK` when, rotating to no KEK, its callback
also keeps every DEK header there was (`Keeps`,
`viewAndRotateKEK_persisted`); a header the new object drops otherwise
stays, sealed under the old KEK, and the key no longer reads under the
current one (`dropped_dek_header_left_sealed`). Over a
run of admissible calls the invariant holds at the last key written
(`runCalls_persisted`).

# Reading back

From the invariant a new key writer with the current KEK reads the key,
the version and the header object back (`read_persisted`), and one with
any other KEK fails with `ErrInvalidKEK` when there is a KEK
(`read_persisted_other`). Together: `key_file_matches_memory`.

The manager's own callbacks are covered: `MaybeUpdateKEK` never drops a
header (`maybeUpdateKEKCB_admissible`), and `NewRaftDEKManager` and
`UpdateKeys` return valid header objects for non-empty keys.
-/

namespace SwarmKit.Raft.Deks

open SwarmKit.Ca.KeyStore

-- ===================== the records

/-- A non-empty DEK decodes under the KEK and mode it was encoded with. -/
theorem decodePEMHeaderValue_encode {v : Bytes} (hv : v ≠ []) (kek : Option Bytes) (fips : Bool) :
    decodePEMHeaderValue (encodePEMHeaderValue v kek fips) kek fips = .ok (some v) := by
  cases kek with
  | none => simp [encodePEMHeaderValue, decodePEMHeaderValue, decryptRecord, nilIfEmpty, hv]
  | some kek =>
    cases fips <;> simp [encodePEMHeaderValue, decodePEMHeaderValue, decryptRecord, nilIfEmpty, hv]

theorem decodeHeader_map_encode {d : Option Bytes} (hd : d ≠ some []) (kek : Option Bytes) (fips : Bool) :
    decodeHeader (d.map (encodePEMHeaderValue · kek fips)) kek fips = .ok d := by
  cases d with
  | none => rfl
  | some v =>
    have hv : v ≠ [] := fun h => hd (h ▸ rfl)
    exact decodePEMHeaderValue_encode hv kek fips

-- ===================== the headers

/-- A header object `UnmarshalHeaders` reads back: a pending DEK only
beside a current one, and no DEK empty. -/
structure RaftDEKData.Valid (r : RaftDEKData) : Prop where
  pending : r.pendingDEK.isSome → r.currentDEK.isSome
  currentDEK_ne : r.currentDEK ≠ some []
  pendingDEK_ne : r.pendingDEK ≠ some []

/-- The DEK headers the key file holds for a header object, none
without one. -/
def marshalled (h : Option RaftDEKData) (kekData : KEKData) : Headers :=
  match h with
  | none => Headers.empty
  | some r => r.marshalHeaders kekData

/-- The headers beside the encryption headers: the DEK headers and the
KEK's version. -/
def storedHeaders (h : Option RaftDEKData) (kekData : KEKData) : Headers :=
  setVersion (marshalled h kekData) kekData.version

@[simp] theorem marshalHeaders_raftDEK (r : RaftDEKData) (kekData : KEKData) :
    r.marshalHeaders kekData pemHeaderRaftDEK = r.currentDEK.map (encodePEMHeaderValue · kekData.kek r.fips) := by
  simp [RaftDEKData.marshalHeaders]

@[simp] theorem marshalHeaders_raftPendingDEK (r : RaftDEKData) (kekData : KEKData) :
    r.marshalHeaders kekData pemHeaderRaftPendingDEK =
      r.pendingDEK.map (encodePEMHeaderValue · kekData.kek r.fips) := by
  simp [RaftDEKData.marshalHeaders, pemHeaderRaftDEK, pemHeaderRaftPendingDEK]

@[simp] theorem marshalHeaders_raftDEKNeedsRotation (r : RaftDEKData) (kekData : KEKData) :
    r.marshalHeaders kekData pemHeaderRaftDEKNeedsRotation =
      if r.needsRotation then some (.text "true") else none := by
  simp [RaftDEKData.marshalHeaders, pemHeaderRaftDEK, pemHeaderRaftPendingDEK,
    pemHeaderRaftDEKNeedsRotation]

/-- No other header is marshalled. -/
theorem marshalHeaders_other (r : RaftDEKData) (kekData : KEKData) {n : HeaderName}
    (h₁ : n ≠ pemHeaderRaftDEK) (h₂ : n ≠ pemHeaderRaftPendingDEK) (h₃ : n ≠ pemHeaderRaftDEKNeedsRotation) :
    r.marshalHeaders kekData n = none := by
  simp [RaftDEKData.marshalHeaders, h₁, h₂, h₃]

theorem marshalled_noEncryption (h : Option RaftDEKData) (kekData : KEKData) :
    (marshalled h kekData).NoEncryption := by
  intro n hn
  cases h with
  | none => rfl
  | some r =>
    cases n with
    | named name => simp [HeaderName.isEncryption] at hn
    | procType | dekInfo => exact marshalHeaders_other r kekData (by decide) (by decide) (by decide)

theorem marshalled_versionHeader (h : Option RaftDEKData) (kekData : KEKData) :
    marshalled h kekData versionHeader = none := by
  cases h with
  | none => rfl
  | some r => exact marshalHeaders_other r kekData (by decide) (by decide) (by decide)

theorem storedHeaders_noEncryption (h : Option RaftDEKData) (kekData : KEKData) :
    (storedHeaders h kekData).NoEncryption := by
  intro n hn
  rw [storedHeaders, setVersion_of_isEncryption hn]
  exact marshalled_noEncryption h kekData n hn

theorem marshalOpt_raftDEKHeaders (h : Option RaftDEKData) (kekData : KEKData) :
    marshalOpt raftDEKHeaders h kekData = .ok (marshalled h kekData) := by
  cases h <;> rfl

/-- What `Read` hands `UnmarshalHeaders`: the stored headers without the
version. -/
theorem update_storedHeaders (h : Option RaftDEKData) (kekData : KEKData) :
    Function.update (storedHeaders h kekData) versionHeader none = marshalled h kekData := by
  funext n
  rw [Function.update_apply]
  split
  · subst n
    exact (marshalled_versionHeader h kekData).symm
  · rw [storedHeaders, setVersion_apply, if_neg ‹_›]

/-- `UnmarshalHeaders` reads back a valid header object from the headers
it marshalled under the same KEK; no header object reads back empty. -/
theorem unmarshalHeaders_marshalled (r₀ : RaftDEKData) {h : Option RaftDEKData}
    (hv : ∀ r ∈ h, r.Valid) (hfips : ∀ r ∈ h, r.fips = r₀.fips) {kekData kekData' : KEKData}
    (hkek : kekData'.kek = kekData.kek) :
    r₀.unmarshalHeaders (marshalled h kekData) kekData' = .ok (h.getD ⟨none, none, false, r₀.fips⟩) := by
  cases h with
  | none => rfl
  | some r =>
    have hr := hv r rfl
    have hf : r.fips = r₀.fips := hfips r rfl
    simp only [RaftDEKData.unmarshalHeaders, marshalled, marshalHeaders_raftDEK,
      marshalHeaders_raftPendingDEK, marshalHeaders_raftDEKNeedsRotation, hkek, ← hf,
      decodeHeader_map_encode hr.currentDEK_ne, decodeHeader_map_encode hr.pendingDEK_ne]
    -- a pending DEK comes with a current one, so the check passes
    have hcheck : (r.pendingDEK.isSome && r.currentDEK.isNone) = false := by
      cases hp : r.pendingDEK.isSome
      · rfl
      · simp [hr.pending hp]
    have hrot : (if r.needsRotation then some (HVal.text "true") else none).isSome = r.needsRotation := by
      cases r.needsRotation <;> rfl
    simp only [bind, Except.bind, hcheck, Bool.false_eq_true, if_false, Option.getD_some, hrot]

theorem updateKEK_valid {r : RaftDEKData} (hr : r.Valid) (oldKEK candidateKEK : KEKData) :
    (r.updateKEK oldKEK candidateKEK).Valid := by
  unfold RaftDEKData.updateKEK
  split
  · exact ⟨hr.pending, hr.currentDEK_ne, hr.pendingDEK_ne⟩
  · exact hr

-- =================== the invariant

/-- Every DEK header `h` marshals, `h'` marshals too. -/
def Keeps (h h' : Option RaftDEKData) : Prop :=
  ((h.bind (·.currentDEK)).isSome → (h'.bind (·.currentDEK)).isSome) ∧
  ((h.bind (·.pendingDEK)).isSome → (h'.bind (·.pendingDEK)).isSome) ∧
  ((h.map (·.needsRotation)).getD false → (h'.map (·.needsRotation)).getD false)

theorem Keeps.marshalled_isSome {h h' : Option RaftDEKData} (hk : Keeps h h') (kekData kekData' : KEKData)
    (n : HeaderName) (hn : (marshalled h kekData n).isSome) : (marshalled h' kekData' n).isSome := by
  obtain ⟨hcur, hpend, hrot⟩ := hk
  cases h with
  | none => simp [marshalled, Headers.empty] at hn
  | some r =>
    -- the DEK headers one by one; no other is marshalled
    by_cases h₁ : n = pemHeaderRaftDEK
    · subst h₁
      cases h' <;> simp_all [marshalled]
    by_cases h₂ : n = pemHeaderRaftPendingDEK
    · subst h₂
      cases h' <;> simp_all [marshalled]
    by_cases h₃ : n = pemHeaderRaftDEKNeedsRotation
    · subst h₃
      cases h' <;> simp_all [marshalled]
    · simp [marshalled, marshalHeaders_other r kekData h₁ h₂ h₃] at hn

/-- The key file holds the plaintext key `key` sealed under the writer's
KEK, beside the DEK headers its header object marshals and the KEK's
version, and the header object reads back. -/
structure Persisted (k : KeyReadWriter RaftDEKData) (key : Block) : Prop where
  plainKey : PlainKey key
  keyFile : ∃ file, k.keyFile = some file ∧
    KeyFile k.keyFormatter k.kekData.kek key (storedHeaders k.headersObj k.kekData) file
  valid : ∀ r ∈ k.headersObj, r.Valid

/-- A `Write` of a plaintext key stores it, from any state. -/
theorem write_persisted {k k' : KeyReadWriter RaftDEKData} {key : Block} {kekData : Option KEKData}
    (hkey : PlainKey key) (hvalid : ∀ r ∈ k.headersObj, r.Valid)
    (h : k.write raftDEKHeaders (some key) kekData = .ok k') : Persisted k' key := by
  obtain ⟨b, hb, hw⟩ := write_eq_ok raftDEKHeaders h
  cases hb
  have hnoenc : key.headers.NoEncryption := by rw [hkey.headers]; exact empty_noEncryption
  obtain ⟨file, m, rfl, hm, hkf⟩ := writeKey_keyFile raftDEKHeaders hkey rfl rfl hnoenc hw
  rw [marshalOpt_raftDEKHeaders] at hm
  cases hm
  -- the plaintext key brings no headers, so only the marshalled ones and the version are left
  have hbase : (if (kekData.getD k.kekData).kek.isSome then Headers.empty else key.headers) =
      Headers.empty := by
    split
    · rfl
    · exact hkey.headers
  rw [hbase, mergePEMHeaders_empty, plain_of_noEncryption (marshalled_noEncryption _ _),
    plain_setVersion, plain_of_noEncryption (marshalled_noEncryption _ _)] at hkf
  refine ⟨hkey, ⟨file, rfl, hkf⟩, ?_⟩
  intro r hr
  obtain ⟨r₀, hr₀, rfl⟩ := Option.map_eq_some_iff.mp hr
  exact updateKEK_valid (hvalid r₀ hr₀) _ _

/-- `ViewAndUpdateHeaders` keeps the key and its seal, and stores the
new header object's headers. -/
theorem viewAndUpdateHeaders_persisted {k k' : KeyReadWriter RaftDEKData} {key : Block}
    {cb : Option RaftDEKData → Except KeyErr (Option RaftDEKData)} (hp : Persisted k key)
    (hcb : ∀ h', cb k.headersObj = .ok h' → ∀ r ∈ h', r.Valid)
    (h : k.viewAndUpdateHeaders raftDEKHeaders cb = .ok k') : Persisted k' key := by
  obtain ⟨pkh, file, m, hcbok, hfile, hm, rfl⟩ := viewAndUpdateHeaders_eq_ok raftDEKHeaders h
  rw [marshalOpt_raftDEKHeaders] at hm
  cases hm
  obtain ⟨file', hfile', hkf⟩ := hp.keyFile
  rw [hfile] at hfile'
  cases hfile'
  exact ⟨hp.plainKey, ⟨_, rfl, updatedHeaders_keyFile hkf.sealed (marshalled_noEncryption _ _) rfl _⟩,
    hcb pkh hcbok⟩

/-- `ViewAndRotateKEK` re-seals the key under the new KEK; rotating to no
KEK, the new header object must keep every DEK header there was. -/
theorem viewAndRotateKEK_persisted {k k' : KeyReadWriter RaftDEKData} {key : Block}
    {cb : KEKData → Option RaftDEKData → Except KeyErr (KEKData × Option RaftDEKData)}
    (hp : Persisted k key)
    (hcb : ∀ kekData h', cb k.kekData k.headersObj = .ok (kekData, h') →
      (∀ r ∈ h', r.Valid) ∧ (kekData.kek = none → Keeps k.headersObj h'))
    (h : k.viewAndRotateKEK raftDEKHeaders cb = .ok k') : Persisted k' key := by
  obtain ⟨kekData, pkh, b, hcbok, hread, hw⟩ := viewAndRotateKEK_eq_ok raftDEKHeaders h
  obtain ⟨hvalid, hkeeps⟩ := hcb kekData pkh hcbok
  obtain ⟨file, hfile, hkf⟩ := hp.keyFile
  rw [readKey_of_keyFile hp.plainKey hfile hkf] at hread
  cases hread
  obtain ⟨file', m, rfl, hm, hkf'⟩ := writeKey_keyFile raftDEKHeaders
    (b := { key with headers := storedHeaders k.headersObj k.kekData }) hp.plainKey rfl rfl
    (storedHeaders_noEncryption _ _) hw
  rw [marshalOpt_raftDEKHeaders] at hm
  cases hm
  refine ⟨hp.plainKey, ⟨file', rfl, ?_⟩, hvalid⟩
  have hstored : (setVersion (mergePEMHeaders
      (if kekData.kek.isSome then Headers.empty else storedHeaders k.headersObj k.kekData)
      (marshalled pkh kekData)) kekData.version).plain = storedHeaders pkh kekData := by
    cases hk : kekData.kek with
    | some kek =>
      simp only [Option.isSome_some, ↓reduceIte]
      rw [mergePEMHeaders_empty, plain_of_noEncryption (marshalled_noEncryption _ _),
        plain_setVersion, plain_of_noEncryption (marshalled_noEncryption _ _)]
      rfl
    | none =>
      -- the old headers stay under the new ones: each is overwritten or is the version
      simp only [Option.isSome_none, Bool.false_eq_true, ↓reduceIte]
      rw [setVersion_mergePEMHeaders (marshalled_noEncryption _ _)
        (storedHeaders_noEncryption _ _), plain_setVersion,
        plain_of_noEncryption (marshalled_noEncryption _ _)]
      · rfl
      · intro n hn hsome
        rw [storedHeaders, setVersion_apply, if_neg hn] at hsome
        exact (hkeeps hk).marshalled_isSome _ _ n hsome
  rw [← hstored]
  exact hkf'

-- ============================ runs

/-- The calls `key_file_matches_memory` is about: plaintext keys as a
node writes them, callbacks that return valid header objects, and that,
rotating to no KEK, keep every DEK header there was. -/
def Admissible : Call RaftDEKData → Prop
  | .write plaintextKey _ => ∀ key ∈ plaintextKey, PlainKey key
  | .viewAndRotateKEK cb => ∀ kekData h kekData' h', (∀ r ∈ h, r.Valid) →
      cb kekData h = .ok (kekData', h') → (∀ r ∈ h', r.Valid) ∧ (kekData'.kek = none → Keeps h h')
  | .viewAndUpdateHeaders cb => ∀ h h', (∀ r ∈ h, r.Valid) → cb h = .ok h' → ∀ r ∈ h', r.Valid

/-- One admissible call keeps the invariant, at the key it writes. -/
theorem run_persisted {c : Call RaftDEKData} {k k' : KeyReadWriter RaftDEKData} {key : Block}
    (hc : Admissible c) (hp : Persisted k key) (h : c.run raftDEKHeaders k = .ok k') :
    Persisted k' (c.keyWritten.getD key) := by
  cases c with
  | write plaintextKey kekData =>
    cases plaintextKey with
    | none => cases h
    | some key' => exact write_persisted (hc key' rfl) hp.valid h
  | viewAndRotateKEK cb =>
    exact viewAndRotateKEK_persisted hp (fun kekData h' hcb => hc _ _ kekData h' hp.valid hcb) h
  | viewAndUpdateHeaders cb =>
    exact viewAndUpdateHeaders_persisted hp (fun h' hcb => hc _ h' hp.valid hcb) h

/-- Admissible calls keep the invariant over a run, at the last key
written. -/
theorem runCalls_persisted {calls : List (Call RaftDEKData)} {k k' : KeyReadWriter RaftDEKData}
    {key : Block} (hcalls : ∀ c ∈ calls, Admissible c) (hp : Persisted k key)
    (h : runCalls raftDEKHeaders calls k = .ok k') : Persisted k' (lastWritten key calls) :=
  Lts.foldlM_except_ghost (P := fun key k => Persisted k key) (Call.run raftDEKHeaders)
    (fun key c => c.keyWritten.getD key) calls
    (fun c hc _ _ _ hrun hp => run_persisted (hcalls c hc) hp hrun) h hp

-- ===================== the manager

/-- `MaybeUpdateKEK` keeps every header and flags a rotation only by
setting it. -/
theorem maybeUpdateKEKCB_admissible (candidateKEK : KEKData) :
    Admissible (.viewAndRotateKEK (maybeUpdateKEKCB candidateKEK)) := by
  intro currentKEK h kekData' h' hv hcb
  unfold maybeUpdateKEKCB at hcb
  split at hcb
  · cases hcb
  rename_i updated unlockedToLocked _
  split at hcb
  · cases hcb
  cases h with
  | none => cases hcb
  | some data =>
    cases hcb
    have hd := hv data rfl
    -- the new header object is the old one, with a rotation flagged or not
    split
    · refine ⟨fun r hr => ?_, fun _ => ⟨id, id, fun _ => rfl⟩⟩
      cases hr
      exact ⟨hd.pending, hd.currentDEK_ne, hd.pendingDEK_ne⟩
    · exact ⟨fun r hr => by cases hr; exact hd, fun _ => ⟨id, id, id⟩⟩

/-- `NewRaftDEKManager` writes a first DEK, valid when it is not empty. -/
theorem newRaftDEKManagerCB_admissible (fips : Bool) {newDEK : Bytes} (hne : newDEK ≠ []) :
    Admissible (.viewAndUpdateHeaders (newRaftDEKManagerCB fips newDEK)) := by
  have hvalid : (⟨some newDEK, none, false, fips⟩ : RaftDEKData).Valid :=
    ⟨fun _ => rfl, fun h => hne (Option.some.inj h), nofun⟩
  intro h h' _ hcb r hr
  -- either way the new header object is the first DEK alone
  have hnew : h' = some ⟨some newDEK, none, false, fips⟩ := by
    cases h with
    | none => exact (Except.ok.inj hcb).symm
    | some dekData =>
      cases hcur : dekData.currentDEK.isNone
      · simp [newRaftDEKManagerCB, hcur] at hcb
      · simp only [newRaftDEKManagerCB, hcur, if_true] at hcb
        exact (Except.ok.inj hcb).symm
  subst hnew
  cases hr
  exact hvalid

/-- `UpdateKeys` writes the keys raft rotated to, valid when neither is
empty. -/
theorem updateKeysCB_admissible {newKeys : EncryptionKeys} (hcur : newKeys.currentDEK ≠ some [])
    (hpend : newKeys.pendingDEK ≠ some []) : Admissible (.viewAndUpdateHeaders (updateKeysCB newKeys)) := by
  intro h h' _ hcb r hr
  cases h with
  | none => cases hcb
  | some data =>
    cases hnone : newKeys.currentDEK.isNone
    · -- the new keys, with a current DEK
      simp only [updateKeysCB, hnone, Bool.false_eq_true, if_false] at hcb
      cases hcb
      cases hr
      exact ⟨fun _ => by simpa using hnone, hcur, hpend⟩
    · -- no current DEK: no header object
      simp only [updateKeysCB, hnone, if_true] at hcb
      cases hcb
      cases hr

/-- `GetKeys` adds a pending DEK that reads back only beside a current
one. -/
theorem getKeysCB_valid {data : RaftDEKData} (hd : data.Valid) (hcur : data.currentDEK.isSome)
    {newDEK : Bytes} (hne : newDEK ≠ []) {h' : Option RaftDEKData}
    (hcb : getKeysCB newDEK (some data) = .ok h') : ∀ r ∈ h', r.Valid := by
  cases hdue : (!data.needsRotation || data.pendingDEK.isSome)
  · simp only [getKeysCB, hdue, Bool.false_eq_true, if_false] at hcb
    cases hcb
    intro r hr
    cases hr
    exact ⟨fun _ => hcur, hd.currentDEK_ne, fun h => hne (Option.some.inj h)⟩
  · simp [getKeysCB, hdue] at hcb

-- ==================== reading back

/-- A new key writer with the current KEK reads back the key, the KEK's
version and the header object. -/
theorem read_persisted {k : KeyReadWriter RaftDEKData} {key : Block} (hp : Persisted k key)
    (r₀ : RaftDEKData) (hfips : ∀ r ∈ k.headersObj, r.fips = r₀.fips) :
    (newKeyReadWriter k.kekData.kek (some r₀) k.keyFile).read raftDEKHeaders =
      ({ newKeyReadWriter k.kekData.kek (some r₀) k.keyFile with
          kekData := k.kekData
          headersObj := some (k.headersObj.getD ⟨none, none, false, r₀.fips⟩) },
        .ok { key with headers := marshalled k.headersObj k.kekData }) := by
  obtain ⟨file, hfile, hkf⟩ := hp.keyFile
  -- the new writer has the default formatter, which opens the file all the same
  have hread := readKey_of_keyFile (k := newKeyReadWriter k.kekData.kek (some r₀) k.keyFile)
    hp.plainKey hfile ⟨hkf.sealed.default hp.plainKey, hkf.plain⟩
  have hversion : ((storedHeaders k.headersObj k.kekData) versionHeader).bind HVal.parseUint =
      some k.kekData.version := by
    simp [storedHeaders, setVersion, HVal.parseUint]
  have hunmarshal : r₀.unmarshalHeaders (marshalled k.headersObj k.kekData)
      ⟨k.kekData.kek, k.kekData.version⟩ = .ok (k.headersObj.getD ⟨none, none, false, r₀.fips⟩) :=
    unmarshalHeaders_marshalled r₀ hp.valid hfips rfl
  rw [KeyReadWriter.read, hread]
  simp only [hversion, update_storedHeaders, newKeyReadWriter, raftDEKHeaders, hunmarshal]

/-- A new key writer with any other KEK, none included, fails with
`ErrInvalidKEK` on a file sealed under a KEK. -/
theorem read_persisted_other {k : KeyReadWriter RaftDEKData} {key : Block} (hp : Persisted k key)
    (hkek : k.kekData.kek.isSome) {kek' : Option Bytes} (hne : kek' ≠ k.kekData.kek) (r₀ : RaftDEKData) :
    ((newKeyReadWriter kek' (some r₀) k.keyFile).read raftDEKHeaders).2 = .error .invalidKEK := by
  obtain ⟨file, hfile, hkf⟩ := hp.keyFile
  obtain ⟨kek, hk⟩ := Option.isSome_iff_exists.mp hkek
  rw [hk] at hkf hne
  have hopen := openKeyBlock_sealed_other hp.plainKey (hkf.sealed.default hp.plainKey) hne
  have hread : (newKeyReadWriter (H := RaftDEKData) kek' (some r₀) k.keyFile).readKey = .error .invalidKEK := by
    rw [readKey_eq (k := newKeyReadWriter kek' (some r₀) k.keyFile) hfile]
    exact hopen
  simp only [KeyReadWriter.read, hread]

theorem key_file_matches_memory (k₀ : KeyReadWriter RaftDEKData) (key : Block)
    (kekData : Option KEKData) (calls : List (Call RaftDEKData)) (k : KeyReadWriter RaftDEKData)
    (hkey : PlainKey key) (hvalid : ∀ r ∈ k₀.headersObj, r.Valid) (hcalls : ∀ c ∈ calls, Admissible c)
    (hrun : runCalls raftDEKHeaders (.write (some key) kekData :: calls) k₀ = .ok k)
    (r₀ : RaftDEKData) (hfips : ∀ r ∈ k.headersObj, r.fips = r₀.fips) :
    (newKeyReadWriter k.kekData.kek (some r₀) k.keyFile).read raftDEKHeaders =
        ({ newKeyReadWriter k.kekData.kek (some r₀) k.keyFile with
            kekData := k.kekData
            headersObj := some (k.headersObj.getD ⟨none, none, false, r₀.fips⟩) },
          .ok { lastWritten key calls with headers := marshalled k.headersObj k.kekData }) ∧
      ∀ kek', kek' ≠ k.kekData.kek → k.kekData.kek.isSome →
        ((newKeyReadWriter kek' (some r₀) k.keyFile).read raftDEKHeaders).2 = .error .invalidKEK := by
  rw [runCalls, List.foldlM_cons] at hrun
  obtain ⟨k₁, hwrite, hrest⟩ := Lts.bind_eq_ok.mp hrun
  have hp₁ : Persisted k₁ key := write_persisted hkey hvalid hwrite
  have hp : Persisted k (lastWritten key calls) := runCalls_persisted hcalls hp₁ hrest
  exact ⟨read_persisted hp r₀ hfips, fun kek' hne hkek => read_persisted_other hp hkek hne r₀⟩

/-- A manager's PKCS#8 key, as a node writes one. -/
def managerKey : Block := ⟨"PRIVATE KEY", Headers.empty, .key true [1, 2, 3]⟩

/-- The header object a manager's key writer starts with. -/
def emptyDEKData : RaftDEKData := ⟨none, none, false, false⟩

/-- A key writer on a manager before anything is written. -/
def unlockedWriter : KeyReadWriter RaftDEKData := newKeyReadWriter none (some emptyDEKData) none

/-- The manager's first DEK, then autolock under KEK `[9]`. -/
def lockingCalls : List (Call RaftDEKData) :=
  [.viewAndUpdateHeaders (newRaftDEKManagerCB false [7]), .viewAndRotateKEK (maybeUpdateKEKCB ⟨some [9], 1⟩)]

theorem locked_manager_reads_back :
    ∃ k, runCalls raftDEKHeaders (.write (some managerKey) none :: lockingCalls) unlockedWriter = .ok k ∧
      ((newKeyReadWriter k.kekData.kek (some emptyDEKData) k.keyFile).read raftDEKHeaders =
          ({ newKeyReadWriter k.kekData.kek (some emptyDEKData) k.keyFile with
              kekData := k.kekData
              headersObj := some (k.headersObj.getD ⟨none, none, false, emptyDEKData.fips⟩) },
            .ok { lastWritten managerKey lockingCalls with headers := marshalled k.headersObj k.kekData }) ∧
        ∀ kek', kek' ≠ k.kekData.kek → k.kekData.kek.isSome →
          ((newKeyReadWriter kek' (some emptyDEKData) k.keyFile).read raftDEKHeaders).2 =
            .error .invalidKEK) := by
  have hkey : PlainKey managerKey := ⟨rfl, ⟨true, [1, 2, 3], rfl⟩, rfl⟩
  have hcalls : ∀ c ∈ lockingCalls, Admissible c := by
    intro c hc
    simp only [lockingCalls, List.mem_cons, List.not_mem_nil, or_false] at hc
    rcases hc with rfl | rfl
    · exact newRaftDEKManagerCB_admissible false (by decide)
    · exact maybeUpdateKEKCB_admissible _
  obtain ⟨k, hk⟩ : ∃ k, runCalls raftDEKHeaders (.write (some managerKey) none :: lockingCalls)
      unlockedWriter = .ok k := ⟨_, rfl⟩
  -- the run ends with the DEK under KEK `[9]` and a rotation flagged
  have hobj : k.headersObj = some ⟨some [7], none, true, false⟩ := by
    have hrun : (runCalls raftDEKHeaders (.write (some managerKey) none :: lockingCalls)
        unlockedWriter).toOption.map KeyReadWriter.headersObj = some (some ⟨some [7], none, true, false⟩) := by
      decide
    rw [hk] at hrun
    exact Option.some.inj hrun
  have hvalid : ∀ r ∈ unlockedWriter.headersObj, r.Valid := by
    intro r hr
    obtain rfl : r = emptyDEKData := (Option.some.inj hr).symm
    exact ⟨by decide, by decide, by decide⟩
  have hfips : ∀ r ∈ k.headersObj, r.fips = emptyDEKData.fips := by
    intro r hr
    rw [hobj] at hr
    cases hr
    rfl
  exact ⟨k, hk, key_file_matches_memory unlockedWriter managerKey none lockingCalls k hkey hvalid hcalls hk
    emptyDEKData hfips⟩

/-- A writer with a pending DEK on a manager. -/
def pendingWriter : KeyReadWriter RaftDEKData :=
  newKeyReadWriter none (some ⟨some [7], some [8], false, false⟩) none

/-- A rotation back to no KEK whose callback drops the pending DEK. -/
def droppingCalls : List (Call RaftDEKData) :=
  [.viewAndRotateKEK fun _ _ => .ok (⟨none, 2⟩, some ⟨some [7], none, false, false⟩)]

theorem dropped_dek_header_left_sealed :
    ∃ k, runCalls raftDEKHeaders (.write (some managerKey) (some ⟨some [9], 1⟩) :: droppingCalls)
        pendingWriter = .ok k ∧
      k.kekData.kek = none ∧ k.headersObj = some ⟨some [7], none, false, false⟩ ∧
      ((newKeyReadWriter k.kekData.kek (some emptyDEKData) k.keyFile).read raftDEKHeaders).2 =
        .error (.wrap "unable to read TLS key headers" .invalidKEK) :=
  ⟨_, rfl, rfl, rfl, rfl⟩

end SwarmKit.Raft.Deks
