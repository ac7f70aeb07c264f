import SwarmKit.Lib.Lts
import SwarmKit.Ca.KeyReadWriter

/-
What the key file holds after each writer (`KeyReadWriter.lean`), for
any header object.

# Sealed keys

`Sealed f kek key file` is how the file keeps a plaintext key under a
KEK: as it is without one, otherwise as `EncryptPEMBlock` leaves it.
Only the file's type, bytes and encryption headers count
(`Sealed.congr`), and a file sealed by the FIPS formatter is one the
default formatter seals the same way (`Sealed.default`). Opened under
its KEK the file gives the key back with its other headers
(`openKeyBlock_sealed`); under any other KEK, none included, it is
`ErrInvalidKEK` (`openKeyBlock_sealed_other`). Without a KEK nothing
guards the file: it opens under every KEK (`openKeyBlock_unsealed`).

# The writers

Each writer has one inversion lemma saying everything a successful call
did (`writeKey_eq_ok`, `viewAndRotateKEK_eq_ok`,
`viewAndUpdateHeaders_eq_ok`, `write_eq_ok`). From them: `writeKey`
seals the block under the new KEK beside the version and the headers
the header object marshals, merged over the block's own when there is no
KEK (`writeKey_keyFile`); `ViewAndUpdateHeaders` keeps the seal and
replaces the rest (`updatedHeaders_keyFile`). A header object whose
headers are never encryption headers is all these need of it. Over a run
of calls the key a reader should find is the last one written
(`lastWritten`).
-/

namespace SwarmKit.Ca.KeyStore

-- ========================= headers

/-- The headers `readKey` leaves of a decrypted block: all but the
encryption headers. -/
def Headers.plain (h : Headers) : Headers := fun n => if n.isEncryption then none else h n

/-- No header of `h` is an encryption header. -/
def Headers.NoEncryption (h : Headers) : Prop := ∀ n, n.isEncryption → h n = none

theorem Block.ext {a b : Block} (htype : a.type = b.type) (hheaders : a.headers = b.headers)
    (hbytes : a.bytes = b.bytes) : a = b := by
  cases a
  cases b
  cases htype
  cases hheaders
  cases hbytes
  rfl

@[simp] theorem versionHeader_isEncryption : versionHeader.isEncryption = false := rfl

theorem setVersion_apply (h : Headers) (v : Nat) (n : HeaderName) :
    setVersion h v n = if n = versionHeader then some (.uint v) else h n := by
  simp only [setVersion, Function.update_apply]

theorem setVersion_of_isEncryption {n : HeaderName} (hn : n.isEncryption) (h : Headers) (v : Nat) :
    setVersion h v n = h n := by
  rw [setVersion_apply, if_neg]
  rintro rfl
  simp at hn

theorem mergePEMHeaders_of_isEncryption {n : HeaderName} (hn : n.isEncryption) (o s : Headers) :
    mergePEMHeaders o s n = o n := by
  simp [mergePEMHeaders, hn]

theorem mergePEMHeaders_of_not_isEncryption {n : HeaderName} (hn : n.isEncryption = false)
    (o s : Headers) : mergePEMHeaders o s n = (s n).or (o n) := by
  unfold mergePEMHeaders
  cases s n <;> simp [hn]

theorem plain_of_noEncryption {h : Headers} (hh : h.NoEncryption) : h.plain = h := by
  funext n
  unfold Headers.plain
  split
  · exact (hh n ‹_›).symm
  · rfl

theorem empty_noEncryption : Headers.empty.NoEncryption := fun _ _ => rfl

/-- What `readKey` leaves of a decrypted block's headers. -/
theorem mergePEMHeaders_empty (h : Headers) : mergePEMHeaders Headers.empty h = h.plain := by
  funext n
  cases hn : n.isEncryption
  · rw [mergePEMHeaders_of_not_isEncryption hn]
    simp [Headers.plain, hn, Headers.empty]
  · rw [mergePEMHeaders_of_isEncryption (by simp [hn])]
    simp [Headers.plain, hn, Headers.empty]

theorem plain_setVersion (h : Headers) (v : Nat) : (setVersion h v).plain = setVersion h.plain v := by
  funext n
  simp only [Headers.plain, setVersion_apply]
  split <;> rename_i hn
  · rw [if_neg]
    rintro rfl
    simp at hn
  · rfl

theorem plain_mergePEMHeaders (o s : Headers) :
    (mergePEMHeaders o s).plain = (mergePEMHeaders o.plain s).plain := by
  funext n
  unfold Headers.plain
  cases hn : n.isEncryption
  · simp only [Bool.false_eq_true, if_false, mergePEMHeaders_of_not_isEncryption hn, hn]
  · rfl

/-- A merge over headers that hold nothing `s` does not, but the version,
leaves `s` once the version is set. -/
theorem setVersion_mergePEMHeaders {o s : Headers} (hs : s.NoEncryption) (ho : o.NoEncryption)
    (hcov : ∀ n, n ≠ versionHeader → (o n).isSome → (s n).isSome) (v : Nat) :
    setVersion (mergePEMHeaders o s) v = setVersion s v := by
  funext n
  rw [setVersion_apply, setVersion_apply]
  split
  · rfl
  rename_i hv
  cases hn : n.isEncryption
  · rw [mergePEMHeaders_of_not_isEncryption hn]
    cases hsn : s n with
    | some x => rfl
    | none =>
      cases hon : o n with
      | none => rfl
      | some x => simpa [hsn] using hcov n hv (by simp [hon])
  · rw [mergePEMHeaders_of_isEncryption (by simp [hn]), ho n (by simp [hn]), hs n (by simp [hn])]

-- ===================== sealed keys

/-- A plaintext key as a node writes one: a private key's DER under the
type of its format, with no headers. -/
structure PlainKey (key : Block) : Prop where
  headers : key.headers = Headers.empty
  der : ∃ pkcs8 material, key.bytes = .key pkcs8 material
  type : key.type = if key.bytes.isPKCS8 then "PRIVATE KEY" else "EC PRIVATE KEY"

/-- How `file` keeps the plaintext key `key` under `kek`: its type,
bytes and encryption headers, as `writeKey` leaves them. -/
def Sealed (f : Formatter) (kek : Option Bytes) (key file : Block) : Prop :=
  match kek with
  | none => file.type = key.type ∧ file.bytes = key.bytes ∧ file.headers.NoEncryption
  | some kek => ∃ e, f.encryptPEMBlock key.bytes kek = .ok e ∧
      file.type = e.type ∧ file.bytes = e.bytes ∧ ∀ n, n.isEncryption → file.headers n = e.headers n

theorem Sealed.congr {f : Formatter} {kek : Option Bytes} {key file file' : Block}
    (hs : Sealed f kek key file) (htype : file'.type = file.type) (hbytes : file'.bytes = file.bytes)
    (henc : ∀ n, n.isEncryption → file'.headers n = file.headers n) : Sealed f kek key file' := by
  cases kek with
  | none =>
    obtain ⟨ht, hb, he⟩ := hs
    exact ⟨htype.trans ht, hbytes.trans hb, fun n hn => (henc n hn).trans (he n hn)⟩
  | some kek =>
    obtain ⟨e, he, ht, hb, hh⟩ := hs
    exact ⟨e, he, htype.trans ht, hbytes.trans hb, fun n hn => (henc n hn).trans (hh n hn)⟩

/-- What `EncryptPEMBlock` makes of a plaintext key: PKCS#8 encryption,
or RFC 1423 encryption by the default formatter. -/
theorem encryptPEMBlock_key {f : Formatter} {pkcs8 : Bool} {material kek : Bytes} {e : Block}
    (h : f.encryptPEMBlock (.key pkcs8 material) kek = .ok e) :
    (pkcs8 = true ∧ e = ⟨"ENCRYPTED PRIVATE KEY", Headers.empty, .pkcs8Encrypted kek (.key true material)⟩) ∨
    (pkcs8 = false ∧ f.fips = false ∧
      e = ⟨"EC PRIVATE KEY", rfc1423Headers, .pemEncrypted kek (.key false material)⟩) := by
  unfold Formatter.encryptPEMBlock at h
  cases pkcs8 with
  | true =>
    cases h
    exact .inl ⟨rfl, rfl⟩
  | false =>
    cases hf : f.fips
    · simp only [Der.isPKCS8, hf] at h
      cases h
      exact .inr ⟨rfl, rfl, rfl⟩
    · simp [Der.isPKCS8, hf] at h

/-- The FIPS formatter seals nothing the default one would not. -/
theorem Sealed.default {f : Formatter} {kek : Option Bytes} {key file : Block} (hkey : PlainKey key)
    (hs : Sealed f kek key file) : Sealed ⟨false⟩ kek key file := by
  cases kek with
  | none => exact hs
  | some kek =>
    obtain ⟨e, he, hrest⟩ := hs
    obtain ⟨pkcs8, material, hbytes⟩ := hkey.der
    refine ⟨e, ?_, hrest⟩
    rw [hbytes] at he ⊢
    rcases encryptPEMBlock_key he with ⟨rfl, rfl⟩ | ⟨rfl, -, rfl⟩ <;> rfl

/-- A file sealed without a KEK opens as it is, under any KEK and by any
formatter: nothing guards it. -/
theorem openKeyBlock_unsealed {f : Formatter} {key file : Block} (hkey : PlainKey key)
    (hs : Sealed f none key file) (f' : Formatter) (kek' : Option Bytes) :
    openKeyBlock f' kek' file = .ok { key with headers := file.headers.plain } := by
  obtain ⟨pkcs8, material, hbytes⟩ := hkey.der
  obtain ⟨ht, hb, he⟩ := hs
  have hplain : ¬isEncryptedPEMBlock file := by
    simp [isEncryptedPEMBlock, hb, hbytes, Der.isPKCS8Encrypted, he .dekInfo rfl]
  unfold openKeyBlock
  rw [if_pos (by simpa using hplain)]
  exact congrArg Except.ok (Block.ext ht (plain_of_noEncryption he).symm hb)

/-- Opened under its KEK, a sealed file gives the key back with the
file's other headers. -/
theorem openKeyBlock_sealed {f : Formatter} {kek : Option Bytes} {key file : Block}
    (hkey : PlainKey key) (hs : Sealed f kek key file) :
    openKeyBlock f kek file = .ok { key with headers := file.headers.plain } := by
  obtain ⟨pkcs8, material, hbytes⟩ := hkey.der
  have htype := hkey.type
  rw [hbytes] at htype
  cases kek with
  | none => exact openKeyBlock_unsealed hkey hs f none
  | some kek =>
    obtain ⟨e, he, ht, hb, hh⟩ := hs
    rw [hbytes] at he
    rcases encryptPEMBlock_key he with ⟨rfl, rfl⟩ | ⟨rfl, hfips, rfl⟩
    · -- PKCS#8: decrypted by `pkcs8.DecryptPEMBlock`, the type without "ENCRYPTED"
      have henc : isEncryptedPEMBlock file := by simp [isEncryptedPEMBlock, hb, Der.isPKCS8Encrypted]
      rw [openKeyBlock, if_neg (by simpa using henc)]
      simp only [Formatter.decryptPEMBlock, hb, Der.isPKCS8, if_true, pkcs8DecryptPEMBlock]
      refine congrArg Except.ok (Block.ext ?_ (mergePEMHeaders_empty _) hbytes.symm)
      simp [decryptedBlock, ht, htype, Der.isPKCS8]
    · -- RFC 1423: decrypted by `x509.DecryptPEMBlock` from its DEK-Info header
      have hdek : file.headers .dekInfo = some (.text "AES-256-CBC") := hh .dekInfo rfl
      have henc : isEncryptedPEMBlock file := by simp [isEncryptedPEMBlock, hdek]
      rw [openKeyBlock, if_neg (by simpa using henc)]
      simp only [Formatter.decryptPEMBlock, hb, Der.isPKCS8, hfips, x509DecryptPEMBlock, hdek,
        Option.isNone_some, Bool.false_eq_true, if_false, if_true]
      refine congrArg Except.ok (Block.ext ?_ (mergePEMHeaders_empty _) hbytes.symm)
      simp [decryptedBlock, ht, htype, Der.isPKCS8]

/-- Under another KEK, or none, a file sealed under a KEK does not open. -/
theorem openKeyBlock_sealed_other {f : Formatter} {kek : Bytes} {kek' : Option Bytes} {key file : Block}
    (hkey : PlainKey key) (hs : Sealed f (some kek) key file) (hne : kek' ≠ some kek) :
    openKeyBlock f kek' file = .error .invalidKEK := by
  obtain ⟨pkcs8, material, hbytes⟩ := hkey.der
  obtain ⟨e, he, -, hb, hh⟩ := hs
  rw [hbytes] at he
  -- the file is encrypted either way, and every other password is refused
  rcases encryptPEMBlock_key he with ⟨rfl, rfl⟩ | ⟨rfl, hfips, rfl⟩
  · have henc : isEncryptedPEMBlock file := by simp [isEncryptedPEMBlock, hb, Der.isPKCS8Encrypted]
    cases kek' with
    | none => rw [openKeyBlock, if_neg (by simpa using henc)]
    | some kek' =>
      have hk : kek ≠ kek' := fun h => hne (h ▸ rfl)
      rw [openKeyBlock, if_neg (by simpa using henc)]
      simp [Formatter.decryptPEMBlock, hb, Der.isPKCS8, pkcs8DecryptPEMBlock, hk]
  · have hdek : file.headers .dekInfo = some (.text "AES-256-CBC") := hh .dekInfo rfl
    have henc : isEncryptedPEMBlock file := by simp [isEncryptedPEMBlock, hdek]
    cases kek' with
    | none => rw [openKeyBlock, if_neg (by simpa using henc)]
    | some kek' =>
      have hk : kek ≠ kek' := fun h => hne (h ▸ rfl)
      rw [openKeyBlock, if_neg (by simpa using henc)]
      simp [Formatter.decryptPEMBlock, hb, Der.isPKCS8, hfips, x509DecryptPEMBlock, hdek, hk]

/-- The key file holds `key` under `kek`, with `headers` beside the
encryption headers. -/
structure KeyFile (f : Formatter) (kek : Option Bytes) (key : Block) (headers : Headers) (file : Block) :
    Prop where
  sealed : Sealed f kek key file
  plain : file.headers.plain = headers

-- ===================== the writers

section Writers

variable {H : Type} (hdrs : PEMKeyHeaders H)

/-- The headers a header object marshals, none without one. -/
def marshalOpt (pkh : Option H) (kekData : KEKData) : Except KeyErr Headers :=
  match pkh with
  | none => .ok Headers.empty
  | some h => hdrs.marshalHeaders h kekData

theorem mergeMarshalled_eq (pkh : Option H) (kekData : KEKData) (headers : Headers) :
    mergeMarshalled hdrs pkh kekData headers = (marshalOpt hdrs pkh kekData).map (mergePEMHeaders headers) := by
  cases pkh with
  | none =>
    have hempty : mergePEMHeaders headers Headers.empty = headers := by
      funext n
      simp [mergePEMHeaders, Headers.empty]
    show Except.ok headers = Except.ok (mergePEMHeaders headers Headers.empty)
    rw [hempty]
  | some h => rfl

theorem readKey_eq {k : KeyReadWriter H} {file : Block} (hk : k.keyFile = some file) :
    k.readKey = openKeyBlock k.keyFormatter k.kekData.kek file := by
  simp only [KeyReadWriter.readKey, KeyReadWriter.readKeyblock, hk]
  rfl

theorem readKey_of_keyFile {k : KeyReadWriter H} {key file : Block} {headers : Headers}
    (hkey : PlainKey key) (hk : k.keyFile = some file)
    (hf : KeyFile k.keyFormatter k.kekData.kek key headers file) :
    k.readKey = .ok { key with headers } := by
  rw [readKey_eq hk, openKeyBlock_sealed hkey hf.sealed, hf.plain]

theorem writeKey_eq_ok {k k' : KeyReadWriter H} {keyBlock : Block} {kekData : KEKData} {pkh : Option H}
    (h : k.writeKey hdrs keyBlock kekData pkh = .ok k') :
    ∃ sealed headers, encryptKeyBlock k.keyFormatter keyBlock kekData.kek = .ok sealed ∧
      mergeMarshalled hdrs pkh kekData sealed.headers = .ok headers ∧
      k' = { k with
        keyFile := some { sealed with headers := setVersion headers kekData.version }
        kekData
        headersObj := pkh } := by
  obtain ⟨sealed, h₁, h₂⟩ := Lts.bind_eq_ok.mp h
  obtain ⟨headers, h₃, h₄⟩ := Lts.bind_eq_ok.mp h₂
  cases h₄
  exact ⟨sealed, headers, h₁, h₃, rfl⟩

theorem viewAndRotateKEK_eq_ok {k k' : KeyReadWriter H}
    {cb : KEKData → Option H → Except KeyErr (KEKData × Option H)}
    (h : k.viewAndRotateKEK hdrs cb = .ok k') :
    ∃ kekData pkh keyBlock, cb k.kekData k.headersObj = .ok (kekData, pkh) ∧ k.readKey = .ok keyBlock ∧
      k.writeKey hdrs keyBlock kekData pkh = .ok k' := by
  obtain ⟨⟨kekData, pkh⟩, h₁, h₂⟩ := Lts.bind_eq_ok.mp h
  obtain ⟨keyBlock, h₃, h₄⟩ := Lts.bind_eq_ok.mp h₂
  exact ⟨kekData, pkh, keyBlock, h₁, h₃, h₄⟩

theorem viewAndUpdateHeaders_eq_ok {k k' : KeyReadWriter H} {cb : Option H → Except KeyErr (Option H)}
    (h : k.viewAndUpdateHeaders hdrs cb = .ok k') :
    ∃ pkh file headers, cb k.headersObj = .ok pkh ∧ k.keyFile = some file ∧
      marshalOpt hdrs pkh k.kekData = .ok headers ∧
      k' = { k with
        keyFile := some { file with headers := updatedHeaders file.headers headers k.kekData.version }
        headersObj := pkh } := by
  obtain ⟨pkh, h₁, h₂⟩ := Lts.bind_eq_ok.mp h
  obtain ⟨file, h₃, h₄⟩ := Lts.bind_eq_ok.mp h₂
  obtain ⟨headers, h₅, h₆⟩ := Lts.bind_eq_ok.mp h₄
  have hfile : k.keyFile = some file := by
    unfold KeyReadWriter.readKeyblock at h₃
    split at h₃
    · cases h₃
      assumption
    · cases h₃
  cases h₆
  exact ⟨pkh, file, headers, h₁, hfile, h₅, rfl⟩

theorem write_eq_ok {k k' : KeyReadWriter H} {plaintextKey : Option Block} {kekData : Option KEKData}
    (h : k.write hdrs plaintextKey kekData = .ok k') :
    ∃ keyBlock, plaintextKey = some keyBlock ∧
      k.writeKey hdrs keyBlock (kekData.getD k.kekData)
        (k.headersObj.map fun h => hdrs.updateKEK h k.kekData (kekData.getD k.kekData)) = .ok k' := by
  cases plaintextKey with
  | none => cases h
  | some keyBlock => exact ⟨keyBlock, rfl, h⟩

/-- The block `writeKey` encrypts, with a plaintext key's type and bytes
and no encryption headers, is sealed under the KEK; with a KEK only the
encryption headers are left of its own. -/
theorem encryptKeyBlock_sealed {f : Formatter} {kek : Option Bytes} {key b sealed : Block}
    (hkey : PlainKey key) (htype : b.type = key.type) (hbytes : b.bytes = key.bytes)
    (henc : b.headers.NoEncryption) (h : encryptKeyBlock f b kek = .ok sealed) :
    Sealed f kek key sealed ∧ sealed.headers.plain = (if kek.isSome then Headers.empty else b.headers) := by
  cases kek with
  | none =>
    cases h
    exact ⟨⟨htype, hbytes, henc⟩, plain_of_noEncryption henc⟩
  | some kek =>
    obtain ⟨e, he, hcheck⟩ := Lts.bind_eq_ok.mp h
    have hsealed : sealed = e := by
      split at hcheck
      · cases hcheck
      · cases hcheck
        rfl
    subst hsealed
    obtain ⟨pkcs8, material, hkb⟩ := hkey.der
    have he' := he
    rw [hbytes, hkb] at he'
    refine ⟨⟨sealed, by rw [← hbytes]; exact he, rfl, rfl, fun _ _ => rfl⟩, ?_⟩
    -- neither encryption leaves a header of its own beside the encryption ones
    rcases encryptPEMBlock_key he' with ⟨-, rfl⟩ | ⟨-, -, rfl⟩
    · exact plain_of_noEncryption empty_noEncryption
    · funext n
      cases n <;> rfl

/-- `writeKey` of a block with a plaintext key's type and bytes seals the
key under the new KEK, beside the version and the marshalled headers,
merged over the block's own when there is no KEK. -/
theorem writeKey_keyFile {k k' : KeyReadWriter H} {key b : Block} {kekData : KEKData} {pkh : Option H}
    (hkey : PlainKey key) (htype : b.type = key.type) (hbytes : b.bytes = key.bytes)
    (henc : b.headers.NoEncryption) (h : k.writeKey hdrs b kekData pkh = .ok k') :
    ∃ file m, k' = { k with keyFile := some file, kekData, headersObj := pkh } ∧
      marshalOpt hdrs pkh kekData = .ok m ∧
      KeyFile k.keyFormatter kekData.kek key
        (setVersion (mergePEMHeaders (if kekData.kek.isSome then Headers.empty else b.headers) m)
          kekData.version).plain file := by
  obtain ⟨sealed, headers, hsealed, hmerge, rfl⟩ := writeKey_eq_ok hdrs h
  obtain ⟨hs, hplain⟩ := encryptKeyBlock_sealed hkey htype hbytes henc hsealed
  rw [mergeMarshalled_eq] at hmerge
  cases hm : marshalOpt hdrs pkh kekData with
  | error e => rw [hm] at hmerge; cases hmerge
  | ok m =>
    rw [hm] at hmerge
    cases hmerge
    refine ⟨_, m, rfl, rfl, ⟨hs.congr rfl rfl fun n hn => ?_, ?_⟩⟩
    · -- neither the merge nor the version touches an encryption header
      show setVersion _ _ n = _
      rw [setVersion_of_isEncryption hn, mergePEMHeaders_of_isEncryption hn]
    · show (setVersion _ _).plain = _
      rw [plain_setVersion, plain_setVersion, plain_mergePEMHeaders, hplain, plain_mergePEMHeaders]

/-- `ViewAndUpdateHeaders` keeps the seal and replaces every other header
by the marshalled ones and the version. -/
theorem updatedHeaders_keyFile {f : Formatter} {kek : Option Bytes} {key file : Block} {old m : Headers}
    (hs : Sealed f kek key file) (hm : m.NoEncryption) (hold : file.headers = old) (v : Nat) :
    KeyFile f kek key (setVersion m v) { file with headers := updatedHeaders old m v } := by
  subst hold
  refine ⟨hs.congr rfl rfl fun n hn => ?_, ?_⟩
  · dsimp only [updatedHeaders]
    rw [setVersion_of_isEncryption hn]
    simp only [hn, Bool.true_and]
    split
    · rfl
    · rename_i hnone
      rw [hm n hn]
      exact (by simpa using hnone : file.headers n = none).symm
  · show (setVersion _ _).plain = _
    rw [plain_setVersion, ← plain_of_noEncryption hm]
    congr 1
    funext n
    unfold Headers.plain
    split
    · rfl
    · rename_i hn
      simp [hn]

end Writers

-- ============================ runs

/-- The plaintext key a call writes, if it is a `Write`. -/
def Call.keyWritten {H : Type} : Call H → Option Block
  | .write plaintextKey _ => plaintextKey
  | _ => none

/-- The last key written by the calls, `key` when none writes one. -/
def lastWritten {H : Type} (key : Block) (calls : List (Call H)) : Block :=
  calls.foldl (fun key c => c.keyWritten.getD key) key

end SwarmKit.Ca.KeyStore
