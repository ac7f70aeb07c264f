import Mathlib.Logic.Function.Basic

/-
A node's TLS key on disk, encrypted under a key encrypting key (KEK)
(ca/keyreadwriter.go `KeyReadWriter`; ca/keyutils `Formatter`,
`IsPKCS8`, `IsEncryptedPEMBlock`; ca/pkcs8 `EncryptPEMBlock`,
`DecryptPEMBlock`).

# The key file

The key is one PEM block: a type, headers and bytes. Encrypted under a
KEK, its bytes are a PKCS#8 `encryptedPrivateKeyInfo` (type `ENCRYPTED
PRIVATE KEY`, no headers of its own) or, for a key that is not PKCS#8,
the AES-256-CBC encryption of RFC 1423 (type `EC PRIVATE KEY`, with the
`Proc-Type` and `DEK-Info` headers). Beside these the file carries the
KEK's version under `kek-version` and whatever the header object
(`PEMKeyHeaders`) marshals.

# The writers

`writeKey` encrypts a plaintext block under the new KEK when there is
one and otherwise writes it as it is, merges in the header object's
headers and the version, and only then adopts the KEK and the header
object. `Write` writes a new key under a new KEK or the current one,
the header object told of the change. `ViewAndRotateKEK` decrypts the
current key and writes it again under the KEK and header object its
callback returns. `ViewAndUpdateHeaders` keeps the file's key bytes and
encryption headers and replaces every other header by those the header
object its callback returns marshals. `Read` decrypts the key, takes the
version from its header and has the header object read the others.

# Reading the source

The file at the key path is `keyFile`, as `pem.Decode` reads it: `none`
when it is missing or not PEM. The certificate, the temporary paths and
the file modes are left out, and so are the file system's errors: a
writer that fails leaves the state as it was. Key bytes are symbolic. A
plaintext key is PKCS#8 or not, and an encryption records its password,
so decryption under another password always fails: the ciphers are
taken as ideal (CBC's padding check lets about one wrong password in
256 through). Header values are what the code writes there: a formatted
number, the base64 of a marshalled `MaybeEncryptedRecord`, or other
text. Header names are the strings the code writes, except that the two
encryption headers, which the code finds by a trimmed, lower-cased
comparison, are one name each.
-/

namespace SwarmKit.Ca.KeyStore

-- ==================== the key file

/-- A byte string. -/
abbrev Bytes := List UInt8

/-- The name of a PEM header. -/
inductive HeaderName
  /-- `Proc-Type`, in any case and with spaces around -/
  | procType
  /-- `DEK-Info`, likewise -/
  | dekInfo
  /-- any other name, as written -/
  | named (name : String)
  deriving DecidableEq, Repr

/-- `versionHeader`. -/
def versionHeader : HeaderName := .named "kek-version"

/-- `strings.TrimSpace(strings.ToLower(key))` is "proc-type" or "dek-info". -/
def HeaderName.isEncryption : HeaderName → Bool
  | .procType | .dekInfo => true
  | .named _ => false

/-- `api.MaybeEncryptedRecord`: data under the algorithm that encrypted it. -/
inductive Record
  /-- `MaybeEncryptedRecord_NotEncrypted` -/
  | notEncrypted (data : Bytes)
  /-- `MaybeEncryptedRecord_NACLSecretboxSalsa20Poly1305` under `key` -/
  | secretbox (key data : Bytes)
  /-- `MaybeEncryptedRecord_FernetAES128CBC` under `key` -/
  | fernet (key data : Bytes)
  deriving DecidableEq, Repr

/-- A header value. -/
inductive HVal
  /-- `strconv.FormatUint(n, 10)` -/
  | uint (n : Nat)
  /-- the base64 of a marshalled record -/
  | record (r : Record)
  /-- any other text -/
  | text (s : String)
  deriving DecidableEq, Repr

/-- `strconv.ParseUint(v, 10, 64)`, when it succeeds. -/
def HVal.parseUint : HVal → Option Nat
  | .uint n => some n
  | .record _ => none
  | .text s => s.toNat?

/-- A block's headers: the value under each name, `none` when absent. -/
abbrev Headers := HeaderName → Option HVal

/-- No headers. -/
def Headers.empty : Headers := fun _ => none

/-- The headers with `kek-version` set to `version`. -/
def setVersion (headers : Headers) (version : Nat) : Headers :=
  Function.update headers versionHeader (some (.uint version))

/-- The bytes of a key block. -/
inductive Der
  /-- a plaintext private key; `pkcs8` when `x509.ParsePKCS8PrivateKey`
  reads it -/
  | key (pkcs8 : Bool) (material : Bytes)
  /-- a PKCS#8 `encryptedPrivateKeyInfo` of `der` under `password` -/
  | pkcs8Encrypted (password : Bytes) (der : Der)
  /-- the RFC 1423 encryption of `der` under `password` -/
  | pemEncrypted (password : Bytes) (der : Der)
  deriving DecidableEq, Repr

/-- `pem.Block`. -/
structure Block where
  type : String
  headers : Headers
  bytes : Der

/-- `KEKData`: the KEK, `none` for a nil one, and its version. -/
structure KEKData where
  kek : Option Bytes
  version : Nat
  deriving DecidableEq, Repr

/-- The errors of the key store. -/
inductive KeyErr
  /-- `ErrInvalidKEK` -/
  | invalidKEK
  /-- `keyutils.ErrFIPSUnsupportedKeyFormat` -/
  | fipsUnsupportedKeyFormat
  /-- an error with its message -/
  | msg (text : String)
  /-- `errors.Wrap(cause, text)` -/
  | wrap (text : String) (cause : KeyErr)
  deriving DecidableEq, Repr

-- ================ keys and ciphers

/-- `keyutils.IsPKCS8`: a PKCS#8 key, plaintext or encrypted. -/
def Der.isPKCS8 : Der → Bool
  | .key pkcs8 _ => pkcs8
  | .pkcs8Encrypted _ _ => true
  | .pemEncrypted _ _ => false

/-- `pkcs8.IsEncryptedPEMBlock`: the bytes parse as an
`encryptedPrivateKeyInfo`. -/
def Der.isPKCS8Encrypted : Der → Bool
  | .pkcs8Encrypted _ _ => true
  | _ => false

/-- `keyutils.IsEncryptedPEMBlock`: PKCS#8 encrypted, or with a
`DEK-Info` header (`x509.IsEncryptedPEMBlock`). -/
def isEncryptedPEMBlock (b : Block) : Bool :=
  b.bytes.isPKCS8Encrypted || (b.headers .dekInfo).isSome

/-- `keyutils.Formatter`: `Default`, or `FIPS`, which refuses a key that
is not PKCS#8. -/
structure Formatter where
  fips : Bool
  deriving DecidableEq, Repr

/-- `pkcs8.DecryptPEMBlock`. -/
def pkcs8DecryptPEMBlock (b : Block) (password : Bytes) : Except KeyErr Der :=
  match b.bytes with
  | .pkcs8Encrypted p der =>
    if p = password then .ok der else .error (.msg "pkcs8: incorrect password")
  | _ => .error (.msg "pkcs8: only PKCS #5 v2.0 supported")

/-- `x509.DecryptPEMBlock`. -/
def x509DecryptPEMBlock (b : Block) (password : Bytes) : Except KeyErr Der :=
  if (b.headers .dekInfo).isNone then .error (.msg "x509: no DEK-Info header in block")
  else
    match b.bytes with
    | .pemEncrypted p der =>
      if p = password then .ok der else .error (.msg "x509: decryption password incorrect")
    | _ => .error (.msg "x509: decryption password incorrect")

/-- `(*utils).DecryptPEMBlock`. -/
def Formatter.decryptPEMBlock (f : Formatter) (b : Block) (password : Bytes) : Except KeyErr Der :=
  if b.bytes.isPKCS8 then pkcs8DecryptPEMBlock b password
  else if f.fips then .error .fipsUnsupportedKeyFormat
  else x509DecryptPEMBlock b password

/-- The headers `x509.EncryptPEMBlock` writes. -/
def rfc1423Headers : Headers
  | .procType => some (.text "4,ENCRYPTED")
  | .dekInfo => some (.text "AES-256-CBC")
  | .named _ => none

/-- `(*utils).EncryptPEMBlock`. -/
def Formatter.encryptPEMBlock (f : Formatter) (data : Der) (password : Bytes) : Except KeyErr Block :=
  if data.isPKCS8 then .ok ⟨"ENCRYPTED PRIVATE KEY", Headers.empty, .pkcs8Encrypted password data⟩
  else if f.fips then .error .fipsUnsupportedKeyFormat
  else .ok ⟨"EC PRIVATE KEY", rfc1423Headers, .pemEncrypted password data⟩

/-- `mergePEMHeaders(original, newSet)`: `newSet`'s headers over
`original`'s, but for the encryption headers. -/
def mergePEMHeaders (original newSet : Headers) : Headers := fun n =>
  if (newSet n).isSome && !n.isEncryption then newSet n else original n

-- ================== the key writer

/-- `PEMKeyHeaders`, for header objects of type `H`. -/
structure PEMKeyHeaders (H : Type) where
  unmarshalHeaders : H → Headers → KEKData → Except KeyErr H
  marshalHeaders : H → KEKData → Except KeyErr Headers
  updateKEK : H → KEKData → KEKData → H

/-- `KeyReadWriter`, with the key file it reads and writes. -/
structure KeyReadWriter (H : Type) where
  kekData : KEKData
  headersObj : Option H
  keyFormatter : Formatter
  keyFile : Option Block

/-- `NewKeyReadWriter(paths, kek, headersObj)` over a key file. -/
def newKeyReadWriter {H : Type} (kek : Option Bytes) (headersObj : Option H) (keyFile : Option Block) :
    KeyReadWriter H :=
  { kekData := ⟨kek, 0⟩, headersObj, keyFormatter := ⟨false⟩, keyFile }

-- ======== opening and sealing a block

/-- The block `readKey` returns for a decrypted key: PKCS#8's type
without "ENCRYPTED", the encryption headers dropped. -/
def decryptedBlock (keyBlock : Block) (derBytes : Der) : Block where
  type := if keyBlock.type = "ENCRYPTED PRIVATE KEY" then "PRIVATE KEY" else keyBlock.type
  headers := mergePEMHeaders Headers.empty keyBlock.headers
  bytes := derBytes

/-- `readKey()` past `readKeyblock`, under `kek`: a block that is not
encrypted as it is, an encrypted one decrypted. -/
def openKeyBlock (f : Formatter) (kek : Option Bytes) (keyBlock : Block) : Except KeyErr Block :=
  if !isEncryptedPEMBlock keyBlock then .ok keyBlock
  else
    match kek with
    | none => .error .invalidKEK
    | some kek =>
      match f.decryptPEMBlock keyBlock kek with
      | .error .fipsUnsupportedKeyFormat => .error .fipsUnsupportedKeyFormat
      | .error _ => .error .invalidKEK
      | .ok derBytes => .ok (decryptedBlock keyBlock derBytes)

/-- The first half of `writeKey`: the block encrypted under the KEK when
there is one. -/
def encryptKeyBlock (f : Formatter) (keyBlock : Block) : Option Bytes → Except KeyErr Block
  | none => .ok keyBlock
  | some kek =>
    f.encryptPEMBlock keyBlock.bytes kek >>= fun encryptedPEMBlock =>
      if !isEncryptedPEMBlock encryptedPEMBlock then
        .error (.msg "unable to encrypt key - invalid PEM file produced")
      else .ok encryptedPEMBlock

/-- The headers `ViewAndUpdateHeaders` writes: the file's encryption
headers, the marshalled ones, and the version. -/
def updatedHeaders (old marshalled : Headers) (version : Nat) : Headers :=
  setVersion (fun n => if n.isEncryption && (old n).isSome then old n else marshalled n) version

/-- `headers` with those the header object marshals merged in. -/
def mergeMarshalled {H : Type} (hdrs : PEMKeyHeaders H) (pkh : Option H) (kekData : KEKData)
    (headers : Headers) : Except KeyErr Headers :=
  match pkh with
  | none => .ok headers
  | some h => (hdrs.marshalHeaders h kekData).map (mergePEMHeaders headers)

namespace KeyReadWriter

variable {H : Type} (hdrs : PEMKeyHeaders H)

/-- `readKeyblock()`. -/
def readKeyblock (k : KeyReadWriter H) : Except KeyErr Block :=
  match k.keyFile with
  | some keyBlock => .ok keyBlock
  | none => .error (.msg "invalid PEM-encoded private key")

/-- `readKey()`. -/
def readKey (k : KeyReadWriter H) : Except KeyErr Block :=
  readKeyblock k >>= openKeyBlock k.keyFormatter k.kekData.kek

/-- `writeKey(keyBlock, kekData, pkh)`. -/
def writeKey (k : KeyReadWriter H) (keyBlock : Block) (kekData : KEKData) (pkh : Option H) :
    Except KeyErr (KeyReadWriter H) :=
  encryptKeyBlock k.keyFormatter keyBlock kekData.kek >>= fun keyBlock =>
    mergeMarshalled hdrs pkh kekData keyBlock.headers >>= fun headers =>
      .ok { k with
        keyFile := some { keyBlock with headers := setVersion headers kekData.version }
        kekData
        headersObj := pkh }

/-- `Read()`: the key block it returns, and the writer after it. The
version is taken before the headers are read, and stays when they fail. -/
def read (k : KeyReadWriter H) : KeyReadWriter H × Except KeyErr Block :=
  match readKey k with
  | .error e => (k, .error e)
  | .ok keyBlock =>
    let k := match (keyBlock.headers versionHeader).bind HVal.parseUint with
      | some versionInt => { k with kekData := { k.kekData with version := versionInt } }
      | none => k
    let headers := Function.update keyBlock.headers versionHeader none
    match k.headersObj with
    | none => (k, .ok { keyBlock with headers })
    | some h =>
      match hdrs.unmarshalHeaders h headers k.kekData with
      | .error e => (k, .error (.wrap "unable to read TLS key headers" e))
      | .ok newHeaders => ({ k with headersObj := some newHeaders }, .ok { keyBlock with headers })

/-- `ViewAndRotateKEK(cb)`. -/
def viewAndRotateKEK (k : KeyReadWriter H) (cb : KEKData → Option H → Except KeyErr (KEKData × Option H)) :
    Except KeyErr (KeyReadWriter H) :=
  cb k.kekData k.headersObj >>= fun updated =>
    readKey k >>= fun keyBlock => writeKey hdrs k keyBlock updated.1 updated.2

/-- `ViewAndUpdateHeaders(cb)`. -/
def viewAndUpdateHeaders (k : KeyReadWriter H) (cb : Option H → Except KeyErr (Option H)) :
    Except KeyErr (KeyReadWriter H) :=
  cb k.headersObj >>= fun pkh =>
    readKeyblock k >>= fun keyBlock =>
      (match pkh with
        | none => .ok Headers.empty
        | some h => hdrs.marshalHeaders h k.kekData) >>= fun headers =>
        .ok { k with
          keyFile := some { keyBlock with headers := updatedHeaders keyBlock.headers headers k.kekData.version }
          headersObj := pkh }

/-- `Write(certBytes, plaintextKeyBytes, kekData)`, the key as `pem.Decode`
reads it. -/
def write (k : KeyReadWriter H) (plaintextKey : Option Block) (kekData : Option KEKData) :
    Except KeyErr (KeyReadWriter H) :=
  match plaintextKey with
  | none => .error (.msg "invalid PEM-encoded private key")
  | some keyBlock =>
    let kekData := kekData.getD k.kekData
    let pkh := k.headersObj.map fun h => hdrs.updateKEK h k.kekData kekData
    writeKey hdrs k keyBlock kekData pkh

end KeyReadWriter

/-- A call on the key writer. -/
inductive Call (H : Type)
  | write (plaintextKey : Option Block) (kekData : Option KEKData)
  | viewAndRotateKEK (cb : KEKData → Option H → Except KeyErr (KEKData × Option H))
  | viewAndUpdateHeaders (cb : Option H → Except KeyErr (Option H))

section Calls

variable {H : Type} (hdrs : PEMKeyHeaders H)

/-- One call, and the writer after it when it returns nil. -/
def Call.run (k : KeyReadWriter H) : Call H → Except KeyErr (KeyReadWriter H)
  | .write plaintextKey kekData => k.write hdrs plaintextKey kekData
  | .viewAndRotateKEK cb => k.viewAndRotateKEK hdrs cb
  | .viewAndUpdateHeaders cb => k.viewAndUpdateHeaders hdrs cb

/-- Calls one after another, up to the first that fails. -/
def runCalls (calls : List (Call H)) (k : KeyReadWriter H) : Except KeyErr (KeyReadWriter H) :=
  calls.foldlM (Call.run hdrs) k

end Calls

end SwarmKit.Ca.KeyStore
