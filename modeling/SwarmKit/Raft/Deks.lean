import SwarmKit.Ca.KeyReadWriter

/-
The raft data encryption keys (DEKs) kept in the headers of the node's
TLS key (manager/deks.go `RaftDEKData`, `compareKEKs`,
`RaftDEKManager`; manager/encryption `Encrypt`, `Decrypt`, `Defaults`).

# The headers

`RaftDEKData` is the key writer's header object on a manager: the
current DEK under `raft-dek`, the pending one under `raft-dek-pending`,
and `raft-dek-needs-rotation` when another rotation is due. A DEK is
stored as the base64 of a `MaybeEncryptedRecord`: not encrypted when
there is no KEK, otherwise under the KEK with NaCl secretbox, or with
Fernet in FIPS mode. Reading a header back takes the same decrypter:
nothing but an unencrypted record without a KEK, Fernet alone in FIPS
mode, either by the record's algorithm otherwise. A record that does
not decrypt is `ErrInvalidKEK`.

# The manager

`RaftDEKManager` changes the headers only through the key writer's
callbacks: `NewRaftDEKManager` puts in a first DEK, `GetKeys` a pending
one when a rotation is due, `UpdateKeys` the keys raft has rotated to,
and `MaybeUpdateKEK` re-encrypts everything under a newer KEK, flagging
a rotation when the node goes from unlocked to locked.

# Reading the source

An empty slice does not survive a record: protobuf drops an empty
`Data`, and secretbox opens an empty message into a nil slice, so an
empty DEK reads back as nil, except through Fernet, which returns an
empty slice (`nilIfEmpty`). The keys `GenerateSecretKey` draws are
arguments of the callbacks. `encodePEMHeaderValue` fails only when the
random source does, and never here.
-/

namespace SwarmKit.Raft.Deks

open SwarmKit.Ca.KeyStore

-- ===================== the records

/-- A slice read back from a record: nil when empty. -/
def nilIfEmpty (data : Bytes) : Option Bytes := if data = [] then none else some data

/-- `encodePEMHeaderValue(headerValue, kek, fips)`. -/
def encodePEMHeaderValue (headerValue : Bytes) (kek : Option Bytes) (fips : Bool) : HVal :=
  .record <| match kek with
    | none => .notEncrypted headerValue
    | some kek => if fips then .fernet kek headerValue else .secretbox kek headerValue

/-- `encryption.Decrypt` of a record with the decrypter
`decodePEMHeaderValue` picks, its failure wrapped as `ErrInvalidKEK`. -/
def decryptRecord (r : Record) (kek : Option Bytes) (fips : Bool) : Except KeyErr (Option Bytes) :=
  match kek, r with
  | none, .notEncrypted data => .ok (nilIfEmpty data)
  | some kek, .secretbox key data => if !fips && key = kek then .ok (nilIfEmpty data) else .error .invalidKEK
  | some kek, .fernet key data => if key = kek then .ok (some data) else .error .invalidKEK
  | _, _ => .error .invalidKEK

/-- `decodePEMHeaderValue(headerValue, kek, fips)`. -/
def decodePEMHeaderValue (headerValue : HVal) (kek : Option Bytes) (fips : Bool) :
    Except KeyErr (Option Bytes) :=
  match headerValue with
  | .record r => decryptRecord r kek fips
  | _ => .error (.msg "illegal base64 data")

-- ===================== the headers

/-- `pemHeaderRaftDEK`. -/
def pemHeaderRaftDEK : HeaderName := .named "raft-dek"

/-- `pemHeaderRaftPendingDEK`. -/
def pemHeaderRaftPendingDEK : HeaderName := .named "raft-dek-pending"

/-- `pemHeaderRaftDEKNeedsRotation`. -/
def pemHeaderRaftDEKNeedsRotation : HeaderName := .named "raft-dek-needs-rotation"

/-- `raft.EncryptionKeys`. -/
structure EncryptionKeys where
  currentDEK : Option Bytes
  pendingDEK : Option Bytes
  deriving DecidableEq, Repr

/-- `RaftDEKData`, its `EncryptionKeys` flattened. -/
structure RaftDEKData where
  currentDEK : Option Bytes
  pendingDEK : Option Bytes
  needsRotation : Bool
  fips : Bool
  deriving DecidableEq, Repr

/-- A DEK header, when present, read under the KEK. -/
def decodeHeader (headerValue : Option HVal) (kek : Option Bytes) (fips : Bool) :
    Except KeyErr (Option Bytes) :=
  match headerValue with
  | none => .ok none
  | some v => decodePEMHeaderValue v kek fips

/-- `(RaftDEKData).UnmarshalHeaders(headers, kekData)`. -/
def RaftDEKData.unmarshalHeaders (r : RaftDEKData) (headers : Headers) (kekData : KEKData) :
    Except KeyErr RaftDEKData :=
  decodeHeader (headers pemHeaderRaftDEK) kekData.kek r.fips >>= fun currentDEK =>
    decodeHeader (headers pemHeaderRaftPendingDEK) kekData.kek r.fips >>= fun pendingDEK =>
      if pendingDEK.isSome && currentDEK.isNone then
        .error (.msg "there is a pending DEK, but no current DEK")
      else
        .ok { currentDEK, pendingDEK
              needsRotation := (headers pemHeaderRaftDEKNeedsRotation).isSome
              fips := r.fips }

/-- `(RaftDEKData).MarshalHeaders(kekData)`. -/
def RaftDEKData.marshalHeaders (r : RaftDEKData) (kekData : KEKData) : Headers := fun n =>
  if n = pemHeaderRaftDEK then r.currentDEK.map (encodePEMHeaderValue · kekData.kek r.fips)
  else if n = pemHeaderRaftPendingDEK then r.pendingDEK.map (encodePEMHeaderValue · kekData.kek r.fips)
  else if n = pemHeaderRaftDEKNeedsRotation then
    if r.needsRotation then some (.text "true") else none
  else none

/-- `compareKEKs(oldKEK, candidateKEK)`: whether to take the candidate,
and whether that locks an unlocked node. `subtle.ConstantTimeCompare`
takes a nil KEK for an empty one. -/
def compareKEKs (oldKEK candidateKEK : KEKData) : Except String (Bool × Bool) :=
  let keksEqual := oldKEK.kek.getD [] = candidateKEK.kek.getD []
  if oldKEK.version = candidateKEK.version ∧ ¬keksEqual then
    .error "candidate KEK has the same version as the current KEK, but a different KEK value"
  else if candidateKEK.version ≤ oldKEK.version ∨ keksEqual then .ok (false, false)
  else .ok (true, oldKEK.kek.isNone)

/-- `(RaftDEKData).UpdateKEK(oldKEK, candidateKEK)`. -/
def RaftDEKData.updateKEK (r : RaftDEKData) (oldKEK candidateKEK : KEKData) : RaftDEKData :=
  match compareKEKs oldKEK candidateKEK with
  | .ok (_, true) => { r with needsRotation := true }
  | _ => r

/-- `RaftDEKData` as the key writer's `PEMKeyHeaders`. -/
def raftDEKHeaders : PEMKeyHeaders RaftDEKData where
  unmarshalHeaders := RaftDEKData.unmarshalHeaders
  marshalHeaders r kekData := .ok (r.marshalHeaders kekData)
  updateKEK := RaftDEKData.updateKEK

-- ===================== the manager

/-- `errNoUpdateNeeded`. -/
def errNoUpdateNeeded : KeyErr := .msg "don't need to rotate or update"

/-- `errNotUsingRaftDEKData`. -/
def errNotUsingRaftDEKData : KeyErr := .msg "RaftDEKManager can no longer store and manage TLS key headers"

/-- The callback `NewRaftDEKManager` passes to `ViewAndUpdateHeaders`,
with the key `GenerateSecretKey` draws. -/
def newRaftDEKManagerCB (fips : Bool) (newDEK : Bytes) :
    Option RaftDEKData → Except KeyErr (Option RaftDEKData)
  | some dekData =>
    if dekData.currentDEK.isNone then .ok (some ⟨some newDEK, none, false, fips⟩)
    else .error errNoUpdateNeeded
  | none => .ok (some ⟨some newDEK, none, false, fips⟩)

/-- The callback of `GetKeys`, with the key `GenerateSecretKey` draws. -/
def getKeysCB (newDEK : Bytes) : Option RaftDEKData → Except KeyErr (Option RaftDEKData)
  | none => .error errNotUsingRaftDEKData
  | some data =>
    if !data.needsRotation || data.pendingDEK.isSome then .error errNoUpdateNeeded
    else .ok (some ⟨data.currentDEK, some newDEK, false, data.fips⟩)

/-- The callback of `UpdateKeys(newKeys)`. -/
def updateKeysCB (newKeys : EncryptionKeys) : Option RaftDEKData → Except KeyErr (Option RaftDEKData)
  | none => .error errNotUsingRaftDEKData
  | some data =>
    if newKeys.currentDEK.isNone then .ok none
    else .ok (some ⟨newKeys.currentDEK, newKeys.pendingDEK, data.needsRotation, data.fips⟩)

/-- The callback `MaybeUpdateKEK(candidateKEK)` passes to
`ViewAndRotateKEK`. -/
def maybeUpdateKEKCB (candidateKEK currentKEK : KEKData) :
    Option RaftDEKData → Except KeyErr (KEKData × Option RaftDEKData)
  | h =>
    match compareKEKs currentKEK candidateKEK with
    | .error e => .error (.msg e)
    | .ok (updated, unlockedToLocked) =>
      if !updated then .error errNoUpdateNeeded
      else
        match h with
        | none => .error errNotUsingRaftDEKData
        | some data =>
          .ok (candidateKEK, some (if unlockedToLocked then { data with needsRotation := true } else data))

end SwarmKit.Raft.Deks
