import Mathlib
import Tickr.KeyValue

/-!
# The NATS scope store

One bucket holds, for each scope owner, a metadata word and the owner's values.
A writer takes the word from `Active` to `Mutating` and back; Compaction takes
it to `Snapshotted` with the digest of the values.  Each access to the bucket is
a step of its own.
-/

namespace Tickr.Scope

open Concurrent KeyValue
open Concurrent.Program (check attempt)

abbrev Bytes := List UInt8

def maxScopeValueBytes : Nat := 1024 * 1024
def maxScopeRows : Nat := 4096
def maxScopeBytes : Nat := 64 * 1024 * 1024
def maxOwnerBytes : Nat := 256
def maxKeyBytes : Nat := 512
def metadataKeyStart : String := "__tickr_scope_meta."
def protocolVersion : Nat := 1

/-- `TICKR_CTX_SCOPE`, a zero byte and the format version. -/
def snapshotMagic : Bytes := "TICKR_CTX_SCOPE".toList.flatMap String.utf8EncodeChar ++ [0, 1]

inductive NatsScopeError where
  | invalidOwner
  | invalidKey
  | valueLimit (key : String) (actual limit : Nat)
  | rowLimit (actual limit : Nat)
  | byteLimit (actual limit : Nat)
  | missing (owner : String)
  | isSealed (owner : String)
  | cleaned (owner digest : String)
  | corrupt (reason : String)
  | backend (reason : String)
  /-- A panic, from `unreachable!`. -/
  | panicked (message : String)
  deriving DecidableEq

def NatsScopeError.message : NatsScopeError → String
  | .invalidOwner => "scope owner must contain 1 to 256 bytes"
  | .invalidKey => "scope key must contain an owner prefix and at most 512 bytes"
  | .valueLimit key actual limit =>
    s!"scope value `{key}` contains {actual} bytes; limit is {limit}"
  | .rowLimit actual limit => s!"scope contains {actual} values; limit is {limit}"
  | .byteLimit actual limit => s!"scope contains {actual} value bytes; limit is {limit}"
  | .missing owner => s!"tickr-ctx scope `{owner}` is missing"
  | .isSealed owner => s!"tickr-ctx scope `{owner}` is sealed for Compaction"
  | .cleaned owner digest => s!"tickr-ctx scope `{owner}` is cleaned after snapshot `{digest}`"
  | .corrupt reason => s!"tickr-ctx scope is corrupt: {reason}"
  | .backend reason => s!"NATS ScopeStore operation failed: {reason}"
  | .panicked message => message

structure NatsScopeEntry where
  key : String
  envelope : Bytes
  deriving DecidableEq

structure NatsScopeSnapshot where
  owner : String
  entries : List NatsScopeEntry
  bytes : Bytes
  digest : String
  valueBytes : Nat

inductive ScopeState where
  | active
  | mutating
  | snapshotted
  | archiveCommitted
  | cleaning
  | cleaned
  | corrupt
  deriving DecidableEq

/-- The state's name as its `Debug` format prints it. -/
def ScopeState.debug : ScopeState → String
  | .active => "Active"
  | .mutating => "Mutating"
  | .snapshotted => "Snapshotted"
  | .archiveCommitted => "ArchiveCommitted"
  | .cleaning => "Cleaning"
  | .cleaned => "Cleaned"
  | .corrupt => "Corrupt"

structure ScopeMetadata where
  protocolVersion : Nat
  (namespaceName owner : String)
  state : ScopeState
  (rowCount valueBytes : Nat)
  (snapshotDigest diagnostic : Option String)
  deriving DecidableEq

structure VersionedMetadata where
  value : ScopeMetadata
  revision : Nat

/-- What the bucket stores: a metadata word or a value envelope.  The JSON
text of the former is kept as the record it encodes. -/
inductive ScopeCell where
  | metadata (value : ScopeMetadata)
  | envelope (bytes : Bytes)
  deriving DecidableEq

abbrev ScopeLog := Log String ScopeCell
abbrev ScopeOp := KvOp String ScopeCell
abbrev ScopeProgram := Program ScopeOp KvOp.Reply

abbrev ScopeM := ExceptT NatsScopeError ScopeProgram

/-- A store handle, with what it takes from libraries: the hexadecimal
SHA-256 of some bytes, the `v` field of a JSON envelope (an error if the bytes
are not JSON), and the text of a failed bucket operation. -/
structure NatsScopeStore where
  namespaceName : String
  sha256Hex : Bytes → String
  envelopeVersion : Bytes → Except String (Option Nat)
  backendText : KvError → String

variable (key : String)

def isMetadataKey : Bool := metadataKeyStart.toList.isPrefixOf key.toList

def metadataKey (owner : String) : String := metadataKeyStart ++ owner

/-- A key under the owner's slash that is no metadata key. -/
def isValueKeyOf (owner key : String) : Bool :=
  !isMetadataKey key && (owner ++ "/").toList.isPrefixOf key.toList

def validOwnerChar (char : Char) : Bool :=
  char.isAlphanum || char == '_' || char == '=' || char == '.' || char == '-'

def validateOwner (owner : String) : Except NatsScopeError Unit :=
  if owner.utf8ByteSize = 0 ∨ maxOwnerBytes < owner.utf8ByteSize then
    .error .invalidOwner
  else if owner.toList.all validOwnerChar then .ok ()
  else .error .invalidOwner

/-- The part of the key before its first slash. -/
def ownerFromKey : Except NatsScopeError String :=
  if key.toList.contains '/' then
    let owner := String.ofList (key.toList.takeWhile (· ≠ '/'))
    (validateOwner owner).map fun _ => owner
  else .error .invalidKey

def validateKey : Except NatsScopeError Unit :=
  if key.utf8ByteSize = 0 ∨ maxKeyBytes < key.utf8ByteSize ∨ isMetadataKey key = true then
    .error .invalidKey
  else (ownerFromKey key).map fun _ => ()

def validateValueSize (envelope : Bytes) : Except NatsScopeError Unit :=
  if maxScopeValueBytes < envelope.length then
    .error (.valueLimit key envelope.length maxScopeValueBytes)
  else .ok ()

def validateBounds (rowCount valueBytes : Nat) : Except NatsScopeError Unit :=
  if maxScopeRows < rowCount then .error (.rowLimit rowCount maxScopeRows)
  else if maxScopeBytes < valueBytes then
    .error (.byteLimit valueBytes maxScopeBytes)
  else .ok ()

def NatsScopeStore.validateEnvelope (store : NatsScopeStore) (key : String)
    (envelope : Bytes) : Except NatsScopeError Unit :=
  match store.envelopeVersion envelope with
  | .error error => .error (.corrupt s!"scope value `{key}` is not an envelope: {error}")
  | .ok none => .error (.corrupt s!"scope value `{key}` has no envelope version")
  | .ok (some version) =>
    if version = 1 ∨ version = 2 then .ok ()
    else
      .error (.corrupt s!"scope value `{key}` uses unknown envelope version {version}")

def NatsScopeStore.requireIdentity (store : NatsScopeStore)
    (metadata : ScopeMetadata) (owner : String) :
    Except NatsScopeError Unit :=
  if metadata.protocolVersion = protocolVersion ∧ metadata.namespaceName = store.namespaceName ∧
      metadata.owner = owner then .ok ()
  else
    .error (.corrupt
      s!"scope `{owner}` metadata identity does not match its namespace and protocol")

def quarantined (metadata : ScopeMetadata) (owner : String) :
    NatsScopeError := .corrupt (metadata.diagnostic.getD s!"scope `{owner}` is quarantined")

variable (entries : List NatsScopeEntry)

def totalBytes : Nat := (entries.map fun entry => entry.envelope.length).sum

def sortEntries : List NatsScopeEntry :=
  entries.insertionSort fun left right => left.key ≤ right.key

/-- Four bytes, most significant first; the bounds keep the length below
`2 ^ 32`. -/
def bigEndian (length : Nat) : Bytes :=
  [(length / 2 ^ 24).toUInt8, (length / 2 ^ 16).toUInt8,
    (length / 2 ^ 8).toUInt8, length.toUInt8]

def lengthPrefixed (value : Bytes) : Bytes := bigEndian value.length ++ value

def snapshotBytes : Bytes :=
  snapshotMagic ++ bigEndian entries.length ++ entries.flatMap fun entry =>
      lengthPrefixed (entry.key.toList.flatMap String.utf8EncodeChar) ++
        lengthPrefixed entry.envelope

def NatsScopeStore.snapshotFromEntries (store : NatsScopeStore)
    (owner : String) (collected : List NatsScopeEntry) :
    Except NatsScopeError NatsScopeSnapshot :=
  let entries := sortEntries collected
  (validateBounds entries.length (totalBytes entries)).map fun _ =>
    { owner, entries
      bytes := snapshotBytes entries
      digest := store.sha256Hex (snapshotBytes entries)
      valueBytes := totalBytes entries }

variable (store : NatsScopeStore)

def backendReply {α : Type} (reply : Except KvError α) : Except NatsScopeError α :=
  reply.mapError fun error => .backend (store.backendText error)

def storeEntry (key : String) : ScopeM (Option (Entry ScopeCell)) :=
  Program.request (.entry key) (backendReply store)

def storeKeys : ScopeM (List String) := Program.request .keys (backendReply store)

def storePut (key : String) (envelope : Bytes) : ScopeM Nat :=
  Program.request (.put key (.envelope envelope)) (backendReply store)

def storeDelete (key : String) : ScopeM Unit := Program.request (.delete key) (backendReply store)

/-- `store.create`, whose failure the caller inspects. -/
def storeCreate (key : String) (metadata : ScopeMetadata) : ScopeM (Except KvError Nat) :=
  Program.request (.create key (.metadata metadata)) .ok

def updateMetadata (metadata : VersionedMetadata) : ScopeM Nat :=
  Program.request
    (.update (metadataKey metadata.value.owner) (.metadata metadata.value)
      metadata.revision) (backendReply store)

variable (store : NatsScopeStore) (owner : String)

def loadMetadata : ScopeM (Option VersionedMetadata) := do
  match ← storeEntry store (metadataKey owner) with
  | none => return none
  | some ⟨_, none⟩ => return none
  | some ⟨revision, some (.metadata value)⟩ => return some ⟨value, revision⟩
  | some ⟨_, some (.envelope _)⟩ =>
    throw (.corrupt s!"metadata of `{owner}`: not a metadata record")

/-- Load the metadata of a scope that must exist, and check whose it is. -/
def requireMetadata : ScopeM VersionedMetadata := do
  match ← loadMetadata store owner with
  | none => throw (.missing owner)
  | some metadata => do
      check (store.requireIdentity metadata.value owner)
      return metadata

def ensureScope : ScopeM Unit := do
  check (validateOwner owner)
  match ← loadMetadata store owner with
  | some metadata => do
      check (store.requireIdentity metadata.value owner)
      match metadata.value.state with
      | .active | .mutating => return ()
      | .snapshotted | .archiveCommitted | .cleaning | .cleaned => throw (.isSealed owner)
      | .corrupt => throw (quarantined metadata.value owner)
  | none => do
      let created ← storeCreate (metadataKey owner)
        { protocolVersion, namespaceName := store.namespaceName, owner
          state := .active, rowCount := 0, valueBytes := 0
          snapshotDigest := none, diagnostic := none }
      match created with
      | .ok _ => return ()
      | .error _ => do
          match ← loadMetadata store owner with
          | none => throw (.backend "scope identity creation was ambiguous")
          | some metadata => check (store.requireIdentity metadata.value owner)

def keysOf : ScopeM (List String) := do
  let keys ← storeKeys store
  return (keys.filter (isValueKeyOf owner)).insertionSort (· ≤ ·)

def readValues : List String → ScopeM (List NatsScopeEntry)
  | [] => return []
  | key :: rest => do
      match ← storeEntry store key with
      | none => throw (.corrupt s!"scope value `{key}` disappeared during read")
      | some ⟨_, none⟩ => throw (.corrupt s!"scope value `{key}` is not readable")
      | some ⟨_, some (.metadata _)⟩ =>
        throw (.corrupt s!"scope value `{key}` has no envelope version")
      | some ⟨_, some (.envelope envelope)⟩ => do
          check (store.validateEnvelope key envelope)
          let others ← readValues rest
          return ⟨key, envelope⟩ :: others

def collectOwner : ScopeM (List NatsScopeEntry) := do
  let keys ← keysOf store owner
  let values ← readValues store keys
  check ((validateBounds values.length (totalBytes values)).map fun _ =>
    sortEntries values)

/-- The first envelope error among the entries, as `find_map` finds it. -/
def firstEnvelopeError (entries : List NatsScopeEntry) : Option NatsScopeError :=
  entries.findSome? fun entry =>
    match store.validateEnvelope entry.key entry.envelope with
    | .ok _ => none
    | .error error => some error

/-- The metadata that replaces an interrupted mutation. -/
def recoveredMetadata (metadata : ScopeMetadata) (entries : List NatsScopeEntry) : ScopeMetadata :=
  match validateBounds entries.length (totalBytes entries) with
  | .error error =>
    { metadata with
      state := .corrupt
      diagnostic := some error.message }
  | .ok () =>
    match firstEnvelopeError store entries with
    | some error =>
      { metadata with
        state := .corrupt
        diagnostic := some error.message }
    | none =>
      { metadata with
        state := .active
        rowCount := entries.length
        valueBytes := totalBytes entries }

def recoverMutation (metadata : VersionedMetadata) :
    ScopeM VersionedMetadata := do
  let entries ← collectOwner store metadata.value.owner
  let recovered := recoveredMetadata store metadata.value entries
  let revision ← updateMetadata store ⟨recovered, metadata.revision⟩
  if recovered.state = .corrupt then
    throw (.corrupt (recovered.diagnostic.getD ""))
  else return ⟨recovered, revision⟩

/-- Load the metadata and, where a writer left it `Mutating`, recover it. -/
def settledMetadata : ScopeM VersionedMetadata := do
  let metadata ← requireMetadata store owner
  if metadata.value.state = .mutating then recoverMutation store metadata
  else return metadata

def lockActive : ScopeM VersionedMetadata := do
  ensureScope store owner
  let metadata ← settledMetadata store owner
  match metadata.value.state with
  | .active => do
      let locked := { metadata.value with state := .mutating }
      let revision ← updateMetadata store ⟨locked, metadata.revision⟩
      return ⟨locked, revision⟩
  | .snapshotted | .archiveCommitted | .cleaning | .cleaned => throw (.isSealed owner)
  | .corrupt => throw (quarantined metadata.value owner)
  | .mutating => throw (.panicked "mutation recovery returned a mutating state")

def unlockActive (metadata : VersionedMetadata) (rowCount valueBytes : Nat) :
    ScopeM Unit := do
  let _ ← updateMetadata store
    ⟨{ metadata.value with state := .active, rowCount, valueBytes }, metadata.revision⟩
  return ()

def put (key : String) (envelope : Bytes) : ScopeM Unit := do
  check (validateKey key)
  check (validateValueSize key envelope)
  check (store.validateEnvelope key envelope)
  let owner ← check (ownerFromKey key)
  let locked ← lockActive store owner
  let values ← collectOwner store owner
  let existingBytes :=
    ((values.find? fun value => value.key = key).map
      fun value => value.envelope.length).getD 0
  let rowCount := values.length + if existingBytes = 0 then 1 else 0
  let valueBytes := totalBytes values - existingBytes + envelope.length
  match validateBounds rowCount valueBytes with
  | .error error => do
      unlockActive store locked values.length (totalBytes values)
      throw error
  | .ok () => do
      match ← attempt (storePut store key envelope) with
      | .error error => do
          unlockActive store locked values.length (totalBytes values)
          throw error
      | .ok _ => unlockActive store locked rowCount valueBytes

def delete (key : String) : ScopeM Bool := do
  check (validateKey key)
  let owner ← check (ownerFromKey key)
  let locked ← lockActive store owner
  let values ← collectOwner store owner
  match values.find? fun value => value.key = key with
  | none => do
      unlockActive store locked values.length (totalBytes values)
      return false
  | some existing => do
      storeDelete store key
      unlockActive store locked (values.length - 1) (totalBytes values - existing.envelope.length)
      return true

/-- The comparison of a sealed scope with what is stored now. -/
def checkSealed (metadata : ScopeMetadata) (owner : String) (snapshot : NatsScopeSnapshot) :
    Except NatsScopeError NatsScopeSnapshot :=
  match metadata.snapshotDigest with
  | none => .error (.corrupt s!"scope `{owner}` has no snapshot digest")
  | some expected =>
    if expected ≠ snapshot.digest ∨ metadata.rowCount ≠ snapshot.entries.length ∨
        metadata.valueBytes ≠ snapshot.valueBytes then
      .error (.corrupt s!"scope `{owner}` changed after its Compaction snapshot was sealed")
    else .ok snapshot

def snapshot (owner : String) : ScopeM NatsScopeSnapshot := do
  check (validateOwner owner)
  let metadata ← settledMetadata store owner
  match metadata.value.state with
  | .active => do
      let entries ← collectOwner store owner
      let taken ← check (store.snapshotFromEntries owner entries)
      let _ ← updateMetadata store ⟨{ metadata.value with
            state := .snapshotted
            rowCount := taken.entries.length
            valueBytes := taken.valueBytes
            snapshotDigest := some taken.digest }, metadata.revision⟩
      return taken
  | .snapshotted | .archiveCommitted => do
      let entries ← collectOwner store owner
      let taken ← check (store.snapshotFromEntries owner entries)
      check (checkSealed metadata.value owner taken)
  | .cleaning => throw (.corrupt s!"scope `{owner}` cleanup is incomplete")
  | .cleaned =>
    match metadata.value.snapshotDigest with
    | none => throw (.corrupt s!"cleaned scope `{owner}` has no snapshot digest")
    | some digest => throw (.cleaned owner digest)
  | .corrupt => throw (quarantined metadata.value owner)
  | .mutating => throw (.panicked "mutation recovery returned a mutating state")

def markArchiveCommitted (owner digest : String) : ScopeM Unit := do
  let metadata ← requireMetadata store owner
  if metadata.value.snapshotDigest ≠ some digest then
    throw (.corrupt s!"scope `{owner}` archive digest does not match its sealed snapshot")
  else
    match metadata.value.state with
    | .snapshotted => do
        let _ ← updateMetadata store
          ⟨{ metadata.value with state := .archiveCommitted }, metadata.revision⟩
        return ()
    | .archiveCommitted | .cleaning | .cleaned => return ()
    | .active | .mutating | .corrupt =>
      throw (.corrupt (s!"scope `{owner}` cannot record archive commit from state " ++
        metadata.value.state.debug))

def deleteEntries : List NatsScopeEntry → ScopeM Unit
  | [] => return ()
  | entry :: rest => do
      storeDelete store entry.key
      deleteEntries rest

/-- Delete the collected values, then record that the scope is clean. -/
def finishCleanup (metadata : VersionedMetadata) :
    ScopeM Unit := do
  let entries ← collectOwner store owner
  deleteEntries store entries
  let _ ← updateMetadata store
    ⟨{ metadata.value with state := .cleaned, rowCount := 0, valueBytes := 0 }, metadata.revision⟩
  return ()

def cleanupArchived : ScopeM Unit := do
  let metadata ← requireMetadata store owner
  match metadata.value.state with
  | .cleaned => return ()
  | .archiveCommitted => do
      let cleaning := { metadata.value with state := .cleaning }
      let revision ← updateMetadata store ⟨cleaning, metadata.revision⟩
      finishCleanup store owner ⟨cleaning, revision⟩
  | .cleaning => finishCleanup store owner metadata
  | .active | .mutating | .snapshotted | .corrupt =>
    throw (.corrupt
      (s!"scope `{owner}` cleanup requires committed archive state, found " ++
        metadata.value.state.debug))

inductive ScopeCall where
  | put (key : String) (envelope : Bytes)
  | delete (key : String)
  | snapshot (owner : String)
  | markArchiveCommitted (owner digest : String)
  | cleanupArchived (owner : String)

inductive ScopeAnswer where
  | finished
  | deleted (existed : Bool)
  | sealedAs (snapshot : NatsScopeSnapshot)

def ScopeCall.program (store : NatsScopeStore) :
    ScopeCall → ScopeM ScopeAnswer
  | .put key envelope => do
      Scope.put store key envelope
      return .finished
  | .delete key => do
      let existed ← Scope.delete store key
      return .deleted existed
  | .snapshot owner => do
      let taken ← Scope.snapshot store owner
      return .sealedAs taken
  | .markArchiveCommitted owner digest => do
      Scope.markArchiveCommitted store owner digest
      return .finished
  | .cleanupArchived owner => do
      Scope.cleanupArchived store owner
      return .finished

end Tickr.Scope
