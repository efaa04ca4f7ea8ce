import Tickr.LogStream.State
import Tickr.Table

/-!
# The SQLite scope repository

A tickr-ctx scope is a row, the values under it and the claims of the requests
applied to it.  A claim makes a request idempotent: with another request it is
a conflict.  A digest stands for the bytes that it is taken of.
-/

namespace Tickr.LocalScope

open Table
open LogStream (Uuid Bytes)

structure ScopeValue where
  key : String
  envelope : Bytes
  deriving DecidableEq

inductive ScopeState where
  | active
  | snapshotted
  | cleaned
  | quarantined
  deriving DecidableEq

/-- Claim ids are derived from the id of what they are made for, or drawn for
one request to a scope. -/
inductive ClaimId where
  | taskScope (run : Uuid)
  | rehydration (run : Uuid)
  | seed (scope signal : Uuid)
  | request (scope : Uuid) (nonce : Nat)
  deriving DecidableEq

def bigEndian (length : Nat) : Bytes :=
  [(length / 2 ^ 24).toUInt8, (length / 2 ^ 16).toUInt8,
    (length / 2 ^ 8).toUInt8, length.toUInt8]

def lengthPrefixed (value : Bytes) : Bytes := bigEndian value.length ++ value

def utf8 (text : String) : Bytes := text.toList.flatMap String.utf8EncodeChar

/-- What a request digest is taken of: the sixteen bytes of the scope and those
that come after them. -/
structure RequestDigest where
  scope : Uuid
  bytes : Bytes
  deriving DecidableEq

def RequestDigest.mutation (scope : Uuid) (values : List ScopeValue) : RequestDigest :=
  ⟨scope, values.flatMap fun value =>
    lengthPrefixed (utf8 value.key) ++ lengthPrefixed value.envelope⟩

def RequestDigest.deletion (scope : Uuid) (key : String) : RequestDigest :=
  ⟨scope, lengthPrefixed (utf8 "delete") ++ lengthPrefixed (utf8 key)⟩

structure ScopeSnapshot where
  scopeId : Uuid
  bytes : Bytes
  digest : String
  (rowCount valueBytes : Nat)

structure ScopeRow where
  scopeId : Uuid
  contextNamespace : String
  runId : Uuid
  creationClaim : ClaimId
  creationDigest : RequestDigest
  state : ScopeState
  createdAt : Int
  snapshot : Option ScopeSnapshot
  quarantineReason : Option String

structure ValueRow where
  scopeId : Uuid
  key : String
  envelope : Bytes

structure ClaimRow where
  claim : ClaimId
  scopeId : Uuid
  digest : RequestDigest

structure ScopeStore where
  scopes : List ScopeRow
  values : List ValueRow
  claims : List ClaimRow

def ScopeStore.empty : ScopeStore :=
  { scopes := []
    values := []
    claims := [] }

/-- What the repository takes from libraries: the hexadecimal SHA-256 and the
check of an envelope's JSON. -/
structure ScopeCodec where
  contentDigest : Bytes → String
  validateEnvelope : Bytes → Except String Unit

inductive BoundViolation where
  | valueBytes (key : String) (actual : Nat)
  | requestValues (actual : Nat)
  | requestBytes (actual : Nat)
  | scopeRows (actual : Nat)
  | scopeBytes (actual : Nat)
  | scopeAgeSeconds (actual : Int)

inductive MutationRejection where
  | emptyRequest
  | bound (violation : BoundViolation)
  | envelope (key reason : String)

inductive ScopeError where
  | invalidNamespace
  | invalidKey
  | duplicateKey (key : String)
  | corruptStoredValue (message : String)
  /-- A key of a table is taken. -/
  | constraintViolated
  deriving DecidableEq

inductive CreationOutcome where
  | created
  | idempotent
  | collision (existing : Uuid)
  | claimConflict
  | rejected (rejection : MutationRejection)

inductive WriteOutcome where
  | applied (inserted updated : Nat)
  | idempotent
  | missing
  | claimConflict
  | notWritable (state : ScopeState)
  | rejected (rejection : MutationRejection)
  | quarantined (diagnostic : String)

inductive DeleteOutcome where
  | deleted
  | missingKey
  | idempotent
  | missing
  | claimConflict
  | notWritable (state : ScopeState)
  | bound (violation : BoundViolation)
  | quarantined (diagnostic : String)

inductive ReadOutcome where
  | present (values : List ScopeValue)
  | archived (snapshot : ScopeSnapshot)
  | missing
  | bound (violation : BoundViolation)
  | quarantined (diagnostic : String)

inductive SnapshotOutcome where
  | committed (snapshot : ScopeSnapshot)
  | idempotent (snapshot : ScopeSnapshot)
  | missing
  | bound (violation : BoundViolation)
  | quarantined (diagnostic : String)

inductive CleanupOutcome where
  | cleaned
  | alreadyCleaned
  | missing
  | snapshotRequired
  | quarantined (diagnostic : String)

def maxValueBytes : Nat := 1024 * 1024

def maxRequestValues : Nat := 128

def maxRequestBytes : Nat := 4 * 1024 * 1024

def maxScopeRows : Nat := 4096

def maxScopeBytes : Nat := 64 * 1024 * 1024

def maxAgeSeconds : Int := 30 * 24 * 60 * 60

def maxNamespaceBytes : Nat := 128

def maxKeyBytes : Nat := 512

/-- The text of a run id is thirty-six bytes long, within its bound. -/
def validateScopeIdentity (contextNamespace : String) : Except ScopeError Unit :=
  if contextNamespace.utf8ByteSize = 0 ∨ maxNamespaceBytes < contextNamespace.utf8ByteSize then
    .error .invalidNamespace
  else .ok ()

def validateKey (key : String) : Except ScopeError Unit :=
  if key.utf8ByteSize = 0 ∨ maxKeyBytes < key.utf8ByteSize then
    .error .invalidKey
  else .ok ()

/-- The checks that come before a request's digest, after the keys already
seen: every key fits, and none comes twice. -/
def validateKeys (seen : List String) : List String → Except ScopeError Unit
  | [] => .ok ()
  | key :: rest =>
    match validateKey key with
    | .error error => .error error
    | .ok _ =>
      if key ∈ seen then .error (.duplicateKey key)
      else validateKeys (key :: seen) rest

variable (values : List ScopeValue)

def sortValues : List ScopeValue := values.insertionSort fun left right => left.key ≤ right.key

def mutationDigest (scope : Uuid) (values : List ScopeValue) : Except ScopeError RequestDigest :=
  (validateKeys [] (values.map ScopeValue.key)).map fun _ =>
    .mutation scope (sortValues values)

def deleteDigest (scope : Uuid) (key : String) :
    Except ScopeError RequestDigest := (validateKey key).map fun _ => .deletion scope key

def envelopeBytes : Nat := (values.map fun value => value.envelope.length).sum

def requestBytes : Nat :=
  (values.map fun value => value.key.utf8ByteSize + value.envelope.length).sum

/-- The first value that is too long or whose envelope is not valid. -/
def rejectedValue (codec : ScopeCodec) (values : List ScopeValue) : Option MutationRejection :=
  values.findSome? fun value =>
    if maxValueBytes < value.envelope.length then
      some (.bound (.valueBytes value.key value.envelope.length))
    else
      match codec.validateEnvelope value.envelope with
      | .ok _ => none
      | .error reason => some (.envelope value.key reason)

/-- Both callers give no existing rows and bytes. -/
def validateMutation (codec : ScopeCodec) (values : List ScopeValue) : Option MutationRejection :=
  if values = [] then some .emptyRequest
  else if maxRequestValues < values.length then
    some (.bound (.requestValues values.length))
  else if maxRequestBytes < requestBytes values then
    some (.bound (.requestBytes (requestBytes values)))
  else
    match rejectedValue codec values with
    | some rejection => some rejection
    | none =>
      if maxScopeRows < values.length then
        some (.bound (.scopeRows values.length))
      else if maxScopeBytes < envelopeBytes values then
        some (.bound (.scopeBytes (envelopeBytes values)))
      else none

/-- The bounds on what a scope holds after a write. -/
def resultingScopeBound (existing : List ValueRow)
    (values : List ScopeValue) : Option BoundViolation :=
  let holds := fun key => existing.any fun row => row.key = key
  let inserted := (values.filter fun value => !holds value.key).length
  let replacedBytes := ((existing.filter fun row =>
    values.any fun value => value.key = row.key).map fun row =>
      row.envelope.length).sum
  let existingBytes := (existing.map fun row => row.envelope.length).sum
  let resultingBytes := existingBytes - replacedBytes + envelopeBytes values
  if maxScopeRows < existing.length + inserted then
    some (.scopeRows (existing.length + inserted))
  else if maxScopeBytes < resultingBytes then
    some (.scopeBytes resultingBytes)
  else none

/-- Times are in seconds. -/
def ageBound (createdAt now : Int) : Option BoundViolation :=
  let age := max (now - createdAt) 0
  if maxAgeSeconds < age then some (.scopeAgeSeconds age) else none

def storedBounds : Option BoundViolation :=
  if maxScopeRows < values.length then some (.scopeRows values.length)
  else
    match values.find? fun value => maxValueBytes < value.envelope.length with
    | some value => some (.valueBytes value.key value.envelope.length)
    | none =>
      if maxScopeBytes < envelopeBytes values then
        some (.scopeBytes (envelopeBytes values))
      else none

/-- The diagnostic names the value by its key; the row's own random identity
is left out. -/
def firstInvalidStoredEnvelope (codec : ScopeCodec) (values : List ScopeValue) : Option String :=
  values.findSome? fun value =>
    match codec.validateEnvelope value.envelope with
    | .ok _ => none
    | .error reason => some ("value at key " ++ value.key ++ " has " ++ reason)

/-- `TICKR_CTX_SCOPE`, a zero byte and the format version. -/
def snapshotMagic : Bytes := "TICKR_CTX_SCOPE".toList.flatMap String.utf8EncodeChar ++ [0, 1]

def encodeSnapshot : Bytes :=
  snapshotMagic ++ bigEndian values.length ++ values.flatMap fun value =>
      lengthPrefixed (value.key.toList.flatMap String.utf8EncodeChar) ++
        lengthPrefixed value.envelope

def takenSnapshot (codec : ScopeCodec) (scope : Uuid) (values : List ScopeValue) : ScopeSnapshot :=
  { scopeId := scope
    bytes := encodeSnapshot values
    digest := codec.contentDigest (encodeSnapshot values)
    rowCount := values.length
    valueBytes := envelopeBytes values }

def snapshotFromRecord (codec : ScopeCodec) (row : ScopeRow) : Except String ScopeSnapshot :=
  match row.snapshot with
  | none => .error "snapshot state is missing snapshot bytes"
  | some snapshot =>
    if snapshotMagic.isPrefixOf snapshot.bytes = false then
      .error "snapshot uses an unknown format version"
    else if codec.contentDigest snapshot.bytes ≠ snapshot.digest then
      .error "snapshot digest does not match committed bytes"
    else .ok snapshot

namespace ScopeStore

/-- What a transaction returns, and the tables it leaves. -/
abbrev Transacted (α : Type) := Except ScopeError α × ScopeStore

variable (store : ScopeStore) (scope : Uuid)

def scopeRow : Option ScopeRow := store.scopes.find? fun row => row.scopeId = scope

def valueRows : List ValueRow := store.values.filter fun row => row.scopeId = scope

/-- The values of a scope, ordered by their keys. -/
def scopeValues : List ScopeValue :=
  sortValues ((store.valueRows scope).map fun row => ⟨row.key, row.envelope⟩)

def insertScopeValue (rows : List ValueRow) (value : ScopeValue) : List ValueRow :=
  upsert (fun row => row.scopeId = scope && row.key = value.key)
    (fun row => { row with envelope := value.envelope })
    ⟨scope, value.key, value.envelope⟩ rows

def insertScopeValues (values : List ScopeValue) :
    List ValueRow := values.foldl (insertScopeValue scope) store.values

def updateScope (change : ScopeRow → ScopeRow) : ScopeStore :=
  { store with
    scopes := updateWhere (fun row => row.scopeId = scope) change store.scopes }

def quarantineScope (diagnostic : String) : ScopeStore :=
  store.updateScope scope fun row =>
    { row with
      state := .quarantined
      quarantineReason := some diagnostic }

def quarantineDiagnostic (row : ScopeRow) : String :=
  row.quarantineReason.getD "scope is quarantined"

variable (codec : ScopeCodec) (store : ScopeStore)

structure CreateInput where
  scopeId : Uuid
  contextNamespace : String
  runId : Uuid
  claim : ClaimId
  values : List ScopeValue
  now : Int

variable (input : CreateInput)

def createdRow (digest : RequestDigest) : ScopeRow :=
  { scopeId := input.scopeId
    contextNamespace := input.contextNamespace
    runId := input.runId
    creationClaim := input.claim
    creationDigest := digest
    state := .active
    createdAt := input.now
    snapshot := none
    quarantineReason := none }

/-- The transaction of a creation whose request was admitted. -/
def createAdmitted (digest : RequestDigest) : Transacted CreationOutcome :=
  match store.scopes.find? fun row => row.creationClaim = input.claim with
  | some row =>
    if row.scopeId = input.scopeId && row.contextNamespace = input.contextNamespace &&
        row.runId = input.runId && row.creationDigest = digest then
      (.ok .idempotent, store)
    else (.ok .claimConflict, store)
  | none =>
    match store.scopes.find? fun row =>
        row.contextNamespace = input.contextNamespace && row.runId = input.runId with
    | some row => (.ok (.collision row.scopeId), store)
    | none =>
      if store.scopes.any (fun row => row.scopeId = input.scopeId) ||
          store.claims.any fun row => row.claim = input.claim then
        (.error .constraintViolated, store)
      else
        (.ok .created,
          { scopes := store.scopes ++ [createdRow input digest]
            values := store.insertScopeValues input.scopeId input.values
            claims := store.claims ++ [⟨input.claim, input.scopeId, digest⟩] })

/-- A run needs a scope even when no Task publishes values, so an empty
request is no reason to reject a creation. -/
def createTickrCtxScope : Transacted CreationOutcome :=
  match validateScopeIdentity input.contextNamespace with
  | .error error => (.error error, store)
  | .ok _ =>
    match mutationDigest input.scopeId input.values with
    | .error error => (.error error, store)
    | .ok digest =>
      match validateMutation codec input.values with
      | none => store.createAdmitted input digest
      | some .emptyRequest => store.createAdmitted input digest
      | some rejection => (.ok (.rejected rejection), store)

/-- A scope that takes requests, or how they are answered instead. -/
inductive Writable where
  | scope (row : ScopeRow)
  | missing
  | quarantined (diagnostic : String)
  | claimed (isSame : Bool)
  | notWritable (state : ScopeState)
  | tooOld (violation : BoundViolation)

/-- The checks that a write and a deletion make of the scope and the claim. -/
def writable (scope : Uuid) (claim : ClaimId) (digest : RequestDigest) (now : Int) : Writable :=
  match store.scopeRow scope with
  | none => .missing
  | some row =>
    if row.state = .quarantined then .quarantined (quarantineDiagnostic row)
    else
      match store.claims.find? fun stored => stored.claim = claim with
      | some stored => .claimed (stored.scopeId = scope && stored.digest = digest)
      | none =>
        if row.state ≠ .active then .notWritable row.state
        else
          match ageBound row.createdAt now with
          | some violation => .tooOld violation
          | none => .scope row

def writeTickrCtxScope (scope : Uuid) (claim : ClaimId)
    (values : List ScopeValue) (now : Int) : Transacted WriteOutcome :=
  match mutationDigest scope values with
  | .error error => (.error error, store)
  | .ok digest =>
    match validateMutation codec values with
    | some rejection => (.ok (.rejected rejection), store)
    | none =>
      match store.writable scope claim digest now with
      | .missing => (.ok .missing, store)
      | .quarantined diagnostic => (.ok (.quarantined diagnostic), store)
      | .claimed true => (.ok .idempotent, store)
      | .claimed false => (.ok .claimConflict, store)
      | .notWritable state => (.ok (.notWritable state), store)
      | .tooOld violation => (.ok (.rejected (.bound violation)), store)
      | .scope _ =>
        match resultingScopeBound (store.valueRows scope) values with
        | some violation => (.ok (.rejected (.bound violation)), store)
        | none =>
          let updated := (values.filter fun value =>
            (store.valueRows scope).any fun row =>
              row.key = value.key).length
          (.ok (.applied (values.length - updated) updated), { store with
              values := store.insertScopeValues scope values
              claims := store.claims ++ [⟨claim, scope, digest⟩] })

def deleteTickrCtxScopeValue (scope : Uuid) (claim : ClaimId) (key : String)
    (now : Int) : Transacted DeleteOutcome :=
  match deleteDigest scope key with
  | .error error => (.error error, store)
  | .ok digest =>
    match store.writable scope claim digest now with
    | .missing => (.ok .missing, store)
    | .quarantined diagnostic => (.ok (.quarantined diagnostic), store)
    | .claimed true => (.ok .idempotent, store)
    | .claimed false => (.ok .claimConflict, store)
    | .notWritable state => (.ok (.notWritable state), store)
    | .tooOld violation => (.ok (.bound violation), store)
    | .scope _ =>
      let selects := fun row : ValueRow =>
        row.scopeId = scope && row.key = key
      (.ok (if affected selects store.values = 0 then .missingKey
        else .deleted),
        { store with
          values := store.values.filter fun row => !selects row
          claims := store.claims ++ [⟨claim, scope, digest⟩] })

/-- A stored snapshot, or the quarantine of the scope whose snapshot is not
what was committed. -/
def committedSnapshot {α : Type} (row : ScopeRow)
    (answer : ScopeSnapshot → α) (quarantined : String → α) : Transacted α :=
  match snapshotFromRecord codec row with
  | .ok snapshot => (.ok (answer snapshot), store)
  | .error diagnostic =>
    (.ok (quarantined diagnostic), store.quarantineScope row.scopeId diagnostic)

def readTickrCtxScope (scope : Uuid) (now : Int) : Transacted ReadOutcome :=
  match store.scopeRow scope with
  | none => (.ok .missing, store)
  | some row =>
    match row.state with
    | .quarantined => (.ok (.quarantined (quarantineDiagnostic row)), store)
    | .snapshotted | .cleaned => store.committedSnapshot codec row .archived .quarantined
    | .active =>
      match ageBound row.createdAt now with
      | some violation => (.ok (.bound violation), store)
      | none =>
        let values := store.scopeValues scope
        match storedBounds values with
        | some violation => (.ok (.bound violation), store)
        | none =>
          match firstInvalidStoredEnvelope codec values with
          | some diagnostic =>
            (.ok (.quarantined diagnostic), store.quarantineScope scope diagnostic)
          | none => (.ok (.present values), store)

def snapshotTickrCtxScope (scope : Uuid) (now : Int) : Transacted SnapshotOutcome :=
  match store.scopeRow scope with
  | none => (.ok .missing, store)
  | some row =>
    match row.state with
    | .quarantined => (.ok (.quarantined (quarantineDiagnostic row)), store)
    | .snapshotted | .cleaned => store.committedSnapshot codec row .idempotent .quarantined
    | .active =>
      match ageBound row.createdAt now with
      | some violation => (.ok (.bound violation), store)
      | none =>
        let values := store.scopeValues scope
        match storedBounds values with
        | some violation => (.ok (.bound violation), store)
        | none =>
          match firstInvalidStoredEnvelope codec values with
          | some diagnostic =>
            (.ok (.quarantined diagnostic), store.quarantineScope scope diagnostic)
          | none =>
            (.ok (.committed (takenSnapshot codec scope values)), store.updateScope scope fun row =>
                { row with
                  state := .snapshotted
                  snapshot := some (takenSnapshot codec scope values) })

/-- Resolve the scope of a namespace and run, then take its snapshot. -/
def snapshotTickrCtxScopeForRun (contextNamespace : String) (run : Uuid)
    (now : Int) : Transacted SnapshotOutcome :=
  match validateScopeIdentity contextNamespace with
  | .error error => (.error error, store)
  | .ok _ =>
    match store.scopes.find? fun row =>
        row.contextNamespace = contextNamespace && row.runId = run with
    | none => (.ok .missing, store)
    | some row => store.snapshotTickrCtxScope codec row.scopeId now

def cleanupTickrCtxScope (scope : Uuid) : Transacted CleanupOutcome :=
  match store.scopeRow scope with
  | none => (.ok .missing, store)
  | some row =>
    match row.state with
    | .quarantined => (.ok (.quarantined (quarantineDiagnostic row)), store)
    | .active => (.ok .snapshotRequired, store)
    | .snapshotted | .cleaned =>
      match snapshotFromRecord codec row with
      | .error diagnostic => (.ok (.quarantined diagnostic), store.quarantineScope scope diagnostic)
      | .ok _ =>
        if row.state = .cleaned then (.ok .alreadyCleaned, store)
        else
          (.ok .cleaned,
            { scopes := updateWhere (fun row => row.scopeId = scope)
                (fun row => { row with state := .cleaned }) store.scopes
              values := store.values.filter fun row =>
                row.scopeId ≠ scope
              claims := store.claims.filter fun row =>
                row.scopeId ≠ scope })

end ScopeStore

end Tickr.LocalScope
