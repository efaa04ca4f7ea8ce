import Tickr.Crash
import Tickr.LocalLog.Journal
import Tickr.LocalPickup.Store
import Tickr.LocalScope.Store

/-!
# The durable state of Tickr Lite

One SQLite database and one data directory: tables, journals and final Logs.  A
transaction and a rename are atomic.  Journals and temporary files are written
byte by byte, so a stop may leave a part of what was being written.
-/

namespace Tickr.Lite

open Table
open LogStream LocalLog LocalScope LocalPickup

structure ArchiveTask where
  (id taskId : String)

structure ArchiveProjection where
  (id workflowId state : String)
  scheduledAt : Option String
  taskInstances : List ArchiveTask

structure CompactionEnvelope where
  projection : Option ArchiveProjection
  shippedAt : Option String

def finalLogProtocol : String := "tickr-local-final-log-v2"

structure FinalLogReference where
  protocolIdentity : String
  stream : LogStreamIdentity
  (recordDigest finalLogDigest exitMetadataDigest : String)
  deriving DecidableEq

structure FinalLogDocument where
  protocolIdentity : String
  stream : LogStreamIdentity
  recordDigest : String
  records : List AcceptedLogRecord

structure FinalLogExitMetadata where
  protocolIdentity : String
  stream : LogStreamIdentity
  terminal : LogTerminal

/-- What the program takes from libraries: SHA-256, the texts of ids and times,
and the encodings of its documents. -/
structure LiteCodec where
  contentDigest : Bytes → String
  recordsText : List AcceptedLogRecord → Bytes
  encodeFrame : JournalFrame → Bytes
  decodeFrame : Bytes → Except String JournalFrame
  validateEnvelope : Bytes → Except String Unit
  parseUuid : String → Option Uuid
  uuidText : Uuid → String
  parseTimestamp : String → Option Int
  decodeEnvelope : Bytes → Option CompactionEnvelope
  /-- The values of a snapshot as the archive's JSON column holds them. -/
  archiveEntries : ScopeSnapshot → Except String Bytes
  encodeLog : FinalLogDocument → Bytes
  decodeLog : Bytes → Option FinalLogDocument
  encodeExit : FinalLogExitMetadata → Bytes
  decodeExit : Bytes → Option FinalLogExitMetadata

def LiteCodec.journal (codec : LiteCodec) : JournalCodec :=
  { contentDigest := codec.contentDigest
    recordsText := codec.recordsText
    encodeFrame := codec.encodeFrame
    decodeFrame := codec.decodeFrame }

def LiteCodec.scope (codec : LiteCodec) : ScopeCodec :=
  { contentDigest := codec.contentDigest
    validateEnvelope := codec.validateEnvelope }

/-- What the archive transaction records of a run's sources. -/
structure Completion where
  scopeId : Uuid
  scopeDigest : String
  finalLogReferences : List FinalLogReference
  deriving DecidableEq

inductive StagingState where
  | staged
  | complete (completion : Completion)
  | purged (completion : Completion)
  deriving DecidableEq

def StagingState.isUnfinished : StagingState → Bool
  | .staged => true
  | .complete _ => true
  | .purged _ => false

/-- A row of `local_compaction_staging`. -/
structure StagingRow where
  workflowInstanceId : Uuid
  payload : Option Bytes
  payloadDigest : String
  state : StagingState
  stagedAt : Int

/-- One committed archive transaction. -/
structure ArchiveEntry where
  workflowInstanceId : Uuid
  ctxEnvelope : Bytes
  completion : Completion

inductive FinalPart where
  | log
  | exit
  deriving DecidableEq

inductive FileName where
  | journal (stream : LogStreamIdentity)
  | final (stream : LogStreamIdentity) (part : FinalPart)
  | temporary (stream : LogStreamIdentity) (part : FinalPart)
  deriving DecidableEq

structure Machine where
  pickup : PickupStore
  scopes : ScopeStore
  staging : List StagingRow
  archives : List ArchiveEntry
  files : FileName → Option Bytes

def Machine.empty : Machine :=
  { pickup := .empty
    scopes := .empty
    staging := []
    archives := []
    files := fun _ => none }

def Machine.put (host : Machine) (name : FileName) (bytes : Bytes) :
    Machine := { host with files := Function.update host.files name (some bytes) }

def Machine.remove (host : Machine) (name : FileName) : Machine :=
  { host with files := Function.update host.files name none }

inductive LiteError where
  | repository (message : String)
  | file (message : String)
  | journal (error : JournalError)
  | scope (error : ScopeError)
  | refused (message : String)
  deriving DecidableEq

inductive DrainRecord where
  | staged (workflowInstanceId : Uuid) (payload : Bytes) (payloadDigest : String)
  | complete (workflowInstanceId : Uuid) (payload : Bytes)
      (payloadDigest : String) (completion : Completion)

inductive PurgeOutcome where
  | purged
  | alreadyPurged
  | missing
  | notComplete

inductive LiteOp where
  | selectForDrain
  | streamsForRun (run : Uuid)
  | allStreams
  | snapshotForRun (run : Uuid) (now : Int)
  | openExisting (stream : LogStreamIdentity)
  | append (stream : LogStreamIdentity) (frame : JournalFrame)
  | read (name : FileName)
  | writeTemporary (stream : LogStreamIdentity) (part : FinalPart) (contents : Bytes)
  /-- `durable_replace` of the final file by the temporary one. -/
  | install (stream : LogStreamIdentity) (part : FinalPart)
  /-- `durable_replace` of a fresh name under `quarantine/`. -/
  | quarantine (stream : LogStreamIdentity) (part : FinalPart)
  | removeJournal (stream : LogStreamIdentity)
  | archive (entry : ArchiveEntry) (payloadDigest : String)
  | cleanupScope (scope : Uuid)
  | purgeCompleted (run : Uuid)

def LiteOp.Reply : LiteOp → Type
  | .selectForDrain => Except LiteError (Option DrainRecord)
  | .streamsForRun _ => Except LiteError (List LogStreamIdentity)
  | .allStreams => Except LiteError (List LogStreamIdentity)
  | .snapshotForRun _ _ => Except ScopeError SnapshotOutcome
  | .openExisting _ => Except LiteError LocalLogStagingStream
  | .append _ _ => Except LiteError Unit
  | .read _ => Option Bytes
  | .writeTemporary _ _ _ => Except LiteError Unit
  | .install _ _ => Except LiteError Unit
  | .quarantine _ _ => Except LiteError Unit
  | .removeJournal _ => Except LiteError Unit
  | .archive _ _ => Except LiteError Unit
  | .cleanupScope _ => Except ScopeError CleanupOutcome
  | .purgeCompleted _ => PurgeOutcome

variable (codec : LiteCodec)

/-- The stream of a dispatch that was claimed. -/
def logStream (row : DispatchRow) (task : String) : Except LiteError LogStreamIdentity :=
  match codec.parseUuid task with
  | none => .error (.repository ("local task dispatch has invalid task instance id " ++ task))
  | some taskInstanceId => .ok ⟨taskInstanceId, UInt64.ofNat row.pickupGeneration.toNat⟩

/-- The claimed dispatches that a query selects, by the text of their task. -/
def claimedDispatches (selects : DispatchRow → Bool) (pickup : PickupStore) :
    List (DispatchRow × String) :=
  let rows := pickup.dispatches.filterMap fun row =>
    match row.taskInstanceId with
    | none => none
    | some task =>
      if selects row && 0 < row.pickupGeneration then some (row, task)
      else none
  rows.insertionSort fun left right => left.2 ≤ right.2

def logStreams (selects : DispatchRow → Bool) (pickup : PickupStore) :
    Except LiteError (List LogStreamIdentity) :=
  (claimedDispatches selects pickup).mapM fun claimed =>
    logStream codec claimed.1 claimed.2

/-- The unfinished rows, the oldest first. -/
def unfinishedRows (staging : List StagingRow) : List StagingRow :=
  (staging.filter fun row => row.state.isUnfinished).insertionSort
    fun left right => left.stagedAt < right.stagedAt ∨
      left.stagedAt = right.stagedAt ∧
        codec.uuidText left.workflowInstanceId ≤ codec.uuidText right.workflowInstanceId

def selectForDrain (staging : List StagingRow) : Except LiteError (Option DrainRecord) :=
  match (unfinishedRows codec staging).head? with
  | none => .ok none
  | some row =>
    match row.payload with
    | none => .error (.repository "unfinished Compaction record has no payload")
    | some payload =>
      match row.state with
      | .staged => .ok (some (.staged row.workflowInstanceId payload row.payloadDigest))
      | .complete completion =>
        .ok (some (.complete row.workflowInstanceId payload row.payloadDigest completion))
      | .purged _ => .ok none

/-- The archive transaction: the entry and the completion of its staged row, or
neither. -/
def archiveStaged (entry : ArchiveEntry) (payloadDigest : String)
    (host : Machine) : Except LiteError Unit × Machine :=
  let selects := fun row : StagingRow =>
    row.workflowInstanceId = entry.workflowInstanceId &&
      row.payloadDigest = payloadDigest && row.state = .staged
  if affected selects host.staging = 1 then
    (.ok (), { host with
        archives := host.archives ++ [entry]
        staging := updateWhere selects (fun row => { row with state := .complete entry.completion })
          host.staging })
  else
    (.error (.repository
      "staged Compaction record is missing, complete, or has different payload bytes"),
      host)

def purgeCompleted (run : Uuid) (host : Machine) : PurgeOutcome × Machine :=
  match host.staging.find? fun row => row.workflowInstanceId = run with
  | none => (.missing, host)
  | some row =>
    match row.state with
    | .purged _ => (.alreadyPurged, host)
    | .staged => (.notComplete, host)
    | .complete completion =>
      (.purged, { host with
          staging := updateWhere (fun row => row.workflowInstanceId = run) (fun row =>
              { row with
                state := .purged completion
                payload := none })
            host.staging })

def openExisting (stream : LogStreamIdentity) (fault : WriteFault)
    (host : Machine) : Except LiteError LocalLogStagingStream × Machine :=
  match host.files (.journal stream) with
  | none => (.error (.file "open existing local log staging journal"), host)
  | some file =>
    match openJournal codec.journal stream fault file with
    | (.stream opened, file) => (.ok opened, host.put (.journal stream) file)
    | (.failed error, file) => (.error (.journal error), host.put (.journal stream) file)
    | (.stopped, file) => (.error (.file "stopped"), host.put (.journal stream) file)

def appendTo (stream : LogStreamIdentity) (frame : JournalFrame)
    (fault : WriteFault) (host : Machine) : Except LiteError Unit × Machine :=
  match host.files (.journal stream) with
  | none => (.error (.file "append local log staging frame"), host)
  | some file =>
    match appendFrame codec.journal frame fault file with
    | (.synced, file) => (.ok (), host.put (.journal stream) file)
    | (.failed error, file) => (.error (.journal error), host.put (.journal stream) file)
    | (.stopped, file) => (.error (.file "stopped"), host.put (.journal stream) file)

def replaceFile (source target : FileName) (message : String)
    (host : Machine) : Except LiteError Unit × Machine :=
  match host.files source with
  | none => (.error (.file message), host)
  | some bytes => (.ok (), (host.remove source).put target bytes)

def removeFile (name : FileName) (message : String) (host : Machine) :
    Except LiteError Unit × Machine :=
  match host.files name with
  | none => (.error (.file message), host)
  | some _ => (.ok (), host.remove name)

def LiteOp.perform : (op : LiteOp) → Machine → op.Reply × Machine
  | .selectForDrain, host => (Lite.selectForDrain codec host.staging, host)
  | .streamsForRun run, host =>
    (logStreams codec (fun row => row.workflowInstanceId = some (codec.uuidText run))
      host.pickup, host)
  | .allStreams, host => (logStreams codec (fun _ => true) host.pickup, host)
  | .snapshotForRun run now, host =>
    let (answer, scopes) := host.scopes.snapshotTickrCtxScopeForRun codec.scope "default" run now
    (answer, { host with scopes })
  | .openExisting stream, host => Lite.openExisting codec stream .none host
  | .append stream frame, host => appendTo codec stream frame .none host
  | .read name, host => (host.files name, host)
  | .writeTemporary stream part contents, host =>
    match host.files (.temporary stream part) with
    | some _ => (.error (.file "create final log temporary file"), host)
    | none => (.ok (), host.put (.temporary stream part) contents)
  | .install stream part, host =>
    replaceFile (.temporary stream part) (.final stream part)
      "durably install final log file" host
  | .quarantine stream part, host =>
    removeFile (.temporary stream part) "quarantine invalid final log temporary file" host
  | .removeJournal stream, host =>
    removeFile (.journal stream) "purge local log staging journal" host
  | .archive entry payloadDigest, host => archiveStaged entry payloadDigest host
  | .cleanupScope scope, host =>
    let (answer, scopes) := host.scopes.cleanupTickrCtxScope codec.scope scope
    (answer, { host with scopes })
  | .purgeCompleted run, host => Lite.purgeCompleted run host

/-- What an operation leaves when the process stops inside it: a journal or a
temporary file with a part of the bytes. -/
def LiteOp.Torn : LiteOp → Machine → Machine → Prop
  | .openExisting stream, host, left =>
    ∃ written, left = (Lite.openExisting codec stream (.stops written) host).2
  | .append stream frame, host, left =>
    ∃ written, left = (appendTo codec stream frame (.stops written) host).2
  | .writeTemporary stream part contents, host, left =>
    host.files (.temporary stream part) = none ∧
      ∃ written, left = host.put (.temporary stream part) (contents.take written)
  | _, _, _ => False

def device : Crash.Device Machine LiteOp LiteOp.Reply :=
  { perform := LiteOp.perform codec
    Torn := LiteOp.Torn codec }

end Tickr.Lite
