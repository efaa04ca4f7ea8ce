import Tickr.Lite.Machine

/-!
# Draining staged compactions

For the oldest unfinished run that is staged the drain snapshots the scope,
seals each journal and installs its final Log, commits the archive, and then
cleans up.  Startup recovers the journals before it drains.
-/

namespace Tickr.Lite

open Concurrent Program
open LogStream LocalLog LocalScope

abbrev Lite (α : Type) := ExceptT LiteError (Program LiteOp LiteOp.Reply) α

def fail {α : Type} (message : String) : Lite α := check (.error (.refused message))

/-- A call that is answered with a result or an error. -/
def readFile (name : FileName) : Lite (Option Bytes) :=
  request (.read name) fun bytes => .ok bytes

def readRequiredFile (name : FileName) : Lite Bytes :=
  request (.read name) fun bytes =>
    match bytes with
    | some bytes => .ok bytes
    | none => .error (.refused "required final log file is missing")

variable (stream : LogStreamIdentity)

def openJournalOf : Lite LocalLogStagingStream :=
  request (.openExisting stream) fun opened => opened

def appendFrameTo (frame : JournalFrame) :
    Lite Unit := request (.append stream frame) fun appended => appended

def writeTemporaryFile (part : FinalPart) (contents : Bytes) : Lite Unit :=
  request (.writeTemporary stream part contents) fun written => written

def installTemporaryFile (part : FinalPart) :
    Lite Unit := request (.install stream part) fun replaced => replaced

def quarantineTemporaryFile (part : FinalPart) :
    Lite Unit := request (.quarantine stream part) fun replaced => replaced

/-- The snapshot of the run's scope, or why there is none. -/
def snapshotOf (run : Uuid) (now : Int) : Lite ScopeSnapshot :=
  request (.snapshotForRun run now) fun answer =>
    match answer with
    | .error error => .error (.scope error)
    | .ok (.committed snapshot) => .ok snapshot
    | .ok (.idempotent snapshot) => .ok snapshot
    | .ok .missing => .error (.refused "tickr-ctx scope is missing")
    | .ok (.bound _) => .error (.refused "tickr-ctx scope exceeds its bound")
    | .ok (.quarantined diagnostic) =>
      .error (.refused ("tickr-ctx scope is quarantined: " ++ diagnostic))

def cleanupScope (scope : Uuid) : Lite Unit :=
  request (.cleanupScope scope) fun answer =>
    match answer with
    | .error error => .error (.scope error)
    | .ok .cleaned => .ok ()
    | .ok .alreadyCleaned => .ok ()
    | .ok _ => .error (.refused "cannot clean archived tickr-ctx scope")

def purgeStaging (run : Uuid) : Lite Unit :=
  request (.purgeCompleted run) fun outcome =>
    match outcome with
    | .purged => .ok ()
    | .alreadyPurged => .ok ()
    | _ => .error (.refused "cannot purge completed Compaction staging")

variable (codec : LiteCodec) (sealed : LogSeal)

def finalLogDocument : FinalLogDocument :=
  { protocolIdentity := finalLogProtocol
    stream := sealed.stream
    recordDigest := sealed.recordDigest
    records := sealed.acceptedRecords }

def finalLogExitMetadata : FinalLogExitMetadata :=
  { protocolIdentity := finalLogProtocol
    stream := sealed.stream
    terminal := sealed.terminal }

def finalBytes : FinalPart → Bytes
  | .log => codec.encodeLog (finalLogDocument sealed)
  | .exit => codec.encodeExit (finalLogExitMetadata sealed)

def finalLogReference : FinalLogReference :=
  { protocolIdentity := finalLogProtocol
    stream := sealed.stream
    recordDigest := sealed.recordDigest
    finalLogDigest := codec.contentDigest (finalBytes codec sealed .log)
    exitMetadataDigest := codec.contentDigest (finalBytes codec sealed .exit) }

/-- A file is installed already: a temporary one beside it is stale. -/
def alreadyInstalled (stream : LogStreamIdentity) (part : FinalPart)
    (stale : Option Bytes) : Lite Unit :=
  match stale with
  | none => check (.ok ())
  | some _ => do
      quarantineTemporaryFile stream part
      fail "quarantined stale temporary final log file"

/-- Install a file from its temporary one, writing that first if it is not
there. -/
def installFrom (stream : LogStreamIdentity) (part : FinalPart)
    (expected : Bytes) (temporary : Option Bytes) : Lite Unit :=
  match temporary with
  | none => do
      writeTemporaryFile stream part expected
      installTemporaryFile stream part
  | some existing =>
    if existing = expected then installTemporaryFile stream part
    else do
      quarantineTemporaryFile stream part
      fail "quarantined incomplete or mismatched final log temporary file"

def installFinalFile (stream : LogStreamIdentity) (part : FinalPart)
    (expected : Bytes) : Lite Unit := do
  let destination ← readFile (.final stream part)
  match destination with
  | some installed =>
    if installed = expected then do
      let stale ← readFile (.temporary stream part)
      alreadyInstalled stream part stale
    else fail "installed final log differs from the sealed record set"
  | none => do
      let temporary ← readFile (.temporary stream part)
      installFrom stream part expected temporary

def installFinal : Lite FinalLogReference :=
  if LogStreamState.acceptedRecordDigest codec.contentDigest codec.recordsText
      sealed.acceptedRecords ≠ sealed.recordDigest then
    fail "final log seal digest does not match accepted record set"
  else do
    installFinalFile sealed.stream .log (finalBytes codec sealed .log)
    installFinalFile sealed.stream .exit (finalBytes codec sealed .exit)
    check (.ok (finalLogReference codec sealed))

def sealJournal (stream : LogStreamIdentity) : Lite LogSeal := do
  let staging ← openJournalOf stream
  match sealStream codec.journal staging with
  | .error error => check (.error (.journal error))
  | .ok (.found _) => check ((buildSeal codec.journal staging).mapError .journal)
  | .ok (.append frame _) => do
      appendFrameTo stream frame
      check ((buildSeal codec.journal staging).mapError .journal)

variable (reference : FinalLogReference)

/-- The checks of an installed Log against its reference. -/
def checkFinalLog (bytes : Bytes) : Except LiteError Unit :=
  if codec.contentDigest bytes ≠ reference.finalLogDigest then
    .error (.refused "installed final log digest mismatch")
  else
    match codec.decodeLog bytes with
    | none => .error (.refused "decode installed final log")
    | some log =>
      if log.protocolIdentity ≠ finalLogProtocol then
        .error (.refused "unknown installed final log protocol identity")
      else if log.stream ≠ reference.stream ∨ log.recordDigest ≠ reference.recordDigest then
        .error (.refused "installed final log identity does not match its reference")
      else if codec.contentDigest (codec.recordsText log.records) ≠ reference.recordDigest then
        .error (.refused "installed final log accepted record digest mismatch")
      else .ok ()

def checkFinalExit (bytes : Bytes) : Except LiteError Unit :=
  if codec.contentDigest bytes ≠ reference.exitMetadataDigest then
    .error (.refused "installed final log exit metadata digest mismatch")
  else
    match codec.decodeExit bytes with
    | none => .error (.refused "decode installed final log exit metadata")
    | some exit =>
      if exit.protocolIdentity ≠ finalLogProtocol then
        .error (.refused "unknown installed final log exit metadata protocol identity")
      else if exit.stream ≠ reference.stream then
        .error (.refused "installed final log exit metadata identity does not match its reference")
      else .ok ()

def verifyFinal : Lite Unit :=
  if reference.protocolIdentity ≠ finalLogProtocol then
    fail "unknown final log protocol identity"
  else do
    let log ← readRequiredFile (.final reference.stream .log)
    check (checkFinalLog codec reference log)
    let exit ← readRequiredFile (.final reference.stream .exit)
    check (checkFinalExit codec reference exit)

def removeJournalOf (stream : LogStreamIdentity) (staged : Option Bytes) : Lite Unit :=
  match staged with
  | none => check (.ok ())
  | some _ => request (.removeJournal stream) fun removed => removed

def purgeStaged : Lite Unit := do
  verifyFinal codec reference
  let staged ← readFile (.journal reference.stream)
  removeJournalOf reference.stream staged

variable (codec : LiteCodec)

/-- Every archived task has one stream and every stream its task. -/
def validateStreams (projection : ArchiveProjection)
    (streams : List LogStreamIdentity) : Except LiteError Unit :=
  match projection.taskInstances.mapM fun task => codec.parseUuid task.id with
  | none => .error (.refused "archive task instance has invalid id")
  | some tasks =>
    let actual := streams.map LogStreamIdentity.taskInstanceId
    if tasks.dedup.all (· ∈ actual) && actual.all (· ∈ tasks) &&
        tasks.dedup.length = streams.length then .ok ()
    else
      .error (.refused "local log stream inventory does not match archived task instances")

/-- The projection of a staged payload, checked against its row. -/
def decodeStaged (run : Uuid) (payload : Bytes) (payloadDigest : String) :
    Except LiteError (CompactionEnvelope × ArchiveProjection) :=
  if codec.contentDigest payload ≠ payloadDigest then
    .error (.refused "staged Compaction payload digest mismatch")
  else
    match codec.decodeEnvelope payload with
    | none => .error (.refused "decode staged Compaction envelope")
    | some envelope =>
      match envelope.projection with
      | none => .error (.refused "staged Compaction envelope has no archive projection")
      | some projection =>
        match codec.parseUuid projection.id with
        | none =>
          .error (.refused "staged Compaction archive projection has invalid workflow instance id")
        | some id =>
          if id ≠ run then
            .error (.refused "staged Compaction identity does not match its payload")
          else .ok (envelope, projection)

def terminalWorkflowStates : List String := ["Completed", "Failed"]

/-- `validate_input` of the archive. -/
def validateProjection (projection : ArchiveProjection) : Except LiteError Unit :=
  if (codec.parseUuid projection.workflowId).isNone then
    .error (.repository "invalid workflow id")
  else if projection.state ∉ terminalWorkflowStates then
    .error (.repository "workflow state is not terminal")
  else if projection.scheduledAt.any fun time =>
      (codec.parseTimestamp time).isNone then
    .error (.repository "invalid scheduled time")
  else if projection.taskInstances.any fun task =>
      (codec.parseUuid task.id).isNone || (codec.parseUuid task.taskId).isNone
      then
    .error (.repository "invalid task instance")
  else .ok ()

def installStreams : List LogStreamIdentity → Lite (List FinalLogReference)
  | [] => check (.ok [])
  | stream :: rest => do
      let sealed ← sealJournal codec stream
      let reference ← installFinal codec sealed
      let references ← installStreams rest
      check (.ok (reference :: references))

def verifyAll : List FinalLogReference → Lite Unit
  | [] => check (.ok ())
  | reference :: rest => do
      verifyFinal codec reference
      verifyAll rest

def purgeAll : List FinalLogReference → Lite Unit
  | [] => check (.ok ())
  | reference :: rest => do
      purgeStaged codec reference
      purgeAll rest

/-- The scope that a completion names is the one that the drain finds. -/
def checkScope (completion : Completion) (snapshot : ScopeSnapshot) : Except LiteError Unit :=
  if snapshot.scopeId ≠ completion.scopeId ∨ snapshot.digest ≠ completion.scopeDigest then
    .error (.refused "committed Compaction scope identity or digest mismatch")
  else (codec.archiveEntries snapshot).mapError .refused |>.map fun _ => ()

def finishCleanup (run : Uuid) (payload : Bytes) (payloadDigest : String)
    (completion : Completion) (now : Int) : Lite Unit := do
  let decoded ← check (decodeStaged codec run payload payloadDigest)
  check (validateStreams codec decoded.2
    (completion.finalLogReferences.map FinalLogReference.stream))
  let snapshot ← snapshotOf run now
  check (checkScope codec completion snapshot)
  verifyAll codec completion.finalLogReferences
  cleanupScope completion.scopeId
  purgeAll codec completion.finalLogReferences
  purgeStaging run

def archiveRun (entry : ArchiveEntry) (payloadDigest : String) : Lite Unit :=
  request (.archive entry payloadDigest) fun archived => archived

def completionOf (snapshot : ScopeSnapshot) (references : List FinalLogReference) : Completion :=
  { scopeId := snapshot.scopeId
    scopeDigest := snapshot.digest
    finalLogReferences := references }

def checkShippedAt (envelope : CompactionEnvelope) : Except LiteError Unit :=
  if envelope.shippedAt.any fun time => (codec.parseTimestamp time).isNone then
    .error (.refused "parse Compaction shipped_at")
  else .ok ()

def drainStaged (run : Uuid) (payload : Bytes) (payloadDigest : String)
    (now : Int) : Lite Unit := do
  let decoded ← check (decodeStaged codec run payload payloadDigest)
  let streams ← request (.streamsForRun run) fun streams => streams
  check (validateStreams codec decoded.2 streams)
  let snapshot ← snapshotOf run now
  let entries ← check ((codec.archiveEntries snapshot).mapError .refused)
  let references ← installStreams codec streams
  check (checkShippedAt codec decoded.1)
  check (validateProjection codec decoded.2)
  archiveRun
    { workflowInstanceId := run
      ctxEnvelope := entries
      completion := completionOf snapshot references } payloadDigest
  finishCleanup codec run payload payloadDigest (completionOf snapshot references) now

def drainRecord (record : Option DrainRecord) (now : Int) : Lite Bool :=
  match record with
  | none => check (.ok false)
  | some (.staged run payload payloadDigest) => do
      drainStaged codec run payload payloadDigest now
      check (.ok true)
  | some (.complete run payload payloadDigest completion) => do
      finishCleanup codec run payload payloadDigest completion now
      check (.ok true)

/-- Drain one staged record or resume the cleanup of one committed archive. -/
def drainNext (now : Int) : Lite Bool := do
  let record ← request .selectForDrain fun record => record
  drainRecord codec record now

variable (codec : LiteCodec)

/-- The exit metadata beside a final Log must be there. -/
def readFinalExit (stream : LogStreamIdentity) : Lite Unit := do
  let exit ← readRequiredFile (.final stream .exit)
  match codec.decodeExit exit with
  | none => fail "decode installed final log exit metadata"
  | some _ => check (.ok ())

/-- Whether the final Log of a stream is installed. -/
def readFinalLog (stream : LogStreamIdentity) : Lite Bool := do
  let log ← readFile (.final stream .log)
  match log with
  | none => check (.ok false)
  | some bytes =>
    match codec.decodeLog bytes with
    | none => fail "decode installed final log document"
    | some _ => do
        readFinalExit codec stream
        check (.ok true)

/-- Open a journal and record the abnormal closure of its stream. -/
def closeJournal (stream : LogStreamIdentity) : Lite Unit := do
  let staging ← openJournalOf stream
  match recoverAbnormalClosure staging with
  | .error error => check (.error (.journal error))
  | .ok (.found _) => check (.ok ())
  | .ok (.append frame _) => appendFrameTo stream frame

def recoverStream (stream : LogStreamIdentity) : Lite Unit := do
  let isFinal ← readFinalLog codec stream
  match isFinal with
  | true => check (.ok ())
  | false => closeJournal stream

def recoverStreams : List LogStreamIdentity → Lite Unit
  | [] => check (.ok ())
  | stream :: rest => do
      recoverStream codec stream
      recoverStreams rest

def recoverLocalJournals : Lite Unit := do
  let streams ← request .allStreams fun streams => streams
  recoverStreams codec streams

/-- The loop over `drain_next`, for a bounded number of turns. -/
def drainLoop (now : Int) : Nat → Lite Unit
  | 0 => fail "out of turns"
  | turns + 1 => do
      let isDrained ← drainNext codec now
      match isDrained with
      | false => check (.ok ())
      | true => drainLoop now turns

/-- The recovery part of a startup. -/
def startup (now : Int) (turns : Nat) : Lite Unit := do
  recoverLocalJournals codec
  drainLoop codec now turns

end Tickr.Lite
