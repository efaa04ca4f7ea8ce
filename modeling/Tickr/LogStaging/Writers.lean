import Tickr.LogStaging.Messages

/-!
# Writers and sealers of a task's Log subject

Every operation reads the whole subject, decides on the copy it read, and then
publishes; the read and the publish are steps of their own.
-/

namespace Tickr.LogStaging

open LogStream Concurrent JetStream
open Concurrent.Program (check)

inductive LogStagingError where
  /-- A failed stream operation, with the context the code adds. -/
  | stream (context : String) (error : StreamError)
  | undecodable (reason : String)
  | rejected (fault : Fault)
  | refused (reason : String)

abbrev LogSubject := Subject MessageId LogMessage
abbrev LogOp := SubjectOp MessageId LogMessage
abbrev LogProgram := Program LogOp SubjectOp.Reply
abbrev LogM := ExceptT LogStagingError LogProgram

structure SealedLogStream where
  identity : LogStreamIdentity
  committedFrontier : Option UInt64
  acceptedRecords : List AcceptedLogRecord
  declaredGaps : List PreAcceptanceGap
  terminal : LogTerminal

/-- What the staging code takes from libraries: the hexadecimal SHA-256 and the
JSON text of the streams of a seal. -/
structure Codec where
  contentDigest : Bytes → String
  sealText : List SealedLogStream → Bytes

def inContext {α : Type} (context : String) (reply : Except StreamError α) :
    Except LogStagingError α := reply.mapError (.stream context)

def readAll (context : String) : LogM (List (Stored MessageId LogMessage)) :=
  Program.request .readAll (inContext context)

/-- Publish and wait for the acknowledgement.  A wait that ends early leaves
the message published: its answer is lost. -/
def publish (context : String) (id : MessageId) (message : LogMessage) :
    LogM Unit := Program.request (.publish id message) (inContext context)

variable (codec : Codec)

def decodeAll (stored : List (Stored MessageId LogMessage)) :
    Except LogStagingError (List ReplayedLogRecord) :=
  (stored.mapM fun message =>
    decodeLogRecord codec.contentDigest message.message).mapError .undecodable

def readAllNatsRecords : LogM (List ReplayedLogRecord) := do
  let stored ← readAll "fetch all-NATS Log replay records"
  check (decodeAll codec stored)

variable (identity : LogStreamIdentity)

/-- The stream rebuilt from its own records among all those of the subject. -/
def reload : LogM LogStreamState := do
  let records ← readAllNatsRecords codec
  check (((LogStreamState.new identity).applyRecords codec.contentDigest
    (streamRecords identity records)).mapError .rejected)

def publishRecord (id : MessageId) (message : LogMessage) : LogM Unit :=
  publish "publish Accepted Log record" id message

def accept (submission : LogRecordSubmission) :
    LogM AcceptOutcome := do
  let state ← reload codec identity
  match state.applyAccepted codec.contentDigest submission with
  | (.error fault, _) => throw (.rejected fault)
  | (.ok .alreadyAccepted, _) => return .alreadyAccepted
  | (.ok .accepted, prospective) => do
      publishRecord (.record submission.identity.stream submission.identity.sequence)
        (acceptedMessage identity submission prospective.committedFrontier)
      let reloaded ← reload codec identity
      match reloaded.applyAccepted codec.contentDigest submission with
      | (.error fault, _) => throw (.rejected fault)
      | (.ok _, _) => return .accepted

def declarePreAcceptanceGap (gap : PreAcceptanceGap) : LogM GapOutcome := do
  let state ← reload codec identity
  match state.applyGap gap with
  | (.error fault, _) => throw (.rejected fault)
  | (.ok .alreadyDeclared, _) => return .alreadyDeclared
  | (.ok .declared, prospective) => do
      publishRecord (.gap gap.stream gap.firstSequence gap.lastSequence)
        (gapMessage identity gap prospective.committedFrontier)
      let reloaded ← reload codec identity
      match reloaded.applyGap gap with
      | (.error fault, _) => throw (.rejected fault)
      | (.ok _, _) => return .declared

def finishCleanly (exit : LogExit) :
    LogM TerminalOutcome := do
  let state ← reload codec identity
  match state.applyTerminal (.endOfStream exit) with
  | (.error fault, _) => throw (.rejected fault)
  | (.ok .alreadyRecorded, _) => return .alreadyRecorded
  | (.ok .recorded, prospective) => do
      publishRecord (.terminal identity) (endMessage identity exit prospective.committedFrontier)
      let _ ← reload codec identity
      return .recorded

def recoverAbnormalClosure :
    LogM TerminalOutcome := do
  let state ← reload codec identity
  if state.terminal.isSome then return .alreadyRecorded
  else
    match state.applyTerminal (.abnormalClosure state.committedFrontier) with
    | (.error fault, _) => throw (.rejected fault)
    | (.ok .alreadyRecorded, _) => return .alreadyRecorded
    | (.ok .recorded, _) => do
        publishRecord (.terminal identity) (abnormalMessage identity state.committedFrontier)
        let _ ← reload codec identity
        return .recorded

variable (codec : Codec)

structure TaskLogSeal where
  taskInstanceId : Uuid
  streams : List SealedLogStream
  digest : String

def sealedStream (state : LogStreamState) : Except LogStagingError SealedLogStream :=
  match state.terminal with
  | none => .error (.refused "cannot seal an open Log staging stream")
  | some terminal =>
    .ok
      { identity := state.identity
        committedFrontier := state.committedFrontier
        acceptedRecords := state.acceptedRecords
        declaredGaps := state.declaredGaps
        terminal }

variable (taskInstanceId : Uuid)

def sealStreams (streams : LogStreams) : Except LogStagingError (Option TaskLogSeal) :=
  if (Rust.values streams).isEmpty then .ok none
  else
    ((Rust.values streams).mapM sealedStream).map fun sealedStreams =>
      some
        { taskInstanceId
          streams := sealedStreams
          digest := codec.contentDigest (codec.sealText sealedStreams) }

/-- The streams without a terminal, each with its frontier. -/
def openStreams (streams : LogStreams) : List (LogStreamIdentity × Option UInt64) :=
  ((Rust.values streams).filter fun state => state.terminal.isNone).map
    fun state => (state.identity, state.committedFrontier)

def rebuildSubject : LogM LogStreams := do
  let stored ← readAll "fetch Log replay records"
  let records ← check (decodeAll codec stored)
  check ((rebuildLogStreams codec.contentDigest records).mapError .rejected)

def closeStreams : List (LogStreamIdentity × Option UInt64) → LogM Unit
  | [] => return ()
  | (identity, frontier) :: rest => do
      publish "publish abnormal Log terminal" (.terminal identity)
        (abnormalMessage identity frontier)
      closeStreams rest

/-- The second turn of the loop, after the open streams were closed. -/
def sealClosed : LogM (Option TaskLogSeal) := do
  let streams ← rebuildSubject codec
  if (openStreams streams).isEmpty then
    check (sealStreams codec taskInstanceId streams)
  else throw (.refused "abnormal Log terminal did not become replayable")

/-- The first turn of the loop. -/
def sealOrClose : LogM (Option TaskLogSeal) := do
  let streams ← rebuildSubject codec
  if (openStreams streams).isEmpty then
    check (sealStreams codec taskInstanceId streams)
  else do
    closeStreams (openStreams streams)
    sealClosed codec taskInstanceId

/-- `seal_task_logs`: a stream that cannot be opened has nothing to seal. -/
def sealTaskLogs : LogM (Option TaskLogSeal) := do
  match ← Program.attempt (Program.request .getStream (inContext "open Log staging stream")) with
  | .error _ => return none
  | .ok _ => sealOrClose codec taskInstanceId

/-- One operation on the subject.  A writer that makes several, one after the
other, is as many clients that take their turns in that order. -/
inductive LogCall where
  | accept (identity : LogStreamIdentity) (submission : LogRecordSubmission)
  | declareGap (identity : LogStreamIdentity) (gap : PreAcceptanceGap)
  | finishCleanly (identity : LogStreamIdentity) (exit : LogExit)
  | recoverAbnormal (identity : LogStreamIdentity)
  | sealTask (taskInstanceId : Uuid)

inductive LogAnswer where
  | acknowledged
  | sealedAs (result : Option TaskLogSeal)

def LogCall.program (codec : Codec) : LogCall → LogM LogAnswer
  | .accept identity submission => do
      let _ ← LogStaging.accept codec identity submission
      return .acknowledged
  | .declareGap identity gap => do
      let _ ← declarePreAcceptanceGap codec identity gap
      return .acknowledged
  | .finishCleanly identity exit => do
      let _ ← LogStaging.finishCleanly codec identity exit
      return .acknowledged
  | .recoverAbnormal identity => do
      let _ ← recoverAbnormalClosure codec identity
      return .acknowledged
  | .sealTask taskInstanceId => do
      let result ← sealTaskLogs codec taskInstanceId
      return .sealedAs result

end Tickr.LogStaging
