import Tickr.Framing
import Tickr.LogStream.Rebuild

/-!
# The local Log staging journal

One pickup generation's stream lives in an append-only file of frames behind a
header.  An operation appends and syncs its frame before the state in memory
moves on.  A write may stop after any number of its bytes.
-/

namespace Tickr.LocalLog

open LogStream Framing

def journalHeader : Bytes := "tickr-local-log-v2\n".toList.flatMap String.utf8EncodeChar

def maxFrameBytes : Nat := 16 * 1024 * 1024

inductive JournalFrame where
  | accepted (submission : LogRecordSubmission)
  | preAcceptanceGap (gap : PreAcceptanceGap)
  | terminal (terminal : LogTerminal)
  | sealed (recordDigest : String)
  deriving DecidableEq

/-- What the journal takes from libraries: the hexadecimal SHA-256, and the JSON
text of accepted records and of frames. -/
structure JournalCodec where
  contentDigest : Bytes → String
  recordsText : List AcceptedLogRecord → Bytes
  encodeFrame : JournalFrame → Bytes
  decodeFrame : Bytes → Except String JournalFrame

/-- The frame's text is read as the frame. -/
def JournalCodec.ReadsBack (codec : JournalCodec) (frame : JournalFrame) :
    Prop := codec.decodeFrame (codec.encodeFrame frame) = .ok frame

instance (codec : JournalCodec) : DecidablePred codec.ReadsBack :=
  fun _ => inferInstanceAs (Decidable (_ = _))

inductive JournalError where
  | io (context : String)
  | undecodable (reason : String)
  | rejected (fault : Fault)
  | refused (reason : String)
  | outOfFuel
  deriving DecidableEq

/-- An opened stream: its state in memory and the digest of its seal. -/
structure LocalLogStagingStream where
  state : LogStreamState
  sealDigest : Option String
  deriving DecidableEq

def LocalLogStagingStream.new (identity : LogStreamIdentity) :
    LocalLogStagingStream := { state := .new identity, sealDigest := none }

/-- What becomes of a write: it is finished and synced, it fails, or the process
stops; in the latter two after some of its bytes. -/
inductive WriteFault where
  | none
  | fails (written : Nat)
  | stops (written : Nat)

inductive Written where
  | synced
  | failed (error : JournalError)
  | stopped

variable (codec : JournalCodec)

/-- An operation before its append: it finds its frame recorded already, or
has a frame to append and the stream to move on to. -/
inductive Prepared where
  | found (frame : JournalFrame)
  | append (frame : JournalFrame) (next : LocalLogStagingStream)

variable (stream : LocalLogStagingStream)

def accept (submission : LogRecordSubmission) : Except JournalError Prepared :=
  match stream.state.applyAccepted codec.contentDigest submission with
  | (.error fault, _) => .error (.rejected fault)
  | (.ok .alreadyAccepted, _) => .ok (.found (.accepted submission))
  | (.ok .accepted, prospective) =>
    .ok (.append (.accepted submission) { stream with state := prospective })

def declarePreAcceptanceGap (gap : PreAcceptanceGap) : Except JournalError Prepared :=
  match stream.state.applyGap gap with
  | (.error fault, _) => .error (.rejected fault)
  | (.ok .alreadyDeclared, _) => .ok (.found (.preAcceptanceGap gap))
  | (.ok .declared, prospective) =>
    .ok (.append (.preAcceptanceGap gap) { stream with state := prospective })

def finishCleanly (exit : LogExit) : Except JournalError Prepared :=
  match stream.state.applyTerminal (.endOfStream exit) with
  | (.error fault, _) => .error (.rejected fault)
  | (.ok .alreadyRecorded, _) => .ok (.found (.terminal (.endOfStream exit)))
  | (.ok .recorded, prospective) =>
    .ok (.append (.terminal (.endOfStream exit)) { stream with state := prospective })

def recoverAbnormalClosure : Except JournalError Prepared :=
  match stream.state.terminal with
  | some terminal => .ok (.found (.terminal terminal))
  | none =>
    match stream.state.applyTerminal (.abnormalClosure stream.state.committedFrontier) with
    | (.error fault, _) => .error (.rejected fault)
    | (.ok _, prospective) =>
      .ok (.append (.terminal (.abnormalClosure stream.state.committedFrontier))
        { stream with state := prospective })

def buildSeal : Except JournalError LogSeal :=
  (stream.state.sealStream codec.contentDigest codec.recordsText).mapError
    fun violation => .rejected (.violation violation)

def sealStream : Except JournalError Prepared :=
  if stream.state.terminal.isNone then
    .error (.refused "cannot seal a local log staging stream before its terminal record")
  else
    match buildSeal codec stream with
    | .error error => .error error
    | .ok built =>
      match stream.sealDigest with
      | some recordDigest =>
        if recordDigest = built.recordDigest then
          .ok (.found (.sealed recordDigest))
        else
          .error (.refused "stored local log seal digest does not match accepted records")
      | none =>
        .ok (.append (.sealed built.recordDigest)
          { stream with sealDigest := some built.recordDigest })

inductive JournalOp where
  | accept (submission : LogRecordSubmission)
  | declareGap (gap : PreAcceptanceGap)
  | finishCleanly (exit : LogExit)
  | recoverAbnormal
  | sealStream

def JournalOp.prepare (codec : JournalCodec) (stream : LocalLogStagingStream) :
    JournalOp → Except JournalError Prepared
  | .accept submission => LocalLog.accept codec stream submission
  | .declareGap gap => declarePreAcceptanceGap stream gap
  | .finishCleanly exit => LocalLog.finishCleanly stream exit
  | .recoverAbnormal => recoverAbnormalClosure stream
  | .sealStream => LocalLog.sealStream codec stream

variable (codec : JournalCodec) (frame : JournalFrame)

def frameBytes : Bytes := Framing.frame (codec.encodeFrame frame)

/-- Where an append that fails after some bytes reports it. -/
def appendFailure (written : Nat) : JournalError :=
  if written < 4 then .io "append local log staging frame length"
  else if written < (frameBytes codec frame).length then
    .io "append local log staging frame"
  else .io "sync accepted local log staging frame"

def appendFrame (fault : WriteFault) (file : Bytes) : Written × Bytes :=
  if maxFrameBytes < (codec.encodeFrame frame).length then
    (.failed (.refused "local log staging frame exceeds the admitted maximum size"), file)
  else
    match fault with
    | .none => (.synced, file ++ frameBytes codec frame)
    | .fails written =>
      (.failed (appendFailure codec frame written), file ++ (frameBytes codec frame).take written)
    | .stops written => (.stopped, file ++ (frameBytes codec frame).take written)

variable (codec : JournalCodec)

def applyRecoveredFrame (stream : LocalLogStagingStream) (frame : JournalFrame) :
    Except JournalError LocalLogStagingStream :=
  if stream.sealDigest.isSome then
    .error (.refused "local log staging journal contains a record after its seal")
  else
    match frame with
    | .sealed recordDigest =>
      if stream.state.terminal.isNone then
        .error (.refused "local log staging journal seals records before its terminal record")
      else
        match buildSeal codec stream with
        | .error error => .error error
        | .ok built =>
          if built.recordDigest ≠ recordDigest then
            .error (.refused
              "local log staging journal seal digest does not match accepted records")
          else .ok { stream with sealDigest := some recordDigest }
    | .accepted submission =>
      if stream.state.terminal.isSome then
        .error (.refused "local log staging journal contains a record after its terminal record")
      else
        match stream.state.applyAccepted codec.contentDigest submission with
        | (.error fault, _) => .error (.rejected fault)
        | (.ok _, applied) => .ok { stream with state := applied }
    | .preAcceptanceGap gap =>
      if stream.state.terminal.isSome then
        .error (.refused "local log staging journal contains a record after its terminal record")
      else
        match stream.state.applyGap gap with
        | (.error fault, _) => .error (.rejected fault)
        | (.ok _, applied) => .ok { stream with state := applied }
    | .terminal terminal =>
      if stream.state.terminal.isSome then
        .error (.refused "local log staging journal contains a record after its terminal record")
      else
        match stream.state.applyTerminal terminal with
        | (.error fault, _) => .error (.rejected fault)
        | (.ok _, applied) => .ok { stream with state := applied }

/-- The loop of `recover` over what follows the header; it returns the stream
and the length of the frames read.  Every turn takes at least four bytes. -/
def recoverLoop : Nat → Bytes → Nat → LocalLogStagingStream →
    Except JournalError (LocalLogStagingStream × Nat)
  | 0, _, _, _ => .error .outOfFuel
  | fuel + 1, bytes, lastGoodOffset, stream =>
    match Framing.next maxFrameBytes bytes with
    | .incomplete => .ok (stream, lastGoodOffset)
    | .oversized => .error (.refused "local log staging frame exceeds the admitted maximum size")
    | .complete payload rest =>
      match codec.decodeFrame payload with
      | .error reason => .error (.undecodable reason)
      | .ok frame =>
        match applyRecoveredFrame codec stream frame with
        | .error error => .error error
        | .ok applied => recoverLoop fuel rest (lastGoodOffset + 4 + payload.length) applied

inductive Opened where
  | stream (stream : LocalLogStagingStream)
  | failed (error : JournalError)
  | stopped
  deriving DecidableEq

def createJournal (identity : LogStreamIdentity) (fault : WriteFault) : Opened × Bytes :=
  match fault with
  | .none => (.stream (.new identity), journalHeader)
  | .fails written =>
    (.failed (.io
      (if written < journalHeader.length then
        "write local log staging journal header"
      else "sync local log staging journal header")),
      journalHeader.take written)
  | .stops written => (.stopped, journalHeader.take written)

/-- Cut the journal off behind its last whole frame.  A fault before the first
byte leaves the file as it is; a later one comes after the cut. -/
def truncateTail (stream : LocalLogStagingStream) (offset : Nat)
    (fault : WriteFault) (file : Bytes) : Opened × Bytes :=
  match fault with
  | .none => (.stream stream, file.take offset)
  | .fails 0 => (.failed (.io "truncate incomplete unaccepted local log staging tail"), file)
  | .fails _ => (.failed (.io "sync truncated local log staging tail"), file.take offset)
  | .stops 0 => (.stopped, file)
  | .stops _ => (.stopped, file.take offset)

def openJournal (identity : LogStreamIdentity) (fault : WriteFault)
    (file : Bytes) : Opened × Bytes :=
  if file = [] then createJournal identity fault
  else if file.length < journalHeader.length then
    (.failed (.io "read local log staging journal header"), file)
  else if file.take journalHeader.length ≠ journalHeader then
    (.failed (.refused "unknown local log staging journal format"), file)
  else
    match recoverLoop codec (file.length + 1) (file.drop journalHeader.length) journalHeader.length
        (.new identity) with
    | .error error => (.failed error, file)
    | .ok (stream, offset) => truncateTail stream offset fault file

variable (codec : JournalCodec) (identity : LogStreamIdentity)

/-- The file and the open stream, with the history of the operations whose
success was returned and of those whose append was attempted.  `unsettled`
records that an append failed after some of its bytes were written. -/
structure Journal where
  file : Bytes
  stream : Option LocalLogStagingStream
  (returned attempted : List JournalFrame)
  unsettled : Bool

def Journal.start : Journal :=
  { file := [], stream := none, returned := [], attempted := []
    unsettled := false }

inductive JournalEvent where
  | opens (fault : WriteFault)
  | calls (op : JournalOp) (fault : WriteFault)
  /-- The process stops between two calls. -/
  | stops

variable (journal : Journal)

/-- Open the journal, also where a stream was open before. -/
def Journal.opening (fault : WriteFault) : Journal :=
  match openJournal codec identity fault journal.file with
  | (.stream stream, file) => { journal with file, stream := some stream, unsettled := false }
  | (.failed _, file) => { journal with file, stream := none }
  | (.stopped, file) => { journal with file, stream := none }

def Journal.appending (frame : JournalFrame)
    (next : LocalLogStagingStream) (fault : WriteFault) : Journal :=
  match appendFrame codec frame fault journal.file with
  | (.synced, file) =>
    { journal with
      file, stream := some next
      returned := frame :: journal.returned
      attempted := frame :: journal.attempted }
  | (.failed _, file) =>
    { journal with
      file
      attempted := frame :: journal.attempted
      unsettled := journal.unsettled || decide (file ≠ journal.file) }
  | (.stopped, file) =>
    { journal with
      file, stream := none, attempted := frame :: journal.attempted }

def Journal.calling (op : JournalOp) (fault : WriteFault) : Journal :=
  match journal.stream with
  | none => journal
  | some stream =>
    match op.prepare codec stream with
    | .error _ => journal
    | .ok (.found frame) => { journal with returned := frame :: journal.returned }
    | .ok (.append frame next) => journal.appending codec frame next fault

def Journal.step : JournalEvent → Journal
  | .opens fault => journal.opening codec identity fault
  | .calls op fault => journal.calling codec op fault
  | .stops => { journal with stream := none }

def Journal.run (events : List JournalEvent) : Journal :=
  events.foldl (Journal.step codec identity) journal

end Tickr.LocalLog
