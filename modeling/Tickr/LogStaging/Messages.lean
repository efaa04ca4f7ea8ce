import Tickr.JetStream
import Tickr.LogStream.Rebuild

/-!
# Messages of the all-NATS Log staging stream

A record is staged as the headers and payload of one message.  A header that
holds a number is kept as that number, so the decoder has no malformed numbers
to report; its other errors are here with their texts.
-/

namespace Tickr.LogStaging

open LogStream

def logProtocolHeader : String := "Tickr-Log-Protocol"
def logProtocol : String := "tickr-all-nats-log-stream-v1"
def logKindHeader : String := "Tickr-Log-Kind"
def logKindAccepted : String := "accepted"
def logKindGap : String := "pre-acceptance-gap"
def logKindEnd : String := "end-of-stream"
def logKindAbnormal : String := "abnormal-closure"
def logTaskInstanceHeader : String := "Tickr-Log-Task-Instance"
def logPickupGenerationHeader : String := "Tickr-Log-Pickup-Generation"
def logSequenceHeader : String := "Tickr-Log-Sequence"
def logContentDigestHeader : String := "Tickr-Log-Content-Sha256"
def logGapFirstHeader : String := "Tickr-Log-Gap-First"
def logGapLastHeader : String := "Tickr-Log-Gap-Last"
def logGapDroppedHeader : String := "Tickr-Log-Gap-Dropped"
def logExitKindHeader : String := "Tickr-Log-Exit-Kind"
def logExitStatusHeader : String := "Tickr-Log-Exit-Status"

/-- A staged message: its headers, each with its value if it is there, and its
payload. -/
structure LogMessage where
  protocol : Option String := none
  kind : Option String := none
  taskInstance : Option Uuid := none
  pickupGeneration : Option UInt64 := none
  committedFrontier : Option UInt64 := none
  sequence : Option UInt64 := none
  contentDigest : Option String := none
  gapFirst : Option UInt64 := none
  gapLast : Option UInt64 := none
  gapDropped : Option UInt64 := none
  exitKind : Option String := none
  exitStatus : Option Int32 := none
  exitReason : Option String := none
  payload : Bytes := []
  deriving DecidableEq

/-- The `Nats-Msg-Id` header.  Its parts hold no colon, so two ids have the
same text only if they are the same. -/
inductive MessageId where
  | record (stream : LogStreamIdentity) (sequence : UInt64)
  | gap (stream : LogStreamIdentity) (first last : UInt64)
  | terminal (stream : LogStreamIdentity)
  deriving DecidableEq

def MessageId.text : MessageId → String
  | .record stream sequence =>
    s!"log:{stream.taskInstanceId}:{stream.pickupGeneration}:record:{sequence}"
  | .gap stream first last =>
    s!"log:{stream.taskInstanceId}:{stream.pickupGeneration}:gap:{first}-{last}"
  | .terminal stream => s!"log:{stream.taskInstanceId}:{stream.pickupGeneration}:terminal"

variable (contentDigest : Bytes → String)

def requiredHeader {α : Type} (name : String) (header : Option α) : Except String α :=
  match header with
  | some value => .ok value
  | none => .error s!"missing required Log header `{name}`"

variable (stream : LogStreamIdentity)

def decodeAccepted (message : LogMessage) :
    Except String ReplayedLogRecord := do
  let sequence ← requiredHeader logSequenceHeader message.sequence
  let recordedDigest ← requiredHeader logContentDigestHeader message.contentDigest
  if recordedDigest ≠ contentDigest message.payload then
    .error "Accepted Log record content digest mismatch"
  else return .accepted ⟨stream, sequence⟩ recordedDigest message.payload

def decodeGap (message : LogMessage) :
    Except String ReplayedLogRecord := do
  let firstSequence ← requiredHeader logGapFirstHeader message.gapFirst
  let lastSequence ← requiredHeader logGapLastHeader message.gapLast
  let droppedRecords ← requiredHeader logGapDroppedHeader message.gapDropped
  return .preAcceptanceGap { stream, firstSequence, lastSequence, droppedRecords }

def decodeExit (message : LogMessage) (exitKind : String) : Except String LogExit :=
  if exitKind = "status" then
    (requiredHeader logExitStatusHeader message.exitStatus).map .status
  else if exitKind = "no-status" then .ok .noStatus
  else if exitKind = "error" then
    .ok (.error (message.exitReason.getD "Executor reported an unspecified error"))
  else .error s!"unknown Log exit kind `{exitKind}`"

def decodeEnd (message : LogMessage) :
    Except String ReplayedLogRecord := do
  let exitKind ← requiredHeader logExitKindHeader message.exitKind
  let exit ← decodeExit message exitKind
  return .terminal stream (.endOfStream exit)

def decodeKind (message : LogMessage) (kind : String) : Except String ReplayedLogRecord :=
  if kind = logKindAccepted then decodeAccepted contentDigest stream message
  else if kind = logKindGap then decodeGap stream message
  else if kind = logKindEnd then decodeEnd stream message
  else if kind = logKindAbnormal then
    .ok (.terminal stream (.abnormalClosure message.committedFrontier))
  else .error s!"unknown all-NATS Log record kind `{kind}`"

def decodeLogRecord (message : LogMessage) : Except String ReplayedLogRecord :=
  if message.protocol ≠ some logProtocol then
    .error "unknown all-NATS Log staging protocol"
  else do
    let taskInstanceId ← requiredHeader logTaskInstanceHeader message.taskInstance
    let pickupGeneration ← requiredHeader logPickupGenerationHeader message.pickupGeneration
    let kind ← requiredHeader logKindHeader message.kind
    decodeKind contentDigest { taskInstanceId, pickupGeneration } message kind

variable (identity : LogStreamIdentity)

def baseHeaders (kind : String) (frontier : Option UInt64) : LogMessage :=
  { protocol := some logProtocol
    kind := some kind
    taskInstance := some identity.taskInstanceId
    pickupGeneration := some identity.pickupGeneration
    committedFrontier := frontier }

def acceptedMessage (submission : LogRecordSubmission) (frontier : Option UInt64) : LogMessage :=
  { baseHeaders identity logKindAccepted frontier with
    sequence := some submission.identity.sequence
    contentDigest := some submission.contentDigest
    payload := submission.bytes }

def gapMessage (gap : PreAcceptanceGap) (frontier : Option UInt64) : LogMessage :=
  { baseHeaders identity logKindGap frontier with
    gapFirst := some gap.firstSequence
    gapLast := some gap.lastSequence
    gapDropped := some gap.droppedRecords }

/-- `reason.replace(['\r', '\n'], " ")`. -/
def oneLine (reason : String) : String :=
  String.ofList (reason.toList.map fun char =>
    if char = '\r' ∨ char = '\n' then ' ' else char)

def endMessage (exit : LogExit) (frontier : Option UInt64) : LogMessage :=
  match exit with
  | .status status =>
    { baseHeaders identity logKindEnd frontier with
      exitKind := some "status", exitStatus := some status }
  | .noStatus =>
    { baseHeaders identity logKindEnd frontier with
      exitKind := some "no-status" }
  | .error reason =>
    { baseHeaders identity logKindEnd frontier with
      exitKind := some "error", exitReason := some (oneLine reason) }

def abnormalMessage (frontier : Option UInt64) : LogMessage :=
  baseHeaders identity logKindAbnormal frontier

def stagedExit : LogExit → LogExit
  | .error reason => .error (oneLine reason)
  | exit => exit

variable {contentDigest : Bytes → String} {identity : LogStreamIdentity}

theorem decode_acceptedMessage (ofStream : item.identity.stream = identity)
    (valid : item.contentDigest = contentDigest item.bytes) (frontier : Option UInt64) :
    decodeLogRecord contentDigest
      (acceptedMessage identity item frontier) = .ok item.record := by
  have same : LogRecordIdentity.mk identity
      item.identity.sequence = item.identity := by
    rw [← ofStream]
  simp [decodeLogRecord, acceptedMessage, baseHeaders, requiredHeader,
    decodeKind, decodeAccepted, valid, bind,
    Except.bind, pure, Except.pure, LogRecordSubmission.record, same]

theorem decode_gapMessage {gap : PreAcceptanceGap}
    (ofStream : gap.stream = identity) (frontier : Option UInt64) :
    decodeLogRecord contentDigest (gapMessage identity gap frontier) =
      .ok (.preAcceptanceGap gap) := by
  subst ofStream
  simp [decodeLogRecord, gapMessage, baseHeaders, requiredHeader, decodeKind,
    decodeGap, logKindAccepted, logKindGap, bind, Except.bind, pure,
    Except.pure]

theorem decode_endMessage (exit : LogExit) (frontier : Option UInt64) :
    decodeLogRecord contentDigest (endMessage identity exit frontier) =
      .ok (.terminal identity (.endOfStream (stagedExit exit))) := by
  cases exit <;>
    simp [decodeLogRecord, endMessage, baseHeaders, requiredHeader,
      decodeKind, decodeEnd, decodeExit, stagedExit, logKindAccepted,
      logKindGap, logKindEnd, bind, Except.bind, pure, Except.pure, Except.map]

theorem decode_abnormalMessage (frontier : Option UInt64) :
    decodeLogRecord contentDigest (abnormalMessage identity frontier) =
      .ok (.terminal identity (.abnormalClosure frontier)) := by
  simp [decodeLogRecord, abnormalMessage, baseHeaders, requiredHeader,
    decodeKind, logKindAccepted, logKindGap, logKindEnd, logKindAbnormal, bind,
    Except.bind]

end Tickr.LogStaging
