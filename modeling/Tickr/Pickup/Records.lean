import Tickr.JetStream
import Tickr.KeyValue
import Tickr.LogStream.State

/-!
# Pickup records, cancellation fences and the shared pickup bucket

A dispatched Task is picked up through one record in the all-NATS pickup bucket,
which also holds one cancellation fence for each Task that was asked to stop.
Protobuf readers and writers are parameters; JSON records are kept as the
records they encode.
-/

namespace Tickr.Pickup

open Concurrent KeyValue
open LogStream (Uuid)

abbrev Bytes := List UInt8

inductive AttemptOutcome where
  | processExitedSuccess
  | processExitedFailure
  | processSetupFailed
  | livenessExpired
  | cancellationKilled
  | cancellationAlreadyExited
  | cancellationNoProcess
  deriving DecidableEq

def AttemptOutcome.isProcessExit : AttemptOutcome → Bool
  | .processExitedSuccess | .processExitedFailure => true
  | _ => false

def AttemptOutcome.isCancellation : AttemptOutcome → Bool
  | .cancellationKilled | .cancellationAlreadyExited
  | .cancellationNoProcess => true
  | _ => false

structure ElectedAttemptOutcome where
  outcome : AttemptOutcome
  event : Bytes
  eventEnqueued : Bool

inductive CancellationReconciliation where
  | killed
  | alreadyExited
  | noProcess

structure CancelRequest where
  (taskInstanceId workflowInstanceId : Uuid)
  deriving DecidableEq

/-- A cancellation fence.  Its acknowledgement identity is the text of the
request it is kept for, and is represented by that request. -/
structure TaskCancellationRecord where
  acknowledgementIdentity : CancelRequest
  (taskInstanceId workflowInstanceId : Uuid)
  dispatchKey : Option Nat
  pickupGeneration : Option Int
  owner : Option String
  ownerNotified : Bool
  reconciliation : Option CancellationReconciliation
  acknowledgement : Option Bytes
  acknowledgementEnqueued : Bool

/-- The pickup of one dispatch.  A dispatch key is `dispatch.` and the stream
sequence of the dispatch message, and is represented by that number. -/
structure TaskPickupRecord where
  dispatchKey : Nat
  payload : Bytes
  pickupGeneration : Int
  owner : String
  livenessDeadlineMs : Int
  assignedEvent : Bytes
  (assignedStaged livenessArmed sourceCompleted : Bool)
  startedEvent : Option Bytes
  terminal : Option ElectedAttemptOutcome
  rejectedReason : Option String

inductive ElectionDecision where
  | won
  | settled (outcome : AttemptOutcome)
  | rejected

structure LocalPickupClaim where
  dispatchKey : Nat
  pickupGeneration : Int
  owner : String
  livenessDeadlineMs : Int

namespace TaskPickupRecord

variable (record : TaskPickupRecord)

def matchesClaim (dispatchKey : Nat) (generation : Int) (owner : String) : Bool :=
  record.dispatchKey = dispatchKey && record.pickupGeneration = generation &&
    record.owner = owner && record.rejectedReason.isNone &&
    record.terminal.isNone

def livenessIsDue (serverTimeMs : Int) : Bool :=
  record.livenessArmed && record.rejectedReason.isNone &&
    record.terminal.isNone && record.livenessDeadlineMs ≤ serverTimeMs

def elect (dispatchKey : Nat) (generation : Int) (owner : String)
    (outcome : AttemptOutcome) (event : Bytes) :
    ElectionDecision × TaskPickupRecord :=
  match record.terminal with
  | some elected => (.settled elected.outcome, record)
  | none =>
    if !record.matchesClaim dispatchKey generation owner ||
        (outcome.isProcessExit && record.startedEvent.isNone) then
      (.rejected, record)
    else
      (.won, { record with
          terminal := some { outcome, event, eventEnqueued := outcome.isCancellation } })

def electDueLiveness (serverTimeMs : Int) (event : Bytes) : ElectionDecision × TaskPickupRecord :=
  match record.terminal with
  | some elected => (.settled elected.outcome, record)
  | none =>
    if !record.livenessIsDue serverTimeMs then (.rejected, record)
    else
      (.won, { record with
          terminal := some { outcome := .livenessExpired, event, eventEnqueued := false } })

def claim : LocalPickupClaim :=
  { dispatchKey := record.dispatchKey
    pickupGeneration := record.pickupGeneration
    owner := record.owner
    livenessDeadlineMs := record.livenessDeadlineMs }

def «matches» (claim : LocalPickupClaim) : Bool :=
  record.matchesClaim claim.dispatchKey claim.pickupGeneration claim.owner

end TaskPickupRecord

inductive TerminalElection where
  | won
  | settled (outcome : AttemptOutcome)

/-- What a committed fence says to the cancelling side. -/
structure LocalCancellationFence where
  (acknowledgementIdentity request : CancelRequest)
  dispatchKey : Option Nat
  pickupGeneration : Option Int
  owner : Option String
  ownerNotified : Bool
  livenessDeadlineMs : Option Int
  terminalOutcome : Option AttemptOutcome

/-- The part of a dispatch that pickup reads. -/
structure DispatchedTask where
  (taskInstanceId taskId workflowInstanceId workflowId : Uuid)
  (name nixExpressionPath : String)
  nixArgs : List String

def DispatchedTask.cancelRequest (task : DispatchedTask) : CancelRequest :=
  { taskInstanceId := task.taskInstanceId
    workflowInstanceId := task.workflowInstanceId }

inductive EmitKind where
  | assigned
  | started
  | completed
  | failed

inductive KillOutcome where
  | killed
  | noSuchTask

/-- The message codecs, the dispatch messages by their stream sequence, and the
text of a failed store call. -/
structure Wire where
  dispatches : Nat → Bytes
  decodeDispatch : Bytes → Except String DispatchedTask
  encodeTaskEvent : DispatchedTask → Uuid → EmitKind → Bytes
  encodeUnhealthyTaskEvent : DispatchedTask → Bytes
  /-- The Conductor's own reading of a due dispatch. -/
  unhealthyEvent : Bytes → Except String Bytes
  encodeCancelAck : CancelRequest → KillOutcome → Bytes
  errorText : KvError → String

def isTrimmed (char : Char) : Bool :=
  let code := char.toNat
  (9 ≤ code && code ≤ 13) || code = 32 || code = 0x85 || code = 0xA0 ||
    code = 0x1680 || (0x2000 ≤ code && code ≤ 0x200A) || code = 0x2028 ||
    code = 0x2029 || code = 0x202F || code = 0x205F || code = 0x3000

def validateDispatch (task : DispatchedTask) : Except String DispatchedTask :=
  if task.name.toList.all isTrimmed then .error "TaskDispatch name is empty"
  else if task.nixExpressionPath.toList.all isTrimmed then
    .error "TaskDispatch nix_expression_path is empty"
  else if (task.name :: task.nixExpressionPath :: task.nixArgs).any
      fun value => value.toList.any fun char => char.toNat = 0 then
    .error "TaskDispatch process argument contains NUL"
  else .ok task

/-- A handler's decision on a dispatch payload: the Task, or why it is
poison. -/
def Wire.readDispatch (wire : Wire) (payload : Bytes) :
    Except String DispatchedTask := (wire.decodeDispatch payload).bind validateDispatch

def cancellationReconciliation : AttemptOutcome → CancellationReconciliation
  | .cancellationKilled => .killed
  | .cancellationNoProcess => .noProcess
  | .cancellationAlreadyExited | .processExitedSuccess
  | .processExitedFailure | .processSetupFailed | .livenessExpired => .alreadyExited

def cancellationOutcome : CancellationReconciliation → AttemptOutcome
  | .killed => .cancellationKilled
  | .alreadyExited => .cancellationAlreadyExited
  | .noProcess => .cancellationNoProcess

def killOutcome : CancellationReconciliation → KillOutcome
  | .killed => .killed
  | .alreadyExited | .noProcess => .noSuchTask

/-- The bucket's keys: `dispatch.` and a stream sequence, `cancellation.` and
the identities of a request, and `watchdog.clock.` and a fresh identity. -/
inductive PickupKey where
  | dispatch (sequence : Nat)
  | cancellation (request : CancelRequest)
  | watchdogClock (probe : Uuid)
  deriving DecidableEq

def PickupKey.text : PickupKey → String
  | .dispatch sequence => s!"dispatch.{sequence}"
  | .cancellation request =>
    "cancellation." ++ toString request.workflowInstanceId ++ "." ++ toString request.taskInstanceId
  | .watchdogClock probe => s!"watchdog.clock.{probe}"

inductive PickupValue where
  | pickup (record : TaskPickupRecord)
  | fence (record : TaskCancellationRecord)
  | empty

abbrev Bucket := Log PickupKey PickupValue

inductive EventKind where
  | assigned
  | started
  | terminal
  deriving DecidableEq

/-- A TaskEvent's message id: the dispatch key, a dot and the kind. -/
structure EventIdentity where
  dispatchKey : Nat
  kind : EventKind
  deriving DecidableEq

/-- A staged TaskEvent.  `basis` is a history variable: the revision of the
pickup record that its publisher had read. -/
structure StagedEvent where
  event : Bytes
  basis : Nat

structure Launch where
  client : Nat
  claim : LocalPickupClaim
  task : DispatchedTask

/-- What the parties share: the pickup bucket, the TaskEvents stream and, as a
history variable, the processes started so far, newest first. -/
structure Shared where
  bucket : Bucket
  events : JetStream.Subject EventIdentity StagedEvent
  launched : List Launch

def Shared.empty : Shared := { bucket := [], events := .empty, launched := [] }

/-- What the `select!` of a running process reports next. -/
inductive ProcessEvent where
  | exited (success : Bool)
  | shutdown
  | cancelled
  | renewalDue
  deriving DecidableEq

/-- Effects outside the bucket and the event stream whose success is all a
caller sees: acknowledging the source dispatch, waking the liveness watchdog,
opening the log stream, notifying a pickup owner, and publishing a
cancellation acknowledgement. -/
inductive Effect where
  | acknowledgeSource
  | livenessWakeup (record : TaskPickupRecord) (timeoutMs : Int)
  | openLogStream
  | notifyOwner (owner : String) (identity : CancelRequest)
  | stageAcknowledgement (identity : CancelRequest) (acknowledgement : Bytes)

/-- Calls to the shared state, and questions answered by the schedule: clocks,
the Executor's in-memory cancellation map, and its child process. -/
inductive PickupOp where
  | kv (op : KvOp PickupKey PickupValue)
  | stage (identity : EventIdentity) (staged : StagedEvent)
  | forget (identity : EventIdentity)
  | spawn (claim : LocalPickupClaim) (task : DispatchedTask)
  | effect (effect : Effect)
  | localNow
  | isFenced (claim : LocalPickupClaim)
  | isCancelled (claim : LocalPickupClaim)
  | nextProcessEvent (claim : LocalPickupClaim)
  | notifyRunning (fence : LocalCancellationFence)

/-- A read of the bucket also tells when the entry was written. -/
@[reducible]
def PickupOp.Reply : PickupOp → Type
  | .kv op => op.Reply × Int
  | .stage _ _ => Except JetStream.StreamError Unit
  | .forget _ => Unit
  | .spawn _ _ => Bool
  | .effect _ => Bool
  | .localNow => Int
  | .isFenced _ => Bool
  | .isCancelled _ => Bool
  | .nextProcessEvent _ => ProcessEvent
  | .notifyRunning _ => Except String CancellationReconciliation

/-- How a call goes: the delivery of a store call, the answer to a question
with two answers, a clock, and the reports of a process and of the in-memory
cancellation map. -/
structure PickupChoice where
  delivery : Delivery := .applied
  holds : Bool := true
  timeMs : Int := 0
  process : ProcessEvent := .exited true
  reconciliation : Except String CancellationReconciliation := .ok .noProcess

def PickupChoice.arrival (choice : PickupChoice) : JetStream.Arrival :=
  match choice.delivery with
  | .applied => .answered true
  | .refused => .refused
  | .replyLost => .replyLost true

/-- Forgetting a message id: its deduplication window has elapsed. -/
def Shared.forget (shared : Shared) (identity : EventIdentity) : Shared :=
  { shared with
    events :=
      { shared.events with
        seenIds := shared.events.seenIds.filter (· ≠ identity) } }

def perform (client : Nat) (op : PickupOp) (choice : PickupChoice)
    (shared : Shared) : op.Reply × Shared :=
  match op with
  | .kv op =>
    let answered := KeyValue.perform client op choice.delivery shared.bucket
    ((answered.1, choice.timeMs), { shared with bucket := answered.2 })
  | .stage identity staged =>
    let answered := JetStream.perform client (.publish identity staged) choice.arrival shared.events
    (answered.1, { shared with events := answered.2 })
  | .forget identity => ((), shared.forget identity)
  | .spawn claim task =>
    if choice.holds then
      (true, { shared with launched := ⟨client, claim, task⟩ :: shared.launched })
    else (false, shared)
  | .effect _ => (choice.holds, shared)
  | .localNow => (choice.timeMs, shared)
  | .isFenced _ => (choice.holds, shared)
  | .isCancelled _ => (choice.holds, shared)
  | .nextProcessEvent _ => (choice.process, shared)
  | .notifyRunning _ => (choice.reconciliation, shared)

def system : System Shared PickupOp PickupChoice PickupOp.Reply where
  perform := perform

abbrev PickupProgram := Program PickupOp PickupOp.Reply

abbrev PickupM := ExceptT String PickupProgram

end Tickr.Pickup
