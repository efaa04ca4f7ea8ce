import Tickr.Pickup.Contenders

/-!
# The Executor's task handler, and the parties of a run

What an Executor does with a delivered dispatch and with a cancellation, and the
owner of a pickup with a notification.  The map of running processes, the child
process and the clock are answered by the schedule.  Endless loops are cut off
after a number of rounds that is a parameter: a party may stop anywhere.
-/

namespace Tickr.Pickup

open Concurrent KeyValue
open LogStream (Uuid)
open Concurrent.Program (attempt mapError)

inductive Handled where
  | unprepared (preparation : Except SafePickupError PickupPreparation)
  | fencedBeforeSpawn (claim : LocalPickupClaim)
  | cancelledBeforeSpawn (claim : LocalPickupClaim)
  | reported (claim : LocalPickupClaim) (outcome : AttemptOutcome)
      (election : Except String TerminalElection)
  /-- Out of rounds while the process runs. -/
  | stopped (claim : LocalPickupClaim)

variable (wire : Wire) (executor : Executor) (handoff : NatsPickupHandoff)
  (task : DispatchedTask) (claim : LocalPickupClaim)

/-- Compete with a process outcome; the answer is only logged. -/
def reportTerminal (outcome : AttemptOutcome) (kind : EmitKind) :
    PickupM Handled := do
  let election ← @attempt _ _ _ String String
    (electTerminal wire claim outcome (wire.encodeTaskEvent task executor.executorId kind))
  return .reported claim outcome election

def reportSetupFailed : PickupM Handled :=
  reportTerminal wire executor task claim .processSetupFailed .failed

def reportExit (success : Bool) : PickupM Handled :=
  if success then
    reportTerminal wire executor task claim .processExitedSuccess .completed
  else reportTerminal wire executor task claim .processExitedFailure .failed

/-- Compete with a cancellation outcome, which has no event of its own. -/
def reportCancellationTerminal (reconciliation : CancellationReconciliation) : PickupM Handled := do
  let election ← @attempt _ _ _ String String
    (electTerminal wire claim (cancellationOutcome reconciliation) [])
  return .reported claim (cancellationOutcome reconciliation) election

/-- Stop the process group; whether it left with status zero. -/
def teardownOwnGroup : PickupM Bool :=
  ask (.nextProcessEvent claim) fun event => event = .exited true

/-- A renewal that neither failed nor was refused. -/
def renewLiveness : PickupM Bool := do
  match ← @attempt _ _ _ String String (handoff.renew wire claim executor.livenessTimeoutMs) with
  | .ok renewed => return renewed
  | .error _ => return false

def processLoop : Nat → PickupM Handled
  | 0 => return .stopped claim
  | rounds + 1 => do
      match ← ask (.nextProcessEvent claim) id with
      | .exited success => do
          if ← ask (.isCancelled claim) id then
            reportCancellationTerminal wire claim .alreadyExited
          else reportExit wire executor task claim success
      | .shutdown => do
          let success ← teardownOwnGroup claim
          reportExit wire executor task claim success
      | .cancelled => do
          let _ ← teardownOwnGroup claim
          reportCancellationTerminal wire claim .killed
      | .renewalDue => do
          if ← renewLiveness wire executor handoff claim then
            processLoop rounds
          else do
            let success ← teardownOwnGroup claim
            reportExit wire executor task claim success

/-- Started staging that neither failed nor was refused. -/
def announceStarted : PickupM Bool := do
  match ← @attempt _ _ _ String String
      (handoff.stageStarted wire claim
        (wire.encodeTaskEvent task executor.executorId .started)) with
  | .ok staged => return staged
  | .error _ => return false

/-- From the spawned process to its end. -/
def superviseProcess (rounds : Nat) : PickupM Handled := do
  if ← announceStarted wire executor handoff task claim then
    if ← renewLiveness wire executor handoff claim then
      processLoop wire executor handoff task claim rounds
    else do
      let _ ← teardownOwnGroup claim
      reportSetupFailed wire executor task claim
  else do
    let _ ← teardownOwnGroup claim
    reportSetupFailed wire executor task claim

def runTask (rounds : Nat) : PickupM Handled := do
  if claim.pickupGeneration < 0 then
    reportSetupFailed wire executor task claim
  else if ← ask (.effect .openLogStream) id then
    if ← ask (.isCancelled claim) id then return .cancelledBeforeSpawn claim
    else if ← ask (.spawn claim task) id then
      superviseProcess wire executor handoff task claim rounds
    else reportSetupFailed wire executor task claim
  else reportSetupFailed wire executor task claim

def handleDelivery (rounds : Nat) : PickupM Handled := do
  match ← attempt (preparePickup wire executor handoff) with
  | .ok (.ready prepared) => do
      if ← ask (.isFenced prepared.claim) id then
        return .fencedBeforeSpawn prepared.claim
      else runTask wire executor handoff prepared.task prepared.claim rounds
  | preparation => return .unprepared preparation

variable (wire : Wire) (fence : LocalCancellationFence)

def settleAndStageCancellation (reconciliation : CancellationReconciliation) : PickupM Bytes := do
  let _ ← settleCancellation wire fence reconciliation
    (wire.encodeCancelAck fence.request (killOutcome reconciliation))
  ensureAcknowledgementEnqueued wire fence.acknowledgementIdentity

def notifyCancellationOwner :
    PickupM Unit := do
  match fence.owner with
  | none => throw "cancellation fence has no pickup owner"
  | some owner => do
      require (.notifyOwner owner fence.acknowledgementIdentity) "notify cancellation owner"
      let _ ← markCancellationOwnerNotified wire fence
      return ()

/-- Act on a fence: settle it from its pickup's outcome or because it has no
owner, or notify the owner. -/
def actOnFence : PickupM Unit := do
  match fence.terminalOutcome, fence.owner with
  | some outcome, _ => do
      let _ ← settleAndStageCancellation wire fence (cancellationReconciliation outcome)
      return ()
  | none, none => do
      let _ ← settleAndStageCancellation wire fence .noProcess
      return ()
  | none, some _ => notifyCancellationOwner wire fence

def awaitCancellationAcknowledgement (fence : LocalCancellationFence) :
    Nat → PickupM Bool
  | 0 => return false
  | rounds + 1 => do
      match ← @attempt _ _ _ String String
          (ensureAcknowledgementEnqueued wire fence.acknowledgementIdentity) with
      | .ok _ => return true
      | .error _ =>
        match ← loadCancellation wire fence.acknowledgementIdentity with
        | none => throw "committed cancellation fence disappeared"
        | some current => do
            actOnFence wire current
            awaitCancellationAcknowledgement fence rounds

/-- One cancellation request, up to the acknowledgement of its source. -/
def handleCancel (request : CancelRequest) (rounds : Nat) : PickupM Bool := do
  let fence ← commitCancellationFence wire request request
  actOnFence wire fence
  awaitCancellationAcknowledgement wire fence rounds

def handleOwnerCancellation (owner : String) (identity : CancelRequest) :
    PickupM Unit := do
  match ← loadCancellation wire identity with
  | none => return ()
  | some fence =>
    if fence.owner ≠ some owner then return ()
    else do
      let _ ← markCancellationOwnerNotified wire fence
      match fence.terminalOutcome with
      | some outcome => do
          let _ ← settleAndStageCancellation wire fence (cancellationReconciliation outcome)
          return ()
      | none => do
          let reconciliation ← Program.request (.notifyRunning fence) id
          let _ ← settleAndStageCancellation wire fence reconciliation
          return ()

/-- The parties that act on the pickup bucket.  The last one is time: it
elapses the deduplication window of an event. -/
inductive PickupClient where
  | deliver (executor : Executor) (handoff : NatsPickupHandoff) (rounds : Nat)
  | prepare (executor : Executor) (handoff : NatsPickupHandoff)
  | registerFailure (claim : LocalPickupClaim) (nowMs : Int)
  | sweep (probe : Uuid)
  | reconcile (sequence : Nat) (serverTimeMs : Int)
  | commit (request : CancelRequest)
  | settle (fence : LocalCancellationFence)
      (reconciliation : CancellationReconciliation) (acknowledgement : Bytes)
  | cancel (request : CancelRequest) (rounds : Nat)
  | notified (owner : String) (identity : CancelRequest)
  | elapse (identity : EventIdentity)

inductive PickupResult where
  | handled (handled : Handled)
  | prepared (preparation : Except SafePickupError PickupPreparation)
  | swept (settled : Option (LocalPickupClaim × TerminalElection))
  | committed (request : CancelRequest) (fence : LocalCancellationFence)
  | settled (sequence : Option Nat) (reconciliation : CancellationReconciliation)
      (election : Option TerminalElection)
  | finished

def PickupClient.program (wire : Wire) : PickupClient → PickupM PickupResult
  | .deliver executor handoff rounds => do
      return .handled (← handleDelivery wire executor handoff rounds)
  | .prepare executor handoff => do
      return .prepared (← attempt (preparePickup wire executor handoff))
  | .registerFailure claim nowMs => do
      let _ ← registerLivenessFailure wire claim nowMs
      return .finished
  | .sweep probe => do return .swept (← sweepOneDue wire probe)
  | .reconcile sequence serverTimeMs => do
      reconcilePickupOutcome wire sequence serverTimeMs
      return .finished
  | .commit request => do
      return .committed request (← commitCancellationFence wire request request)
  | .settle fence reconciliation acknowledgement => do
      return .settled fence.dispatchKey reconciliation
        (← settleCancellation wire fence reconciliation acknowledgement)
  | .cancel request rounds => do
      let _ ← handleCancel wire request rounds
      return .finished
  | .notified owner identity => do
      handleOwnerCancellation wire owner identity
      return .finished
  | .elapse identity => do
      ask (.forget identity) id
      return .finished

/-- Any parties, at the start of their work on an empty bucket. -/
def startWorld (wire : Wire) (clients : Nat → PickupClient) :
    World Shared PickupOp PickupOp.Reply (Except String PickupResult) :=
  { state := .empty
    clients := fun peer => ((clients peer).program wire).run }

end Tickr.Pickup
