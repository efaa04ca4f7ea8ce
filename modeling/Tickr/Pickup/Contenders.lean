import Tickr.Pickup.Handoff

/-!
# Elections, sweepers, cancellation fences and the Executor's handler

The contenders for the terminal outcome of a pickup: the handler that ran the
process, the deadline sweepers of the Executor and the Conductor, and
cancellation, which commits a fence before it settles.
-/

namespace Tickr.Pickup

open Concurrent KeyValue
open LogStream (Uuid)
open Concurrent.Program (attempt mapError)

def outcomeElectionRetries : Nat := 8
def outcomeSweepScanLimit : Nat := 64
def cancellationScanLimit : Nat := 256

variable (wire : Wire)

def updateOutcome (record : TaskPickupRecord) (sequence revision : Nat) : PickupM Unit :=
  bucketUpdate wire "pickup outcome" (.dispatch sequence) (.pickup record) revision

def electTerminalLoop (claim : LocalPickupClaim) (outcome : AttemptOutcome)
    (event : Bytes) : Nat → PickupM TerminalElection
  | 0 =>
    let name := (PickupKey.dispatch claim.dispatchKey).text
    throw s!"terminal election kept losing conditional updates for `{name}`"
  | retries + 1 => do
      match ← loadPickup wire "pickup outcome" claim.dispatchKey with
      | none =>
        let name := (PickupKey.dispatch claim.dispatchKey).text
        throw s!"pickup operation `{name}` is missing"
      | some (record, revision, _) =>
        match record.elect claim.dispatchKey claim.pickupGeneration claim.owner outcome event with
        | (.settled elected, _) => return .settled elected
        | (.rejected, _) =>
          let generation := claim.pickupGeneration
          throw s!"terminal election rejected stale or non-owner pickup generation {generation}"
        | (.won, elected) =>
          match ← @attempt _ _ _ String String
              (updateOutcome wire elected claim.dispatchKey revision) with
          | .ok _ => return .won
          | .error _ => electTerminalLoop claim outcome event retries

def electTerminal (claim : LocalPickupClaim) (outcome : AttemptOutcome)
    (event : Bytes) : PickupM TerminalElection :=
  electTerminalLoop wire claim outcome event outcomeElectionRetries

def registerLivenessFailureLoop (claim : LocalPickupClaim) (nowMs : Int) :
    Nat → PickupM Bool
  | 0 =>
    let name := (PickupKey.dispatch claim.dispatchKey).text
    throw s!"liveness failure registration kept losing generation election for `{name}`"
  | retries + 1 => do
      match ← loadPickup wire "pickup outcome" claim.dispatchKey with
      | none => return false
      | some (record, revision, _) =>
        if !record.matches claim then return false
        else
          match ← @attempt _ _ _ String String
              (updateOutcome wire { record with livenessDeadlineMs := nowMs }
                claim.dispatchKey revision) with
          | .ok _ => return true
          | .error _ => registerLivenessFailureLoop claim nowMs retries

def registerLivenessFailure (claim : LocalPickupClaim) (nowMs : Int) :
    PickupM Bool := registerLivenessFailureLoop wire claim nowMs outcomeElectionRetries

/-- Ask the server for its time by writing a key and reading it back. -/
def serverTime (probe : Uuid) : PickupM Int := do
  Program.request (.kv (.put (.watchdogClock probe) .empty)) fun reply =>
    match reply.1 with
    | .ok _ => .ok ()
    | .error fault =>
      let error := wire.errorText fault
      .error s!"write NATS server-time probe: {error}"
  match ← bucketEntry wire "NATS server-time probe" (.watchdogClock probe) with
  | none => throw "NATS server-time probe disappeared"
  | some (_, timeMs) => do
      ask (.kv (.delete (.watchdogClock probe))) fun _ => ()
      return timeMs

structure DueLocalPickup where
  claim : LocalPickupClaim
  payload : Bytes

/-- Look for a due record under the listed keys, reading at most the given
number of dispatch keys. -/
def scanDue (nowMs : Int) : List PickupKey → Nat → PickupM (Option DueLocalPickup)
  | [], _ => return none
  | _ :: _, 0 => return none
  | .dispatch sequence :: rest, left + 1 => do
      match ← loadPickup wire "pickup outcome" sequence with
      | none => scanDue nowMs rest left
      | some (record, _, _) =>
        if record.livenessIsDue nowMs then
          return some { claim := record.claim, payload := record.payload }
        else scanDue nowMs rest left
  | _ :: rest, left + 1 => scanDue nowMs rest (left + 1)

def selectDueLiveness (nowMs : Int) : PickupM (Option DueLocalPickup) := do
  let keys ← bucketKeys wire "all-NATS pickup deadlines"
  scanDue wire nowMs keys outcomeSweepScanLimit

/-- The Executor's sweeper. -/
def sweepOneDue (probe : Uuid) :
    PickupM (Option (LocalPickupClaim × TerminalElection)) := do
  let nowMs ← serverTime wire probe
  match ← selectDueLiveness wire nowMs with
  | none => return none
  | some due =>
    match wire.decodeDispatch due.payload with
    | .error error => throw s!"decode due claimed TaskDispatch: {error}"
    | .ok task => do
        let election ← electTerminal wire due.claim .livenessExpired
          (wire.encodeUnhealthyTaskEvent task)
        return some (due.claim, election)

/-- Settle a record whose deadline has passed; whether the Conductor goes on
to the record's terminal event. -/
def settleDueRecord (sequence : Nat) (serverTimeMs : Int)
    (record : TaskPickupRecord) (revision : Nat) : PickupM Bool := do
  if !record.livenessIsDue serverTimeMs then return true
  else
    match wire.unhealthyEvent record.payload with
    | .error error => throw s!"decode due TaskDispatch: {error}"
    | .ok event =>
      match record.electDueLiveness serverTimeMs event with
      | (.won, elected) =>
        match ← @attempt _ _ _ String String (updateOutcome wire elected sequence revision) with
        | .ok _ => return true
        | .error _ => return false
      | (.settled _, _) => return true
      | (.rejected, _) => return true

/-- Stage the elected terminal event and note that it is enqueued. -/
def enqueueTerminalLoop (sequence : Nat) : Nat → PickupM Unit
  | 0 =>
    let name := (PickupKey.dispatch sequence).text
    throw s!"terminal TaskEvent enqueue kept losing conditional updates for `{name}`"
  | retries + 1 => do
      match ← loadPickup wire "pickup outcome" sequence with
      | none => return ()
      | some (record, revision, _) =>
        match record.terminal with
        | none => return ()
        | some elected =>
          if elected.eventEnqueued then return ()
          else do
            stageEvent record.dispatchKey .terminal elected.event revision
            match ← @attempt _ _ _ String String (updateOutcome wire { record with
                    terminal := some { elected with eventEnqueued := true } }
                  sequence revision) with
            | .ok _ => return ()
            | .error _ => enqueueTerminalLoop sequence retries

/-- The Conductor's sweep of one dispatch key. -/
def reconcilePickupOutcome (sequence : Nat) (serverTimeMs : Int) :
    PickupM Unit := do
  match ← loadPickup wire "pickup outcome" sequence with
  | none => return ()
  | some (record, revision, _) => do
      if ← settleDueRecord wire sequence serverTimeMs record revision then
        enqueueTerminalLoop wire sequence outcomeElectionRetries
      else return ()

variable (wire : Wire) (request : CancelRequest)

def updateFence (record : TaskCancellationRecord) (revision : Nat) : PickupM Unit :=
  bucketUpdate wire "cancellation fence" (.cancellation request) (.fence record) revision

/-- The pickup of the requested Task with the highest sequence among the listed
keys, reading at most the given number of dispatch keys. -/
def scanPickups (request : CancelRequest) :
    List PickupKey → Nat → Option (Nat × TaskPickupRecord) → PickupM (Option TaskPickupRecord)
  | [], _, current => return current.map Prod.snd
  | _ :: _, 0, current => return current.map Prod.snd
  | .dispatch sequence :: rest, left + 1, current => do
      match ← loadPickup wire "pickup generation" sequence with
      | none => scanPickups request rest left current
      | some (pickup, _, _) =>
        match wire.decodeDispatch pickup.payload with
        | .error _ => scanPickups request rest left current
        | .ok task =>
          if task.cancelRequest ≠ request then
            scanPickups request rest left current
          else if current.all fun selected => selected.1 < sequence then
            scanPickups request rest left (some (sequence, pickup))
          else scanPickups request rest left current
  | _ :: rest, left + 1, current => scanPickups request rest (left + 1) current

def findCurrentPickup :
    PickupM (Option TaskPickupRecord) := do
  let keys ← bucketKeys wire "pickup generations for cancellation"
  scanPickups wire request keys cancellationScanLimit none

def bindLoop (request : CancelRequest) (pickup : TaskPickupRecord) :
    Nat → PickupM Unit
  | 0 =>
    let name := (PickupKey.cancellation request).text
    throw s!"cancellation fence `{name}` kept losing pickup binding updates"
  | retries + 1 => do
      match ← loadFence wire "cancellation fence" request with
      | none =>
        let name := (PickupKey.cancellation request).text
        throw s!"cancellation fence `{name}` disappeared"
      | some (record, revision) =>
        if record.dispatchKey.isSome then return ()
        else
          match ← @attempt _ _ _ String String (updateFence wire request { record with
                  dispatchKey := some pickup.dispatchKey
                  pickupGeneration := some pickup.pickupGeneration
                  owner := if pickup.owner = "" then none else some pickup.owner }
                revision) with
          | .ok _ => return ()
          | .error _ => bindLoop request pickup retries

def bindCurrent : PickupM Unit := do
  match ← findCurrentPickup wire request with
  | none => return ()
  | some pickup => bindLoop wire request pickup outcomeElectionRetries

/-- The pickup that a fence names, if the fence names one. -/
def fencedPickup (record : TaskCancellationRecord) :
    PickupM (Option TaskPickupRecord) := do
  match record.dispatchKey with
  | none => return none
  | some sequence => do
      match ← loadPickup wire "cancellation pickup" sequence with
      | none => return none
      | some (pickup, _, _) => return some pickup

def localFence (record : TaskCancellationRecord) :
    PickupM LocalCancellationFence := do
  let pickup ← fencedPickup wire record
  return {
    acknowledgementIdentity := record.acknowledgementIdentity
    request :=
      { taskInstanceId := record.taskInstanceId
        workflowInstanceId := record.workflowInstanceId }
    dispatchKey := record.dispatchKey
    pickupGeneration := record.pickupGeneration
    owner := record.owner
    ownerNotified := record.ownerNotified
    livenessDeadlineMs := pickup.map TaskPickupRecord.livenessDeadlineMs
    terminalOutcome := (pickup.bind TaskPickupRecord.terminal).map ElectedAttemptOutcome.outcome }

def loadCancellation (identity : CancelRequest) :
    PickupM (Option LocalCancellationFence) := do
  match ← loadFence wire "cancellation fence" identity with
  | none => return none
  | some (record, _) => return some (← localFence wire record)

def newFence (identity request : CancelRequest) : TaskCancellationRecord :=
  { acknowledgementIdentity := identity
    taskInstanceId := request.taskInstanceId
    workflowInstanceId := request.workflowInstanceId
    dispatchKey := none
    pickupGeneration := none
    owner := none
    ownerNotified := false
    reconciliation := none
    acknowledgement := none
    acknowledgementEnqueued := false }

/-- The fence exists after this step, or the step fails. -/
def ensureFence (identity request : CancelRequest) : PickupM Unit := do
  match ← loadFence wire "cancellation fence" request with
  | some (record, _) =>
    if record.acknowledgementIdentity ≠ identity ∨ record.taskInstanceId ≠ request.taskInstanceId ∨
        record.workflowInstanceId ≠ request.workflowInstanceId then
      throw "stable cancellation identity conflicts with durable bytes"
    else return ()
  | none =>
    match ← @attempt _ _ _ String String
        (bucketCreate wire "cancellation fence" (.cancellation request)
          (.fence (newFence identity request))) with
    | .ok _ => return ()
    | .error _ =>
      match ← loadFence wire "cancellation fence" request with
      | some _ => return ()
      | none =>
        let name := (PickupKey.cancellation request).text
        throw s!"create cancellation fence `{name}` failed"

def commitCancellationFence (identity request : CancelRequest) :
    PickupM LocalCancellationFence := do
  ensureFence wire identity request
  bindCurrent wire request
  match ← loadFence wire "cancellation fence" request with
  | none => throw "committed cancellation fence could not be proved"
  | some (record, _) => localFence wire record

def markOwnerNotifiedLoop (fence : LocalCancellationFence) :
    Nat → PickupM Bool
  | 0 => throw "cancellation owner notification kept losing updates"
  | retries + 1 => do
      match ← loadFence wire "cancellation fence" fence.request with
      | none => return false
      | some (record, revision) =>
        if record.owner ≠ fence.owner ∨ record.pickupGeneration ≠ fence.pickupGeneration ∨
            record.reconciliation.isSome then return false
        else if record.ownerNotified then return true
        else
          match ← @attempt _ _ _ String String
              (updateFence wire fence.request { record with ownerNotified := true } revision) with
          | .ok _ => return true
          | .error _ => markOwnerNotifiedLoop fence retries

variable (fence : LocalCancellationFence)

def markCancellationOwnerNotified :
    PickupM Bool := markOwnerNotifiedLoop wire fence outcomeElectionRetries

def electCancellationLoop (sequence : Nat) (generation : Int) (owner : String)
    (reconciliation : CancellationReconciliation) :
    Nat → PickupM (Option TerminalElection)
  | 0 =>
    let name := (PickupKey.dispatch sequence).text
    throw s!"cancellation terminal election kept losing updates for `{name}`"
  | retries + 1 => do
      match ← loadPickup wire "cancellation election" sequence with
      | none => return none
      | some (pickup, revision, _) =>
        match pickup.elect sequence generation owner (cancellationOutcome reconciliation) [] with
        | (.settled outcome, _) => return some (.settled outcome)
        | (.rejected, _) => return none
        | (.won, elected) =>
          match ← @attempt _ _ _ String String (updateOutcome wire elected sequence revision) with
          | .ok _ => return some .won
          | .error _ => electCancellationLoop sequence generation owner reconciliation retries

/-- Compete for the pickup a fence is bound to.  A fence without a bound owner
does not compete. -/
def electCancellation (reconciliation : CancellationReconciliation) :
    PickupM (Option TerminalElection) :=
  match fence.dispatchKey, fence.pickupGeneration, fence.owner with
  | some sequence, some generation, some owner =>
    electCancellationLoop wire sequence generation owner reconciliation outcomeElectionRetries
  | _, _, _ => return none

def settleFenceLoop (request : CancelRequest)
    (reconciliation : CancellationReconciliation) (acknowledgement : Bytes)
    (election : Option TerminalElection) :
    Nat → PickupM (Option TerminalElection)
  | 0 => throw "cancellation settlement kept losing conditional updates"
  | retries + 1 => do
      match ← loadFence wire "cancellation fence" request with
      | none => throw "cancellation fence disappeared before settlement"
      | some (record, revision) =>
        match record.acknowledgement with
        | some existing =>
          if existing ≠ acknowledgement then
            throw "duplicate cancellation produced conflicting acknowledgement bytes"
          else return election
        | none =>
          match ← @attempt _ _ _ String String (updateFence wire request { record with
                  reconciliation := some reconciliation
                  acknowledgement := some acknowledgement } revision) with
          | .ok _ => return election
          | .error _ => settleFenceLoop request reconciliation acknowledgement election retries

def settleCancellation (reconciliation : CancellationReconciliation) (acknowledgement : Bytes) :
    PickupM (Option TerminalElection) := do
  let election ← electCancellation wire fence reconciliation
  settleFenceLoop wire fence.request reconciliation acknowledgement election outcomeElectionRetries

def enqueueAcknowledgementLoop (request identity : CancelRequest) :
    Nat → PickupM Bytes
  | 0 => throw "cancellation acknowledgement kept losing staging updates"
  | retries + 1 => do
      match ← loadFence wire "cancellation fence" request with
      | none => throw "cancellation fence disappeared"
      | some (record, revision) =>
        match record.acknowledgement with
        | none => throw "cancellation acknowledgement is not staged"
        | some acknowledgement =>
          if record.acknowledgementEnqueued then return acknowledgement
          else do
            require (.stageAcknowledgement identity acknowledgement)
              "stage cancellation acknowledgement"
            match ← @attempt _ _ _ String String
                (updateFence wire request { record with acknowledgementEnqueued := true }
                  revision) with
            | .ok _ => return acknowledgement
            | .error _ => enqueueAcknowledgementLoop request identity retries

def ensureAcknowledgementEnqueued (identity : CancelRequest) :
    PickupM Bytes := do
  match ← loadCancellation wire identity with
  | none => throw "cancellation fence is missing"
  | some fence => enqueueAcknowledgementLoop wire fence.request identity outcomeElectionRetries

def scanUnresolved : List PickupKey → Nat → PickupM (Option LocalCancellationFence)
  | [], _ => return none
  | _ :: _, 0 => return none
  | .cancellation request :: rest, left + 1 => do
      match ← loadFence wire "cancellation fence" request with
      | none => scanUnresolved rest left
      | some (record, _) =>
        if record.reconciliation.isNone then
          return some (← localFence wire record)
        else scanUnresolved rest left
  | _ :: rest, left + 1 => scanUnresolved rest (left + 1)

def selectUnresolvedCancellation : PickupM (Option LocalCancellationFence) := do
  let keys ← bucketKeys wire "cancellation fences"
  scanUnresolved wire keys cancellationScanLimit

def selectOwnerCancellation (owner : String) :
    PickupM (Option LocalCancellationFence) := do
  return (← selectUnresolvedCancellation wire).filter fun fence =>
    fence.owner = some owner

end Tickr.Pickup
