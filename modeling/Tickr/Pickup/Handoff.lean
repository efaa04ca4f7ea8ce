import Tickr.Pickup.Records

/-!
# The pickup handoff of an Executor

`NatsPickupHandoff` claims the pickup record of one dispatch message, proves the
claim, and completes the source; `preparePickup` ends with the right to launch.
Every read, conditional write, publish and acknowledgement is a step of its own.
-/

namespace Tickr.Pickup

open Concurrent KeyValue
open LogStream (Uuid)
open Concurrent.Program (attempt mapError)

variable (wire : Wire) (what : String)

/-- Read an entry of the bucket, with the time it was written at. -/
def bucketEntry (key : PickupKey) : PickupM (Option (Entry PickupValue × Int)) :=
  Program.request (.kv (.entry key)) fun reply =>
    match reply.1 with
    | .ok found => .ok (found.map fun entry => (entry, reply.2))
    | .error fault =>
      let name := key.text
      let error := wire.errorText fault
      .error s!"read {what} `{name}`: {error}"

def loadPickup (sequence : Nat) :
    PickupM (Option (TaskPickupRecord × Nat × Int)) := do
  match ← bucketEntry wire what (.dispatch sequence) with
  | none => return none
  | some (⟨revision, some (.pickup record)⟩, timeMs) => return some (record, revision, timeMs)
  | some _ => throw s!"decode {what} `dispatch.{sequence}`"

def loadFence (request : CancelRequest) :
    PickupM (Option (TaskCancellationRecord × Nat)) := do
  match ← bucketEntry wire what (.cancellation request) with
  | none => return none
  | some (⟨revision, some (.fence record)⟩, _) => return some (record, revision)
  | some _ =>
    let name := (PickupKey.cancellation request).text
    throw s!"decode {what} `{name}`"

def bucketUpdate (key : PickupKey) (value : PickupValue) (revision : Nat) : PickupM Unit :=
  Program.request (.kv (.update key value revision)) fun reply =>
    match reply.1 with
    | .ok _ => .ok ()
    | .error fault =>
      let name := key.text
      let error := wire.errorText fault
      .error s!"update {what} `{name}`: {error}"

def bucketCreate (key : PickupKey) (value : PickupValue) : PickupM Unit :=
  Program.request (.kv (.create key value)) fun reply =>
    match reply.1 with
    | .ok _ => .ok ()
    | .error fault =>
      let name := key.text
      let error := wire.errorText fault
      .error s!"create {what} `{name}`: {error}"

def bucketKeys : PickupM (List PickupKey) :=
  Program.request (.kv .keys) fun reply =>
    match reply.1 with
    | .ok found => .ok found
    | .error fault =>
      let error := wire.errorText fault
      .error s!"list {what}: {error}"

/-- Stage a TaskEvent made from the record at revision `basis`. -/
def stageEvent (sequence : Nat) (kind : EventKind) (event : Bytes) (basis : Nat) : PickupM Unit :=
  Program.request (.stage ⟨sequence, kind⟩ ⟨event, basis⟩) fun reply =>
    reply.mapError fun _ => "stage TaskEvent"

def require (effect : Effect) (failure : String) : PickupM Unit :=
  Program.request (.effect effect) fun succeeded =>
    if succeeded then .ok () else .error failure

/-- A question that the schedule answers. -/
def ask {α : Type} (op : PickupOp) (read : op.Reply → α) : PickupM α :=
  Program.request op fun reply => .ok (read reply)

/-- The handling of one delivery: its dispatch, and whether a liveness store is
configured. -/
structure NatsPickupHandoff where
  dispatchKey : Nat
  hasLiveness : Bool

structure PendingLocalDispatch where
  dispatchKey : Nat
  payload : Bytes

structure ClaimLocalPickup where
  dispatchKey : Nat
  owner : String
  livenessDeadlineMs : Int
  assignedEvent : Bytes
  nowMs : Int

inductive ClaimWriteError where
  /-- The durable commit may have succeeded. -/
  | ambiguous
  | failed (message : String)

namespace NatsPickupHandoff

variable (wire : Wire) (handoff : NatsPickupHandoff)

def payload : Bytes := wire.dispatches handoff.dispatchKey

def load : PickupM (Option (TaskPickupRecord × Nat × Int)) :=
  loadPickup wire "pickup operation" handoff.dispatchKey

def cancellationForPayload :
    PickupM (Option (CancelRequest × TaskCancellationRecord × Nat)) := do
  match wire.decodeDispatch (handoff.payload wire) with
  | .error _ => return none
  | .ok task =>
    match ← loadFence wire "queued cancellation fence" task.cancelRequest with
    | none => return none
    | some (record, revision) => return some (task.cancelRequest, record, revision)

variable (record : TaskPickupRecord)

def createRecord : PickupM Unit :=
  bucketCreate wire "pickup operation" (.dispatch handoff.dispatchKey) (.pickup record)

def updateRecord (revision : Nat) : PickupM Unit :=
  bucketUpdate wire "pickup operation" (.dispatch handoff.dispatchKey) (.pickup record) revision

def acknowledgeSource : PickupM Unit := require .acknowledgeSource "acknowledge proved TaskDispatch"

/-- Note on the record that its source dispatch is completed. -/
def markSourceCompleted : PickupM Unit := do
  match ← handoff.load wire with
  | none => return ()
  | some (current, revision, _) =>
    handoff.updateRecord wire { current with sourceCompleted := true } revision

/-- The same, when a lost update does not matter. -/
def tryMarkSourceCompleted : PickupM Unit := do
  match ← handoff.load wire with
  | none => return ()
  | some (current, revision, _) => do
      let _ ← @attempt _ _ _ String String
        (handoff.updateRecord wire { current with sourceCompleted := true } revision)
      return ()

/-- The record of a dispatch that was cancelled before any claim. -/
def cancelledRecord : TaskPickupRecord :=
  { dispatchKey := handoff.dispatchKey
    payload := handoff.payload wire
    pickupGeneration := 1
    owner := ""
    livenessDeadlineMs := 0
    assignedEvent := []
    assignedStaged := false
    livenessArmed := false
    sourceCompleted := false
    startedEvent := none
    terminal := some { outcome := .cancellationNoProcess, event := [], eventEnqueued := true }
    rejectedReason := none }

/-- The record that stands for the dispatch once it is cancelled: the existing
one, read again, or a new settled one. -/
def recordCancelled : PickupM TaskPickupRecord := do
  match ← handoff.load wire with
  | none => do
      handoff.createRecord wire (handoff.cancelledRecord wire)
      return handoff.cancelledRecord wire
  | some _ => do
      match ← handoff.load wire with
      | none => return handoff.cancelledRecord wire
      | some (existing, _, _) => return existing

/-- Bind a fence that names no pickup yet, without an owner.  A lost update is
not reported. -/
def bindQueued (request : CancelRequest) (cancellation : TaskCancellationRecord) (revision : Nat)
    (pickup : TaskPickupRecord) : PickupM Unit := do
  if cancellation.dispatchKey.isNone then
    let _ ← @attempt _ _ _ String String
      (bucketUpdate wire "cancellation fence" (.cancellation request) (.fence { cancellation with
            dispatchKey := some pickup.dispatchKey
            pickupGeneration := some pickup.pickupGeneration
            owner := none }) revision)
    return ()
  else return ()

def completeCancelledBeforeClaim : PickupM Bool := do
  match ← handoff.cancellationForPayload wire with
  | none => return false
  | some (request, cancellation, revision) => do
      let pickup ← handoff.recordCancelled wire
      bindQueued wire request cancellation revision pickup
      if pickup.sourceCompleted then return true
      else do
        acknowledgeSource
        handoff.markSourceCompleted wire
        return true

def ensureAssignedStaged : PickupM TaskPickupRecord := do
  match ← handoff.load wire with
  | none =>
    let name := (PickupKey.dispatch handoff.dispatchKey).text
    throw s!"pickup operation `{name}` is missing"
  | some (record, revision, _) =>
    if record.rejectedReason.isSome then
      throw "rejected dispatch cannot stage Assigned"
    else if record.assignedStaged then return record
    else do
      stageEvent handoff.dispatchKey .assigned record.assignedEvent revision
      handoff.updateRecord wire { record with assignedStaged := true } revision
      return { record with assignedStaged := true }

/-- The optional wakeup of the liveness watchdog when a deadline is armed; its
failure is only logged. -/
def wakeLiveness (timeoutMs : Int) (arm : Bool) :
    PickupM Unit := do
  if arm && handoff.hasLiveness then
    match wire.decodeDispatch record.payload with
    | .error error => throw s!"decode claimed TaskDispatch for liveness: {error}"
    | .ok _ => ask (.effect (.livenessWakeup record timeoutMs)) fun _ => ()
  else return ()

def setServerDeadline (claim : LocalPickupClaim) (timeoutMs : Int)
    (arm : Bool) : PickupM (Option LocalPickupClaim) := do
  match ← handoff.load wire with
  | none => return none
  | some (record, revision, serverTimeMs) =>
    if !record.matches claim || !record.assignedStaged then return none
    else do
      handoff.updateRecord wire { record with
          livenessDeadlineMs := serverTimeMs + timeoutMs
          livenessArmed := record.livenessArmed || arm } revision
      match ← handoff.load wire with
      | none => return none
      | some (record, _, _) =>
        if !record.matches claim then return none
        else do
          handoff.wakeLiveness wire record timeoutMs arm
          return some record.claim

/-- Stage and arm what the claimant of a record may have left undone. -/
def recoverStaging : PickupM Unit := do
  if record.rejectedReason.isSome then return ()
  else do
    let record ← handoff.ensureAssignedStaged wire
    if record.livenessArmed then return ()
    else do
      let nowMs ← ask .localNow id
      let _ ← handoff.setServerDeadline wire record.claim
        (max (record.livenessDeadlineMs - nowMs) 1) true
      return ()

/-- A redelivered dispatch whose record exists is completed, never launched. -/
def recoverWithoutLaunch : PickupM Unit := do
  match ← handoff.cancellationForPayload wire with
  | some _ =>
    if record.terminal.isNone then
      throw "cancellation fence is awaiting terminal reconciliation"
    else do
      acknowledgeSource
      if record.sourceCompleted then return ()
      else handoff.markSourceCompleted wire
  | none => do
      handoff.recoverStaging wire record
      acknowledgeSource
      handoff.tryMarkSourceCompleted wire

def stageStarted (claim : LocalPickupClaim) (startedEvent : Bytes) :
    PickupM Bool := do
  match ← handoff.load wire with
  | none => return false
  | some (record, revision, _) =>
    if !record.matches claim || !record.assignedStaged ||
        !record.livenessArmed || !record.sourceCompleted then return false
    else do
      stageEvent handoff.dispatchKey .started startedEvent revision
      handoff.updateRecord wire { record with startedEvent := some startedEvent } revision
      return true

def renew (claim : LocalPickupClaim) (timeoutMs : Int) : PickupM Bool := do
  return (← handoff.setServerDeadline wire claim timeoutMs true).isSome

def selectPending : PickupM (Option PendingLocalDispatch) := do
  match ← handoff.load wire with
  | some (record, _, _) => do
      handoff.recoverWithoutLaunch wire record
      return none
  | none => do
      if ← handoff.completeCancelledBeforeClaim wire then return none
      else
        return some
          { dispatchKey := handoff.dispatchKey
            payload := handoff.payload wire }

def rejectPoison (dispatchKey : Nat) (reason : String) : PickupM Bool := do
  if dispatchKey ≠ handoff.dispatchKey then return false
  else do
    handoff.createRecord wire
      { dispatchKey
        payload := handoff.payload wire
        pickupGeneration := 0
        owner := ""
        livenessDeadlineMs := 0
        assignedEvent := []
        assignedStaged := false
        livenessArmed := false
        sourceCompleted := false
        startedEvent := none
        terminal := none
        rejectedReason := some reason }
    acknowledgeSource
    handoff.tryMarkSourceCompleted wire
    return true

variable (input : ClaimLocalPickup)

def claimedRecord : TaskPickupRecord :=
  { dispatchKey := input.dispatchKey
    payload := handoff.payload wire
    pickupGeneration := 1
    owner := input.owner
    livenessDeadlineMs := input.livenessDeadlineMs
    assignedEvent := input.assignedEvent
    assignedStaged := false
    livenessArmed := false
    sourceCompleted := false
    startedEvent := none
    terminal := none
    rejectedReason := none }

/-- The first part of a claim: up to the creation of its record. -/
def createClaim :
    PickupM (Option TaskPickupRecord) := do
  if input.dispatchKey ≠ handoff.dispatchKey then return none
  else do
    if ← handoff.completeCancelledBeforeClaim wire then return none
    else
      match ← handoff.load wire with
      | some _ => return none
      | none => do
          handoff.createRecord wire (handoff.claimedRecord wire input)
          return some (handoff.claimedRecord wire input)

/-- The second part of a claim, on the record just created. -/
def stageClaim (record : TaskPickupRecord) :
    PickupM LocalPickupClaim := do
  let _ ← handoff.setServerDeadline wire record.claim (input.livenessDeadlineMs - input.nowMs) false
  let _ ← handoff.ensureAssignedStaged wire
  match ← handoff.load wire with
  | none => throw "pickup claim acknowledgement is ambiguous"
  | some (record, _, _) => return record.claim

/-- Failures before the creation of the record are definite; any later one
leaves the claim ambiguous. -/
def claim (input : ClaimLocalPickup) :
    PickupM (Except ClaimWriteError (Option LocalPickupClaim)) := do
  match ← @attempt _ _ _ String String (handoff.createClaim wire input) with
  | .error message => return .error (.failed message)
  | .ok none => return .ok none
  | .ok (some record) =>
    match ← @attempt _ _ _ String String (handoff.stageClaim wire input record) with
    | .ok claim => return .ok (some claim)
    | .error _ => return .error .ambiguous

def proveAmbiguousClaim (createdHere : Bool) (dispatchKey : Nat)
    (owner : String) (assignedEvent : Bytes) :
    PickupM (Option LocalPickupClaim) := do
  if dispatchKey ≠ handoff.dispatchKey ∨ createdHere = false then return none
  else
    match ← handoff.load wire with
    | none => return none
    | some (record, _, _) =>
      if record.owner ≠ owner ∨ record.assignedEvent ≠ assignedEvent then
        return none
      else do
        let record ← handoff.ensureAssignedStaged wire
        return some record.claim

def armLiveness (claim : LocalPickupClaim) (deadlineMs nowMs : Int) :
    PickupM Bool := do
  return (← handoff.setServerDeadline wire claim (deadlineMs - nowMs) true).isSome

def proveReadyToLaunch (claim : LocalPickupClaim) (assignedEvent : Bytes) :
    PickupM Bool := do
  match ← handoff.cancellationForPayload wire with
  | some _ => return false
  | none =>
    match ← handoff.load wire with
    | none => return false
    | some (record, _, _) =>
      return record.matches claim && record.assignedEvent = assignedEvent &&
        record.assignedStaged && record.livenessArmed

/-- Note the completed source on a record that is still the claimed one. -/
def markClaimCompleted (claim : LocalPickupClaim) : PickupM Unit := do
  match ← handoff.load wire with
  | none => return ()
  | some (current, revision, _) =>
    if current.matches claim then
      handoff.updateRecord wire { current with sourceCompleted := true } revision
    else return ()

def completeSource (claim : LocalPickupClaim) : PickupM Bool := do
  match ← handoff.cancellationForPayload wire with
  | some _ => return false
  | none =>
    match ← handoff.load wire with
    | none => return false
    | some (record, _, _) =>
      if !record.matches claim || !record.assignedStaged || !record.livenessArmed then return false
      else do
        acknowledgeSource
        handoff.markClaimCompleted wire claim
        return true

end NatsPickupHandoff

structure PreparedPickup where
  task : DispatchedTask
  claim : LocalPickupClaim

inductive PickupPreparation where
  | noWork
  | poisonRejected (dispatchKey : Nat)
  | claimUnavailable (dispatchKey : Nat)
  | ready (prepared : PreparedPickup)

inductive SafePickupError where
  | writer (message : String)
  | ambiguousClaimUnproved
  | initialLivenessArmFailed
  | claimProofFailed
  | sourceCompletionFailed

/-- An Executor: its identity, the identity's text that names it as the owner
of a pickup, and its liveness timeout. -/
structure Executor where
  executorId : Uuid
  owner : String
  named : owner ≠ ""
  livenessTimeoutMs : Int

abbrev PreparationM := ExceptT SafePickupError PickupProgram

variable (wire : Wire) (executor : Executor) (handoff : NatsPickupHandoff)

def writing {α : Type} (program : PickupM α) : PreparationM α :=
  mapError SafePickupError.writer program

/-- Claim the dispatch, and prove an ambiguous claim.  An ambiguous claim has
created its record, so the handoff's flag `created_here` is set. -/
def claimPickup (dispatchKey : Nat) (assignedEvent : Bytes) :
    PreparationM (Option LocalPickupClaim) := do
  let nowMs ← writing (ask .localNow id)
  match ← writing (handoff.claim wire
      { dispatchKey
        owner := executor.owner
        livenessDeadlineMs := nowMs + executor.livenessTimeoutMs
        assignedEvent
        nowMs }) with
  | .ok (some claim) => return some claim
  | .ok none => return none
  | .error .ambiguous =>
    match ← writing (handoff.proveAmbiguousClaim wire true dispatchKey
        executor.owner assignedEvent) with
    | some claim => return some claim
    | none => throw .ambiguousClaimUnproved
  | .error (.failed message) => throw (.writer message)

/-- From a claim to the right to launch: arm, prove, complete the source. -/
def proveClaim (task : DispatchedTask) (claim : LocalPickupClaim)
    (assignedEvent : Bytes) : PreparationM PickupPreparation := do
  let nowMs ← writing (ask .localNow id)
  if ← writing (handoff.armLiveness wire claim (nowMs + executor.livenessTimeoutMs) nowMs) then
    if ← writing (handoff.proveReadyToLaunch wire claim assignedEvent) then
      if ← writing (handoff.completeSource wire claim) then
        return .ready { task, claim }
      else throw .sourceCompletionFailed
    else throw .claimProofFailed
  else throw .initialLivenessArmFailed

def preparePickup : PreparationM PickupPreparation := do
  match ← writing (handoff.selectPending wire) with
  | none => return .noWork
  | some pending =>
    match wire.readDispatch pending.payload with
    | .error reason => do
        if ← writing (handoff.rejectPoison wire pending.dispatchKey reason) then
          return .poisonRejected pending.dispatchKey
        else throw (.writer "selected poison dispatch was no longer pending")
    | .ok task =>
      let assignedEvent := wire.encodeTaskEvent task executor.executorId .assigned
      match ← claimPickup wire executor handoff pending.dispatchKey assignedEvent with
      | none => return .claimUnavailable pending.dispatchKey
      | some claim => proveClaim wire executor handoff task claim assignedEvent

end Tickr.Pickup
