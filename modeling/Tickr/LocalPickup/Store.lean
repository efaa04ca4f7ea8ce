import Tickr.Pickup.Records
import Tickr.Table

/-!
# The local task-pickup store

The dispatches, the outbox of their events, their terminal outcomes, the
cancellation fences and the outbox of their acknowledgements.  Each operation is
one transaction, and a failed one leaves the tables as they were.  Columns that
nothing reads are left out.
-/

namespace Tickr.LocalPickup

open Table
open Pickup (Bytes AttemptOutcome CancellationReconciliation cancellationOutcome)

inductive DispatchState where
  | pending
  | claimed
  | rejected
  deriving DecidableEq

/-- A row of `local_task_dispatches`. -/
structure DispatchRow where
  dispatchKey : String
  payload : Bytes
  state : DispatchState
  pickupGeneration : Int
  owner : Option String
  (livenessDeadline livenessArmedAt : Option Int)
  (rejectionReason taskInstanceId workflowInstanceId : Option String)
  createdAt : Int

inductive TaskEventKind where
  | assigned
  | started
  | completed
  | failed
  | unhealthy
  deriving DecidableEq

/-- The kinds of which a generation may have one only. -/
def TaskEventKind.isTerminal : TaskEventKind → Bool
  | .assigned | .started => false
  | .completed | .failed | .unhealthy => true

/-- A row of `local_task_event_outbox`. -/
structure EventRow where
  dispatchKey : String
  pickupGeneration : Int
  kind : TaskEventKind
  event : Bytes
  stagedAt : Int
  forwardedAt : Option Int

/-- A row of `local_task_terminal_outcomes`. -/
structure OutcomeRow where
  dispatchKey : String
  pickupGeneration : Int
  outcome : AttemptOutcome

/-- A row of `local_task_dispatch_quarantine`. -/
structure QuarantineRow where
  dispatchKey : String
  payload : Bytes
  reason : String

/-- A row of `local_task_cancellation_fences`. -/
structure FenceRow where
  (acknowledgementIdentity taskInstanceId workflowInstanceId : String)
  dispatchKey : Option String
  pickupGeneration : Option Int
  owner : Option String
  committedAt : Int
  ownerNotifiedAt : Option Int
  reconciliation : Option CancellationReconciliation
  settledAt : Option Int

/-- A row of `local_task_cancellation_ack_outbox`. -/
structure AckRow where
  acknowledgementIdentity : String
  acknowledgement : Bytes
  stagedAt : Int
  forwardedAt : Option Int

structure PickupStore where
  dispatches : List DispatchRow
  events : List EventRow
  outcomes : List OutcomeRow
  quarantine : List QuarantineRow
  fences : List FenceRow
  acks : List AckRow

def PickupStore.empty : PickupStore :=
  { dispatches := []
    events := []
    outcomes := []
    quarantine := []
    fences := []
    acks := [] }

structure TaskPickupClaim where
  dispatchKey : String
  pickupGeneration : Int
  owner : String
  livenessDeadline : Int

structure ClaimTaskPickupInput where
  (dispatchKey owner : String)
  livenessDeadline : Int
  assignedEvent : Bytes
  now : Int

inductive ClaimTaskPickupOutcome where
  | committed (claim : TaskPickupClaim)
  | notPending

inductive TaskPickupTerminalElection where
  | won
  | settled (outcome : AttemptOutcome)
  | notClaimed

structure PendingTaskEvent where
  dispatchKey : String
  pickupGeneration : Int
  kind : TaskEventKind
  event : Bytes

structure TaskCancellationFence where
  (acknowledgementIdentity taskInstanceId workflowInstanceId : String)
  dispatchKey : Option String
  pickupGeneration : Option Int
  owner : Option String
  ownerNotified : Bool
  livenessDeadline : Option Int
  terminalOutcome : Option AttemptOutcome

structure PendingTaskCancellationAck where
  acknowledgementIdentity : String
  acknowledgement : Bytes

inductive PickupError where
  | invalidDispatchKey
  | invalidOwner
  | invalidDeadline
  | generationOverflow (name : String)
  | dispatchIdentityCollision (dispatchKey : String)
  | corruptStoredValue (value : String)
  | invalidCancellationIdentity
  /-- A table constraint that the statement does not ignore. -/
  | constraintViolated

/-- The event that goes with an outcome.  A cancellation has none. -/
def eventKind : AttemptOutcome → Option TaskEventKind
  | .processExitedSuccess => some .completed
  | .processExitedFailure | .processSetupFailed => some .failed
  | .livenessExpired => some .unhealthy
  | .cancellationKilled | .cancellationAlreadyExited
  | .cancellationNoProcess => none

def maxDispatchKeyBytes : Nat := 128

def maxOwnerBytes : Nat := 128

/-- Both checks of a text are on its length in bytes. -/
def validateBytes (limit : Nat) (error : PickupError) (text : String) : Except PickupError Unit :=
  if text.utf8ByteSize = 0 ∨ limit < text.utf8ByteSize then .error error
  else .ok ()

def validateDispatchKey : String → Except PickupError Unit :=
  validateBytes maxDispatchKeyBytes .invalidDispatchKey

def validateOwner : String → Except PickupError Unit := validateBytes maxOwnerBytes .invalidOwner

def validateCancellationIdentity : String → Except PickupError Unit :=
  validateBytes maxOwnerBytes .invalidCancellationIdentity

def validateOptionalTaskIdentity :
    Option String → Option String → Except PickupError Unit
  | none, none => .ok ()
  | some taskInstanceId, some workflowInstanceId => do
      validateCancellationIdentity taskInstanceId
      validateCancellationIdentity workflowInstanceId
  | _, _ => .error .invalidCancellationIdentity

def validateClaimInput (input : ClaimTaskPickupInput) :
    Except PickupError Unit := do
  validateDispatchKey input.dispatchKey
  validateOwner input.owner
  if input.livenessDeadline ≤ input.now then .error .invalidDeadline

def validateClaimIdentity (claim : TaskPickupClaim) :
    Except PickupError Unit := do
  validateDispatchKey claim.dispatchKey
  validateOwner claim.owner
  if claim.pickupGeneration ≤ 0 then .error .invalidDeadline

def validateClaim (claim : TaskPickupClaim) (deadline now : Int) :
    Except PickupError Unit := do
  validateDispatchKey claim.dispatchKey
  validateOwner claim.owner
  if claim.pickupGeneration ≤ 0 ∨ deadline ≤ now then .error .invalidDeadline

/-- `checked_add(1)` of a signed 64-bit number. -/
def checkedSucc (generation : Int) : Option Int :=
  if generation + 1 < 2 ^ 63 then some (generation + 1) else none

namespace PickupStore

/-- What a transaction returns, and the tables it leaves. -/
abbrev Transacted (α : Type) := Except PickupError α × PickupStore

/-- Checks come before the transaction. -/
def guarded {α : Type} (checked : Except PickupError Unit)
    (store : PickupStore) (transaction : Transacted α) : Transacted α :=
  match checked with
  | .error error => (.error error, store)
  | .ok _ => transaction

/-- The row is the claimed dispatch that the claim names. -/
def holdsClaim (claim : TaskPickupClaim) (row : DispatchRow) : Bool :=
  row.dispatchKey = claim.dispatchKey && row.state = .claimed &&
    row.pickupGeneration = claim.pickupGeneration &&
    row.owner = some claim.owner

/-- A fence that keeps this generation of the dispatch from being claimed. -/
def covers (row : DispatchRow) (generation : Int) (fence : FenceRow) : Bool :=
  (fence.dispatchKey = some row.dispatchKey && fence.pickupGeneration = some generation) ||
    (fence.dispatchKey.isNone && row.taskInstanceId = some fence.taskInstanceId &&
      row.workflowInstanceId = some fence.workflowInstanceId)

def sameIdentity (first second : DispatchRow) : Bool :=
  first.taskInstanceId.isSome && first.workflowInstanceId.isSome &&
    first.taskInstanceId = second.taskInstanceId &&
    first.workflowInstanceId = second.workflowInstanceId

variable (store : PickupStore) (dispatchKey : String)

def hasOutcome (generation : Int) : Bool :=
  store.outcomes.any fun stored =>
    stored.dispatchKey = dispatchKey && stored.pickupGeneration = generation

def outcomeOf (generation : Int) : Option AttemptOutcome :=
  (store.outcomes.find? fun stored =>
    stored.dispatchKey = dispatchKey && stored.pickupGeneration = generation).map OutcomeRow.outcome

def hasEvent (generation : Int) (kind : TaskEventKind) : Bool :=
  store.events.any fun stored =>
    stored.dispatchKey = dispatchKey && stored.pickupGeneration = generation && stored.kind = kind

def isPending (row : DispatchRow) : Bool := row.dispatchKey = dispatchKey && row.state = .pending

variable (store : PickupStore)

def stagedRow (dispatchKey : String) (payload : Bytes)
    (taskInstanceId workflowInstanceId : Option String) (now : Int) :
    DispatchRow :=
  { dispatchKey, payload
    state := .pending
    pickupGeneration := 0
    owner := none
    livenessDeadline := none
    livenessArmedAt := none
    rejectionReason := none
    taskInstanceId, workflowInstanceId
    createdAt := now }

/-- A staged dispatch takes over the fences that wait for its Task. -/
def bindWaitingFences (dispatchKey : String) (taskInstanceId workflowInstanceId : Option String)
    (fences : List FenceRow) : List FenceRow :=
  match taskInstanceId, workflowInstanceId with
  | some taskInstanceId, some workflowInstanceId =>
    updateWhere
      (fun fence => fence.dispatchKey.isNone && fence.taskInstanceId = taskInstanceId &&
        fence.workflowInstanceId = workflowInstanceId)
      (fun fence =>
        { fence with
          dispatchKey := some dispatchKey
          pickupGeneration := some 1 })
      fences
  | _, _ => fences

def stageTaskDispatch (dispatchKey : String) (payload : Bytes)
    (taskInstanceId workflowInstanceId : Option String) (now : Int) :
    Transacted Bool :=
  guarded (do
      validateDispatchKey dispatchKey
      validateOptionalTaskIdentity taskInstanceId workflowInstanceId)
    store
    (let row := stagedRow dispatchKey payload taskInstanceId workflowInstanceId now
     if store.dispatches.any fun stored =>
        stored.dispatchKey = dispatchKey || sameIdentity row stored then
      match store.dispatches.find? fun stored =>
          stored.dispatchKey = dispatchKey with
      | some stored =>
        if stored.payload = payload then (.ok false, store)
        else (.error (.dispatchIdentityCollision dispatchKey), store)
      | none => (.error (.dispatchIdentityCollision dispatchKey), store)
     else
      (.ok true, { store with
          dispatches := store.dispatches ++ [row]
          fences := bindWaitingFences dispatchKey taskInstanceId workflowInstanceId store.fences }))

def rejectTaskDispatch (dispatchKey reason : String) : Transacted Bool :=
  guarded (validateDispatchKey dispatchKey) store
    (match store.dispatches.find? (isPending dispatchKey) with
    | none => (.ok false, store)
    | some pending =>
      if store.quarantine.any fun stored =>
          stored.dispatchKey = dispatchKey then
        (.error .constraintViolated, store)
      else
        (.ok true, { store with
            quarantine := store.quarantine ++ [⟨dispatchKey, pending.payload, reason⟩]
            dispatches := updateWhere (isPending dispatchKey) (fun row =>
                { row with
                  state := .rejected
                  rejectionReason := some reason })
              store.dispatches }))

/-- The rows that a claim takes: the pending dispatch, if no fence covers its
next generation. -/
def claimable (dispatchKey : String) (current generation : Int) (row : DispatchRow) : Bool :=
  isPending dispatchKey row && row.pickupGeneration = current &&
    !store.fences.any (covers row generation)

def claimTaskPickup (input : ClaimTaskPickupInput) : Transacted ClaimTaskPickupOutcome :=
  guarded (validateClaimInput input) store
    (match store.dispatches.find? (isPending input.dispatchKey) with
    | none => (.ok .notPending, store)
    | some pending =>
      match checkedSucc pending.pickupGeneration with
      | none => (.error (.generationOverflow input.dispatchKey), store)
      | some generation =>
        let selects := store.claimable input.dispatchKey pending.pickupGeneration generation
        if affected selects store.dispatches ≠ 1 then
          (.ok .notPending, store)
        else if store.hasEvent input.dispatchKey generation .assigned then
          (.error .constraintViolated, store)
        else
          (.ok (.committed
            { dispatchKey := input.dispatchKey
              pickupGeneration := generation
              owner := input.owner
              livenessDeadline := input.livenessDeadline }),
            { store with
              dispatches := updateWhere selects (fun row =>
                  { row with
                    state := .claimed
                    pickupGeneration := generation
                    owner := some input.owner
                    livenessDeadline := some input.livenessDeadline })
                store.dispatches
              events := store.events ++
                [{ dispatchKey := input.dispatchKey
                   pickupGeneration := generation
                   kind := .assigned
                   event := input.assignedEvent
                   stagedAt := input.now
                   forwardedAt := none }] }))

def proveAmbiguousTaskPickup (dispatchKey owner : String)
    (assignedEvent : Bytes) : Transacted (Option TaskPickupClaim) :=
  guarded (do
      validateDispatchKey dispatchKey
      validateOwner owner)
    store
    (match store.dispatches.find? fun row =>
        row.dispatchKey = dispatchKey && row.state = .claimed &&
          row.owner = some owner && store.events.any fun stored =>
            stored.dispatchKey = row.dispatchKey &&
              stored.pickupGeneration = row.pickupGeneration &&
              stored.kind = .assigned && stored.event = assignedEvent with
    | none => (.ok none, store)
    | some row =>
      match row.livenessDeadline with
      | none => (.error (.corruptStoredValue "liveness_deadline"), store)
      | some livenessDeadline =>
        (.ok (some
          { dispatchKey, owner, livenessDeadline
            pickupGeneration := row.pickupGeneration }), store))

variable (store : PickupStore) (claim : TaskPickupClaim)

/-- Arming, renewal and a registered failure differ in what they ask of the
claimed row beyond an open outcome, and in what they set. -/
def updateClaimed (asks : DispatchRow → Bool)
    (change : DispatchRow → DispatchRow) : Transacted Bool :=
  let selects := fun row =>
    holdsClaim claim row && asks row && !store.hasOutcome row.dispatchKey row.pickupGeneration
  (.ok (affected selects store.dispatches = 1),
    { store with dispatches := updateWhere selects change store.dispatches })

def armTaskPickupLiveness (deadline now : Int) : Transacted Bool :=
  guarded (validateClaim claim deadline now) store
    (store.updateClaimed claim
      (fun row => store.hasEvent row.dispatchKey row.pickupGeneration .assigned)
      fun row =>
        { row with
          livenessDeadline := some deadline
          livenessArmedAt := some now })

def isArmed (row : DispatchRow) : Bool := row.livenessArmedAt.isSome

def renewTaskPickupLiveness (deadline now : Int) : Transacted Bool :=
  guarded (validateClaim claim deadline now) store (store.updateClaimed claim isArmed fun row =>
      { row with livenessDeadline := some deadline })

def registerTaskPickupLivenessFailure (now : Int) : Transacted Bool :=
  guarded (validateClaimIdentity claim) store (store.updateClaimed claim isArmed fun row =>
      { row with livenessDeadline := some now })

def proveTaskPickupReady (assignedEvent : Bytes) : Transacted Bool :=
  (.ok (affected (fun row => holdsClaim claim row && isArmed row && (store.events.any fun stored =>
        stored.dispatchKey = row.dispatchKey && stored.pickupGeneration = row.pickupGeneration &&
          stored.kind = .assigned && stored.event = assignedEvent) &&
      !store.hasOutcome row.dispatchKey row.pickupGeneration &&
      !store.fences.any (covers row row.pickupGeneration))
    store.dispatches = 1), store)

def stageTaskStarted (startedEvent : Bytes) (now : Int) : Transacted Bool :=
  match store.dispatches.find? fun row =>
      holdsClaim claim row && isArmed row &&
        !store.hasOutcome row.dispatchKey row.pickupGeneration with
  | none => (.ok false, store)
  | some row =>
    if store.hasEvent row.dispatchKey row.pickupGeneration .started then
      (.ok false, store)
    else
      (.ok true, { store with
          events := store.events ++
            [{ dispatchKey := row.dispatchKey
               pickupGeneration := row.pickupGeneration
               kind := .started
               event := startedEvent
               stagedAt := now
               forwardedAt := none }] })

variable (store : PickupStore)

/-- A terminal event of the generation is already in the outbox. -/
def hasTerminalEvent (dispatchKey : String) (generation : Int) : Bool :=
  store.events.any fun stored =>
    stored.dispatchKey = dispatchKey &&
      stored.pickupGeneration = generation && stored.kind.isTerminal

def electTaskPickupTerminal (claim : TaskPickupClaim)
    (outcome : AttemptOutcome) (terminalEvent : Bytes) (now : Int) :
    Transacted TaskPickupTerminalElection :=
  guarded (validateClaimIdentity claim) store (match eventKind outcome with
    | none =>
      (.error (.corruptStoredValue
        "cancellation outcome requires the cancellation settlement path"),
        store)
    | some kind =>
      if store.dispatches.any (holdsClaim claim) &&
          !store.hasOutcome claim.dispatchKey claim.pickupGeneration then
        if store.hasTerminalEvent claim.dispatchKey claim.pickupGeneration then
          (.error .constraintViolated, store)
        else
          (.ok .won, { store with
              outcomes := store.outcomes ++ [⟨claim.dispatchKey, claim.pickupGeneration, outcome⟩]
              events := store.events ++
                [{ dispatchKey := claim.dispatchKey
                   pickupGeneration := claim.pickupGeneration
                   kind
                   event := terminalEvent
                   stagedAt := now
                   forwardedAt := none }] })
      else
        match store.outcomeOf claim.dispatchKey claim.pickupGeneration with
        | some settled => (.ok (.settled settled), store)
        | none => (.ok .notClaimed, store))

def markTaskEventForwarded (event : PendingTaskEvent) (now : Int) : Transacted Bool :=
  let selects := fun stored : EventRow =>
    stored.dispatchKey = event.dispatchKey && stored.pickupGeneration = event.pickupGeneration &&
      stored.kind = event.kind && stored.event = event.event &&
      stored.forwardedAt.isNone
  (.ok (affected selects store.events = 1), { store with
      events := updateWhere selects (fun stored => { stored with forwardedAt := some now })
        store.events })

variable (store : PickupStore)

/-- The fence as a reader sees it, with its dispatch's deadline and outcome. -/
def loadedFence (fence : FenceRow) : TaskCancellationFence :=
  { acknowledgementIdentity := fence.acknowledgementIdentity
    taskInstanceId := fence.taskInstanceId
    workflowInstanceId := fence.workflowInstanceId
    dispatchKey := fence.dispatchKey
    pickupGeneration := fence.pickupGeneration
    owner := fence.owner
    ownerNotified := fence.ownerNotifiedAt.isSome
    livenessDeadline := (store.dispatches.find? fun row =>
      fence.dispatchKey = some row.dispatchKey).bind DispatchRow.livenessDeadline
    terminalOutcome :=
      match fence.dispatchKey, fence.pickupGeneration with
      | some dispatchKey, some generation => store.outcomeOf dispatchKey generation
      | _, _ => none }

def loadTaskCancellationFence (acknowledgementIdentity : String) : Option TaskCancellationFence :=
  (store.fences.find? fun fence =>
    fence.acknowledgementIdentity = acknowledgementIdentity).map store.loadedFence

/-- What a fence says about the dispatch of its Task: the next generation of a
pending one, the current one otherwise. -/
def fencedGeneration (taskInstanceId : String) :
    Option DispatchRow → Except PickupError (Option String × Option Int × Option String)
  | none => .ok (none, none, none)
  | some row =>
    if row.state = .pending then
      match checkedSucc row.pickupGeneration with
      | none => .error (.generationOverflow taskInstanceId)
      | some generation => .ok (some row.dispatchKey, some generation, none)
    else .ok (some row.dispatchKey, some row.pickupGeneration, row.owner)

/-- The constraints under which a fence is inserted; a row that violates one is
skipped. -/
def admitsFence (fence : FenceRow) : Bool :=
  (fence.pickupGeneration.all fun generation => 0 < generation) && !store.fences.any fun stored =>
      stored.acknowledgementIdentity = fence.acknowledgementIdentity ||
        (stored.taskInstanceId = fence.taskInstanceId &&
          stored.workflowInstanceId = fence.workflowInstanceId)

def insertFence (fence : FenceRow) : PickupStore :=
  if store.admitsFence fence then
    { store with fences := store.fences ++ [fence] }
  else store

def commitTaskCancellationFence (acknowledgementIdentity taskInstanceId workflowInstanceId : String)
    (now : Int) : Transacted TaskCancellationFence :=
  guarded (do
      validateCancellationIdentity acknowledgementIdentity
      validateCancellationIdentity taskInstanceId
      validateCancellationIdentity workflowInstanceId)
    store
    (match fencedGeneration taskInstanceId (store.dispatches.find? fun row =>
          row.taskInstanceId = some taskInstanceId &&
            row.workflowInstanceId = some workflowInstanceId) with
    | .error error => (.error error, store)
    | .ok (dispatchKey, pickupGeneration, owner) =>
      let committed := store.insertFence
        { acknowledgementIdentity, taskInstanceId, workflowInstanceId
          dispatchKey, pickupGeneration, owner
          committedAt := now
          ownerNotifiedAt := none
          reconciliation := none
          settledAt := none }
      match committed.loadTaskCancellationFence acknowledgementIdentity with
      | some fence => (.ok fence, committed)
      | none =>
        (.error (.corruptStoredValue "committed cancellation fence could not be reloaded"),
          committed))

variable (fence : TaskCancellationFence)

def markTaskCancellationOwnerNotified (now : Int) : Transacted Bool :=
  let selects := fun stored : FenceRow =>
    stored.acknowledgementIdentity = fence.acknowledgementIdentity &&
      stored.owner.isSome && stored.settledAt.isNone
  (.ok (affected selects store.fences = 1), { store with
      fences := updateWhere selects (fun stored =>
          { stored with
            ownerNotifiedAt := some (stored.ownerNotifiedAt.getD now) })
        store.fences })

/-- The dispatch and the fence of one settlement: the claimed generation under
its owner, or the pending one without an owner. -/
def settles (fence : FenceRow) (row : DispatchRow) : Bool :=
  fence.dispatchKey = some row.dispatchKey &&
    ((row.state = .claimed && fence.pickupGeneration = some row.pickupGeneration &&
        row.owner.isSome && row.owner = fence.owner) ||
      (row.state = .pending && fence.pickupGeneration = some (row.pickupGeneration + 1) &&
        fence.owner.isNone))

/-- The outcome row that a settlement inserts, if it inserts one. -/
def settlementOutcome (reconciliation : CancellationReconciliation) : Option OutcomeRow :=
  match fence.dispatchKey, fence.pickupGeneration with
  | some _, some _ => do
      let stored ← store.fences.find? fun stored =>
        stored.acknowledgementIdentity = fence.acknowledgementIdentity
      let row ← store.dispatches.find? (settles stored)
      let generation ← stored.pickupGeneration
      if store.hasOutcome row.dispatchKey generation then none
      else
        some ⟨row.dispatchKey, generation, cancellationOutcome reconciliation⟩
  | _, _ => none

def settledElection (inserted : Bool) : Option TaskPickupTerminalElection :=
  match fence.dispatchKey, fence.pickupGeneration with
  | some dispatchKey, some generation =>
    (store.outcomeOf dispatchKey generation).map fun outcome =>
      if inserted && !dispatchKey.isEmpty && 0 < generation then .won
      else .settled outcome
  | _, _ => none

def settleTaskCancellation (reconciliation : CancellationReconciliation) (acknowledgement : Bytes)
    (now : Int) : Transacted (Option TaskPickupTerminalElection) :=
  let inserted := store.settlementOutcome fence reconciliation
  let elected := { store with outcomes := store.outcomes ++ inserted.toList }
  -- the acknowledgement of a fence that does not exist breaks a foreign key
  if store.fences.any fun stored =>
      stored.acknowledgementIdentity = fence.acknowledgementIdentity then
    (.ok (elected.settledElection fence inserted.isSome), { elected with
        fences := updateWhere (fun stored =>
            stored.acknowledgementIdentity = fence.acknowledgementIdentity)
          (fun stored =>
            { stored with
              reconciliation := some (stored.reconciliation.getD reconciliation)
              settledAt := some (stored.settledAt.getD now) })
          store.fences
        acks :=
          if store.acks.any fun stored =>
              stored.acknowledgementIdentity = fence.acknowledgementIdentity then
            store.acks
          else
            store.acks ++
              [{ acknowledgementIdentity := fence.acknowledgementIdentity
                 acknowledgement
                 stagedAt := now
                 forwardedAt := none }] })
  else (.error .constraintViolated, store)

def markTaskCancellationAckForwarded (ack : PendingTaskCancellationAck)
    (now : Int) : Transacted Bool :=
  let selects := fun stored : AckRow =>
    stored.acknowledgementIdentity = ack.acknowledgementIdentity &&
      stored.acknowledgement = ack.acknowledgement &&
      stored.forwardedAt.isNone
  (.ok (affected selects store.acks = 1), { store with
      acks := updateWhere selects (fun stored => { stored with forwardedAt := some now })
        store.acks })

end PickupStore

inductive PickupCall where
  | stage (dispatchKey : String) (payload : Bytes)
      (taskInstanceId workflowInstanceId : Option String) (now : Int)
  | reject (dispatchKey reason : String)
  | claim (input : ClaimTaskPickupInput)
  | proveAmbiguous (dispatchKey owner : String) (assignedEvent : Bytes)
  | arm (claim : TaskPickupClaim) (deadline now : Int)
  | proveReady (claim : TaskPickupClaim) (assignedEvent : Bytes)
  | stageStarted (claim : TaskPickupClaim) (startedEvent : Bytes) (now : Int)
  | renew (claim : TaskPickupClaim) (deadline now : Int)
  | registerFailure (claim : TaskPickupClaim) (now : Int)
  | elect (claim : TaskPickupClaim) (outcome : AttemptOutcome) (terminalEvent : Bytes) (now : Int)
  | markEventForwarded (event : PendingTaskEvent) (now : Int)
  | commitFence (acknowledgementIdentity taskInstanceId workflowInstanceId : String) (now : Int)
  | markOwnerNotified (fence : TaskCancellationFence) (now : Int)
  | settle (fence : TaskCancellationFence)
      (reconciliation : CancellationReconciliation) (acknowledgement : Bytes)
      (now : Int)
  | markAckForwarded (ack : PendingTaskCancellationAck) (now : Int)

def PickupStore.after (store : PickupStore) : PickupCall → PickupStore
  | .stage dispatchKey payload taskInstanceId workflowInstanceId now =>
    (store.stageTaskDispatch dispatchKey payload taskInstanceId workflowInstanceId now).2
  | .reject dispatchKey reason => (store.rejectTaskDispatch dispatchKey reason).2
  | .claim input => (store.claimTaskPickup input).2
  | .proveAmbiguous dispatchKey owner assignedEvent =>
    (store.proveAmbiguousTaskPickup dispatchKey owner assignedEvent).2
  | .arm claim deadline now => (store.armTaskPickupLiveness claim deadline now).2
  | .proveReady claim assignedEvent => (store.proveTaskPickupReady claim assignedEvent).2
  | .stageStarted claim startedEvent now => (store.stageTaskStarted claim startedEvent now).2
  | .renew claim deadline now => (store.renewTaskPickupLiveness claim deadline now).2
  | .registerFailure claim now => (store.registerTaskPickupLivenessFailure claim now).2
  | .elect claim outcome terminalEvent now =>
    (store.electTaskPickupTerminal claim outcome terminalEvent now).2
  | .markEventForwarded event now => (store.markTaskEventForwarded event now).2
  | .commitFence acknowledgementIdentity taskInstanceId workflowInstanceId now =>
    (store.commitTaskCancellationFence acknowledgementIdentity taskInstanceId
      workflowInstanceId now).2
  | .markOwnerNotified fence now => (store.markTaskCancellationOwnerNotified fence now).2
  | .settle fence reconciliation acknowledgement now =>
    (store.settleTaskCancellation fence reconciliation acknowledgement now).2
  | .markAckForwarded ack now => (store.markTaskCancellationAckForwarded ack now).2

/-- The tables after a sequence of transactions. -/
def PickupStore.afterAll (store : PickupStore) (calls : List PickupCall) :
    PickupStore := calls.foldl PickupStore.after store

end Tickr.LocalPickup
