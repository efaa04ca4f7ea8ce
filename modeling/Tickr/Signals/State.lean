import Tickr.KeyValue
import Tickr.Signals.GateIndex
import Tickr.Table

/-!
# The state that signals pass through

Triggers, cancellations and wakeups share an idempotency cache, the tables of
captures and audits, the working set, the gate index and the relay.  Beside them
the state has its history, which no client can read.
-/

namespace Tickr.Signals

open LogStream (Uuid)
open KeyValue Concurrent

/-- SHA-256 of a canonical JSON text.  It is taken to be collision free, so a
digest is the value it was made from. -/
structure Digest where
  hashed : Json
  deriving DecidableEq

structure CacheRow where
  signalId : Uuid
  inputSha256 : Digest
  deriving DecidableEq

inductive CancelTarget where
  | workflowInstance (workflowInstanceId : Uuid) (nodeId : Option Uuid)
  | byTag (filter : List (String × String))
  deriving DecidableEq

/-- The target as it is serialized; identities stand in JSON as numbers. -/
def CancelTarget.json : CancelTarget → Json
  | .workflowInstance workflowInstanceId nodeId =>
    .object [("kind", .string "instance"), ("node_id", nodeId.elim .null fun node => .integer node),
      ("workflow_instance_id", .integer workflowInstanceId)]
  | .byTag filter =>
    .object [("filter", .object (filter.map fun tag =>
        (tag.1, .string tag.2))), ("kind", .string "by_tag")]

inductive TriggerSource where
  | manual
  | external (subject : String)
  | wakeup (name : String)
  deriving DecidableEq

inductive SignalVariant where
  | trigger (workflowId : Uuid) (scheduledAt : Option Int)
      (source : TriggerSource) (name : Option String)
  | cancel (target : CancelTarget) (note : Option String)
  deriving DecidableEq

structure Signal where
  signalId : Uuid
  idempotencyKey : Option String
  variant : SignalVariant
  deriving DecidableEq

/-- The message that tells a run that its gate is satisfied. -/
structure GateOutcome where
  (workflowInstanceId edgeId signalId : Uuid)
  deriving DecidableEq

inductive RelayItem where
  | signal (signal : Signal)
  | gateOutcome (outcome : GateOutcome)
  deriving DecidableEq

/-- A capture in the working set: the signal and the name it is kept under. -/
abbrev CaptureKey := Uuid × String

/-- A message for the relay.  Which registration it answers and what its
receiver is to find in the working set is not on the wire. -/
structure Sending where
  item : RelayItem
  registration : Option Nat
  expects : List (CaptureKey × Content)
  deriving DecidableEq

structure LiveDefinition where
  workflowId : Uuid
  version : Int
  captures : List CaptureDeclaration

/-- An entry of the subscription index, with the name it waits on. -/
structure Subscription where
  name : String
  workflowId : Uuid
  predicate : Option JsonPath
  mergedCaptures : List CaptureDeclaration

structure CapturesRow where
  (signalId workflowId : Uuid)
  workflowVersion : Option Int
  captures : List NamedEnvelope
  materializedRunId : Option Uuid
  terminalAt : Option Int
  deriving DecidableEq

structure CancelRow where
  signalId : Uuid
  appliedCount : Int
  target : Json
  note : Option String
  deriving DecidableEq

def pendingSignalCancelAppliedCount : Int := -1

structure WakeupRow where
  signalId : Uuid
  name : String
  matchedWorkflows : Nat
  deriving DecidableEq

/-- The identity of one write of captures to the scope store: its owner and
the keys it writes, in order. -/
structure CaptureClaim where
  owner : Uuid
  keys : List String
  deriving DecidableEq

structure ScopeRequest where
  scopeId : Uuid
  claim : CaptureClaim
  values : List (String × Envelope)
  deriving DecidableEq

inductive ScopeOutcome where
  | created
  | applied
  | idempotent
  | collision (existing : Uuid)
  | claimConflict
  | missing
  deriving DecidableEq

inductive Answer where
  | fresh (signalId : Uuid)
  | deduplicated (originalSignalId : Uuid)
  | conflict (originalSignalId : Uuid) (originalHash yourHash : Digest)
  | cancelledInstance (signalId : Uuid)
  | cancelledByTag (signalId : Uuid) (instancesMatched : Nat)
  | failed (status : Nat) (message : String)
  deriving DecidableEq

/-- What the code logs and then passes over. -/
inductive Warning where
  | persistCaptures (workflowId : Uuid)
  | sendSignal (workflowId : Uuid)
  | persistGateCaptures (gate : GateKey)
  | sendGateOutcome (gate : GateKey)
  | wakeupAudit
  | scheduleLinkage
  | cancelAudit
  | rehydration (workflowInstanceId : Uuid)
  deriving DecidableEq

inductive SignalEvent where
  | answered (answer : Answer)
  /-- The sender of a command took the message. -/
  | sent (sending : Sending)
  /-- The relay took the message. -/
  | relayed (sending : Sending)
  | warned (warning : Warning)
  | registered (gate : Gate)
  | lookedUp (gate : Gate)
  /-- The gate left the index through a wakeup. -/
  | removed (gate : Gate)
  /-- The messages of a delivered event were recorded as relay intents. -/
  | recorded (signalId : Uuid) (intents : List Sending)
  | read (signalId : Uuid) (row : Option CapturesRow)
  /-- A task of a run started by a signal came in. -/
  | received (workflowInstanceId signalId : Uuid)
  | terminal (workflowInstanceId : Uuid)
  /-- The captures of a signal were settled because their run ended. -/
  | settled (signalId workflowInstanceId : Uuid)
  | dropped (signalId : Uuid)
  /-- A task ran, without these captures of its signal. -/
  | executed (workflowInstanceId signalId : Uuid) (missing : List String)
  deriving DecidableEq

structure Tables where
  definitions : List LiveDefinition
  captures : List CapturesRow
  cancels : List CancelRow
  wakeups : List WakeupRow

structure SignalState where
  cache : Log String CacheRow
  tables : Tables
  workingSet : Log CaptureKey Envelope
  /-- The request that created each scope, and all requests applied. -/
  (scopes scopeClaims : List ScopeRequest)
  gates : GateIndex
  subscriptions : List Subscription
  history : List (Nat × SignalEvent)

inductive Query where
  | liveDefinition (workflowId : Uuid)
  | insertCaptures (signalId workflowId : Uuid) (version : Option Int)
      (captures : List NamedEnvelope)
  | signalCaptures (signalId : Uuid)
  | linkCaptures (signalId workflowInstanceId : Uuid)
  | markTerminal (workflowInstanceId : Uuid)
  | expiredCaptures (cutoff : Int)
  | deleteExpired (signalId : Uuid) (cutoff : Int)
  | insertCancel (row : CancelRow)
  | signalCancel (signalId : Uuid)
  | materializeCancel (signalId : Uuid) (appliedCount : Int)
  | insertWakeup (row : WakeupRow)
  deriving DecidableEq

@[reducible]
def Query.Result : Query → Type
  | .liveDefinition _ => Option LiveDefinition
  | .insertCaptures _ _ _ _ => Bool
  | .signalCaptures _ => Option CapturesRow
  | .linkCaptures _ _ => Unit
  | .markTerminal _ => List CapturesRow
  | .expiredCaptures _ => List CapturesRow
  | .deleteExpired _ _ => Bool
  | .insertCancel _ => Bool
  | .signalCancel _ => Option CancelRow
  | .materializeCancel _ _ => Bool
  | .insertWakeup _ => Bool

/-- The row is linked to the run and was not settled before. -/
def CapturesRow.endsWith (workflowInstanceId : Uuid) (row : CapturesRow) :
    Bool := row.materializedRunId = some workflowInstanceId && row.terminalAt.isNone

def CapturesRow.isExpired (cutoff : Int) (row : CapturesRow) : Bool :=
  row.terminalAt.any fun at_ => at_ < cutoff

def Query.answer (now : Int) (query : Query) (tables : Tables) : query.Result :=
  match query with
  | .liveDefinition workflowId => tables.definitions.find? fun row => row.workflowId = workflowId
  | .insertCaptures signalId _ _ _ => !tables.captures.any fun row => row.signalId = signalId
  | .signalCaptures signalId => tables.captures.find? fun row => row.signalId = signalId
  | .linkCaptures _ _ => ()
  | .markTerminal workflowInstanceId =>
    (tables.captures.filter (·.endsWith workflowInstanceId)).map
      fun row => { row with terminalAt := some now }
  | .expiredCaptures cutoff => tables.captures.filter (·.isExpired cutoff)
  | .deleteExpired signalId cutoff =>
    tables.captures.any fun row =>
      row.signalId = signalId && row.isExpired cutoff
  | .insertCancel cancel => !tables.cancels.any fun row => row.signalId = cancel.signalId
  | .signalCancel signalId => tables.cancels.find? fun row => row.signalId = signalId
  | .materializeCancel signalId _ =>
    tables.cancels.any fun row => row.signalId = signalId &&
      row.appliedCount = pendingSignalCancelAppliedCount
  | .insertWakeup wakeup => !tables.wakeups.any fun row => row.signalId = wakeup.signalId

def Query.effect (now : Int) (query : Query) (tables : Tables) : Tables :=
  match query with
  | .liveDefinition _ | .signalCaptures _ | .expiredCaptures _
  | .signalCancel _ => tables
  | .insertCaptures signalId workflowId version captures =>
    -- `ON CONFLICT (signal_id) DO NOTHING`: the first row of a signal stays.
    if tables.captures.any fun row => row.signalId = signalId then tables
    else
      { tables with
        captures := tables.captures ++ [⟨signalId, workflowId, version, captures, none, none⟩] }
  | .linkCaptures signalId workflowInstanceId =>
    { tables with
      captures := Table.updateWhere
        (fun row => row.signalId = signalId && row.materializedRunId.isNone)
        (fun row => { row with materializedRunId := some workflowInstanceId })
        tables.captures }
  | .markTerminal workflowInstanceId =>
    { tables with
      captures := Table.updateWhere (·.endsWith workflowInstanceId)
        (fun row => { row with terminalAt := some now }) tables.captures }
  | .deleteExpired signalId cutoff =>
    { tables with
      captures := tables.captures.filter fun row =>
        !(row.signalId = signalId && row.isExpired cutoff) }
  | .insertCancel cancel =>
    if tables.cancels.any fun row => row.signalId = cancel.signalId then
      tables
    else { tables with cancels := tables.cancels ++ [cancel] }
  | .materializeCancel signalId appliedCount =>
    { tables with
      cancels := Table.updateWhere
        (fun row => row.signalId = signalId && row.appliedCount = pendingSignalCancelAppliedCount)
        (fun row => { row with appliedCount }) tables.cancels }
  | .insertWakeup wakeup =>
    if tables.wakeups.any fun row => row.signalId = wakeup.signalId then
      tables
    else { tables with wakeups := tables.wakeups ++ [wakeup] }

/-- What a statement leaves in the history. -/
def Query.events (query : Query) (tables : Tables) : List SignalEvent :=
  match query with
  | .signalCaptures signalId =>
    [.read signalId (tables.captures.find? fun row => row.signalId = signalId)]
  | .markTerminal workflowInstanceId =>
    (tables.captures.filter (·.endsWith workflowInstanceId)).map
      fun row => .settled row.signalId workflowInstanceId
  | .deleteExpired signalId cutoff =>
    (tables.captures.filter fun row =>
      row.signalId = signalId && row.isExpired cutoff).map fun row => .dropped row.signalId
  | _ => []

inductive ReservationChoice where
  | failed
  | pending
  | complete
  | ready
  | acquired

inductive Reservation where
  | failed
  | pending
  | complete
  | ready (intents : List Sending)
  | acquired

/-- How a call is answered: whether it gets through, the clock, whether a
deadline has passed, and the outcome of a reservation. -/
structure Turn where
  delivery : Delivery
  now : Int
  elapsed : Bool
  reservation : ReservationChoice

inductive SignalOp where
  | clock
  | deadlinePassed
  | openCache
  | cache (op : KvOp String CacheRow)
  | openBucket
  | workingSet (op : KvOp CaptureKey Envelope)
  | createScope (request : ScopeRequest)
  | writeScope (request : ScopeRequest)
  | sql (query : Query)
  | subscriptions (name : String)
  | lookupGates (name : String)
  | register (precondition : GateIndex.Precondition)
  | unregister (workflowInstanceId edgeId : Uuid)
  /-- A wakeup takes out the gate it has told. -/
  | removeGate (gate : Gate)
  | send (sending : Sending)
  /-- The sender of a delivered event keeps its messages for later. -/
  | collect (sending : Sending)
  | collected
  | reserve (signalId : Uuid)
  | persistEffects (signalId : Uuid) (intents : List Sending)
  | forward (sending : Sending)
  | markRelayed (signalId : Uuid)
  | reject (signalId : Uuid) (reason : String)
  | abandon (signalId : Uuid)
  | complete
  | leavePending
  | respond (answer : Answer)
  | warn (warning : Warning)
  | receive (workflowInstanceId signalId : Uuid)
  | endRun (workflowInstanceId : Uuid)
  | execute (workflowInstanceId signalId : Uuid)
  deriving DecidableEq

inductive Unreachable where
  | unavailable

inductive ScopeFailure where
  | unavailable
  | duplicateKey
  | constraintViolated

@[reducible]
def SignalOp.Reply : SignalOp → Type
  | .clock => Int
  | .deadlinePassed => Bool
  | .openCache | .openBucket => Except Unreachable Unit
  | .cache op => op.Reply
  | .workingSet op => op.Reply
  | .createScope _ | .writeScope _ => Except ScopeFailure ScopeOutcome
  | .sql query => Except Unreachable query.Result
  | .subscriptions _ => List Subscription
  | .lookupGates _ => List Gate
  | .register _ => Except String Unit
  | .send _ | .forward _ => Except Unreachable Unit
  | .collected => List Sending
  | .reserve _ => Reservation
  | .persistEffects _ _ => Except Unreachable (List Sending)
  | .markRelayed _ | .reject _ _ | .abandon _ => Except Unreachable Unit
  | _ => Unit

/-- The messages the sender of a client took, oldest first. -/
def collectedBy (peer : Nat) (history : List (Nat × SignalEvent)) : List Sending :=
  (history.filterMap fun event =>
    match event with
    | (author, .sent sending) => if author = peer then some sending else none
    | _ => none).reverse

/-- The relay intents recorded for a signal last. -/
def intentsOf (signalId : Uuid) :
    List (Nat × SignalEvent) → Option (List Sending)
  | [] => none
  | (_, .recorded recorded intents) :: older =>
    if recorded = signalId then some intents else intentsOf signalId older
  | _ :: older => intentsOf signalId older

/-- The captures of a signal that a task cannot read. -/
def missingCaptures (signalId : Uuid) (state : SignalState) : List String :=
  match state.tables.captures.find? fun row => row.signalId = signalId with
  | none => []
  | some row =>
    (row.captures.map NamedEnvelope.name).filter fun name =>
      (lookup (signalId, name) state.workingSet).isNone

namespace SignalState

variable (peer : Nat)

def note (events : List SignalEvent) (state : SignalState) : SignalState :=
  { state with
    history := events.map (fun event => (peer, event)) ++ state.history }

/-- Write the values of a request to the working set. -/
def writeValues (request : ScopeRequest) (state : SignalState) : SignalState :=
  { state with
    workingSet :=
      (request.values.map fun value =>
        ⟨peer, (request.scopeId, value.1), some value.2⟩).reverse ++ state.workingSet
    scopeClaims := state.scopeClaims ++ [request] }

/-- The creation of a scope, as its transaction decides it. -/
def createScope (request : ScopeRequest) (state : SignalState) :
    Except ScopeFailure ScopeOutcome × SignalState :=
  if ¬(request.values.map Prod.fst).Nodup then (.error .duplicateKey, state)
  else
    match state.scopes.find? fun made => made.claim = request.claim with
    | some made => (.ok (if made = request then .idempotent else .claimConflict), state)
    | none =>
      if state.scopes.any fun made => made.scopeId = request.scopeId then
        (.ok (.collision request.scopeId), state)
      else if state.scopeClaims.any fun made =>
          made.claim = request.claim then
        (.error .constraintViolated, state)
      else
        (.ok .created, { state.writeValues peer request with
            scopes := state.scopes ++ [request] })

/-- The write to a scope, as its transaction decides it. -/
def writeScope (request : ScopeRequest) (state : SignalState) :
    Except ScopeFailure ScopeOutcome × SignalState :=
  if ¬(request.values.map Prod.fst).Nodup then (.error .duplicateKey, state)
  else if state.scopes.all fun made => made.scopeId ≠ request.scopeId then
    (.ok .missing, state)
  else
    match state.scopeClaims.find? fun made => made.claim = request.claim with
    | some made => (.ok (if made = request then .idempotent else .claimConflict), state)
    | none => (.ok .applied, state.writeValues peer request)

/-- A call that may fail before or after it takes effect. -/
def deliver {ε α : Type} (failure : ε) (delivery : Delivery)
    (answered : Except ε α × SignalState) (state : SignalState) :
    Except ε α × SignalState :=
  match delivery with
  | .applied => answered
  | .refused => (.error failure, state)
  | .replyLost => (.error failure, answered.2)

def runQuery (now : Int) (query : Query) (state : SignalState) : SignalState :=
  ({ state with tables := query.effect now state.tables }).note peer (query.events state.tables)

/-- The relay takes a message or does not; it never takes one and says it did
not. -/
def accept (delivery : Delivery) (accepted state : SignalState) :
    Except Unreachable Unit × SignalState :=
  match delivery with
  | .applied => (.ok (), accepted)
  | _ => (.error .unavailable, state)

/-- The entry of a new registration; it is numbered by the history before
it. -/
def register (paths : JsonPaths) (peer : Nat)
    (precondition : GateIndex.Precondition) (state : SignalState) :
    Except String Unit × SignalState :=
  match GateIndex.entryOf paths state.history.length precondition with
  | .error message => (.error message, state)
  | .ok gate =>
    (.ok (), ({ state with gates := state.gates.replace gate }).note peer [.registered gate])

/-- A wakeup takes out whatever gate has the identity of the one it told. -/
def removeGate (gate : Gate) (state : SignalState) : SignalState :=
  ({ state with
      gates := state.gates.unregister gate.workflowInstanceId gate.edgeId }).note peer
    ((state.gates.byGate gate.key).toList.map .removed)

end SignalState

def perform (paths : JsonPaths) (peer : Nat) (op : SignalOp) (turn : Turn)
    (state : SignalState) : op.Reply × SignalState :=
  match op with
  | .clock => (turn.now, state)
  | .deadlinePassed => (turn.elapsed, state)
  | .openCache => SignalState.deliver .unavailable turn.delivery (.ok (), state) state
  | .openBucket => SignalState.deliver .unavailable turn.delivery (.ok (), state) state
  | .cache op =>
    let answered := KeyValue.perform peer op turn.delivery state.cache
    (answered.1, { state with cache := answered.2 })
  | .workingSet op =>
    let answered := KeyValue.perform peer op turn.delivery state.workingSet
    (answered.1, { state with workingSet := answered.2 })
  | .createScope request =>
    SignalState.deliver .unavailable turn.delivery (state.createScope peer request) state
  | .writeScope request =>
    SignalState.deliver .unavailable turn.delivery (state.writeScope peer request) state
  | .sql query =>
    SignalState.deliver .unavailable turn.delivery
      (.ok (query.answer turn.now state.tables), state.runQuery peer turn.now query) state
  | .subscriptions name => (state.subscriptions.filter fun entry => entry.name = name, state)
  | .lookupGates name =>
    (state.gates.lookupBySignalName name,
      state.note peer ((state.gates.lookupBySignalName name).map .lookedUp))
  | .register precondition => state.register paths peer precondition
  | .unregister workflowInstanceId edgeId =>
    ((), { state with
      gates := state.gates.unregister workflowInstanceId edgeId })
  | .removeGate gate => ((), state.removeGate peer gate)
  | .send sending =>
    SignalState.accept turn.delivery (state.note peer [.relayed sending, .sent sending]) state
  | .collect sending => ((), state.note peer [.sent sending])
  | .collected => (collectedBy peer state.history, state)
  | .reserve signalId =>
    (match turn.reservation with
      | .failed => .failed
      | .pending => .pending
      | .complete => .complete
      | .acquired => .acquired
      | .ready =>
        match intentsOf signalId state.history with
        | some intents => .ready intents
        | none => .pending, state)
  | .persistEffects signalId intents =>
    SignalState.deliver .unavailable turn.delivery
      (.ok intents, state.note peer [.recorded signalId intents]) state
  | .forward sending =>
    SignalState.accept turn.delivery (state.note peer [.relayed sending]) state
  | .markRelayed _ | .reject _ _ | .abandon _ =>
    SignalState.deliver .unavailable turn.delivery (.ok (), state) state
  | .complete | .leavePending => ((), state)
  | .respond answer => ((), state.note peer [.answered answer])
  | .warn warning => ((), state.note peer [.warned warning])
  | .receive workflowInstanceId signalId =>
    ((), state.note peer [.received workflowInstanceId signalId])
  | .endRun workflowInstanceId => ((), state.note peer [.terminal workflowInstanceId])
  | .execute workflowInstanceId signalId =>
    ((), state.note peer
      [.executed workflowInstanceId signalId (missingCaptures signalId state)])

def signalSystem (paths : JsonPaths) :
    System SignalState SignalOp Turn SignalOp.Reply where
  perform := perform paths

end Tickr.Signals
