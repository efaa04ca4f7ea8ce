import Tickr.Embedding
import Tickr.LocalScope.Runs
import Tickr.Signals.Commands

/-!
# How a run on one machine gets its trigger captures

A trigger archives what it captured, and the launch of a task copies the archive
row of its originating signal to the scope of the run.  What follows the seeding
in a launch is one step that the schedule lets succeed or fail.
-/

namespace Tickr.LiteCaptures

open LogStream (Uuid Bytes)
open KeyValue (Delivery)
open Concurrent
open Signals
open LocalScope (ScopeStore ScopeValue ScopeCodec ClaimId ScopeError
  CreationOutcome WriteOutcome DeleteOutcome SnapshotOutcome CleanupOutcome
  defaultCtxNamespace replayNamespace)

structure UuidText where
  text : Uuid → String
  injective : Function.Injective text
  noSlash : ∀ id, '/' ∉ (text id).toList

/-- What Tickr Lite takes from libraries and its configuration.  Signal ids
and run ids are drawn apart from each other; `isSignalId` tells which are
signal ids. -/
structure Lite where
  paths : JsonPaths
  derivedRunId : Uuid → Int → Uuid
  codec : ScopeCodec
  contextNamespace : String
  uuid : UuidText
  encode : Envelope → Bytes
  isSignalId : Uuid → Bool

/-- The signal pipelines without a working set. -/
def Lite.deployment (lite : Lite) : Deployment :=
  { paths := lite.paths
    derivedRunId := lite.derivedRunId
    http := .absent
    ingress := .absent }

variable (lite : Lite)

/-- `Scope::key`: a task's own values are under its run. -/
def Lite.runKey (run : Uuid) (name : String) : String := lite.uuid.text run ++ "/" ++ name

/-- `Scope::signal_key`: captures are under their signal. -/
def Lite.signalKey (signal : Uuid) (name : String) : String := lite.uuid.text signal ++ "/" ++ name

/-- What a launch writes for the captures of a signal. -/
def Lite.seedValues (signal : Uuid) (captures : List NamedEnvelope) : List ScopeValue :=
  captures.map fun capture =>
    ⟨lite.signalKey signal (sanitizeSegment capture.name), lite.encode capture.envelope⟩

/-- A call that did not get through, or was refused by the store. -/
inductive CallFault where
  | unavailable
  | store (error : ScopeError)

inductive LaunchFault where
  | createError (fault : CallFault)
  | createRefused (outcome : CreationOutcome)
  | readCaptures
  | capturesAbsent (signal : Uuid)
  | seedError (fault : CallFault)
  | seedRefused (outcome : WriteOutcome)
  | spawnFailed

inductive LaunchEvent where
  /-- The relay took the Trigger of a replay. -/
  | replayed (signal workflowId : Uuid)
  /-- A task came in; these messages had been relayed. -/
  | dispatched (run : Uuid) (signal : Option Uuid) (relayed : List Sending)
  /-- A launch failed because its signal has no archive row. -/
  | capturesAbsent (signal : Uuid)
  /-- The process of a task started, with these values in its scope. -/
  | started (run scope : Uuid) (signal : Option Uuid) (values : List ScopeValue)
  | cleaned (scope : Uuid)
  deriving DecidableEq

structure LiteState where
  signals : SignalState
  scopes : ScopeStore
  history : List (Nat × LaunchEvent)

def relayedOf (history : List (Nat × SignalEvent)) : List Sending :=
  history.filterMap fun event =>
    match event.2 with
    | .relayed sending => some sending
    | _ => none

def manualSignal (sending : Sending) : Option Uuid :=
  match sending.item with
  | .signal ⟨signalId, _, .trigger _ _ .manual _⟩ => some signalId
  | _ => none

inductive LiteOp where
  | signal (op : SignalOp)
  | sendReplay (signal workflowId : Uuid)
  | arrive (run : Uuid) (signal : Option Uuid)
  | createScope (contextNamespace : String) (run : Uuid) (claim : ClaimId)
      (values : List ScopeValue)
  | writeScope (scope : Uuid) (claim : ClaimId) (values : List ScopeValue)
  | deleteValue (scope : Uuid) (claim : ClaimId) (key : String)
  | readScope (scope : Uuid)
  | snapshotRun (run : Uuid)
  | cleanup (scope : Uuid)
  | reportAbsent (signal : Uuid)
  | start (run scope : Uuid) (signal : Option Uuid)

@[reducible]
def LiteOp.Reply : LiteOp → Type
  | .signal op => op.Reply
  | .sendReplay _ _ => Except Unreachable Unit
  | .arrive _ _ => Unit
  | .createScope _ _ _ _ => Except CallFault CreationOutcome
  | .writeScope _ _ _ => Except CallFault WriteOutcome
  | .deleteValue _ _ _ => Except CallFault DeleteOutcome
  | .readScope _ => Except CallFault LocalScope.ReadOutcome
  | .snapshotRun _ => Except CallFault SnapshotOutcome
  | .cleanup _ => Except CallFault CleanupOutcome
  | .reportAbsent _ => Unit
  | .start _ _ _ => Except Unreachable Unit

namespace LiteState

def note (peer : Nat) (events : List LaunchEvent) (state : LiteState) : LiteState :=
  { state with
    history := events.map (fun event => (peer, event)) ++ state.history }

/-- A transaction of the scope repository, which may fail before or after it
takes effect. -/
def transact {α : Type} (delivery : Delivery)
    (answered : ScopeStore.Transacted α) (state : LiteState) :
    Except CallFault α × LiteState :=
  match delivery with
  | .applied => (answered.1.mapError .store, { state with scopes := answered.2 })
  | .refused => (.error .unavailable, state)
  | .replyLost => (.error .unavailable, { state with scopes := answered.2 })

/-- The relay or the process takes what it is given, or does not. -/
def accept (delivery : Delivery) (accepted state : LiteState) :
    Except Unreachable Unit × LiteState :=
  match delivery with
  | .applied => (.ok (), accepted)
  | _ => (.error .unavailable, state)

/-- What a cleanup leaves in the history. -/
def cleanedEvents (scope : Uuid) :
    Except ScopeError CleanupOutcome → List LaunchEvent
  | .ok .cleaned => [.cleaned scope]
  | _ => []

end LiteState

variable (lite : Lite)

def perform (peer : Nat) (op : LiteOp) (turn : Turn) (state : LiteState) : op.Reply × LiteState :=
  match op with
  | .signal op =>
    let answered := Signals.perform lite.paths peer op turn state.signals
    (answered.1, { state with signals := answered.2 })
  | .sendReplay signal workflowId =>
    LiteState.accept turn.delivery (state.note peer [.replayed signal workflowId]) state
  | .arrive run signal =>
    ((), state.note peer
      [.dispatched run signal (relayedOf state.signals.history)])
  | .createScope contextNamespace run claim values =>
    LiteState.transact turn.delivery
      (state.scopes.createTickrCtxScope lite.codec
        ⟨run, contextNamespace, run, claim, values, turn.now⟩) state
  | .writeScope scope claim values =>
    LiteState.transact turn.delivery
      (state.scopes.writeTickrCtxScope lite.codec scope claim values turn.now) state
  | .deleteValue scope claim key =>
    LiteState.transact turn.delivery
      (state.scopes.deleteTickrCtxScopeValue scope claim key turn.now) state
  | .readScope scope =>
    LiteState.transact turn.delivery
      (state.scopes.readTickrCtxScope lite.codec scope turn.now) state
  | .snapshotRun run =>
    LiteState.transact turn.delivery
      (state.scopes.snapshotTickrCtxScopeForRun lite.codec defaultCtxNamespace run turn.now) state
  | .cleanup scope =>
    let answered := state.scopes.cleanupTickrCtxScope lite.codec scope
    LiteState.transact turn.delivery answered
      (if turn.delivery = .refused then state
        else state.note peer (LiteState.cleanedEvents scope answered.1))
  | .reportAbsent signal => ((), state.note peer [.capturesAbsent signal])
  | .start run scope signal =>
    LiteState.accept turn.delivery
      (state.note peer [.started run scope signal (state.scopes.scopeValues scope)]) state

def liteSystem : System LiteState LiteOp Turn LiteOp.Reply where
  perform := perform lite

abbrev LiteM (ε α : Type) := ExceptT ε (Program LiteOp LiteOp.Reply) α

/-- A command of the signal pipelines. -/
def lift {ε α : Type} (program : SignalM ε α) : LiteM ε α :=
  Program.embedExcept LiteOp.signal (fun _ reply => reply) program

def tell {ε : Type} (op : LiteOp) : LiteM ε op.Reply := Program.request op .ok

variable (lite : Lite) (run : Uuid)

def grantedScope : CreationOutcome → Except LaunchFault Uuid
  | .created | .idempotent => .ok run
  | .collision existing => .ok existing
  | outcome => .error (.createRefused outcome)

def writtenSeed : WriteOutcome → Except LaunchFault Unit
  | .applied _ _ | .idempotent => .ok ()
  | outcome => .error (.seedRefused outcome)

def seedRow (scope signal : Uuid) (row : CapturesRow) : LiteM LaunchFault Unit :=
  if row.captures.isEmpty then pure ()
  else
    Program.request
      (.writeScope scope (.seed scope signal) (lite.seedValues signal row.captures)) fun reply =>
          (reply.mapError .seedError).bind writtenSeed

def seedTriggerCaptures (scope : Uuid) (signal : Option Uuid) : LiteM LaunchFault Unit :=
  match signal with
  | none => pure ()
  | some signal => do
      let found ← lift (query .readCaptures (.signalCaptures signal))
      match found with
      | none => do
          tell (.reportAbsent signal)
          throw (.capturesAbsent signal)
      | some row => seedRow lite scope signal row

def spawnClaimed (signal : Option Uuid) :
    LiteM LaunchFault Unit := do
  let scope ← Program.request
    (.createScope lite.contextNamespace run (.taskScope run) []) fun reply =>
      (reply.mapError .createError).bind (grantedScope run)
  seedTriggerCaptures lite scope signal
  Program.request (.start run scope signal) fun reply =>
    reply.mapError fun _ => .spawnFailed

/-- The relay links a task that comes in to its run; a failure is logged, and
the task goes on. -/
def linkTask : Option Uuid → LiteM String Unit
  | none => pure ()
  | some signal => do
      let _ ← Program.attempt (lift (query () (.linkCaptures signal run)))
      pure ()

/-- A task comes in and is launched. -/
def launch (signal : Option Uuid) : LiteM String CommandEnd := do
  tell (.arrive run signal)
  linkTask run signal
  let _ ← Program.attempt (spawnClaimed lite run signal)
  pure .handled

/-- The scope part of staging a compaction. -/
def stage : LiteM String CommandEnd := do
  let _ ← tell (.createScope defaultCtxNamespace run (.taskScope run) [])
  pure .handled

def snapshotScope : Except CallFault SnapshotOutcome → Option Uuid
  | .ok (.committed snapshot) | .ok (.idempotent snapshot) => some snapshot.scopeId
  | _ => none

/-- The scope part of draining a compaction. -/
def drain : LiteM String CommandEnd := do
  let outcome ← tell (.snapshotRun run)
  match snapshotScope outcome with
  | none => pure .handled
  | some scope => do
      let _ ← tell (.cleanup scope)
      pure .handled

inductive LiteCommand where
  | trigger (request : HttpTrigger) (fresh : Uuid)
  | wakeup (request : WakeupRequest) (fresh : Uuid)
  | cancel (request : CancelRequest) (fresh : Uuid) (reads : Nat)
  | dispatchPrecondition (precondition : GateIndex.Precondition)
  | cancelPrecondition (workflowInstanceId edgeId : Uuid)
  | signalApplied (signalId : Uuid) (matchedCount : Nat)
  | replay (signal workflowId : Uuid)
  | rehydrate (run : Uuid) (plan : List ScopeValue)
  | launch (run : Uuid) (signal : Option Uuid)
  /-- A task sets a value of its run, in the scope it was granted. -/
  | set (scope run : Uuid) (nonce : Nat) (name : String) (envelope : Bytes)
  | unset (scope run : Uuid) (nonce : Nat) (name : String)
  | get (scope : Uuid)
  | stage (run : Uuid)
  | drain (run : Uuid)
  | idle

def LiteCommand.program : LiteCommand → LiteM String CommandEnd
  | .trigger request fresh => lift (dispatchTrigger lite.deployment request fresh)
  | .wakeup request fresh => lift (dispatchWakeup lite.deployment request fresh)
  | .cancel request fresh reads => lift (dispatchCancel lite.deployment request fresh reads)
  | .dispatchPrecondition precondition =>
    lift ((Command.dispatchPrecondition precondition).program lite.deployment)
  | .cancelPrecondition workflowInstanceId edgeId =>
    lift ((Command.cancelPrecondition workflowInstanceId edgeId).program lite.deployment)
  | .signalApplied signalId matchedCount =>
    lift ((Command.signalApplied signalId matchedCount).program lite.deployment)
  | .replay signal workflowId => do
      let _ ← tell (.sendReplay signal workflowId)
      pure .handled
  | .rehydrate run plan => do
      let _ ← tell (.createScope replayNamespace run (.rehydration run) plan)
      pure .handled
  | .launch run signal => LiteCaptures.launch lite run signal
  | .set scope run nonce name envelope => do
      let _ ← tell (.writeScope scope (.request scope nonce) [⟨lite.runKey run name, envelope⟩])
      pure .handled
  | .unset scope run nonce name => do
      let _ ← tell (.deleteValue scope (.request scope nonce) (lite.runKey run name))
      pure .handled
  | .get scope => do
      let _ ← tell (.readScope scope)
      pure .handled
  | .stage run => LiteCaptures.stage run
  | .drain run => LiteCaptures.drain run
  | .idle => pure .handled

abbrev LiteWorld := World LiteState LiteOp LiteOp.Reply (Except String CommandEnd)

def start (jobs : Nat → LiteCommand) (state : LiteState) : LiteWorld where
  state := state
  clients := fun peer => ((jobs peer).program lite).run

end Tickr.LiteCaptures
