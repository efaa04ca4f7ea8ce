import Tickr.KeyValue
import Tickr.Routing.Split

/-!
# Publishing outputs and draining task events

A task publishes values under keys that all tasks of its run share, and its exit
puts a task event on the durable stream.  The relay reads the declared routing
variables of a completion back and sends the event on.  Writes, the repository
and the relay answer as the schedule says.
-/

namespace Tickr.Routing

open Concurrent KeyValue
open LogStream (Uuid)
open Rust (BTreeMap)

/-- Where a value is stored: the bucket's namespace, then `<owner>/<name>`. -/
structure ScopeKey where
  ns : String
  owner : Uuid
  name : String
  deriving DecidableEq

inductive Producer where
  | task (taskId : Uuid) (taskName : String)
  | signal (signalId : Uuid)
  | system (component : String)

/-- The bytes under a key, as the relay parses them. -/
inductive Stored where
  | envelope (value : Json) (producer : Producer)
  | unreadable

abbrev ScopeLog := Log ScopeKey Stored

inductive EventKind where
  | assigned
  | started
  | completed (routingVariables : BTreeMap String RoutingValue) (selfPatch : Option (Uuid × Uuid))
  | failed
  | delivered
  | unhealthy

structure TaskEvent where
  (taskInstanceId taskId workflowInstanceId : Uuid)
  kind : EventKind

def EventKind.isCompleted : EventKind → Bool
  | .completed _ _ => true
  | _ => false

/-- The kinds that an executor emits; a completion is emitted bare. -/
inductive EmitKind where
  | assigned
  | started
  | completed
  | failed

def EmitKind.kind : EmitKind → EventKind
  | .assigned => .assigned
  | .started => .started
  | .completed => .completed ∅ none
  | .failed => .failed

/-- The scope of the runs, the declared specifications by task, the durable
event stream with the positions completed on it, and what was sent on. -/
structure State where
  scope : ScopeLog
  taskSpecs : List (Uuid × List RoutingVarDecl)
  events : List TaskEvent
  completed : List Nat
  sent : List TaskEvent

namespace State

def empty : State := ⟨[], [], [], [], []⟩

def taskSpecification (state : State) (taskId : Uuid) : Option (List RoutingVarDecl) :=
  (state.taskSpecs.find? fun row => row.1 == taskId).map Prod.snd

/-- The event at a position, unless it was completed. -/
def pending (state : State) (position : Nat) : Option TaskEvent :=
  if position ∈ state.completed then none else state.events[position]?

end State

inductive LogLine where
  | lookupIntegrity
  | splitStageDrop
  | forwardingUnenriched
  | selfPatchUnparsed
  deriving DecidableEq

inductive RelayOp where
  | scope (op : KvOp ScopeKey Stored)
  | registerSpec (taskId : Uuid) (declared : List RoutingVarDecl)
  | taskSpecification (taskId : Uuid)
  | emit (event : TaskEvent)
  | next
  | send (event : TaskEvent)
  | complete (position : Nat)
  | retry (position : Nat)
  | log (line : LogLine)

@[reducible]
def RelayOp.Reply : RelayOp → Type
  | .scope op => op.Reply
  | .registerSpec _ _ => Except Unit Unit
  | .taskSpecification _ => Except String (Option (List RoutingVarDecl))
  | .emit _ => Except Unit Unit
  | .next => Option (Nat × TaskEvent)
  | .send _ => Except Unit Unit
  | .complete _ => Except Unit Unit
  | .retry _ => Except Unit Unit
  | .log _ => Unit

/-- How one call is answered: its delivery, and for a pull the position that
the stream hands out. -/
structure Turn where
  delivery : Delivery
  position : Nat

def KvOp.isRead {κ α : Type} : KvOp κ α → Bool
  | .entry _ => true
  | .keys => true
  | _ => false

/-- A call that changes one part of the state, or is not applied. -/
def change (delivery : Delivery) (state changed : State) : Except Unit Unit × State :=
  match delivery with
  | .applied => (.ok (), changed)
  | .refused => (.error (), state)
  | .replyLost => (.error (), changed)

def perform (peer : Nat) (op : RelayOp) (turn : Turn) (state : State) : op.Reply × State :=
  match op with
  | .scope op =>
    let delivery := if KvOp.isRead op then .applied else turn.delivery
    let answered := KeyValue.perform peer op delivery state.scope
    (answered.1, { state with scope := answered.2 })
  | .registerSpec taskId declared =>
    -- a task id is minted fresh and its row is never replaced
    if (state.taskSpecification taskId).isSome then (.error (), state)
    else change turn.delivery state
      { state with taskSpecs := state.taskSpecs ++ [(taskId, declared)] }
  | .taskSpecification taskId =>
    match turn.delivery with
    | .applied => (.ok (state.taskSpecification taskId), state)
    | _ => (.error "repository unavailable", state)
  | .emit event => change turn.delivery state { state with events := state.events ++ [event] }
  | .next =>
    ((state.pending turn.position).map fun event => (turn.position, event),
      state)
  | .send event =>
    match turn.delivery with
    | .applied => (.ok (), { state with sent := state.sent ++ [event] })
    | _ => (.error (), state)
  | .complete position =>
    change turn.delivery state { state with completed := state.completed ++ [position] }
  | .retry _ => change turn.delivery state state
  | .log _ => ((), state)

def system : System State RelayOp Turn RelayOp.Reply where
  perform := perform

abbrev RelayProgram (ε α : Type) := ExceptT ε (Program RelayOp RelayOp.Reply) α

/-- A call whose reply is inspected by the caller. -/
def ask {ε : Type} (op : RelayOp) : RelayProgram ε op.Reply := Program.request op .ok

/-- The resolved scope of a `tickr-ctx` call. -/
structure Scope where
  ns : String
  (runId taskId : Uuid)
  taskName : String
  outputs : List String

structure ScopeArgs where
  ns : Option String
  (run task : Option Uuid)

/-- The executor's environment, with the command line's overrides. -/
def Scope.resolve (environment : Scope) (args : ScopeArgs) : Scope :=
  { environment with
    ns := args.ns.getD environment.ns
    runId := args.run.getD environment.runId
    taskId := args.task.getD environment.taskId }

def Scope.key (scope : Scope) (name : String) : ScopeKey := ⟨scope.ns, scope.runId, name⟩

/-- The serialized value may have one mebibyte. -/
def maxValueSize : Nat := 1024 * 1024

structure CaptureArgs where
  key : String
  value : Json
  allowUndeclared : Bool
  serializedLength : Nat

inductive CtxCall where
  | capture (scope : ScopeArgs) (args : CaptureArgs)
  | rm (scope : ScopeArgs) (key : String)

def Scope.capture (scope : Scope) (args : CaptureArgs) : RelayProgram Empty Nat :=
  if args.allowUndeclared = false ∧ scope.outputs ≠ [] ∧ args.key ∉ scope.outputs then
    pure 4
  else if maxValueSize < args.serializedLength then
    pure 4
  else do
    match ← ask (.scope (.put (scope.key args.key)
        (.envelope args.value (.task scope.taskId scope.taskName)))) with
    | .ok _ => pure 0
    | .error _ => pure 1

def Scope.rm (scope : Scope) (key : String) : RelayProgram Empty Nat := do
  match ← ask (.scope (.delete (scope.key key))) with
  | .ok _ => pure 0
  | .error _ => pure 1

def CtxCall.run (environment : Scope) : CtxCall → RelayProgram Empty Nat
  | .capture overrides args => (environment.resolve overrides).capture args
  | .rm overrides key => (environment.resolve overrides).rm key

/-- A dispatched task; its instance id is the client that runs it. -/
structure DispatchedTask where
  (taskId workflowInstanceId : Uuid)
  name : String
  outputs : List String

variable (taskInstanceId : Uuid)

def buildTaskEnvironment (ns : String) (task : DispatchedTask) : Scope where
  ns := ns
  runId := task.workflowInstanceId
  taskId := taskInstanceId
  taskName := task.name
  outputs := task.outputs

def taskEvent (task : DispatchedTask) (kind : EmitKind) : TaskEvent where
  taskInstanceId := taskInstanceId
  taskId := task.taskId
  workflowInstanceId := task.workflowInstanceId
  kind := kind.kind

/-- The calls that the process makes, whatever each of them returns. -/
def runProcess (environment : Scope) : List CtxCall → RelayProgram Empty Unit
  | [] => pure ()
  | call :: rest => do
      let _ ← call.run environment
      runProcess environment rest

/-- An executor runs a task and reports what its process did. -/
def runTask (ns : String) (task : DispatchedTask)
    (calls : List CtxCall) (exit : EmitKind) : RelayProgram Empty Unit := do
  let _ ← ask (.emit (taskEvent taskInstanceId task .assigned))
  let _ ← ask (.emit (taskEvent taskInstanceId task .started))
  runProcess (buildTaskEnvironment taskInstanceId ns task) calls
  let _ ← ask (.emit (taskEvent taskInstanceId task exit))
  pure ()

inductive EnrichmentError where
  | lookupIntegrity (taskId : Uuid) (rows : Nat)
  | splitStageDrop (taskId : Uuid) (fault : DroppedDeclared)
  | forwardable (message : String)

def defaultCtxNamespace : String := "default"

def loadDeclaredSpecs (taskId : Uuid) :
    RelayProgram EnrichmentError (List RoutingVarDecl) := do
  match ← ask (.taskSpecification taskId) with
  | .ok (some specs) => pure specs
  | .ok none => throw (.lookupIntegrity taskId 0)
  | .error _ => throw (.forwardable "read declared routing-variable specs for enrichment")

def addOutput (taskInstanceId : Uuid) (name : String) (bag : BTreeMap String Json) :
    Except KvError (Option (Entry Stored)) → BTreeMap String Json
  | .ok (some ⟨_, some (.envelope value (.task producer _))⟩) =>
    if producer = taskInstanceId then bag.insert name value else bag
  | _ => bag

def collectOutputs (taskInstanceId : Uuid) :
    List ScopeKey → BTreeMap String Json → RelayProgram EnrichmentError (BTreeMap String Json)
  | [], bag => pure bag
  | key :: rest, bag => do
      let read ← ask (.scope (.entry key))
      collectOutputs taskInstanceId rest (addOutput taskInstanceId key.name bag read)

/-- Only the bucket of the default namespace is opened. -/
def readEmittedOutputs (runId taskInstanceId : Uuid) :
    RelayProgram EnrichmentError (BTreeMap String Json) := do
  match ← ask (.scope .keys) with
  | .error _ => throw (.forwardable "list ctx-scope KV keys")
  | .ok keys =>
    collectOutputs taskInstanceId (keys.filter fun key =>
        key.ns == defaultCtxNamespace && key.owner == runId) ∅

def enrichCompletedTaskEvent (event : TaskEvent) : RelayProgram EnrichmentError TaskEvent :=
  match event.kind with
  | .completed _ selfPatch => do
      let declared ← loadDeclaredSpecs event.taskId
      if declared = [] then pure event
      else do
        let emitted ← readEmittedOutputs event.workflowInstanceId event.taskInstanceId
        match stampRoutingVariables declared emitted with
        | .ok stamped => pure { event with kind := .completed stamped selfPatch }
        | .error fault => throw (.splitStageDrop event.taskId fault)
  | _ => pure event

def readSelfPatchOutput (runId taskInstanceId : Uuid) :
    RelayProgram Empty (Option Json) := do
  match ← ask (.scope (.entry ⟨defaultCtxNamespace, runId, "tickr_patch"⟩)) with
  | .ok (some ⟨_, some (.envelope value (.task producer _))⟩) =>
    pure (if producer = taskInstanceId then some value else none)
  | _ => pure none

inductive Projection where
  | forward (event : TaskEvent)
  | retry

variable (parses : Json → Bool)

/-- Mark a completion whose process left a patch document; what counts as a
document is a parameter. -/
def markSelfPatch (event : TaskEvent) : RelayProgram Empty TaskEvent :=
  match event.kind with
  | .completed stamped _ => do
      match ← readSelfPatchOutput event.workflowInstanceId event.taskInstanceId with
      | some document =>
        if parses document then
          pure { event with
            kind := .completed stamped (some (event.workflowInstanceId, event.taskId)) }
        else do
          let _ ← ask (.log .selfPatchUnparsed)
          pure event
      | none => pure event
  | _ => pure event

def project (event : TaskEvent) :
    RelayProgram Empty Projection := do
  match ← Program.attempt (enrichCompletedTaskEvent event) with
  | .ok enriched => do
      let marked ← markSelfPatch parses enriched
      pure (.forward marked)
  | .error (.lookupIntegrity _ _) => do
      let _ ← ask (.log .lookupIntegrity)
      pure .retry
  | .error (.splitStageDrop _ _) => do
      let _ ← ask (.log .splitStageDrop)
      pure (.forward { event with kind := .failed })
  | .error (.forwardable _) => do
      let _ ← ask (.log .forwardingUnenriched)
      let marked ← markSelfPatch parses event
      pure (.forward marked)

/-- One delivery: whether the loop goes on to the next one. -/
def drainDelivery (position : Nat) (event : TaskEvent) : RelayProgram Empty Bool := do
  match ← project parses event with
  | .retry => do
      let _ ← ask (.retry position)
      pure true
  | .forward event => do
      match ← ask (.send event) with
      | .ok _ => do
          let _ ← ask (.complete position)
          pure true
      | .error _ => do
          let _ ← ask (.retry position)
          pure false

/-- The drain loop, for a number of pulls. -/
def drainTaskEventSource (parses : Json → Bool) :
    Nat → RelayProgram Empty Unit
  | 0 => pure ()
  | pulls + 1 => do
      match ← ask .next with
      | none => drainTaskEventSource parses pulls
      | some (position, event) => do
          let goesOn ← drainDelivery parses position event
          if goesOn then drainTaskEventSource parses pulls else pure ()

/-- What one client does: it runs a task, drains events, registers a task's
specification, or writes a key of the bucket as any other component may. -/
inductive Command where
  | task (ns : String) (dispatched : DispatchedTask) (calls : List CtxCall) (exit : EmitKind)
  | drain (pulls : Nat)
  | register (taskId : Uuid) (declared : List RoutingVarDecl)
  | write (key : ScopeKey) (value : Option Stored)

def Command.program (parses : Json → Bool) (peer : Nat) :
    Command → RelayProgram Empty Unit
  | .task ns dispatched calls exit => runTask peer ns dispatched calls exit
  | .drain pulls => drainTaskEventSource parses pulls
  | .register taskId declared => do
      let _ ← ask (.registerSpec taskId declared)
      pure ()
  | .write key (some value) => do
      let _ ← ask (.scope (.put key value))
      pure ()
  | .write key none => do
      let _ ← ask (.scope (.delete key))
      pure ()

abbrev RelayWorld := World State RelayOp RelayOp.Reply (Except Empty Unit)

def start (parses : Json → Bool) (jobs : Nat → Command) : RelayWorld where
  state := .empty
  clients := fun peer => ((jobs peer).program parses peer).run

end Tickr.Routing
