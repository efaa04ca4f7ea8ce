import Tickr.Signals.State

/-!
# The commands

What the conductor does with an HTTP trigger, cancellation or wakeup, a delivered
event, a dispatched gate, and a run that starts or ends.  An identity that the
code draws at random comes with its command.
-/

namespace Tickr.Signals

open LogStream (Uuid)
open KeyValue Concurrent
open Program (check attempt mapError)

abbrev SignalM (ε α : Type) := ExceptT ε (Program SignalOp SignalOp.Reply) α

/-- Where captures are written for tasks to read. -/
inductive WorkingSet where
  | nats
  | scopeStore
  | absent
  deriving DecidableEq

/-- The libraries, and the working sets of HTTP commands and of the event
ingress. -/
structure Deployment where
  paths : JsonPaths
  derivedRunId : Uuid → Int → Uuid
  (http ingress : WorkingSet)

section Calls

variable {ε : Type}

def ask (op : SignalOp) : SignalM ε op.Reply := Program.request op .ok

def query (failure : ε) (statement : Query) : SignalM ε statement.Result :=
  Program.request (.sql statement) fun reply =>
    reply.mapError fun _ => failure

end Calls

inductive CacheOutcome where
  | fresh
  | deduplicatedSameHash (originalSignalId : Uuid)
  | conflictDifferentHash (originalSignalId : Uuid) (originalHash : Digest)

def cachedRow (key : String) : SignalM String CacheRow :=
  Program.request (.cache (.entry key)) fun reply =>
    match reply with
    | .error _ => .error "nats kv get on idempotency cache failed"
    | .ok found =>
      match found.bind Entry.value with
      | some row => .ok row
      | none => .error "idempotency cache row gone between create and read; retry"

/-- Claim the key; when that fails, for whatever reason, the row that is there
decides. -/
def checkOrInsert (key : String) (freshSignalId : Uuid)
    (inputSha256 : Digest) : SignalM String CacheOutcome := do
  let created ← attempt
    (Program.request (.cache (.create key ⟨freshSignalId, inputSha256⟩)) id : SignalM KvError Nat)
  match created with
  | .ok _ => pure .fresh
  | .error _ => do
      let cached ← cachedRow key
      pure (if cached.inputSha256 = inputSha256
        then .deduplicatedSameHash cached.signalId
        else .conflictDifferentHash cached.signalId cached.inputSha256)

/-- The cache is consulted for a keyed command that is not reserved already,
where there is a cache. -/
def consultCache (workingSet : WorkingSet) (reserved : Bool)
    (idempotencyKey : Option String) (freshSignalId : Uuid)
    (inputSha256 : Digest) : SignalM String CacheOutcome :=
  match reserved, workingSet, idempotencyKey with
  | false, .nats, some key => do
      Program.request .openCache fun reply =>
        reply.mapError fun _ => "failed to create idempotency KV bucket"
      checkOrInsert key freshSignalId inputSha256
  | _, _, _ => pure .fresh

def sanitizeSegment (text : String) : String :=
  text.map fun c =>
    if c.isAlphanum || c = '_' || c = '=' || c = '.' || c = '-' then c else '_'

def putCaptures (signalId : Uuid) :
    List NamedEnvelope → SignalM String Unit
  | [] => pure ()
  | capture :: rest => do
      let _ ← (Program.request (.workingSet (.put (signalId, capture.name) capture.envelope))
        (fun reply => reply.mapError fun _ => "nats kv put failed") :
        SignalM String Nat)
      putCaptures signalId rest

def writeCapturesToNats (signalId : Uuid) (captures : List NamedEnvelope) : SignalM String Unit :=
  if captures.isEmpty then pure ()
  else do
    Program.request .openBucket fun reply =>
      reply.mapError fun _ => "create ctx bucket"
    putCaptures signalId captures

def scopeRequest (scopeId operationOwner : Uuid) (captures : List NamedEnvelope) : ScopeRequest :=
  let values := (captures.map fun capture =>
    (sanitizeSegment capture.name, capture.envelope)).insertionSort
      fun left right => left.1 ≤ right.1
  ⟨scopeId, ⟨operationOwner, values.map Prod.fst⟩, values⟩

def writeToScope (request : ScopeRequest) : SignalM String Unit := do
  let outcome ← Program.request (.writeScope request) fun reply =>
    reply.mapError fun _ => "write Event-variable captures"
  if outcome = .applied ∨ outcome = .idempotent then pure ()
  else throw "write Event-variable captures"

/-- Write the captures to a scope of their own, or to the one that an earlier
consumer of the signal created. -/
def writeEventCaptures (scopeId operationOwner : Uuid)
    (captures : List NamedEnvelope) : SignalM String Unit :=
  if captures.isEmpty then pure ()
  else do
    let outcome ← Program.request (.createScope (scopeRequest scopeId operationOwner captures))
      fun reply => reply.mapError fun _ =>
        "create Event-variable capture scope"
    if outcome = .created ∨ outcome = .idempotent then pure ()
    else if outcome = .collision scopeId then
      writeToScope (scopeRequest scopeId operationOwner captures)
    else throw "create Event-variable capture scope"

def writeCaptures (workingSet : WorkingSet) (signalId operationOwner : Uuid)
    (captures : List NamedEnvelope) : SignalM String Unit :=
  match workingSet with
  | .nats => writeCapturesToNats signalId captures
  | .scopeStore => writeEventCaptures signalId operationOwner captures
  | .absent => pure ()

def captureKey (workingSet : WorkingSet) (signalId : Uuid) (name : String) : CaptureKey :=
  match workingSet with
  | .scopeStore => (signalId, sanitizeSegment name)
  | _ => (signalId, name)

/-- What the receiver of a signal is to find in the working set. -/
def expected (paths : JsonPaths) (workingSet : WorkingSet) (signalId : Uuid)
    (payload : Json) (declarations : List CaptureDeclaration) :
    List (CaptureKey × Content) :=
  (demands paths payload declarations).map fun demand =>
    (captureKey workingSet signalId demand.1, demand.2)

section Triggers

structure TriggerRequest where
  workflowId : Uuid
  scheduledAt : Option Int
  inputs : Option Json
  idempotencyKey : Option String
  source : SignalSource
  hashPayload : Json
  name : Option String

inductive TriggerOutcome where
  | fresh (sending : Sending)
  | deduplicated (originalSignalId : Uuid)
  | conflict (originalSignalId : Uuid) (originalHash yourHash : Digest)

inductive TriggerError where
  | workflowNotFound
  | inputsProvidedButNoCaptures
  | capturesExtractionFailed (error : ExtractionError)
  | workflowLookup
  | idempotency (message : String)
  | repositoryWrite
  | natsWrite (message : String)
  | scopeWrite (message : String)

def TriggerError.isPermanentIngressRejection : TriggerError → Bool
  | .workflowNotFound | .inputsProvidedButNoCaptures
  | .capturesExtractionFailed _ => true
  | _ => false

/-- The signal of a trigger, as it goes on the wire. -/
def TriggerRequest.signal (request : TriggerRequest) (signalId : Uuid) : Signal :=
  { signalId
    idempotencyKey := request.idempotencyKey
    variant := .trigger request.workflowId request.scheduledAt (match request.source with
        | .externalNats subject => .external subject
        -- A wakeup is no source of a trigger request; it falls back to manual.
        | .manual | .wakeup _ => .manual)
      request.name }

def TriggerRequest.payload (request : TriggerRequest) : Json := request.inputs.getD (.object [])

variable (setup : Deployment)

/-- Link a trigger for a later time to the run it will start; a failure is
left to the link made when the run starts. -/
def backfillPendingScheduleLinkage (request : TriggerRequest)
    (signalId : Uuid) : SignalM TriggerError Unit :=
  match request.scheduledAt with
  | none => pure ()
  | some scheduledAt => do
      let linked ← attempt (query ()
        (.linkCaptures signalId (setup.derivedRunId request.workflowId scheduledAt)))
      match linked with
      | .ok _ => pure ()
      | .error _ => ask (.warn .scheduleLinkage)

variable (workingSet : WorkingSet)

/-- The effects of a trigger that is not a duplicate: archive, then working
set. -/
def persistTrigger (request : TriggerRequest) (definition : LiveDefinition) (signalId : Uuid) :
    SignalM TriggerError TriggerOutcome := do
  let now ← ask .clock
  let extracted ← check
    ((extractCaptures setup.paths request.payload signalId request.source
      now definition.captures).mapError .capturesExtractionFailed)
  let _ ← query .repositoryWrite
    (.insertCaptures signalId request.workflowId (some definition.version) extracted)
  backfillPendingScheduleLinkage setup request signalId
  mapError (if workingSet = .nats then .natsWrite else .scopeWrite)
    (writeCaptures workingSet signalId signalId extracted)
  pure (.fresh ⟨.signal (request.signal signalId), none,
    expected setup.paths workingSet signalId request.payload definition.captures⟩)

/-- A trigger whose workflow is known. -/
def processTriggerOf (request : TriggerRequest)
    (definition : LiveDefinition) (reserved : Option Uuid) (fresh : Uuid) :
    SignalM TriggerError TriggerOutcome := do
  let hash : Digest := ⟨request.hashPayload⟩
  let outcome ← mapError .idempotency
    (consultCache workingSet reserved.isSome request.idempotencyKey fresh hash)
  match outcome with
  | .deduplicatedSameHash original => pure (.deduplicated original)
  | .conflictDifferentHash original originalHash => pure (.conflict original originalHash hash)
  | .fresh => persistTrigger setup workingSet request definition (reserved.getD fresh)

def processTrigger (request : TriggerRequest) (reserved : Option Uuid) (fresh : Uuid) :
    SignalM TriggerError TriggerOutcome := do
  let found ← query .workflowLookup (.liveDefinition request.workflowId)
  match found with
  | none => throw .workflowNotFound
  | some definition =>
    if request.inputs.isSome ∧ definition.captures = [] then
      throw .inputsProvidedButNoCaptures
    else
      processTriggerOf setup workingSet request definition reserved fresh

end Triggers

section Cancellations

structure CancelRequest where
  target : CancelTarget
  (note idempotencyKey : Option String)

inductive CancelError where
  | idempotencyCheck (message : String)
  | durableSignalState
  | relayUnreachable
  | byTagTimeout (signalId : Uuid)

def noteJson (note : Option String) : Json := note.elim .null .string

variable (request : CancelRequest)

def CancelRequest.hash : Digest :=
  ⟨.object [("note", noteJson request.note), ("target", request.target.json)]⟩

def CancelRequest.sending (signalId : Uuid) : Sending :=
  ⟨.signal ⟨signalId, request.idempotencyKey, .cancel request.target request.note⟩, none, []⟩

def stagePending (signalId : Uuid) :
    SignalM CancelError Unit := do
  let inserted ← query .durableSignalState
    (.insertCancel ⟨signalId, pendingSignalCancelAppliedCount, request.target.json, request.note⟩)
  if inserted then pure () else throw .durableSignalState

/-- The count the server reported for a cancellation by tag, once it has. -/
def materializedCount (signalId : Uuid) : SignalM CancelError (Option Nat) :=
  do
    let found ← query .durableSignalState (.signalCancel signalId)
    match found with
    | none => pure none
    | some row =>
      if row.appliedCount = pendingSignalCancelAppliedCount then pure none
      else if row.appliedCount < 0 then throw .durableSignalState
      else pure (some row.appliedCount.toNat)

/-- Read the count until it is there or the deadline has passed; that many
reads fit before it. -/
def awaitByTagMaterialization (signalId : Uuid) :
    Nat → SignalM CancelError Nat
  | 0 => throw (.byTagTimeout signalId)
  | reads + 1 => do
      let found ← materializedCount signalId
      match found with
      | some count => pure count
      | none => do
          let elapsed ← ask .deadlinePassed
          if elapsed then throw (.byTagTimeout signalId)
          else awaitByTagMaterialization signalId reads

def sendCancel (signalId : Uuid) : SignalM CancelError Unit :=
  Program.request (.send (request.sending signalId)) fun reply =>
    reply.mapError fun _ => .relayUnreachable

def processPreparedCancel (signalId : Uuid) (reads : Nat) : SignalM CancelError Answer :=
  match request.target with
  | .byTag _ => do
      stagePending request signalId
      sendCancel request signalId
      let matched ← awaitByTagMaterialization signalId reads
      pure (.cancelledByTag signalId matched)
  | .workflowInstance _ _ => do
      sendCancel request signalId
      let audited ← attempt (query ()
        (.insertCancel ⟨signalId, 1, request.target.json, request.note⟩))
      match audited with
      | .ok _ => pure (.cancelledInstance signalId)
      | .error _ => do
          ask (.warn .cancelAudit)
          pure (.cancelledInstance signalId)

def processCancel (workingSet : WorkingSet) (request : CancelRequest)
    (fresh : Uuid) (reads : Nat) : SignalM CancelError Answer := do
  let outcome ← mapError .idempotencyCheck
    (consultCache workingSet false request.idempotencyKey fresh request.hash)
  match outcome with
  | .deduplicatedSameHash original => pure (.deduplicated original)
  | .conflictDifferentHash original originalHash =>
    pure (.conflict original originalHash request.hash)
  | .fresh => processPreparedCancel request fresh reads

end Cancellations

structure WakeupRequest where
  name : String
  payload : Option Json
  idempotencyKey : Option String

def WakeupRequest.body (request : WakeupRequest) : Json := request.payload.getD (.object [])

def WakeupRequest.hash (request : WakeupRequest) : Digest :=
  ⟨.object [("name", .string request.name), ("payload", request.body)]⟩

/-- One wakeup being translated. -/
structure FanOut where
  paths : JsonPaths
  workingSet : WorkingSet
  reserved : Bool
  signalId : Uuid
  name : String
  payload : Json

namespace FanOut

variable (fan : FanOut)

def trigger (entry : Subscription) : Sending :=
  ⟨.signal ⟨fan.signalId, none, .trigger entry.workflowId none (.wakeup fan.name) none⟩, none,
    expected fan.paths fan.workingSet fan.signalId fan.payload entry.mergedCaptures⟩

variable (gate : Gate)

def outcome : Sending :=
  ⟨.gateOutcome ⟨gate.workflowInstanceId, gate.edgeId, fan.signalId⟩, some gate.registration,
    expected fan.paths fan.workingSet fan.signalId fan.payload gate.capturesSpec⟩

/-- A direct wakeup sends over the relay; the sender of a delivered one keeps
the message. -/
def send (sending : Sending) : SignalM String Unit :=
  if fan.reserved then ask (.collect sending)
  else Program.request (.send sending) fun reply =>
    reply.mapError fun _ => "relay send failed"

/-- A failure ends a delivered wakeup; a direct one logs it and goes on. -/
def passOver (warning : Warning) (context : String) : SignalM String Unit :=
  if fan.reserved then throw context else ask (.warn warning)

def extract (declarations : List CaptureDeclaration) :
    SignalM String (List NamedEnvelope) := do
  let now ← ask .clock
  check
    ((extractCaptures fan.paths fan.payload fan.signalId (.wakeup fan.name)
      now declarations).mapError ExtractionError.message)

variable (entry : Subscription)

/-- The archive row of a signal is written for its first subscriber only; the
working set for each. -/
def archiveCaptures (extracted : List NamedEnvelope) : SignalM String Unit :=
  if extracted.isEmpty then pure ()
  else do
    let _ ← query "insert Trigger-derived Event variables"
      (.insertCaptures fan.signalId entry.workflowId none extracted)
    writeCaptures fan.workingSet fan.signalId entry.workflowId extracted

def persistSubscriberCaptures : SignalM String Unit :=
  if fan.workingSet = .absent then pure ()
  else do
    let extracted ← fan.extract entry.mergedCaptures
    fan.archiveCaptures entry extracted

def writeGateCaptures : SignalM String Unit :=
  if fan.workingSet = .absent then pure ()
  else do
    let extracted ← fan.extract gate.capturesSpec
    if extracted.isEmpty then pure ()
    else writeCaptures fan.workingSet fan.signalId gate.edgeId extracted

def sendTrigger : SignalM String Nat := do
  let sent ← attempt (fan.send (fan.trigger entry))
  match sent with
  | .ok _ => pure 1
  | .error _ => do
      fan.passOver (.sendSignal entry.workflowId) "persist reserved wakeup Signal intent"
      pure 0

def fanOutSubscriber : SignalM String Nat :=
  if predicateMatches fan.paths entry.predicate fan.payload then do
    let persisted ← attempt (fan.persistSubscriberCaptures entry)
    match persisted with
    | .ok _ => fan.sendTrigger entry
    | .error _ => do
        fan.passOver (.persistCaptures entry.workflowId)
          "persist reserved wakeup subscriber captures"
        fan.sendTrigger entry
  else pure 0

def fanOutSubscribers : List Subscription → SignalM String Nat
  | [] => pure 0
  | entry :: rest => do
      let matched ← fan.fanOutSubscriber entry
      let others ← fanOutSubscribers rest
      pure (matched + others)

/-- The gate leaves the index once its outcome is sent. -/
def sendOutcome : SignalM String Nat := do
  let sent ← attempt (fan.send (fan.outcome gate))
  match sent with
  | .ok _ => do
      ask (.removeGate gate)
      pure 1
  | .error _ => do
      fan.passOver (.sendGateOutcome gate.key) "persist reserved wakeup GateOutcome intent"
      pure 0

def fanOutGate : SignalM String Nat :=
  if predicateMatches fan.paths gate.predicate fan.payload then do
    let persisted ← attempt (fan.writeGateCaptures gate)
    match persisted with
    | .ok _ => fan.sendOutcome gate
    | .error _ => do
        fan.passOver (.persistGateCaptures gate.key) "persist reserved wakeup gate captures"
        fan.sendOutcome gate
  else pure 0

def fanOutGates : List Gate → SignalM String Nat
  | [] => pure 0
  | gate :: rest => do
      let matched ← fan.fanOutGate gate
      let others ← fanOutGates rest
      pure (matched + others)

def audit (matchedWorkflows : Nat) : SignalM String Unit := do
  let audited ← attempt (query ()
    (.insertWakeup ⟨fan.signalId, fan.name, matchedWorkflows⟩))
  match audited with
  | .ok _ => pure ()
  | .error _ => fan.passOver .wakeupAudit "persist reserved wakeup audit"

/-- The translation of a wakeup that is not a duplicate: how many workflows
and gates it reached. -/
def translate : SignalM String (Nat × Nat) := do
  let entries ← ask (.subscriptions fan.name)
  let gates ← ask (.lookupGates fan.name)
  if entries.isEmpty ∧ gates.isEmpty then pure (0, 0)
  else do
    let matchedWorkflows ← fan.fanOutSubscribers entries
    let gatesMatched ← fan.fanOutGates gates
    fan.audit matchedWorkflows
    pure (matchedWorkflows, gatesMatched)

end FanOut

inductive WakeupOutcome where
  | fresh (signalId : Uuid) (matchedWorkflows gatesMatched : Nat)
  | deduplicated (originalSignalId : Uuid)
  | conflict (originalSignalId : Uuid) (originalHash yourHash : Digest)

def WakeupRequest.fanOut (request : WakeupRequest) (paths : JsonPaths)
    (workingSet : WorkingSet) (reserved : Option Uuid) (fresh : Uuid) :
    FanOut := ⟨paths, workingSet, reserved.isSome, reserved.getD fresh, request.name, request.body⟩

def processWakeup (paths : JsonPaths) (workingSet : WorkingSet)
    (request : WakeupRequest) (reserved : Option Uuid) (fresh : Uuid) :
    SignalM String WakeupOutcome := do
  let outcome ← consultCache workingSet reserved.isSome request.idempotencyKey fresh request.hash
  match outcome with
  | .deduplicatedSameHash original => pure (.deduplicated original)
  | .conflictDifferentHash original originalHash =>
    pure (.conflict original originalHash request.hash)
  | .fresh => do
      let matched ← (request.fanOut paths workingSet reserved fresh).translate
      pure (.fresh (reserved.getD fresh) matched.1 matched.2)

inductive CommandEnd where
  | answered (answer : Answer)
  /-- The delivered event is done with. -/
  | completed
  /-- The delivered event will come again. -/
  | pending
  | handled

section Http

def respond (answer : Answer) : SignalM String CommandEnd := do
  ask (.respond answer)
  pure (.answered answer)

def TriggerError.answer : TriggerError → Answer
  | .workflowNotFound => .failed 404 "workflow not found"
  | .inputsProvidedButNoCaptures => .failed 400
      "workflow declares no captures; remove the `inputs` field or extend the workflow definition with captures"
  | .capturesExtractionFailed error => .failed 400 error.message
  | .workflowLookup => .failed 500 "workflow definition lookup"
  | .idempotency message => .failed 500 message
  | .repositoryWrite => .failed 500 "captures archive"
  | .natsWrite message => .failed 500 message
  | .scopeWrite message => .failed 500 message

def CancelError.answer : CancelError → Answer
  | .idempotencyCheck message => .failed 500 message
  | .durableSignalState => .failed 500 "durable Signal state"
  | .relayUnreachable => .failed 503 "relay unreachable"
  | .byTagTimeout _ => .failed 503 "timed out waiting for durable Signal materialization"

/-- A trigger over HTTP is hashed by its inputs only. -/
structure HttpTrigger where
  workflowId : Uuid
  scheduledAt : Option Int
  inputs : Option Json
  (idempotencyKey name : Option String)

def HttpTrigger.request (trigger : HttpTrigger) : TriggerRequest :=
  { workflowId := trigger.workflowId
    scheduledAt := trigger.scheduledAt
    inputs := trigger.inputs
    idempotencyKey := trigger.idempotencyKey
    source := .manual
    hashPayload := trigger.inputs.getD (.object [])
    name := trigger.name }

variable (setup : Deployment)

/-- The trigger is answered as fresh once the relay has its signal. -/
def relayTrigger (fresh : Uuid) (sending : Sending) :
    SignalM String CommandEnd := do
  let sent ← attempt (Program.request (.send sending) id : SignalM Unreachable Unit)
  match sent with
  | .ok _ => respond (.fresh fresh)
  | .error _ => respond (.failed 503 "relay unreachable")

def dispatchTrigger (trigger : HttpTrigger) (fresh : Uuid) :
    SignalM String CommandEnd := do
  let processed ← attempt
    (processTrigger setup setup.http trigger.request none fresh)
  match processed with
  | .error error => respond error.answer
  | .ok (.deduplicated original) => respond (.deduplicated original)
  | .ok (.conflict original originalHash yourHash) =>
    respond (.conflict original originalHash yourHash)
  | .ok (.fresh sending) => relayTrigger fresh sending

def dispatchCancel (request : CancelRequest) (fresh : Uuid) (reads : Nat) :
    SignalM String CommandEnd := do
  let processed ← attempt (processCancel setup.http request fresh reads)
  match processed with
  | .error error => respond error.answer
  | .ok answer => respond answer

def dispatchWakeup (request : WakeupRequest) (fresh : Uuid) :
    SignalM String CommandEnd := do
  let processed ← attempt
    (processWakeup setup.paths setup.http request none fresh)
  match processed with
  | .error message => respond (.failed 500 message)
  | .ok (.deduplicated original) => respond (.deduplicated original)
  | .ok (.conflict original originalHash yourHash) =>
    respond (.conflict original originalHash yourHash)
  | .ok (.fresh signalId _ _) => respond (.fresh signalId)

end Http

section Ingress

/-- An event of the ingress, parsed; a target or reason that does not decode
is a permanent failure. -/
inductive IngressEnvelope where
  | trigger (workflowId : Uuid) (scheduledAt : Option Int) (inputs : Option Json)
  | cancel (target : Option CancelTarget) (reasonDecodes : Bool) (note : Option String)
  | wakeup (name : String) (targetDecodes : Bool) (payload : Option Json)

inductive IngressFailure where
  | permanent (reason : String)
  | transient (error : String)

variable (setup : Deployment)

def externalSubject : String := "tickr.external.signals"

variable (producerKey : String)

/-- The hashed payload of a delivered trigger is not read: the reservation has
decided already. -/
def ingressTrigger (workflowId : Uuid)
    (scheduledAt : Option Int) (inputs : Option Json) : TriggerRequest :=
  { workflowId, scheduledAt, inputs
    idempotencyKey := some producerKey
    source := .externalNats externalSubject
    hashPayload := .object [("inputs", inputs.getD (.object [])),
      ("scheduled_at", scheduledAt.elim .null .integer),
      ("workflow_id", .integer workflowId)]
    name := none }

def triggerFailure (error : TriggerError) : IngressFailure :=
  if error.isPermanentIngressRejection then .permanent "trigger rejected"
  else .transient "trigger failed"

def triggerIntents : TriggerOutcome → Except IngressFailure (List Sending)
  | .fresh sending => .ok [sending]
  | .deduplicated _ | .conflict _ _ _ => .error (.transient
      "reserved trigger unexpectedly consulted producer idempotency")

/-- The relay intents of one delivered event. -/
def processReservedEnvelope (signalId : Uuid) :
    IngressEnvelope → SignalM IngressFailure (List Sending)
  | .trigger workflowId scheduledAt inputs => do
      let outcome ← mapError triggerFailure
        (processTrigger setup setup.ingress
          (ingressTrigger producerKey workflowId scheduledAt inputs)
          (some signalId) signalId)
      check (triggerIntents outcome)
  | .cancel target reasonDecodes note =>
    match target with
    | none => throw (.permanent "decode Cancel.target as Signal::Target")
    | some target =>
      if reasonDecodes then
        pure [⟨.signal ⟨signalId, some producerKey, .cancel target note⟩, none, []⟩]
      else throw (.permanent "decode Cancel.reason as Signal::CancelReason")
  | .wakeup name targetDecodes payload =>
    if targetDecodes then do
      let _ ← mapError IngressFailure.transient
        (processWakeup setup.paths setup.ingress
          ⟨name, payload, none⟩ (some signalId) signalId)
      ask .collected
    else throw (.permanent "decode Wakeup.target as Signal::Target")

def leavePending : SignalM String CommandEnd := do
  ask .leavePending
  pure .pending

def completeDelivery : SignalM String CommandEnd := do
  ask .complete
  pure .completed

/-- Forward the recorded intents and then close the operation. -/
def forwardReadyIntents (signalId : Uuid) :
    List Sending → SignalM String CommandEnd
  | [] => do
      let marked ← attempt
        (Program.request (.markRelayed signalId) id : SignalM Unreachable Unit)
      match marked with
      | .ok _ => completeDelivery
      | .error _ => leavePending
  | sending :: rest => do
      let sent ← attempt (Program.request (.forward sending) id : SignalM Unreachable Unit)
      match sent with
      | .ok _ => forwardReadyIntents signalId rest
      | .error _ => leavePending

/-- Record the effects of a reserved event, then forward them. -/
def persistEffects (signalId : Uuid) (intents : List Sending) :
    SignalM String CommandEnd := do
  let persisted ← attempt
    (Program.request (.persistEffects signalId intents) id : SignalM Unreachable (List Sending))
  match persisted with
  | .ok stored => forwardReadyIntents signalId stored
  | .error _ => leavePending

def rejectDelivery (signalId : Uuid) (reason : String) :
    SignalM String CommandEnd := do
  let rejected ← attempt
    (Program.request (.reject signalId reason) id : SignalM Unreachable Unit)
  match rejected with
  | .ok _ => completeDelivery
  | .error _ => leavePending

def abandonDelivery (signalId : Uuid) : SignalM String CommandEnd := do
  let _ ← attempt (Program.request (.abandon signalId) id : SignalM Unreachable Unit)
  leavePending

/-- One delivery of an event whose producer reservation has this signal
identity. -/
def processDelivery (signalId : Uuid) (envelope : IngressEnvelope) : SignalM String CommandEnd := do
  let reservation ← ask (.reserve signalId)
  match reservation with
  | .failed | .pending => leavePending
  | .complete => completeDelivery
  | .ready intents => forwardReadyIntents signalId intents
  | .acquired => do
      let processed ← attempt
        (processReservedEnvelope setup producerKey signalId envelope)
      match processed with
      | .ok intents => persistEffects signalId intents
      | .error (.permanent reason) => rejectDelivery signalId reason
      | .error (.transient _) => abandonDelivery signalId

end Ingress

/-- Write back the archived captures that the working set has lost. -/
def rehydrate (signalId : Uuid) : List NamedEnvelope → SignalM String Unit
  | [] => pure ()
  | capture :: rest => do
      let found ← Program.request (.workingSet (.entry (signalId, capture.name))) fun reply =>
          reply.mapError fun _ => "nats kv get during rehydration"
      if (found.bind Entry.value).isSome then rehydrate signalId rest
      else do
        let _ ← (Program.request (.workingSet (.put (signalId, capture.name) capture.envelope))
          (fun reply =>
            reply.mapError fun _ => "nats kv put during rehydration") :
          SignalM String Nat)
        rehydrate signalId rest

def rehydrateFrom (signalId : Uuid) : Option CapturesRow → SignalM String Unit
  | none => pure ()
  | some row =>
    if row.captures.isEmpty then pure ()
    else do
      Program.request .openBucket fun reply =>
        reply.mapError fun _ => "create ctx bucket during rehydration"
      rehydrate signalId row.captures

def linkAndRehydrate (signalId workflowInstanceId : Uuid) :
    SignalM String Unit := do
  query "mark signal_captures materialized" (.linkCaptures signalId workflowInstanceId)
  let row ← query "read signal_captures for rehydration" (.signalCaptures signalId)
  rehydrateFrom signalId row

/-- A task of a run comes in and later runs; it is forwarded also when its
captures could not be written back. -/
def dispatchTask (workflowInstanceId signalId : Uuid) :
    SignalM String CommandEnd := do
  ask (.receive workflowInstanceId signalId)
  let linked ← attempt (linkAndRehydrate signalId workflowInstanceId)
  match linked with
  | .ok _ => do
      ask (.execute workflowInstanceId signalId)
      pure .handled
  | .error _ => do
      ask (.warn (.rehydration workflowInstanceId))
      ask (.execute workflowInstanceId signalId)
      pure .handled

/-- Delete captures from the working set; what fails is left to the sweep. -/
def deleteCaptures (signalId : Uuid) :
    List NamedEnvelope → SignalM String Unit
  | [] => pure ()
  | capture :: rest => do
      let _ ← attempt
        (Program.request (.workingSet (.delete (signalId, capture.name))) id : SignalM KvError Unit)
      deleteCaptures signalId rest

def deleteRowCaptures (opened : Bool) (row : CapturesRow) :
    SignalM String Unit := if opened then deleteCaptures row.signalId row.captures else pure ()

def cleanRows (opened : Bool) : List CapturesRow → SignalM String Unit
  | [] => pure ()
  | row :: rest => do
      deleteRowCaptures opened row
      cleanRows opened rest

def openBucket : SignalM String Bool := do
  let opened ← attempt (Program.request .openBucket id : SignalM Unreachable Unit)
  pure opened.toBool

def onWorkflowTerminal (workflowInstanceId : Uuid) : SignalM String Unit := do
  let rows ← query "settle Trigger-derived Event variables for terminal run"
    (.markTerminal workflowInstanceId)
  if rows.isEmpty then pure ()
  else do
    let opened ← openBucket
    cleanRows opened rows

/-- A run ends, and its compaction settles the captures linked to it. -/
def runEnds (workflowInstanceId : Uuid) : SignalM String CommandEnd := do
  ask (.endRun workflowInstanceId)
  let _ ← attempt (onWorkflowTerminal workflowInstanceId)
  pure .handled

def sweepRows (opened : Bool) (cutoff : Int) :
    List CapturesRow → SignalM String Nat
  | [] => pure 0
  | row :: rest => do
      deleteRowCaptures opened row
      let deleted ← query "delete expired Trigger-derived Event variables"
        (.deleteExpired row.signalId cutoff)
      let others ← sweepRows opened cutoff rest
      pure (others + if deleted then 1 else 0)

def sweepExpired (grace : Int) : SignalM String Nat := do
  let now ← ask .clock
  let expired ← query "list expired Trigger-derived Event variables"
    (.expiredCaptures (now - grace))
  if expired.isEmpty then pure 0
  else do
    let opened ← openBucket
    sweepRows opened (now - grace) expired

def sweep (grace : Int) : SignalM String CommandEnd := do
  let _ ← attempt (sweepExpired grace)
  pure .handled

/-- Everything that passes through the shared state. -/
inductive Command where
  | trigger (request : HttpTrigger) (fresh : Uuid)
  | cancel (request : CancelRequest) (fresh : Uuid) (reads : Nat)
  | wakeup (request : WakeupRequest) (fresh : Uuid)
  | deliver (producerKey : String) (signalId : Uuid) (envelope : IngressEnvelope)
  | dispatchPrecondition (precondition : GateIndex.Precondition)
  | cancelPrecondition (workflowInstanceId edgeId : Uuid)
  | signalApplied (signalId : Uuid) (matchedCount : Nat)
  | dispatchTask (workflowInstanceId signalId : Uuid)
  | runEnds (workflowInstanceId : Uuid)
  | sweep (grace : Int)
  | idle

def Command.program (setup : Deployment) :
    Command → SignalM String CommandEnd
  | .trigger request fresh => dispatchTrigger setup request fresh
  | .cancel request fresh reads => dispatchCancel setup request fresh reads
  | .wakeup request fresh => dispatchWakeup setup request fresh
  | .deliver producerKey signalId envelope =>
    processDelivery setup producerKey signalId envelope
  | .dispatchPrecondition precondition => do
      let _ ← ask (.register precondition)
      pure .handled
  | .cancelPrecondition workflowInstanceId edgeId => do
      ask (.unregister workflowInstanceId edgeId)
      pure .handled
  | .signalApplied signalId matchedCount => do
      let _ ← attempt (query () (.materializeCancel signalId matchedCount))
      pure .handled
  | .dispatchTask workflowInstanceId signalId =>
    Signals.dispatchTask workflowInstanceId signalId
  | .runEnds workflowInstanceId => Signals.runEnds workflowInstanceId
  | .sweep grace => Signals.sweep grace
  | .idle => pure .handled

abbrev SignalWorld := World SignalState SignalOp SignalOp.Reply (Except String CommandEnd)

def start (setup : Deployment) (jobs : Nat → Command)
    (state : SignalState) : SignalWorld where
  state := state
  clients := fun peer => ((jobs peer).program setup).run

end Tickr.Signals
