import Tickr.KeyValue
import Tickr.LogStream.State

/-!
# Staging of compaction payloads

The relay stages the payload of a finished run: the bytes, a job in the work
queue, and the digest as evidence that the job is queued.  The drain archives a
job and completes it: it records the digest, then deletes bytes and evidence.
A deleted key of the bucket reads as an entry without bytes.
-/

namespace Tickr.CompactionStaging

open LogStream (Bytes)
open KeyValue Concurrent

inductive StageKind where
  | complete
  | payload
  | queued
  deriving DecidableEq

structure StageKey where
  kind : StageKind
  identity : String
  deriving DecidableEq

/-- The envelope decoder and SHA-256.  The digest is collision free and never
empty, and no bytes are no envelope. -/
structure StagingCodec where
  /-- The workflow instance id of the projection, in its canonical text. -/
  compactionIdentity : Bytes → Option String
  /-- The workflow instance id of the projection, as it was sent. -/
  projectionId : Bytes → Option String
  digest : Bytes → Bytes
  collisionFree : Function.Injective digest
  digest_ne_nil : ∀ payload, digest payload ≠ []
  identity_nil : compactionIdentity [] = none
  projection_nil : projectionId [] = none

inductive StageEvent where
  /-- A staging call returned success. -/
  | acknowledged (identity : String) (payload : Bytes)
  /-- A drain acknowledged its job. -/
  | drained (identity : String) (payload : Bytes)
  deriving DecidableEq

structure StagingState where
  store : Log StageKey Bytes
  /-- The jobs of the work queue. -/
  published : List Bytes
  history : List (Nat × StageEvent)

def StagingState.empty : StagingState := ⟨[], [], []⟩

/-- How a call is delivered, whether the queue takes a message for a duplicate,
and which job it delivers. -/
structure Turn where
  delivery : Delivery
  isDuplicate : Bool
  job : Nat

inductive StagingOp where
  | connect
  | store (op : KvOp StageKey Bytes)
  | publish (payload : Bytes)
  | receive
  | archive (payload : Bytes)
  | note (event : StageEvent)

@[reducible]
def StagingOp.Reply : StagingOp → Type
  | .connect => Except KvError Unit
  | .store op => op.Reply
  | .publish _ => Except KvError Unit
  | .receive => Option Bytes
  | .archive _ => Except KvError Unit
  | .note _ => Unit

/-- A call that leaves nothing behind in this state. -/
def answered (delivery : Delivery) : Except KvError Unit :=
  match delivery with
  | .applied => .ok ()
  | _ => .error .unavailable

/-- A publication reaches the queue, unless it is lost or taken for a
duplicate. -/
def enqueue (turn : Turn) (payload : Bytes) (published : List Bytes) : List Bytes :=
  if turn.delivery = .refused || turn.isDuplicate then published
  else payload :: published

def perform (peer : Nat) (op : StagingOp) (turn : Turn)
    (state : StagingState) : op.Reply × StagingState :=
  match op with
  | .connect => (answered turn.delivery, state)
  | .store op =>
    let (reply, store) := KeyValue.perform peer op turn.delivery state.store
    (reply, { state with store })
  | .publish payload =>
    (answered turn.delivery, { state with published := enqueue turn payload state.published })
  | .receive => (state.published[turn.job]?, state)
  | .archive _ => (answered turn.delivery, state)
  | .note event => ((), { state with history := (peer, event) :: state.history })

def stagingSystem : System StagingState StagingOp Turn StagingOp.Reply where
  perform := perform

abbrev StagingM (α : Type) := ExceptT String (Program StagingOp StagingOp.Reply) α

def call (op : StagingOp) (context : String)
    (interpret : op.Reply → Except KvError α) : StagingM α :=
  Program.request op fun reply =>
    (interpret reply).mapError fun _ => context

def tell (op : StagingOp) : StagingM op.Reply := Program.request op .ok

def connect : StagingM Unit := call .connect "opening Compaction identity store" id

/-- The bytes of an entry; a delete marker has none. -/
def entryBytes (entry : Entry Bytes) : Bytes := entry.value.getD []

variable (key : StageKey)

def readStageValue : StagingM (Option Bytes) :=
  call (.store (.entry key)) "reading Compaction staging key" fun reply =>
    reply.map fun found => found.map entryBytes

/-- What a key holds is looked at when it cannot be created. -/
def confirmStageValue (value : Bytes) : StagingM Unit := do
  let found ← readStageValue key
  match found with
  | some existing =>
    if existing = value then pure ()
    else throw "Compaction identity conflict"
  | none => throw "ambiguous Compaction staging acknowledgement"

def createStageValue (value : Bytes) : StagingM Unit := do
  let created ← Program.attempt
    (Program.request (.store (.create key value)) id :
      ExceptT KvError (Program StagingOp StagingOp.Reply) Nat)
  match created with
  | .ok _ => pure ()
  | .error _ => confirmStageValue key value

variable (codec : StagingCodec) (identity : String)

/-- The staged payload of an identity is this one, or the completed one was. -/
def validateStagedPayload (payload : Bytes) :
    StagingM Unit := do
  let completed ← readStageValue ⟨.complete, identity⟩
  match completed with
  | some digest =>
    if digest = codec.digest payload then pure ()
    else throw "Compaction identity conflicts with completed payload"
  | none => do
      let staged ← readStageValue ⟨.payload, identity⟩
      match staged with
      | some existing =>
        if existing = payload then pure ()
        else throw "Compaction identity conflicts with staged payload"
      | none => throw "Compaction identity has no durable staged payload"

def cleanStageKey : StagingM Unit := do
  let found ← readStageValue key
  match found with
  | none => pure ()
  | some _ => call (.store (.delete key)) "cleaning Compaction staging key" id

def completeCompactionStaging (payload : Bytes) :
    StagingM Unit := do
  connect
  validateStagedPayload codec identity payload
  createStageValue ⟨.complete, identity⟩ (codec.digest payload)
  cleanStageKey ⟨.payload, identity⟩
  cleanStageKey ⟨.queued, identity⟩

/-- Store the bytes under the identity, unless they are there. -/
def stageBytes (payload : Bytes) : StagingM Unit := do
  let staged ← readStageValue ⟨.payload, identity⟩
  match staged with
  | some existing =>
    if existing = payload then pure ()
    else throw "Compaction identity conflicts with staged payload"
  | none => createStageValue ⟨.payload, identity⟩ payload

/-- Queue the job, unless there is evidence that it is queued. -/
def queueJob (payload : Bytes) : StagingM Unit := do
  let queued ← readStageValue ⟨.queued, identity⟩
  match queued with
  | some digest =>
    if digest = codec.digest payload then pure ()
    else throw "Compaction identity has conflicting queue evidence"
  | none => do
      call (.publish payload) "publishing Compaction job to work queue" id
      createStageValue ⟨.queued, identity⟩ (codec.digest payload)

def stageUnder (payload : Bytes) : StagingM Unit := do
  connect
  let completed ← readStageValue ⟨.complete, identity⟩
  match completed with
  | some digest =>
    if digest = codec.digest payload then pure ()
    else throw "Compaction identity conflicts with completed payload"
  | none => do
      stageBytes identity payload
      queueJob codec identity payload

/-- The payload is acknowledged when staging returns. -/
def stageCompactionPayload (payload : Bytes) : StagingM Unit :=
  match codec.compactionIdentity payload with
  | none => throw "decode Compaction envelope for staging"
  | some identity => do
      stageUnder codec identity payload
      tell (.note (.acknowledged identity payload))

/-- One pass of a drain over a job of the queue. -/
def drainJob (payload : Bytes) : StagingM Unit := do
  connect
  validateStagedPayload codec identity payload
  call (.archive payload) "archival failed" id
  completeCompactionStaging codec identity payload
  tell (.note (.drained identity payload))

/-- The workers of the all-NATS drain name the identity as the projection has
it, those of the selected-role drain by its canonical text. -/
def jobIdentity (isSelected : Bool) : Bytes → Option String :=
  if isSelected then codec.compactionIdentity else codec.projectionId

def drain (isSelected : Bool) : StagingM Unit := do
  let received ← tell .receive
  match received with
  | none => pure ()
  | some payload =>
    match jobIdentity codec isSelected payload with
    | none => throw "dropping undeserializable job"
    | some identity => drainJob codec identity payload

inductive Command where
  | stage (payload : Bytes)
  | drain (isSelected : Bool)
  | idle

def Command.program : Command → StagingM Unit
  | .stage payload => stageCompactionPayload codec payload
  | .drain isSelected => CompactionStaging.drain codec isSelected
  | .idle => pure ()

abbrev StagingWorld := World StagingState StagingOp StagingOp.Reply (Except String Unit)

def start (jobs : Nat → Command) (state : StagingState) :
    StagingWorld where
  state := state
  clients := fun peer => ((jobs peer).program codec).run

end Tickr.CompactionStaging
