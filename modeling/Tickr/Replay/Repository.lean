import Tickr.Json
import Tickr.KeyValue
import Tickr.LogStream.State
import Tickr.Table

/-!
# Replay lifecycle rows and the effects of a drive

A request is committed as one row that fixes every decision of the replay; only
its status, its age and its lease move afterwards.  The history of what was
inserted, sent, written and released is read by no client.  Every statement of
the repository is one call.
-/

namespace Tickr.Replay

open Concurrent KeyValue Table
open LogStream (Uuid)

inductive ReplayLifecycleStatus where
  | materializing
  | released
  | versionUnresolvable
  deriving DecidableEq

/-- The columns that an insert fixes. -/
structure ReplayDecision where
  (replayInstanceId sourceInstanceId signalId : Uuid)
  idempotencyKey : Option String
  (resumeFrom preGrounded : List Uuid)
  (name seedSha256 : Option String)
  shadowedKeys : List String
  deriving DecidableEq

structure ReplayLifecycleRow where
  decision : ReplayDecision
  status : ReplayLifecycleStatus

structure Lease where
  owner : String
  token : Uuid
  expiresAt : Int

/-- A row of `workflow_replays`. -/
structure StoredReplay where
  row : ReplayLifecycleRow
  updatedAt : Int
  lease : Option Lease

def StoredReplay.id (stored : StoredReplay) : Uuid := stored.row.decision.replayInstanceId

def StoredReplay.unsettled (stored : StoredReplay) : Bool := stored.row.status == .materializing

structure PinnedDefinition where
  (captures taskOutputs : List String)

/-- The terminal archive of a run: its runnable projection, the run it was a
replay of, its task instances and scope dump, and its pinned definition. -/
structure ReplaySource where
  workflowId : Uuid
  workflowVersion : Int
  graph : Option Json
  tasks : Json
  replaySource : Option Uuid
  archivedRun : Json
  pinnedDefinition : Option PinnedDefinition

structure ReplaySeed where
  replayInstanceId : Uuid
  preGrounded : List Uuid
  (seededGraph seededTasks : Json)
  workflowVersion : Int
  deriving DecidableEq

structure ReplayTrigger where
  (signalId workflowId sourceInstanceId : Uuid)
  resumeFrom : List Uuid
  name : Option String
  replay : ReplaySeed
  deriving DecidableEq

/-- A wire signal of the pipeline.  The signal id of a Resume is derived from
the instance it names. -/
inductive ReplaySignal where
  | trigger (trigger : ReplayTrigger)
  | resume (workflowInstanceId : Uuid)
  deriving DecidableEq

/-- A value written by a rehydration: an archived envelope byte for byte, an
input shadow, or the hydration sentinel. -/
inductive ScopeValue where
  | carried (bytes : String)
  | shadow (value : Json) (signalId : Uuid)
  | sentinel (signalId : Uuid) (carriedNames : List String)
  deriving DecidableEq

def ScopeValue.isShadow : ScopeValue → Bool
  | .shadow _ _ => true
  | _ => false

structure CarriedKey where
  name : String
  value : ScopeValue
  deriving DecidableEq

inductive ReplayEvent where
  | inserted (author : Nat) (decision : ReplayDecision)
  | sent (author : Nat) (signal : ReplaySignal)
  | wrote (author : Nat) (run : Uuid) (entries : List CarriedKey)
  | released (author : Nat) (replayInstanceId : Uuid)
  deriving DecidableEq

def ReplayEvent.author : ReplayEvent → Nat
  | .inserted author _ => author
  | .sent author _ => author
  | .wrote author _ _ => author
  | .released author _ => author

structure State where
  replays : List StoredReplay
  scopes : List Uuid
  history : List ReplayEvent

def State.empty : State := ⟨[], [], []⟩

namespace State

def find (state : State) (replayInstanceId : Uuid) : Option StoredReplay :=
  state.replays.find? fun stored => stored.id == replayInstanceId

def findByIdempotency (state : State) (sourceInstanceId : Uuid)
    (key : String) : Option StoredReplay :=
  state.replays.find? fun stored =>
    stored.row.decision.sourceInstanceId == sourceInstanceId &&
      stored.row.decision.idempotencyKey == some key

/-- The unique constraints that an insert would break. -/
def conflicts (state : State) (decision : ReplayDecision) : Bool :=
  state.replays.any fun stored =>
    stored.id == decision.replayInstanceId ||
      (decision.idempotencyKey.isSome &&
        (stored.row.decision.sourceInstanceId == decision.sourceInstanceId &&
          stored.row.decision.idempotencyKey == decision.idempotencyKey))

end State

inductive RepositoryError where
  | unavailable
  | constraintConflict

inductive InsertOutcome where
  | inserted
  | existing (row : ReplayLifecycleRow)

structure LeasedReplay where
  row : ReplayLifecycleRow
  lease : Lease

inductive ScopeCreationOutcome where
  | created
  | other

inductive ReplayOp where
  | newUuid
  | replayByIdempotency (sourceInstanceId : Uuid) (key : String)
  | replaySource (sourceInstanceId : Uuid)
  | insertReplayLifecycle (row : ReplayLifecycleRow)
  | lifecycle (replayInstanceId : Uuid)
  | touch (replayInstanceId : Uuid)
  | release (replayInstanceId : Uuid)
  | leaseReplays (owner : String) (leaseDuration minAge : Int) (limit : Nat)
  | releaseLeased (replayInstanceId : Uuid) (lease : Lease)
  | releaseReplayLease (replayInstanceId : Uuid) (lease : Lease)
  | unsettledReplays (minAge : Int)
  | send (signal : ReplaySignal)
  | openBucket
  | put (run : Uuid) (entry : CarriedKey)
  | createScope (run : Uuid) (entries : List CarriedKey)
  | launch (run : Uuid)

@[reducible]
def ReplayOp.Result : ReplayOp → Type
  | .newUuid => Uuid
  | .replayByIdempotency _ _ => Option ReplayLifecycleRow
  | .replaySource _ => Option ReplaySource
  | .insertReplayLifecycle _ => InsertOutcome
  | .lifecycle _ => Option ReplayLifecycleRow
  | .touch _ => Unit
  | .release _ => Bool
  | .leaseReplays _ _ _ _ => List LeasedReplay
  | .releaseLeased _ _ => Bool
  | .releaseReplayLease _ _ => Bool
  | .unsettledReplays _ => List ReplayLifecycleRow
  | .send _ => Unit
  | .openBucket => Unit
  | .put _ _ => Unit
  | .createScope _ _ => ScopeCreationOutcome
  | .launch _ => Unit

@[reducible]
def ReplayOp.Reply (op : ReplayOp) : Type := Except RepositoryError op.Result

structure Turn where
  delivery : Delivery
  now : Int
  uuids : List Uuid

/-- No lease, or one that has run out. -/
def StoredReplay.unleased (now : Int) (stored : StoredReplay) : Bool :=
  stored.lease.all fun lease => lease.expiresAt ≤ now

def StoredReplay.leasable (eligibleBefore now : Int) (stored : StoredReplay) :
    Bool := stored.unsettled && stored.updatedAt ≤ eligibleBefore && stored.unleased now

/-- `ORDER BY updated_at, replay_instance_id`. -/
def StoredReplay.before (first second : StoredReplay) : Prop :=
  first.updatedAt < second.updatedAt ∨ (first.updatedAt = second.updatedAt ∧ first.id ≤ second.id)

instance : DecidableRel StoredReplay.before := fun first second =>
  inferInstanceAs (Decidable (first.updatedAt < second.updatedAt ∨
    (first.updatedAt = second.updatedAt ∧ first.id ≤ second.id)))

def grants (owner : String) (expiresAt : Int) (tokens : List Uuid)
    (selected : List StoredReplay) : List LeasedReplay :=
  selected.zipIdx.map fun numbered =>
    ⟨numbered.1.row, ⟨owner, tokens.getD numbered.2 0, expiresAt⟩⟩

def StoredReplay.leaseFrom (granted : List LeasedReplay) (stored : StoredReplay) : StoredReplay :=
  match granted.find? fun leased =>
      leased.row.decision.replayInstanceId == stored.id with
  | some leased =>
    if stored.unsettled then { stored with lease := some leased.lease }
    else stored
  | none => stored

variable (archive : Uuid → Option ReplaySource)

/-- The effect of a call that reaches the repository, the relay or a scope. -/
def answer (peer : Nat) (op : ReplayOp) (turn : Turn) (state : State) : op.Reply × State :=
  match op with
  | .newUuid => (.ok (turn.uuids.getD 0 0), state)
  | .replayByIdempotency sourceInstanceId key =>
    (.ok ((state.findByIdempotency sourceInstanceId key).map StoredReplay.row), state)
  | .replaySource sourceInstanceId => (.ok (archive sourceInstanceId), state)
  | .insertReplayLifecycle row =>
    if state.conflicts row.decision then
      let found := match row.decision.idempotencyKey with
        | some key => state.findByIdempotency row.decision.sourceInstanceId key
        | none => state.find row.decision.replayInstanceId
      match found with
      | some stored => (.ok (.existing stored.row), state)
      | none => (.error .constraintConflict, state)
    else
      (.ok .inserted, { state with
          replays := state.replays ++ [⟨row, turn.now, none⟩]
          history := .inserted peer row.decision :: state.history })
  | .lifecycle replayInstanceId => (.ok ((state.find replayInstanceId).map StoredReplay.row), state)
  | .touch replayInstanceId =>
    (.ok (), { state with
      replays := updateWhere (fun stored => stored.id == replayInstanceId && stored.unsettled)
        (fun stored => { stored with updatedAt := turn.now })
        state.replays })
  | .release replayInstanceId =>
    let selects : StoredReplay → Bool := fun stored =>
      stored.id == replayInstanceId && stored.unsettled
    if affected selects state.replays = 0 then (.ok false, state)
    else
      (.ok true, { state with
          replays := updateWhere selects
            (fun stored => ⟨{ stored.row with status := .released }, turn.now, none⟩) state.replays
          history := .released peer replayInstanceId :: state.history })
  | .leaseReplays owner leaseDuration minAge limit =>
    let selected := ((state.replays.filter
      (StoredReplay.leasable (turn.now - minAge) turn.now)).insertionSort
        StoredReplay.before).take limit
    let granted := grants owner (turn.now + leaseDuration) turn.uuids selected
    (.ok granted, { state with
        replays := state.replays.map (StoredReplay.leaseFrom granted) })
  | .releaseLeased replayInstanceId lease =>
    let selects : StoredReplay → Bool := fun stored =>
      stored.id == replayInstanceId && stored.unsettled &&
        stored.lease.any fun held => held.owner == lease.owner &&
          held.token == lease.token && turn.now < held.expiresAt
    if affected selects state.replays = 0 then (.ok false, state)
    else
      (.ok true, { state with
          replays := updateWhere selects
            (fun stored => ⟨{ stored.row with status := .released }, turn.now, none⟩) state.replays
          history := .released peer replayInstanceId :: state.history })
  | .releaseReplayLease replayInstanceId lease =>
    let selects : StoredReplay → Bool := fun stored =>
      stored.id == replayInstanceId &&
        stored.lease.any fun held => held.owner == lease.owner && held.token == lease.token
    (.ok (affected selects state.replays == 1), { state with
        replays := updateWhere selects
          (fun stored => { stored with lease := none }) state.replays })
  | .unsettledReplays minAge =>
    (.ok (((state.replays.filter fun stored =>
        stored.unsettled && stored.updatedAt ≤ turn.now - minAge).insertionSort
          StoredReplay.before).map StoredReplay.row), state)
  | .send signal => (.ok (), { state with history := .sent peer signal :: state.history })
  | .openBucket => (.ok (), state)
  | .put run entry =>
    (.ok (), { state with
      history := .wrote peer run [entry] :: state.history })
  | .createScope run entries =>
    if run ∈ state.scopes then (.ok .other, state)
    else
      (.ok .created, { state with
          scopes := run :: state.scopes
          history := .wrote peer run entries :: state.history })
  | .launch run =>
    -- a task launch creates the scope of its run, if there is none
    if run ∈ state.scopes then (.ok (), state)
    else (.ok (), { state with scopes := run :: state.scopes })

def perform (peer : Nat) (op : ReplayOp) (turn : Turn) (state : State) : op.Reply × State :=
  match turn.delivery with
  | .applied => answer archive peer op turn state
  | .refused => (.error .unavailable, state)
  | .replyLost => (.error .unavailable, (answer archive peer op turn state).2)

def system :
    System State ReplayOp Turn ReplayOp.Reply where
  perform := perform archive

end Tickr.Replay
