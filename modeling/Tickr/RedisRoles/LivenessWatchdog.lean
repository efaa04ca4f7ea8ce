import Tickr.Pickup.Records
import Tickr.Script

/-!
# The Redis liveness watchdog

One script arms the liveness record of a claimed pickup, moves its deadline, notes
that its source is complete, elects its terminal outcome and removes it.  The
identity of an operation is the digest of all its arguments.
-/

namespace Tickr.RedisRoles.LivenessWatchdog

open Pickup (AttemptOutcome Bytes)

structure LocalPickupClaim where
  dispatchKey : Nat
  pickupGeneration : Int
  owner : String
  deriving DecidableEq

inductive Operation where
  | arm | renew | registerFailure | completeSource | elect | cleanup
  deriving DecidableEq

/-- An operation with the arguments that its fingerprint is taken of. -/
structure WatchdogMutation where
  operation : Operation
  claim : LocalPickupClaim
  payload : Bytes := []
  outcome : Option AttemptOutcome := none
  event : Bytes := []
  timeoutMs : Nat := 0
  nonce : Int := 0
  deriving DecidableEq

/-- What the hashes of the role hold for one dispatch key. -/
structure Row where
  generation : Option Int := none
  owner : Option String := none
  deadline : Option Int := none
  payload : Option Bytes := none
  reservedUnits : Option Nat := none
  sourceCompleted : Bool := false
  outcome : Option AttemptOutcome := none
  event : Option Bytes := none

inductive Meter where
  | usedBytes | livenessRecords | deadlineEntries | durableOutcomes | stagedEvents

abbrev Quota := Meter → Int

def quotaOf (bytes records deadlines outcomes events : Int) : Quota
  | .usedBytes => bytes
  | .livenessRecords => records
  | .deadlineEntries => deadlines
  | .durableOutcomes => outcomes
  | .stagedEvents => events

structure State where
  rows : Nat → Row := fun _ => {}
  -- the deadline index: a sorted set of dispatch keys by deadline
  index : List (Nat × Int) := []
  quota : Quota := 0
  operations : WatchdogMutation → Bool := fun _ => false

structure Limits where
  (maxRecords maxStagedOutcomes hardBytes maxTerminalEventBytes : Nat)

def recordAccountedBytes : Nat := 384

def Limits.reservedUnits (limits : Limits) (payload : Bytes) : Nat :=
  recordAccountedBytes + payload.length + limits.maxTerminalEventBytes

def zadd (key : Nat) (score : Int) (index : List (Nat × Int)) : List (Nat × Int) :=
  (index.filter (·.1 ≠ key)).orderedInsert
    (fun left right => left.2 < right.2 ∨ left.2 = right.2 ∧ left.1 ≤ right.1) (key, score)

def zrem (key : Nat) (index : List (Nat × Int)) : List (Nat × Int) := index.filter (·.1 ≠ key)

def zremCount (key : Nat) (index : List (Nat × Int)) : Int := if index.any (·.1 = key) then 1 else 0

inductive Status where
  | replayed | settled | stale | fenced | armed | renewed | registered | completed | won
  | pending | accounting | cleaned | rejected
  deriving DecidableEq

structure Reply where
  status : Status
  detail : Option AttemptOutcome
  event : Bytes
  sourceCompleted : Bool

/-- The reply, with what the role then holds for the dispatch key. -/
def State.reply (state : State) (key : Nat) (status : Status)
    (detail : Option AttemptOutcome := none) (event : Bytes := []) : Reply × State :=
  (⟨status, detail, event, (state.rows key).sourceCompleted⟩, state)

/-- One row, the index and the counters are changed, and the operation is
recorded. -/
def State.write (state : State) (mutation : WatchdogMutation) (row : Row)
    (index : List (Nat × Int)) (delta : Quota) : State where
  rows := Function.update state.rows mutation.claim.dispatchKey row
  index := index
  quota := state.quota + delta
  operations := Function.update state.operations mutation true

/-- A missing generation reads as -1 and a missing owner as the empty text. -/
def LocalPickupClaim.Exact (claim : LocalPickupClaim) (row : Row) : Prop :=
  row.generation.getD (-1) = claim.pickupGeneration ∧ row.owner.getD "" = claim.owner

instance (claim : LocalPickupClaim) (row : Row) : Decidable (claim.Exact row) :=
  inferInstanceAs (Decidable (_ ∧ _))

structure Call where
  now : Nat
  mutation : WatchdogMutation

def Call.key (call : Call) : Nat := call.mutation.claim.dispatchKey

def arm (limits : Limits) (call : Call) (state : State) : Reply × State :=
  let mutation := call.mutation
  let key := call.key
  let row := state.rows key
  let units := limits.reservedUnits mutation.payload
  let deadline : Int := call.now + mutation.timeoutMs
  if row.generation.isSome then
    if mutation.claim.Exact row ∧ row.outcome = none then state.reply key .replayed
    else state.reply key .stale
  else if limits.maxRecords ≤ state.quota .livenessRecords ∨ limits.hardBytes < units ∨
      (limits.hardBytes : Int) - units < state.quota .usedBytes then
    state.reply key .fenced
  else
    (state.write mutation { row with
        generation := some mutation.claim.pickupGeneration
        owner := some mutation.claim.owner
        deadline := some deadline
        payload := some mutation.payload
        reservedUnits := some units
        sourceCompleted := false }
      (zadd key deadline state.index) (quotaOf units 1 1 0 0)).reply key .armed

def moveDeadline (call : Call) (deadline : Int) (status : Status) (state : State) : Reply × State :=
  let key := call.key
  (state.write call.mutation { state.rows key with deadline := some deadline }
    (zadd key deadline state.index) 0).reply key status

def elect (limits : Limits) (call : Call) (state : State) : Reply × State :=
  let mutation := call.mutation
  let key := call.key
  if mutation.event = [] ∨ mutation.outcome = none then state.reply key .rejected
  else if limits.maxStagedOutcomes ≤ state.quota .durableOutcomes then state.reply key .fenced
  else
    (state.write mutation
      { state.rows key with outcome := mutation.outcome, event := some mutation.event }
      (zrem key state.index) (quotaOf 0 0 (-zremCount key state.index) 1 1)).reply key .won
      mutation.outcome mutation.event

def cleanup (call : Call) (state : State) : Reply × State :=
  let key := call.key
  let row := state.rows key
  if row.sourceCompleted = false ∨ row.outcome = none ∨ row.event = none then
    state.reply key .pending
  else match row.reservedUnits with
  | none => state.reply key .accounting
  | some units =>
    (state.write call.mutation {} (zrem key state.index)
      (quotaOf (-units) (-1) (-zremCount key state.index) (-1) (-1))).reply key .cleaned

def perform (limits : Limits) (call : Call) (state : State) : Reply × State :=
  let mutation := call.mutation
  let key := call.key
  let row := state.rows key
  if state.operations mutation then
    state.reply key (if mutation.operation = .elect then .settled else .replayed) row.outcome
      (row.event.getD [])
  else if mutation.operation = .arm then arm limits call state
  else if ¬ mutation.claim.Exact row then state.reply key .stale
  else if row.outcome.isSome ∧ mutation.operation = .elect then
    state.reply key .settled row.outcome (row.event.getD [])
  else if row.outcome.isSome ∧ mutation.operation ≠ .cleanup then state.reply key .stale
  else match mutation.operation with
  | .arm => arm limits call state
  | .renew => moveDeadline call (call.now + mutation.timeoutMs) .renewed state
  | .registerFailure => moveDeadline call call.now .registered state
  | .completeSource =>
    (state.write mutation { row with sourceCompleted := true } state.index 0).reply key .completed
  | .elect => elect limits call state
  | .cleanup => cleanup call state

/-- The first due record, as the sweeper selects it. -/
def selectDue (now : Int) (state : State) : Option Nat :=
  match state.index.find? (·.2 ≤ now) with
  | none => none
  | some member =>
    let deadline := (state.rows member.1).deadline.getD 0
    if deadline ≤ 0 ∨ now < deadline ∨ (state.rows member.1).outcome.isSome then none
    else some member.1

/-- What the caller of the role is told. -/
inductive Answer where
  | flag (done : Bool)
  | elected (isWinner : Bool) (outcome : AttemptOutcome) (event : Bytes)
  | stale | capacityFenced | accounting | invalidOperation | unavailable
  deriving DecidableEq

/-- How the adapter reads a reply: an election's detail is read before its
status. -/
def readReply (operation : Operation) (reply : Reply) : Answer :=
  match operation, reply.status with
  | .arm, .armed | .arm, .replayed | .renew, .renewed | .renew, .replayed => .flag true
  | .registerFailure, .registered | .registerFailure, .replayed => .flag true
  | .cleanup, .cleaned | .cleanup, .replayed => .flag true
  | .arm, .stale | .renew, .stale | .registerFailure, .stale => .flag false
  | .cleanup, .pending | .cleanup, .stale => .flag false
  | .arm, .fenced => .capacityFenced
  | .completeSource, status =>
    .flag ((status = .completed ∨ status = .replayed) ∧ reply.sourceCompleted)
  | .elect, status =>
    match reply.detail with
    | none => .accounting
    | some selected =>
      match status with
      | .won => .elected true selected reply.event
      | .settled | .replayed => .elected false selected reply.event
      | .stale => .stale
      | .fenced => .capacityFenced
      | _ => .accounting
  | _, _ => .accounting

/-- The script's state and the capability fence of the formation. -/
structure Formation where
  state : State := {}
  isOpen : Bool := true

def Call.valid (limits : Limits) (call : Call) : Bool :=
  match call.mutation.operation with
  | .arm => call.mutation.payload ≠ [] ∧ 0 < call.mutation.timeoutMs
  | .renew => 0 < call.mutation.timeoutMs
  | .elect =>
    call.mutation.event ≠ [] ∧ call.mutation.event.length ≤ limits.maxTerminalEventBytes ∧
      call.mutation.outcome.isSome
  | _ => true

/-- One call of the adapter.  The reply carries the counters, which are read as
`u64`; an accounting failure closes the fence. -/
def serve (limits : Limits) (call : Call) (formation : Formation) : Answer × Formation :=
  if call.valid limits = false then (.invalidOperation, formation)
  else if formation.isOpen = false then (.unavailable, formation)
  else
    let (reply, state) := perform limits call formation.state
    if reply.status = .rejected then (.unavailable, { formation with state })
    else if state.quota .usedBytes < 0 ∨ state.quota .livenessRecords < 0 ∨
        state.quota .deadlineEntries < 0 ∨ state.quota .durableOutcomes < 0 ∨
        state.quota .stagedEvents < 0 then
      (.accounting, { formation with state })
    else
      let answer := readReply call.mutation.operation reply
      (answer, ⟨state, answer ≠ .accounting⟩)

end Tickr.RedisRoles.LivenessWatchdog
