import Tickr.Pickup.Records
import Tickr.Script

/-!
# The Redis task cancellations

One script commits a cancellation, notes that its owner was notified, settles
it with an acknowledgement, notes that this was forwarded and completes it.
-/

namespace Tickr.RedisRoles.TaskCancellation

open Pickup (AttemptOutcome Bytes CancellationReconciliation)
open Script

/-- What a fence names, with the empty text for what it does not name. -/
structure Binding where
  dispatchKey : String := ""
  pickupGeneration : String := ""
  owner : String := ""
  deriving DecidableEq

structure Row where
  -- the request digest is that of the identity and the task key
  taskKey : Option String := none
  binding : Binding := {}
  terminal : Option AttemptOutcome := none
  notified : Bool := false
  reconciliation : Option CancellationReconciliation := none
  acknowledgement : Option Bytes := none
  units : Nat := 0
  forwarded : Bool := false
  completed : Bool := false

inductive Operation where
  | commit | notify | settle | ackForwarded | completeSource
  deriving DecidableEq

structure Call where
  operation : Operation
  (identity taskKey : String)
  binding : Binding := {}
  requestedOutcome : Option AttemptOutcome := none
  killedAck : Bytes := []
  noProcessAck : Bytes := []
  requestUnits : Nat := 0
  ackUnits : Nat := 0

/-- Used bytes, request records, fences and acknowledgement records. -/
abbrev Quota := Int × Int × Int × Int

structure State where
  rows : String → Row := fun _ => {}
  operations : String × Operation → Option String := fun _ => none
  quota : Quota := 0

structure Limits where
  (maxRequests maxFences maxAcknowledgements hardBytes : Nat)

inductive Status where
  | conflict | identityConflict | replayed | fenced | committed | stale | notified | settled
  | pending | ackForwarded | completed | accounting
  deriving DecidableEq

def cancellationCapacity (limits : Limits) : Quota → Quota → Bool
  | (bytes, requests, fences, acks), (used, requestRecords, fenceRecords, ackRecords) =>
    bytes ≤ limits.hardBytes ∧ used ≤ limits.hardBytes - bytes ∧
      requestRecords + requests ≤ limits.maxRequests ∧ fenceRecords + fences ≤ limits.maxFences ∧
      ackRecords + acks ≤ limits.maxAcknowledgements

def reconciliationOf : Option AttemptOutcome → CancellationReconciliation
  | some .cancellationKilled => .killed
  | some .cancellationNoProcess => .noProcess
  | _ => .alreadyExited

def Call.acknowledgement (call : Call) : Bytes :=
  if call.requestedOutcome = some .cancellationKilled then call.killedAck else call.noProcessAck

abbrev Reply := Status × Option AttemptOutcome

/-- The script behind the check of the operation's identity: the status, the row
that it leaves and what it adds to the counters. -/
def transition (limits : Limits) (call : Call) (row : Row) (quota : Quota) : Reply × Row × Quota :=
  let kept (status : Status) (detail : Option AttemptOutcome := none) : Reply × Row × Quota :=
    ((status, detail), row, 0)
  if call.operation = .commit then
    if row.taskKey.isSome then
      kept (if row.taskKey ≠ some call.taskKey then .identityConflict else .replayed)
    else
      let cost : Quota := (call.requestUnits, 1, 1, 0)
      if cancellationCapacity limits cost quota then
        ((.committed, none), { row with
          taskKey := some call.taskKey, binding := call.binding, terminal := call.requestedOutcome,
          notified := false, units := call.requestUnits, forwarded := false,
          completed := false }, cost)
      else kept .fenced
  else if row.taskKey ≠ some call.taskKey then kept .identityConflict
  else if row.binding ≠ call.binding then kept .stale
  else match call.operation with
    -- a commit has returned above
    | .commit | .notify =>
      if row.binding.owner = "" ∨ row.reconciliation.isSome then kept .stale
      else ((.notified, none), { row with notified := true }, 0)
    | .settle =>
      let elected := call.requestedOutcome
      let cost : Quota := (call.ackUnits, 0, 0, 1)
      if row.acknowledgement.isSome then kept .settled row.terminal
      else if cancellationCapacity limits cost quota then
        ((.settled, elected), { row with
          terminal := elected, reconciliation := some (reconciliationOf elected),
          acknowledgement := some call.acknowledgement, units := row.units + call.ackUnits }, cost)
      else kept .fenced
    | .ackForwarded =>
      if row.acknowledgement = none then kept .pending
      else ((.ackForwarded, none), { row with forwarded := true }, 0)
    | .completeSource =>
      if row.forwarded = false ∨ row.reconciliation = none ∨ row.acknowledgement = none then
        kept .pending
      else if row.completed then kept .completed
      else if row.units ≤ 0 ∨ quota.1 < row.units then kept .accounting
      else ((.completed, none), { row with completed := true }, (-row.units, -1, -1, 0))

def perform (limits : Limits) (call : Call) (state : State) : Reply × State :=
  let ran := transition limits call (state.rows call.identity) state.quota
  if (state.operations (call.identity, call.operation)).getD call.taskKey ≠ call.taskKey then
    ((.conflict, none), state)
  else
    (ran.1, {
      rows := Function.update state.rows call.identity ran.2.1
      operations := Function.update state.operations (call.identity, call.operation) call.taskKey
      quota := state.quota + ran.2.2 })

/-- What a cancellation is charged for until it is completed. -/
def Row.charge (row : Row) : Quota :=
  if row.taskKey = none ∨ row.completed then 0
  else (row.units, 1, 1, row.acknowledgement.isSome.toNat)

/-- What the counters hold for it: the acknowledgement is counted for ever. -/
def Row.counted (row : Row) : Quota := row.charge + if row.completed then (0, 0, 0, 1) else 0

structure Row.Lawful (row : Row) : Prop where
  absent : row.taskKey = none →
    row.reconciliation = none ∧ row.acknowledgement = none ∧ row.completed = false
  reconciled : row.reconciliation.isSome = row.acknowledgement.isSome
  acknowledged : row.completed → row.acknowledgement.isSome

/-- One step keeps what is stored, and completes what was forwarded. -/
structure Row.Turns (status : Status) (old new : Row) : Prop where
  acknowledgement : ∀ sent, old.acknowledgement = some sent → new.acknowledgement = some sent
  reconciliation : ∀ found, old.reconciliation = some found → new.reconciliation = some found
  completed : new.completed → old.completed ∨
    old.acknowledgement.isSome ∧ old.forwarded ∧ status = .completed

theorem Row.Turns.refl (status : Status) (row : Row) : row.Turns status row :=
  ⟨fun _ h => h, fun _ h => h, .inl⟩

/-- A lawful row is left lawful, with the difference added to the counters. -/
def Row.Step (row : Row) (ran : Reply × Row × Quota) : Prop :=
  ran.2.1.Lawful ∧ ran.2.1.counted = row.counted + ran.2.2 ∧ row.Turns ran.1.1 ran.2.1

theorem transition_step (limits : Limits) (call : Call) {row : Row} (quota : Quota)
    (lawful : row.Lawful) : row.Step (transition limits call row quota) := by
  have same (reply : Reply) : row.Step (reply, row, 0) := ⟨lawful, (add_zero _).symm, .refl _ _⟩
  obtain ⟨absent, reconciled, acked⟩ := lawful
  dsimp only [transition]
  cases call.operation with
  | commit =>
    simp only [if_true]
    split_ifs with held ne fits <;> try exact same _
    · simp only [Option.isSome_iff_ne_none, not_not] at held
      obtain ⟨unreconciled, noAck, isOpen⟩ := absent held
      refine ⟨⟨by simp, reconciled, by simp⟩, ?_, by simp [noAck], by simp [unreconciled], by simp⟩
      simp [Row.counted, Row.charge, held, noAck, isOpen]
  | notify | ackForwarded =>
    simp only [reduceCtorEq, if_false]
    split_ifs <;> try exact same _
    exact ⟨⟨absent, reconciled, acked⟩, (add_zero _).symm, fun _ h => h, fun _ h => h, .inl⟩
  | settle =>
    simp only [reduceCtorEq, if_false]
    split_ifs with other stale ends <;> try exact same _
    · have isOpen : row.completed = false := by simpa using mt acked ends
      simp only [not_not, Bool.not_eq_true] at other ends
      refine ⟨⟨by simp [other], rfl, fun _ => rfl⟩, ?_, ?_, ?_, .inl⟩
      · simp [Row.counted, Row.charge, other, isOpen, ends]
      · simp_all
      · simp_all
  | completeSource =>
    simp only [reduceCtorEq, if_false]
    split_ifs with other stale waits done <;> try exact same _
    · simp only [not_or, not_not, Bool.not_eq_false, ← Option.isSome_iff_ne_none] at other waits
      refine ⟨⟨by simp [other], reconciled, fun _ => waits.2.2⟩, ?_, fun _ h => h, fun _ h => h,
        fun _ => .inr ⟨waits.2.2, waits.1, rfl⟩⟩
      simp [Row.counted, Row.charge, other, done, waits]

structure Sound (state : State) : Prop where
  lawful : ∀ identity, (state.rows identity).Lawful
  exact : Exact Row.counted state.rows state.quota

variable {limits : Limits} {state : State}

theorem Sound.perform (sound : Sound state) (limits : Limits) (call : Call) :
    let served := perform limits call state
    Sound served.2 ∧
      ∀ identity, (state.rows identity).Turns served.1.1 (served.2.rows identity) := by
  obtain ⟨lawful, balanced, turns⟩ :=
    transition_step limits call state.quota (sound.lawful call.identity)
  dsimp only [TaskCancellation.perform]
  split_ifs
  · exact ⟨sound, fun _ => .refl _ _⟩
  refine ⟨⟨?_, sound.exact.update balanced⟩, ?_⟩
  · exact (Function.forall_update_iff _ fun _ => Row.Lawful).mpr
      ⟨lawful, fun identity _ => sound.lawful identity⟩
  · exact (Function.forall_update_iff _ fun identity => (state.rows identity).Turns _).mpr
      ⟨turns, fun _ _ => .refl _ _⟩

theorem sound_initial : Sound {} := ⟨fun _ => ⟨by simp, rfl, by simp⟩, exact_zero fun _ => rfl⟩

abbrev Unfinished (limits : Limits) (call : Call) (state : State) : Prop :=
  (perform limits call state).1.1 ≠ .completed

def Sound.Open (state : State) : Prop :=
  Sound state ∧ ∀ identity, (state.rows identity).completed = false

theorem Sound.Open.charges (isOpen : Sound.Open state) :
    Exact Row.charge state.rows state.quota :=
  isOpen.1.exact.congr fun identity => by simp [Row.counted, isOpen.2 identity]

theorem Sound.Open.perform (isOpen : Sound.Open state) (limits : Limits) (call : Call)
    (undone : Unfinished limits call state) :
    Sound.Open (TaskCancellation.perform limits call state).2 := by
  have step := isOpen.1.perform limits call
  refine ⟨step.1, fun identity => ?_⟩
  by_contra done
  rcases (step.2 identity).completed (by simpa using done) with old | ⟨_, _, ended⟩
  · simp [isOpen.2 identity] at old
  · exact undone ended

theorem counters_exact_until_completion (limits : Limits) (calls : List Call)
    (meets : Meets (perform limits) (Unfinished limits) calls {}) :
    Exact Row.charge (run (perform limits) calls {}).rows (run (perform limits) calls {}).quota ∧
    ∀ others, let state := run (perform limits) others {}
      Exact Row.counted state.rows state.quota ∧ ∀ call identity,
        let served := perform limits call state
        (state.rows identity).Turns served.1.1 (served.2.rows identity) := by
  refine ⟨Sound.Open.charges ?_, fun others => ?_⟩
  · exact run_keeps (fun call _ undone held => held.perform limits call undone) meets
      ⟨sound_initial, fun _ => rfl⟩
  · have sound : Sound (run (perform limits) others {}) :=
      run_keeps (fun call _ _ held => (held.perform limits call).1) (meets_true _ _) sound_initial
    exact ⟨sound.exact, fun call => (sound.perform limits call).2⟩

def sampleCall (identity : String) (operation : Operation) : Call where
  operation := operation
  identity := identity
  taskKey := identity
  requestUnits := 1

theorem counters_exact_until_completion_sample :
    let limits : Limits := ⟨1, 1, 1, 9⟩
    let calls := [sampleCall "a" .commit, sampleCall "a" .settle]
    Meets (perform limits) (Unfinished limits) calls {} ∧
      Exact Row.charge (run (perform limits) calls {}).rows (run (perform limits) calls {}).quota :=
  have meets : Meets (perform ⟨1, 1, 1, 9⟩) (Unfinished ⟨1, 1, 1, 9⟩)
      [sampleCall "a" .commit, sampleCall "a" .settle] {} := by decide +kernel
  ⟨meets, (counters_exact_until_completion _ _ meets).1⟩

/-- The acknowledgement of a completed cancellation takes the only place there
is, and the next cancellation is never settled. -/
theorem completed_acknowledgement_counted :
    let limits : Limits := ⟨1, 1, 1, 9⟩
    let state := run (perform limits) [sampleCall "a" .commit, sampleCall "a" .settle,
      sampleCall "a" .ackForwarded, sampleCall "a" .completeSource, sampleCall "b" .commit] {}
    state.quota.2.2.2 = 1 ∧ (∀ identity, (state.rows identity).charge.2.2.2 = 0) ∧
      (perform limits (sampleCall "b" .settle) state).1.1 = .fenced := by
  intro _ state
  refine ⟨by decide +kernel, fun identity => ?_, by decide +kernel⟩
  by_cases first : identity = "a"
  · subst first
    decide +kernel
  by_cases second : identity = "b"
  · subst second
    decide +kernel
  · simp [state, run, perform, sampleCall, first, second, Row.charge]

end Tickr.RedisRoles.TaskCancellation
