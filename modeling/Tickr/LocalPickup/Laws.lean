import Tickr.LocalPickup.Invariant

/-!
# The laws of a history of local pickup transactions

What the tables say at one moment of a history about claims, outcomes and
acknowledgements stays so at every later one.
-/

namespace Tickr.LocalPickup

open Table
open Pickup (Bytes AttemptOutcome)
open PickupStore

/-- What no transaction takes back. -/
structure Grown (before after : PickupStore) : Prop where
  closed : ∀ row ∈ before.dispatches, row.state ≠ .pending →
    ∃ kept ∈ after.dispatches, kept.dispatchKey = row.dispatchKey ∧ kept.state ≠ .pending
  outcomes : ∀ outcome ∈ before.outcomes, outcome ∈ after.outcomes
  started : ∀ event ∈ after.events, event.kind = .started →
    (∃ outcome ∈ before.outcomes, outcome.key = (event.dispatchKey, event.pickupGeneration)) →
      ∃ staged ∈ before.events, staged.lasting = event.lasting
  fences : ∀ fence ∈ before.fences,
    ∃ kept ∈ after.fences,
      kept.acknowledgementIdentity = fence.acknowledgementIdentity ∧
        kept.taskInstanceId = fence.taskInstanceId ∧
        kept.workflowInstanceId = fence.workflowInstanceId
  acks : ∀ ack ∈ before.acks, ∃ kept ∈ after.acks, kept.lasting = ack.lasting

theorem EventRow.of_lasting {first second : EventRow} (same : first.lasting = second.lasting) :
    first.dispatchKey = second.dispatchKey ∧ first.pickupGeneration = second.pickupGeneration ∧
      first.kind = second.kind := by
  simp only [EventRow.lasting, EventRow.mk.injEq] at same
  exact ⟨same.1, same.2.1, same.2.2.1⟩

theorem DispatchRow.of_lasting {first second : DispatchRow}
    (same : first.lasting = second.lasting) :
    first.dispatchKey = second.dispatchKey ∧ first.state = second.state := by
  simp only [DispatchRow.lasting, DispatchRow.mk.injEq] at same
  exact ⟨same.1, same.2.2.1⟩

theorem FenceRow.of_lasting {first second : FenceRow} (same : first.lasting = second.lasting) :
    first.acknowledgementIdentity = second.acknowledgementIdentity ∧
      first.taskInstanceId = second.taskInstanceId ∧
      first.workflowInstanceId = second.workflowInstanceId := by
  simp only [FenceRow.lasting, FenceRow.mk.injEq] at same
  exact ⟨same.1, same.2.1, same.2.2.1⟩

theorem AckRow.of_lasting {first second : AckRow} (same : first.lasting = second.lasting) :
    first.acknowledgementIdentity = second.acknowledgementIdentity ∧
      first.acknowledgement = second.acknowledgement := by
  simp only [AckRow.lasting, AckRow.mk.injEq] at same
  exact ⟨same.1, same.2.1⟩

theorem Grown.refl (store : PickupStore) : Grown store store where
  closed row mem isClosed := ⟨row, mem, rfl, isClosed⟩
  outcomes _ mem := mem
  started event mem _ _ := ⟨event, mem, rfl⟩
  fences fence mem := ⟨fence, mem, rfl, rfl, rfl⟩
  acks ack mem := ⟨ack, mem, rfl⟩

theorem Grown.trans {first second third : PickupStore}
    (early : Grown first second) (late : Grown second third) :
    Grown first third := by
  constructor
  · intro row mem isClosed
    obtain ⟨kept, keeps, sameKey, keptClosed⟩ := early.closed row mem isClosed
    obtain ⟨last, isLast, lastKey, lastClosed⟩ := late.closed kept keeps keptClosed
    exact ⟨last, isLast, lastKey.trans sameKey, lastClosed⟩
  · intro outcome mem
    exact late.outcomes outcome (early.outcomes outcome mem)
  · intro event mem isStarted ends
    obtain ⟨outcome, result, isKey⟩ := ends
    obtain ⟨staged, stages, same⟩ := late.started event mem isStarted
      ⟨outcome, early.outcomes outcome result, isKey⟩
    have ⟨sameKey, gen, kind⟩ := EventRow.of_lasting same
    obtain ⟨first, isFirst, sameFirst⟩ := early.started staged stages (kind.trans isStarted)
      ⟨outcome, result, by rw [sameKey, gen]; exact isKey⟩
    exact ⟨first, isFirst, sameFirst.trans same⟩
  · intro fence mem
    obtain ⟨kept, keeps, sameId, sameTask, flow⟩ := early.fences fence mem
    obtain ⟨last, isLast, identity, task, lastWorkflow⟩ := late.fences kept keeps
    exact ⟨last, isLast, identity.trans sameId,
      task.trans sameTask, lastWorkflow.trans flow⟩
  · intro ack mem
    obtain ⟨kept, keeps, same⟩ := early.acks ack mem
    obtain ⟨last, isLast, sameLast⟩ := late.acks kept keeps
    exact ⟨last, isLast, sameLast.trans same⟩

variable {before after : PickupStore}

theorem SameLasting.grown (same : SameLasting before after) : Grown before after := by
  constructor
  · intro _ mem closed
    obtain ⟨kept, keeps, sameRow⟩ := exists_mem_of_map_eq same.dispatches.symm mem
    have ⟨sameKey, state⟩ := DispatchRow.of_lasting sameRow
    exact ⟨kept, keeps, sameKey, by rw [state]; exact closed⟩
  · intro _ mem
    rw [same.outcomes]
    exact mem
  · intro _ mem _ _
    exact exists_mem_of_map_eq same.events mem
  · intro _ mem
    obtain ⟨kept, keeps, sameFence⟩ := exists_mem_of_map_eq same.fences.symm mem
    exact ⟨kept, keeps, FenceRow.of_lasting sameFence⟩
  · intro _ mem
    exact exists_mem_of_map_eq same.acks.symm mem

variable {change : DispatchRow → DispatchRow}

theorem closed_updateWhere {dispatches : List DispatchRow}
    (same : ∀ row, (change row).dispatchKey = row.dispatchKey)
    (closes : ∀ row, (change row).state ≠ .pending) :
    ∀ row ∈ dispatches, row.state ≠ .pending →
      ∃ kept ∈ updateWhere selects change dispatches,
        kept.dispatchKey = row.dispatchKey ∧ kept.state ≠ .pending := by
  intro row mem closed
  by_cases picked : selects row = true
  · exact ⟨change row, mem_updateWhere_of mem picked, same row, closes row⟩
  · have notSelected : selects row = false := by simpa using picked
    exact ⟨row, mem_updateWhere_of_not mem notSelected, rfl, closed⟩

theorem fences_updateWhere {fences : List FenceRow} {change : FenceRow → FenceRow}
    (keeps : ∀ fence, (change fence).acknowledgementIdentity = fence.acknowledgementIdentity ∧
      (change fence).taskInstanceId = fence.taskInstanceId ∧
      (change fence).workflowInstanceId = fence.workflowInstanceId) :
    ∀ fence ∈ fences,
      ∃ kept ∈ updateWhere selects change fences,
        kept.acknowledgementIdentity = fence.acknowledgementIdentity ∧
          kept.taskInstanceId = fence.taskInstanceId ∧
          kept.workflowInstanceId = fence.workflowInstanceId := by
  intro fence mem
  by_cases picked : selects fence = true
  · exact ⟨change fence, mem_updateWhere_of mem picked, keeps fence⟩
  · have notSelected : selects fence = false := by simpa using picked
    exact ⟨fence, mem_updateWhere_of_not mem notSelected, rfl, rfl, rfl⟩

theorem started_append {before : PickupStore} (late : event.kind = .started →
      ∀ outcome ∈ before.outcomes, outcome.key ≠ (event.dispatchKey, event.pickupGeneration)) :
    ∀ kept ∈ before.events ++ [event], kept.kind = .started →
      (∃ outcome ∈ before.outcomes, outcome.key = (kept.dispatchKey, kept.pickupGeneration)) →
        ∃ staged ∈ before.events, staged.lasting = kept.lasting := by
  intro kept mem isStarted ends
  rcases mem_append_row.mp mem with mem | new
  · exact ⟨kept, mem, rfl⟩
  · subst new
    obtain ⟨outcome, result, isKey⟩ := ends
    exact absurd isKey (late isStarted outcome result)

theorem Change.grown {commits : FenceRow → Prop}
    (change : Change commits before after) : Grown before after := by
  have same := Grown.refl before
  cases change with
  | tended _ same => exact same.grown
  | staged =>
    refine ⟨?_, same.outcomes, same.started, ?_, same.acks⟩
    · intro row mem isClosed
      exact ⟨row, List.mem_append_left _ mem, rfl, isClosed⟩
    · simp only [bindWaitingFences]
      split
      · exact fences_updateWhere fun _ => ⟨rfl, rfl, rfl⟩
      · exact same.fences
  | rejected =>
    exact ⟨closed_updateWhere (fun _ => rfl) fun _ => by simp,
      same.outcomes, same.started, same.fences, same.acks⟩
  | claimed pending mem isPending uncovered selects selectsIt owner
      deadline event now newEvent =>
      exact ⟨closed_updateWhere (fun _ => rfl) fun _ => by simp,
        same.outcomes, started_append (by simp), same.fences, same.acks⟩
  | started _ _ _ isOpen =>
    exact ⟨same.closed, same.outcomes,
      started_append fun _ => hasOutcome_eq_false.mp isOpen, same.fences,
      same.acks⟩
  | elected _ mem _ isOpen =>
      refine ⟨same.closed, ?_, started_append fun _ =>
        hasOutcome_eq_false.mp isOpen, same.fences, same.acks⟩
      intro _ mem
      exact List.mem_append_left _ mem
  | fenced =>
    refine ⟨same.closed, same.outcomes, same.started, ?_, same.acks⟩
    intro stored mem
    exact ⟨stored, List.mem_append_left _ mem, rfl, rfl, rfl⟩
  | settled =>
      refine ⟨same.closed, ?_, same.started, fences_updateWhere fun _ => ⟨rfl, rfl, rfl⟩, ?_⟩
      · intro _ mem
        exact List.mem_append_left _ mem
      · intro ack mem
        refine ⟨ack, ?_, rfl⟩
        split
        · exact mem
        · exact List.mem_append_left _ mem

theorem Grown.afterAll (sound : Sound store)
    (calls : List PickupCall) : Grown store (store.afterAll calls) := by
  induction calls generalizing store with
  | nil => exact .refl store
  | cons call _ ih =>
    have change := change_of_call sound.dispatches.keys call
    exact change.grown.trans (ih (change.sound sound))

variable {store : PickupStore} {input : ClaimTaskPickupInput}

theorem not_committed_of_closed {row : DispatchRow} (sound : Sound store)
    (mem : row ∈ store.dispatches) (closed : row.state ≠ .pending)
    (isKey : input.dispatchKey = row.dispatchKey) (claim : TaskPickupClaim) :
    (store.claimTaskPickup input).1 ≠ .ok (.committed claim) := by
  rcases claim_cases input sound.dispatches.keys with ⟨refused, _⟩ | ⟨_, takes, _⟩
  · exact refused claim
  · have same := sound.dispatches.keys.eq takes.member mem (takes.isKey.trans isKey)
    rw [← same] at closed
    exact absurd takes.isPending closed

/-- The fence is of the dispatch, or of its Task. -/
def FenceRow.Covers (fence : FenceRow) (row : DispatchRow) : Prop :=
  fence.dispatchKey = some row.dispatchKey ∨ fence.IsTask row

variable {claim : TaskPickupClaim}

theorem claimed_of_committed (sound : Sound store)
    (commits : (store.claimTaskPickup input).1 = .ok (.committed claim)) :
    ∃ row ∈ store.dispatches,
      row.dispatchKey = input.dispatchKey ∧ row.state = .pending ∧
        (∀ fence ∈ store.fences, ¬ fence.Covers row) ∧
        ∃ taken ∈ (store.after (.claim input)).dispatches,
          taken.dispatchKey = input.dispatchKey ∧ taken.state = .claimed ∧
            taken.pickupGeneration = claim.pickupGeneration ∧
            taken.owner = some claim.owner := by
  rcases claim_cases input sound.dispatches.keys with ⟨refused, _⟩ | ⟨pending, takes, isClaim⟩
  · exact absurd commits (refused claim)
  rw [isClaim] at commits
  cases commits
  have gen := sound.generations pending takes.member
  unfold DispatchRow.AtGeneration at gen
  simp only [takes.isPending] at gen
  refine ⟨pending, takes.member, takes.isKey, takes.isPending, ?_, ?_⟩
  · intro fence isFence covered
    -- a fence of the Task is bound to the dispatch, at generation one
    have isBound : fence.dispatchKey = some pending.dispatchKey := by
      rcases covered with isBound | task
      · exact isBound
      · exact sound.fences.binds fence isFence pending takes.member task
    have generation := (sound.fences.bound fence isFence _ isBound).1
    have uncovered := takes.uncovered fence isFence
    simp [covers, isBound, generation, gen] at uncovered
  · have picked := (takes.selectsIt pending takes.member).mpr rfl
    rw [PickupStore.after, isClaim]
    exact ⟨_, mem_updateWhere_of takes.member picked, takes.isKey, rfl, rfl, rfl⟩

theorem hasOutcome_of_mem {outcome : OutcomeRow} (mem : outcome ∈ store.outcomes) :
    store.hasOutcome outcome.dispatchKey outcome.pickupGeneration = true := by
  simp only [hasOutcome, List.any_eq_true, Bool.and_eq_true, decide_eq_true_eq]
  exact ⟨outcome, mem, rfl, rfl⟩

variable (ends : store.hasOutcome claim.dispatchKey claim.pickupGeneration = true)

include ends in
theorem updateClaimed_of_settled :
    (store.updateClaimed claim asks change).1 ≠ .ok true := by
  intro works
  simp only [updateClaimed, Except.ok.injEq, decide_eq_true_eq] at works
  obtain ⟨_, _, picked⟩ := exists_of_affected (by rw [works]; decide)
  simp only [holdsClaim, Bool.and_eq_true, decide_eq_true_eq] at picked
  rw [picked.1.1.1.1.1, picked.1.1.1.2] at picked
  rw [ends] at picked
  cases picked.2

theorem guarded_ne_ok {α : Type}
    {transaction : Transacted α} {answer : α} (refused : transaction.1 ≠ .ok answer) :
    (guarded checked store transaction).1 ≠ .ok answer := by
  cases checked with
  | error => simp [guarded]
  | ok => exact refused

include ends in
theorem stageTaskStarted_of_settled :
    (store.stageTaskStarted claim event now).1 ≠ .ok true := by
  unfold stageTaskStarted
  split
  · simp
  rename_i row hit
  have found := List.find?_some hit
  simp only [holdsClaim, Bool.and_eq_true, decide_eq_true_eq] at found
  rw [found.1.1.1.1.1, found.1.1.1.2, ends] at found
  cases found.2

variable (store)

def PickupStore.eventCount (dispatchKey : String) (generation : Int) (kind : TaskEventKind) : Nat :=
  affected (fun event => event.key = (dispatchKey, generation, kind)) store.events

def PickupStore.outcomeCount (dispatchKey : String) (generation : Int) : Nat :=
  affected (fun outcome => outcome.key = (dispatchKey, generation)) store.outcomes

def PickupStore.ackCount (acknowledgementIdentity : String) : Nat :=
  affected (fun ack => ack.acknowledgementIdentity = acknowledgementIdentity) store.acks

/-- What holds between two moments of one history. -/
structure PickupLaws (earlier later : PickupStore) : Prop where
  claimsUncovered : ∀ input claim,
    (earlier.claimTaskPickup input).1 = .ok (.committed claim) →
      ∃ row ∈ earlier.dispatches,
        row.dispatchKey = input.dispatchKey ∧ row.state = .pending ∧
          (∀ fence ∈ earlier.fences, ¬ fence.Covers row) ∧
          ∃ taken ∈ (earlier.after (.claim input)).dispatches,
            taken.dispatchKey = input.dispatchKey ∧ taken.state = .claimed ∧
              taken.pickupGeneration = claim.pickupGeneration ∧
              taken.owner = some claim.owner
  /-- Neither a claimed nor a rejected dispatch is claimed later. -/
  claimsOnce : ∀ row ∈ earlier.dispatches,
    row.state = .claimed ∨ row.state = .rejected →
      ∀ input, input.dispatchKey = row.dispatchKey → ∀ claim,
        (later.claimTaskPickup input).1 ≠ .ok (.committed claim)
  assignedOnce : ∀ row ∈ later.dispatches, row.state = .claimed →
    later.eventCount row.dispatchKey row.pickupGeneration .assigned = 1
  startedOnce : ∀ dispatchKey generation, later.eventCount dispatchKey generation .started ≤ 1
  /-- A Started event of a settled generation was staged before. -/
  startedBefore : ∀ outcome ∈ earlier.outcomes, ∀ event ∈ later.events,
    event.key = (outcome.dispatchKey, outcome.pickupGeneration, .started) →
      ∃ staged ∈ earlier.events, staged.lasting = event.lasting
  outcomeOnce : ∀ dispatchKey generation, later.outcomeCount dispatchKey generation ≤ 1
  outcomeStays : ∀ outcome ∈ earlier.outcomes, outcome ∈ later.outcomes
  /-- The terminal events are those of the outcomes; a cancellation has none. -/
  terminalMatches : ∀ dispatchKey generation kind, kind.isTerminal = true →
    later.eventCount dispatchKey generation kind =
      if later.outcomes.any fun outcome =>
        outcome.key = (dispatchKey, generation) &&
          eventKind outcome.outcome = some kind then 1 else 0
  settledCloses : ∀ outcome ∈ earlier.outcomes, ∀ claim : TaskPickupClaim,
    claim.dispatchKey = outcome.dispatchKey → claim.pickupGeneration = outcome.pickupGeneration →
      ∀ deadline now event,
        (later.armTaskPickupLiveness claim deadline now).1 ≠ .ok true ∧
          (later.renewTaskPickupLiveness claim deadline now).1 ≠ .ok true ∧
          (later.stageTaskStarted claim event now).1 ≠ .ok true
  acknowledgedOnce : ∀ fence ∈ later.fences, fence.settledAt.isSome →
    later.ackCount fence.acknowledgementIdentity = 1
  ackStays : ∀ ack ∈ earlier.acks,
    ∃ kept ∈ later.acks,
      kept.acknowledgementIdentity = ack.acknowledgementIdentity ∧
        kept.acknowledgement = ack.acknowledgement

variable {store}

theorem Sound.eventCount_eq (sound : Sound store) {kind : TaskEventKind}
    (isTerminal : kind.isTerminal = true) :
    store.eventCount dispatchKey gen kind =
      if store.outcomes.any fun outcome =>
        outcome.key = (dispatchKey, gen) &&
          eventKind outcome.outcome = some kind then 1 else 0 := by
  split
  · rename_i elects
    simp only [List.any_eq_true, Bool.and_eq_true, decide_eq_true_eq] at elects
    obtain ⟨outcome, mem, isKey, isKind⟩ := elects
    obtain ⟨_, isEvent, eventKey⟩ := sound.outcomes.staged outcome mem kind isKind
    simp only [OutcomeRow.key, Prod.mk.injEq] at isKey
    rw [isKey.1, isKey.2] at eventKey
    exact affected_eq_one sound.events.keys
      (fun _ picked => of_decide_eq_true picked) isEvent
      (decide_eq_true eventKey)
  · rename_i notElected
    by_contra isSome
    obtain ⟨event, isEvent, picked⟩ := exists_of_affected isSome
    have eventKey := of_decide_eq_true picked
    simp only [EventRow.key, Prod.mk.injEq] at eventKey
    obtain ⟨outcome, mem, isKey, isKind⟩ := sound.outcomes.elected event
      isEvent (by rw [eventKey.2.2]; exact isTerminal)
    apply notElected
    simp only [List.any_eq_true, Bool.and_eq_true, decide_eq_true_eq]
    rw [eventKey.1, eventKey.2.1] at isKey
    rw [eventKey.2.2] at isKind
    exact ⟨outcome, mem, isKey, isKind⟩

theorem pickupLaws_of_grown {prior later : PickupStore}
    (earlierSound : Sound prior) (sound : Sound later)
    (grown : Grown prior later) : PickupLaws prior later := by
  constructor
  · intro input claim commits
    exact claimed_of_committed earlierSound commits
  · intro row mem isClosed input isKey claim
    have notPending : row.state ≠ .pending := by
      rcases isClosed with isState | isState <;> simp [isState]
    obtain ⟨kept, keeps, sameKey, keptClosed⟩ := grown.closed row mem notPending
    exact not_committed_of_closed sound keeps keptClosed (isKey.trans sameKey.symm) claim
  · intro row mem claimed
    obtain ⟨event, isEvent, isKey⟩ := sound.events.assigned row mem claimed
    exact affected_eq_one sound.events.keys
      (fun _ picked => of_decide_eq_true picked) isEvent
      (decide_eq_true isKey)
  · intro dispatchKey generation
    exact affected_le_one sound.events.keys fun _ picked => of_decide_eq_true picked
  · intro outcome mem event isEvent isKey
    simp only [EventRow.key, Prod.mk.injEq] at isKey
    refine grown.started event isEvent isKey.2.2 ⟨outcome, mem, ?_⟩
    rw [isKey.1, isKey.2.1]
    rfl
  · intro dispatchKey generation
    exact affected_le_one sound.outcomes.keys fun _ picked => of_decide_eq_true picked
  · exact grown.outcomes
  · intro dispatchKey generation kind isTerminal
    exact sound.eventCount_eq isTerminal
  · intro outcome mem claim isKey gen deadline now event
    have ends := hasOutcome_of_mem (grown.outcomes outcome mem)
    rw [← isKey, ← gen] at ends
    exact ⟨guarded_ne_ok (updateClaimed_of_settled ends),
      guarded_ne_ok (updateClaimed_of_settled ends),
      stageTaskStarted_of_settled ends⟩
  · intro fence mem ends
    obtain ⟨ack, isAck, identity⟩ := sound.acks.staged fence mem ends
    exact affected_eq_one sound.acks.keys (fun _ picked => of_decide_eq_true picked) isAck
      (decide_eq_true identity)
  · intro ack mem
    obtain ⟨kept, keeps, same⟩ := grown.acks ack mem
    exact ⟨kept, keeps, AckRow.of_lasting same⟩

/-- The laws hold between any two moments of any history. -/
theorem pickupLaws_of_history (first second : List PickupCall) :
    PickupLaws (PickupStore.empty.afterAll first)
      (PickupStore.empty.afterAll (first ++ second)) := by
  have sound := sound_empty.afterAll first
  simp only [PickupStore.afterAll, List.foldl_append]
  exact pickupLaws_of_grown sound (sound.afterAll second) (.afterAll sound second)

end Tickr.LocalPickup
