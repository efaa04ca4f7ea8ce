import Tickr.LocalPickup.Changes

/-!
# The invariant of the local pickup tables

The invariant is stated table by table.  No part reads the columns that a
`tended` change writes.
-/

namespace Tickr.LocalPickup

open Table
open Pickup (Bytes AttemptOutcome CancellationReconciliation cancellationOutcome)
open PickupStore

variable {dispatchKey : String} {workflowInstanceId taskInstanceId : Option String}

@[mk_iff]
structure DispatchesSound (dispatches : List DispatchRow) : Prop where
  keys : Keyed DispatchRow.dispatchKey dispatches
  tasks : ∀ first ∈ dispatches, ∀ second ∈ dispatches,
    first.taskInstanceId.isSome → first.taskInstanceId = second.taskInstanceId →
      first.workflowInstanceId = second.workflowInstanceId →
      first.dispatchKey = second.dispatchKey

/-- A dispatch is at generation one when it is claimed, and at generation zero
otherwise. -/
def DispatchRow.AtGeneration (row : DispatchRow) : Prop :=
  row.pickupGeneration = if row.state = .claimed then 1 else 0

def EventRow.key (event : EventRow) : String × Int × TaskEventKind :=
  (event.dispatchKey, event.pickupGeneration, event.kind)

def OutcomeRow.key (outcome : OutcomeRow) : String × Int :=
  (outcome.dispatchKey, outcome.pickupGeneration)

@[mk_iff]
structure EventsSound (dispatches : List DispatchRow) (events : List EventRow) : Prop where
  keys : Keyed EventRow.key events
  assigned : ∀ row ∈ dispatches, row.state = .claimed →
    ∃ event ∈ events, event.key = (row.dispatchKey, row.pickupGeneration, .assigned)

@[mk_iff]
structure OutcomesSound (events : List EventRow) (outcomes : List OutcomeRow) : Prop where
  keys : Keyed OutcomeRow.key outcomes
  elected : ∀ event ∈ events, event.kind.isTerminal = true →
    ∃ outcome ∈ outcomes,
      outcome.key = (event.dispatchKey, event.pickupGeneration) ∧
        eventKind outcome.outcome = some event.kind
  staged : ∀ outcome ∈ outcomes, ∀ kind,
    eventKind outcome.outcome = some kind →
      ∃ event ∈ events, event.key = (outcome.dispatchKey, outcome.pickupGeneration, kind)

/-- The row is the dispatch of the fence's Task. -/
def FenceRow.IsTask (fence : FenceRow) (row : DispatchRow) : Prop :=
  row.taskInstanceId = some fence.taskInstanceId ∧
    row.workflowInstanceId = some fence.workflowInstanceId

/-- A fence names the dispatch of its Task, at generation one, as soon as the
Task has one. -/
@[mk_iff]
structure FencesSound (dispatches : List DispatchRow) (fences : List FenceRow) : Prop where
  keys : Keyed FenceRow.acknowledgementIdentity fences
  bound : ∀ fence ∈ fences, ∀ dispatchKey,
    fence.dispatchKey = some dispatchKey →
      fence.pickupGeneration = some 1 ∧
        ∃ row ∈ dispatches, row.dispatchKey = dispatchKey ∧ fence.IsTask row
  binds : ∀ fence ∈ fences, ∀ row ∈ dispatches, fence.IsTask row →
    fence.dispatchKey = some row.dispatchKey

@[mk_iff]
structure AcksSound (fences : List FenceRow) (acks : List AckRow) : Prop where
  keys : Keyed AckRow.acknowledgementIdentity acks
  staged : ∀ fence ∈ fences, fence.settledAt.isSome →
    ∃ ack ∈ acks, ack.acknowledgementIdentity = fence.acknowledgementIdentity

structure Sound (store : PickupStore) : Prop where
  dispatches : DispatchesSound store.dispatches
  generations : ∀ row ∈ store.dispatches, row.AtGeneration
  events : EventsSound store.dispatches store.events
  outcomes : OutcomesSound store.events store.outcomes
  fences : FencesSound store.dispatches store.fences
  acks : AcksSound store.fences store.acks

theorem sound_empty : Sound PickupStore.empty where
  dispatches := ⟨keyed_nil, by simp [PickupStore.empty]⟩
  generations := by simp [PickupStore.empty]
  events := ⟨keyed_nil, by simp [PickupStore.empty]⟩
  outcomes := ⟨keyed_nil, by simp [PickupStore.empty], by simp [PickupStore.empty]⟩
  fences := ⟨keyed_nil, by simp [PickupStore.empty], by simp [PickupStore.empty]⟩
  acks := ⟨keyed_nil, by simp [PickupStore.empty]⟩

variable {dispatches : List DispatchRow} {events : List EventRow}
  {outcomes : List OutcomeRow} {fences : List FenceRow} {acks : List AckRow}

/-- The columns of a dispatch that say which Task it is of. -/
def DispatchRow.named (row : DispatchRow) : DispatchRow :=
  { row.lasting with
    state := .pending, pickupGeneration := 0, owner := none
    rejectionReason := none }

/-- The columns of a fence that say what it covers. -/
def FenceRow.binding (fence : FenceRow) : FenceRow :=
  { fence.lasting with reconciliation := none, settledAt := none }

/-- The columns of a fence that say whether it is settled. -/
def FenceRow.settlement (fence : FenceRow) : FenceRow :=
  { fence.lasting with dispatchKey := none, pickupGeneration := none }

theorem dispatchesSound_named :
    DispatchesSound (dispatches.map DispatchRow.named) ↔ DispatchesSound dispatches := by
  simp only [dispatchesSound_iff, keyed_map, List.forall_mem_map]
  rfl

theorem eventsSound_lasting :
    EventsSound (dispatches.map DispatchRow.lasting) (events.map EventRow.lasting) ↔
      EventsSound dispatches events := by
  simp only [eventsSound_iff, keyed_map, List.mem_map, forall_exists_index,
    and_imp, forall_apply_eq_imp_iff₂, exists_exists_and_eq_and]
  rfl

theorem outcomesSound_lasting :
    OutcomesSound (events.map EventRow.lasting) outcomes ↔ OutcomesSound events outcomes := by
  simp only [outcomesSound_iff, List.mem_map, forall_exists_index, and_imp,
    forall_apply_eq_imp_iff₂, exists_exists_and_eq_and]
  rfl

theorem fencesSound_binding :
    FencesSound (dispatches.map DispatchRow.named) (fences.map FenceRow.binding) ↔
      FencesSound dispatches fences := by
  simp only [fencesSound_iff, keyed_map, List.mem_map, forall_exists_index,
    and_imp, forall_apply_eq_imp_iff₂, exists_exists_and_eq_and]
  rfl

theorem acksSound_settlement :
    AcksSound (fences.map FenceRow.settlement) (acks.map AckRow.lasting) ↔
      AcksSound fences acks := by
  simp only [acksSound_iff, keyed_map, List.mem_map, forall_exists_index,
    and_imp, forall_apply_eq_imp_iff₂, exists_exists_and_eq_and]
  rfl

theorem atGeneration_lasting :
    (∀ row ∈ dispatches.map DispatchRow.lasting, row.AtGeneration) ↔
      ∀ row ∈ dispatches, row.AtGeneration := by
  simp only [List.forall_mem_map]
  rfl

section Updates

variable {before after : PickupStore}

theorem SameLasting.sound (same : SameLasting before after)
    (sound : Sound before) : Sound after := by
  have names : after.dispatches.map DispatchRow.named = before.dispatches.map DispatchRow.named :=
    map_eq_of_factor same.dispatches fun _ => rfl
  have bindings : after.fences.map FenceRow.binding = before.fences.map FenceRow.binding :=
    map_eq_of_factor same.fences fun _ => rfl
  have settlements : after.fences.map FenceRow.settlement = before.fences.map FenceRow.settlement :=
    map_eq_of_factor same.fences fun _ => rfl
  constructor
  · rw [← dispatchesSound_named, names, dispatchesSound_named]
    exact sound.dispatches
  · rw [← atGeneration_lasting, same.dispatches, atGeneration_lasting]
    exact sound.generations
  · rw [← eventsSound_lasting, same.dispatches, same.events, eventsSound_lasting]
    exact sound.events
  · rw [← outcomesSound_lasting, same.events, same.outcomes, outcomesSound_lasting]
    exact sound.outcomes
  · rw [← fencesSound_binding, names, bindings, fencesSound_binding]
    exact sound.fences
  · rw [← acksSound_settlement, settlements, same.acks, acksSound_settlement]
    exact sound.acks

end Updates

variable {selects : DispatchRow → Bool} {change : DispatchRow → DispatchRow}

theorem DispatchesSound.append {row : DispatchRow} (sound : DispatchesSound dispatches)
    (newKey : ∀ kept ∈ dispatches, kept.dispatchKey ≠ row.dispatchKey)
    (newTask : ∀ kept ∈ dispatches, kept.taskInstanceId.isSome →
      ¬ (kept.taskInstanceId = row.taskInstanceId ∧
        kept.workflowInstanceId = row.workflowInstanceId)) :
    DispatchesSound (dispatches ++ [row]) := by
  refine ⟨sound.keys.append newKey, ?_⟩
  intro first isFirst second isSecond task sameTask same
  rw [List.mem_append, List.mem_singleton] at isFirst isSecond
  rcases isFirst with isFirst | isFirst
  · rcases isSecond with isSecond | isSecond
    · exact sound.tasks first isFirst second isSecond task sameTask same
    · subst isSecond
      exact absurd ⟨sameTask, same⟩ (newTask first isFirst task)
  · subst isFirst
    rcases isSecond with isSecond | isSecond
    · rw [sameTask] at task
      exact absurd ⟨sameTask.symm, same.symm⟩ (newTask second isSecond task)
    · rw [isSecond]

theorem DispatchesSound.update (sound : DispatchesSound dispatches)
    (keeps : ∀ row, (change row).named = row.named) :
    DispatchesSound (updateWhere selects change dispatches) := by
  rw [← dispatchesSound_named, map_updateWhere keeps, dispatchesSound_named]
  exact sound

theorem atGeneration_update (sound : ∀ row ∈ dispatches, row.AtGeneration)
    (keeps : ∀ row ∈ dispatches, selects row = true → (change row).AtGeneration) :
    ∀ row ∈ updateWhere selects change dispatches, row.AtGeneration := by
  intro _ mem
  obtain ⟨old, isOld, isRow⟩ := mem_updateWhere.mp mem
  by_cases picked : selects old = true
  · rw [if_pos picked] at isRow
    rw [← isRow]
    exact keeps old isOld picked
  · rw [if_neg picked] at isRow
    rw [← isRow]
    exact sound old isOld

section Events

variable {event : EventRow} {kind : TaskEventKind} {store : PickupStore} {generation : Int}

theorem hasEvent_eq_false :
    store.hasEvent dispatchKey generation kind = false ↔
      ∀ event ∈ store.events, event.key ≠ (dispatchKey, generation, kind) := by
  simp [hasEvent, EventRow.key]

theorem hasOutcome_eq_false :
    store.hasOutcome dispatchKey generation = false ↔
      ∀ outcome ∈ store.outcomes, outcome.key ≠ (dispatchKey, generation) := by
  simp [hasOutcome, OutcomeRow.key]

theorem EventsSound.append (sound : EventsSound dispatches events)
    (newEvent : ∀ kept ∈ events, kept.key ≠ event.key) :
    EventsSound dispatches (events ++ [event]) := by
  refine ⟨sound.keys.append newEvent, ?_⟩
  intro row mem claimed
  obtain ⟨assigned, assigns, isKey⟩ := sound.assigned row mem claimed
  exact ⟨assigned, List.mem_append_left _ assigns, isKey⟩

theorem EventsSound.update
    (sound : EventsSound dispatches events) (assigned : ∀ row ∈ dispatches, selects row = true →
      (change row).state = .claimed →
        ∃ event ∈ events,
          event.key = ((change row).dispatchKey, (change row).pickupGeneration, .assigned)) :
    EventsSound (updateWhere selects change dispatches) events := by
  refine ⟨sound.keys, ?_⟩
  intro _ mem claims
  obtain ⟨old, isOld, isRow⟩ := mem_updateWhere.mp mem
  by_cases picked : selects old = true
  · rw [if_pos picked] at isRow
    subst isRow
    exact assigned old isOld picked claims
  · rw [if_neg picked] at isRow
    subst isRow
    exact sound.assigned old isOld claims

variable (sound : OutcomesSound events outcomes)
include sound

theorem OutcomesSound.append_event (terminal : event.kind.isTerminal = false) :
    OutcomesSound (events ++ [event]) outcomes := by
  refine ⟨sound.keys, ?_, ?_⟩
  · intro kept mem isTerminal
    rcases mem_append_row.mp mem with mem | new
    · exact sound.elected kept mem isTerminal
    · rw [new, terminal] at isTerminal
      cases isTerminal
  · intro outcome mem kind isKind
    obtain ⟨staged, stages, isKey⟩ := sound.staged outcome mem kind isKind
    exact ⟨staged, List.mem_append_left _ stages, isKey⟩

variable {outcome : OutcomeRow}

variable (newOutcome : ∀ kept ∈ outcomes, kept.key ≠ outcome.key)
include newOutcome

theorem OutcomesSound.append_elected
    (isEvent : event.key = (outcome.dispatchKey, outcome.pickupGeneration, event.kind))
    (isKind : eventKind outcome.outcome = some event.kind) :
    OutcomesSound (events ++ [event]) (outcomes ++ [outcome]) := by
  refine ⟨sound.keys.append newOutcome, ?_, ?_⟩
  · intro kept mem ends
    rcases mem_append_row.mp mem with mem | new
    · obtain ⟨elected, elects, isKey⟩ := sound.elected kept mem ends
      exact ⟨elected, List.mem_append_left _ elects, isKey⟩
    subst new
    simp only [EventRow.key, Prod.mk.injEq] at isEvent
    refine ⟨outcome, List.mem_append_right _ (.head _), ?_, isKind⟩
    simp [OutcomeRow.key, isEvent]
  · intro kept mem kind storedKind
    rcases mem_append_row.mp mem with mem | new
    · obtain ⟨staged, stages, isKey⟩ := sound.staged kept mem kind storedKind
      exact ⟨staged, List.mem_append_left _ stages, isKey⟩
    subst new
    have same : event.kind = kind := Option.some.inj (isKind.symm.trans storedKind)
    rw [← same]
    exact ⟨event, List.mem_append_right _ (.head _), isEvent⟩

theorem OutcomesSound.append_cancellation
    (noKind : eventKind outcome.outcome = none) :
    OutcomesSound events (outcomes ++ [outcome]) := by
  refine ⟨sound.keys.append newOutcome, ?_, ?_⟩
  · intro kept mem ends
    obtain ⟨elected, elects, isKey⟩ := sound.elected kept mem ends
    exact ⟨elected, List.mem_append_left _ elects, isKey⟩
  · intro kept mem kind isKind
    rcases mem_append_row.mp mem with mem | new
    · exact sound.staged kept mem kind isKind
    · rw [new, noKind] at isKind
      cases isKind

omit sound

end Events

section Fences

variable {fence : FenceRow} (sound : FencesSound dispatches fences)
include sound

theorem FencesSound.append (isDispatches : DispatchesSound dispatches)
    (generations : ∀ row ∈ dispatches, row.AtGeneration)
    (newKey : ∀ kept ∈ fences, kept.acknowledgementIdentity ≠ fence.acknowledgementIdentity)
    (above : ∀ generation, fence.pickupGeneration = some generation → 0 < generation)
    (current : FencesCurrent dispatches fence) :
    FencesSound dispatches (fences ++ [fence]) := by
  refine ⟨sound.keys.append newKey, ?_, ?_⟩
  · intro kept mem dispatchKey isKey
    rcases mem_append_row.mp mem with mem | new
    · exact sound.bound kept mem dispatchKey isKey
    subst new
    cases current with
    | waiting _ unbound =>
      rw [unbound] at isKey
      cases isKey
    | bound row isRow task flow rowKey =>
      have same := rowKey.symm.trans isKey
      have atGeneration := generations row isRow
      refine ⟨?_, row, isRow, Option.some.inj same, task, flow⟩
      unfold DispatchRow.AtGeneration at atGeneration
      -- a rejected dispatch is at generation zero, which is not fenced
      cases isState : row.state <;> simp_all
  · intro kept mem row isRow task
    rcases mem_append_row.mp mem with mem | new
    · exact sound.binds kept mem row isRow task
    subst new
    cases current with
    | waiting absent => exact absurd task (absent row isRow)
    | bound named isNamed namedTask namedWorkflow isKey =>
      rw [isKey, isDispatches.tasks named isNamed row isRow
        (by rw [namedTask]; rfl) (namedTask.trans task.1.symm)
        (namedWorkflow.trans task.2.symm)]

variable {change : FenceRow → FenceRow}

theorem FencesSound.update {selects : FenceRow → Bool}
    (keeps : ∀ fence, (change fence).binding = fence.binding) :
    FencesSound dispatches (updateWhere selects change fences) := by
  rw [← fencesSound_binding, map_updateWhere keeps, fencesSound_binding]
  exact sound

theorem FencesSound.update_dispatches
    {change : DispatchRow → DispatchRow} (keeps : ∀ row, (change row).named = row.named) :
    FencesSound (updateWhere selects change dispatches) fences := by
  rw [← fencesSound_binding, map_updateWhere keeps, fencesSound_binding]
  exact sound

omit sound

include sound in
theorem FencesSound.stage (newTask : ∀ row ∈ dispatches, row.taskInstanceId.isSome →
      ¬ (row.taskInstanceId = taskInstanceId ∧ row.workflowInstanceId = workflowInstanceId)) :
    FencesSound
      (dispatches ++ [stagedRow dispatchKey payload taskInstanceId workflowInstanceId now])
      (bindWaitingFences dispatchKey taskInstanceId workflowInstanceId fences) := by
  have oldBound : ∀ fence ∈ fences, ∀ key, fence.dispatchKey = some key →
      fence.pickupGeneration = some 1 ∧
        ∃ row ∈ dispatches ++ [stagedRow dispatchKey payload taskInstanceId
          workflowInstanceId now], row.dispatchKey = key ∧ fence.IsTask row := by
    intro fence mem key isKey
    obtain ⟨gen, row, isRow, task⟩ := sound.bound fence mem key isKey
    exact ⟨gen, row, List.mem_append_left _ isRow, task⟩
  cases taskInstanceId with
  | none =>
    refine ⟨sound.keys, oldBound, ?_⟩
    intro fence mem row isRow task
    rcases mem_append_row.mp isRow with isRow | new
    · exact sound.binds fence mem row isRow task
    · rw [new] at task
      cases task.1
  | some =>
    cases workflowInstanceId with
    | none =>
      refine ⟨sound.keys, oldBound, ?_⟩
      intro fence mem row isRow task
      rcases mem_append_row.mp isRow with isRow | new
      · exact sound.binds fence mem row isRow task
      · rw [new] at task
        cases task.2
    | some =>
      refine ⟨sound.keys.update fun _ => rfl, ?_, ?_⟩
      · intro _ mem key isKey
        obtain ⟨old, isOld, isFence⟩ := mem_updateWhere.mp mem
        split at isFence
        · rename_i waiting
          simp only [Bool.and_eq_true, decide_eq_true_eq] at waiting
          subst isFence
          refine ⟨rfl, _, List.mem_append_right _ (.head _),
            Option.some.inj isKey, ?_, ?_⟩
          · exact congrArg some waiting.1.2.symm
          · exact congrArg some waiting.2.symm
        · subst isFence
          exact oldBound old isOld key isKey
      · intro _ mem row isRow task
        obtain ⟨old, isOld, isFence⟩ := mem_updateWhere.mp mem
        rw [List.mem_append, List.mem_singleton] at isRow
        split at isFence
        · rename_i waiting
          subst isFence
          rcases isRow with isRow | new
          · -- a waiting fence's Task had no dispatch before
            have isBound := sound.binds old isOld row isRow task
            simp [isBound] at waiting
          · rw [new]
            rfl
        · rename_i notWaiting
          subst isFence
          rcases isRow with isRow | new
          · exact sound.binds old isOld row isRow task
          subst new
          have sameTask := Option.some.inj task.1
          have same := Option.some.inj task.2
          cases isKey : old.dispatchKey with
          | none => simp [isKey, sameTask, same] at notWaiting
          | some key =>
            obtain ⟨_, named, isNamed, _, namedTask⟩ := sound.bound old isOld key isKey
            unfold FenceRow.IsTask at namedTask
            rw [← sameTask, ← same] at namedTask
            exact absurd namedTask (newTask named isNamed (by rw [namedTask.1]; rfl))

theorem AcksSound.stage (sound : AcksSound fences acks) :
    AcksSound (bindWaitingFences dispatchKey taskInstanceId workflowInstanceId fences) acks := by
  unfold bindWaitingFences
  split
  · rw [← acksSound_settlement, map_updateWhere, acksSound_settlement]
    · exact sound
    · exact fun _ => rfl
  · exact sound

theorem AcksSound.append_fence (sound : AcksSound fences acks)
    (unsettled : fence.settledAt = none) :
    AcksSound (fences ++ [fence]) acks := by
  refine ⟨sound.keys, ?_⟩
  intro kept mem ends
  rcases mem_append_row.mp mem with mem | new
  · exact sound.staged kept mem ends
  · rw [new, unsettled] at ends
    cases ends

theorem AcksSound.settle {ack : AckRow} (sound : AcksSound fences acks)
    (isAck : ack.acknowledgementIdentity = identity)
    (keeps : ∀ fence, (change fence).acknowledgementIdentity = fence.acknowledgementIdentity) :
    AcksSound (updateWhere (fun held => held.acknowledgementIdentity = identity) change fences)
      (if acks.any fun held => held.acknowledgementIdentity = identity then
        acks else acks ++ [ack]) := by
  have staged : ∃ held ∈ (if acks.any fun held =>
      held.acknowledgementIdentity = identity then acks else acks ++ [ack]),
      held.acknowledgementIdentity = identity := by
    split
    · next stages => simpa only [List.any_eq_true, decide_eq_true_eq] using stages
    · exact ⟨ack, List.mem_append_right _ (.head _), isAck⟩
  have kept : ∀ held ∈ acks, held ∈ (if acks.any fun held =>
      held.acknowledgementIdentity = identity then acks
        else acks ++ [ack]) := by
    intro _ mem
    split
    · exact mem
    · exact List.mem_append_left _ mem
  constructor
  · split
    · exact sound.keys
    · rename_i new
      apply sound.keys.append
      simpa [isAck] using new
  · intro _ mem ends
    obtain ⟨old, isOld, isFence⟩ := mem_updateWhere.mp mem
    by_cases isIdentity : old.acknowledgementIdentity = identity
    · rw [if_pos (by simpa using isIdentity)] at isFence
      rw [← isFence, keeps, isIdentity]
      exact staged
    · rw [if_neg (by simpa using isIdentity)] at isFence
      subst isFence
      obtain ⟨held, stays, same⟩ := sound.staged old isOld ends
      exact ⟨held, kept held stays, same⟩

end Fences

theorem Change.sound {before after : PickupStore}
    (change : Change commits before after) (sound : Sound before) : Sound after := by
  cases change with
  | tended _ same => exact same.sound sound
  | staged _ _ _ _ _ newKey newTask =>
    refine ⟨sound.dispatches.append newKey newTask, ?_, ?_,
      sound.outcomes, sound.fences.stage newTask, sound.acks.stage⟩
    · intro row mem
      rcases mem_append_row.mp mem with mem | new
      · exact sound.generations row mem
      · rw [new]
        rfl
    · refine ⟨sound.events.keys, ?_⟩
      intro row mem claims
      rcases mem_append_row.mp mem with mem | new
      · exact sound.events.assigned row mem claims
      · rw [new] at claims
        cases claims
  | rejected =>
    refine ⟨sound.dispatches.update fun _ => rfl, ?_, ?_, sound.outcomes,
      sound.fences.update_dispatches fun _ => rfl, sound.acks⟩
    · apply atGeneration_update sound.generations
      intro row isRow picked
      simp only [PickupStore.isPending, Bool.and_eq_true, decide_eq_true_eq] at picked
      have atGeneration := sound.generations row isRow
      unfold DispatchRow.AtGeneration at atGeneration ⊢
      simpa [picked.2] using atGeneration
    · apply sound.events.update
      intro _ _ _ claims
      cases claims
  | claimed pending mem isPending uncovered selects selectsIt owner
      deadline event now newEvent =>
      have atGeneration := sound.generations pending mem
      unfold DispatchRow.AtGeneration at atGeneration
      simp only [isPending] at atGeneration
      refine ⟨sound.dispatches.update fun _ => rfl, ?_, ?_, sound.outcomes.append_event rfl,
        sound.fences.update_dispatches fun _ => rfl, sound.acks⟩
      · apply atGeneration_update sound.generations
        simp [DispatchRow.AtGeneration, atGeneration]
      · apply (sound.events.append (hasEvent_eq_false.mp newEvent)).update
        intro row isRow picked _
        have pendingRow := (selectsIt row isRow).mp picked
        rw [pendingRow]
        exact ⟨_, List.mem_append_right _ (.head _), rfl⟩
  | started _ _ _ _ newEvent =>
    exact ⟨sound.dispatches, sound.generations, sound.events.append (hasEvent_eq_false.mp newEvent),
      sound.outcomes.append_event rfl, sound.fences, sound.acks⟩
  | elected _ _ _ isOpen newEvent outcome kind isKind =>
      have isTerminal : kind.isTerminal = true := by cases outcome <;> cases isKind <;> rfl
      refine ⟨sound.dispatches, sound.generations, ?_,
        sound.outcomes.append_elected (hasOutcome_eq_false.mp isOpen) rfl
          isKind, sound.fences, sound.acks⟩
      apply sound.events.append
      intro stored kept sameKey
      simp only [hasTerminalEvent, List.any_eq_false, Bool.and_eq_true,
        decide_eq_true_eq, not_and, and_imp] at newEvent
      simp only [EventRow.key, Prod.mk.injEq] at sameKey
      apply newEvent stored kept sameKey.1 sameKey.2.1
      rw [sameKey.2.2]
      exact isTerminal
  | fenced _ _ admits current unsettled =>
    simp only [admitsFence, Bool.and_eq_true, Bool.not_eq_true',
      List.any_eq_false, Bool.or_eq_true, decide_eq_true_eq,
      not_or] at admits
    refine ⟨sound.dispatches, sound.generations, sound.events,
      sound.outcomes, sound.fences.append sound.dispatches
        sound.generations (fun stored kept => (admits.2 stored kept).1) ?_ current,
      sound.acks.append_fence unsettled⟩
    intro _ gen
    simpa [gen] using admits.1
  | settled _ reconciliation _ _ inserted _ inserts =>
      refine ⟨sound.dispatches, sound.generations, sound.events, ?_,
        sound.fences.update fun _ => rfl,
        sound.acks.settle rfl fun _ => rfl⟩
      cases inserted with
      | none =>
        rw [Option.toList_none, List.append_nil]
        exact sound.outcomes
      | some outcome =>
        obtain ⟨result, isOpen, _⟩ := inserts outcome rfl
        apply sound.outcomes.append_cancellation (hasOutcome_eq_false.mp isOpen)
        rw [result]
        cases reconciliation <;> rfl

variable {store : PickupStore}

theorem Sound.after (sound : Sound store) (call : PickupCall) : Sound (store.after call) :=
  (change_of_call sound.dispatches.keys call).sound sound

theorem Sound.afterAll (sound : Sound store)
    (calls : List PickupCall) : Sound (store.afterAll calls) := by
  induction calls generalizing store with
  | nil => exact sound
  | cons call _ ih => exact ih (sound.after call)

/-- In every history a Task has one dispatch at most, and its fence names it. -/
theorem fences_name_dispatches (calls : List PickupCall) :
    let store := PickupStore.empty.afterAll calls
    DispatchesSound store.dispatches ∧ FencesSound store.dispatches store.fences := by
  have sound := sound_empty.afterAll calls
  exact ⟨sound.dispatches, sound.fences⟩

end Tickr.LocalPickup
