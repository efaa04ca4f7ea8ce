import Tickr.LocalPickup.Store

/-!
# What the pickup transactions do to the tables

`Change` lists every effect that one transaction can have, and under which of the
transaction's guards it comes about.
-/

namespace Tickr.LocalPickup

open Table
open Pickup (Bytes AttemptOutcome CancellationReconciliation cancellationOutcome)
open PickupStore

variable {now : Int} {dispatchKey : String} {claim : TaskPickupClaim}

/-- The columns of a dispatch that its liveness does not touch. -/
def DispatchRow.lasting (row : DispatchRow) : DispatchRow :=
  { row with livenessDeadline := none, livenessArmedAt := none }

/-- The columns of an event that its forwarding does not touch. -/
def EventRow.lasting (row : EventRow) : EventRow := { row with forwardedAt := none }

/-- The columns of a fence that its notification does not touch. -/
def FenceRow.lasting (row : FenceRow) : FenceRow := { row with ownerNotifiedAt := none }

def AckRow.lasting (row : AckRow) : AckRow := { row with forwardedAt := none }

/-- The stores differ at most in deadlines and in what was forwarded or
notified. -/
structure SameLasting (before after : PickupStore) : Prop where
  dispatches : after.dispatches.map DispatchRow.lasting = before.dispatches.map DispatchRow.lasting
  events : after.events.map EventRow.lasting = before.events.map EventRow.lasting
  outcomes : after.outcomes = before.outcomes
  fences : after.fences.map FenceRow.lasting = before.fences.map FenceRow.lasting
  acks : after.acks.map AckRow.lasting = before.acks.map AckRow.lasting

theorem SameLasting.refl (store : PickupStore) : SameLasting store store :=
  ⟨rfl, rfl, rfl, rfl, rfl⟩

/-- The fence of a Task's dispatch: the next generation of a pending one, the
current one otherwise; without a dispatch it names none. -/
inductive FencesCurrent (dispatches : List DispatchRow) (fence : FenceRow) : Prop
  | waiting
      (absent : ∀ row ∈ dispatches,
        ¬ (row.taskInstanceId = some fence.taskInstanceId ∧
          row.workflowInstanceId = some fence.workflowInstanceId))
      (unbound : fence.dispatchKey = none)
      (noGeneration : fence.pickupGeneration = none)
      (noOwner : fence.owner = none)
  | bound (row : DispatchRow) (member : row ∈ dispatches)
      (isTask : row.taskInstanceId = some fence.taskInstanceId)
      (isWorkflow : row.workflowInstanceId = some fence.workflowInstanceId)
      (isKey : fence.dispatchKey = some row.dispatchKey)
      (isGeneration : fence.pickupGeneration =
        some (if row.state = .pending then row.pickupGeneration + 1
          else row.pickupGeneration))

/-- Every effect of one transaction, which may commit certain fences. -/
inductive Change (commits : FenceRow → Prop) (before : PickupStore) : PickupStore → Prop
  /-- Deadlines, forwarding and notification. -/
  | tended (after : PickupStore) (same : SameLasting before after) : Change commits before after
  | staged (dispatchKey : String) (payload : Bytes)
      (taskInstanceId workflowInstanceId : Option String) (now : Int)
      (newKey : ∀ row ∈ before.dispatches, row.dispatchKey ≠ dispatchKey)
      (newIdentity : ∀ row ∈ before.dispatches, row.taskInstanceId.isSome →
        ¬ (row.taskInstanceId = taskInstanceId ∧ row.workflowInstanceId = workflowInstanceId))
      (wholeIdentity : taskInstanceId.isSome = workflowInstanceId.isSome) :
      Change commits before { before with
          dispatches := before.dispatches ++
            [stagedRow dispatchKey payload taskInstanceId workflowInstanceId now]
          fences := bindWaitingFences dispatchKey taskInstanceId workflowInstanceId before.fences }
  | rejected (pending : DispatchRow) (member : pending ∈ before.dispatches)
      (isPending : pending.state = .pending) (reason : String)
      (quarantine : List QuarantineRow) :
      Change commits before { before with
          quarantine
          dispatches := updateWhere (PickupStore.isPending pending.dispatchKey) (fun row =>
              { row with
                state := .rejected
                rejectionReason := some reason })
            before.dispatches }
  | claimed (pending : DispatchRow) (member : pending ∈ before.dispatches)
      (isPending : pending.state = .pending)
      (uncovered : ∀ fence ∈ before.fences,
        covers pending (pending.pickupGeneration + 1) fence = false)
      (selects : DispatchRow → Bool)
      (selectsIt : ∀ row ∈ before.dispatches, selects row = true ↔ row = pending)
      (owner : String) (deadline : Int) (event : Bytes) (now : Int)
      (newEvent : before.hasEvent pending.dispatchKey
        (pending.pickupGeneration + 1) .assigned = false) :
      Change commits before { before with
          dispatches := updateWhere selects (fun row =>
              { row with
                state := .claimed
                pickupGeneration := pending.pickupGeneration + 1
                owner := some owner
                livenessDeadline := some deadline })
            before.dispatches
          events := before.events ++
            [{ dispatchKey := pending.dispatchKey
               pickupGeneration := pending.pickupGeneration + 1
               kind := .assigned
               event
               stagedAt := now
               forwardedAt := none }] }
  | started (row : DispatchRow) (member : row ∈ before.dispatches)
      (isClaimed : row.state = .claimed)
      (isOpen : before.hasOutcome row.dispatchKey row.pickupGeneration = false)
      (newEvent : before.hasEvent row.dispatchKey row.pickupGeneration .started = false)
      (event : Bytes) (now : Int) :
      Change commits before { before with
          events := before.events ++
            [{ dispatchKey := row.dispatchKey
               pickupGeneration := row.pickupGeneration
               kind := .started
               event
               stagedAt := now
               forwardedAt := none }] }
  | elected (row : DispatchRow) (member : row ∈ before.dispatches)
      (isClaimed : row.state = .claimed)
      (isOpen : before.hasOutcome row.dispatchKey row.pickupGeneration = false)
      (newEvent : before.hasTerminalEvent row.dispatchKey row.pickupGeneration = false)
      (outcome : AttemptOutcome) (kind : TaskEventKind)
      (isKind : eventKind outcome = some kind) (event : Bytes) (now : Int) :
      Change commits before { before with
          outcomes := before.outcomes ++ [⟨row.dispatchKey, row.pickupGeneration, outcome⟩]
          events := before.events ++
            [{ dispatchKey := row.dispatchKey
               pickupGeneration := row.pickupGeneration
               kind
               event
               stagedAt := now
               forwardedAt := none }] }
  | fenced (fence : FenceRow) (isCommitted : commits fence)
      (admits : before.admitsFence fence = true)
      (current : FencesCurrent before.dispatches fence)
      (unsettled : fence.settledAt = none) :
      Change commits before { before with fences := before.fences ++ [fence] }
  | settled (identity : String)
      (reconciliation : CancellationReconciliation) (acknowledgement : Bytes)
      (now : Int) (inserted : Option OutcomeRow)
      (isFence : ∃ fence ∈ before.fences, fence.acknowledgementIdentity = identity)
      (isInserted : ∀ outcome, inserted = some outcome →
        outcome.outcome = cancellationOutcome reconciliation ∧
          before.hasOutcome outcome.dispatchKey outcome.pickupGeneration = false ∧
          ∃ fence ∈ before.fences, ∃ row ∈ before.dispatches,
            settles fence row = true ∧ outcome.dispatchKey = row.dispatchKey ∧
              fence.pickupGeneration = some outcome.pickupGeneration) :
      Change commits before { before with
          outcomes := before.outcomes ++ inserted.toList
          fences := updateWhere (fun stored => stored.acknowledgementIdentity = identity)
            (fun stored =>
              { stored with
                reconciliation := some (stored.reconciliation.getD reconciliation)
                settledAt := some (stored.settledAt.getD now) })
            before.fences
          acks :=
            if before.acks.any fun stored =>
                stored.acknowledgementIdentity = identity then
              before.acks
            else
              before.acks ++
                [{ acknowledgementIdentity := identity
                   acknowledgement
                   stagedAt := now
                   forwardedAt := none }] }

theorem change_nothing {commits : FenceRow → Prop} (store : PickupStore) :
    Change commits store store := .tended store (.refl store)

def PickupCall.Commits : PickupCall → FenceRow → Prop
  | .commitFence identity task workflow _, fence =>
    fence.acknowledgementIdentity = identity ∧
      fence.taskInstanceId = task ∧ fence.workflowInstanceId = workflow
  | _, _ => False

variable {commits : FenceRow → Prop} {store : PickupStore}

theorem change_guarded {α : Type} {transaction : Transacted α}
    (changes : checked = .ok () → Change commits store transaction.2) :
    Change commits store (guarded checked store transaction).2 := by
  cases checked with
  | error => exact change_nothing store
  | ok => exact changes rfl

theorem change_of_stage {taskInstanceId workflowInstanceId : Option String} :
    Change commits store (store.stageTaskDispatch dispatchKey payload
      taskInstanceId workflowInstanceId now).2 := by
  apply change_guarded
  intro valid
  have identity : taskInstanceId.isSome = workflowInstanceId.isSome := by
    cases taskInstanceId <;> cases workflowInstanceId <;>
      simp_all [bind, Except.bind]
    · split at valid <;> cases valid
    · split at valid <;> cases valid
  dsimp only
  split
  · split
    · split
      · exact change_nothing store
      · exact change_nothing store
    · exact change_nothing store
  · rename_i new
    simp only [List.any_eq_true, Bool.or_eq_true, decide_eq_true_eq,
      not_exists, not_and, not_or] at new
    apply Change.staged dispatchKey payload taskInstanceId workflowInstanceId now
    · intro row mem
      exact (new row mem).1
    · intro row mem task same
      apply (new row mem).2
      obtain ⟨sameTask, flow⟩ := same
      subst sameTask
      subst flow
      simp [sameIdentity, stagedRow, task, ← identity]
    · exact identity

theorem change_of_reject {reason : String} :
    Change commits store (store.rejectTaskDispatch dispatchKey reason).2 := by
  apply change_guarded
  intro _
  split
  · exact change_nothing store
  rename_i pending found
  split
  · exact change_nothing store
  have mem := List.mem_of_find?_eq_some found
  have isPending := List.find?_some found
  simp only [PickupStore.isPending, Bool.and_eq_true, decide_eq_true_eq] at isPending
  have made : Change commits store _ := .rejected pending mem isPending.2 reason
    (store.quarantine ++ [⟨dispatchKey, pending.payload, reason⟩])
  rw [isPending.1] at made
  exact made

theorem checkedSucc_eq_some {gen next : Int}
    (isNext : checkedSucc gen = some next) : next = gen + 1 := by
  unfold checkedSucc at isNext
  split at isNext
  · cases isNext
    rfl
  · cases isNext

structure ClaimTakes (store : PickupStore) (input : ClaimTaskPickupInput)
    (pending : DispatchRow) : Prop where
  member : pending ∈ store.dispatches
  isKey : pending.dispatchKey = input.dispatchKey
  isPending : pending.state = .pending
  uncovered : ∀ fence ∈ store.fences, covers pending (pending.pickupGeneration + 1) fence = false
  selectsIt : ∀ row ∈ store.dispatches,
    store.claimable input.dispatchKey pending.pickupGeneration
      (pending.pickupGeneration + 1) row = true ↔ row = pending
  newEvent : store.hasEvent pending.dispatchKey (pending.pickupGeneration + 1) .assigned = false

/-- The tables with the dispatch claimed and its Assigned event staged. -/
def PickupStore.claimed (store : PickupStore) (input : ClaimTaskPickupInput)
    (pending : DispatchRow) : PickupStore :=
  { store with
    dispatches := updateWhere
      (store.claimable input.dispatchKey pending.pickupGeneration (pending.pickupGeneration + 1))
      (fun row =>
        { row with
          state := .claimed
          pickupGeneration := pending.pickupGeneration + 1
          owner := some input.owner
          livenessDeadline := some input.livenessDeadline })
      store.dispatches
    events := store.events ++
      [{ dispatchKey := pending.dispatchKey
         pickupGeneration := pending.pickupGeneration + 1
         kind := .assigned
         event := input.assignedEvent
         stagedAt := input.now
         forwardedAt := none }] }

variable (keys : Keyed DispatchRow.dispatchKey store.dispatches)

include keys in
theorem claimable_iff {pending row : DispatchRow}
    (isPending : pending ∈ store.dispatches) (isKey : pending.dispatchKey = dispatchKey)
    (one : affected (store.claimable dispatchKey pending.pickupGeneration
      gen) store.dispatches = 1) (mem : row ∈ store.dispatches) :
    store.claimable dispatchKey pending.pickupGeneration gen row = true ↔ row = pending := by
  have byKey : ∀ other ∈ store.dispatches,
      store.claimable dispatchKey pending.pickupGeneration gen other =
        true → other = pending := by
    intro _ ne picked
    simp only [claimable, PickupStore.isPending, Bool.and_eq_true, decide_eq_true_eq] at picked
    exact keys.eq ne isPending (picked.1.1.1.trans isKey.symm)
  have isSome : affected (store.claimable dispatchKey
      pending.pickupGeneration gen) store.dispatches ≠ 0 := by
    omega
  obtain ⟨taken, isTaken, picked⟩ := exists_of_affected isSome
  constructor
  · exact byKey row mem
  · intro same
    have takenRow := byKey taken isTaken picked
    rw [same, ← takenRow]
    rw [← takenRow] at picked
    exact picked

theorem claim_cases (input : ClaimTaskPickupInput)
    (keys : Keyed DispatchRow.dispatchKey store.dispatches) :
    ((∀ claim, (store.claimTaskPickup input).1 ≠ .ok (.committed claim)) ∧
      (store.claimTaskPickup input).2 = store) ∨
    ∃ pending, ClaimTakes store input pending ∧
      store.claimTaskPickup input =
        (.ok (.committed
          { dispatchKey := input.dispatchKey
            pickupGeneration := pending.pickupGeneration + 1
            owner := input.owner
            livenessDeadline := input.livenessDeadline }),
          store.claimed input pending) := by
  unfold claimTaskPickup guarded
  split
  · exact .inl ⟨by simp, rfl⟩
  split
  · exact .inl ⟨by simp, rfl⟩
  rename_i pending hit
  have mem := List.mem_of_find?_eq_some hit
  have found := List.find?_some hit
  simp only [PickupStore.isPending, Bool.and_eq_true, decide_eq_true_eq] at found
  split
  · exact .inl ⟨by simp, rfl⟩
  rename_i generation next
  have gen := checkedSucc_eq_some next
  subst gen
  dsimp only
  split
  · exact .inl ⟨by simp, rfl⟩
  rename_i one
  rw [not_not] at one
  split
  · exact .inl ⟨by simp, rfl⟩
  rename_i event
  refine .inr ⟨pending, ?_, ?_⟩
  · have selectsIt : ∀ row ∈ store.dispatches, _ :=
      fun _ isRow =>
        claimable_iff keys mem found.1 one isRow
    have picked := (selectsIt pending mem).mpr rfl
    refine ⟨mem, found.1, found.2, ?_, selectsIt, ?_⟩
    · simp only [claimable, Bool.and_eq_true,
        Bool.not_eq_true', List.any_eq_false] at picked
      intro fence isFence
      simpa using picked.2 fence isFence
    · rw [found.1]
      simpa using event
  · rw [PickupStore.claimed, found.1]

include keys in
theorem change_of_claim {input : ClaimTaskPickupInput} :
    Change commits store (store.claimTaskPickup input).2 := by
  rcases claim_cases input keys with ⟨_, same⟩ | ⟨pending, takes, isClaim⟩
  · rw [same]
    exact change_nothing store
  rw [isClaim]
  exact .claimed pending takes.member takes.isPending takes.uncovered _
    takes.selectsIt input.owner input.livenessDeadline input.assignedEvent
    input.now takes.newEvent

theorem change_of_stageStarted {event : Bytes} :
    Change commits store (store.stageTaskStarted claim event now).2 := by
  unfold stageTaskStarted
  split
  · exact change_nothing store
  rename_i row hit
  have mem := List.mem_of_find?_eq_some hit
  have found := List.find?_some hit
  simp only [holdsClaim, Bool.and_eq_true, decide_eq_true_eq, Bool.not_eq_true'] at found
  split
  · exact change_nothing store
  · rename_i newEvent
    exact .started row mem found.1.1.1.1.2 found.2 (by simpa using newEvent) event now

theorem change_of_elect {event : Bytes} :
    Change commits store (store.electTaskPickupTerminal claim outcome event now).2 := by
  apply change_guarded
  intro _
  split
  · exact change_nothing store
  rename_i kind isKind
  split
  · rename_i isOpen
    split
    · exact change_nothing store
    rename_i newEvent
    simp only [Bool.and_eq_true, Bool.not_eq_true', List.any_eq_true] at isOpen
    obtain ⟨⟨row, mem, holds⟩, isOpen⟩ := isOpen
    simp only [holdsClaim, Bool.and_eq_true, decide_eq_true_eq] at holds
    obtain ⟨⟨⟨sameKey, claimed⟩, same⟩, _⟩ := holds
    have made : Change commits store _ := .elected row mem claimed
      (by rw [sameKey, same]; exact isOpen)
      (by rw [sameKey, same]; simpa using newEvent)
      outcome kind isKind event now
    rw [sameKey, same] at made
    exact made
  · split
    · exact change_nothing store
    · exact change_nothing store

theorem fencesCurrent_of_fencedGeneration {task flow identity : String}
    {dispatchKey owner : Option String} {pickupGeneration : Option Int}
    (isFenced : fencedGeneration task (store.dispatches.find? fun row =>
        row.taskInstanceId = some task && row.workflowInstanceId = some flow) =
        .ok (dispatchKey, pickupGeneration, owner)) :
    FencesCurrent store.dispatches
      { acknowledgementIdentity := identity
        taskInstanceId := task
        workflowInstanceId := flow
        dispatchKey, pickupGeneration, owner
        committedAt := now
        ownerNotifiedAt := none
        reconciliation := none
        settledAt := none } := by
  cases hit : store.dispatches.find? fun row =>
      row.taskInstanceId = some task && row.workflowInstanceId = some flow with
  | none =>
    rw [hit] at isFenced
    cases isFenced
    refine .waiting ?_ rfl rfl rfl
    intro row mem isTask
    have notFound := List.find?_eq_none.mp hit row mem
    simp [isTask.1, isTask.2] at notFound
  | some row =>
    have mem := List.mem_of_find?_eq_some hit
    have found := List.find?_some hit
    simp only [Bool.and_eq_true, decide_eq_true_eq] at found
    rw [hit] at isFenced
    unfold fencedGeneration at isFenced
    dsimp only at isFenced
    by_cases waits : row.state = .pending
    · rw [if_pos waits] at isFenced
      split at isFenced
      · cases isFenced
      rename_i gen next
      cases isFenced
      refine .bound row mem found.1 found.2 rfl ?_
      rw [if_pos waits, checkedSucc_eq_some next]
    · rw [if_neg waits] at isFenced
      cases isFenced
      refine .bound row mem found.1 found.2 rfl ?_
      rw [if_neg waits]

theorem change_of_commit {identity task flow : String} :
    Change (PickupCall.commitFence identity task flow now).Commits store
      (store.commitTaskCancellationFence identity task flow now).2 := by
  apply change_guarded
  intro _
  split
  · exact change_nothing store
  rename_i dispatchKey pickupGeneration owner isFenced
  have current : Change (PickupCall.commitFence identity task flow
      now).Commits store (store.insertFence
      { acknowledgementIdentity := identity
        taskInstanceId := task
        workflowInstanceId := flow
        dispatchKey, pickupGeneration, owner
        committedAt := now
        ownerNotifiedAt := none
        reconciliation := none
        settledAt := none }) := by
    unfold insertFence
    split
    · rename_i admits
      exact .fenced _ ⟨rfl, rfl, rfl⟩ admits (fencesCurrent_of_fencedGeneration isFenced) rfl
    · exact change_nothing store
  dsimp only
  split
  · exact current
  · exact current

variable {reconciliation : CancellationReconciliation} {fence : TaskCancellationFence}

theorem settlementOutcome_eq_some {outcome : OutcomeRow}
    (result : store.settlementOutcome fence reconciliation = some outcome) :
    outcome.outcome = cancellationOutcome reconciliation ∧
      store.hasOutcome outcome.dispatchKey outcome.pickupGeneration = false ∧
      ∃ held ∈ store.fences, ∃ row ∈ store.dispatches,
        settles held row = true ∧ outcome.dispatchKey = row.dispatchKey ∧
          held.pickupGeneration = some outcome.pickupGeneration := by
  unfold settlementOutcome at result
  split at result
  · simp only [Option.bind_eq_bind, Option.bind_eq_some_iff] at result
    obtain ⟨held, kept, row, isRow, _, gen, isOpen⟩ := result
    split at isOpen
    · cases isOpen
    rename_i open_
    cases isOpen
    refine ⟨rfl, by simpa using open_, held, List.mem_of_find?_eq_some kept, row,
      List.mem_of_find?_eq_some isRow, List.find?_some isRow, rfl,
      gen⟩
  · cases result

theorem change_of_settle {ack : Bytes} :
    Change commits store (store.settleTaskCancellation fence reconciliation
      ack now).2 := by
  unfold settleTaskCancellation
  split
  · rename_i isFence
    simp only [List.any_eq_true, decide_eq_true_eq] at isFence
    exact .settled fence.acknowledgementIdentity reconciliation
      ack now (store.settlementOutcome fence reconciliation)
      isFence fun _ result => settlementOutcome_eq_some result
  · exact change_nothing store

include keys in
theorem change_of_call (call : PickupCall) : Change call.Commits store (store.after call) := by
  cases call with
  | stage => exact change_of_stage
  | reject => exact change_of_reject
  | claim => exact change_of_claim keys
  | proveAmbiguous =>
    apply change_guarded
    intro _
    split
    · exact change_nothing store
    · split
      · exact change_nothing store
      · exact change_nothing store
  | arm | renew | registerFailure =>
    apply change_guarded
    intro _
    exact .tended _ ⟨map_updateWhere fun _ => rfl, rfl, rfl, rfl, rfl⟩
  | proveReady => exact change_nothing store
  | stageStarted => exact change_of_stageStarted
  | elect => exact change_of_elect
  | markEventForwarded =>
    exact .tended _ ⟨rfl, map_updateWhere fun _ => rfl, rfl, rfl, rfl⟩
  | commitFence => exact change_of_commit
  | markOwnerNotified =>
    exact .tended _ ⟨rfl, rfl, rfl, map_updateWhere fun _ => rfl, rfl⟩
  | settle => exact change_of_settle
  | markAckForwarded => exact .tended _ ⟨rfl, rfl, rfl, rfl, map_updateWhere fun _ => rfl⟩

end Tickr.LocalPickup
