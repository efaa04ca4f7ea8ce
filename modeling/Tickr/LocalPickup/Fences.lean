import Tickr.LocalPickup.Laws

/-!
# Committing a cancellation fence

A fence is committed under an acknowledgement identity made of the ids of a Task
and its run, so that a repeated request finds the fence of the first one.
-/

namespace Tickr.LocalPickup

open Table
open Pickup (Bytes CancellationReconciliation)
open PickupStore

/-- The text of an instance id: thirty-six one-byte characters. -/
structure InstanceId where
  text : String
  length_text : text.toList.length = 36
  size_text : text.utf8ByteSize = 36

def acknowledgementVersion : String := "cancel-task-ack-v1:"

def cancellationAcknowledgementIdentity (workflow task : InstanceId) :
    String := acknowledgementVersion ++ (workflow.text ++ (":" ++ task.text))

theorem cancellationAcknowledgementIdentity_injective
    (same : cancellationAcknowledgementIdentity workflow task =
      cancellationAcknowledgementIdentity other otherTask) :
    workflow.text = other.text ∧ task.text = otherTask.text := by
  have sameIds := String.append_right_inj _ |>.mp same
  have list := congrArg String.toList sameIds
  simp only [String.toList_append] at list
  have sameLength : workflow.text.toList.length = other.text.toList.length := by
    rw [workflow.length_text, other.length_text]
  obtain ⟨sameWorkflow, rest⟩ := List.append_inj list sameLength
  have sameTask := List.append_cancel_left rest
  exact ⟨String.toList_inj.mp sameWorkflow, String.toList_inj.mp sameTask⟩

theorem validateBytes_ok (nonempty : text.utf8ByteSize ≠ 0) (fits : text.utf8ByteSize ≤ limit) :
    validateBytes limit error text = .ok () := by
  unfold validateBytes
  rw [if_neg]
  omega

theorem validateCancellationIdentity_text (id : InstanceId) :
    validateCancellationIdentity id.text = .ok () := by
  have size := id.size_text
  apply validateBytes_ok
  · omega
  · simp [size, maxOwnerBytes]

theorem validateCancellationIdentity_acknowledgement (workflow task : InstanceId) :
    validateCancellationIdentity (cancellationAcknowledgementIdentity workflow task) = .ok () := by
  have size : (cancellationAcknowledgementIdentity workflow task).utf8ByteSize = 92 := by
    unfold cancellationAcknowledgementIdentity
    rw [String.utf8ByteSize_append, String.utf8ByteSize_append,
      String.utf8ByteSize_append, workflow.size_text, task.size_text]
    decide
  apply validateBytes_ok
  · omega
  · simp [size, maxOwnerBytes]

/-- The fence is committed under the identity of its Task. -/
def FenceRow.IsStable (fence : FenceRow) : Prop :=
  ∃ workflow task : InstanceId,
    fence.acknowledgementIdentity = cancellationAcknowledgementIdentity workflow task ∧
      fence.taskInstanceId = task.text ∧
      fence.workflowInstanceId = workflow.text

/-- The transaction commits no fence under another identity. -/
def PickupCall.CommitsStably (call : PickupCall) : Prop :=
  ∀ fence, call.Commits fence → fence.IsStable

theorem FenceRow.IsStable.of_eq {first second : FenceRow} (stable : first.IsStable)
    (same : second.acknowledgementIdentity = first.acknowledgementIdentity ∧
      second.taskInstanceId = first.taskInstanceId ∧
      second.workflowInstanceId = first.workflowInstanceId) :
    second.IsStable := by
  obtain ⟨workflow, task, identity, isTask, isWorkflow⟩ := stable
  exact ⟨workflow, task, same.1.trans identity, same.2.1.trans isTask, same.2.2.trans isWorkflow⟩

theorem isStable_updateWhere {fences : List FenceRow} (stable : ∀ fence ∈ fences, fence.IsStable)
    (keeps : ∀ fence, (change fence).acknowledgementIdentity = fence.acknowledgementIdentity ∧
      (change fence).taskInstanceId = fence.taskInstanceId ∧
      (change fence).workflowInstanceId = fence.workflowInstanceId) :
    ∀ fence ∈ updateWhere selects change fences, fence.IsStable := by
  intro _ mem
  obtain ⟨old, isOld, isFence⟩ := mem_updateWhere.mp mem
  split at isFence
  · rw [← isFence]
    exact (stable old isOld).of_eq (keeps old)
  · rw [← isFence]
    exact stable old isOld

theorem Change.stable {before after : PickupStore}
    (change : Change commits before after) (committed : ∀ fence, commits fence → fence.IsStable)
    (stable : ∀ fence ∈ before.fences, fence.IsStable) :
    ∀ fence ∈ after.fences, fence.IsStable := by
  cases change with
  | tended _ same =>
    intro _ mem
    obtain ⟨old, isOld, sameFence⟩ := exists_mem_of_map_eq same.fences mem
    exact (stable old isOld).of_eq (FenceRow.of_lasting sameFence.symm)
  | staged =>
    simp only [bindWaitingFences]
    split
    · exact isStable_updateWhere stable fun _ => ⟨rfl, rfl, rfl⟩
    · exact stable
  | rejected
  | claimed pending mem isPending uncovered selects selectsIt owner
      deadline event now newEvent
  | started | elected => exact stable
  | fenced fence isCommitted =>
    intro stored mem
    rcases mem_append_row.mp mem with mem | new
    · exact stable stored mem
    · rw [new]
      exact committed fence isCommitted
  | settled =>
      exact isStable_updateWhere stable fun _ => ⟨rfl, rfl, rfl⟩

variable {calls : List PickupCall}

theorem stable_afterAll (sound : Sound store) (stable : ∀ fence ∈ store.fences, fence.IsStable)
    (commits : ∀ call ∈ calls, call.CommitsStably) :
    ∀ fence ∈ (store.afterAll calls).fences, fence.IsStable := by
  induction calls generalizing store with
  | nil => exact stable
  | cons call _ ih =>
    have change := change_of_call sound.dispatches.keys call
    apply ih (sound.after call)
    · exact change.stable (commits call (.head _)) stable
    · intro later isLater
      exact commits later (.tail _ isLater)

variable {store : PickupStore} {task workflow : InstanceId} {now : Int}

def FenceRow.IsOf (fence : FenceRow) (task workflow : InstanceId) : Prop :=
  fence.acknowledgementIdentity = cancellationAcknowledgementIdentity workflow task ∧
    fence.taskInstanceId = task.text ∧
    fence.workflowInstanceId = workflow.text

def PickupStore.commitOf (store : PickupStore) (task workflow : InstanceId)
    (now : Int) : Transacted TaskCancellationFence :=
  store.commitTaskCancellationFence (cancellationAcknowledgementIdentity workflow task) task.text
    workflow.text now

abbrev PickupStore.fenceOf (store : PickupStore) (task workflow : InstanceId) : Option FenceRow :=
  store.fences.find? fun stored =>
    stored.acknowledgementIdentity = cancellationAcknowledgementIdentity workflow task

/-- The request leaves the Task's fence in the table and answers with it. -/
def PickupStore.Answers (store : PickupStore) (task workflow : InstanceId) (now : Int) : Prop :=
  ∃ fence : FenceRow, fence.IsOf task workflow ∧
    (store.commitOf task workflow now).2.fenceOf task workflow = some fence ∧
      (store.commitOf task workflow now).1 =
        .ok ((store.commitOf task workflow now).2.loadedFence fence)

/-- A rejected dispatch is fenced before it is rejected. -/
def PickupStore.Fenceable (store : PickupStore) (task workflow : InstanceId) : Prop :=
  ∀ row ∈ store.dispatches, row.taskInstanceId = some task.text →
    row.workflowInstanceId = some workflow.text → row.state = .rejected →
      ∃ fence ∈ store.fences, fence.IsOf task workflow

theorem FenceRow.IsStable.isOf {fence : FenceRow} (stable : fence.IsStable)
    (found : fence.acknowledgementIdentity = cancellationAcknowledgementIdentity workflow task ∨
      fence.taskInstanceId = task.text ∧ fence.workflowInstanceId = workflow.text) :
    fence.IsOf task workflow := by
  obtain ⟨_, _, identity, isTask, isWorkflow⟩ := stable
  rcases found with sameId | ⟨sameTask, sameWorkflow⟩
  · have same := cancellationAcknowledgementIdentity_injective (identity.symm.trans sameId)
    exact ⟨sameId, isTask.trans same.2, isWorkflow.trans same.1⟩
  refine ⟨?_, sameTask, sameWorkflow⟩
  rw [identity, cancellationAcknowledgementIdentity,
    cancellationAcknowledgementIdentity, ← isTask, ← isWorkflow, sameTask,
    sameWorkflow]

theorem fencedGeneration_ok (sound : Sound store) (identity : String)
    (selects : DispatchRow → Bool) :
    ∃ dispatchKey pickupGeneration owner,
      fencedGeneration identity (store.dispatches.find? selects) =
          .ok (dispatchKey, pickupGeneration, owner) ∧
        ((∀ row, store.dispatches.find? selects = some row → row.state ≠ .rejected) →
          (pickupGeneration.all fun generation => 0 < generation) = true) := by
  cases found : store.dispatches.find? selects with
  | none => exact ⟨none, none, none, rfl, fun _ => rfl⟩
  | some row =>
    have gen := sound.generations row (List.mem_of_find?_eq_some found)
    unfold DispatchRow.AtGeneration at gen
    cases isState : row.state with
    | pending =>
      refine ⟨some row.dispatchKey, some 1, none, ?_, fun _ => rfl⟩
      simp [fencedGeneration, isState, gen, checkedSucc]
    | claimed =>
      simp [fencedGeneration, isState, gen]
    | rejected =>
      simp [fencedGeneration, isState]

theorem validated (task workflow : InstanceId) :
    (do
      validateCancellationIdentity (cancellationAcknowledgementIdentity workflow task)
      validateCancellationIdentity task.text
      validateCancellationIdentity workflow.text) = .ok () := by
  rw [validateCancellationIdentity_acknowledgement,
    validateCancellationIdentity_text, validateCancellationIdentity_text]
  rfl

theorem commitOf_fenced (sound : Sound store) (hit : store.fenceOf task workflow = some fence) :
    store.commitOf task workflow now = (.ok (store.loadedFence fence), store) := by
  unfold commitOf commitTaskCancellationFence guarded
  rw [validated]
  obtain ⟨_, _, _, isFenced, _⟩ :=
    fencedGeneration_ok sound task.text fun row =>
      row.taskInstanceId = some task.text && row.workflowInstanceId = some workflow.text
  have mem := List.mem_of_find?_eq_some hit
  have found := List.find?_some hit
  have identity := of_decide_eq_true found
  have refused : ∀ other : FenceRow, other.acknowledgementIdentity =
      cancellationAcknowledgementIdentity workflow task → store.insertFence other = store := by
    intro _ same
    unfold insertFence
    rw [if_neg]
    simp only [admitsFence, Bool.and_eq_true, Bool.not_eq_true', List.any_eq_false, not_and]
    intro _ new
    apply new fence mem
    simp [identity, same]
  simp only [isFenced]
  rw [refused _ rfl]
  simp only [loadTaskCancellationFence, hit, Option.map_some]

theorem commitOf_unfenced (sound : Sound store) (stable : ∀ fence ∈ store.fences, fence.IsStable)
    (new : ∀ fence ∈ store.fences, ¬ fence.IsOf task workflow)
    (fenceable : store.Fenceable task workflow) :
    store.Answers task workflow now := by
  obtain ⟨dispatchKey, pickupGeneration, owner, isFenced, above⟩ :=
    fencedGeneration_ok sound task.text fun row =>
      row.taskInstanceId = some task.text && row.workflowInstanceId = some workflow.text
  have notRejected : ∀ row, (store.dispatches.find? fun row =>
      row.taskInstanceId = some task.text &&
        row.workflowInstanceId = some workflow.text) = some row →
      row.state ≠ .rejected := by
    intro row isRow isRejected
    have found := List.find?_some isRow
    simp only [Bool.and_eq_true, decide_eq_true_eq] at found
    obtain ⟨fence, mem, isOf⟩ := fenceable row
      (List.mem_of_find?_eq_some isRow) found.1 found.2 isRejected
    exact new fence mem isOf
  let fence : FenceRow :=
    { acknowledgementIdentity := cancellationAcknowledgementIdentity workflow task
      taskInstanceId := task.text
      workflowInstanceId := workflow.text
      dispatchKey, pickupGeneration, owner
      committedAt := now
      ownerNotifiedAt := none
      reconciliation := none
      settledAt := none }
  have admits : store.admitsFence fence = true := by
    simp only [admitsFence, Bool.and_eq_true, Bool.not_eq_true',
      List.any_eq_false, Bool.or_eq_true, decide_eq_true_eq]
    refine ⟨above notRejected, ?_⟩
    intro kept mem found
    exact new kept mem ((stable kept mem).isOf found)
  have inserted : store.insertFence fence = { store with fences := store.fences ++ [fence] } := by
    unfold insertFence
    rw [if_pos admits]
  have hit : (store.insertFence fence).fenceOf task workflow = some fence := by
    have absent : store.fenceOf task workflow = none := by
      rw [List.find?_eq_none]
      intro kept mem same
      exact new kept mem ((stable kept mem).isOf
        (.inl (of_decide_eq_true same)))
    rw [inserted]
    simp only [fenceOf] at absent ⊢
    simp [absent, fence]
  have commit : store.commitOf task workflow now =
      (.ok ((store.insertFence fence).loadedFence fence), store.insertFence fence) := by
    unfold commitOf commitTaskCancellationFence guarded
    rw [validated]
    simp only [isFenced]
    unfold loadTaskCancellationFence
    unfold fenceOf at hit
    rw [hit]
    rfl
  refine ⟨fence, ⟨rfl, rfl, rfl⟩, ?_, ?_⟩
  · rw [commit]
    exact hit
  · rw [commit]

theorem settle_acknowledges (isFenced : ∃ kept ∈ store.fences,
      kept.acknowledgementIdentity = fence.acknowledgementIdentity) :
    ∃ vote,
      (store.settleTaskCancellation fence reconciliation acknowledgement now).1 = .ok vote ∧
        ∃ ack ∈ (store.settleTaskCancellation fence reconciliation acknowledgement now).2.acks,
          ack.acknowledgementIdentity = fence.acknowledgementIdentity := by
  have isAny : (store.fences.any fun kept =>
      kept.acknowledgementIdentity = fence.acknowledgementIdentity) = true := by
    simpa only [List.any_eq_true, decide_eq_true_eq] using isFenced
  unfold settleTaskCancellation
  rw [if_pos isAny]
  refine ⟨_, rfl, ?_⟩
  split
  · next staged => simpa only [List.any_eq_true, decide_eq_true_eq] using staged
  · exact ⟨_, List.mem_append_right _ (.head _), rfl⟩

/-- The request answers with the Task's fence, answers the same when it is
repeated, and the fence's settlement stages its acknowledgement. -/
def PickupStore.Cancels (store : PickupStore) (task workflow : InstanceId) (now : Int) : Prop :=
  ∃ fence : TaskCancellationFence,
    (store.commitOf task workflow now).1 = .ok fence ∧
      fence.acknowledgementIdentity = cancellationAcknowledgementIdentity workflow task ∧
      fence.taskInstanceId = task.text ∧
      fence.workflowInstanceId = workflow.text ∧
      (∀ later,
        (store.commitOf task workflow now).2.commitOf task workflow later =
          (.ok fence, (store.commitOf task workflow now).2)) ∧
      ∀ reconciliation acknowledgement later,
        ∃ election,
          ((store.commitOf task workflow now).2.settleTaskCancellation fence
            reconciliation acknowledgement later).1 = .ok election ∧
          ∃ ack ∈ ((store.commitOf task workflow
            now).2.settleTaskCancellation fence reconciliation acknowledgement later).2.acks,
            ack.acknowledgementIdentity = fence.acknowledgementIdentity

theorem exists_find_of_isOf (stable : ∀ fence ∈ store.fences, fence.IsStable)
    (isFenced : ∃ fence ∈ store.fences, fence.IsOf task workflow) :
    ∃ fence : FenceRow, fence.IsOf task workflow ∧ store.fenceOf task workflow = some fence := by
  obtain ⟨kept, mem, isOf⟩ := isFenced
  have isSome : (store.fenceOf task workflow).isSome := by
    rw [List.find?_isSome]
    exact ⟨kept, mem, decide_eq_true isOf.1⟩
  obtain ⟨fence, hit⟩ := Option.isSome_iff_exists.mp isSome
  have found := List.find?_some hit
  exact ⟨fence, (stable fence (List.mem_of_find?_eq_some hit)).isOf
    (.inl (of_decide_eq_true found)), hit⟩

theorem commitOf_found (now : Int) (sound : Sound store)
    (stable : ∀ fence ∈ store.fences, fence.IsStable) (fenceable : store.Fenceable task workflow) :
    store.Answers task workflow now := by
  by_cases isFenced : ∃ fence ∈ store.fences, fence.IsOf task workflow
  · obtain ⟨fence, isOf, found⟩ := exists_find_of_isOf stable isFenced
    have commit : store.commitOf task workflow now = (.ok (store.loadedFence fence), store) :=
      commitOf_fenced sound found
    rw [Answers, commit]
    exact ⟨fence, isOf, found, rfl⟩
  · apply commitOf_unfenced sound stable _ fenceable
    intro fence mem isOf
    exact isFenced ⟨fence, mem, isOf⟩

theorem cancels_of_sound (sound : Sound store) (stable : ∀ fence ∈ store.fences, fence.IsStable)
    (fenceable : store.Fenceable task workflow) :
    store.Cancels task workflow now := by
  obtain ⟨fence, isOf, found, answer⟩ := commitOf_found now sound stable fenceable
  have commits : Sound (store.commitOf task workflow now).2 :=
    sound.after (.commitFence _ _ _ now)
  refine ⟨_, answer, isOf.1, isOf.2.1, isOf.2.2, ?_, ?_⟩
  · intro _
    exact commitOf_fenced commits found
  · intro _ _ _
    exact settle_acknowledges ⟨fence, List.mem_of_find?_eq_some found, rfl⟩

/-- A cancellation that was committed once is answered in every later state. -/
theorem fenceable_afterAll (sound : Sound store)
    (isFenced : ∃ fence ∈ store.fences, fence.IsOf task workflow) :
    (store.afterAll calls).Fenceable task workflow := by
  intro _ _ _ _ _
  obtain ⟨fence, mem, isOf⟩ := isFenced
  obtain ⟨kept, keeps, sameId, sameTask, same⟩ :=
    (Grown.afterAll sound calls).fences fence mem
  exact ⟨kept, keeps, sameId.trans isOf.1, sameTask.trans isOf.2.1,
    same.trans isOf.2.2⟩

/-- In a history that commits each fence under its Task's identity, the
request for a Task that was not rejected without a fence is answered, then and
in every later state. -/
theorem cancels_of_history (first : List PickupCall) (commits : ∀ call ∈ first, call.CommitsStably)
    (task workflow : InstanceId)
    (fenceable : (PickupStore.empty.afterAll first).Fenceable task workflow) (now : Int) :
    (PickupStore.empty.afterAll first).Cancels task workflow now ∧
      ∀ second : List PickupCall, (∀ call ∈ second, call.CommitsStably) →
        ∀ later,
          (((PickupStore.empty.afterAll first).commitOf task workflow
            now).2.afterAll second).Cancels task workflow later := by
  have sound := sound_empty.afterAll first
  have stable : ∀ fence ∈ (PickupStore.empty.afterAll first).fences,
      fence.IsStable := stable_afterAll sound_empty (by simp [PickupStore.empty]) commits
  refine ⟨cancels_of_sound sound stable fenceable, ?_⟩
  intro second commitsLater _
  have committed : Sound ((PickupStore.empty.afterAll first).commitOf task
      workflow now).2 := sound.after (.commitFence _ _ _ now)
  have stableLater := (change_of_call sound.dispatches.keys (.commitFence _ _ _ now)).stable
      (fun _ isCommitted => ⟨workflow, task, isCommitted⟩) stable
  obtain ⟨fence, isOf, found, _⟩ := commitOf_found now sound stable fenceable
  exact cancels_of_sound (committed.afterAll second)
    (stable_afterAll committed stableLater commitsLater)
    (fenceable_afterAll committed ⟨fence, List.mem_of_find?_eq_some found, isOf⟩)

def sampleTask : InstanceId where
  text := "00000000-0000-0000-0000-000000000001"
  length_text := by decide
  size_text := by decide

def sampleWorkflow : InstanceId where
  text := "00000000-0000-0000-0000-000000000002"
  length_text := by decide
  size_text := by decide

def stageSample : PickupCall :=
  .stage "dispatch" [] (some sampleTask.text) (some sampleWorkflow.text) 0

theorem cancels_of_stagedDispatch :
    (PickupStore.empty.afterAll [stageSample]).Cancels sampleTask sampleWorkflow 1 := by
  have fences : (PickupStore.empty.afterAll [stageSample]).Fenceable
      sampleTask sampleWorkflow := by
    intro row mem _ _ denied
    have waits : ∀ row ∈ (PickupStore.empty.afterAll
        [stageSample]).dispatches, row.state = .pending := by
      decide
    rw [waits row mem] at denied
    cases denied
  have commits : ∀ call ∈ [stageSample], call.CommitsStably := by
    intro _ mem _ committed
    rw [List.mem_singleton] at mem
    subst mem
    exact absurd committed id
  exact (cancels_of_history [stageSample] commits sampleTask sampleWorkflow fences 1).1

/-- The dispatch of a Task is rejected before the cancellation: the fence is
at generation zero, the table's check skips it, and no retry changes that. -/
theorem cancellation_of_rejectedDispatch :
    let store := PickupStore.empty.afterAll [stageSample, .reject "dispatch" "poison"]
    store.fences = [] ∧ ∀ now, store.commitOf sampleTask sampleWorkflow now =
      (.error (.corruptStoredValue "committed cancellation fence could not be reloaded"), store) :=
  ⟨rfl, fun _ => rfl⟩

end Tickr.LocalPickup
