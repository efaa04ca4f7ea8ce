import Tickr.Pickup.Handler

/-!
# What the parties may do to the shared state

`Change` lists every effect that one step of a party can have, and `Sound` is the
invariant that these changes keep.  Records and fences are never deleted, so
what was once read of them stays true of the bucket's past.
-/

namespace Tickr.Pickup

open Concurrent KeyValue

variable {record : TaskPickupRecord} {later : Bucket}

/-- An event of this identity is in the TaskEvents stream. -/
def Staged (shared : Shared) (identity : EventIdentity) : Prop :=
  ∃ stored ∈ shared.events.stored, stored.id = identity

/-- The party that created the record of a dispatch. -/
def createdBy (sequence : Nat) : Bucket → Option Nat :=
  oldest fun write =>
    if write.key = .dispatch sequence then some write.author else none

/-- The party that settled the record of a dispatch, and the outcome. -/
def settledBy (sequence : Nat) : Bucket → Option (Nat × AttemptOutcome) :=
  oldest fun write =>
    if write.key = .dispatch sequence then
      match write.value with
      | some (.pickup record) => record.terminal.map fun elected => (write.author, elected.outcome)
      | _ => none
    else none

/-- The bucket, the event stream and the launches only grow. -/
structure Grown (before after : Shared) : Prop where
  bucket : before.bucket <:+ after.bucket
  staged : ∀ identity, Staged before identity → Staged after identity
  launched : before.launched <:+ after.launched

theorem Grown.refl (shared : Shared) : Grown shared shared :=
  ⟨List.suffix_refl _, fun _ staged => staged, List.suffix_refl _⟩

theorem Grown.trans (left : Grown first second) (right : Grown second third) : Grown first third :=
  ⟨left.bucket.trans right.bucket,
    fun identity stages => right.staged identity (left.staged identity stages),
    left.launched.trans right.launched⟩

theorem grown_write (write : Write PickupKey PickupValue) (shared : Shared) :
    Grown shared { shared with bucket := write :: shared.bucket } :=
  ⟨List.suffix_cons _ _, fun _ staged => staged, List.suffix_refl _⟩

/-- What one write does to a record.  `staged` says which of the record's
events are in the stream. -/
inductive Advance (staged : EventKind → Prop) (old : TaskPickupRecord) : TaskPickupRecord → Prop
  | assigned (isStaged : staged .assigned) : Advance staged old { old with assignedStaged := true }
  | rearmed (deadlineMs : Int) (arm : Bool) (isAssigned : old.assignedStaged = true) :
      Advance staged old { old with
          livenessDeadlineMs := deadlineMs
          livenessArmed := old.livenessArmed || arm }
  | overdue (deadlineMs : Int) : Advance staged old { old with livenessDeadlineMs := deadlineMs }
  | completed : Advance staged old { old with sourceCompleted := true }
  | started (event : Bytes) : Advance staged old { old with startedEvent := some event }
  | settled (elected : ElectedAttemptOutcome) (isOpen : old.terminal = none)
      (exited : elected.outcome.isProcessExit = true → old.startedEvent.isSome = true)
      (pending : elected.eventEnqueued = false → old.assignedStaged = true) :
      Advance staged old { old with terminal := some elected }
  | enqueued (elected : ElectedAttemptOutcome) (isElected : old.terminal = some elected) :
      Advance staged old { old with terminal := some { elected with eventEnqueued := true } }

/-- What any number of writes keep of a record. -/
structure PickupFollows (old new : TaskPickupRecord) : Prop where
  pickupGeneration : new.pickupGeneration = old.pickupGeneration
  owner : new.owner = old.owner
  assignedStaged : old.assignedStaged = true → new.assignedStaged = true
  terminal : ∀ elected, old.terminal = some elected →
    ∃ later, new.terminal = some later ∧ later.outcome = elected.outcome

theorem PickupFollows.refl (record : TaskPickupRecord) : PickupFollows record record :=
  ⟨rfl, rfl, id, fun elected elects => ⟨elected, elects, rfl⟩⟩

theorem PickupFollows.trans
    (left : PickupFollows first second) (right : PickupFollows second third) :
    PickupFollows first third := by
  refine ⟨right.pickupGeneration.trans left.pickupGeneration, right.owner.trans left.owner,
    fun given => right.assignedStaged (left.assignedStaged given), ?_⟩
  intro elected elects
  obtain ⟨middle, isMiddle, same⟩ := left.terminal elected elects
  obtain ⟨later, isLater, sameLater⟩ := right.terminal middle isMiddle
  exact ⟨later, isLater, sameLater.trans same⟩

theorem Advance.follows (advance : Advance staged old new) :
    PickupFollows old new := by
  cases advance with
  | assigned => exact { PickupFollows.refl old with assignedStaged := fun _ => rfl }
  | rearmed | overdue | completed | started => exact { PickupFollows.refl old with }
  | settled _ isOpen =>
    refine { PickupFollows.refl old with terminal := ?_ }
    intro _ isEarlier
    rw [isOpen] at isEarlier
    cases isEarlier
  | enqueued _ elects =>
    refine { PickupFollows.refl old with terminal := ?_ }
    intro _ isEarlier
    rw [elects] at isEarlier
    cases isEarlier
    exact ⟨_, rfl, rfl⟩

/-- A record as it is created: claimed, rejected, or cancelled before any
claim. -/
structure FreshRecord (wire : Wire) (sequence : Nat) (record : TaskPickupRecord) : Prop where
  dispatchKey : record.dispatchKey = sequence
  payload : record.payload = wire.dispatches sequence
  unassigned : record.assignedStaged = false
  unarmed : record.livenessArmed = false
  unsettled : ∀ elected, record.terminal = some elected →
    elected.outcome.isProcessExit = false ∧ elected.eventEnqueued = true

/-- Started was recorded while the record was open. -/
def StartedBefore (sequence : Nat) (bucket : Bucket) : Prop :=
  ∃ older record, older <:+ bucket ∧ lookup (.dispatch sequence) older = some (.pickup record) ∧
    record.startedEvent.isSome = true ∧ record.terminal = none

/-- A stored record agrees with the bucket's history and with the event
stream. -/
structure RecordSound (wire : Wire) (shared : Shared) (sequence : Nat)
    (record : TaskPickupRecord) : Prop where
  dispatchKey : record.dispatchKey = sequence
  payload : record.payload = wire.dispatches sequence
  armed : record.livenessArmed = true → record.assignedStaged = true
  assigned : record.assignedStaged = true → Staged shared ⟨sequence, .assigned⟩
  pending : ∀ elected, record.terminal = some elected →
    elected.eventEnqueued = false → record.assignedStaged = true
  settled : record.terminal.map ElectedAttemptOutcome.outcome =
    (settledBy sequence shared.bucket).map Prod.snd
  exited : ∀ elected, record.terminal = some elected →
    elected.outcome.isProcessExit = true → StartedBefore sequence shared.bucket

/-- A fence may be bound to this pickup: one of the requested Task, under its
own generation, with its own owner or without one. -/
def Binds (wire : Wire) (request : CancelRequest) (bucket : Bucket)
    (sequence : Nat) (generation : Int) (owner : Option String) : Prop :=
  ∃ older pickup task, older <:+ bucket ∧
    lookup (.dispatch sequence) older = some (.pickup pickup) ∧
    wire.decodeDispatch (wire.dispatches sequence) = .ok task ∧
    task.cancelRequest = request ∧ generation = pickup.pickupGeneration ∧
    (owner = none ∨ owner = some pickup.owner)

inductive FenceAdvance (binds : Nat → Int → Option String → Prop) (old : TaskCancellationRecord) :
    TaskCancellationRecord → Prop
  | bound (sequence : Nat) (generation : Int) (owner : Option String)
      (isUnbound : old.dispatchKey = none)
      (allowed : binds sequence generation owner) :
      FenceAdvance binds old { old with
          dispatchKey := some sequence
          pickupGeneration := some generation
          owner := owner }
  | notified : FenceAdvance binds old { old with ownerNotified := true }
  | settled (reconciliation : CancellationReconciliation) (acknowledgement : Bytes) :
      FenceAdvance binds old { old with
          reconciliation := some reconciliation
          acknowledgement := some acknowledgement }
  | enqueued : FenceAdvance binds old { old with acknowledgementEnqueued := true }

/-- What any number of writes keep of a fence: its binding. -/
structure FenceFollows (old new : TaskCancellationRecord) : Prop where
  bound : old.dispatchKey.isSome = true →
    new.dispatchKey = old.dispatchKey ∧
      new.pickupGeneration = old.pickupGeneration ∧ new.owner = old.owner

theorem FenceFollows.refl (record : TaskCancellationRecord) :
    FenceFollows record record := ⟨fun _ => ⟨rfl, rfl, rfl⟩⟩

theorem FenceFollows.trans (left : FenceFollows first second) (right : FenceFollows second third) :
    FenceFollows first third := by
  refine ⟨fun isBound => ?_⟩
  obtain ⟨sameKey, same, sameOwner⟩ := left.bound isBound
  have stillBound : second.dispatchKey.isSome = true := by
    rw [sameKey]
    exact isBound
  obtain ⟨thirdKey, gen, owner⟩ := right.bound stillBound
  exact ⟨thirdKey.trans sameKey, gen.trans same, owner.trans sameOwner⟩

variable {old new : TaskCancellationRecord}

theorem FenceAdvance.follows (advance : FenceAdvance binds old new) :
    FenceFollows old new := by
  cases advance with
  | bound _ _ _ unbound =>
    refine ⟨fun isBound => ?_⟩
    rw [unbound] at isBound
    cases isBound
  | notified | settled | enqueued => exact ⟨fun _ => ⟨rfl, rfl, rfl⟩⟩

/-- A stored fence is the one of its request, and is bound to a pickup of the
requested Task if it is bound. -/
structure FenceSound (wire : Wire) (bucket : Bucket) (request : CancelRequest)
    (record : TaskCancellationRecord) : Prop where
  taskInstanceId : record.taskInstanceId = request.taskInstanceId
  workflowInstanceId : record.workflowInstanceId = request.workflowInstanceId
  bound : ∀ sequence, record.dispatchKey = some sequence →
    ∃ generation, record.pickupGeneration = some generation ∧
      Binds wire request bucket sequence generation record.owner

/-- Keys that are written once and then only updated. -/
def PickupKey.IsKept : PickupKey → Prop
  | .watchdogClock _ => False
  | _ => True

/-- What any number of writes keep of a stored value. -/
def Follows (_ : PickupKey) : PickupValue → PickupValue → Prop
  | .pickup old, .pickup new => PickupFollows old new
  | .fence old, .fence new => FenceFollows old new
  | .empty, .empty => True
  | _, _ => False

theorem follows_refl (key : PickupKey) (value : PickupValue) : Follows key value value := by
  cases value with
  | pickup record => exact .refl record
  | fence record => exact .refl record
  | empty => trivial

theorem follows_trans (key : PickupKey) (first second third : PickupValue)
    (left : Follows key first second) (right : Follows key second third) :
    Follows key first third := by
  cases first <;> cases second <;> cases third <;>
    first
    | exact .trans left right
    | exact .trans left right
    | exact trivial
    | exact left.elim
    | exact right.elim

/-- A stored value is of its key's kind, and sound. -/
def CellSound (wire : Wire) (shared : Shared) : PickupKey → PickupValue → Prop
  | .dispatch sequence, .pickup record => RecordSound wire shared sequence record
  | .cancellation request, .fence record => FenceSound wire shared.bucket request record
  | .watchdogClock _, _ => True
  | _, _ => False

/-- A started process: its party created the record it claims, and a pickup of
that owner and generation was in the bucket before any fence of its Task. -/
def Authorised (wire : Wire) (bucket : Bucket) (launch : Launch) : Prop :=
  createdBy launch.claim.dispatchKey bucket = some launch.client ∧
    wire.decodeDispatch (wire.dispatches launch.claim.dispatchKey) = .ok launch.task ∧
    launch.claim.owner ≠ "" ∧
    ∃ older record, older <:+ bucket ∧
      lookup (.dispatch launch.claim.dispatchKey) older = some (.pickup record) ∧
      record.pickupGeneration = launch.claim.pickupGeneration ∧
      record.owner = launch.claim.owner ∧
      lookup (.cancellation launch.task.cancelRequest) older = none

/-- The invariant of the shared state. -/
structure Sound (wire : Wire) (shared : Shared) : Prop where
  valued : ∀ write ∈ shared.bucket, write.key.IsKept → write.value.isSome = true
  forward : Forward PickupKey.IsKept Follows shared.bucket
  cells : ∀ key value, lookup key shared.bucket = some value → CellSound wire shared key value
  remembered : ∀ identity ∈ shared.events.seenIds, Staged shared identity
  launches : ∀ launch ∈ shared.launched, Authorised wire shared.bucket launch

/-- What a publisher must have read in the record its event is made from. -/
def Grounded (record : TaskPickupRecord) : EventKind → Prop
  | .assigned => record.assignedStaged = false
  | .started => record.assignedStaged = true ∧ record.terminal = none
  | .terminal => ∃ elected, record.terminal = some elected ∧ elected.eventEnqueued = false

/-- The record of a dispatch was read at this revision. -/
def ReadAt (bucket : Bucket) (sequence : Nat) (record : TaskPickupRecord) (revision : Nat) : Prop :=
  ∃ older, older <:+ bucket ∧
    entry (.dispatch sequence) older = some ⟨revision, some (.pickup record)⟩

/-- Every effect one step of a party can have. -/
inductive Change (wire : Wire) (peer : Nat) (before : Shared) : Shared → Prop
  | nothing : Change wire peer before before
  | created (sequence : Nat) (record : TaskPickupRecord)
      (absent : lookup (.dispatch sequence) before.bucket = none)
      (fresh : FreshRecord wire sequence record) :
      Change wire peer before { before with
          bucket := ⟨peer, .dispatch sequence, some (.pickup record)⟩ :: before.bucket }
  | advanced (sequence : Nat) (old new : TaskPickupRecord)
      (current : lookup (.dispatch sequence) before.bucket = some (.pickup old))
      (advance : Advance (fun kind => Staged before ⟨sequence, kind⟩) old new) :
      Change wire peer before { before with
          bucket := ⟨peer, .dispatch sequence, some (.pickup new)⟩ :: before.bucket }
  | fenced (request : CancelRequest)
      (absent : lookup (.cancellation request) before.bucket = none) :
      Change wire peer before { before with
          bucket := ⟨peer, .cancellation request,
            some (.fence (newFence request request))⟩ :: before.bucket }
  | refenced (request : CancelRequest) (old new : TaskCancellationRecord)
      (current : lookup (.cancellation request) before.bucket = some (.fence old))
      (advance : FenceAdvance (Binds wire request before.bucket) old new) :
      Change wire peer before { before with
          bucket := ⟨peer, .cancellation request, some (.fence new)⟩ :: before.bucket }
  | probed (probe : LogStream.Uuid) (value : Option PickupValue) :
      Change wire peer before { before with
          bucket := ⟨peer, .watchdogClock probe, value⟩ :: before.bucket }
  | staged (sequence : Nat) (kind : EventKind) (event : StagedEvent) (record : TaskPickupRecord)
      (isRead : ReadAt before.bucket sequence record event.basis)
      (grounded : Grounded record kind) :
      Change wire peer before { before with
          events := before.events.append ⟨sequence, kind⟩ event }
  | forgotten (identity : EventIdentity) : Change wire peer before (before.forget identity)
  | launched (claim : LocalPickupClaim) (task : DispatchedTask)
      (authorised : Authorised wire before.bucket ⟨peer, claim, task⟩) :
      Change wire peer before { before with launched := ⟨peer, claim, task⟩ :: before.launched }

variable {wire : Wire} {peer : Nat} {before after : Shared}

theorem Change.grown (change : Change wire peer before after) : Grown before after := by
  cases change with
  | nothing => exact .refl before
  | created | advanced | fenced | refenced | probed => exact grown_write _ before
  | staged =>
    refine ⟨List.suffix_refl _, ?_, List.suffix_refl _⟩
    intro _ isStaged
    obtain ⟨stored, mem, id⟩ := isStaged
    exact ⟨stored, List.mem_append_left _ mem, id⟩
  | forgotten => exact ⟨List.suffix_refl _, fun _ isStaged => isStaged, List.suffix_refl _⟩
  | launched => exact ⟨List.suffix_refl _, fun _ isStaged => isStaged, List.suffix_cons _ _⟩

variable {sequence : Nat} {bucket : Bucket}

theorem StartedBefore.grown (started : StartedBefore sequence bucket) (grown : bucket <:+ later) :
    StartedBefore sequence later := by
  obtain ⟨older, record, isOlder, found, isStarted, isOpen⟩ := started
  exact ⟨older, record, isOlder.trans grown, found, isStarted, isOpen⟩

variable {request : CancelRequest}

theorem Binds.grown
    (binds : Binds wire request bucket sequence gen owner) (grown : bucket <:+ later) :
    Binds wire request later sequence gen owner := by
  obtain ⟨older, pickup, task, isOlder, rest⟩ := binds
  exact ⟨older, pickup, task, isOlder.trans grown, rest⟩

theorem Authorised.grown (allowed : Authorised wire bucket launch) (grown : bucket <:+ later) :
    Authorised wire later launch := by
  obtain ⟨creator, decodes, named, older, record, isOlder, rest⟩ := allowed
  exact ⟨oldest_grown grown creator, decodes, named, older, record, isOlder.trans grown, rest⟩

theorem CellSound.grown (sound : CellSound wire before key value) (grown : Grown before after)
    (unsettled : ∀ sequence, key = .dispatch sequence →
      settledBy sequence after.bucket = settledBy sequence before.bucket) :
    CellSound wire after key value := by
  cases key with
  | dispatch sequence =>
    cases value with
    | pickup =>
      exact { sound with
          assigned := fun assigns =>
            grown.staged _ (sound.assigned assigns)
          settled := by
            rw [unsettled sequence rfl]
            exact sound.settled
          exited := fun elected elects exit =>
            (sound.exited elected elects exit).grown grown.bucket }
    | fence | empty => exact sound.elim
  | cancellation =>
    cases value with
    | pickup | empty => exact sound.elim
    | fence =>
      refine { sound with bound := ?_ }
      intro sequence isBound
      obtain ⟨generation, gen, binds⟩ := sound.bound sequence isBound
      exact ⟨generation, gen, binds.grown grown.bucket⟩
  | watchdogClock => trivial

variable {shared : Shared}

theorem Sound.write (sound : Sound wire shared) (write : Write PickupKey PickupValue)
    (valued : write.key.IsKept → write.value.isSome = true)
    (moves : write.key.IsKept → ∀ old,
      lookup write.key shared.bucket = some old →
        ∃ new, write.value = some new ∧ Follows write.key old new)
    (cell : ∀ value, write.value = some value →
      CellSound wire { shared with bucket := write :: shared.bucket } write.key value) :
    Sound wire { shared with bucket := write :: shared.bucket } := by
  have grown := grown_write write shared
  refine ⟨List.forall_mem_cons.mpr ⟨valued, sound.valued⟩,
    sound.forward.cons follows_refl follows_trans moves, ?_,
    fun identity mem => grown.staged identity (sound.remembered identity mem),
    fun launch mem => (sound.launches launch mem).grown grown.bucket⟩
  · intro key value found
    by_cases wrote : write.key = key
    · subst wrote
      rw [lookup_cons_same rfl] at found
      exact cell value found
    · rw [lookup_cons_other wrote] at found
      apply (sound.cells key value found).grown grown
      intro _ dispatch
      apply oldest_cons_skip
      apply if_neg
      rw [← dispatch]
      exact wrote

theorem Sound.not_written (sound : Sound wire shared)
    (absent : lookup (.dispatch sequence) shared.bucket = none) :
    ∀ write ∈ shared.bucket, write.key ≠ .dispatch sequence :=
  not_written_of_lookup_eq_none sound.valued trivial absent

theorem settledBy_eq_none (absent : ∀ write ∈ bucket, write.key ≠ .dispatch sequence) :
    settledBy sequence bucket = none := by
  apply oldest_eq_none
  intro write mem
  exact if_neg (absent write mem)

theorem settledBy_cons_of_none (isOpen : settledBy sequence bucket = none) :
    settledBy sequence (⟨peer, .dispatch sequence, some (.pickup record)⟩ :: bucket) =
      record.terminal.map fun elects => (peer, elects.outcome) := by
  rw [settledBy, oldest_cons_of_none isOpen]
  exact if_pos rfl

theorem createdBy_cons (absent : ∀ write ∈ bucket, write.key ≠ .dispatch sequence) :
    createdBy sequence (⟨peer, .dispatch sequence, some (.pickup record)⟩ :: bucket) =
      some peer := by
  have isNew : createdBy sequence bucket = none := by
    apply oldest_eq_none
    intro write mem
    exact if_neg (absent write mem)
  rw [createdBy, oldest_cons_of_none isNew]
  exact if_pos rfl

/-- The outcome a record names is the first one that was stored. -/
theorem settled_of_follows {old new : TaskPickupRecord}
    (ends : old.terminal.map ElectedAttemptOutcome.outcome =
      (settledBy sequence bucket).map Prod.snd) (follows : PickupFollows old new) :
    new.terminal.map ElectedAttemptOutcome.outcome =
      (settledBy sequence
        (⟨peer, .dispatch sequence, some (.pickup new)⟩ :: bucket)).map Prod.snd := by
  cases prior : settledBy sequence bucket with
  | none =>
    rw [settledBy_cons_of_none prior, Option.map_map]
    rfl
  | some =>
    have stays := oldest_grown
      (List.suffix_cons ⟨peer, .dispatch sequence, some (.pickup new)⟩ bucket) prior
    rw [settledBy, stays]
    rw [prior] at ends
    obtain ⟨elected, elects, result⟩ := Option.map_eq_some_iff.mp ends
    obtain ⟨_, isLater, same⟩ := follows.terminal elected elects
    rw [isLater, Option.map_some, Option.map_some, same, result]

theorem RecordSound.advance {old new : TaskPickupRecord}
    (sound : RecordSound wire shared sequence old)
    (current : lookup (.dispatch sequence) shared.bucket = some (.pickup old))
    (advance : Advance (fun kind => Staged shared ⟨sequence, kind⟩) old new) :
    RecordSound wire { shared with
        bucket := ⟨peer, .dispatch sequence, some (.pickup new)⟩ ::
          shared.bucket } sequence new := by
  have grown : shared.bucket <:+
      ⟨peer, .dispatch sequence, some (.pickup new)⟩ :: shared.bucket := List.suffix_cons _ _
  have settled := @settled_of_follows peer sequence shared.bucket old new
    sound.settled advance.follows
  have exited : ∀ elected, old.terminal = some elected →
      elected.outcome.isProcessExit = true →
        StartedBefore sequence
          (⟨peer, .dispatch sequence, some (.pickup new)⟩ :: shared.bucket) :=
    fun elected elects exit =>
      (sound.exited elected elects exit).grown grown
  cases advance with
  | assigned staged =>
    exact ⟨sound.dispatchKey, sound.payload, fun _ => rfl,
      fun _ => staged, fun _ _ _ => rfl, settled, exited⟩
  | rearmed _ _ assigns =>
    exact ⟨sound.dispatchKey, sound.payload, fun _ => assigns,
      sound.assigned, sound.pending, settled, exited⟩
  | overdue | completed | started =>
    exact ⟨sound.dispatchKey, sound.payload, sound.armed,
      sound.assigned, sound.pending, settled, exited⟩
  | settled _ isOpen wasStarted pending =>
    refine ⟨sound.dispatchKey, sound.payload, sound.armed, sound.assigned, ?_, settled, ?_⟩
    · intro _ hit waits
      cases hit
      exact pending waits
    · intro _ hit exit
      cases hit
      exact ⟨shared.bucket, old, grown, current, wasStarted exit, isOpen⟩
  | enqueued elected elects =>
    refine ⟨sound.dispatchKey, sound.payload, sound.armed, sound.assigned, ?_, settled, ?_⟩
    · intro _ hit waits
      cases hit
      cases waits
    · intro _ hit exit
      cases hit
      exact exited elected elects exit

theorem RecordSound.created (sound : Sound wire shared)
    (absent : lookup (.dispatch sequence) shared.bucket = none)
    (fresh : FreshRecord wire sequence record) :
    RecordSound wire { shared with
        bucket := ⟨peer, .dispatch sequence, some (.pickup record)⟩ ::
          shared.bucket } sequence record := by
  refine ⟨fresh.dispatchKey, fresh.payload, ?_, ?_, ?_, ?_, ?_⟩
  · intro isArmed
    rw [fresh.unarmed] at isArmed
    cases isArmed
  · intro given
    rw [fresh.unassigned] at given
    cases given
  · intro elected elects waits
    rw [(fresh.unsettled elected elects).2] at waits
    cases waits
  · rw [settledBy_cons_of_none (settledBy_eq_none (sound.not_written absent)), Option.map_map]
    rfl
  · intro elected elects exit
    rw [(fresh.unsettled elected elects).1] at exit
    cases exit

theorem FenceSound.advance (sound : FenceSound wire bucket request old) (grown : bucket <:+ later)
    (advance : FenceAdvance (Binds wire request bucket) old new) :
    FenceSound wire later request new := by
  have bound : ∀ sequence, old.dispatchKey = some sequence →
      ∃ generation, old.pickupGeneration = some generation ∧
        Binds wire request later sequence generation old.owner := by
    intro sequence isBound
    obtain ⟨generation, gen, binds⟩ := sound.bound sequence isBound
    exact ⟨generation, gen, binds.grown grown⟩
  cases advance with
  | bound _ generation _ _ allowed =>
    refine ⟨sound.taskInstanceId, sound.workflowInstanceId, ?_⟩
    intro _ hit
    cases hit
    exact ⟨generation, rfl, allowed.grown grown⟩
  | notified | settled | enqueued =>
    exact ⟨sound.taskInstanceId, sound.workflowInstanceId, bound⟩

theorem Change.sound (change : Change wire peer shared after)
    (sound : Sound wire shared) : Sound wire after := by
  cases change with
  | nothing => exact sound
  | created sequence record absent fresh =>
    refine sound.write ⟨peer, .dispatch sequence, some (.pickup record)⟩ (fun _ => rfl) ?_ ?_
    · intro _ _ found
      rw [absent] at found
      cases found
    · intro _ isValue
      cases isValue
      exact .created sound absent fresh
  | advanced sequence _ new current advance =>
    refine sound.write ⟨peer, .dispatch sequence, some (.pickup new)⟩ (fun _ => rfl) ?_ ?_
    · intro _ _ hit
      rw [current] at hit
      cases hit
      exact ⟨.pickup new, rfl, advance.follows⟩
    · intro _ isValue
      cases isValue
      exact (sound.cells _ _ current).advance current advance
  | fenced request absent =>
    refine sound.write
      ⟨peer, .cancellation request, some (.fence (newFence request request))⟩ (fun _ => rfl) ?_ ?_
    · intro _ _ found
      rw [absent] at found
      cases found
    · intro _ isValue
      cases isValue
      refine ⟨rfl, rfl, ?_⟩
      intro _ bound
      cases bound
  | refenced request _ new current advance =>
    refine sound.write ⟨peer, .cancellation request, some (.fence new)⟩ (fun _ => rfl) ?_ ?_
    · intro _ _ hit
      rw [current] at hit
      cases hit
      exact ⟨.fence new, rfl, advance.follows⟩
    · intro _ isValue
      cases isValue
      exact FenceSound.advance (sound.cells _ _ current) (List.suffix_cons _ _) advance
  | probed probe value =>
    apply sound.write ⟨peer, .watchdogClock probe, value⟩ False.elim False.elim
    intro _ _
    trivial
  | staged sequence kind event record isRead ground =>
    have grown := (.staged sequence kind event record isRead ground :
      Change wire peer shared _).grown
    refine ⟨sound.valued, sound.forward, ?_, ?_, sound.launches⟩
    · intro key value found
      exact (sound.cells key value found).grown grown (fun _ _ => rfl)
    · refine List.forall_mem_cons.mpr ⟨?_, ?_⟩
      · exact ⟨⟨_, ⟨sequence, kind⟩, event⟩, List.mem_append_right _ (.head _), rfl⟩
      · intro identity isOld
        exact grown.staged identity (sound.remembered identity isOld)
  | forgotten identity =>
    refine ⟨sound.valued, sound.forward, ?_, ?_, sound.launches⟩
    · intro key value found
      exact (sound.cells key value found).grown
        (.forgotten identity : Change wire peer shared _).grown
        (fun _ _ => rfl)
    · intro other mem
      exact sound.remembered other (List.mem_filter.mp mem).1
  | launched claim task allowed =>
    refine ⟨sound.valued, sound.forward, ?_, sound.remembered,
      List.forall_mem_cons.mpr ⟨allowed, sound.launches⟩⟩
    intro key value found
    exact (sound.cells key value found).grown
      (.launched claim task allowed : Change wire peer shared _).grown (fun _ _ => rfl)

theorem sound_empty (wire : Wire) : Sound wire Shared.empty := by
  constructor
  · intro _ mem
    cases mem
  · intro _ _ _ _ isOlder found
    rw [List.suffix_nil.mp isOlder] at found
    cases found
  · intro _ _ found
    cases found
  · intro _ mem
    cases mem
  · intro _ mem
    cases mem

/-- Every party may make any of the listed changes, at any time. -/
def pickups (wire : Wire) : Discipline Shared PickupOp where
  guarantee := Change wire
  invariant := Sound wire
  condition := fun _ _ _ => True
  keeps := fun _ _ _ change sound => change.sound sound

theorem grown_of_evolves (evolves : (pickups wire).Evolves before after) : Grown before after :=
  evolves.keeps (.refl before) fun _ _ _ change grown => grown.trans change.grown

end Tickr.Pickup
