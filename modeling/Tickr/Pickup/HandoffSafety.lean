import Tickr.Pickup.Requests

/-!
# What the pickup handoff ensures

The choreography ends in the right to launch only for the party that created the
record, on a claim older than any fence of the Task, with Assigned staged.
-/

namespace Tickr.Pickup

open Concurrent KeyValue
open Concurrent.Discipline
open SafeExcept (andThen andDone)

section Facts

variable {wire : Wire} {start now : Shared} {sequence revision : Nat} {bucket later : Bucket}
  {timeMs : Int} {record : TaskPickupRecord}
  (isFound : Found wire start (.dispatch sequence) (some (pickupEntry (record, revision, timeMs)))
    now)

include isFound in
theorem Found.readAt : ReadAt now.bucket sequence record revision := by
  obtain ⟨past, _, _, until_, entry⟩ := isFound
  exact ⟨past.bucket, until_.bucket, entry⟩

/-- A record was in the bucket at some time. -/
def Stored (bucket : Bucket) (sequence : Nat) (record : TaskPickupRecord) :
    Prop := ∃ older, older <:+ bucket ∧ lookup (.dispatch sequence) older = some (.pickup record)

theorem Stored.grown (kept : Stored bucket sequence record) (grown : bucket <:+ later) :
    Stored later sequence record := by
  obtain ⟨older, isOlder, found⟩ := kept
  exact ⟨older, isOlder.trans grown, found⟩

include isFound

theorem Found.stored : Stored now.bucket sequence record := by
  obtain ⟨past, _, _, until_, entry⟩ := isFound
  exact ⟨past.bucket, until_.bucket, lookup_eq entry⟩

/-- A record that was read was sound when it was read. -/
theorem Found.recordSound :
    ∃ past, Sound wire past ∧ Grown past now ∧ RecordSound wire past sequence record := by
  obtain ⟨past, _, sound, until_, entry⟩ := isFound
  exact ⟨past, sound, until_, sound.cells _ _ (lookup_eq entry)⟩

omit isFound

theorem Stored.current (sound : Sound wire shared) (kept : Stored shared.bucket sequence record) :
    ∃ current, lookup (.dispatch sequence) shared.bucket =
        some (.pickup current) ∧ PickupFollows record current := by
  obtain ⟨older, isOlder, found⟩ := kept
  obtain ⟨value, valued, follows⟩ :=
    sound.forward older (.dispatch sequence) (.pickup record) trivial isOlder found
  cases value with
  | pickup current => exact ⟨current, valued, follows⟩
  | fence | empty => exact follows.elim

theorem Stored.not_absent (kept : Stored start.bucket sequence record)
    (absent : Found wire start (.dispatch sequence) none now) : False := by
  obtain ⟨_, since, sound, _, entry⟩ := absent
  obtain ⟨_, isCurrent, _⟩ := (kept.grown since.bucket).current sound
  rw [lookup, entry] at isCurrent
  cases isCurrent

/-- The claim is one on a record that was in the bucket. -/
def ClaimOf (bucket : Bucket) (sequence : Nat) (claim : LocalPickupClaim) : Prop :=
  claim.dispatchKey = sequence ∧
    ∃ record, Stored bucket sequence record ∧ record.pickupGeneration = claim.pickupGeneration ∧
      record.owner = claim.owner

theorem ClaimOf.grown (claimOf : ClaimOf bucket sequence claim) (grown : bucket <:+ later) :
    ClaimOf later sequence claim := by
  obtain ⟨same, record, kept, rest⟩ := claimOf
  exact ⟨same, record, kept.grown grown, rest⟩

include isFound in
theorem Found.claimOf : ClaimOf now.bucket sequence record.claim := by
  obtain ⟨_, _, _, sound⟩ := isFound.recordSound
  exact ⟨sound.dispatchKey, record, isFound.stored, rfl, rfl⟩

theorem Stored.owner_eq (sound : Sound wire shared) (isFirst : Stored shared.bucket sequence first)
    (isSecond : Stored shared.bucket sequence second) :
    first.owner = second.owner := by
  obtain ⟨_, isCurrent, firstFollows⟩ := isFirst.current sound
  obtain ⟨_, ne, follows⟩ := isSecond.current sound
  rw [isCurrent] at ne
  cases ne
  exact firstFollows.owner.symm.trans follows.owner

def AssignedBefore (bucket : Bucket) (sequence : Nat) : Prop :=
  ∃ record, Stored bucket sequence record ∧ record.assignedStaged = true

theorem AssignedBefore.grown
    (given : AssignedBefore bucket sequence) (grown : bucket <:+ later) :
    AssignedBefore later sequence := by
  obtain ⟨record, kept, assigns⟩ := given
  exact ⟨record, kept.grown grown, assigns⟩

end Facts

namespace NatsPickupHandoff

variable {wire : Wire} {peer sequence : Nat} {state : Shared}
  {claim : LocalPickupClaim} {assignedEvent : Bytes} {bucket later : Bucket}
  {record : TaskPickupRecord} {handoff : NatsPickupHandoff}

theorem load_safe :
    PickupSafe wire peer
      (fun found later => Found wire state (.dispatch handoff.dispatchKey)
        (found.map pickupEntry) later) (handoff.load wire) state := loadPickup_safe _ _

/-- What reading the fence of the delivered Task shows. -/
def QueuedFence (wire : Wire) (handoff : NatsPickupHandoff) (start : Shared)
    (found : Option (CancelRequest × TaskCancellationRecord × Nat)) (now : Shared) : Prop :=
  match found with
  | none => ∀ task,
      wire.decodeDispatch (handoff.payload wire) = .ok task →
        Found wire start (.cancellation task.cancelRequest) none now
  | some (request, record, revision) => ∃ task,
      wire.decodeDispatch (handoff.payload wire) = .ok task ∧ task.cancelRequest = request ∧
        Found wire start (.cancellation request) (some (fenceEntry (record, revision))) now

theorem cancellationForPayload_safe :
    PickupSafe wire peer (QueuedFence wire handoff state)
      (handoff.cancellationForPayload wire) state := by
  unfold cancellationForPayload
  cases decoded : wire.decodeDispatch (handoff.payload wire) with
  | error =>
    refine .pure fun final _ _ task isTask => ?_
    rw [decoded] at isTask
    cases isTask
  | ok task =>
    apply andThen (loadFence_safe _ _)
    intro found _ _ isFound
    cases found with
    | none =>
      refine .pure fun final rely _ _ ne => ?_
      rw [decoded] at ne
      cases ne
      exact isFound.later (grown_of_rely rely)
    | some =>
      exact .pure fun _ rely _ =>
        ⟨task, decoded, rfl, isFound.later (grown_of_rely rely)⟩

theorem markSourceCompleted_safe :
    PickupSafe wire peer Any (handoff.markSourceCompleted wire) state := by
  apply andThen load_safe
  intro found _ _ isFound
  cases found with
  | none => exact pure_safe ()
  | some => exact (updatePickup_safe isFound.readAt .completed).forget

theorem tryMarkSourceCompleted_safe :
    PickupSafe wire peer Any (handoff.tryMarkSourceCompleted wire) state := by
  apply andThen load_safe
  intro found _ _ isFound
  cases found with
  | none => exact pure_safe ()
  | some =>
    exact andDone (attempt_safe (updatePickup_safe isFound.readAt .completed))

theorem freshRecord_cancelled :
    FreshRecord wire handoff.dispatchKey (handoff.cancelledRecord wire) := by
  refine ⟨rfl, rfl, rfl, rfl, ?_⟩
  intro _ elects
  cases elects
  exact ⟨rfl, rfl⟩

theorem recordCancelled_safe :
    PickupSafe wire peer
      (fun pickup later => pickup.dispatchKey = handoff.dispatchKey ∧
        Stored later.bucket handoff.dispatchKey pickup) (handoff.recordCancelled wire) state := by
  apply andThen load_safe
  intro found _ _ isFound
  cases found with
  | none =>
    apply andThen (createPickup_safe freshRecord_cancelled)
    intro _ _ _ isCreated
    refine .pure fun final rely _ => ⟨rfl, ?_⟩
    exact .grown isCreated.2 (grown_of_rely rely).bucket
  | some =>
    apply andThen load_safe
    intro again _ _ foundAgain
    cases again with
    | none => exact (isFound.stored.not_absent foundAgain).elim
    | some =>
      refine .pure fun _ rely _ => ?_
      have ends := foundAgain.later (grown_of_rely rely)
      obtain ⟨_, _, _, sound⟩ := ends.recordSound
      exact ⟨sound.dispatchKey, ends.stored⟩

theorem bindQueued_safe {request : CancelRequest}
    (isFound : ∃ start, Found wire start (.cancellation request)
      (some (fenceEntry (cancellation, revision))) state)
    (binds : Binds wire request state.bucket pickup.dispatchKey pickup.pickupGeneration none) :
    PickupSafe wire peer Any (bindQueued wire request cancellation revision pickup) state := by
  unfold bindQueued
  by_cases unbound : cancellation.dispatchKey.isNone = true
  · rw [if_pos unbound]
    have advance := FenceAdvance.bound pickup.dispatchKey
      pickup.pickupGeneration none (Option.isNone_iff_eq_none.mp unbound) binds
    exact andDone (attempt_safe (updateFence_safe isFound advance))
  · rw [if_neg unbound]
    exact pure_safe ()

theorem completeCancelledBeforeClaim_safe :
    PickupSafe wire peer Any (handoff.completeCancelledBeforeClaim wire) state := by
  apply andThen cancellationForPayload_safe
  intro found _ _ isFound
  cases found with
  | none => exact pure_safe false
  | some queued =>
    obtain ⟨request, _, _⟩ := queued
    obtain ⟨task, decodes, isRequest, fence⟩ := isFound
    apply andThen recordCancelled_safe
    intro pickup noted evolves records
    obtain ⟨same, older, isOlder, kept⟩ := records
    have binds : Binds wire request noted.bucket pickup.dispatchKey
        pickup.pickupGeneration none := by
      rw [same]
      exact ⟨older, pickup, task, isOlder, kept, decodes, isRequest, rfl, .inl rfl⟩
    have again := fence.later (grown_of_evolves evolves)
    apply andThen (bindQueued_safe ⟨state, again⟩ binds)
    intro _ _ _ _
    split
    · exact pure_safe true
    · apply andThen (require_safe _ _)
      intro _ _ _ _
      exact andDone markSourceCompleted_safe

theorem ensureAssignedStaged_safe :
    PickupSafe wire peer (fun record later =>
        ClaimOf later.bucket handoff.dispatchKey record.claim)
      (handoff.ensureAssignedStaged wire) state := by
  apply andThen load_safe
  intro found _ _ isFound
  cases found with
  | none => exact SafeTry.throw
  | some loaded =>
    obtain ⟨record, _, _⟩ := loaded
    dsimp only
    split
    · exact SafeTry.throw
    split
    · exact .pure fun final rely _ =>
        isFound.claimOf.grown (grown_of_rely rely).bucket
    rename_i unstaged
    have ground : Grounded record .assigned := by simpa [Grounded] using unstaged
    apply andThen (stageEvent_safe isFound.readAt ground)
    intro _ _ evolves stages
    have again := isFound.later (grown_of_evolves evolves)
    apply andThen (updatePickup_safe again.readAt (.assigned stages))
    intro _ _ onward _
    refine .pure fun _ rely _ => ?_
    have claimed := again.claimOf.grown
      ((grown_of_evolves onward).trans (grown_of_rely rely)).bucket
    exact claimed

variable {timeoutMs : Int}

theorem wakeLiveness_safe {arm : Bool} :
    PickupSafe wire peer Any (handoff.wakeLiveness wire record timeoutMs arm) state := by
  unfold wakeLiveness
  split
  · split
    · exact .throw
    · exact ask_safe fun _ _ _ => rfl
  · exact pure_safe ()

theorem setServerDeadline_safe {arm : Bool} :
    PickupSafe wire peer Any (handoff.setServerDeadline wire claim timeoutMs arm) state := by
  apply andThen load_safe
  intro found _ _ isFound
  cases found with
  | none => exact pure_safe none
  | some loaded =>
    obtain ⟨record, _, time⟩ := loaded
    dsimp only
    split
    · exact pure_safe none
    rename_i took
    have given : record.assignedStaged = true := by
      simp only [Bool.or_eq_true, Bool.not_eq_true', not_or, Bool.not_eq_false] at took
      exact took.2
    apply andThen
      (updatePickup_safe isFound.readAt (.rearmed (time + timeoutMs) arm given))
    intro _ _ _ _
    apply andThen load_safe
    intro again _ _ _
    cases again with
    | none => exact pure_safe none
    | some =>
      dsimp only
      split
      · exact pure_safe none
      · exact andDone wakeLiveness_safe

theorem recoverStaging_safe :
    PickupSafe wire peer Any (handoff.recoverStaging wire record) state := by
  unfold recoverStaging
  split
  · exact pure_safe ()
  apply andThen ensureAssignedStaged_safe
  intro _ _ _ _
  split
  · exact pure_safe ()
  · apply andThen (ask_safe fun _ _ _ => rfl)
    intro _ _ _ _
    exact andDone setServerDeadline_safe

theorem recoverWithoutLaunch_safe :
    PickupSafe wire peer Any (handoff.recoverWithoutLaunch wire record) state := by
  apply andThen cancellationForPayload_safe
  intro found _ _ _
  cases found with
  | some =>
    dsimp only
    split
    · exact SafeTry.throw
    apply andThen (require_safe _ _)
    intro _ _ _ _
    split
    · exact pure_safe ()
    · exact markSourceCompleted_safe
  | none =>
    apply andThen recoverStaging_safe
    intro _ _ _ _
    apply andThen (require_safe _ _)
    intro _ _ _ _
    exact tryMarkSourceCompleted_safe

theorem stageStarted_safe :
    PickupSafe wire peer Any (handoff.stageStarted wire claim event) state := by
  apply andThen load_safe
  intro found _ _ isFound
  cases found with
  | none => exact pure_safe false
  | some loaded =>
    obtain ⟨record, _, _⟩ := loaded
    dsimp only
    split
    · exact pure_safe false
    rename_i took
    have ground : Grounded record .started := by
      simp [TaskPickupRecord.matches, TaskPickupRecord.matchesClaim] at took
      exact ⟨took.1.1.2, took.1.1.1.2⟩
    apply andThen (stageEvent_safe isFound.readAt ground)
    intro _ _ evolves _
    have again := isFound.later (grown_of_evolves evolves)
    exact andDone (updatePickup_safe again.readAt (.started event))

theorem selectPending_safe :
    PickupSafe wire peer
      (fun found _ => ∀ pending, found = some pending →
        pending = ⟨handoff.dispatchKey, handoff.payload wire⟩)
      (handoff.selectPending wire) state := by
  apply andThen load_safe
  intro found _ _ _
  cases found with
  | some =>
    apply andThen recoverWithoutLaunch_safe
    intro _ _ _ _
    refine .pure fun _ _ _ pending waits => ?_
    cases waits
  | none =>
    apply andThen completeCancelledBeforeClaim_safe
    intro _ _ _ _
    split
    · refine .pure fun _ _ _ pending waits => ?_
      cases waits
    · refine .pure fun _ _ _ _ waits => ?_
      cases waits
      rfl

theorem rejectPoison_safe {dispatchKey : Nat} {reason : String} :
    PickupSafe wire peer Any (handoff.rejectPoison wire dispatchKey reason) state := by
  unfold rejectPoison
  split
  · exact pure_safe false
  rename_i same
  have sent : dispatchKey = handoff.dispatchKey := not_not.mp same
  subst sent
  refine andThen (createPickup_safe ⟨rfl, rfl, rfl, rfl, ?_⟩) ?_
  · intro _ elects
    cases elects
  · intro _ _ _ _
    apply andThen (require_safe _ _)
    intro _ _ _ _
    exact andDone tryMarkSourceCompleted_safe

/-- The party created the record of its dispatch, under this owner. -/
def Created (peer : Nat) (handoff : NatsPickupHandoff) (owner : String)
    (bucket : Bucket) : Prop :=
  createdBy handoff.dispatchKey bucket = some peer ∧
    ∃ record, Stored bucket handoff.dispatchKey record ∧ record.owner = owner

theorem Created.grown {owner : String} (made : Created peer handoff owner bucket)
    (grown : bucket <:+ later) : Created peer handoff owner later := by
  obtain ⟨creator, record, kept, owns⟩ := made
  exact ⟨oldest_grown grown creator, record, kept.grown grown, owns⟩

variable {input : ClaimLocalPickup}

theorem createClaim_safe :
    PickupSafe wire peer
      (fun found later => found.isSome = true → Created peer handoff input.owner later.bucket)
      (handoff.createClaim wire input) state := by
  unfold createClaim
  split
  · exact .pure fun _ _ _ claimed => by cases claimed
  rename_i same
  have sent := not_not.mp same
  apply andThen completeCancelledBeforeClaim_safe
  intro _ _ _ _
  split
  · exact .pure fun _ _ _ claimed => by cases claimed
  apply andThen load_safe
  intro found _ _ _
  cases found with
  | some => exact .pure fun _ _ _ claimed => by cases claimed
  | none =>
    have fresh : FreshRecord wire handoff.dispatchKey (handoff.claimedRecord wire input) := by
      refine ⟨sent, rfl, rfl, rfl, ?_⟩
      intro _ elects
      cases elects
    apply andThen (createPickup_safe fresh)
    intro _ _ _ isCreated
    refine .pure fun _ rely _ _ => ?_
    have grown := (grown_of_rely rely).bucket
    exact ⟨oldest_grown grown isCreated.1, handoff.claimedRecord wire input,
      .grown isCreated.2 grown, rfl⟩

theorem stageClaim_safe :
    PickupSafe wire peer (fun claim later => ClaimOf later.bucket handoff.dispatchKey claim)
      (handoff.stageClaim wire input record) state := by
  apply andThen setServerDeadline_safe
  intro _ _ _ _
  apply andThen ensureAssignedStaged_safe
  intro _ _ _ _
  apply andThen load_safe
  intro found _ _ isFound
  cases found with
  | none => exact SafeTry.throw
  | some =>
    exact .pure fun _ rely _ =>
      isFound.claimOf.grown (grown_of_rely rely).bucket

/-- What a claim shows: a success or an ambiguous failure has created the
record, and a success returns a claim on it. -/
def ClaimShows (peer : Nat) (handoff : NatsPickupHandoff) (owner : String)
    (result : Except ClaimWriteError (Option LocalPickupClaim)) (now : Shared) : Prop :=
  match result with
  | .ok (some claim) =>
    Created peer handoff owner now.bucket ∧ ClaimOf now.bucket handoff.dispatchKey claim
  | .error .ambiguous => Created peer handoff owner now.bucket
  | _ => True

theorem claim_safe :
    PickupSafe wire peer (ClaimShows peer handoff input.owner)
      (handoff.claim wire input) state := by
  apply andThen (attempt_safe createClaim_safe)
  intro result _ _ reached
  cases result with
  | error => exact .pure fun _ _ _ => trivial
  | ok found =>
    cases found with
    | none => exact .pure fun _ _ _ => trivial
    | some record =>
      have made := reached (some record) rfl rfl
      apply andThen (attempt_safe stageClaim_safe)
      intro staged _ evolves stages
      have stillCreated := made.grown (grown_of_evolves evolves).bucket
      cases staged with
      | ok claim =>
        refine .pure fun last rely _ => ?_
        have grown := (grown_of_rely rely).bucket
        exact ⟨stillCreated.grown grown, (stages claim rfl).grown grown⟩
      | error =>
        exact .pure fun _ rely _ =>
          stillCreated.grown (grown_of_rely rely).bucket

theorem proveAmbiguousClaim_safe {made : Bool} {dispatchKey : Nat} {owner : String} :
    PickupSafe wire peer
      (fun found later => ∀ claim, found = some claim →
        ClaimOf later.bucket handoff.dispatchKey claim)
      (handoff.proveAmbiguousClaim wire made dispatchKey owner assignedEvent) state := by
  unfold proveAmbiguousClaim
  split
  · exact .pure fun _ _ _ claim isClaim => by cases isClaim
  apply andThen load_safe
  intro found _ _ _
  cases found with
  | none => exact .pure fun _ _ _ claim isClaim => by cases isClaim
  | some =>
    dsimp only
    split
    · exact .pure fun _ _ _ claim isClaim => by cases isClaim
    apply andThen ensureAssignedStaged_safe
    intro _ _ _ claimed
    refine .pure fun _ rely _ _ isClaim => ?_
    cases isClaim
    exact claimed.grown (grown_of_rely rely).bucket

theorem proveReadyToLaunch_safe :
    PickupSafe wire peer
      (fun ready later => ready = true → AssignedBefore later.bucket handoff.dispatchKey)
      (handoff.proveReadyToLaunch wire claim assignedEvent) state := by
  apply andThen cancellationForPayload_safe
  intro queued _ _ _
  cases queued with
  | some => exact .pure fun _ _ _ ready => by cases ready
  | none =>
    apply andThen load_safe
    intro found _ _ isFound
    cases found with
    | none => exact .pure fun _ _ _ ready => by cases ready
    | some loaded =>
      refine .pure fun _ rely _ ready => ?_
      simp only [Bool.and_eq_true] at ready
      have stored := isFound.stored.grown (grown_of_rely rely).bucket
      exact ⟨loaded.1, stored, ready.1.2⟩

theorem markClaimCompleted_safe :
    PickupSafe wire peer Any (handoff.markClaimCompleted wire claim) state := by
  apply andThen load_safe
  intro found _ _ isFound
  cases found with
  | none => exact pure_safe ()
  | some =>
    dsimp only
    split
    · exact (updatePickup_safe isFound.readAt .completed).forget
    · exact pure_safe ()

/-- The claimed pickup was in the bucket before any fence of the Task. -/
def Unfenced (claim : LocalPickupClaim) (task : DispatchedTask) (bucket : Bucket) : Prop :=
  ∃ older record, older <:+ bucket ∧
    lookup (.dispatch claim.dispatchKey) older = some (.pickup record) ∧
    record.pickupGeneration = claim.pickupGeneration ∧
    record.owner = claim.owner ∧
    lookup (.cancellation task.cancelRequest) older = none

variable {task : DispatchedTask}

theorem Unfenced.grown (unfenced : Unfenced claim task bucket)
    (grown : bucket <:+ later) : Unfenced claim task later := by
  obtain ⟨older, record, isOlder, rest⟩ := unfenced
  exact ⟨older, record, isOlder.trans grown, rest⟩

theorem completeSource_safe (decodes : wire.decodeDispatch (handoff.payload wire) = .ok task)
    (claimed : ClaimOf state.bucket handoff.dispatchKey claim) :
    PickupSafe wire peer
      (fun whole later => whole = true → Unfenced claim task later.bucket)
      (handoff.completeSource wire claim) state := by
  apply andThen cancellationForPayload_safe
  intro queued later _ isQueued
  cases queued with
  | some => exact .pure fun _ _ _ whole => by cases whole
  | none =>
    have unfenced : Unfenced claim task later.bucket := by
      obtain ⟨past, since, sound, until_, entry⟩ := isQueued task decodes
      obtain ⟨sameKey, _, kept, same, sameOwner⟩ := claimed
      obtain ⟨current, isCurrent, follows⟩ := (kept.grown since.bucket).current sound
      refine ⟨past.bucket, current, until_.bucket, ?_,
        follows.pickupGeneration.trans same,
        follows.owner.trans sameOwner, ?_⟩
      · rw [sameKey]
        exact isCurrent
      · rw [lookup, entry]
        rfl
    apply andThen load_safe
    intro found _ evolves _
    have stillUnfenced := unfenced.grown (grown_of_evolves evolves).bucket
    cases found with
    | none => exact .pure fun _ _ _ whole => by cases whole
    | some =>
      dsimp only
      split
      · exact .pure fun _ _ _ whole => by cases whole
      apply andThen (require_safe _ _)
      intro _ _ onward _
      have unfencedOn := stillUnfenced.grown (grown_of_evolves onward).bucket
      apply andThen markClaimCompleted_safe
      intro _ _ evolvesLast _
      refine .pure fun _ rely _ _ => ?_
      exact unfencedOn.grown ((grown_of_evolves evolvesLast).trans (grown_of_rely rely)).bucket

end NatsPickupHandoff

open NatsPickupHandoff

variable {wire : Wire} {peer : Nat} {state : Shared} {executor : Executor}
  {handoff : NatsPickupHandoff} {claim : LocalPickupClaim}

theorem claimPickup_safe {dispatchKey : Nat} :
    PickupSafe wire peer
      (fun found later => ∀ claim, found = some claim →
        Created peer handoff executor.owner later.bucket ∧
          ClaimOf later.bucket handoff.dispatchKey claim)
      (claimPickup wire executor handoff dispatchKey assignedEvent) state := by
  apply andThen (mapError_safe (ask_safe fun _ _ _ => rfl))
  intro _ _ _ _
  apply andThen (mapError_safe claim_safe)
  intro result _ _ shows
  cases result with
  | ok found =>
    cases found with
    | none => exact .pure fun _ _ _ claim isClaim => by cases isClaim
    | some =>
      refine .pure fun _ rely _ other isClaim => ?_
      cases isClaim
      have grown := (grown_of_rely rely).bucket
      exact ⟨shows.1.grown grown, shows.2.grown grown⟩
  | error fault =>
    cases fault with
    | failed => exact SafeTry.throw
    | ambiguous =>
      apply andThen (mapError_safe proveAmbiguousClaim_safe)
      intro found _ evolves proved
      cases found with
      | none => exact SafeTry.throw
      | some claim =>
        refine .pure fun _ rely _ _ isClaim => ?_
        cases isClaim
        have grown := (grown_of_rely rely).bucket
        exact ⟨((shows).grown (grown_of_evolves evolves).bucket).grown
          grown, (proved claim rfl).grown grown⟩

/-- The right to launch: an authorised launch, with Assigned staged. -/
def ReadyToLaunch (wire : Wire) (peer : Nat) (prepared : PreparedPickup)
    (bucket : Bucket) : Prop :=
  Authorised wire bucket ⟨peer, prepared.claim, prepared.task⟩ ∧
    AssignedBefore bucket prepared.claim.dispatchKey

theorem ReadyToLaunch.grown (ready : ReadyToLaunch wire peer prepared bucket)
    (grown : bucket <:+ later) : ReadyToLaunch wire peer prepared later :=
  ⟨ready.1.grown grown, ready.2.grown grown⟩

variable {task : DispatchedTask}

theorem proveClaim_safe (decodes : wire.decodeDispatch (handoff.payload wire) = .ok task)
    (made : Created peer handoff executor.owner state.bucket)
    (claimed : ClaimOf state.bucket handoff.dispatchKey claim) :
    PickupSafe wire peer
      (fun preparation later => ∀ prepared, preparation = .ready prepared →
        ReadyToLaunch wire peer prepared later.bucket)
      (proveClaim wire executor handoff task claim assignedEvent) state := by
  apply andThen (mapError_safe (ask_safe fun _ _ _ => rfl))
  intro _ _ first _
  apply andThen (mapError_safe (andDone setServerDeadline_safe))
  intro _ _ second _
  split
  · apply andThen (mapError_safe proveReadyToLaunch_safe)
    intro _ _ third given
    split
    · rename_i isProved
      have grown := ((grown_of_evolves first).trans
        ((grown_of_evolves second).trans
          (grown_of_evolves third))).bucket
      have claimedNow := claimed.grown grown
      apply andThen (mapError_safe (completeSource_safe decodes claimedNow))
      intro _ _ evolves unfenced
      split
      · rename_i isCompleted
        refine .pure fun _ rely sound _ isPrepared => ?_
        cases isPrepared
        have last := ((grown_of_evolves evolves).trans (grown_of_rely rely)).bucket
        obtain ⟨creator, _, kept, owns⟩ := (made.grown grown).grown last
        obtain ⟨same, _, otherStored, _, otherOwner⟩ := claimedNow.grown last
        have sameOwner : claim.owner = executor.owner := by
          rw [← otherOwner, ← owns]
          exact otherStored.owner_eq sound kept
        refine ⟨⟨?_, ?_, ?_, (unfenced isCompleted).grown (grown_of_rely rely).bucket⟩, ?_⟩
        · rw [same]
          exact creator
        · rw [same]
          exact decodes
        · rw [sameOwner]
          exact executor.named
        · rw [same]
          exact (given isProved).grown last
      · exact SafeTry.throw
    · exact SafeTry.throw
  · exact SafeTry.throw

theorem decode_of_readDispatch {payload : Bytes} (isRead : wire.readDispatch payload = .ok task) :
    wire.decodeDispatch payload = .ok task := by
  obtain ⟨_, isDecoded, valid⟩ := Rust.bind_eq_ok isRead
  unfold validateDispatch at valid
  split at valid
  · cases valid
  split at valid
  · cases valid
  split at valid
  · cases valid
  · cases valid
    exact isDecoded

theorem preparePickup_safe :
    PickupSafe wire peer
      (fun preparation later => ∀ prepared, preparation = .ready prepared →
        ReadyToLaunch wire peer prepared later.bucket)
      (preparePickup wire executor handoff) state := by
  apply andThen (mapError_safe selectPending_safe)
  intro found _ _ waits
  cases found with
  | none =>
    refine .pure fun _ _ _ prepared isPrepared => ?_
    cases isPrepared
  | some pending =>
    have sent := waits pending rfl
    subst sent
    dsimp only
    split
    · apply andThen (mapError_safe rejectPoison_safe)
      intro _ _ _ _
      split
      · refine .pure fun _ _ _ prepared isPrepared => ?_
        cases isPrepared
      · exact SafeTry.throw
    · rename_i task isRead
      apply andThen claimPickup_safe
      intro claimed _ _ shows
      cases claimed with
      | none =>
        refine .pure fun _ _ _ _ isPrepared => ?_
        cases isPrepared
      | some claim =>
        obtain ⟨made, claimOf⟩ := shows claim rfl
        exact proveClaim_safe (decode_of_readDispatch isRead) made claimOf

end Tickr.Pickup
