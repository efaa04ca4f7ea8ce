import Tickr.Pickup.HandoffSafety

/-!
# What elections, sweepers and fences ensure

The winner of an election is the party that settled the record, and everybody
else is told the stored outcome.  A committed fence is bound to a pickup of its
Task, or a scan made after the fence was in the bucket has found none.
-/

namespace Tickr.Pickup

open Concurrent KeyValue
open Concurrent.Discipline
open SafeExcept (andThen andDone)
open LogStream (Uuid)

variable {wire : Wire} {peer sequence : Nat} {state now : Shared}
  {request : CancelRequest} {reconciliation : CancellationReconciliation}
  {bucket later : Bucket} {generation : Int} {owner : String}

def Answered (peer sequence : Nat) (outcome : AttemptOutcome)
    (election : TerminalElection) (bucket : Bucket) : Prop :=
  match election with
  | .won => settledBy sequence bucket = some (peer, outcome)
  | .settled elected => ∃ author, settledBy sequence bucket = some (author, elected)

variable {outcome : AttemptOutcome}

theorem Answered.grown {election : TerminalElection}
    (answered : Answered peer sequence outcome election bucket) (grown : bucket <:+ later) :
    Answered peer sequence outcome election later := by
  cases election with
  | won => exact oldest_grown grown answered
  | settled =>
    obtain ⟨author, settles⟩ := answered
    exact ⟨author, oldest_grown grown settles⟩

variable {record elected : TaskPickupRecord} {dispatchKey : Nat} {told : AttemptOutcome}
  {event : Bytes}

theorem elect_settled
    (settles : record.elect dispatchKey generation owner outcome event =
      (.settled told, elected)) :
    record.terminal.map ElectedAttemptOutcome.outcome = some told := by
  unfold TaskPickupRecord.elect at settles
  cases ends : record.terminal with
  | some =>
    rw [ends] at settles
    cases settles
    rfl
  | none =>
    rw [ends] at settles
    dsimp only at settles
    split at settles <;> cases settles

theorem elect_won
    (isWon : record.elect dispatchKey generation owner outcome event = (.won, elected)) :
    record.terminal = none ∧ (outcome.isProcessExit = true → record.startedEvent.isSome = true) ∧
      elected = { record with
        terminal := some ⟨outcome, event, outcome.isCancellation⟩ } := by
  unfold TaskPickupRecord.elect at isWon
  cases ends : record.terminal with
  | some =>
    rw [ends] at isWon
    cases isWon
  | none =>
    rw [ends] at isWon
    dsimp only at isWon
    split at isWon
    · cases isWon
    rename_i took
    cases isWon
    refine ⟨rfl, ?_, rfl⟩
    intro exit
    cases started : record.startedEvent with
    | some => rfl
    | none => simp [exit, started] at took

variable {start : Shared} {revision : Nat} {timeMs : Int}

theorem AssignedBefore.of_found (given : AssignedBefore start.bucket sequence)
    (hit : Found wire start (.dispatch sequence)
      (some (pickupEntry (record, revision, timeMs))) now) :
    record.assignedStaged = true := by
  obtain ⟨_, since, sound, _, entry⟩ := hit
  obtain ⟨_, kept, assigns⟩ := given
  obtain ⟨_, isCurrent, follows⟩ := (kept.grown since.bucket).current sound
  have isRecord := lookup_eq entry
  rw [isCurrent] at isRecord
  cases isRecord
  exact follows.assignedStaged assigns

theorem Wrote.settled {old new : TaskPickupRecord} {elected : ElectedAttemptOutcome}
    (wrote : Wrote wire peer sequence old new now)
    (isOpen : old.terminal = none) (elects : new.terminal = some elected) :
    settledBy sequence now.bucket = some (peer, elected.outcome) := by
  obtain ⟨past, sound, current, grown⟩ := wrote
  have unsettled : settledBy sequence past.bucket = none := by
    have settled := (sound.cells _ _ current : RecordSound wire past sequence old).settled
    rw [isOpen] at settled
    exact Option.map_eq_none_iff.mp settled.symm
  have first := @settledBy_cons_of_none new peer sequence past.bucket unsettled
  rw [elects] at first
  exact oldest_grown grown first

theorem Found.settled {told : AttemptOutcome}
    (hit : Found wire start (.dispatch sequence)
      (some (pickupEntry (record, revision, timeMs))) now)
    (isTold : record.terminal.map ElectedAttemptOutcome.outcome = some told) :
    ∃ author, settledBy sequence now.bucket = some (author, told) := by
  obtain ⟨_, _, until_, sound⟩ := hit.recordSound
  have settled := sound.settled
  rw [isTold] at settled
  obtain ⟨⟨author, _⟩, settles, result⟩ := Option.map_eq_some_iff.mp settled.symm
  cases result
  exact ⟨author, oldest_grown until_.bucket settles⟩

variable {claim : LocalPickupClaim}

/-- The update of a won election settles the record as it was asked to. -/
theorem updateOutcome_won
    (hit : Found wire start (.dispatch sequence)
      (some (pickupEntry (record, revision, timeMs))) state)
    (isWon : record.elect dispatchKey generation owner outcome event = (.won, elected))
    (given : outcome.isCancellation = false → record.assignedStaged = true) :
    PickupSafe wire peer
      (fun result later => ∀ value, result = .ok value →
        settledBy sequence later.bucket = some (peer, outcome))
      (@Program.attempt _ _ _ _ String (updateOutcome wire elected sequence revision)) state := by
  obtain ⟨isOpen, exited, elects⟩ := elect_won isWon
  subst elects
  have advance : Advance (fun kind => Staged state ⟨sequence, kind⟩) record { record with
      terminal := some ⟨outcome, event, outcome.isCancellation⟩ } :=
    .settled _ isOpen exited given
  apply (attempt_safe (updatePickup_safe hit.readAt advance)).weaken
  intro _ _ _ wrote value isOk
  exact (wrote value isOk).settled isOpen rfl

theorem electTerminalLoop_safe (retries : Nat)
    (allowed : outcome.isCancellation = false → AssignedBefore state.bucket claim.dispatchKey) :
    PickupSafe wire peer (fun vote later =>
        Answered peer claim.dispatchKey outcome vote later.bucket)
      (electTerminalLoop wire claim outcome event retries) state := by
  induction retries generalizing state with
  | zero => exact .throw
  | succ retries ih =>
    apply andThen (loadPickup_safe _ _)
    intro found _ evolves hit
    cases found with
    | none => exact SafeTry.throw
    | some loaded =>
      dsimp only
      split
      · rename_i told elected settles
        refine .pure fun _ rely _ => ?_
        exact (hit.later (grown_of_rely rely)).settled (elect_settled settles)
      · exact SafeTry.throw
      rename_i elected won
      apply andThen (updateOutcome_won hit won fun waits =>
        (allowed waits).of_found hit)
      intro result _ onward settled
      cases result with
      | ok =>
        refine .pure fun _ rely _ => ?_
        exact oldest_grown (grown_of_rely rely).bucket (settled _ rfl)
      | error =>
        apply ih
        intro waits
        exact (allowed waits).grown
          ((grown_of_evolves evolves).trans
            (grown_of_evolves onward)).bucket

theorem electTerminal_safe
    (allowed : outcome.isCancellation = false → AssignedBefore state.bucket claim.dispatchKey) :
    PickupSafe wire peer (fun vote later =>
        Answered peer claim.dispatchKey outcome vote later.bucket)
      (electTerminal wire claim outcome event) state := electTerminalLoop_safe _ allowed

theorem registerLivenessFailureLoop_safe {nowMs : Int} (retries : Nat) :
    PickupSafe wire peer Any (registerLivenessFailureLoop wire claim nowMs retries) state := by
  induction retries generalizing state with
  | zero => exact .throw
  | succ _ ih =>
    apply andThen (loadPickup_safe _ _)
    intro found _ _ hit
    cases found with
    | none => exact pure_safe false
    | some =>
      dsimp only
      split
      · exact pure_safe false
      apply andThen (attempt_safe (updatePickup_safe hit.readAt (.overdue nowMs)))
      intro result _ _ _
      cases result with
      | ok => exact pure_safe true
      | error => exact ih

theorem probe_safe {α ε : Type} {op : KvOp PickupKey PickupValue}
    {interpret : (PickupOp.kv op).Reply → Except ε α}
    (probes : ∀ key value, op.Writes key value → ∃ probe, key = .watchdogClock probe) :
    PickupSafe wire peer Any (Program.request (.kv op) interpret) state := by
  refine .request ?_
  intro before _ _ _ choice
  refine ⟨?_, fun _ _ _ _ _ => trivial⟩
  rw [perform_kv]
  rcases @perform_cases _ _ _ peer choice.delivery before.bucket op with
    still | ⟨key, value, writes, made⟩
  · rw [still]
    exact .nothing
  · obtain ⟨probe, rfl⟩ := probes key value writes
    rw [made]
    exact .probed probe value

theorem serverTime_safe (probe : Uuid) :
    PickupSafe wire peer Any (serverTime wire probe) state := by
  apply andThen (probe_safe fun _ _ writes => ⟨probe, by exact writes.1⟩)
  intro _ _ _ _
  apply andThen (bucketEntry_safe _ _)
  intro found _ _ _
  cases found with
  | none => exact SafeTry.throw
  | some =>
    exact andDone (probe_safe fun _ _ writes => ⟨probe, by exact writes.1⟩)

theorem armed_of_due (due : record.livenessIsDue timeMs = true) :
    record.livenessArmed = true ∧ record.terminal = none := by
  simp only [TaskPickupRecord.livenessIsDue, Bool.and_eq_true, Option.isNone_iff_eq_none] at due
  exact ⟨due.1.1.1, due.1.2⟩

theorem Found.assigned_of_due {timeMs nowMs : Int}
    (hit : Found wire start (.dispatch sequence)
      (some (pickupEntry (record, revision, timeMs))) now)
    (due : record.livenessIsDue nowMs = true) :
    record.assignedStaged = true := by
  obtain ⟨_, _, _, sound⟩ := hit.recordSound
  exact sound.armed (armed_of_due due).1

theorem scanDue_safe {nowMs : Int} (keys : List PickupKey) (left : Nat) :
    PickupSafe wire peer
      (fun found later => ∀ due, found = some due →
        AssignedBefore later.bucket due.claim.dispatchKey)
      (scanDue wire nowMs keys left) state := by
  induction keys generalizing state left with
  | nil =>
    cases left <;>
      exact .pure fun _ _ _ due isDue => by cases isDue
  | cons key _ ih =>
    cases left with
    | zero => exact .pure fun _ _ _ due isDue => by cases isDue
    | succ left =>
      cases key with
      | cancellation | watchdogClock => exact ih (left + 1)
      | dispatch =>
        apply andThen (loadPickup_safe _ _)
        intro found _ _ hit
        cases found with
        | none => exact ih left
        | some loaded =>
          dsimp only
          by_cases isDue : loaded.1.livenessIsDue nowMs = true
          · rw [if_pos isDue]
            refine .pure fun _ rely _ _ first => ?_
            cases first
            have stored := hit.stored.grown (grown_of_rely rely).bucket
            have same := hit.claimOf.1
            rw [same]
            exact ⟨loaded.1, stored, hit.assigned_of_due isDue⟩
          · rw [if_neg isDue]
            exact ih left

theorem sweepOneDue_safe (probe : Uuid) :
    PickupSafe wire peer
      (fun found later => ∀ claim election, found = some (claim, election) →
        Answered peer claim.dispatchKey .livenessExpired election later.bucket)
      (sweepOneDue wire probe) state := by
  apply andThen (serverTime_safe probe)
  intro nowMs _ _ _
  have selects : PickupSafe wire peer
      (fun found later => ∀ due, found = some due →
        AssignedBefore later.bucket due.claim.dispatchKey)
      (selectDueLiveness wire nowMs) ‹Shared› := by
    apply andThen (bucketKeys_safe _)
    intro keys _ _ _
    exact scanDue_safe keys _
  apply andThen selects
  intro found _ _ assigned
  cases found with
  | none =>
    exact .pure fun _ _ _ claim _ swept => by
      cases swept
  | some due =>
    dsimp only
    split
    · exact SafeTry.throw
    apply andThen (electTerminal_safe fun _ => assigned due rfl)
    intro _ _ _ answered
    refine .pure fun _ rely _ _ _ swept => ?_
    cases swept
    exact answered.grown (grown_of_rely rely).bucket

theorem electDueLiveness_won {record elected : TaskPickupRecord}
    (isWon : record.electDueLiveness timeMs event = (.won, elected)) :
    elected = { record with
      terminal := some ⟨.livenessExpired, event, false⟩ } := by
  unfold TaskPickupRecord.electDueLiveness at isWon
  split at isWon
  · cases isWon
  split at isWon
  · cases isWon
  · cases isWon
    rfl

theorem settleDueRecord_safe {timeMs time : Int}
    (hit : Found wire start (.dispatch sequence)
      (some (pickupEntry (record, revision, timeMs))) state) :
    PickupSafe wire peer Any
      (settleDueRecord wire sequence time record revision) state := by
  unfold settleDueRecord
  cases due : record.livenessIsDue time with
  | false => exact pure_safe true
  | true =>
    simp only [Bool.not_true, Bool.false_eq_true, if_false]
    split
    · exact .throw
    rename_i event _
    split
    · rename_i elected won
      have elects := electDueLiveness_won won
      subst elects
      have advance : Advance (fun kind => Staged state ⟨sequence, kind⟩) record { record with
            terminal := some ⟨.livenessExpired, event, false⟩ } := by
        apply Advance.settled _ (armed_of_due due).2
        · intro exit
          cases exit
        · intro _
          exact hit.assigned_of_due due
      apply andThen (attempt_safe (updatePickup_safe hit.readAt advance))
      intro result _ _ _
      cases result with
      | ok => exact pure_safe true
      | error => exact pure_safe false
    · exact pure_safe true
    · exact pure_safe true

theorem enqueueTerminalLoop_safe (retries : Nat) :
    PickupSafe wire peer Any (enqueueTerminalLoop wire sequence retries) state := by
  induction retries generalizing state with
  | zero => exact .throw
  | succ retries ih =>
    apply andThen (loadPickup_safe _ _)
    intro found later _ hit
    cases found with
    | none => exact pure_safe ()
    | some loaded =>
      obtain ⟨record, revision, _⟩ := loaded
      dsimp only
      split
      · exact pure_safe ()
      rename_i elected elects
      cases isEnqueued : elected.eventEnqueued with
      | true => exact pure_safe ()
      | false =>
        have same : record.dispatchKey = sequence := hit.claimOf.1
        have ground : Grounded record .terminal := ⟨elected, elects, isEnqueued⟩
        have stages : PickupSafe wire peer Any
            (stageEvent record.dispatchKey .terminal elected.event revision) later := by
          rw [same]
          exact (stageEvent_safe hit.readAt ground).forget
        apply andThen stages
        intro _ _ evolves _
        have again := hit.later (grown_of_evolves evolves)
        apply andThen
          (attempt_safe (updatePickup_safe again.readAt (.enqueued elected elects)))
        intro result _ _ _
        cases result with
        | ok => exact pure_safe ()
        | error => exact ih

theorem reconcilePickupOutcome_safe {time : Int} :
    PickupSafe wire peer Any (reconcilePickupOutcome wire sequence time) state := by
  apply andThen (loadPickup_safe _ _)
  intro found _ _ hit
  cases found with
  | none => exact pure_safe ()
  | some =>
    apply andThen (settleDueRecord_safe hit)
    intro _ _ _ _
    split
    · exact enqueueTerminalLoop_safe _
    · exact pure_safe ()

def IsPickupOf (wire : Wire) (request : CancelRequest) (sequence : Nat) : Prop :=
  ∃ task, wire.decodeDispatch (wire.dispatches sequence) = .ok task ∧ task.cancelRequest = request

/-- The dispatches that have a record, in the order of the key listing. -/
def PickupKey.sequence? : PickupKey → Option Nat
  | .dispatch sequence => some sequence
  | _ => none

def dispatchKeys (keys : List PickupKey) : List Nat := keys.filterMap PickupKey.sequence?

def PickupOf (wire : Wire) (request : CancelRequest) (bucket : Bucket)
    (pickup : TaskPickupRecord) : Prop :=
  IsPickupOf wire request pickup.dispatchKey ∧ Stored bucket pickup.dispatchKey pickup

variable {pickup : TaskPickupRecord}

theorem PickupOf.grown (isPickup : PickupOf wire request bucket pickup)
    (grown : bucket <:+ later) : PickupOf wire request later pickup :=
  ⟨isPickup.1, isPickup.2.grown grown⟩

/-- A scan finds a pickup of the Task, or there is none among the dispatches it
reads and none that it started from. -/
structure ScanShows (wire : Wire) (request : CancelRequest)
    (current : Option (Nat × TaskPickupRecord)) (scanned : List Nat)
    (found : Option TaskPickupRecord) (now : Shared) : Prop where
  isPickup : ∀ pickup, found = some pickup → PickupOf wire request now.bucket pickup
  missed : found = none → current = none ∧ ∀ sequence ∈ scanned, ¬ IsPickupOf wire request sequence

theorem scanEnd_safe {current : Option (Nat × TaskPickupRecord)}
    (picked : ∀ chosen, current = some chosen → PickupOf wire request state.bucket chosen.2) :
    PickupSafe wire peer (ScanShows wire request current [])
      (pure (current.map Prod.snd) : PickupM (Option TaskPickupRecord))
      state := by
  refine .pure fun _ rely _ => ⟨?_, ?_⟩
  · intro _ isPickup
    obtain ⟨chosen, isChosen, isRecord⟩ := Option.map_eq_some_iff.mp isPickup
    subst isRecord
    exact (picked chosen isChosen).grown (grown_of_rely rely).bucket
  · intro isNone
    refine ⟨Option.map_eq_none_iff.mp isNone, ?_⟩
    intro _ mem
    cases mem

variable {found : Option TaskPickupRecord} {scanned : List Nat}

theorem ScanShows.skip {current : Option (Nat × TaskPickupRecord)}
    (shows : ScanShows wire request current scanned found now)
    (other : ¬ IsPickupOf wire request sequence) :
    ScanShows wire request current (sequence :: scanned) found now := by
  refine ⟨shows.isPickup, fun isNone => ?_⟩
  obtain ⟨noCurrent, noOther⟩ := shows.missed isNone
  exact ⟨noCurrent, List.forall_mem_cons.mpr ⟨other, noOther⟩⟩

theorem ScanShows.take {current : Option (Nat × TaskPickupRecord)}
    (shows : ScanShows wire request (some chosen) scanned found now) :
    ScanShows wire request current (sequence :: scanned) found now := by
  refine ⟨shows.isPickup, fun isNone => ?_⟩
  cases (shows.missed isNone).1

theorem scanPickups_safe (keys : List PickupKey)
    (left : Nat) (current : Option (Nat × TaskPickupRecord))
    (there : ∀ sequence, .dispatch sequence ∈ keys →
      ∃ record, Stored state.bucket sequence record)
    (picked : ∀ chosen, current = some chosen → PickupOf wire request state.bucket chosen.2) :
    PickupSafe wire peer (ScanShows wire request current ((dispatchKeys keys).take left))
      (scanPickups wire request keys left current) state := by
  induction keys generalizing state left current with
  | nil =>
    cases left with
    | zero | succ => exact scanEnd_safe picked
  | cons key rest ih =>
    cases left with
    | zero => exact scanEnd_safe picked
    | succ left =>
      have presentRest : ∀ sequence, .dispatch sequence ∈ rest →
          ∃ record, Stored state.bucket sequence record := by
        intro sequence mem
        exact there sequence (.tail key mem)
      cases key with
      | cancellation | watchdogClock => exact ih (left + 1) current presentRest picked
      | dispatch sequence =>
        obtain ⟨record, stored⟩ := there sequence (.head _)
        apply andThen (loadPickup_safe _ _)
        intro found later evolves hit
        have grown := (grown_of_evolves evolves).bucket
        have presentLater : ∀ other, .dispatch other ∈ rest →
            ∃ record, Stored later.bucket other record := by
          intro other mem
          obtain ⟨otherRecord, otherStored⟩ := presentRest other mem
          exact ⟨otherRecord, otherStored.grown grown⟩
        have selectedLater : ∀ chosen, current = some chosen →
            PickupOf wire request later.bucket chosen.2 := by
          intro chosen isChosen
          exact (picked chosen isChosen).grown grown
        have skips : ¬ IsPickupOf wire request sequence →
            PickupSafe wire peer
              (ScanShows wire request current (sequence :: (dispatchKeys rest).take left))
              (scanPickups wire request rest left current) later := by
          intro ne
          apply (ih left current presentLater selectedLater).weaken
          intro _ _ _ shows
          exact shows.skip ne
        cases found with
        | none => exact (stored.not_absent hit).elim
        | some loaded =>
          obtain ⟨pickup, _, _⟩ := loaded
          obtain ⟨_, _, _, sound⟩ := hit.recordSound
          dsimp only
          rw [sound.payload]
          cases decoded : wire.decodeDispatch (wire.dispatches sequence) with
          | error =>
            apply skips
            intro isPickup
            obtain ⟨_, isTask, _⟩ := isPickup
            rw [decoded] at isTask
            cases isTask
          | ok task =>
            by_cases ne : task.cancelRequest ≠ request
            · simp only [if_pos ne]
              apply skips
              intro isPickup
              obtain ⟨_, isTask, isRequest⟩ := isPickup
              rw [decoded] at isTask
              cases isTask
              exact ne isRequest
            · simp only [if_neg ne]
              have chosen : PickupOf wire request later.bucket pickup := by
                constructor
                · rw [sound.dispatchKey]
                  exact ⟨task, decoded, not_not.mp ne⟩
                · rw [sound.dispatchKey]
                  exact hit.stored
              split
              · apply SafeExcept.weaken (ih left (some (sequence, pickup)) presentLater ?_)
                · intro _ _ _ shows
                  exact shows.take
                · intro _ isChosen
                  cases isChosen
                  exact chosen
              · rename_i kept
                cases current with
                | none => exact (kept rfl).elim
                | some before =>
                  apply (ih left (some before) presentLater selectedLater).weaken
                  intro _ _ _ shows
                  exact shows.take

/-- A scan of a bucket that held the fence has not come upon a pickup of the
Task. -/
def ScanMissed (wire : Wire) (request : CancelRequest) (bucket : Bucket) : Prop :=
  ∃ scanned fence, scanned <:+ bucket ∧
    lookup (.cancellation request) scanned = some (.fence fence) ∧
    ∀ sequence ∈ (dispatchKeys (liveKeys scanned)).take cancellationScanLimit,
      ¬ IsPickupOf wire request sequence

theorem ScanMissed.grown (missed : ScanMissed wire request bucket) (grown : bucket <:+ later) :
    ScanMissed wire request later := by
  obtain ⟨scanned, fence, older, rest⟩ := missed
  exact ⟨scanned, fence, older.trans grown, rest⟩

variable {record : TaskCancellationRecord}

theorem FenceStored.current {shared : Shared} (sound : Sound wire shared)
    (kept : FenceStored shared.bucket request record) :
    ∃ current, lookup (.cancellation request) shared.bucket =
        some (.fence current) ∧ FenceFollows record current := by
  obtain ⟨older, isOlder, found⟩ := kept
  obtain ⟨value, valued, follows⟩ :=
    sound.forward older (.cancellation request) (.fence record) trivial isOlder found
  cases value with
  | pickup | empty => exact follows.elim
  | fence current => exact ⟨current, valued, follows⟩

variable {fence : TaskCancellationRecord}

theorem findCurrentPickup_safe (commits : FenceStored state.bucket request fence) :
    PickupSafe wire peer (fun found later =>
        (∀ pickup, found = some pickup → PickupOf wire request later.bucket pickup) ∧
        (found = none → ScanMissed wire request later.bucket))
      (findCurrentPickup wire request) state := by
  apply andThen (bucketKeys_safe _)
  intro keys later _ listed
  obtain ⟨past, since, sound, until_, isListed⟩ := listed
  have there : ∀ sequence, .dispatch sequence ∈ keys →
      ∃ record, Stored later.bucket sequence record := by
    intro _ mem
    rw [isListed, mem_liveKeys_iff] at mem
    obtain ⟨value, valued⟩ := Option.isSome_iff_exists.mp mem
    have isSound := sound.cells _ _ valued
    cases value with
    | pickup record => exact ⟨record, past.bucket, until_.bucket, valued⟩
    | fence | empty => exact isSound.elim
  apply SafeExcept.weaken (.frame
    (scanPickups_safe keys cancellationScanLimit none there
      (fun _ isChosen => by cases isChosen)))
  intro _ _ _ reached
  obtain ⟨shows, evolves⟩ := reached
  refine ⟨shows.isPickup, ?_⟩
  intro isNone
  obtain ⟨current, isCurrent, _⟩ := (commits.grown since.bucket).current sound
  refine ⟨past.bucket, current, (until_.trans (grown_of_evolves evolves)).bucket, isCurrent, ?_⟩
  rw [← isListed]
  exact (shows.missed isNone).2

def Bound (bucket : Bucket) (request : CancelRequest) : Prop :=
  ∃ fence, FenceStored bucket request fence ∧ fence.dispatchKey.isSome = true

theorem Found.fenceStored
    (hit : Found wire start (.cancellation request)
      (some (fenceEntry (record, revision))) now) :
    FenceStored now.bucket request record := by
  obtain ⟨past, _, _, until_, entry⟩ := hit
  exact ⟨past.bucket, until_.bucket, lookup_eq entry⟩

theorem bindLoop_safe (retries : Nat) (isPickup : PickupOf wire request state.bucket pickup) :
    PickupSafe wire peer (fun _ later => Bound later.bucket request)
      (bindLoop wire request pickup retries) state := by
  induction retries generalizing state with
  | zero => exact .throw
  | succ _ ih =>
    apply andThen (loadFence_safe _ _)
    intro found later evolves hit
    have pickupLater := isPickup.grown (grown_of_evolves evolves).bucket
    cases found with
    | none => exact SafeTry.throw
    | some loaded =>
      obtain ⟨record, _⟩ := loaded
      dsimp only
      by_cases isBound : record.dispatchKey.isSome = true
      · rw [if_pos isBound]
        refine .pure fun _ rely _ => ?_
        exact ⟨record, hit.fenceStored.grown (grown_of_rely rely).bucket, isBound⟩
      rw [if_neg isBound]
      have unbound : record.dispatchKey = none := by simpa using isBound
      have binds : Binds wire request later.bucket pickup.dispatchKey pickup.pickupGeneration
          (if pickup.owner = "" then none else some pickup.owner) := by
        obtain ⟨⟨task, decodes, isRequest⟩, older, isOlder, kept⟩ := pickupLater
        refine ⟨older, pickup, task, isOlder, kept, decodes, isRequest, rfl, ?_⟩
        split
        · exact .inl rfl
        · exact .inr rfl
      apply andThen (attempt_safe (updateFence_safe
        ⟨state, hit⟩ (.bound _ _ _ unbound binds)))
      intro result _ onward wrote
      cases result with
      | ok =>
        refine .pure fun _ rely _ => ?_
        exact ⟨_, (wrote _ rfl).grown (grown_of_rely rely).bucket, rfl⟩
      | error =>
        apply ih
        exact pickupLater.grown (grown_of_evolves onward).bucket

theorem bindCurrent_safe (commits : FenceStored state.bucket request fence) :
    PickupSafe wire peer
      (fun _ later => Bound later.bucket request ∨ ScanMissed wire request later.bucket)
      (bindCurrent wire request) state := by
  apply andThen (findCurrentPickup_safe commits)
  intro found _ _ shows
  cases found with
  | none =>
    refine .pure fun _ rely _ => .inr ?_
    exact (shows.2 rfl).grown (grown_of_rely rely).bucket
  | some pickup =>
    apply (bindLoop_safe _ (shows.1 pickup rfl)).weaken
    intro _ _ _ bound
    exact .inl bound

theorem fencedPickup_safe : PickupSafe wire peer Any (fencedPickup wire record) state := by
  unfold fencedPickup
  cases record.dispatchKey with
  | none => exact pure_safe none
  | some =>
    apply andThen (loadPickup_safe _ _)
    intro found _ _ _
    cases found with
    | none => exact pure_safe none
    | some => exact pure_safe _

/-- What a fence says about its binding is what the record says. -/
def SameBinding (fence : LocalCancellationFence) (record : TaskCancellationRecord) : Prop :=
  fence.dispatchKey = record.dispatchKey ∧ fence.pickupGeneration = record.pickupGeneration ∧
    fence.owner = record.owner

theorem localFence_safe :
    PickupSafe wire peer (fun fence _ => SameBinding fence record)
      (localFence wire record) state := by
  apply andThen fencedPickup_safe
  intro _ _ _ _
  exact .pure fun _ _ _ => ⟨rfl, rfl, rfl⟩

variable {identity : CancelRequest}

theorem loadCancellation_safe :
    PickupSafe wire peer Any (loadCancellation wire identity) state := by
  apply andThen (loadFence_safe _ _)
  intro found _ _ _
  cases found with
  | none => exact pure_safe none
  | some =>
    exact andDone localFence_safe

theorem ensureFence_safe :
    PickupSafe wire peer (fun _ later => ∃ fence, FenceStored later.bucket request fence)
      (ensureFence wire request request) state := by
  apply andThen (loadFence_safe _ _)
  intro found _ _ hit
  cases found with
  | some loaded =>
    dsimp only
    split
    · exact SafeTry.throw
    · refine .pure fun final rely _ => ?_
      exact ⟨loaded.1, hit.fenceStored.grown (grown_of_rely rely).bucket⟩
  | none =>
    apply andThen (attempt_safe (createFence_safe request))
    intro result _ _ made
    cases result with
    | ok =>
      refine .pure fun final rely _ => ?_
      exact ⟨_, (made _ rfl).grown (grown_of_rely rely).bucket⟩
    | error =>
      apply andThen (loadFence_safe _ _)
      intro again _ _ foundAgain
      cases again with
      | none => exact SafeTry.throw
      | some loaded =>
        refine .pure fun _ rely _ => ?_
        exact ⟨loaded.1, foundAgain.fenceStored.grown (grown_of_rely rely).bucket⟩

/-- A committed fence: it is stored as it was returned, and if it names no
pickup then the scan for one has found none. -/
def Committed (wire : Wire) (request : CancelRequest)
    (fence : LocalCancellationFence) (bucket : Bucket) : Prop :=
  (∃ record, FenceStored bucket request record ∧ SameBinding fence record) ∧
    (fence.dispatchKey = none → ScanMissed wire request bucket)

theorem commitCancellationFence_safe :
    PickupSafe wire peer (fun fence later => Committed wire request fence later.bucket)
      (commitCancellationFence wire request request) state := by
  apply andThen ensureFence_safe
  intro _ _ _ exists_
  obtain ⟨_, kept⟩ := exists_
  apply andThen (bindCurrent_safe kept)
  intro _ _ _ outcome
  apply andThen (loadFence_safe _ _)
  intro found later evolves hit
  cases found with
  | none => exact SafeTry.throw
  | some loaded =>
    obtain ⟨record, _⟩ := loaded
    have missed : record.dispatchKey = none → ScanMissed wire request later.bucket := by
      intro unbound
      rcases outcome with bound | missed
      · obtain ⟨_, earlierStored, isBound⟩ := bound
        obtain ⟨past, since, sound, _, entry⟩ := hit
        obtain ⟨_, isCurrent, follows⟩ := (earlierStored.grown since.bucket).current sound
        have isRecord : lookup (.cancellation request) past.bucket =
            some (.fence record) := lookup_eq entry
        rw [isCurrent] at isRecord
        cases isRecord
        rw [← (follows.bound isBound).1, unbound] at isBound
        cases isBound
      · exact missed.grown (grown_of_evolves evolves).bucket
    apply localFence_safe.frame.weaken
    intro _ _ _ reached
    obtain ⟨same, onward⟩ := reached
    have grown := (grown_of_evolves onward).bucket
    refine ⟨⟨record, hit.fenceStored.grown grown, same⟩, ?_⟩
    intro unbound
    rw [same.1] at unbound
    exact (missed unbound).grown grown

variable {fence : LocalCancellationFence}

theorem markOwnerNotifiedLoop_safe (retries : Nat) :
    PickupSafe wire peer Any (markOwnerNotifiedLoop wire fence retries) state := by
  induction retries generalizing state with
  | zero => exact .throw
  | succ _ ih =>
    apply andThen (loadFence_safe _ _)
    intro found _ _ hit
    cases found with
    | none => exact pure_safe false
    | some =>
      dsimp only
      split
      · exact pure_safe false
      split
      · exact pure_safe true
      apply andThen (attempt_safe
        (updateFence_safe ⟨state, hit⟩ .notified))
      intro result _ _ _
      cases result with
      | ok => exact pure_safe true
      | error => exact ih

theorem electCancellationLoop_safe (retries : Nat) :
    PickupSafe wire peer
      (fun found later => ∀ vote, found = some vote →
        Answered peer sequence (cancellationOutcome reconciliation) vote later.bucket)
      (electCancellationLoop wire sequence generation owner reconciliation retries) state := by
  induction retries generalizing state with
  | zero => exact .throw
  | succ retries ih =>
    apply andThen (loadPickup_safe _ _)
    intro found _ _ hit
    cases found with
    | none => exact .pure fun _ _ _ _ isSome => by cases isSome
    | some loaded =>
      dsimp only
      split
      · rename_i told elected settles
        refine .pure fun final rely _ vote isTold => ?_
        cases isTold
        exact (hit.later (grown_of_rely rely)).settled (elect_settled settles)
      · exact .pure fun _ _ _ _ isSome => by cases isSome
      rename_i elected won
      apply andThen (updateOutcome_won hit won fun waits => ?_)
      · intro result _ _ settled
        cases result with
        | ok =>
          refine .pure fun final rely _ vote isTold => ?_
          cases isTold
          exact oldest_grown (grown_of_rely rely).bucket (settled _ rfl)
        | error => exact ih
      · cases reconciliation <;> cases waits

/-- The answer of a cancellation's election, if its fence takes part in one. -/
def CancellationAnswered (peer : Nat) (sequence : Option Nat)
    (reconciliation : CancellationReconciliation)
    (found : Option TerminalElection) (bucket : Bucket) : Prop :=
  ∀ election, found = some election → ∃ number, sequence = some number ∧
    Answered peer number (cancellationOutcome reconciliation) election bucket

theorem CancellationAnswered.grown {sequence : Option Nat} {found : Option TerminalElection}
    (answered : CancellationAnswered peer sequence reconciliation found bucket)
    (grown : bucket <:+ later) :
    CancellationAnswered peer sequence reconciliation found later := by
  intro election isElection
  obtain ⟨number, isNumber, isAnswered⟩ := answered election isElection
  exact ⟨number, isNumber, isAnswered.grown grown⟩

theorem electCancellation_safe :
    PickupSafe wire peer
      (fun found later => CancellationAnswered peer fence.dispatchKey
        reconciliation found later.bucket) (electCancellation wire fence reconciliation) state := by
  unfold electCancellation
  split
  · rename_i sequence generation owner isSequence _ _
    apply (electCancellationLoop_safe _).weaken
    intro _ _ _ answered election isElection
    exact ⟨sequence, isSequence, answered election isElection⟩
  · exact .pure fun _ _ _ _ isElection => by cases isElection

variable {acknowledgement : Bytes}

theorem settleFenceLoop_safe {vote : Option TerminalElection} (retries : Nat) :
    PickupSafe wire peer (fun result _ => result = vote)
      (settleFenceLoop wire request reconciliation acknowledgement vote retries) state := by
  induction retries generalizing state with
  | zero => exact .throw
  | succ _ ih =>
    apply andThen (loadFence_safe _ _)
    intro found _ _ hit
    cases found with
    | none => exact SafeTry.throw
    | some =>
      dsimp only
      split
      · split
        · exact SafeTry.throw
        · exact .pure fun _ _ _ => rfl
      · apply andThen (attempt_safe
          (updateFence_safe ⟨state, hit⟩ (.settled reconciliation acknowledgement)))
        intro result _ _ _
        cases result with
        | ok => exact .pure fun _ _ _ => rfl
        | error => exact ih

theorem settleCancellation_safe :
    PickupSafe wire peer
      (fun found later => CancellationAnswered peer fence.dispatchKey
        reconciliation found later.bucket)
      (settleCancellation wire fence reconciliation acknowledgement) state := by
  apply andThen electCancellation_safe
  intro _ _ _ answered
  apply (settleFenceLoop_safe _).frame.weaken
  intro _ _ _ reached
  obtain ⟨same, evolves⟩ := reached
  subst same
  exact answered.grown (grown_of_evolves evolves).bucket

theorem enqueueAcknowledgementLoop_safe (retries : Nat) :
    PickupSafe wire peer Any
      (enqueueAcknowledgementLoop wire request identity retries) state := by
  induction retries generalizing state with
  | zero => exact .throw
  | succ _ ih =>
    apply andThen (loadFence_safe _ _)
    intro found _ _ hit
    cases found with
    | none => exact SafeTry.throw
    | some =>
      dsimp only
      split
      · exact SafeTry.throw
      split
      · exact pure_safe _
      apply andThen (require_safe _ _)
      intro _ _ evolves _
      have again := hit.later (grown_of_evolves evolves)
      apply andThen (attempt_safe
        (updateFence_safe ⟨state, again⟩ .enqueued))
      intro result _ _ _
      cases result with
      | ok => exact pure_safe _
      | error => exact ih

theorem ensureAcknowledgementEnqueued_safe :
    PickupSafe wire peer Any (ensureAcknowledgementEnqueued wire identity) state := by
  apply andThen loadCancellation_safe
  intro found _ _ _
  cases found with
  | none => exact .throw trivial
  | some => exact enqueueAcknowledgementLoop_safe _

end Tickr.Pickup
