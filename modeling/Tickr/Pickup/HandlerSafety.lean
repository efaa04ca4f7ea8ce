import Tickr.Pickup.ContenderSafety

/-!
# What every party ensures

A handler spawns its process only with the right to launch, and competes only for
a dispatch whose record it created.
-/

namespace Tickr.Pickup

open Concurrent KeyValue
open Concurrent.Discipline
open SafeExcept (andThen andDone)

variable {wire : Wire} {peer : Nat} {state : Shared} {executor : Executor}
  {handoff : NatsPickupHandoff} {task : DispatchedTask} {claim : LocalPickupClaim}

/-- What a handler's end says about the bucket. -/
def HandledShows (peer : Nat) (handled : Handled) (bucket : Bucket) : Prop :=
  match handled with
  | .unprepared _ => True
  | .fencedBeforeSpawn claim | .cancelledBeforeSpawn claim | .stopped claim =>
    createdBy claim.dispatchKey bucket = some peer
  | .reported claim outcome election =>
    createdBy claim.dispatchKey bucket = some peer ∧
      ∀ answer, election = .ok answer → Answered peer claim.dispatchKey outcome answer bucket

variable (ready : ReadyToLaunch wire peer ⟨task, claim⟩ state.bucket) {outcome : AttemptOutcome}
include ready

theorem reported_safe :
    PickupSafe wire peer (fun handled later => HandledShows peer handled later.bucket)
      (do
        let election ← @Program.attempt _ _ _ String String (electTerminal wire claim outcome event)
        return .reported claim outcome election) state := by
  apply andThen (attempt_safe (electTerminal_safe fun _ => ready.2))
  intro _ _ evolves answered
  refine .pure fun _ rely _ => ⟨?_, ?_⟩
  · exact oldest_grown ((grown_of_evolves evolves).trans (grown_of_rely rely)).bucket ready.1.1
  · intro answer isAnswer
    exact (answered answer isAnswer).grown (grown_of_rely rely).bucket

theorem reportTerminal_safe :
    PickupSafe wire peer (fun handled later => HandledShows peer handled later.bucket)
      (reportTerminal wire executor task claim outcome kind) state :=
  reported_safe ready

theorem reportExit_safe :
    PickupSafe wire peer (fun handled later => HandledShows peer handled later.bucket)
      (reportExit wire executor task claim success) state := by
  unfold reportExit
  split
  · exact reportTerminal_safe ready
  · exact reportTerminal_safe ready

variable {reconciliation : CancellationReconciliation}

theorem reportCancellationTerminal_safe :
    PickupSafe wire peer (fun handled later => HandledShows peer handled later.bucket)
      (reportCancellationTerminal wire claim reconciliation) state :=
  reported_safe ready

omit ready

theorem teardownOwnGroup_safe : PickupSafe wire peer Any (teardownOwnGroup claim) state :=
  ask_safe fun _ _ _ => rfl

theorem renewLiveness_safe :
    PickupSafe wire peer Any (renewLiveness wire executor handoff claim) state := by
  apply andThen (attempt_safe (andDone NatsPickupHandoff.setServerDeadline_safe))
  intro result _ _ _
  cases result with
  | ok renewed => exact pure_safe renewed
  | error => exact pure_safe false

theorem processLoop_safe (rounds : Nat)
    (ready : ReadyToLaunch wire peer ⟨task, claim⟩ state.bucket) :
    PickupSafe wire peer (fun handled later => HandledShows peer handled later.bucket)
      (processLoop wire executor handoff task claim rounds) state := by
  induction rounds generalizing state with
  | zero =>
    refine .pure fun _ rely _ => ?_
    exact oldest_grown (grown_of_rely rely).bucket ready.1.1
  | succ _ ih =>
    apply andThen (ask_safe fun _ _ _ => rfl)
    intro event _ evolves _
    have readyNow := ready.grown (grown_of_evolves evolves).bucket
    cases event with
    | exited =>
      apply andThen (ask_safe fun _ _ _ => rfl)
      intro _ _ onward _
      have readyLater := readyNow.grown (grown_of_evolves onward).bucket
      split
      · exact reportCancellationTerminal_safe readyLater
      · exact reportExit_safe readyLater
    | shutdown =>
      apply andThen teardownOwnGroup_safe
      intro _ _ onward _
      exact reportExit_safe (readyNow.grown (grown_of_evolves onward).bucket)
    | cancelled =>
      apply andThen teardownOwnGroup_safe
      intro _ _ onward _
      exact reportCancellationTerminal_safe (readyNow.grown (grown_of_evolves onward).bucket)
    | renewalDue =>
      apply andThen renewLiveness_safe
      intro _ _ onward _
      have readyLater := readyNow.grown (grown_of_evolves onward).bucket
      split
      · exact ih readyLater
      · apply andThen teardownOwnGroup_safe
        intro _ _ last _
        exact reportExit_safe (readyLater.grown (grown_of_evolves last).bucket)

theorem announceStarted_safe :
    PickupSafe wire peer Any (announceStarted wire executor handoff task claim) state := by
  apply andThen (attempt_safe NatsPickupHandoff.stageStarted_safe)
  intro result _ _ _
  cases result with
  | ok staged => exact pure_safe staged
  | error => exact pure_safe false

include ready

theorem teardownAndFail_safe :
    PickupSafe wire peer (fun handled later => HandledShows peer handled later.bucket) (do
        let _ ← teardownOwnGroup claim
        reportSetupFailed wire executor task claim) state := by
  apply andThen teardownOwnGroup_safe
  intro _ _ evolves _
  exact reportTerminal_safe (ready.grown (grown_of_evolves evolves).bucket)

variable {rounds : Nat}

theorem superviseProcess_safe :
    PickupSafe wire peer (fun handled later => HandledShows peer handled later.bucket)
      (superviseProcess wire executor handoff task claim rounds) state := by
  apply andThen announceStarted_safe
  intro _ _ evolves _
  have readyNow := ready.grown (grown_of_evolves evolves).bucket
  split
  · apply andThen renewLiveness_safe
    intro _ _ onward _
    have readyLater := readyNow.grown (grown_of_evolves onward).bucket
    split
    · exact processLoop_safe rounds readyLater
    · exact teardownAndFail_safe readyLater
  · exact teardownAndFail_safe readyNow

/-- The one call that starts a process. -/
theorem spawn_safe : PickupSafe wire peer Any (ask (.spawn claim task) id) state := by
  refine .request ?_
  intro before rely _ _ choice
  refine ⟨?_, fun _ _ _ _ _ => trivial⟩
  have allowed := ready.1.grown (grown_of_rely rely).bucket
  have ran : (system.perform peer (.spawn claim task) choice
      before).2 = if choice.holds = true then
        { before with launched := ⟨peer, claim, task⟩ :: before.launched }
      else before := by
    simp only [system, perform]
    split <;> rfl
  rw [ran]
  by_cases spawned : choice.holds = true
  · rw [if_pos spawned]
    exact .launched claim task allowed
  · rw [if_neg spawned]
    exact .nothing

theorem runTask_safe :
    PickupSafe wire peer (fun handled later => HandledShows peer handled later.bucket)
      (runTask wire executor handoff task claim rounds) state := by
  unfold runTask
  split
  · exact reportTerminal_safe ready
  apply andThen (ask_safe fun _ _ _ => rfl)
  intro _ _ evolves _
  have readyNow := ready.grown (grown_of_evolves evolves).bucket
  split
  · apply andThen (ask_safe fun _ _ _ => rfl)
    intro _ _ onward _
    have readyLater := readyNow.grown (grown_of_evolves onward).bucket
    split
    · refine .pure fun _ rely _ => ?_
      exact oldest_grown (grown_of_rely rely).bucket readyLater.1.1
    apply andThen (spawn_safe readyLater)
    intro _ _ evolvesLast _
    have last := readyLater.grown (grown_of_evolves evolvesLast).bucket
    split
    · exact superviseProcess_safe last
    · exact reportTerminal_safe last
  · exact reportTerminal_safe readyNow

omit ready

theorem handleDelivery_safe :
    PickupSafe wire peer (fun handled later => HandledShows peer handled later.bucket)
      (handleDelivery wire executor handoff rounds) state := by
  apply andThen (attempt_safe preparePickup_safe)
  intro _ _ _ prepares
  split
  · rename_i prepared
    have ready := prepares _ rfl prepared rfl
    apply andThen (ask_safe fun _ _ _ => rfl)
    intro _ _ evolves _
    have readyNow := ready.grown (grown_of_evolves evolves).bucket
    split
    · refine .pure fun _ rely _ => ?_
      exact oldest_grown (grown_of_rely rely).bucket readyNow.1.1
    · exact runTask_safe readyNow
  · exact .pure fun _ _ _ => trivial

variable {fence : LocalCancellationFence}

theorem settleAndStageCancellation_safe :
    PickupSafe wire peer Any (settleAndStageCancellation wire fence reconciliation) state := by
  apply andThen settleCancellation_safe
  intro _ _ _ _
  exact ensureAcknowledgementEnqueued_safe

theorem actOnFence_safe : PickupSafe wire peer Any (actOnFence wire fence) state := by
  unfold actOnFence
  split
  · exact andDone settleAndStageCancellation_safe
  · exact andDone settleAndStageCancellation_safe
  · unfold notifyCancellationOwner
    split
    · exact .throw
    · apply andThen (require_safe _ _)
      intro _ _ _ _
      exact andDone (markOwnerNotifiedLoop_safe _)

theorem awaitCancellationAcknowledgement_safe (rounds : Nat) :
    PickupSafe wire peer Any (awaitCancellationAcknowledgement wire fence rounds) state := by
  induction rounds generalizing state with
  | zero => exact pure_safe false
  | succ _ ih =>
    apply andThen (attempt_safe ensureAcknowledgementEnqueued_safe)
    intro result _ _ _
    cases result with
    | ok => exact pure_safe true
    | error =>
      apply andThen loadCancellation_safe
      intro found _ _ _
      cases found with
      | none => exact SafeTry.throw
      | some =>
        apply andThen actOnFence_safe
        intro _ _ _ _
        exact ih

theorem handleCancel_safe :
    PickupSafe wire peer Any (handleCancel wire request rounds) state := by
  apply andThen commitCancellationFence_safe
  intro _ _ _ _
  apply andThen actOnFence_safe
  intro _ _ _ _
  exact awaitCancellationAcknowledgement_safe rounds

theorem handleOwnerCancellation_safe :
    PickupSafe wire peer Any (handleOwnerCancellation wire owner identity) state := by
  apply andThen loadCancellation_safe
  intro found _ _ _
  cases found with
  | none => exact pure_safe ()
  | some =>
    dsimp only
    split
    · exact pure_safe ()
    apply andThen (markOwnerNotifiedLoop_safe _)
    intro _ _ _ _
    split
    · exact andDone settleAndStageCancellation_safe
    · apply andThen (request_safe fun _ _ _ => rfl)
      intro _ _ _ _
      exact andDone settleAndStageCancellation_safe

/-- What a party's result says about the bucket. -/
def Shows (wire : Wire) (peer : Nat) (bucket : Bucket) :
    PickupResult → Prop
  | .handled handled => HandledShows peer handled bucket
  | .prepared preparation => ∀ prepared, preparation = .ok (.ready prepared) →
      ReadyToLaunch wire peer prepared bucket
  | .swept found => ∀ claim election, found = some (claim, election) →
      Answered peer claim.dispatchKey .livenessExpired election bucket
  | .committed request fence => Committed wire request fence bucket
  | .settled sequence reconciliation found =>
    CancellationAnswered peer sequence reconciliation found bucket
  | .finished => True

theorem forget_safe (identity : EventIdentity) :
    PickupSafe wire peer Any (ask (.forget identity) id) state := by
  refine .request ?_
  intro _ _ _ _ _
  exact ⟨.forgotten identity, fun _ _ _ _ _ => trivial⟩

theorem program_safe (party : PickupClient) :
    PickupSafe wire peer (fun result later => Shows wire peer later.bucket result)
      (party.program wire) state := by
  cases party with
  | deliver =>
    exact .andPure handleDelivery_safe fun _ _ _ shows => shows
  | prepare =>
    apply SafeExcept.andPure (attempt_safe preparePickup_safe)
    intro _ _ _ ready prepared isPrepared
    exact ready _ isPrepared prepared rfl
  | registerFailure =>
    exact .andPure (registerLivenessFailureLoop_safe _) fun _ _ _ _ => trivial
  | sweep probe => exact .andPure (sweepOneDue_safe probe) fun _ _ _ shows => shows
  | reconcile =>
    exact .andPure reconcilePickupOutcome_safe fun _ _ _ _ => trivial
  | commit => exact .andPure commitCancellationFence_safe fun _ _ _ shows => shows
  | settle =>
    exact .andPure settleCancellation_safe fun _ _ _ shows => shows
  | cancel => exact .andPure handleCancel_safe fun _ _ _ _ => trivial
  | notified =>
    exact .andPure handleOwnerCancellation_safe fun _ _ _ _ => trivial
  | elapse identity => exact .andPure (forget_safe identity) fun _ _ _ _ => trivial

def Ended (wire : Wire) (peer : Nat)
    (result : Except String PickupResult) (shared : Shared) : Prop :=
  ∀ value, result = .ok value → Shows wire peer shared.bucket value

/-- Any parties keep to the discipline from the empty bucket on. -/
theorem allSafe_startWorld (wire : Wire) (clients : Nat → PickupClient) :
    AllSafe system (pickups wire) (Ended wire) (startWorld wire clients) := by
  refine ⟨sound_empty wire, ?_⟩
  intro peer
  apply Safe.weaken (program_safe (clients peer) (sound_empty wire))
  intro _ _ _ now
  exact now.1

end Tickr.Pickup
