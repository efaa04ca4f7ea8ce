import Tickr.Pickup.HandlerSafety

/-!
# One launcher and one outcome

Who created a dispatch's record, and who wrote its first terminal outcome, are
facts of the bucket's history, which only grows.
-/

namespace Tickr.Pickup

open Concurrent KeyValue
open Concurrent.Discipline

variable {outcome : AttemptOutcome} {shared : Shared}

abbrev PickupWorld := World Shared PickupOp PickupOp.Reply (Except String PickupResult)

def Handled.claim? : Handled → Option LocalPickupClaim
  | .unprepared _ => none
  | .fencedBeforeSpawn claim | .cancelledBeforeSpawn claim
  | .reported claim _ _ | .stopped claim => some claim

/-- The claim under which a party had the right to launch. -/
def PickupResult.claim? : PickupResult → Option LocalPickupClaim
  | .handled reached => reached.claim?
  | .prepared (.ok (.ready pickup)) => some pickup.claim
  | _ => none

/-- The party has obtained the right to launch the dispatch's process: its
preparation has returned it, or it has started the process. -/
def MayLaunch (world : PickupWorld) (peer sequence : Nat) : Prop :=
  (∃ result claim, world.clients peer = .done (.ok result) ∧
    result.claim? = some claim ∧ claim.dispatchKey = sequence) ∨
  ∃ launch ∈ world.state.launched, launch.client = peer ∧ launch.claim.dispatchKey = sequence

inductive PickupResult.Contends : PickupResult → Nat → AttemptOutcome → TerminalElection → Prop
  | handler (claim : LocalPickupClaim) (outcome : AttemptOutcome) (election : TerminalElection) :
      Contends (.handled (.reported claim outcome (.ok election)))
        claim.dispatchKey outcome election
  | sweeper (claim : LocalPickupClaim) (election : TerminalElection) :
      Contends (.swept (some (claim, election))) claim.dispatchKey .livenessExpired election
  | canceller (sequence : Nat) (reconciliation : CancellationReconciliation)
      (election : TerminalElection) :
      Contends (.settled (some sequence) reconciliation (some election))
        sequence (cancellationOutcome reconciliation) election

/-- The party's election of the dispatch was answered like this. -/
def WasTold (world : PickupWorld) (peer sequence : Nat)
    (outcome : AttemptOutcome) (election : TerminalElection) : Prop :=
  ∃ result, world.clients peer = .done (.ok result) ∧ result.Contends sequence outcome election

def storedOutcome (sequence : Nat) (bucket : Bucket) : Option AttemptOutcome :=
  match lookup (.dispatch sequence) bucket with
  | some (.pickup record) => record.terminal.map ElectedAttemptOutcome.outcome
  | _ => none

/-- What holds of one dispatch between two times of a run. -/
structure ElectionLaws (earlier later : PickupWorld) (sequence : Nat) : Prop where
  oneLauncher : ∀ first second, MayLaunch earlier first sequence →
    MayLaunch later second sequence → first = second
  oneWinner : ∀ first second firstOutcome secondOutcome,
    WasTold earlier first sequence firstOutcome .won →
      WasTold later second sequence secondOutcome .won → first = second
  winnerIsStored : ∀ peer outcome, WasTold later peer sequence outcome .won →
    storedOutcome sequence later.state.bucket = some outcome
  loserIsTold : ∀ peer outcome told,
    WasTold later peer sequence outcome (.settled told) →
      storedOutcome sequence later.state.bucket = some told
  outcomeIsKept : ∀ outcome,
    storedOutcome sequence earlier.state.bucket = some outcome →
      storedOutcome sequence later.state.bucket = some outcome
  exitAfterStarted : ∀ outcome,
    storedOutcome sequence later.state.bucket = some outcome →
      outcome.isProcessExit = true → StartedBefore sequence later.state.bucket

variable {wire : Wire} {world later : PickupWorld} {peer sequence : Nat} {result : PickupResult}
  {bucket : Bucket}

theorem Shows.createdBy (shows : Shows wire peer bucket result)
    (isClaim : result.claim? = some claim) :
    createdBy claim.dispatchKey bucket = some peer := by
  cases result with
  | handled handled =>
    cases handled with
    | unprepared => cases isClaim
    | fencedBeforeSpawn | cancelledBeforeSpawn | stopped =>
      cases isClaim
      exact shows
    | reported =>
      cases isClaim
      exact shows.1
  | prepared =>
    rw [PickupResult.claim?.eq_def] at isClaim
    split at isClaim
    · next _ isHandled => cases isHandled
    · rename_i prepared ready
      cases ready
      cases isClaim
      exact (shows prepared rfl).1.1
    · cases isClaim
  | _ => cases isClaim

variable {election : TerminalElection}

theorem Shows.answered (shows : Shows wire peer bucket result)
    (contends : result.Contends sequence outcome election) :
    Answered peer sequence outcome election bucket := by
  cases contends with
  | handler _ _ election => exact shows.2 election rfl
  | sweeper claim election => exact shows claim election rfl
  | canceller _ _ election =>
    obtain ⟨_, isNumber, answered⟩ := shows election rfl
    cases isNumber
    exact answered

variable (safe : AllSafe system (pickups wire) (Ended wire) world)
include safe

theorem MayLaunch.createdBy (mayLaunch : MayLaunch world peer sequence) :
    createdBy sequence world.state.bucket = some peer := by
  rcases mayLaunch with
    ⟨result, _, ended, isClaim, dispatch⟩ | ⟨launch, mem, owner, dispatch⟩
  · subst dispatch
    exact (safe.result ended result rfl).createdBy isClaim
  · subst dispatch
    subst owner
    exact (safe.1.launches launch mem).1

theorem WasTold.answered (told : WasTold world peer sequence outcome election) :
    Answered peer sequence outcome election world.state.bucket := by
  obtain ⟨result, ended, contends⟩ := told
  exact (safe.result ended result rfl).answered contends

omit safe

variable (sound : Sound wire shared)
include sound

theorem storedOutcome_eq (sequence : Nat) :
    storedOutcome sequence shared.bucket = (settledBy sequence shared.bucket).map Prod.snd := by
  unfold storedOutcome
  cases found : lookup (.dispatch sequence) shared.bucket with
  | none =>
    rw [settledBy_eq_none (sound.not_written found)]
    rfl
  | some value =>
    have isSound := sound.cells _ _ found
    cases value with
    | pickup => exact RecordSound.settled isSound
    | fence | empty => exact isSound.elim

theorem storedOutcome_of_settledBy
    (ends : settledBy sequence shared.bucket = some (peer, outcome)) :
    storedOutcome sequence shared.bucket = some outcome := by
  rw [storedOutcome_eq sound, ends]
  rfl

theorem storedOutcome_grown (soundLater : Sound wire final)
    (grown : Grown shared final) (kept : storedOutcome sequence shared.bucket = some outcome) :
    storedOutcome sequence final.bucket = some outcome := by
  rw [storedOutcome_eq sound] at kept
  obtain ⟨⟨_, _⟩, ends, isFirst⟩ := Option.map_eq_some_iff.mp kept
  cases isFirst
  exact storedOutcome_of_settledBy soundLater (oldest_grown grown.bucket ends)

theorem startedBefore_of_exit (kept : storedOutcome sequence shared.bucket = some outcome)
    (exit : outcome.isProcessExit = true) :
    StartedBefore sequence shared.bucket := by
  unfold storedOutcome at kept
  split at kept
  · rename_i record found
    have isSound := sound.cells _ _ found
    obtain ⟨elected, elects, isOutcome⟩ := Option.map_eq_some_iff.mp kept
    rw [← isOutcome] at exit
    exact isSound.exited elected elects exit
  · cases kept

omit sound

include safe in
theorem electionLaws_of_safe (safeLater : AllSafe system (pickups wire) (Ended wire) later)
    (grown : Grown world.state later.state) :
    ElectionLaws world later sequence := by
  constructor
  · intro _ _ mayFirst maySecond
    have isFirst := oldest_grown grown.bucket (mayFirst.createdBy safe)
    have isSecond := maySecond.createdBy safeLater
    exact Option.some.inj (isFirst.symm.trans isSecond)
  · intro _ _ _ _ toldFirst toldSecond
    have isFirst := (toldFirst.answered safe).grown grown.bucket
    have isSecond := toldSecond.answered safeLater
    have same := isFirst.symm.trans isSecond
    cases same
    rfl
  · intro _ _ told
    exact storedOutcome_of_settledBy safeLater.1 (told.answered safeLater)
  · intro _ _ _ wasTold
    obtain ⟨_, ends⟩ := wasTold.answered safeLater
    exact storedOutcome_of_settledBy safeLater.1 ends
  · intro _ kept
    exact storedOutcome_grown safe.1 safeLater.1 grown kept
  · intro _ kept exit
    exact startedBefore_of_exit safeLater.1 kept exit

theorem runMeets_pickups (wire : Wire) (world : PickupWorld) (turns : List (Nat × PickupChoice)) :
    world.RunMeets system (pickups wire).condition turns := by
  induction turns generalizing world with
  | nil => trivial
  | cons _ _ ih =>
    refine ⟨?_, ih _⟩
    unfold World.StepMeets
    split
    · trivial
    · trivial

/-- The invariant of the pickup bucket holds along every run. -/
theorem pickups_sound (clients : Nat → PickupClient)
    (turns : List (Nat × PickupChoice)) :
    Sound wire ((startWorld wire clients).run system turns).state := by
  have safe := (allSafe_startWorld wire clients).run (runMeets_pickups wire _ turns)
  exact safe.1.1

def sampleTask : DispatchedTask :=
  { taskInstanceId := 7
    taskId := 8
    workflowInstanceId := 9
    workflowId := 10
    name := "t"
    nixExpressionPath := "p"
    nixArgs := [] }

/-- One dispatch of the Task, at sequence 1; every other message is poison. -/
def sampleWire : Wire where
  dispatches := fun sequence => if sequence = 1 then [1] else []
  decodeDispatch := fun payload =>
    if payload = [1] then .ok sampleTask else .error "poison"
  encodeTaskEvent := fun _ _ kind =>
    match kind with
    | .assigned => [1]
    | .started => [2]
    | .completed => [3]
    | .failed => [4]
  encodeUnhealthyTaskEvent := fun _ => [5]
  unhealthyEvent := fun _ => .ok [5]
  encodeCancelAck := fun _ _ => [6]
  errorText := fun _ => ""

def sampleExecutor : Executor :=
  { executorId := 1, owner := "A", named := by decide, livenessTimeoutMs := 10 }

/-- A handler of dispatch 1, a sweeper of it far in the future, the commit of a
fence of the Task, and a second handler. -/
def sampleParties : Nat → PickupClient
  | 0 => .deliver sampleExecutor ⟨1, false⟩ 3
  | 1 => .reconcile 1 1000
  | 2 => .commit sampleTask.cancelRequest
  | _ => .deliver sampleExecutor ⟨1, false⟩ 3

/-- Consecutive turns of one party, with one answer to all it asks. -/
def steps (peer count : Nat) (holds : Bool) : List (Nat × PickupChoice) :=
  List.replicate count (peer, { holds })

/-- A handler's turns from the delivery to the started process. -/
def launchSteps (peer : Nat) : List (Nat × PickupChoice) :=
  steps peer 22 true ++ steps peer 1 false ++ steps peer 1 true ++
    steps peer 1 false ++ steps peer 1 true

/-- A handler alone launches the process and wins with its exit. -/
example :
    let world := (startWorld sampleWire sampleParties).run system
      (launchSteps 0 ++ steps 0 7 true ++ steps 0 1 false ++ steps 0 2 true)
    world.state.launched.length = 1 ∧
      storedOutcome 1 world.state.bucket = some .processExitedSuccess := by
  decide

end Tickr.Pickup
