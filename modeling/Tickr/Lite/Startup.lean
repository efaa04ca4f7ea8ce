import Tickr.Lite.Recovery

/-!
# Startup comes through

Where every claimed stream has a journal or a final Log, and no stop comes
between the two files of a final Log, finitely many startups are enough.  A
claim without a journal makes every startup fail.
-/

namespace Tickr.Lite

open Concurrent Crash Table
open LogStream LocalLog LocalScope LocalPickup

variable {codec : LiteCodec} {moments : Int → Prop} {host after : Machine} {now : Int}

theorem mem_claimedDispatches :
    claimed ∈ claimedDispatches selects pickup ↔
      claimed.1 ∈ pickup.dispatches ∧ claimed.1.taskInstanceId = some claimed.2 ∧
        selects claimed.1 = true ∧ 0 < claimed.1.pickupGeneration := by
  unfold claimedDispatches
  rw [List.mem_insertionSort, List.mem_filterMap]
  constructor
  · rintro ⟨_, mem, claims⟩
    split at claims
    · cases claims
    rename_i task isTask
    split at claims
    · rename_i picked
      rw [Bool.and_eq_true, decide_eq_true_eq] at picked
      rw [← Option.some.inj claims]
      exact ⟨mem, isTask, picked.1, picked.2⟩
    · cases claims
  · rintro ⟨mem, isTask, isSelected, above⟩
    refine ⟨claimed.1, mem, ?_⟩
    rw [isTask]
    simp [isSelected, above]

variable {stream : LogStreamIdentity}

theorem mem_claimedStreams {run : Uuid} (inventory : claimedStreams codec host = .ok streams)
    (isOwn : logStreams codec (fun row => row.workflowInstanceId = some (codec.uuidText run))
      host.pickup = .ok own) (mem : stream ∈ own) :
    stream ∈ streams := by
  obtain ⟨claimed, claims, isStream⟩ := (Rust.mem_of_mapM isOwn).mp mem
  obtain ⟨isRow, task, _, above⟩ := mem_claimedDispatches.mp claims
  exact (Rust.mem_of_mapM inventory).mpr ⟨claimed,
    mem_claimedDispatches.mpr ⟨isRow, task, rfl, above⟩, isStream⟩

variable {plan : Uuid → RunPlan}

theorem Startable.draining (startable : Startable codec moments plan host)
    {streams : List LogStreamIdentity} (inventory : claimedStreams codec host = .ok streams)
    (final : ∀ stream ∈ streams, Recovered codec stream host) :
    Draining codec moments ⟨plan, host.files⟩ host := by
  have stages := startable.stages
  refine ⟨⟨stages.staging_keyed, stages.scopes_keyed, stages.apart, ?_⟩, fun _ _ => rfl⟩
  intro row mem
  have progress := stages.progress row mem
  unfold RunProgress at progress ⊢
  split at progress
  · rename_i isStaged
    obtain ⟨planned, staged⟩ := progress
    refine ⟨planned, staged.scope, ?_, staged.finals, staged.unarchived⟩
    intro sealed isSealed
    obtain ⟨file, isFile, closes⟩ := staged.journals sealed isSealed
    refine ⟨file, isFile, ?_⟩
    obtain ⟨_, _, isPlanned⟩ := planned
    have claimed := mem_claimedStreams inventory isPlanned.streams
      (List.mem_map_of_mem isSealed)
    rcases final sealed.stream claimed with
      hasLog | ⟨_, _, ofStream, isAgain, sealable⟩
    · exact startable.installed row mem isStaged sealed isSealed hasLog file isFile
    rw [isFile] at isAgain
    rw [← Option.some.inj isAgain] at sealable
    rw [closes.unique (.inl sealable) ofStream.symm]
    exact sealable
  · exact progress
  · exact progress

/-- What startup needs besides the stages of the runs; no call changes it. -/
structure Settled (codec : LiteCodec) (plan : DrainPlan) (host : Machine) : Prop where
  readBack : ∀ run ∈ host.stagedRuns, ∀ sealed ∈ (plan run).seals, FinalsReadBack codec sealed
  inventory : ∃ streams, claimedStreams codec host = .ok streams ∧
    ∀ stream ∈ streams,
      (∃ run ∈ host.stagedRuns, ∃ sealed ∈ (plan run).seals, sealed.stream = stream) ∨
      StreamReady codec stream { host with files := plan.others }

theorem Startable.settled (startable : Startable codec moments plan host) :
    Settled codec ⟨plan, host.files⟩ host := by
  obtain ⟨streams, listing, ready⟩ := startable.inventory
  exact ⟨startable.readBack, streams, listing,
    fun stream isStream => .inr (ready stream isStream)⟩

variable {plan : DrainPlan}

theorem StreamReady.of_files (ready : StreamReady codec stream host)
    (same : ∀ name, name.stream = stream → after.files name = host.files name) :
    StreamReady codec stream after := by
  unfold StreamReady FinalPairRead JournalCloses at ready ⊢
  rw [same (.final stream .log) rfl, same (.final stream .exit) rfl, same (.journal stream) rfl]
  exact ready

theorem finalPairRead_of_installed (readBack : FinalsReadBack codec sealed)
    (installed : ∀ part, FinalInstalled codec sealed part host) :
    FinalPairRead codec sealed.stream host := by
  refine ⟨_, _, (installed .log).1, ?_, (installed .exit).1, ?_⟩
  · rw [readBack.1]
    rfl
  · rw [readBack.2]
    rfl

variable (draining : Draining codec moments plan host)
include draining

theorem Draining.streamReady
    (paired : Paired host) (mem : row ∈ host.staging)
    (isSealed : sealed ∈ (plan row.workflowInstanceId).seals)
    (readBack : FinalsReadBack codec sealed) :
    StreamReady codec sealed.stream host := by
  have progress := draining.progress row mem
  unfold RunProgress at progress
  split at progress
  · obtain ⟨_, staged⟩ := progress
    rcases staged.finals sealed isSealed .log with noLog | hasLog
    · obtain ⟨file, isFile, sealable⟩ := staged.journals sealed isSealed
      exact .inr ⟨noLog, sealed, file, rfl, isFile, .inl sealable⟩
    have hasExit : host.files (.final sealed.stream .exit) ≠ none := by
      apply (paired sealed.stream).2
      rw [hasLog.1]
      simp
    rcases staged.finals sealed isSealed .exit with noExit | installed
    · exact absurd noExit hasExit
    left
    apply finalPairRead_of_installed readBack
    intro part
    cases part with
    | log => exact hasLog
    | exit => exact installed
  · obtain ⟨_, _, complete⟩ := progress
    exact .inl (finalPairRead_of_installed readBack (complete.finals sealed isSealed))
  · obtain ⟨_, _, drained⟩ := progress
    exact .inl (finalPairRead_of_installed readBack (drained.finals sealed isSealed))

theorem Draining.startable
    (ends : Settled codec plan host) (paired : Paired host) :
    Startable codec moments plan.runs host := by
  obtain ⟨streams, listing, ready⟩ := ends.inventory
  refine ⟨⟨draining.staging_keyed, draining.scopes_keyed, draining.apart, ?_⟩,
    ?_, ends.readBack, ⟨streams, listing, ?_⟩, paired⟩
  · intro row mem
    have progress := draining.progress row mem
    unfold RunProgress at progress ⊢
    split at progress
    · obtain ⟨planned, staged⟩ := progress
      refine ⟨planned, staged.scope, ?_, staged.finals, staged.unarchived⟩
      intro sealed isSealed
      obtain ⟨file, isFile, sealable⟩ := staged.journals sealed isSealed
      exact ⟨file, isFile, .inl sealable⟩
    · exact progress
    · exact progress
  · intro row mem stages sealed isSealed _ _ isFile
    have progress := draining.progress row mem
    unfold RunProgress at progress
    rw [stages] at progress
    obtain ⟨_, isAgain, sealable⟩ := progress.2.journals sealed isSealed
    rw [isFile] at isAgain
    rw [Option.some.inj isAgain]
    exact sealable
  · intro stream isStream
    by_cases isOwned : ∃ run ∈ host.stagedRuns,
        ∃ sealed ∈ (plan run).seals, sealed.stream = stream
    · obtain ⟨run, isRun, sealed, isSealed, ofStream⟩ := isOwned
      have readBack := ends.readBack run isRun sealed isSealed
      obtain ⟨_, mem, ofRun⟩ := List.mem_map.mp isRun
      rw [← ofRun] at isSealed
      rw [← ofStream]
      exact draining.streamReady paired mem isSealed readBack
    · rcases ready stream isStream with owned | others
      · exact absurd owned isOwned
      apply others.of_files
      intro _ ofStream
      apply draining.elsewhere
      intro row mem sealed isSealed same
      exact isOwned ⟨row.workflowInstanceId, List.mem_map_of_mem mem,
        sealed, isSealed, same.symm.trans ofStream⟩

omit draining

theorem Settled.of_same (ends : Settled codec plan host)
    (same : SameInventory host after) : Settled codec plan after := by
  obtain ⟨streams, listing, ready⟩ := ends.inventory
  refine ⟨?_, streams, ?_, ?_⟩
  · rw [same.stagedRuns]
    exact ends.readBack
  · unfold claimedStreams at listing ⊢
    rw [same.pickup]
    exact listing
  · intro stream isStream
    rw [same.stagedRuns]
    exact (ready stream isStream).imp_right fun others =>
      others.of_files fun _ _ => rfl

theorem remaining_of_finished (ended : Finished host) : remaining plan host = 0 := by
  apply List.sum_eq_zero
  intro _ isCost
  obtain ⟨row, mem, isWeight⟩ := List.mem_map.mp isCost
  rw [← isWeight, weight, ended row mem]
  rfl

/-- How the drain loop ends when it has turns enough. -/
def LoopEnds (plan : DrainPlan) (host : Machine)
    (result : Except LiteError Unit) (after : Machine) : Prop :=
  (result = .ok () → Finished after) ∧ (Finished host → result = .ok () ∧ after = host) ∧
    (¬ Finished host → remaining plan after < remaining plan host)

include draining in
theorem steady_drainLoop
    (moment : moments now) (turns : Nat) :
    Steady (device codec) (Draining codec moments plan) (drainLoop codec now turns).run host
      fun result after => (Paired host → Paired after) ∧
        (remaining plan host < turns → LoopEnds plan host result after) := by
  induction turns generalizing host with
  | zero =>
    apply Steady.check draining
    exact ⟨id, fun enough => absurd enough (Nat.not_lt_zero _)⟩
  | succ turns ih =>
    apply Steady.try
    apply (steady_drainNext draining moment).mono
    intro result next nextDraining ends
    rcases ends with ⟨isNone, same, ended⟩ | ⟨notNone, undone, fewer, paired⟩
    · rw [isNone, same]
      apply Steady.check draining
      exact ⟨id, fun _ => ⟨fun _ => ended, fun _ => ⟨rfl, rfl⟩,
        fun undone => absurd ended undone⟩⟩
    cases result with
    | error =>
      refine ⟨paired, fun _ => ⟨fun isOk => ?_, ?_, fun _ => fewer⟩⟩
      · cases isOk
      · exact fun ended => absurd ended undone
    | ok more =>
      cases more with
      | false => exact absurd rfl notNone
      | true =>
        apply (ih nextDraining).mono
        intro _ _ _ lastEnds
        obtain ⟨lastPaired, loop⟩ := lastEnds
        refine ⟨lastPaired ∘ paired, ?_⟩
        intro _
        obtain ⟨atEnd, once, decreases⟩ := loop (by omega)
        refine ⟨atEnd, fun ended => absurd ended undone, ?_⟩
        intro _
        by_cases ended : Finished next
        · rw [(once ended).2]
          exact fewer
        · exact (decreases ended).trans fewer

variable {plan : Uuid → RunPlan} {left : Machine}

/-- The passes that the staged runs may still cost. -/
def outstanding (plan : Uuid → RunPlan) (host : Machine) : Nat :=
  remaining ⟨plan, host.files⟩ host

theorem Rejournals.remaining (rejournals : Rejournals codec host after)
    (plan : DrainPlan) : remaining plan after = remaining plan host := by
  have same : after.staging = host.staging := by rw [rejournals.onlyFiles]
  have sameCount : ∀ run : Uuid, after.count (plan run).temporaries =
      host.count (plan run).temporaries := by
    intro _
    apply List.countP_congr
    intro name isName
    rw [rejournals.onlyJournals name]
    intro _ journal
    rw [journal] at isName
    unfold RunPlan.temporaries at isName
    simp at isName
  unfold Lite.remaining
  rw [same]
  apply congrArg List.sum
  apply List.map_congr_left
  intro _ _
  unfold weight
  rw [sameCount]

theorem Rejournals.finished (rejournals : Rejournals codec host after) :
    Finished after ↔ Finished host := by
  have same : after.staging = host.staging := by rw [rejournals.onlyFiles]
  unfold Finished
  rw [same]

/-- How a startup ends when its loop has turns enough. -/
def StartupEnds (plan : Uuid → RunPlan) (host : Machine)
    (result : Except LiteError Unit) (after : Machine) : Prop :=
  (Finished host → result = .ok () ∧ Finished after) ∧
    (¬ Finished host → outstanding plan after < outstanding plan host)

/-- What holds wherever a startup is stopped. -/
def StartableIfPaired (codec : LiteCodec) (moments : Int → Prop)
    (plan : Uuid → RunPlan) (host : Machine) : Prop :=
  Paired host → Startable codec moments plan host

/-- Wherever a startup stops with its final Logs paired, the next one can
begin; and one that ends has come closer. -/
theorem steady_startup (startable : Startable codec moments plan host)
    (moment : moments now) (turns : Nat) :
    Steady (device codec) (StartableIfPaired codec moments plan)
      (startup codec now turns).run host
      fun result after => Startable codec moments plan after ∧
        (outstanding plan host < turns → StartupEnds plan host result after) := by
  have before : ∀ state, Startable codec moments plan state →
      StartableIfPaired codec moments plan state := fun _ holds _ => holds
  have recovers := (steady_recoverLocalJournals startable).relax before
  apply Steady.try
  apply recovers.mono
  intro _ final _ ends
  obtain ⟨isStartable, ok, rejournals, _, inventory, areRecovered⟩ := ends
  rw [ok]
  have draining := isStartable.draining inventory areRecovered
  have drains := (steady_drainLoop draining moment turns).keeping
    (fun op state kept => kept.of_same (sameInventory_perform op state))
    (fun _ _ _ torn kept => kept.of_same (sameInventory_torn torn))
    isStartable.settled
  apply (drains.relax (fun _ holds paired => holds.1.startable holds.2 paired)).mono
  intro _ last _ loopEnds
  obtain ⟨⟨lastDraining, lastSettled⟩, ⟨lastPaired, loop⟩, _⟩ := loopEnds
  refine ⟨lastDraining.startable lastSettled (lastPaired isStartable.paired), ?_⟩
  intro enough
  have sameRemaining := rejournals.remaining ⟨plan, host.files⟩
  have loopEnough : remaining ⟨plan, final.files⟩ final < turns := by
    change remaining ⟨plan, host.files⟩ final < turns
    rw [sameRemaining]
    exact enough
  obtain ⟨atEnd, once, decreases⟩ := loop loopEnough
  constructor
  · intro isFinished
    obtain ⟨done, _⟩ := once (rejournals.finished.mpr isFinished)
    exact ⟨done, atEnd done⟩
  · intro undone
    have fewer := decreases fun isFinished =>
      undone (rejournals.finished.mp isFinished)
    change remaining ⟨plan, host.files⟩ last < remaining ⟨plan, host.files⟩ host
    rw [← sameRemaining]
    exact fewer

/-- What a startup leaves that is not stopped. -/
def started (codec : LiteCodec) (now : Int) (turns : Nat) (host : Machine) : Machine :=
  (run (device codec) (startup codec now turns).run host).2

/-- A startup that ends, or is stopped where no final Log is without its exit
metadata. -/
def Restarted (codec : LiteCodec) (moments : Int → Prop) (host left : Machine) : Prop :=
  ∃ now turns, moments now ∧
    (left = started codec now turns host ∨
      Stops (device codec) (startup codec now turns).run host left ∧ Paired left)

theorem Startable.started (startable : Startable codec moments plan host)
    (moment : moments now) (turns : Nat) :
    Startable codec moments plan (started codec now turns host) :=
  (steady_startup startable moment turns).ended.2.1

theorem Startable.restarted (startable : Startable codec moments plan host)
    (restarted : Restarted codec moments host left) :
    Startable codec moments plan left := by
  obtain ⟨_, turns, moment, isLeft | ⟨stops, paired⟩⟩ := restarted
  · rw [isLeft]
    exact startable.started moment turns
  · exact (steady_startup startable moment turns).stopped stops paired

theorem startable_exited :
    Startable exampleCodec (· = 0) examplePlan.runs (exampleMachine exitedCalls exitedFiles) := by
  apply draining_exited.startable
  · refine ⟨?_, [⟨10, 1⟩], by decide +kernel, ?_⟩
    · intro run isRun _ isSealed
      have isRuns : run = 1 ∨ run = 2 := by
        simpa [Machine.stagedRuns, exampleMachine, exampleStaging] using isRun
      rcases isRuns with first | second
      · rw [first] at isSealed
        rw [List.mem_singleton.mp isSealed]
        exact ⟨rfl, rfl⟩
      · rw [second] at isSealed
        cases isSealed
    · intro _ isStream
      left
      rw [List.mem_singleton.mp isStream]
      exact ⟨1, by decide, exampleSeal, by decide, rfl⟩
  · intro _
    exact ⟨rfl, fun hasLog => absurd rfl hasLog⟩

theorem fails_of_fixed (fixed : ∀ now, run (device codec) (startup codec now turns).run
      host = (.error error, host)) (times : Nat → Int) (count : Nat) :
    (run (device codec) (startup codec (times count) turns).run
      (passes (fun index => started codec (times index) turns) count
        host)).1 = .error error := by
  have stays : passes (fun index => started codec (times index) turns) count host = host := by
    apply passes_fixed
    intro _
    rw [started, fixed]
  rw [stays, fixed]

/-- The claim is committed, and the process stops before the journal is
opened. -/
def claimedOnly : Machine :=
  { Machine.empty with
    pickup := PickupStore.empty.afterAll
      [.stage "key" [] (some "10") (some "1") 0, .claim ⟨"key", "owner", 10, [], 0⟩] }

/-- The process stops when the first file of a final Log is installed. -/
def unpaired : Machine :=
  runFor (device exampleCodec) 9 (drainNext exampleCodec 0).run
    (exampleMachine exitedCalls exitedFiles)

end Tickr.Lite
