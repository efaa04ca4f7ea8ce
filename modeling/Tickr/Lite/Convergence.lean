import Tickr.Lite.Draining

/-!
# The drain comes to its end

After any passes of the drain, completed or stopped, finitely many more archive
every staged run whose sources the drain can use, once and as planned.  A run
whose sources it cannot use is never archived, nor is any run staged after it.
-/

namespace Tickr.Lite

open Concurrent Crash Table
open LogStream LocalLog LocalScope LocalPickup

variable {codec : LiteCodec} {moments : Int → Prop} {plan : DrainPlan} {host left : Machine}

def Machine.stagedRuns (host : Machine) : List Uuid :=
  host.staging.map StagingRow.workflowInstanceId

/-- The calls of the drain and of startup neither claim nor stage. -/
structure SameInventory (host after : Machine) : Prop where
  pickup : after.pickup = host.pickup
  stagedRuns : after.stagedRuns = host.stagedRuns

theorem SameInventory.refl (host : Machine) :
    SameInventory host host := ⟨rfl, rfl⟩

theorem SameInventory.trans
    (early : SameInventory first second) (late : SameInventory second third) :
    SameInventory first third :=
  ⟨late.pickup.trans early.pickup, late.stagedRuns.trans early.stagedRuns⟩

theorem sameInventory_openExisting (stream : LogStreamIdentity)
    (fault : WriteFault) (host : Machine) :
    SameInventory host (openExisting codec stream fault host).2 := by
  unfold openExisting
  split
  · exact .refl host
  · split <;> exact ⟨rfl, rfl⟩

theorem sameInventory_appendTo (stream : LogStreamIdentity)
    (frame : JournalFrame) (fault : WriteFault) (host : Machine) :
    SameInventory host (appendTo codec stream frame fault host).2 := by
  unfold appendTo
  split
  · exact .refl host
  · split <;> exact ⟨rfl, rfl⟩

theorem sameInventory_perform (op : LiteOp) (host : Machine) :
    SameInventory host ((device codec).perform op host).2 := by
  cases op with
  | openExisting stream => exact sameInventory_openExisting stream .none host
  | append stream frame => exact sameInventory_appendTo stream frame .none host
  | writeTemporary | install | quarantine | removeJournal =>
    simp only [device, LiteOp.perform, replaceFile, removeFile]
    split <;> exact ⟨rfl, rfl⟩
  | archive =>
    simp only [device, LiteOp.perform, archiveStaged]
    split
    · exact ⟨rfl, map_updateWhere fun _ => rfl⟩
    · exact .refl host
  | purgeCompleted =>
    simp only [device, LiteOp.perform, purgeCompleted]
    split
    · exact .refl host
    split
    · exact .refl host
    · exact .refl host
    · exact ⟨rfl, map_updateWhere fun _ => rfl⟩
  | _ => exact ⟨rfl, rfl⟩

theorem sameInventory_torn (torn : (device codec).Torn op host left) :
    SameInventory host left := by
  cases op with
  | openExisting stream =>
    obtain ⟨_, isLeft⟩ := torn
    rw [isLeft]
    exact sameInventory_openExisting stream _ host
  | append stream frame =>
    obtain ⟨_, isLeft⟩ := torn
    rw [isLeft]
    exact sameInventory_appendTo stream frame _ host
  | writeTemporary =>
    obtain ⟨_, _, isLeft⟩ := torn
    rw [isLeft]
    exact ⟨rfl, rfl⟩
  | _ => exact False.elim torn

variable {now : Int}

/-- What a pass of the drain leaves that ends. -/
def drained (codec : LiteCodec) (now : Int) (host : Machine) : Machine :=
  (run (device codec) (drainNext codec now).run host).2

/-- A pass of the drain that ends, or is stopped anywhere. -/
def Passed (codec : LiteCodec) (moments : Int → Prop) (host left : Machine) : Prop :=
  ∃ now, moments now ∧
    (left = drained codec now host ∨ Stops (device codec) (drainNext codec now).run host left)

variable (draining : Draining codec moments plan host)
include draining

theorem Draining.drained (moment : moments now) :
    Draining codec moments plan (drained codec now host) :=
  (steady_drainNext draining moment).ended.1

theorem Draining.passed (passed : Passed codec moments host left) :
    Draining codec moments plan left := by
  obtain ⟨_, moment, isLeft | stops⟩ := passed
  · rw [isLeft]
    exact draining.drained moment
  · exact (steady_drainNext draining moment).stopped stops

omit draining

theorem sameInventory_drained : SameInventory host (drained codec now host) := by
  apply run_keeps (SameInventory host)
  · intro op state same
    exact same.trans (sameInventory_perform op state)
  · exact .refl host

theorem sameInventory_passed (passed : Passed codec moments host left) :
    SameInventory host left := by
  obtain ⟨_, _, isLeft | stops⟩ := passed
  · rw [isLeft]
    exact sameInventory_drained
  apply stops.keeps (SameInventory host)
  · intro op state same
    exact same.trans (sameInventory_perform op state)
  · intro _ _ _ torn same
    exact same.trans (sameInventory_torn torn)
  · exact .refl host

include draining

/-- What any number of completed and stopped passes leave. -/
theorem Draining.passes (passed : Relation.ReflTransGen (Passed codec moments) host left) :
    Draining codec moments plan left ∧ left.stagedRuns = host.stagedRuns := by
  induction passed with
  | refl => exact ⟨draining, rfl⟩
  | tail _ last ih => exact ⟨ih.1.passed last, (sameInventory_passed last).stagedRuns.trans ih.2⟩

theorem drained_of_finished (moment : moments now) (finished : Finished host) :
    drained codec now host = host := by
  rcases (steady_drainNext draining moment).ended.2 with ⟨_, same, _⟩ | ⟨_, undone, _⟩
  · exact same
  · exact absurd finished undone

theorem remaining_drained (moment : moments now) (undone : ¬ Finished host) :
    remaining plan (drained codec now host) < remaining plan host := by
  rcases (steady_drainNext draining moment).ended.2 with ⟨_, _, finished⟩ | ⟨_, _, fewer, _⟩
  · exact absurd finished undone
  · exact fewer

theorem Draining.finished (ends : Finished host) {run : Uuid}
    (staged : run ∈ host.stagedRuns) :
    ∃ row ∈ host.staging, row.workflowInstanceId = run ∧
      row.payload = none ∧ DrainedRun codec (plan run) run host := by
  obtain ⟨row, mem, isRun⟩ := List.mem_map.mp staged
  have progress := draining.progress row mem
  have undone := ends row mem
  unfold RunProgress at progress
  split at progress
  · rename_i state
    rw [state] at undone
    cases undone
  · rename_i state
    rw [state] at undone
    cases undone
  · rw [isRun] at progress
    exact ⟨row, mem, isRun, progress.1, progress.2.2⟩

omit draining

/-- Every staged run is drained: archived once as planned, its scope cleaned,
its journals and its staged payload gone. -/
def AllDrained (codec : LiteCodec) (plan : DrainPlan)
    (runs : List Uuid) (host : Machine) : Prop :=
  ∀ run ∈ runs, ∃ row ∈ host.staging, row.workflowInstanceId = run ∧
    row.payload = none ∧ DrainedRun codec (plan run) run host

/-- The seal of a task without output whose process was lost. -/
def exampleSeal : LogSeal :=
  { stream := ⟨10, 1⟩
    acceptedRecords := []
    recordDigest := ""
    terminal := .abnormalClosure none }

def exampleProjection (id : String) (tasks : List ArchiveTask) : ArchiveProjection :=
  { id := id
    workflowId := "2"
    state := "Completed"
    scheduledAt := none
    taskInstances := tasks }

/-- Two runs, of which the first has a task. -/
def exampleCodec : LiteCodec where
  contentDigest := fun _ => ""
  recordsText := fun _ => []
  encodeFrame := fun frame =>
    if frame = .terminal exampleSeal.terminal then [9] else [8]
  decodeFrame := fun payload =>
    if payload = [9] then .ok (.terminal exampleSeal.terminal)
    else .ok (.sealed "")
  validateEnvelope := fun _ => .ok ()
  parseUuid := fun text =>
    if text = "1" then some 1
    else if text = "2" then some 2
    else if text = "10" then some 10 else none
  uuidText := fun id => if id = 1 then "1" else if id = 2 then "2" else "10"
  parseTimestamp := fun _ => some 0
  decodeEnvelope := fun payload =>
    if payload = [1] then some ⟨exampleProjection "1" [⟨"10", "2"⟩], none⟩
    else some ⟨exampleProjection "2" [], none⟩
  archiveEntries := fun _ => .ok []
  encodeLog := fun _ => [1]
  decodeLog := fun _ => some (finalLogDocument exampleSeal)
  encodeExit := fun _ => [2]
  decodeExit := fun _ => some (finalLogExitMetadata exampleSeal)

def exampleScope (run : Uuid) : ScopeRow :=
  { scopeId := run
    contextNamespace := "default"
    runId := run
    creationClaim := .taskScope run
    creationDigest := .mutation run []
    state := .active
    createdAt := 0
    snapshot := none
    quarantineReason := none }

def exampleStaging (run : Uuid) (payload : Bytes) (stagedAt : Int) : StagingRow :=
  { workflowInstanceId := run
    payload := some payload
    payloadDigest := ""
    state := .staged
    stagedAt := stagedAt }

/-- Both runs are staged, the one with the task first. -/
def exampleMachine (calls : List PickupCall) (files : FileName → Option Bytes) : Machine :=
  { pickup := PickupStore.empty.afterAll calls
    scopes :=
      { scopes := [exampleScope 1, exampleScope 2]
        values := []
        claims := [] }
    staging := [exampleStaging 1 [1] 0, exampleStaging 2 [2] 1]
    archives := []
    files := files }

def exampleClaim : TaskPickupClaim := ⟨"key", 1, "owner", 10⟩

/-- The task is claimed and ends. -/
def exitedCalls : List PickupCall :=
  [.stage "key" [] (some "10") (some "1") 0, .claim ⟨"key", "owner", 10, [], 0⟩,
    .elect exampleClaim .livenessExpired [] 1]

def exitedJournal : Bytes :=
  journalHeader ++ frameBytes exampleCodec.journal (.terminal exampleSeal.terminal)

def exitedFiles (name : FileName) : Option Bytes :=
  if name = .journal exampleSeal.stream then some exitedJournal else none

def examplePlan : DrainPlan :=
  { runs := fun run =>
      { snapshot := takenSnapshot exampleCodec.scope run []
        entries := []
        seals := if run = 1 then [exampleSeal] else [] }
    others := exitedFiles }

theorem sealable_exitedJournal : Sealable exampleCodec exampleSeal exitedJournal := by
  refine ⟨[.terminal exampleSeal.terminal], [],
    { state := { LogStreamState.new exampleSeal.stream with
        terminal := some exampleSeal.terminal }
      sealDigest := none }, ?_, ?_, ?_⟩
  · refine ⟨by simp [exitedJournal], rfl, by decide +kernel, ?_⟩
    rfl
  · decide +kernel
  · decide +kernel

theorem snapshots_exampleScope (run : Uuid) :
    Snapshots exampleCodec (· = 0) ⟨[exampleScope 1, exampleScope 2], [], []⟩
      (exampleScope run) (examplePlan run).snapshot := by
  refine ⟨?_, rfl, rfl, rfl⟩
  intro _ moment
  rw [moment]
  rfl

theorem draining_exited :
    Draining exampleCodec (· = 0) examplePlan (exampleMachine exitedCalls exitedFiles) where
  staging_keyed := by simp [Keyed, exampleMachine, exampleStaging]
  scopes_keyed := by simp [Keyed, exampleMachine, exampleScope]
  apart := by decide
  progress := by
    intro _ mem
    simp only [exampleMachine, List.mem_cons, List.not_mem_nil, or_false] at mem
    rcases mem with first | second
    · rw [first]
      refine ⟨⟨[1], rfl, ?_⟩, ?_⟩
      · refine ⟨⟨_, _, rfl, ?_, rfl, ?_⟩, ?_, rfl, ?_, ?_, ?_⟩
        · decide +kernel
        · decide +kernel
        · decide +kernel
        · decide +kernel
        · intro _ isSealed
          rw [List.mem_singleton.mp isSealed]
          exact ⟨by decide +kernel, by decide⟩
        · intro _ isSealed
          rw [List.mem_singleton.mp isSealed]
          exact ⟨rfl, rfl⟩
      · refine ⟨⟨exampleScope 1, rfl, snapshots_exampleScope 1⟩, ?_, ?_, rfl⟩
        · intro _ isSealed
          rw [List.mem_singleton.mp isSealed]
          exact ⟨exitedJournal, rfl, sealable_exitedJournal⟩
        · intro _ _ _
          exact .inl rfl
    · rw [second]
      refine ⟨⟨[2], rfl, ?_⟩, ?_⟩
      · refine ⟨⟨_, _, rfl, ?_, rfl, ?_⟩, ?_, rfl, ?_, ?_, ?_⟩
        · decide +kernel
        · decide +kernel
        · decide +kernel
        · decide +kernel
        · intro _ isSealed
          cases isSealed
        · intro _ isSealed
          cases isSealed
      · refine ⟨⟨exampleScope 2, rfl, snapshots_exampleScope 2⟩, ?_, ?_, rfl⟩
        · intro _ isSealed
          cases isSealed
        · intro _ isSealed
          cases isSealed
  elsewhere := fun _ _ => rfl

/-- The task is cancelled before any claim. -/
def cancelledCalls : List PickupCall :=
  [.stage "key" [] (some "10") (some "1") 0, .commitFence "ack" "10" "1" 1,
    .settle ⟨"ack", "10", "1", some "key", some 1, none, false, none, none⟩ .noProcess [] 2]

/-- The task is claimed and its setup fails before the journal is opened. -/
def failedCalls : List PickupCall :=
  [.stage "key" [] (some "10") (some "1") 0, .claim ⟨"key", "owner", 10, [], 0⟩,
    .elect exampleClaim .processSetupFailed [] 1]

def blockedMachine (calls : List PickupCall) : Machine := exampleMachine calls fun _ => none

end Tickr.Lite
