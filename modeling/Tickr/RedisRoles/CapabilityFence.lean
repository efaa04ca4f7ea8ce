import Tickr.RedisRoles.Capacity
import Tickr.Script

/-!
# The Redis capability fence

Operations take permits of the current generation while the fence is open.  A
recorded failure closes it; a monitor pass that has probed the formation and
reconstructed every role opens it again.
-/

namespace Tickr.RedisRoles.CapabilityFence

open Capacity (CoordinationRole)
open Script

inductive FenceState where
  | closed | reconstructing | opened
  deriving DecidableEq

inductive FenceError where
  | closed | staleGeneration

inductive MonitorError where
  | capabilityLost | concurrentCapabilityLoss | reconstructionFailed

inductive Probe where
  | base
  | requiredOperations (role : CoordinationRole)
  | representativeDenials (role : CoordinationRole)

/-- What a pass awaits or does next, with what it still has to do after that. -/
inductive Stage where
  | base | roles
  | probes (left : List Probe)
  | reconstruction (left : List CoordinationRole)

/-- A pass, with the number of failures recorded before it, the roles that it
read, and what has succeeded in it. -/
structure Pass where
  starting : UInt64
  begunAt : Nat
  stage : Stage := .base
  roles : List CoordinationRole := []
  probed : List Probe := []
  rebuilt : List CoordinationRole := []

/-- The monitor with the pass that holds its run lock, the number of recorded
failures, and the pass that opened the fence last. -/
structure Monitor where
  fence : FenceState := .closed
  generation : UInt64 := 0
  roles : List CoordinationRole := []
  pass : Option Pass := none
  failures : Nat := 0
  opening : Option Pass := none

/-- A pass advances when what it awaits has answered, and may be dropped. -/
inductive Op where
  | register (role : CoordinationRole)
  | report
  | begin
  | advance (succeeded : Bool)
  | drop

def probesOf (roles : List CoordinationRole) : List Probe :=
  roles.flatMap fun role => [.requiredOperations role, .representativeDenials role]

variable (monitor : Monitor) (pass : Pass)

def Monitor.guardAdmission : Except FenceError UInt64 :=
  if monitor.fence ≠ .opened then .error .closed else .ok monitor.generation

def Monitor.guardAcknowledgement (permit : UInt64) : Except FenceError Unit :=
  if monitor.fence ≠ .opened then .error .closed
  else if monitor.generation ≠ permit then .error .staleGeneration else .ok ()

def Monitor.closeWithFailure : Monitor :=
  { monitor with
    fence := .closed, generation := monitor.generation + 1, failures := monitor.failures + 1 }

abbrev Reply := Option (Except MonitorError Unit)

def Monitor.ends (result : Except MonitorError Unit) : Reply × Monitor :=
  (some result, { monitor with pass := none })

def Monitor.goesOn : Reply × Monitor := (none, { monitor with pass := some pass })

def Monitor.goesOnIf (succeeded : Bool) (error : MonitorError) : Reply × Monitor :=
  if succeeded then monitor.goesOn pass else monitor.closeWithFailure.ends (.error error)

/-- The next step of `run_once`. -/
def Monitor.runOnce (succeeded : Bool) : Reply × Monitor :=
  match pass.stage with
  | .base =>
    monitor.goesOnIf { pass with probed := [.base], stage := .roles } succeeded .capabilityLost
  | .roles =>
    monitor.goesOn { pass with roles := monitor.roles, stage := .probes (probesOf monitor.roles) }
  | .probes (probe :: left) => monitor.goesOnIf
      { pass with probed := pass.probed ++ [probe], stage := .probes left } succeeded .capabilityLost
  | .probes [] =>
    if monitor.generation ≠ pass.starting then monitor.ends (.error .concurrentCapabilityLoss)
    else match monitor.fence with
      | .opened => monitor.ends (.ok ())
      | .reconstructing => monitor.ends (.error .concurrentCapabilityLoss)
      | .closed => { monitor with fence := .reconstructing }.goesOn
          { pass with rebuilt := [], stage := .reconstruction pass.roles }
  | .reconstruction (role :: left) => monitor.goesOnIf
      { pass with rebuilt := pass.rebuilt ++ [role], stage := .reconstruction left }
      succeeded .reconstructionFailed
  | .reconstruction [] =>
    if monitor.generation ≠ pass.starting ∨ monitor.fence ≠ .reconstructing then
      monitor.ends (.error .concurrentCapabilityLoss)
    else { monitor with fence := .opened, opening := some pass }.ends (.ok ())

def perform (op : Op) (monitor : Monitor) : Reply × Monitor :=
  match op, monitor.pass with
  | .register role, _ => (none, if role ∈ monitor.roles then monitor
      else { monitor with roles := monitor.roles ++ [role] })
  | .report, _ => (none, monitor.closeWithFailure)
  | .begin, none => monitor.goesOn { starting := monitor.generation, begunAt := monitor.failures }
  | .advance succeeded, some pass => monitor.runOnce pass succeeded
  | .drop, _ => (none, { monitor with pass := none })
  -- a second pass waits for the run lock
  | .begin, some _ | .advance _, none => (none, monitor)

/-- What has succeeded in a pass that has come to a stage. -/
def Pass.Shows : Prop :=
  match pass.stage with
  | .base => True
  | .roles => pass.probed = [.base]
  | .probes left => pass.probed ++ left = .base :: probesOf pass.roles
  | .reconstruction left =>
    pass.probed = .base :: probesOf pass.roles ∧ pass.rebuilt ++ left = pass.roles

/-- The fence was opened by a pass that began after the last failure, and in
which the base probe, both probes of every role that it read and the
reconstruction of every such role succeeded. -/
def Monitor.Proven : Prop :=
  ∃ pass, monitor.opening = some pass ∧ pass.begunAt = monitor.failures ∧
    pass.probed = .base :: probesOf pass.roles ∧ pass.rebuilt = pass.roles

structure Sound : Prop where
  generation : monitor.generation = .ofNat monitor.failures
  proven : monitor.fence = .opened → monitor.Proven
  shows : ∀ pass ∈ monitor.pass, pass.Shows ∧ pass.starting = .ofNat pass.begunAt ∧
    pass.begunAt ≤ monitor.failures

/-- What every step keeps: failures stay counted, only a failure closes an open
fence, and the state is sound as long as the generations can be told apart. -/
structure Keeps (before after : Monitor) : Prop where
  grown : before.failures ≤ after.failures
  opened : after.failures = before.failures → before.fence = .opened → after.fence = .opened
  sound : after.failures < 2 ^ 64 → Sound before → Sound after

variable {monitor pass} {next : Pass} {before after later : Monitor}

theorem Keeps.refl (monitor : Monitor) : Keeps monitor monitor :=
  ⟨le_rfl, fun _ isOpen => isOpen, fun _ sound => sound⟩

theorem Keeps.trans (keeps : Keeps before after) (keepsOn : Keeps after later) :
    Keeps before later where
  grown := keeps.grown.trans keepsOn.grown
  opened same isOpen := by
    have grown := keeps.grown
    have grownOn := keepsOn.grown
    exact keepsOn.opened (by omega) (keeps.opened (by omega) isOpen)
  sound counted sound :=
    keepsOn.sound counted (keeps.sound (keepsOn.grown.trans_lt counted) sound)

theorem ofNat_inj (leftCounted : left < 2 ^ 64) (counted : right < 2 ^ 64)
    (same : UInt64.ofNat left = .ofNat right) : left = right := by
  have values := congrArg UInt64.toNat same
  rwa [UInt64.toNat_ofNat_of_lt' leftCounted, UInt64.toNat_ofNat_of_lt' counted] at values

theorem keeps_closeWithFailure : Keeps monitor monitor.closeWithFailure where
  grown := Nat.le_succ _
  opened same := absurd same (Nat.succ_ne_self _)
  sound _ sound := by
    refine ⟨by simp [Monitor.closeWithFailure, sound.generation],
      by simp [Monitor.closeWithFailure], ?_⟩
    intro pass mem
    obtain ⟨shown, starts, begun⟩ := sound.shows pass mem
    exact ⟨shown, starts, Nat.le_succ_of_le begun⟩

theorem keeps_ends (result : Except MonitorError Unit) : Keeps monitor (monitor.ends result).2 :=
  ⟨le_rfl, fun _ isOpen => isOpen, fun _ sound =>
    ⟨sound.generation, sound.proven, by simp [Monitor.ends]⟩⟩

section Pass

variable (mem : pass ∈ monitor.pass)
include mem

theorem keeps_goesOn (starting : next.starting = pass.starting)
    (begunAt : next.begunAt = pass.begunAt) (shows : pass.Shows → next.Shows) :
    Keeps monitor (monitor.goesOn next).2 := by
  refine ⟨le_rfl, fun _ isOpen => isOpen, fun _ sound => ⟨sound.generation, sound.proven, ?_⟩⟩
  rintro _ ⟨⟩
  obtain ⟨shown, starts⟩ := sound.shows pass mem
  rw [starting, begunAt]
  exact ⟨shows shown, starts⟩

theorem keeps_goesOnIf (worked : Bool) (error : MonitorError)
    (starting : next.starting = pass.starting) (begunAt : next.begunAt = pass.begunAt)
    (shows : pass.Shows → next.Shows) :
    Keeps monitor (monitor.goesOnIf next worked error).2 := by
  unfold Monitor.goesOnIf
  split_ifs
  · exact keeps_goesOn mem starting begunAt shows
  · exact keeps_closeWithFailure.trans (keeps_ends _)

/-- A pass that finds the generation that it began with saw no failure. -/
theorem keeps_opening (isStage : pass.stage = .reconstruction [])
    (same : monitor.generation = pass.starting) :
    Keeps monitor { monitor with fence := .opened, opening := some pass } := by
  refine ⟨le_rfl, fun _ _ => rfl, fun counted sound => ?_⟩
  refine ⟨sound.generation, fun _ => ?_, sound.shows⟩
  obtain ⟨shown, starts, begun⟩ := sound.shows pass mem
  rw [Pass.Shows, isStage] at shown
  rw [sound.generation, starts] at same
  have counts := ofNat_inj counted (begun.trans_lt counted) same
  exact ⟨pass, rfl, counts.symm, shown.1, by simpa using shown.2⟩

theorem keeps_runOnce (worked : Bool) : Keeps monitor (monitor.runOnce pass worked).2 := by
  unfold Monitor.runOnce
  split <;> rename_i stage
  · exact keeps_goesOnIf mem _ _ rfl rfl fun _ => rfl
  · refine keeps_goesOn mem rfl rfl fun shown => ?_
    rw [Pass.Shows, stage] at shown
    simp only [shown]
    rfl
  · refine keeps_goesOnIf mem _ _ rfl rfl fun shown => ?_
    rw [Pass.Shows, stage] at shown
    simpa [Pass.Shows] using shown
  · split_ifs
    · exact keeps_ends _
    split
    · exact keeps_ends _
    · exact keeps_ends _
    rename_i closed
    have quiet : Keeps monitor { monitor with fence := .reconstructing } :=
      ⟨le_rfl, by simp [closed], fun _ sound => ⟨sound.generation, by simp, sound.shows⟩⟩
    refine quiet.trans (keeps_goesOn mem rfl rfl fun shown => ?_)
    simp only [Pass.Shows, stage, List.append_nil] at shown
    exact ⟨shown, rfl⟩
  · refine keeps_goesOnIf mem _ _ rfl rfl fun shown => ?_
    rw [Pass.Shows, stage] at shown
    simpa [Pass.Shows] using shown
  · split_ifs with stale
    · exact keeps_ends _
    · rw [not_or, not_not] at stale
      exact (keeps_opening mem stage stale.1).trans (keeps_ends _)

end Pass

theorem keeps_perform (op : Op) : Keeps monitor (perform op monitor).2 := by
  unfold perform
  split
  · split_ifs
    · exact .refl monitor
    · exact ⟨le_rfl, fun _ isOpen => isOpen, fun _ sound =>
        ⟨sound.generation, sound.proven, sound.shows⟩⟩
  · exact keeps_closeWithFailure
  · refine ⟨le_rfl, fun _ isOpen => isOpen, fun _ sound => ⟨sound.generation, sound.proven, ?_⟩⟩
    rintro _ ⟨⟩
    exact ⟨trivial, sound.generation, le_rfl⟩
  · next mem => exact keeps_runOnce mem _
  · exact keeps_ends (.ok ())
  all_goals exact .refl monitor

theorem keeps_run (ops : List Op) : Keeps monitor (run perform ops monitor) := by
  induction ops generalizing monitor with
  | nil => exact .refl monitor
  | cons op _ ih => exact (keeps_perform op).trans ih

/-- A role is registered, and a pass probes and reconstructs it. -/
def sampleOps : List Op :=
  [.register .commandBus, .begin, .advance true, .advance true, .advance true, .advance true,
    .advance true, .advance true, .advance true]

end Tickr.RedisRoles.CapabilityFence
