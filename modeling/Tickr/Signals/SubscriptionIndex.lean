import Tickr.Script
import Tickr.Signals.State

/-!
# The subscription index

The workflows that wait on a signal, by its name, with the names that each of
them waits on.
-/

namespace Tickr.Signals

open LogStream (Uuid)
open Buckets Script Function

structure WaitsOnSignalConfig where
  signalName : String
  predicate : Option String
  captures : List CaptureDeclaration

/-- The id is none when its text is no UUID. -/
structure WorkflowState where
  id : Option Uuid
  captures : List CaptureDeclaration
  waitsOnSignal : Option WaitsOnSignalConfig

structure SubscriptionMaps where
  byName : Buckets String Subscription := Buckets.empty
  namesByWorkflow : Buckets Uuid String := Buckets.empty

/-- A capture that comes again takes the place of the first of its name. -/
def mergeCaptures (workflowCaptures triggerCaptures : List CaptureDeclaration) :
    List CaptureDeclaration :=
  (workflowCaptures ++ triggerCaptures).foldl (fun merged capture =>
    Table.upsert (fun other => other.name = capture.name) (fun _ => capture) capture merged) []

namespace SubscriptionMaps

variable (paths : JsonPaths) (maps : SubscriptionMaps) (workflow : Uuid) (entry : Subscription)

def unregister : SubscriptionMaps :=
  match maps.namesByWorkflow workflow with
  | none => maps
  | some names =>
    { byName := names.foldl (fun byName name =>
        retain name (fun entry => entry.workflowId ≠ workflow) byName) maps.byName
      namesByWorkflow := update maps.namesByWorkflow workflow none }

def registerEntry : SubscriptionMaps :=
  { byName := push entry.name entry (maps.unregister entry.workflowId).byName
    namesByWorkflow :=
      push entry.workflowId entry.name (maps.unregister entry.workflowId).namesByWorkflow }

/-- A change of state takes its workflow out or registers an entry. -/
def request (state : WorkflowState) : Except String (Uuid ⊕ Subscription) :=
  match state.id, state.waitsOnSignal with
  | none, _ => .error "invalid workflow id"
  | some id, none => .ok (.inl id)
  | some id, some config =>
    let entry := fun predicate => .inr
      ⟨config.signalName, id, predicate, mergeCaptures state.captures config.captures⟩
    match config.predicate with
    | none => .ok (entry none)
    | some raw => (paths.parse raw).map fun path => entry (some path)

def applyWorkflowState (state : WorkflowState) (maps : SubscriptionMaps) :
    Except String Unit × SubscriptionMaps :=
  match request paths state with
  | .error message => (.error message, maps)
  | .ok (.inl id) => (.ok (), maps.unregister id)
  | .ok (.inr entry) => (.ok (), maps.registerEntry entry)

def settle (current : Uuid → Option Subscription) (state : WorkflowState) :
    Uuid → Option Subscription :=
  match request paths state with
  | .error _ => current
  | .ok (.inl id) => update current id none
  | .ok (.inr entry) => update current entry.workflowId (some entry)

/-- The latest registration of each workflow that was not taken out again. -/
def latest (states : List WorkflowState) : Uuid → Option Subscription :=
  states.foldl (settle paths) fun _ => none

/-- The index lists what is registered. -/
structure Lists (current : Uuid → Option Subscription) : Prop where
  listed : ∀ name entry, entry ∈ bucket name maps.byName ↔
    current entry.workflowId = some entry ∧ entry.name = name
  once : ∀ name, (bucket name maps.byName).Nodup
  names : ∀ workflow, maps.namesByWorkflow workflow =
    (current workflow).map fun entry => [entry.name]
  noneEmpty : NoneEmpty maps.byName

variable {paths maps workflow entry} {current : Uuid → Option Subscription}

theorem lists_start : Lists {} fun _ => none where
  listed := by simp
  once := by simp
  names _ := rfl
  noneEmpty := noneEmpty_empty

theorem Lists.unregister (lists : Lists maps current) (workflow : Uuid) :
    Lists (maps.unregister workflow) (update current workflow none) := by
  have isListed := lists.names workflow
  cases found : current workflow with
  | none =>
    have still : update current workflow none = current :=
      update_eq_self_iff.mpr found.symm
    rw [found] at isListed
    simpa [SubscriptionMaps.unregister, isListed, still] using lists
  | some previous =>
    have gone : maps.unregister workflow =
        ⟨retain previous.name (fun entry => entry.workflowId ≠ workflow) maps.byName,
          update maps.namesByWorkflow workflow none⟩ := by
      simp [SubscriptionMaps.unregister, isListed, found]
    rw [gone]
    refine ⟨fun name entry => ?_, nodup_bucket_retain lists.once, fun other => ?_,
      lists.noneEmpty.retain⟩
    · rw [mem_bucket_retain, lists.listed]
      by_cases same : entry.workflowId = workflow
      · simp_all [eq_comm]
      · simp [same]
    · by_cases same : other = workflow
      · simp [same]
      · simp [same, lists.names]

theorem Lists.registerEntry (lists : Lists maps current) (entry : Subscription) :
    Lists (maps.registerEntry entry) (update current entry.workflowId (some entry)) := by
  have empty := lists.unregister entry.workflowId
  have new : ∀ name, entry ∉ bucket name (maps.unregister entry.workflowId).byName := by
    simp [empty.listed]
  refine ⟨fun name other => ?_, nodup_bucket_push empty.once (new _), fun other => ?_,
    empty.noneEmpty.push⟩
  · rw [SubscriptionMaps.registerEntry, mem_bucket_push, empty.listed]
    by_cases same : other.workflowId = entry.workflowId
    · grind
    · have ne : other ≠ entry := fun isEntry => same (congrArg _ isEntry)
      simp [same, ne]
  · by_cases same : other = entry.workflowId
    · simp [same, SubscriptionMaps.registerEntry, push, bucket, empty.names]
    · simpa [same, SubscriptionMaps.registerEntry, push] using empty.names other

theorem lists_run (states : List WorkflowState) (lists : Lists maps current) :
    Lists (run (applyWorkflowState paths) states maps) (states.foldl (settle paths) current) := by
  induction states generalizing maps current with
  | nil => exact lists
  | cons _ _ ih =>
    apply ih
    unfold applyWorkflowState settle
    split
    · exact lists
    · exact lists.unregister _
    · exact lists.registerEntry _

/-- After every history of workflow states the index lists the latest
registration of each workflow, once and under its name only, and a change that
fails leaves it as it is. -/
theorem subscription_index_exact (paths : JsonPaths) (states : List WorkflowState) :
    let maps := run (applyWorkflowState paths) states {}
    let current := latest paths states
    (∀ name entry, entry ∈ bucket name maps.byName ↔
      current entry.workflowId = some entry ∧ entry.name = name) ∧
    (∀ name, ((bucket name maps.byName).map Subscription.workflowId).Nodup) ∧
    (∀ workflow, maps.namesByWorkflow workflow =
      (current workflow).map fun entry => [entry.name]) ∧
    NoneEmpty maps.byName ∧ NoneEmpty maps.namesByWorkflow ∧
    ∀ state message, (applyWorkflowState paths state maps).1 = .error message →
      (applyWorkflowState paths state maps).2 = maps := by
  have lists : Lists _ (latest paths states) := lists_run states lists_start
  refine ⟨lists.listed, fun name => ?_, lists.names, lists.noneEmpty, fun workflow => ?_, ?_⟩
  · refine (lists.once name).map_on fun left isLeft right isRight same => ?_
    have leftLatest := ((lists.listed name left).mp isLeft).1
    rw [same, ((lists.listed name right).mp isRight).1] at leftLatest
    exact (Option.some.inj leftLatest).symm
  · rw [lists.names]
    cases latest paths states workflow <;> simp
  · intro _ _
    unfold applyWorkflowState
    split
    · exact fun _ => rfl
    · exact nofun
    · exact nofun

end SubscriptionMaps

end Tickr.Signals
