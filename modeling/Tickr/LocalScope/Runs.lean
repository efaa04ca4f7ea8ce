import Tickr.LocalScope.Store

/-!
# Who touches the scope of a run

Replay rehydration, the launch of a Task, the staging of the run's compaction and
its drain each name the scope by their own convention; the Tasks use the scope
id that their launch was given.
-/

namespace Tickr.LocalScope

open Table
open LogStream (Uuid Bytes)
open ScopeStore

def defaultCtxNamespace : String := "default"

def replayNamespace : String := "replay"

/-- The configured namespace, and the archived trigger captures of each signal
as scope values. -/
structure Supervisor where
  codec : ScopeCodec
  contextNamespace : String
  captures : Uuid → List ScopeValue

inductive LaunchFault where
  | createError (error : ScopeError)
  | createRefused (outcome : CreationOutcome)
  | capturesAbsent
  | seedError (error : ScopeError)
  | seedRefused (outcome : WriteOutcome)

/-- The scope a Task is granted, and how its captures were written. -/
structure Launched where
  scope : Uuid
  seeding : Option WriteOutcome

inductive StageFault where
  | createError (error : ScopeError)
  | createRefused (outcome : CreationOutcome)

variable (supervisor : Supervisor)

/-- The plan's values go under their bare names; how the creation was answered
is not looked at. -/
def rehydrate (run : Uuid) (plan : List ScopeValue) (now : Int)
    (store : ScopeStore) : Except ScopeError Unit × ScopeStore :=
  let (answer, store) := store.createTickrCtxScope supervisor.codec
    { scopeId := run
      contextNamespace := replayNamespace
      runId := run
      claim := .rehydration run
      values := plan
      now := now }
  (answer.map fun _ => (), store)

/-- The request for the scope of a run without values, which launches and
staging make. -/
def taskScopeInput (contextNamespace : String) (run : Uuid) (now : Int) : CreateInput :=
  { scopeId := run
    contextNamespace := contextNamespace
    runId := run
    claim := .taskScope run
    values := []
    now := now }

def seedTriggerCaptures (scope : Uuid) (signal : Option Uuid)
    (isArchived : Bool) (now : Int) (store : ScopeStore) :
    Except LaunchFault (Option WriteOutcome) × ScopeStore :=
  match signal with
  | none => (.ok none, store)
  | some signal =>
    if isArchived = false then (.error .capturesAbsent, store)
    else if supervisor.captures signal = [] then (.ok none, store)
    else
      match store.writeTickrCtxScope supervisor.codec scope
          (.seed scope signal) (supervisor.captures signal) now with
      | (.error error, store) => (.error (.seedError error), store)
      | (.ok (.applied inserted updated), store) => (.ok (some (.applied inserted updated)), store)
      | (.ok .idempotent, store) => (.ok (some .idempotent), store)
      | (.ok outcome, store) => (.error (.seedRefused outcome), store)

def launchIn (scope : Uuid) (signal : Option Uuid) (isArchived : Bool)
    (now : Int) (store : ScopeStore) :
    Except LaunchFault Launched × ScopeStore :=
  let (answer, store) := seedTriggerCaptures supervisor scope signal isArchived now store
  (answer.map (Launched.mk scope), store)

/-- The scope part of `spawn_claimed`. -/
def spawnClaimed (run : Uuid) (signal : Option Uuid) (isArchived : Bool)
    (now : Int) (store : ScopeStore) :
    Except LaunchFault Launched × ScopeStore :=
  match store.createTickrCtxScope supervisor.codec
      (taskScopeInput supervisor.contextNamespace run now) with
  | (.error error, store) => (.error (.createError error), store)
  | (.ok .created, store) => launchIn supervisor run signal isArchived now store
  | (.ok .idempotent, store) => launchIn supervisor run signal isArchived now store
  | (.ok (.collision existing), store) => launchIn supervisor existing signal isArchived now store
  | (.ok outcome, store) => (.error (.createRefused outcome), store)

/-- The scope part of `stage_for_relay`. -/
def stageForRelay (run : Uuid) (now : Int) (store : ScopeStore) :
    Except StageFault Unit × ScopeStore :=
  match store.createTickrCtxScope supervisor.codec (taskScopeInput defaultCtxNamespace run now) with
  | (.error error, store) => (.error (.createError error), store)
  | (.ok .created, store) => (.ok (), store)
  | (.ok .idempotent, store) => (.ok (), store)
  | (.ok (.collision _), store) => (.ok (), store)
  | (.ok outcome, store) => (.error (.createRefused outcome), store)

def drainSnapshot (run : Uuid) (now : Int) (store : ScopeStore) : Transacted SnapshotOutcome :=
  store.snapshotTickrCtxScopeForRun supervisor.codec defaultCtxNamespace run now

inductive Step where
  | rehydrate (run : Uuid) (plan : List ScopeValue) (now : Int)
  | launch (run : Uuid) (signal : Option Uuid) (isArchived : Bool) (now : Int)
  /-- A Task writes with the scope it was granted. -/
  | put (scope : Uuid) (nonce : Nat) (values : List ScopeValue) (now : Int)
  | delete (scope : Uuid) (nonce : Nat) (key : String) (now : Int)
  | read (scope : Uuid) (now : Int)
  | stage (run : Uuid) (now : Int)
  | drain (run : Uuid) (now : Int)
  | cleanup (scope : Uuid)

inductive Answer where
  | rehydrated (answer : Except ScopeError Unit)
  | launched (answer : Except LaunchFault Launched)
  | wrote (answer : Except ScopeError WriteOutcome)
  | deleted (answer : Except ScopeError DeleteOutcome)
  | read (answer : Except ScopeError ReadOutcome)
  | staged (answer : Except StageFault Unit)
  | drained (answer : Except ScopeError SnapshotOutcome)
  | cleaned (answer : Except ScopeError CleanupOutcome)

def Supervisor.perform (store : ScopeStore) : Step → Answer × ScopeStore
  | .rehydrate run plan now => (rehydrate supervisor run plan now store).map .rehydrated id
  | .launch run signal isArchived now =>
    (spawnClaimed supervisor run signal isArchived now store).map .launched id
  | .put scope nonce values now =>
    (store.writeTickrCtxScope supervisor.codec scope (.request scope nonce)
      values now).map .wrote id
  | .delete scope nonce key now =>
    (store.deleteTickrCtxScopeValue scope (.request scope nonce) key now).map .deleted id
  | .read scope now => (store.readTickrCtxScope supervisor.codec scope now).map .read id
  | .stage run now => (stageForRelay supervisor run now store).map .staged id
  | .drain run now => (drainSnapshot supervisor run now store).map .drained id
  | .cleanup scope => (store.cleanupTickrCtxScope supervisor.codec scope).map .cleaned id

abbrev Contents := String → Option Bytes

def Contents.put (contents : Contents) (value : ScopeValue) : Contents :=
  Function.update contents value.key (some value.envelope)

def Contents.putAll (contents : Contents) (values : List ScopeValue) :
    Contents := values.foldl Contents.put contents

def Contents.remove (contents : Contents) (key : String) : Contents :=
  Function.update contents key none

/-- What an answered step wrote to the scope of a run: only requests that were
answered as applied, and only those to this scope. -/
def recorded (supervisor : Supervisor) (run : Uuid) (contents : Contents) :
    Step → Answer → Contents
  | .launch _ (some signal) _ _, .launched (.ok ⟨scope, some (.applied _ _)⟩) =>
      if scope = run then contents.putAll (supervisor.captures signal)
      else contents
  | .put scope _ values _, .wrote (.ok (.applied _ _)) =>
    if scope = run then contents.putAll values else contents
  | .delete scope _ key _, .deleted (.ok .deleted) =>
    if scope = run then contents.remove key else contents
  | _, _ => contents

/-- The tables after a history, its latest step first, and what its steps
wrote to the scope of a run. -/
def Supervisor.after (supervisor : Supervisor) (run : Uuid) :
    List Step → ScopeStore × Contents
  | [] => (.empty, fun _ => none)
  | step :: earlier =>
    let (store, contents) := supervisor.after run earlier
    let (answer, store) := supervisor.perform store step
    (store, recorded supervisor run contents step answer)

/-- The values in the order of their keys, each of them once. -/
structure Listed (contents : Contents) (values : List ScopeValue) : Prop where
  ordered : values.Pairwise fun left right => left.key < right.key
  mem_iff : ∀ key envelope, ⟨key, envelope⟩ ∈ values ↔ contents key = some envelope

def Stores (run : Uuid) (contents : Contents) (rows : List ValueRow) : Prop :=
  ∀ key envelope, ⟨run, key, envelope⟩ ∈ rows ↔ contents key = some envelope

variable {run scope : Uuid} {contents : Contents} {rows : List ValueRow}

theorem mem_insertScopeValue :
    row ∈ insertScopeValue scope rows value ↔
      row = ⟨scope, value.key, value.envelope⟩ ∨
        row ∈ rows ∧ (row.scopeId = scope → row.key ≠ value.key) := by
  unfold insertScopeValue
  rw [mem_upsert]
  · simp
  · intro _ picked
    simp only [Bool.and_eq_true, decide_eq_true_eq] at picked
    rw [← picked.1, ← picked.2]

variable (stores : Stores run contents rows)
include stores

theorem Stores.insert (value : ScopeValue) :
    Stores run (contents.put value) (insertScopeValue run rows value) := by
  intro key envelope
  rw [mem_insertScopeValue]
  by_cases isKey : key = value.key
  · simp [isKey, Contents.put, eq_comm]
  · have := stores key envelope
    simp [isKey, Contents.put, this]

theorem Stores.insertAll (values : List ScopeValue) :
    Stores run (contents.putAll values) (values.foldl (insertScopeValue run) rows) := by
  induction values generalizing contents rows with
  | nil => exact stores
  | cons value _ ih => exact ih (stores.insert value)

theorem Stores.insertAll_of_ne (other : scope ≠ run) (values : List ScopeValue) :
    Stores run contents (values.foldl (insertScopeValue scope) rows) := by
  induction values generalizing rows with
  | nil => exact stores
  | cons _ _ ih =>
    apply ih
    intro key envelope
    rw [mem_insertScopeValue, ← stores key envelope]
    simp [other.symm]

omit stores

theorem keyed_insertAll (unique : Keyed (fun row : ValueRow => (row.scopeId, row.key)) rows)
    (values : List ScopeValue) :
    Keyed (fun row : ValueRow => (row.scopeId, row.key))
      (values.foldl (insertScopeValue scope) rows) := by
  induction values generalizing rows with
  | nil => exact unique
  | cons _ _ ih =>
    apply ih
    apply unique.upsert
    · intro _
      rfl
    · intro _ same
      simp only [Prod.mk.injEq] at same
      simp [same.1, same.2]

include stores

theorem Stores.remove (key : String) :
    Stores run (contents.remove key)
      (rows.filter fun row => !(row.scopeId = run && row.key = key)) := by
  intro other envelope
  rw [List.mem_filter, stores other envelope]
  by_cases isKey : other = key
  · simp [isKey, Contents.remove]
  · simp [isKey, Contents.remove]

theorem Stores.clean_of_ne (other : scope ≠ run) :
    Stores run contents (rows.filter fun row => row.scopeId ≠ scope) := by
  intro key envelope
  rw [List.mem_filter, stores key envelope]
  simp [other.symm]

omit stores

theorem listed_scopeValues {store : ScopeStore}
    (unique : Keyed (fun row : ValueRow => (row.scopeId, row.key)) store.values)
    (stores : Stores run contents store.values) :
    Listed contents (store.scopeValues run) := by
  have perm : (store.scopeValues run).Perm
      ((store.valueRows run).map fun row => ⟨row.key, row.envelope⟩) := List.perm_insertionSort _ _
  constructor
  · have sorted : (store.scopeValues run).Pairwise fun left right => left.key ≤ right.key :=
      List.pairwise_insertionSort _ _
    have nodup : ((store.scopeValues run).map ScopeValue.key).Nodup := by
      rw [(perm.map ScopeValue.key).nodup_iff, List.map_map]
      have keyed : Keyed (fun row : ValueRow => (row.scopeId, row.key))
          (store.valueRows run) := unique.filter _
      apply List.Nodup.of_map (Prod.mk run)
      rw [List.map_map]
      have same : ∀ row ∈ store.valueRows run,
          (Prod.mk run ∘ ScopeValue.key ∘ fun row : ValueRow => ⟨row.key, row.envelope⟩) row =
            (row.scopeId, row.key) := by
        intro _ mem
        have isRun := (List.mem_filter.mp mem).2
        simp only [decide_eq_true_eq] at isRun
        simp [isRun]
      rw [List.map_congr_left same]
      exact keyed
    have apart := List.pairwise_map.mp nodup
    exact (sorted.and apart).imp fun both => lt_of_le_of_ne both.1 both.2
  · intro key envelope
    rw [perm.mem_iff, ← stores key envelope, List.mem_map]
    constructor
    · intro ⟨_, mem, value⟩
      obtain ⟨isRow, isRun⟩ := List.mem_filter.mp mem
      simp only [decide_eq_true_eq] at isRun
      simp only [ScopeValue.mk.injEq] at value
      rw [← isRun, ← value.1, ← value.2]
      exact isRow
    · intro mem
      exact ⟨_, List.mem_filter.mpr ⟨mem, by simp⟩, rfl⟩

end Tickr.LocalScope
