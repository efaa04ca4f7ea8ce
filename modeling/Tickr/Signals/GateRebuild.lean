import Tickr.Script
import Tickr.Signals.GateIndex

/-!
# Histories of the gate index

Registrations and sweeps keep the three maps in agreement; a rebuild does so only
when no gate comes twice.
-/

namespace Tickr.Signals

open LogStream (Uuid)
open Buckets Script
open GateIndex (Precondition entryOf)

namespace GateMaps

inductive Op where
  | register (precondition : Precondition)
  | unregister (workflowInstanceId edgeId : Uuid)
  | sweepInstance (workflowInstanceId : Uuid)
  | replaceAll (entries : List Precondition)

variable (paths : JsonPaths) (maps : GateMaps) (inst : Uuid)

def registerGate (gate : Gate) : GateMaps := (maps.remove gate.key).insert gate

/-- What a sweep does for an edge that its instance had. -/
def sweepEdge (edge : Uuid) : GateMaps :=
  match maps.byGate (inst, edge) with
  | none => maps
  | some previous =>
    { maps with
      byGate := Function.update maps.byGate (inst, edge) none
      byName := retain previous.signalName (fun other => other ≠ (inst, edge)) maps.byName }

def sweepInstance : GateMaps :=
  (bucket inst maps.byInstance).foldl (fun maps edge => maps.sweepEdge inst edge)
    { maps with byInstance := Function.update maps.byInstance inst none }

/-- The gates of the entries whose predicates parse. -/
def gatesOf (entries : List Precondition) : List Gate :=
  entries.filterMap fun entry => (entryOf paths 0 entry).toOption

def replaceAll (entries : List Precondition) : GateMaps := (gatesOf paths entries).foldl
  (fun maps gate => maps.insert gate) empty

def lookupBySignalName (name : String) : List Gate :=
  (bucket name maps.byName).filterMap maps.byGate

def perform (op : Op) (maps : GateMaps) : Except String Unit × GateMaps :=
  match op with
  | .register precondition =>
    match entryOf paths 0 precondition with
    | .error message => (.error message, maps)
    | .ok gate => (.ok (), maps.registerGate gate)
  | .unregister workflowInstanceId edgeId => (.ok (), maps.remove (workflowInstanceId, edgeId))
  | .sweepInstance workflowInstanceId => (.ok (), maps.sweepInstance workflowInstanceId)
  | .replaceAll entries => (.ok (), replaceAll paths entries)

/-- A rebuild lists no gate twice. -/
def ListsGatesOnce : Op → GateMaps → Prop
  | .replaceAll entries, _ => ((gatesOf paths entries).map Gate.key).Nodup
  | _, _ => True

instance (op : Op) (maps : GateMaps) : Decidable (ListsGatesOnce paths op maps) := by
  unfold ListsGatesOnce
  split <;> infer_instance

variable {paths maps inst} {edges : List Uuid}

theorem foldl_sweepEdge (byInstance : Buckets Uuid Uuid) :
    edges.foldl (fun maps edge => maps.sweepEdge inst edge)
        { maps with byInstance } =
      { edges.foldl (fun maps edge => maps.remove (inst, edge)) maps with
        byInstance := byInstance } := by
  induction edges generalizing maps with
  | nil => rfl
  | cons edge _ ih =>
    have swept : sweepEdge { maps with byInstance } inst edge =
        { maps.remove (inst, edge) with byInstance } := by
      cases found : maps.byGate (inst, edge) with
      | none | some => simp [sweepEdge, remove, found]
    rw [List.foldl_cons, swept, ih, List.foldl_cons]

theorem byGate_removeAll (key : GateKey) :
    (edges.foldl (fun maps edge => maps.remove (inst, edge)) maps).byGate key =
      if key.1 = inst ∧ key.2 ∈ edges then none else maps.byGate key := by
  induction edges generalizing maps with
  | nil => simp
  | cons first _ ih =>
    rw [List.foldl_cons, ih]
    by_cases same : key = (inst, first)
    · subst same
      simp [byGate_remove_self]
    rw [byGate_remove_of_ne same]
    grind

theorem Agrees.sweepInstance (agrees : maps.Agrees) (inst : Uuid) :
    (maps.sweepInstance inst).Agrees := by
  have left := List.foldlRecOn (bucket inst maps.byInstance)
    (fun maps edge => maps.remove (inst, edge)) agrees fun _ agrees _ _ => agrees.remove _
  unfold GateMaps.sweepInstance
  rw [foldl_sweepEdge]
  refine ⟨left.keyed, left.named, left.namedOnce, fun other edge => ?_, fun other => ?_,
    left.noneEmptyByName, fun other => ?_⟩
  · rw [byGate_removeAll]
    by_cases same : other = inst
    · subst same
      have unlisted : edge ∉ bucket other maps.byInstance → maps.byGate (other, edge) = none := by
        simp [agrees.instanced]
      simpa [bucket] using unlisted
    · simpa [bucket, same] using agrees.instanced other edge
  · by_cases same : other = inst
    · simp [bucket, same]
    · simpa [bucket, same] using agrees.instancedOnce other
  · by_cases same : other = inst
    · simp [same]
    · simpa [same] using agrees.noneEmptyByInstance other

theorem foldl_registerGate {gates : List Gate} (apart : (gates.map Gate.key).Nodup)
    (free : ∀ gate ∈ gates, maps.byGate gate.key = none) :
    gates.foldl (fun maps gate => maps.insert gate) maps = gates.foldl registerGate maps := by
  induction gates generalizing maps with
  | nil => rfl
  | cons gate _ ih =>
    rw [List.map_cons, List.nodup_cons] at apart
    have new : maps.registerGate gate = maps.insert gate := by
      simp [registerGate, remove, free gate List.mem_cons_self]
    rw [List.foldl_cons, List.foldl_cons, new]
    apply ih apart.2
    intro later mem
    have ne : later.key ≠ gate.key := fun same =>
      apart.1 (same ▸ List.mem_map_of_mem mem)
    rw [byGate_insert_of_ne ne]
    exact free later (.tail _ mem)

theorem run_register (entries : List Precondition) :
    run (perform paths) (entries.map .register) maps =
      (gatesOf paths entries).foldl registerGate maps := by
  induction entries generalizing maps with
  | nil => rfl
  | cons entry _ ih =>
    rw [List.map_cons, run, ih]
    cases made : entryOf paths 0 entry with
    | error | ok => simp [perform, gatesOf, made, Except.toOption]

theorem replaceAll_of_distinct {entries : List Precondition}
    (apart : ((gatesOf paths entries).map Gate.key).Nodup) :
    replaceAll paths entries = run (perform paths) (entries.map .register) empty := by
  rw [run_register]
  exact foldl_registerGate apart fun _ _ => rfl

theorem Agrees.registerGate (agrees : maps.Agrees) (gate : Gate) :
    (maps.registerGate gate).Agrees := (agrees.remove gate.key).insert byGate_remove_self

theorem Agrees.perform (agrees : maps.Agrees) (once : ListsGatesOnce paths op maps) :
    (GateMaps.perform paths op maps).2.Agrees := by
  cases op with
  | register =>
    simp only [GateMaps.perform]
    split
    · exact agrees
    · exact agrees.registerGate _
  | unregister => exact agrees.remove _
  | sweepInstance => exact agrees.sweepInstance _
  | replaceAll =>
    have replaced := replaceAll_of_distinct once
    rw [run_register] at replaced
    simp only [GateMaps.perform, replaced]
    exact List.foldlRecOn _ _ agrees_empty fun _ agrees gate _ => agrees.registerGate gate

/-- In every history of the index whose rebuilds list no gate twice the maps
agree, a lookup finds each gate that waits on the name once, a registration that
fails changes nothing, and a rebuild is the registration of its entries. -/
theorem gate_index_exact (paths : JsonPaths) (ops : List Op)
    (listsOnce : Meets (perform paths) (ListsGatesOnce paths) ops empty) :
    let maps := run (perform paths) ops empty
    maps.Agrees ∧
    (∀ name gate, gate ∈ maps.lookupBySignalName name ↔
      maps.byGate gate.key = some gate ∧ gate.signalName = name) ∧
    (∀ name, (maps.lookupBySignalName name).Nodup) ∧
    (∀ entry message, (perform paths (.register entry) maps).1 = .error message →
      (perform paths (.register entry) maps).2 = maps) ∧
    ∀ entries, ListsGatesOnce paths (.replaceAll entries) maps →
      replaceAll paths entries = run (perform paths) (entries.map .register) empty := by
  have agrees : (run (perform paths) ops empty).Agrees :=
    run_keeps (fun _ _ listsOnce agrees => agrees.perform listsOnce) listsOnce agrees_empty
  refine ⟨agrees, ?_, ?_, ?_, fun _ apart => replaceAll_of_distinct apart⟩
  · intro name gate
    exact @GateIndex.mem_lookupBySignalName ⟨_, agrees⟩ gate name
  · intro name
    exact GateIndex.nodup_lookupBySignalName ⟨_, agrees⟩ name
  · intro _ _
    simp only [perform]
    split
    · exact fun _ => rfl
    · exact nofun

def plainPaths : JsonPaths := ⟨.ok, fun _ _ => []⟩

def sampleGate (edge : Uuid) (name : String) : Precondition := ⟨0, edge, name, none, []⟩

theorem gate_index_exact_rebuilt :
    (run (perform plainPaths)
      [.register (sampleGate 0 "paid"), .replaceAll [sampleGate 0 "paid", sampleGate 1 "paid"],
        .sweepInstance 0] empty).Agrees :=
  (gate_index_exact plainPaths _ (by decide)).1

/-- A gate that a rebuild lists under two names is found under both. -/
theorem gate_found_under_another_name :
    ∃ gate ∈ (run (perform plainPaths)
        [.replaceAll [sampleGate 0 "paid", sampleGate 0 "shipped"]] empty).lookupBySignalName
          "paid",
      gate.signalName = "shipped" := by
  decide

end GateMaps

end Tickr.Signals
