import Tickr.Buckets
import Tickr.Signals.Captures

/-!
# The gate index

The gates that wait for a signal, with the reverse maps from signal names and from
workflow instances.  An index carries that its three maps agree.
-/

namespace Tickr.Signals

open LogStream (Uuid)
open Buckets

/-- The identity of a gate: its workflow instance and its edge. -/
abbrev GateKey := Uuid × Uuid

/-- One dispatched gate.  The registration numbers the entries; no code reads
it. -/
structure Gate where
  registration : Nat
  (workflowInstanceId edgeId : Uuid)
  signalName : String
  predicate : Option JsonPath
  capturesSpec : List CaptureDeclaration
  deriving DecidableEq

def Gate.key (gate : Gate) : GateKey := (gate.workflowInstanceId, gate.edgeId)

/-- The three maps behind the lock. -/
structure GateMaps where
  byGate : GateKey → Option Gate
  byName : Buckets String GateKey
  byInstance : Buckets Uuid Uuid

namespace GateMaps

/-- The reverse maps say what the gate map says. -/
structure Agrees (maps : GateMaps) : Prop where
  keyed : ∀ key gate, maps.byGate key = some gate → gate.key = key
  named : ∀ name key, key ∈ bucket name maps.byName ↔
    ∃ gate, maps.byGate key = some gate ∧ gate.signalName = name
  namedOnce : ∀ name, (bucket name maps.byName).Nodup
  instanced : ∀ inst edge, edge ∈ bucket inst maps.byInstance ↔
    (maps.byGate (inst, edge)).isSome = true
  instancedOnce : ∀ inst, (bucket inst maps.byInstance).Nodup
  noneEmptyByName : NoneEmpty maps.byName
  noneEmptyByInstance : NoneEmpty maps.byInstance

def empty : GateMaps := ⟨fun _ => none, Buckets.empty, Buckets.empty⟩

def remove (key : GateKey) (maps : GateMaps) : GateMaps :=
  match maps.byGate key with
  | none => maps
  | some previous =>
    { byGate := Function.update maps.byGate key none
      byName := retain previous.signalName (fun other => other ≠ key) maps.byName
      byInstance := retain key.1 (fun edge => edge ≠ key.2) maps.byInstance }

def insert (gate : Gate) (maps : GateMaps) : GateMaps where
  byGate := Function.update maps.byGate gate.key (some gate)
  byName := push gate.signalName gate.key maps.byName
  byInstance := push gate.workflowInstanceId gate.edgeId maps.byInstance

theorem agrees_empty : empty.Agrees where
  keyed := by
    intro _ _ found
    cases found
  named := by simp [empty]
  namedOnce := by simp [empty]
  instanced := by simp [empty]
  instancedOnce := by simp [empty]
  noneEmptyByName := noneEmpty_empty
  noneEmptyByInstance := noneEmpty_empty

variable {maps : GateMaps} {key other : GateKey} {gate : Gate}

theorem byGate_remove_self : (maps.remove key).byGate key = none := by
  unfold remove
  cases found : maps.byGate key with
  | none => exact found
  | some => simp

theorem byGate_remove_of_ne (ne : other ≠ key) :
    (maps.remove key).byGate other = maps.byGate other := by
  unfold remove
  cases maps.byGate key with
  | none => rfl
  | some => simp [Function.update_of_ne ne]

theorem byGate_of_remove (found : (maps.remove key).byGate other = some gate) :
    maps.byGate other = some gate ∧ other ≠ key := by
  by_cases same : other = key
  · subst same
    rw [byGate_remove_self] at found
    cases found
  · rw [byGate_remove_of_ne same] at found
    exact ⟨found, same⟩

theorem byGate_insert_self : (maps.insert gate).byGate gate.key = some gate := by
  simp [insert]

theorem byGate_insert_of_ne (ne : other ≠ gate.key) :
    (maps.insert gate).byGate other = maps.byGate other := by
  simp [insert, Function.update_of_ne ne]

theorem Agrees.remove (agrees : maps.Agrees) (key : GateKey) : (maps.remove key).Agrees := by
  cases found : maps.byGate key with
  | none =>
    have same : maps.remove key = maps := by
      unfold GateMaps.remove
      rw [found]
    rw [same]
    exact agrees
  | some previous =>
    have byName : (maps.remove key).byName =
        retain previous.signalName (fun other => other ≠ key) maps.byName := by
      unfold GateMaps.remove
      rw [found]
    have byInstance : (maps.remove key).byInstance =
        retain key.1 (fun edge => edge ≠ key.2) maps.byInstance := by
      unfold GateMaps.remove
      rw [found]
    refine
      { keyed := fun other gate isGate =>
          agrees.keyed other gate (byGate_of_remove isGate).1
        named := ?_
        namedOnce := ?_
        instanced := ?_
        instancedOnce := ?_
        noneEmptyByName := byName ▸ agrees.noneEmptyByName.retain
        noneEmptyByInstance := byInstance ▸ agrees.noneEmptyByInstance.retain }
    · intro _ other
      rw [byName, mem_bucket_retain, agrees.named]
      by_cases same : other = key
      · subst same
        rw [byGate_remove_self, found]
        simp [eq_comm]
      · rw [byGate_remove_of_ne same]
        simp [same]
    · rw [byName]
      exact nodup_bucket_retain agrees.namedOnce
    · intro inst edge
      rw [byInstance, mem_bucket_retain, agrees.instanced]
      by_cases same : (inst, edge) = key
      · subst same
        rw [byGate_remove_self]
        simp
      · have otherEdge : inst = key.1 → edge ≠ key.2 := by
          intro sameInstance sameEdge
          exact same (Prod.ext sameInstance sameEdge)
        rw [byGate_remove_of_ne same]
        simpa using fun _ => otherEdge
    · rw [byInstance]
      exact nodup_bucket_retain agrees.instancedOnce

theorem Agrees.insert (agrees : maps.Agrees)
    (free : maps.byGate gate.key = none) : (maps.insert gate).Agrees := by
  have notNamed : gate.key ∉ bucket gate.signalName maps.byName := by
    rw [agrees.named, free]
    simp
  have notInstanced : gate.edgeId ∉ bucket gate.workflowInstanceId maps.byInstance := by
    rw [agrees.instanced]
    change ¬(maps.byGate gate.key).isSome = true
    simp [free]
  refine
    { keyed := ?_
      named := ?_
      namedOnce := nodup_bucket_push agrees.namedOnce notNamed
      instanced := ?_
      instancedOnce := nodup_bucket_push agrees.instancedOnce notInstanced
      noneEmptyByName := agrees.noneEmptyByName.push
      noneEmptyByInstance := agrees.noneEmptyByInstance.push }
  · intro other found hit
    by_cases same : other = gate.key
    · subst same
      rw [byGate_insert_self] at hit
      cases hit
      rfl
    · rw [byGate_insert_of_ne same] at hit
      exact agrees.keyed other found hit
  · intro _ other
    rw [show (maps.insert gate).byName =
      push gate.signalName gate.key maps.byName from rfl, mem_bucket_push,
      agrees.named]
    by_cases same : other = gate.key
    · subst same
      rw [byGate_insert_self, free]
      simp [eq_comm]
    · rw [byGate_insert_of_ne same]
      simp [same]
  · intro inst edge
    rw [show (maps.insert gate).byInstance =
      push gate.workflowInstanceId gate.edgeId maps.byInstance from rfl,
      mem_bucket_push, agrees.instanced]
    by_cases same : (inst, edge) = gate.key
    · rw [same, byGate_insert_self]
      have sameInstance : inst = gate.workflowInstanceId := congrArg Prod.fst same
      have sameEdge : edge = gate.edgeId := congrArg Prod.snd same
      simp [sameInstance, sameEdge]
    · have otherEdge : inst = gate.workflowInstanceId → edge ≠ gate.edgeId := by
        intro sameInstance sameEdge
        exact same (Prod.ext sameInstance sameEdge)
      rw [byGate_insert_of_ne same]
      simpa using fun sameInstance sameEdge =>
        absurd sameEdge (otherEdge sameInstance)

end GateMaps

structure GateIndex extends GateMaps where
  agrees : toGateMaps.Agrees

namespace GateIndex

def new : GateIndex := ⟨GateMaps.empty, GateMaps.agrees_empty⟩

/-- `unregister`: take out one gate, whatever its registration. -/
def unregister (workflowInstanceId edgeId : Uuid) (index : GateIndex) :
    GateIndex := ⟨index.toGateMaps.remove (workflowInstanceId, edgeId), index.agrees.remove _⟩

/-- Put a gate in the place of the one with its identity. -/
def replace (gate : Gate) (index : GateIndex) : GateIndex :=
  ⟨(index.toGateMaps.remove gate.key).insert gate,
    (index.agrees.remove gate.key).insert GateMaps.byGate_remove_self⟩

/-- A gate as the server dispatches it. -/
structure Precondition where
  (workflowInstanceId edgeId : Uuid)
  signalName : String
  predicate : Option String
  capturesSpec : List CaptureDeclaration
  deriving DecidableEq

/-- The entry made for a dispatched gate, or why its predicate cannot be
used. -/
def entryOf (paths : JsonPaths) (registration : Nat)
    (precondition : Precondition) : Except String Gate :=
  match precondition.predicate with
  | none => .ok ⟨registration, precondition.workflowInstanceId,
      precondition.edgeId, precondition.signalName, none,
      precondition.capturesSpec⟩
  | some raw =>
    match paths.parse raw with
    | .error message => .error message
    | .ok path => .ok ⟨registration, precondition.workflowInstanceId,
        precondition.edgeId, precondition.signalName, some path,
        precondition.capturesSpec⟩

def lookupBySignalName (name : String) (index : GateIndex) : List Gate :=
  (bucket name index.byName).filterMap index.byGate

variable {index : GateIndex} {gate other : Gate} {key : GateKey} {name : String}

theorem mem_lookupBySignalName :
    gate ∈ index.lookupBySignalName name ↔
      index.byGate gate.key = some gate ∧ gate.signalName = name := by
  unfold lookupBySignalName
  rw [List.mem_filterMap]
  constructor
  · intro ⟨key, mem, found⟩
    obtain ⟨_, isNamed, hasName⟩ := (index.agrees.named name key).mp mem
    rw [found] at isNamed
    cases isNamed
    rw [index.agrees.keyed key gate found]
    exact ⟨found, hasName⟩
  · intro ⟨found, hasName⟩
    exact ⟨gate.key, (index.agrees.named name gate.key).mpr ⟨gate, found, hasName⟩, found⟩

theorem nodup_lookupBySignalName (index : GateIndex) (name : String) :
    (index.lookupBySignalName name).Nodup := by
  apply List.Nodup.filterMap _ (index.agrees.namedOnce name)
  intro left right gate leftFound found
  have leftKey := index.agrees.keyed left gate leftFound
  have rightKey := index.agrees.keyed right gate found
  exact leftKey.symm.trans rightKey

theorem registration_entryOf (made : entryOf paths registration needs = .ok gate) :
    gate.registration = registration := by
  unfold entryOf at made
  cases raw : needs.predicate with
  | none =>
    rw [raw] at made
    cases made
    rfl
  | some text =>
    rw [raw] at made
    cases parsed : paths.parse text with
    | error => simp [parsed] at made
    | ok =>
      simp only [parsed] at made
      cases made
      rfl

/-- After a registration, a gate in the index is the new one or was there. -/
theorem byGate_of_replace (found : (index.replace other).byGate key = some gate) :
    gate = other ∨ index.byGate key = some gate := by
  by_cases same : key = other.key
  · subst same
    rw [show (index.replace other).byGate other.key = some other from
      GateMaps.byGate_insert_self] at found
    cases found
    exact .inl rfl
  · rw [show (index.replace other).byGate key = (index.toGateMaps.remove other.key).byGate key from
      GateMaps.byGate_insert_of_ne same] at found
    exact .inr (GateMaps.byGate_of_remove found).1

end GateIndex

end Tickr.Signals
