import Tickr.Json
import Tickr.LogStream.State
import Tickr.Script

/-!
# The graph mirror of a run

The conductor writes a run's task graph into its scope at a dispatch that finds
none there, and over what is there when a patch is reported as applied.  The
mirror of a run is the newest of its writes.
-/

namespace Tickr.GraphMirror

open LogStream (Uuid)
open Script

inductive NodeType where
  | start | end_ | task

inductive EdgeKind where
  | control | data | loop

structure Node where
  id : String
  nodeType : NodeType

structure Edge where
  id : String
  (sources targets : List String)
  kind : EdgeKind
  gates : List Json

structure TaskGraph where
  (start end_ : String)
  nodes : List Node
  edges : List Edge

structure WorkflowDefinition where
  workflowId : Uuid
  version : Nat
  taskGraph : Option TaskGraph

structure SnapshotNode where
  (code id kind : String)
  ground : String := "pending"
  groundedAt : Option String := none
  ghost : Bool := false
  preGrounded : Bool := false

structure SnapshotEdge where
  (code id : String)
  (sources targets : List String)
  kind : String
  gates : List Json

structure CtxGraphProjection where
  version : Nat
  (start end_ : String)
  nodes : List SnapshotNode
  edges : List SnapshotEdge

/-- What the conductor is deployed with: the texts of codes and gates, the reader
of relayed graphs, and the definition that each run was materialized from. -/
structure Deployment where
  identityCode : String → String
  gateView : Json → Json
  parseProjection : String → Option CtxGraphProjection
  materialized : Uuid → WorkflowDefinition

def nodeKind : NodeType → String
  | .start => "start"
  | .end_ => "end"
  | .task => "task"

def edgeKind : EdgeKind → String
  | .control => "control"
  | .data => "data"
  | .loop => "loop"

variable (setup : Deployment)

def ctxGraphProjectionFromDefinition (graph : TaskGraph) (version : Nat) : CtxGraphProjection where
  version := version
  start := graph.start
  end_ := graph.end_
  nodes := (graph.nodes.map fun node =>
    { code := setup.identityCode node.id, id := node.id
      kind := nodeKind node.nodeType }).insertionSort fun left right => left.id ≤ right.id
  edges := (graph.edges.map fun edge =>
    { code := setup.identityCode edge.id, id := edge.id
      sources := edge.sources.insertionSort (· ≤ ·)
      targets := edge.targets.insertionSort (· ≤ ·)
      kind := edgeKind edge.kind
      gates := edge.gates.map setup.gateView }).insertionSort fun left right =>
        left.id ≤ right.id

structure PatchOutcome where
  (patchKey workflowInstanceId : Uuid)
  applied : Bool
  reshapedGraphJson : Option String

structure PatchRow where
  workflowInstanceId : Uuid
  settled : Bool := false

inductive Origin where
  | definition
  | patch (outcome : PatchOutcome)

structure Write where
  run : Uuid
  projection : CtxGraphProjection
  origin : Origin

structure State where
  definitions : List WorkflowDefinition := []
  patches : Uuid → Option PatchRow := fun _ => none
  writes : List Write := []

namespace State

def mirror (state : State) (run : Uuid) : Option Write := state.writes.find? (·.run = run)

def latestWorkflowDefinition (state : State) (workflowId : Uuid) : Option WorkflowDefinition :=
  (state.definitions.filter (·.workflowId = workflowId)).argmax WorkflowDefinition.version

/-- A write of the mirror, unless the bucket refuses it. -/
def put (state : State) (lands : Bool) (write : Write) : State :=
  if lands then { state with writes := write :: state.writes } else state

end State

/-- A dispatch of a task of the run; `reads` and `lands` tell whether the bucket
and the definition store answer and the write arrives. -/
def mirrorCtxGraph (run : Uuid) (reads lands : Bool) (state : State) : State :=
  if !reads ∨ (state.mirror run).isSome then state
  else match state.latestWorkflowDefinition (setup.materialized run).workflowId with
    | none => state
    | some workflow => match workflow.taskGraph with
      | none => state
      | some graph =>
        state.put lands ⟨run, ctxGraphProjectionFromDefinition setup graph 0, .definition⟩

def correlateOutcome (outcome : PatchOutcome) (state : State) : Option State :=
  match state.patches outcome.patchKey with
  | some row =>
    if row.workflowInstanceId = outcome.workflowInstanceId ∧ !row.settled then
      some { state with
        patches := Function.update state.patches outcome.patchKey
          (some { row with settled := true }) }
    else none
  | none => none

def mirrorReshapedCtxGraph (outcome : PatchOutcome) (json : String) (lands : Bool)
    (state : State) : State :=
  match setup.parseProjection json with
  | none => state
  | some projection => state.put lands ⟨outcome.workflowInstanceId, projection, .patch outcome⟩

inductive Event where
  | register (definition : WorkflowDefinition)
  | submitPatch (patchKey workflowInstanceId : Uuid)
  | dispatch (run : Uuid) (reads lands : Bool)
  | patchOutcome (outcome : PatchOutcome) (lands : Bool)

def handle (event : Event) (state : State) : Unit × State :=
  ((), match event with
    | .register definition => { state with definitions := definition :: state.definitions }
    | .submitPatch patchKey run => { state with
        patches := Function.update state.patches patchKey
          ((state.patches patchKey).or (some ⟨run, false⟩)) }
    | .dispatch run reads lands => mirrorCtxGraph setup run reads lands state
    | .patchOutcome outcome lands =>
      match correlateOutcome outcome state with
      | none => state
      | some settled =>
        match outcome.applied, outcome.reshapedGraphJson with
        | true, some json => mirrorReshapedCtxGraph setup outcome json lands settled
        | _, _ => settled)

/-- The write shows the graph of the run's own definition, or the one relayed
with a patch that was applied to the run. -/
def Write.Genuine (write : Write) : Prop :=
  match write.origin with
  | .definition => ∃ graph, (setup.materialized write.run).taskGraph = some graph ∧
      write.projection = ctxGraphProjectionFromDefinition setup graph 0
  | .patch outcome => outcome.applied ∧ outcome.workflowInstanceId = write.run ∧
      ∃ json, outcome.reshapedGraphJson = some json ∧
        setup.parseProjection json = some write.projection

/-- A dispatch that finds no mirror finds the run's own definition as the latest
one. -/
def OwnLatest (event : Event) (state : State) : Prop :=
  match event with
  | .dispatch run _ _ => state.mirror run = none → ∀ workflow,
      state.latestWorkflowDefinition (setup.materialized run).workflowId = some workflow →
        workflow = setup.materialized run
  | _ => True

def State.Genuine (state : State) : Prop := ∀ write ∈ state.writes, write.Genuine setup

/-- No definition was written after a patch of the same run. -/
def State.PatchesLast (state : State) : Prop :=
  state.writes.Pairwise fun newer older =>
    newer.run = older.run → newer.origin = .definition → older.origin = .definition

variable {setup} {event : Event} {state : State}

/-- An event writes nothing, the latest definition's graph where the run has no
mirror, or the graph relayed with an applied patch. -/
theorem handle_writes :
    (handle setup event state).2.writes = state.writes ∨
      ∃ write, (handle setup event state).2.writes = write :: state.writes ∧
        (OwnLatest setup event state → write.Genuine setup) ∧
        (write.origin = .definition → state.mirror write.run = none) := by
  cases event with
  | register | submitPatch => exact .inl rfl
  | dispatch run reads lands =>
      dsimp only [handle, mirrorCtxGraph]
      split_ifs with skips
      · exact .inl rfl
      have absent : state.mirror run = none := by simpa using (not_or.mp skips).2
      split
      · exact .inl rfl
      split
      · exact .inl rfl
      rename_i flow latest _ graph hasGraph
      cases lands with
      | false => exact .inl rfl
      | true =>
          refine .inr ⟨_, rfl, fun own => ⟨graph, ?_, rfl⟩, fun _ => absent⟩
          rw [← own absent flow latest]
          exact hasGraph
  | patchOutcome outcome lands =>
      have settles : ∀ ends, correlateOutcome outcome state = some ends →
          ends.writes = state.writes := by
        intro _ correlates
        unfold correlateOutcome at correlates
        split at correlates
        · split_ifs at correlates
          cases correlates
          rfl
        · cases correlates
      dsimp only [handle]
      split
      · exact .inl rfl
      rename_i ends correlates
      have same := settles ends correlates
      split
      · rename_i json ran relayed
        unfold mirrorReshapedCtxGraph
        split
        · exact .inl same
        rename_i projection parsed
        cases lands with
        | false => exact .inl same
        | true =>
            refine .inr ⟨_, congrArg (List.cons _) same,
              fun _ => ⟨ran, rfl, json, relayed, parsed⟩, fun isDefinition => ?_⟩
            cases isDefinition
      · exact .inl same

/-- In every run whose dispatches, where they find no mirror, find the run's own
definition as the latest, a mirror shows that definition's graph or the one
relayed with an applied patch; and in every run no definition is written after a
patch. -/
theorem mirror_shows_own_graph (setup : Deployment) (events : List Event)
    (meets : Meets (handle setup) (OwnLatest setup) events {}) :
    (∀ instance_ write, (run (handle setup) events {}).mirror instance_ = some write →
      write.run = instance_ ∧ write.Genuine setup) ∧
    ∀ others, (run (handle setup) others {}).PatchesLast := by
  have genuine : State.Genuine setup (run (handle setup) events {}) := by
    refine run_keeps (fun event state own held => ?_) meets (List.forall_mem_nil _)
    unfold State.Genuine
    rcases handle_writes with same | ⟨_, added, shows, _⟩
    · rw [same]
      exact held
    · rw [added]
      exact List.forall_mem_cons.mpr ⟨shows own, held⟩
  refine ⟨fun instance_ write isMirror => ⟨?_, ?_⟩, fun others => ?_⟩
  · simpa using List.find?_some isMirror
  · exact genuine write (List.mem_of_find?_eq_some isMirror)
  · refine run_keeps (fun event state _ held => ?_) (meets_true others _) .nil
    unfold State.PatchesLast
    rcases handle_writes with same | ⟨_, added, _, absent⟩
    · rw [same]
      exact held
    · rw [added]
      refine List.pairwise_cons.mpr ⟨fun older isOlder sameRun definition => ?_, held⟩
      have other := List.find?_eq_none.mp (absent definition) older isOlder
      simp [sameRun] at other

def sampleGraph (start : String) : TaskGraph := ⟨start, "", [], []⟩

/-- Every run is of version 1. -/
def sampleDeployment : Deployment where
  identityCode := id
  gateView := id
  parseProjection := fun _ => none
  materialized := fun _ => ⟨0, 1, some (sampleGraph "one")⟩

theorem mirror_shows_own_graph_sample :
    let events := [.register ⟨0, 1, some (sampleGraph "one")⟩, .dispatch 7 true true]
    Meets (handle sampleDeployment) (OwnLatest sampleDeployment) events {} ∧
      ∃ write, (run (handle sampleDeployment) events {}).mirror 7 = some write ∧
        write.Genuine sampleDeployment := by
  intro events
  have meets : Meets (handle sampleDeployment) (OwnLatest sampleDeployment) events {} :=
    ⟨trivial, fun _ _ latest => (Option.some.inj latest).symm, trivial⟩
  exact ⟨meets, _, rfl, ((mirror_shows_own_graph _ events meets).1 7 _ rfl).2⟩

/-- The second version is registered before the run's first dispatch. -/
theorem mirror_of_later_version :
    ((run (handle sampleDeployment) [.register ⟨0, 1, some (sampleGraph "one")⟩,
        .register ⟨0, 2, some (sampleGraph "two")⟩, .dispatch 7 true true] {}).mirror 7).map
      (·.projection.start) = some "two" := by
  decide +kernel

end Tickr.GraphMirror
