import Tickr.Closure
import Tickr.Routing.GraphMirror

/-!
# Seeding the graph of a replay

What the resume set leads to runs again; the rest keeps how it ended.
-/

namespace Tickr.Seeding

open Closure
open LogStream (Uuid)

inductive GroundState where
  | pending | success | failed | cancelled
  deriving DecidableEq

inductive GateState where
  | idle | dispatched | satisfied (signalId : String) | rejected | cancelled

structure RunnableNode where
  id : String
  nodeType : GraphMirror.NodeType
  ground : GroundState
  groundedAt : Option String

structure RunnableEdge where
  (sources targets : List String)
  /-- The runtime states of the gates. -/
  gates : List (Option (Option GateState))

structure RunnableGraph where
  nodes : List RunnableNode
  edges : List RunnableEdge

variable (parse : String → Option Uuid) (text : Uuid → String) (graph : RunnableGraph)
  (resumeFrom : List Uuid)

/-- Every source of an edge points at every target of it. -/
def outgoingAdjacency : List (String × String) :=
  graph.edges.flatMap fun edge => edge.sources ×ˢ edge.targets

def forwardClosure (seeds : List String) : Finset String :=
  search (outgoingAdjacency graph) ∅ seeds.reverse

def RunnableNode.reset (node : RunnableNode) : RunnableNode :=
  { node with
    ground := .pending
    groundedAt := none }

def RunnableEdge.rearm (edge : RunnableEdge) : RunnableEdge :=
  { edge with gates := edge.gates.map fun _ => some (some .idle) }

def buildSeededGraph : RunnableGraph × List Uuid :=
  let closure := forwardClosure graph (resumeFrom.map text)
  let nodes := graph.nodes.map fun node => if node.id ∈ closure then node.reset else node
  let edges := graph.edges.map fun edge =>
    if edge.targets.any (· ∈ closure) then edge.rearm else edge
  let preGrounded := (nodes.filter fun node =>
    node.nodeType matches .task && node.ground ≠ .pending).filterMap fun node => parse node.id
  (⟨nodes, edges⟩, preGrounded.insertionSort (· ≤ ·))

def Points (source target : String) : Prop :=
  ∃ edge ∈ graph.edges, source ∈ edge.sources ∧ target ∈ edge.targets

/-- Some root of the resume set leads to the node. -/
def Reruns (id : String) : Prop :=
  ∃ root ∈ resumeFrom, Relation.ReflTransGen (Points graph) (text root) id

theorem mem_forwardClosure {id : String} : id ∈ forwardClosure graph (resumeFrom.map text) ↔
    Reruns text graph resumeFrom id := by
  have leads : Leads (outgoingAdjacency graph) = Points graph := by
    ext source target
    simp [Leads, successors, outgoingAdjacency, Points]
  rw [forwardClosure, mem_search (by simp [Covered]), leads]
  simp [Reruns]

open Classical in
/-- The nodes that the resume set leads to are reset, and the gates of the edges
into them re-armed; nothing else changes.  The pre-grounded list has the other
grounded tasks whose ids are UUIDs, in order. -/
theorem seeding_resets_closure (graph : RunnableGraph) :
    let (seeded, preGrounded) := buildSeededGraph parse text graph resumeFrom
    let reruns := Reruns text graph resumeFrom
    seeded.nodes = graph.nodes.map (fun node => if reruns node.id then node.reset else node) ∧
    seeded.edges = graph.edges.map (fun edge =>
      if ∃ target ∈ edge.targets, reruns target then edge.rearm else edge) ∧
    preGrounded.Pairwise (· ≤ ·) ∧
    preGrounded.Perm ((graph.nodes.filter fun node => node.nodeType matches .task ∧
      node.ground ≠ .pending ∧ ¬ reruns node.id).filterMap fun node => parse node.id) := by
  refine ⟨by simp [mem_forwardClosure], by simp [mem_forwardClosure],
    List.pairwise_insertionSort _ _, (List.perm_insertionSort _ _).trans (.of_eq ?_)⟩
  simp only [mem_forwardClosure, List.filter_map, List.filterMap_map]
  rw [List.filter_congr, List.filterMap_congr]
  all_goals
    intro node _
    by_cases again : Reruns text graph resumeFrom node.id <;> simp [again, RunnableNode.reset]

end Tickr.Seeding
