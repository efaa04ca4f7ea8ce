import Tickr.Pickup.Records
import Tickr.Signals.Captures

/-!
# Captures of a parsed workflow

The parser ends with the captures of the workflow and with its trigger.  The
steps before, from the JSON to the sealed graph, are a parameter.
-/

namespace Tickr.Parser

open Signals (JsonPaths CaptureDeclaration)

structure ParsedCaptureDeclaration where
  (name jsonpath : String)

def ParsedCaptureDeclaration.toProtoCapture (capture : ParsedCaptureDeclaration) :
    CaptureDeclaration :=
  ⟨capture.name, some capture.jsonpath⟩

inductive ParsedTriggerConfig where
  | cron (expr : String)
  | fireNow
  | waitsOnSignal (signalName : String) (predicate : Option String)
      (captures : List ParsedCaptureDeclaration)

/-- A workflow as it is written; `body` is what the steps before read. -/
structure ParsedWorkflow (β : Type) where
  name : String
  body : β
  captures : List ParsedCaptureDeclaration
  triggerOn : Option ParsedTriggerConfig

structure TaskDefinition where
  name : String
  outputs : List String

inductive Trigger where
  | cron (expr : String)
  | fireNow
  | waitsOnSignal (signalName : String) (predicate : Option String)
      (captures : List CaptureDeclaration)

def Trigger.captures : Trigger → List CaptureDeclaration
  | waitsOnSignal _ _ captures => captures
  | _ => []

structure WorkflowDefinition where
  tasks : List TaskDefinition
  captures : List CaptureDeclaration
  trigger : Trigger

/-- What the captures are checked with, and the steps before them. -/
structure Steps (β : Type) where
  paths : JsonPaths
  assemble : ParsedWorkflow β → Except String (List TaskDefinition)

variable (paths : JsonPaths) (outputs : List String)

/-- The loop over the captures, after the names already seen. -/
def validateCaptures (seen : List String) : List CaptureDeclaration → Except String Unit
  | [] => .ok ()
  | capture :: rest =>
    if capture.name ∈ seen then
      .error ("duplicate capture declaration `" ++ capture.name ++ "`")
    else if capture.name ∈ outputs then
      .error ("capture declaration `" ++ capture.name ++ "` conflicts with a task output")
    else
      match capture.jsonpath with
      | none => .error ("capture declaration `" ++ capture.name ++ "` has no trigger source")
      | some jsonpath =>
        match paths.parse jsonpath with
        | .error error =>
          .error ("capture `" ++ capture.name ++ "` has invalid JSONPath: " ++ error)
        | .ok _ => validateCaptures (capture.name :: seen) rest

def validateCapturesWithOutputs (captures : List CaptureDeclaration)
    (tasks : List TaskDefinition) : Except String Unit :=
  validateCaptures paths (tasks.flatMap TaskDefinition.outputs) [] captures

variable {β : Type} (steps : Steps β) (workflow : ParsedWorkflow β)

def buildTrigger (tasks : List TaskDefinition) : Except String Trigger :=
  match workflow.triggerOn with
  | some (.cron expr) => .ok (.cron expr)
  | some .fireNow | none => .ok .fireNow
  | some (.waitsOnSignal signalName predicate captures) =>
    if signalName.toList.all Pickup.isTrimmed then
      .error ("`triggerOn = \x7b kind = \"waits-on-signal\" \x7d` requires a `signal` reference: " ++
        "`signal = mkSignal \x7b name = ... \x7d` did not resolve")
    else
      match predicate.map steps.paths.parse with
      | some (.error error) =>
        .error ("`triggerOn.predicate` for workflow `" ++ workflow.name ++
          "` is not a valid JSONPath filter: " ++ error)
      | _ =>
        let lowered := captures.map (·.toProtoCapture)
        (validateCapturesWithOutputs steps.paths lowered tasks).map fun _ =>
          .waitsOnSignal signalName predicate lowered

def parseWorkflow : Except String WorkflowDefinition :=
  (steps.assemble workflow).bind fun tasks =>
    (buildTrigger steps workflow tasks).map fun trigger =>
      ⟨tasks, workflow.captures.map (·.toProtoCapture), trigger⟩

/-- The source is a path that parses. -/
def Parses (capture : CaptureDeclaration) : Prop :=
  ∃ jsonpath path, capture.jsonpath = some jsonpath ∧ paths.parse jsonpath = .ok path

/-- The names are distinct and no output of a task, and the paths parse. -/
structure Distinct (tasks : List TaskDefinition) (captures : List CaptureDeclaration) : Prop where
  names : (captures.map CaptureDeclaration.name).Nodup
  apart : ∀ capture ∈ captures, ∀ task ∈ tasks, capture.name ∉ task.outputs
  parse : ∀ capture ∈ captures, Parses paths capture

variable {paths outputs steps workflow} {tasks : List TaskDefinition}
  {captures : List CaptureDeclaration}

theorem validateCaptures_ok (valid : validateCaptures paths outputs seen captures = .ok ()) :
    (captures.map CaptureDeclaration.name).Nodup ∧
      ∀ capture ∈ captures,
        capture.name ∉ seen ∧ capture.name ∉ outputs ∧ Parses paths capture := by
  induction captures generalizing seen with
  | nil => simp
  | cons capture rest ih =>
    rw [validateCaptures] at valid
    split_ifs at valid with isSeen output
    split at valid
    · cases valid
    rename_i jsonpath isPath
    split at valid
    · cases valid
    rename_i path parses
    obtain ⟨distinct, others⟩ := ih valid
    constructor
    · rw [List.map_cons, List.nodup_cons, List.mem_map]
      refine ⟨?_, distinct⟩
      rintro ⟨other, ne, same⟩
      exact (others other ne).1 (by simp [same])
    · refine List.forall_mem_cons.mpr ⟨⟨isSeen, output, jsonpath, path, isPath, parses⟩, ?_⟩
      intro other ne
      obtain ⟨unseen, apart⟩ := others other ne
      exact ⟨fun wasSeen => unseen (.tail _ wasSeen), apart⟩

theorem distinct_of_validated (valid : validateCapturesWithOutputs paths captures tasks = .ok ()) :
    Distinct paths tasks captures := by
  obtain ⟨names, others⟩ := validateCaptures_ok valid
  refine ⟨names, ?_, fun capture mem => (others capture mem).2.2⟩
  intro capture mem task isTask output
  exact (others capture mem).2.1 (List.mem_flatMap.mpr ⟨task, isTask, output⟩)

theorem distinct_of_trigger (built : buildTrigger steps workflow tasks = .ok trigger) :
    Distinct steps.paths tasks trigger.captures := by
  have none : Distinct steps.paths tasks [] := by constructor <;> simp
  rw [buildTrigger] at built
  split at built
  · cases built
    exact none
  · cases built
    exact none
  · cases built
    exact none
  rename_i captures _
  split_ifs at built
  split at built
  · cases built
  cases valid : validateCapturesWithOutputs steps.paths
      (captures.map (·.toProtoCapture)) tasks with
  | error => simp [valid, Except.map] at built
  | ok =>
    simp only [valid, Except.map, Except.ok.injEq] at built
    subst built
    exact distinct_of_validated valid

/-- Every path parses, and the body is the list of tasks. -/
def plainSteps : Steps (List TaskDefinition) where
  paths := ⟨.ok, fun _ _ => []⟩
  assemble := fun workflow => .ok workflow.body

def mailWorkflow (captures : List ParsedCaptureDeclaration) :
    ParsedWorkflow (List TaskDefinition) :=
  ⟨"mail", [⟨"send", ["receipt"]⟩], captures,
    some (.waitsOnSignal "mailed" none [⟨"user", "$.user"⟩])⟩

end Tickr.Parser
