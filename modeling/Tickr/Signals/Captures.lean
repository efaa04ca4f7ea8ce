import Tickr.Json
import Tickr.LogStream.State

/-!
# Event variables captured from a payload

A capture is a name and a JSON path into the payload of a signal.  Extraction
gives each an envelope, also when the path finds nothing.
-/

namespace Tickr.Signals

open LogStream (Uuid)

/-- A JSON path, as the text it was parsed from. -/
abbrev JsonPath := String

structure JsonPaths where
  parse : String → Except String JsonPath
  query : JsonPath → Json → List Json

/-- A predicate holds when its filter finds the payload, which is put into an
array of its own for the filter to run over. -/
def evaluate (paths : JsonPaths) (path : JsonPath) (payload : Json) : Bool :=
  !(paths.query path (.array [payload])).isEmpty

/-- A subscription or a gate without a predicate takes every payload. -/
def predicateMatches (paths : JsonPaths) (predicate : Option JsonPath) (payload : Json) : Bool :=
  match predicate with
  | some path => evaluate paths path payload
  | none => true

/-- A declared capture; the trigger source with its path may be missing. -/
structure CaptureDeclaration where
  name : String
  jsonpath : Option String
  deriving DecidableEq

inductive EnvelopeKind where
  | string
  | bool
  | int
  | float
  | json
  deriving DecidableEq

inductive SignalSource where
  | manual
  | externalNats (subject : String)
  | wakeup (name : String)
  deriving DecidableEq

/-- What a task reads from an envelope. -/
structure Content where
  kind : EnvelopeKind
  value : Json
  present : Bool
  deriving DecidableEq

structure Envelope where
  content : Content
  signalId : Uuid
  source : SignalSource
  createdAt : Int
  deriving DecidableEq

structure NamedEnvelope where
  name : String
  envelope : Envelope
  deriving DecidableEq

structure ExtractionError where
  (name jsonpath message : String)

def classify : Json → EnvelopeKind
  | .string _ => .string
  | .bool _ => .bool
  | .integer _ => .int
  | .float _ => .float
  | .null | .object _ | .array _ => .json

/-- The content of a query's result; finding nothing is a content too. -/
def contentOf : Option Json → Content
  | some value => ⟨classify value, value, true⟩
  | none => ⟨.json, .null, false⟩

/-- What one declaration extracts from a payload. -/
def CaptureDeclaration.extract (paths : JsonPaths) (payload : Json)
    (declaration : CaptureDeclaration) : Except ExtractionError Content :=
  match declaration.jsonpath with
  | none => .error ⟨declaration.name, "", "capture declaration is missing its trigger source"⟩
  | some jsonpath =>
    match paths.parse jsonpath with
    | .error message => .error ⟨declaration.name, jsonpath, message⟩
    | .ok path => .ok (contentOf (paths.query path payload).head?)

/-- The captures of a payload, up to the first declaration that fails. -/
def extractCaptures (paths : JsonPaths) (payload : Json) (signalId : Uuid)
    (source : SignalSource) (now : Int) :
    List CaptureDeclaration → Except ExtractionError (List NamedEnvelope)
  | [] => .ok []
  | declaration :: rest =>
    match declaration.extract paths payload with
    | .error error => .error error
    | .ok content =>
      match extractCaptures paths payload signalId source now rest with
      | .error error => .error error
      | .ok others => .ok (⟨declaration.name, content, signalId, source, now⟩ :: others)

/-- What the declarations of a workflow or gate say about a payload, by the
name of the capture. -/
def demands (paths : JsonPaths) (payload : Json)
    (declarations : List CaptureDeclaration) : List (String × Content) :=
  declarations.filterMap fun declaration =>
    match declaration.extract paths payload with
    | .ok content => some (declaration.name, content)
    | .error _ => none

theorem demands_of_extractCaptures
    (worked : extractCaptures paths payload signalId source now declarations = .ok taken) :
    demands paths payload declarations = taken.map fun capture =>
        (capture.name, capture.envelope.content) := by
  induction declarations generalizing taken with
  | nil =>
    cases worked
    rfl
  | cons declaration rest ih =>
    rw [extractCaptures] at worked
    cases takes : declaration.extract paths payload with
    | error =>
      rw [takes] at worked
      cases worked
    | ok =>
      rw [takes] at worked
      cases restExtracted : extractCaptures paths payload signalId source now rest with
      | error =>
        rw [restExtracted] at worked
        cases worked
      | ok =>
        rw [restExtracted] at worked
        cases worked
        have restDemands := ih restExtracted
        unfold demands at restDemands ⊢
        rw [List.filterMap_cons, takes, restDemands]
        rfl

end Tickr.Signals
