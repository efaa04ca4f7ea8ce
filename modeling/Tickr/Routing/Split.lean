import Tickr.Json
import Tickr.LogStream.State

/-!
# Splitting emitted outputs into routing variables

The declared names of a bag of emitted values are cast onto scalar routing values,
all or nothing: one value that cannot be cast drops them all.
-/

namespace Tickr.Routing

open LogStream (Uuid)
open Rust (BTreeMap getElem?_insert_of_ne)

variable {name : String} {value : Json}

structure RoutingVarDecl where
  name : String
  varType : Option String
  deriving DecidableEq

inductive RoutingValue where
  | stringValue (value : String)
  | intValue (value : Int)
  | boolValue (value : Bool)
  | bytesValue (value : List UInt8)
  | unset
  deriving DecidableEq

def RoutingValue.json : RoutingValue → Option Json
  | .stringValue value => some (.string value)
  | .intValue value => some (.integer value)
  | .boolValue value => some (.bool value)
  | .bytesValue _ => none
  | .unset => none

/-- The closed scalar type tag that declarations use. -/
def routingValueTypeTag : RoutingValue → String
  | .stringValue _ => "string"
  | .intValue _ => "int"
  | .boolValue _ => "bool"
  | .bytesValue _ => "bytes"
  | .unset => "unknown"

inductive SplitError where
  | typeMismatch (name declaredType actualType : String)
  | unsupportedShape (name message : String)

def asI64 (value : Int) : Option Int :=
  if -2 ^ 63 ≤ value ∧ value < 2 ^ 63 then some value else none

def jsonToRoutingValue (name : String) : Json → Except SplitError RoutingValue
  | .string text => .ok (.stringValue text)
  | .bool value => .ok (.boolValue value)
  | .integer value =>
    match asI64 value with
    | some value => .ok (.intValue value)
    | none => .error (.unsupportedShape name
        "non-integer numbers are not supported (floats break Eq + Hash)")
  | .float _ => .error (.unsupportedShape name
      "non-integer numbers are not supported (floats break Eq + Hash)")
  | .null | .array _ | .object _ => .error (.unsupportedShape name
      "supported scalars are strings, integers, and booleans")

variable {cast : RoutingValue}

theorem json_of_jsonToRoutingValue (casts : jsonToRoutingValue name value = .ok cast) :
    cast.json = some value := by
  cases value with
  | string | bool =>
    cases casts
    rfl
  | integer value =>
    simp only [jsonToRoutingValue, asI64] at casts
    by_cases small : -2 ^ 63 ≤ value ∧ value < 2 ^ 63
    · rw [if_pos small] at casts
      cases casts
      rfl
    · rw [if_neg small] at casts
      cases casts
  | _ => cases casts

structure SplitOutput where
  routingVars : BTreeMap String RoutingValue
  ctxOnly : BTreeMap String Json

/-- The declarations by name; of two with one name the map keeps the later. -/
def byName (declared : List RoutingVarDecl) (name : String) :
    Option RoutingVarDecl := declared.reverse.find? fun spec => spec.name == name

/-- A declared value is cast and held against its declared type. -/
def castDeclared (spec : RoutingVarDecl) (name : String) (value : Json) :
    Except SplitError RoutingValue := do
  let cast ← jsonToRoutingValue name value
  match spec.varType with
  | some declaredType =>
    if routingValueTypeTag cast ≠ declaredType then
      .error (.typeMismatch name declaredType (routingValueTypeTag cast))
    else .ok cast
  | none => .ok cast

/-- One turn of the loop over the emitted outputs. -/
def splitOne (declared : List RoutingVarDecl) (out : SplitOutput)
    (output : String × Json) : Except SplitError SplitOutput :=
  match byName declared output.1 with
  | some spec =>
    match castDeclared spec output.1 output.2 with
    | .ok cast => .ok { out with routingVars := out.routingVars.insert output.1 cast }
    | .error fault => .error fault
  | none => .ok { out with ctxOnly := out.ctxOnly.insert output.1 output.2 }

def split (declared : List RoutingVarDecl) (outputs : BTreeMap String Json) :
    Except SplitError SplitOutput := outputs.toList.foldlM (splitOne declared) ⟨∅, ∅⟩

structure DroppedDeclared where
  dropped : List String
  source : SplitError

def stampRoutingVariables (declared : List RoutingVarDecl) (emitted : BTreeMap String Json) :
    Except DroppedDeclared (BTreeMap String RoutingValue) :=
  match split declared emitted with
  | .ok out => .ok out.routingVars
  | .error source =>
    .error
      { dropped := (declared.filter fun spec => emitted.contains spec.name).map
          RoutingVarDecl.name
        source }

def Declares (declared : List RoutingVarDecl) (name : String) : Prop :=
  ∃ spec ∈ declared, spec.name = name

variable {declared : List RoutingVarDecl}

theorem exists_byName (declares : Declares declared name) :
    ∃ spec, byName declared name = some spec := by
  obtain ⟨spec, mem, named⟩ := declares
  have found : (byName declared name).isSome = true := by
    rw [byName, List.find?_isSome]
    exact ⟨spec, List.mem_reverse.mpr mem, by simpa using named⟩
  exact Option.isSome_iff_exists.mp found

theorem cast_of_castDeclared (casts : castDeclared spec name value = .ok cast) :
    jsonToRoutingValue name value = .ok cast := by
  obtain ⟨found, read, isCast⟩ := Rust.bind_eq_ok casts
  cases declaredType : spec.varType with
  | none =>
    rw [declaredType] at isCast
    exact read.trans isCast
  | some expected =>
    rw [declaredType] at isCast
    simp only at isCast
    by_cases ne : routingValueTypeTag found ≠ expected
    · rw [if_pos ne] at isCast
      cases isCast
    · rw [if_neg ne] at isCast
      exact read.trans isCast

variable {out next : SplitOutput} {output : String × Json}

theorem splitOne_other (ne : output.1 ≠ name)
    (splits : splitOne declared out output = .ok next) :
    next.routingVars[name]? = out.routingVars[name]? := by
  rw [splitOne] at splits
  cases spec : byName declared output.1 with
  | none =>
    rw [spec] at splits
    cases splits
    rfl
  | some found =>
    simp only [spec] at splits
    cases casts : castDeclared found output.1 output.2 with
    | error =>
      rw [casts] at splits
      cases splits
    | ok =>
      rw [casts] at splits
      cases splits
      exact getElem?_insert_of_ne _ _ ne

theorem splitOne_declared (declares : Declares declared output.1)
    (splits : splitOne declared out output = .ok next) :
    ∃ cast, jsonToRoutingValue output.1 output.2 = .ok cast ∧
      next.routingVars[output.1]? = some cast := by
  obtain ⟨spec, isSpec⟩ := exists_byName declares
  rw [splitOne, isSpec] at splits
  simp only at splits
  cases casts : castDeclared spec output.1 output.2 with
  | error =>
    rw [casts] at splits
    cases splits
  | ok cast =>
    rw [casts] at splits
    cases splits
    exact ⟨cast, cast_of_castDeclared casts, by simp⟩

variable {outputs : List (String × Json)}

theorem splitAll_other (absent : ∀ output ∈ outputs, output.1 ≠ name)
    (splits : outputs.foldlM (splitOne declared) out = .ok next) :
    next.routingVars[name]? = out.routingVars[name]? := by
  induction outputs generalizing out with
  | nil =>
    cases splits
    rfl
  | cons output _ ih =>
    obtain ⟨_, first, split⟩ := Rust.bind_eq_ok splits
    have later := ih (fun other mem => absent other (.tail _ mem)) split
    rw [later]
    exact splitOne_other (absent output (.head _)) first

theorem splitAll_declared (distinct : outputs.Pairwise fun prior later => prior.1 ≠ later.1)
    (emitted : (name, value) ∈ outputs) (declares : Declares declared name)
    (splits : outputs.foldlM (splitOne declared) out = .ok next) :
    ∃ cast, jsonToRoutingValue name value = .ok cast ∧ next.routingVars[name]? = some cast := by
  induction outputs generalizing out with
  | nil => cases emitted
  | cons _ _ ih =>
    obtain ⟨apart, restDistinct⟩ := List.pairwise_cons.mp distinct
    obtain ⟨_, first, split⟩ := Rust.bind_eq_ok splits
    rcases List.mem_cons.mp emitted with isFirst | isLater
    · subst isFirst
      obtain ⟨cast, casts, stamped⟩ := splitOne_declared declares first
      refine ⟨cast, casts, ?_⟩
      have kept := splitAll_other (fun other mem => .symm (apart other mem)) split
      rw [kept]
      exact stamped
    · exact ih restDistinct isLater split

theorem stampRoutingVariables_carries
    (stamps : stampRoutingVariables declared emitted = .ok stamped)
    (isEmitted : emitted[name]? = some value) (declares : Declares declared name) :
    (stamped[name]?).bind RoutingValue.json = some value := by
  rw [stampRoutingVariables] at stamps
  cases splits : split declared emitted with
  | error =>
    rw [splits] at stamps
    cases stamps
  | ok =>
    rw [splits] at stamps
    cases stamps
    have distinct : emitted.toList.Pairwise fun prior later => prior.1 ≠ later.1 := by
      refine List.Pairwise.imp ?_ Std.ExtTreeMap.distinct_keys_toList
      intro _ _ apart equal
      apply apart
      rw [equal]
      exact Std.ReflCmp.compare_self
    have listed : (name, value) ∈ emitted.toList :=
      Std.ExtTreeMap.mem_toList_iff_getElem?_eq_some.mpr isEmitted
    obtain ⟨_, casts, isStamped⟩ := splitAll_declared distinct listed declares splits
    rw [isStamped]
    exact json_of_jsonToRoutingValue casts

end Tickr.Routing
