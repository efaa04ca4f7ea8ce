import Mathlib

/-!
# The two parsers of durations

The conductor and the `tickr-ctx` command line read one grammar,
`<n>s | <n>m | <n>h | <n>`, each with a parser of its own.
-/

namespace Tickr.Durations

/-- Unicode `White_Space`, which `trim` drops at both ends. -/
def isWhitespace (c : Char) : Bool :=
  9 ≤ c.toNat && c.toNat ≤ 13 || 0x2000 ≤ c.toNat && c.toNat ≤ 0x200a ||
    [0x20, 0x85, 0xa0, 0x1680, 0x2028, 0x2029, 0x202f, 0x205f, 0x3000].contains c.toNat

def trim (text : List Char) : List Char :=
  ((text.dropWhile isWhitespace).reverse.dropWhile isWhitespace).reverse

/-- The ASCII digits that the trimmed text starts with, and what follows. -/
def digits (raw : String) : List Char := (trim raw.toList).takeWhile Char.isDigit

def unit (raw : String) : List Char := (trim raw.toList).dropWhile Char.isDigit

/-- `parse::<u64>` of a text of digits. -/
def parseU64 (text : List Char) : Option Nat :=
  let value := text.foldl (fun value c => 10 * value + (c.toNat - '0'.toNat)) 0
  if text.isEmpty ∨ 2 ^ 64 ≤ value then none else some value

inductive ParseDurationError where
  | empty
  | notANumber (raw : String)
  | overflow (raw : String)
  | nonPositive (raw : String)
  | unknownUnit (raw unit : String)
  deriving DecidableEq

def checkedMul (value factor : Nat) : Option Nat :=
  if value * factor < 2 ^ 64 then some (value * factor) else none

/-- `parse_duration` of the conductor, in seconds. -/
def parseDuration (raw : String) : Except ParseDurationError Nat :=
  if (trim raw.toList).isEmpty then .error .empty
  else if (digits raw).isEmpty then .error (.notANumber raw)
  else
    match parseU64 (digits raw) with
    | none => .error (.notANumber raw)
    | some value =>
      if value = 0 then .error (.nonPositive raw)
      else
        match unit raw with
        | [] | ['s'] => .ok value
        | ['m'] => (checkedMul value 60).elim (.error (.overflow raw)) .ok
        | ['h'] => (checkedMul value 3600).elim (.error (.overflow raw)) .ok
        | other => .error (.unknownUnit raw (String.ofList other))

/-- An overflowing product panics in a debug build and wraps in a release one. -/
inductive Build where
  | debug
  | release

def Build.mul (build : Build) (value factor : Nat) : Option Nat :=
  match checkedMul value factor, build with
  | some product, _ => some product
  | none, .debug => none
  | none, .release => some (value * factor % 2 ^ 64)

inductive CliError where
  | invalidDuration (text : String)
  | unknownUnit (unit : String)
  deriving DecidableEq

/-- `parse_duration` of the command line; nothing is returned by a panic. -/
def cliParseDuration (build : Build) (raw : String) : Option (Except CliError Nat) :=
  let rest := if (unit raw).isEmpty then ['s'] else unit raw
  match parseU64 (digits raw) with
  | none => some (.error (.invalidDuration (String.ofList (trim raw.toList))))
  | some value =>
    match rest with
    | [] | ['s'] => some (.ok value)
    | ['m'] => (build.mul value 60).map .ok
    | ['h'] => (build.mul value 3600).map .ok
    | other => some (.error (.unknownUnit (String.ofList other)))

theorem Build.mul_of_lt (fits : value * factor < 2 ^ 64) :
    checkedMul value factor = some (value * factor) ∧
      ∀ build : Build, build.mul value factor = some (value * factor) := by
  have checked : checkedMul value factor = some (value * factor) := if_pos fits
  exact ⟨checked, fun _ => by simp only [Build.mul, checked]⟩

end Tickr.Durations
