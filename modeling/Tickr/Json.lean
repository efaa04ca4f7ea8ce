import Mathlib.Logic.Basic

/-!
# JSON values

An object is the list of its members in the order of their keys, so equal
objects are equal values.
-/

namespace Tickr

inductive Json where
  | null
  | bool (value : Bool)
  | integer (value : Int)
  | float (text : String)
  | string (text : String)
  | array (items : List Json)
  | object (members : List (String × Json))

namespace Json

mutual

/-- Equality of values, as a test. -/
def same : Json → Json → Bool
  | .null, .null => true
  | .bool left, .bool right => left == right
  | .integer left, .integer right => left == right
  | .float left, .float right => left == right
  | .string left, .string right => left == right
  | .array left, .array right => sameItems left right
  | .object left, .object right => sameMembers left right
  | _, _ => false

def sameItems : List Json → List Json → Bool
  | [], [] => true
  | left :: lefts, right :: rights => same left right && sameItems lefts rights
  | _, _ => false

def sameMembers : List (String × Json) → List (String × Json) → Bool
  | [], [] => true
  | (leftKey, left) :: lefts, (rightKey, right) :: rights =>
    leftKey == rightKey && (same left right && sameMembers lefts rights)
  | _, _ => false

end

mutual

theorem same_iff : (left right : Json) → (same left right = true ↔ left = right)
  | .array left, right => by
      cases right with
      | array right => simp [same, sameItems_iff left right]
      | _ => simp [same]
  | .object left, right => by
      cases right with
      | object right => simp [same, sameMembers_iff left right]
      | _ => simp [same]
  | .null, right => by cases right <;> simp [same]
  | .bool _, right => by cases right <;> simp [same]
  | .integer _, right => by cases right <;> simp [same]
  | .float _, right => by cases right <;> simp [same]
  | .string _, right => by cases right <;> simp [same]

theorem sameItems_iff :
    (left right : List Json) → (sameItems left right = true ↔ left = right)
  | [], right => by cases right <;> simp [sameItems]
  | left :: lefts, right => by
      cases right with
      | nil => simp [sameItems]
      | cons right rights => simp [sameItems, same_iff left right, sameItems_iff lefts rights]

theorem sameMembers_iff :
    (left right : List (String × Json)) → (sameMembers left right = true ↔ left = right)
  | [], right => by cases right <;> simp [sameMembers]
  | (leftKey, left) :: lefts, right => by
      cases right with
      | nil => simp [sameMembers]
      | cons right rights =>
        obtain ⟨rightKey, right⟩ := right
        simp [sameMembers, same_iff left right, sameMembers_iff lefts rights, and_assoc]

end

instance : DecidableEq Json := fun left right =>
  decidable_of_iff (same left right = true) (same_iff left right)

example : Json.object [("a", .array [.null])] ≠ .object [("a", .array [])] := by
  decide

end Json

end Tickr
