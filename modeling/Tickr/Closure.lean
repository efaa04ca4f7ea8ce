import Mathlib.Data.Finset.Insert

/-!
# Searching along a list of pairs

What a search with a stack has seen at its end is what the pairs lead to.
-/

namespace Tickr.Closure

open Relation (ReflTransGen)

variable {α : Type} [DecidableEq α] {pairs : List (α × α)} {seen : Finset α} {stack : List α}
  {top first last element : α}

def successors (pairs : List (α × α)) (element : α) : List α :=
  (pairs.filter (·.1 = element)).map Prod.snd

@[grind =]
def Leads (pairs : List (α × α)) (first second : α) : Prop := second ∈ successors pairs first

theorem unseen_insert (isNew : top ∉ seen) :
    (pairs.filter (·.1 ∉ insert top seen)).length + (successors pairs top).length =
      (pairs.filter (·.1 ∉ seen)).length := by
  induction pairs with
  | nil => rfl
  | cons pair pairs ih => grind [successors]

/-- The search, with the top of the stack in front. -/
def search (pairs : List (α × α)) (seen : Finset α) : List α → Finset α
  | [] => seen
  | top :: rest =>
    if top ∈ seen then search pairs seen rest
    else
      let seen := insert top seen
      search pairs seen (((successors pairs top).filter (· ∉ seen)).reverse ++ rest)
  -- An element is expanded once, and puts no more on the stack than it has pairs.
  termination_by stack => (pairs.filter (·.1 ∉ seen)).length + stack.length
  decreasing_by
    · simp
    · grind [unseen_insert]

/-- Along the search, what is seen leads to what is seen or on the stack. -/
def Covered (pairs : List (α × α)) (seen : Finset α) (stack : List α) : Prop :=
  ∀ first ∈ seen, ∀ second, Leads pairs first second → second ∈ seen ∨ second ∈ stack

theorem Covered.reaches (covered : Covered pairs seen stack) (isSeen : first ∈ seen)
    (path : ReflTransGen (Leads pairs) first last) :
    last ∈ seen ∨ ∃ seed ∈ stack, ReflTransGen (Leads pairs) seed last := by
  induction path using ReflTransGen.head_induction_on with
  | refl => exact .inl isSeen
  | head leads path ih =>
    rcases covered _ isSeen _ leads with isNext | stacked
    · exact ih isNext
    · exact .inr ⟨_, stacked, path⟩

theorem mem_search (covered : Covered pairs seen stack) :
    element ∈ search pairs seen stack ↔
      element ∈ seen ∨ ∃ seed ∈ stack, ReflTransGen (Leads pairs) seed element := by
  fun_induction search with
  | case1 => simp
  | case2 seen top rest isSeen ih =>
    have onward : Covered pairs seen rest := by grind [Covered]
    have fromTop := @onward.reaches _ _ _ _ _ _ element isSeen
    grind
  | case3 seen top rest isNew next ih =>
    have onward : Covered pairs next
        (((successors pairs top).filter (· ∉ next)).reverse ++ rest) := by
      intro first isFirst second leads
      grind [Covered]
    have fromTop := @onward.reaches _ _ _ _ _ _ element (Finset.mem_insert_self _ _)
    have toNext : ∀ seed, Leads pairs top seed → ReflTransGen (Leads pairs) seed element →
        ReflTransGen (Leads pairs) top element := fun _ => .head
    grind

end Tickr.Closure
