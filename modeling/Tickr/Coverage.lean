import Mathlib.Data.Set.Pairwise.Basic
import Mathlib.Order.Bounds.Basic

/-!
# Contiguous coverage by disjoint blocks

The frontier of a family of blocks is where a walk from zero, from the end of
one block to the start of the next, finds no block to continue with.  When the
blocks are pairwise apart, the numbers below it are covered and it is not.
-/

namespace Tickr.Coverage

/-- A nonempty run of consecutive numbers. -/
structure Block where
  (first last : Nat)
  ordered : first ≤ last
  deriving DecidableEq

def Block.Contains (block : Block) (number : Nat) : Prop :=
  block.first ≤ number ∧ number ≤ block.last

/-- One of the two blocks ends before the other starts. -/
def Block.Apart (left right : Block) : Prop := left.last < right.first ∨ right.last < left.first

theorem Block.Apart.not_contains {left right : Block} {number : Nat} (apart : left.Apart right)
    (inLeft : left.Contains number) :
    ¬ right.Contains number := by
  intro inRight
  obtain ⟨_, _⟩ := inLeft
  obtain ⟨_, _⟩ := inRight
  rcases apart with _ | _
  · omega
  · omega

/-- Some block of the family contains the number. -/
def Covered (blocks : Set Block) (number : Nat) : Prop := ∃ block ∈ blocks, block.Contains number

/-- Every number below `bound` lies in a block that ends below `bound`. -/
def Tiled (blocks : Set Block) (bound : Nat) : Prop :=
  ∀ number, number < bound → ∃ block ∈ blocks, block.Contains number ∧ block.last < bound

/-- The walk from zero stops at `bound`: everything below is tiled and no
block starts there. -/
structure IsFrontier (blocks : Set Block) (bound : Nat) : Prop where
  tiled : Tiled blocks bound
  open_ : ∀ block ∈ blocks, block.first ≠ bound

variable {blocks larger : Set Block} {bound other : Nat}

theorem tiled_zero (blocks : Set Block) : Tiled blocks 0 := by
  intro _ _
  omega

variable (tiled : Tiled blocks bound)
include tiled

theorem Tiled.mono (included : blocks ⊆ larger) : Tiled larger bound := by
  intro number below
  obtain ⟨block, mem, contains, ends⟩ := tiled number below
  exact ⟨block, included mem, contains, ends⟩

/-- One turn of the walk: a block that starts at the bound moves it past the
end of the block. -/
theorem Tiled.extend {block : Block} (mem : block ∈ blocks) (starts : block.first = bound) :
    Tiled blocks (block.last + 1) := by
  intro number _
  by_cases prior : number < bound
  · obtain ⟨covering, member, contains, _⟩ := tiled number prior
    have ordered := block.ordered
    exact ⟨covering, member, contains, by omega⟩
  · exact ⟨block, mem, ⟨by omega, by omega⟩, by omega⟩

theorem Tiled.covered {number : Nat} (below : number < bound) : Covered blocks number := by
  obtain ⟨block, mem, contains, _⟩ := tiled number below
  exact ⟨block, mem, contains⟩

variable (apart : blocks.Pairwise Block.Apart)
include apart

/-- A block of a pairwise apart family never straddles a tiled bound. -/
theorem Tiled.below_or_above
    {block : Block} (mem : block ∈ blocks) :
    block.last < bound ∨ bound ≤ block.first := by
  by_cases starts : block.first < bound
  · obtain ⟨covering, member, contains, ends⟩ := tiled block.first starts
    by_cases same : covering = block
    · subst same
      exact .inl ends
    · exact absurd ⟨le_rfl, block.ordered⟩ ((apart member mem same).not_contains contains)
  · exact .inr (by omega)

omit tiled

variable (frontier : IsFrontier blocks bound)
include frontier

/-- Where the walk stops, nothing is covered. -/
theorem IsFrontier.not_covered : ¬ Covered blocks bound := by
  rintro ⟨block, mem, _, _⟩
  have starts := frontier.open_ block mem
  rcases frontier.tiled.below_or_above apart mem with _ | _
  · omega
  · omega

/-- A prefix of the numbers is covered exactly when it ends below the
frontier. -/
theorem IsFrontier.prefix_covered_iff (top : Nat) :
    (∀ number, number ≤ top → Covered blocks number) ↔ top < bound := by
  constructor
  · intro covered
    by_contra beyond
    exact frontier.not_covered apart (covered bound (by omega))
  · intro _ _ _
    exact frontier.tiled.covered (by omega)

omit apart

/-- The frontier is a function of the covered numbers alone. -/
theorem IsFrontier.unique
    (otherFrontier : IsFrontier larger other) (apart : blocks.Pairwise Block.Apart)
    (otherApart : larger.Pairwise Block.Apart)
    (same : ∀ number, Covered blocks number ↔ Covered larger number) :
    bound = other := by
  rcases Nat.lt_trichotomy bound other with before | equal | after
  · exact absurd ((same bound).mpr (otherFrontier.tiled.covered before))
      (frontier.not_covered apart)
  · exact equal
  · exact absurd ((same other).mp (frontier.tiled.covered after))
      (otherFrontier.not_covered otherApart)

omit frontier

end Tickr.Coverage
