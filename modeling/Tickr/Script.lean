import Mathlib.Algebra.BigOperators.Group.Finset.Piecewise
import Mathlib.Algebra.Order.BigOperators.Group.Finset
import Mathlib.Algebra.Order.Pi

/-!
# Atomic scripts and their counters

A store that runs one script at a time is a function from an operation and a
state to a reply and a state.  Its counters are totals over records.
-/

namespace Tickr.Script

variable {σ Op Reply : Type} (perform : Op → σ → Reply × σ)

/-- The state after the operations, one after the other. -/
def run : List Op → σ → σ
  | [], state => state
  | op :: rest, state => run rest (perform op state).2

/-- Every operation meets the condition in the state that it finds. -/
def Meets (condition : Op → σ → Prop) : List Op → σ → Prop
  | [], _ => True
  | op :: rest, state => condition op state ∧ Meets condition rest (perform op state).2

instance Meets.decidable (condition : Op → σ → Prop) [∀ op state, Decidable (condition op state)] :
    ∀ ops state, Decidable (Meets perform condition ops state)
  | [], _ => isTrue trivial
  | op :: rest, state =>
    have := Meets.decidable condition rest (perform op state).2
    inferInstanceAs (Decidable (_ ∧ _))

variable {perform} {condition : Op → σ → Prop} {inv : σ → Prop} {ops : List Op} {state : σ}

theorem meets_true (ops : List Op) (state : σ) : Meets perform (fun _ _ => True) ops state := by
  induction ops generalizing state with
  | nil => trivial
  | cons _ _ ih => exact ⟨trivial, ih _⟩

theorem Meets.mono {other : Op → σ → Prop} (meets : Meets perform condition ops state)
    (implies : ∀ op state, condition op state → other op state) : Meets perform other ops state := by
  induction ops generalizing state with
  | nil => trivial
  | cons op _ ih => exact ⟨implies op state meets.1, ih meets.2⟩

/-- What every step keeps holds after every run. -/
theorem run_keeps (keeps : ∀ op state, condition op state → inv state → inv (perform op state).2)
    (meets : Meets perform condition ops state) (holds : inv state) :
    inv (run perform ops state) := by
  induction ops generalizing state with
  | nil => exact holds
  | cons op _ ih => exact ih meets.2 (keeps op state meets.1 holds)

variable {κ ρ M : Type} [AddCommGroup M] {charge : ρ → M} {records : κ → ρ} {total : M}

/-- The total is the sum of the charges of the records, of which only finitely
many are charged for. -/
def Exact (charge : ρ → M) (records : κ → ρ) (total : M) : Prop :=
  ∃ keys : Finset κ, (∀ key ∉ keys, charge (records key) = 0) ∧
    total = ∑ key ∈ keys, charge (records key)

theorem exact_zero (free : ∀ key, charge (records key) = 0) : Exact charge records 0 :=
  ⟨∅, fun key _ => free key, rfl⟩

variable (exact : Exact charge records total)
include exact

theorem Exact.congr {other : ρ → M}
    (same : ∀ key, charge (records key) = other (records key)) : Exact other records total := by
  simpa only [Exact, same] using exact

/-- A record is replaced and the total adjusted by the difference. -/
theorem Exact.update [DecidableEq κ] {key : κ} {record : ρ}
    {delta : M} (balanced : charge record = charge (records key) + delta) :
    Exact charge (Function.update records key record) (total + delta) := by
  obtain ⟨keys, free, isTotal⟩ := exact
  have mem := Finset.mem_insert_self key keys
  refine ⟨insert key keys, ?_, ?_⟩
  · intro other beyond
    rw [Finset.mem_insert, not_or] at beyond
    rw [Function.update_of_ne beyond.1]
    exact free other beyond.2
  · have widened : total = ∑ other ∈ insert key keys, charge (records other) := by
      rw [isTotal]
      exact (Finset.sum_insert_of_eq_zero_if_notMem (free key)).symm
    have replaced : ∀ other, charge (Function.update records key record other) =
        Function.update (fun other => charge (records other)) key (charge record) other := by
      intro other
      exact Function.apply_update (fun _ => charge) records key record other
    rw [Finset.sum_congr rfl fun other _ => replaced other, Finset.sum_update_of_mem mem,
      widened, ← Finset.add_sum_erase _ _ mem, Finset.sdiff_singleton_eq_erase, balanced]
    exact add_right_comm _ _ _

theorem Exact.nonneg [PartialOrder M] [IsOrderedAddMonoid M]
    (charged : ∀ key, 0 ≤ charge (records key)) : 0 ≤ total := by
  obtain ⟨_, _, isTotal⟩ := exact
  rw [isTotal]
  exact Finset.sum_nonneg fun key _ => charged key

omit exact

end Tickr.Script
