import Mathlib

/-!
# Rust primitives used by the model

Checked and plain `u64` addition, panics as values, and the range queries of an
ordered map, which is Lean's extensional tree map.
-/

namespace Tickr.Rust

open Std

/-- A thread panic, kept as a value so that its absence can be proved. -/
inductive Panic where
  | addOverflow
  | expected (message : String)
  | outOfFuel
  deriving DecidableEq

/-- `u64::checked_add`. -/
def checkedAdd (left right : UInt64) : Option UInt64 :=
  if left.toNat + right.toNat < 2 ^ 64 then some (left + right) else none

/-- The `?` operator: a chain succeeds when its first step and the rest do. -/
theorem bind_eq_ok {ε α β : Type} {first : Except ε α} {rest : α → Except ε β} {result : β}
    (works : first >>= rest = .ok result) :
    ∃ value, first = .ok value ∧ rest value = .ok result := by
  cases first with
  | error => cases works
  | ok value => exact ⟨value, rfl, works⟩

theorem mem_of_mapM {α β ε : Type} {f : α → Except ε β} {items : List α}
    {results : List β} (isOk : items.mapM f = .ok results) {result : β} :
    result ∈ results ↔ ∃ item ∈ items, f item = .ok result := by
  induction items generalizing results with
  | nil =>
    cases isOk
    simp
  | cons _ _ ih =>
    rw [List.mapM_cons] at isOk
    obtain ⟨_, first, isRest⟩ := bind_eq_ok isOk
    obtain ⟨_, remaining, all⟩ := bind_eq_ok isRest
    rw [← Except.ok.inj all, List.mem_cons, ih remaining, List.exists_mem_cons_iff, first]
    constructor
    · rintro (isHead | isRest)
      · exact .inl (by rw [isHead])
      · exact .inr isRest
    · rintro (isHead | isRest)
      · exact .inl (Except.ok.inj isHead).symm
      · exact .inr isRest

/-- The `+` operator on `u64`, which panics on overflow. -/
def plainAdd (left right : UInt64) : Except Panic UInt64 :=
  match checkedAdd left right with
  | some sum => .ok sum
  | none => .error .addOverflow

theorem toNat_lt_size (value : UInt64) : value.toNat < 2 ^ 64 := UInt64.toNat_lt value

theorem eq_of_toNat_eq {left right : UInt64} (same : left.toNat = right.toNat) : left = right :=
  UInt64.toNat.inj same

theorem checkedAdd_eq_some_iff {left right sum : UInt64} :
    checkedAdd left right = some sum ↔ sum.toNat = left.toNat + right.toNat := by
  unfold checkedAdd
  have bound := toNat_lt_size sum
  split
  · rename_i fits
    rw [Option.some_inj, ← UInt64.toNat_inj, UInt64.toNat_add, Nat.mod_eq_of_lt fits, eq_comm]
  · simp only [reduceCtorEq, false_iff]
    omega

theorem checkedAdd_eq_none_iff {left right : UInt64} :
    checkedAdd left right = none ↔ 2 ^ 64 ≤ left.toNat + right.toNat := by
  simp [checkedAdd]

theorem checkedAdd_one_eq_some {value next : UInt64} (worked : checkedAdd value 1 = some next) :
    next.toNat = value.toNat + 1 := checkedAdd_eq_some_iff.mp worked

theorem checkedAdd_one_eq_none {value : UInt64} (failed : checkedAdd value 1 = none) :
    value.toNat + 1 = 2 ^ 64 := by
  have bound := toNat_lt_size value
  have overflows := checkedAdd_eq_none_iff.mp failed
  have one : (1 : UInt64).toNat = 1 := rfl
  omega

theorem plainAdd_one_of_lt {value : UInt64} (fits : value.toNat + 1 < 2 ^ 64) :
    ∃ next, plainAdd value 1 = .ok next ∧ next.toNat = value.toNat + 1 := by
  unfold plainAdd
  cases checked : checkedAdd value 1 with
  | none =>
    have overflow := checkedAdd_one_eq_none checked
    omega
  | some next => exact ⟨next, rfl, checkedAdd_one_eq_some checked⟩

theorem max_eq_ite (left right : UInt64) : max left right = if left ≤ right then right else left :=
  rfl

instance lawfulOrderMaxUInt64 : LawfulOrderMax UInt64 where
  max_eq_or := by
    intro _ _
    rw [max_eq_ite]
    split
    · exact .inr rfl
    · exact .inl rfl
  max_le_iff := by
    intro _ _ _
    rw [max_eq_ite]
    split <;> rename_i order <;>
      simp only [UInt64.le_iff_toNat_le] at order ⊢ <;> omega

variable {κ α : Type} [Ord κ] [TransOrd κ] [LawfulEqOrd κ]

/-- `BTreeMap`, with extensional equality. -/
abbrev BTreeMap (κ α : Type) [Ord κ] := ExtTreeMap κ α compare

theorem getElem?_insert_of_ne (map : BTreeMap κ α) {key other : κ}
    (value : α) (ne : key ≠ other) :
    (map.insert key value)[other]? = map[other]? := by
  rw [ExtTreeMap.getElem?_insert, if_neg]
  exact fun equal => ne (LawfulEqOrd.eq_of_compare equal)

theorem getElem?_insert_eq_some (map : BTreeMap κ α) {key other : κ} {value found : α} :
    (map.insert key value)[other]? = some found ↔
      (key = other ∧ value = found) ∨ (key ≠ other ∧ map[other]? = some found) := by
  by_cases same : key = other
  · subst same
    simp
  · simp [getElem?_insert_of_ne map value same, same]

variable {map : BTreeMap κ α}

theorem getElem?_filter_eq_some {keep : κ → α → Bool} {key : κ} {found : α} :
    (map.filter keep)[key]? = some found ↔ map[key]? = some found ∧ keep key found = true := by
  rw [ExtTreeMap.getElem?_filter', Option.filter_eq_some_iff]

/-- `map.values()`, by increasing key. -/
def values (map : BTreeMap κ α) : List α := map.toList.map Prod.snd

theorem mem_values_iff {value : α} : value ∈ values map ↔ ∃ key : κ, map[key]? = some value := by
  rw [values, List.mem_map]
  constructor
  · rintro ⟨⟨key, _⟩, listed, rfl⟩
    exact ⟨key, ExtTreeMap.mem_toList_iff_getElem?_eq_some.mp listed⟩
  · rintro ⟨key, bound⟩
    exact ⟨(key, value), ExtTreeMap.mem_toList_iff_getElem?_eq_some.mpr bound, rfl⟩

variable (map : BTreeMap UInt64 α)

/-- `map.range(..=key).next_back()`. -/
def lastAtMost (key : UInt64) : Option (UInt64 × α) :=
  (map.toList.filter fun entry => decide (entry.1 ≤ key)).getLast?

/-- `map.range(first..=last).next().is_some()`. -/
def anyInRange (first last : UInt64) : Bool :=
  map.toList.any fun entry =>
    decide (first ≤ entry.1) && decide (entry.1 ≤ last)

/-- The entries of a map keyed by `u64` are listed by increasing key. -/
theorem toList_pairwise_lt : map.toList.Pairwise fun left right => left.1.toNat < right.1.toNat :=
  ExtTreeMap.ordered_keys_toList.imp (compare_eq_lt.trans UInt64.lt_iff_toNat_lt).mp

variable {map : BTreeMap UInt64 α}

/-- Values that know their key are listed once. -/
theorem values_nodup {keyOf : α → UInt64}
    (keyed : ∀ (key : UInt64) (value : α), map[key]? = some value →
      keyOf value = key) : (values map).Nodup := by
  unfold values
  rw [List.nodup_iff_pairwise_ne, List.pairwise_map]
  apply (toList_pairwise_lt map).imp_of_mem
  intro left right leftMember mem ordered same
  have leftKey := keyed left.1 left.2 (ExtTreeMap.mem_toList_iff_getElem?_eq_some.mp leftMember)
  have rightKey := keyed right.1 right.2 (ExtTreeMap.mem_toList_iff_getElem?_eq_some.mp mem)
  rw [← leftKey, ← rightKey, same] at ordered
  exact Nat.lt_irrefl _ ordered

/-- The query finds the binding of the greatest key not above the bound. -/
theorem lastAtMost_eq_some {key found : UInt64}
    {value : α} (query : lastAtMost map key = some (found, value)) :
    map[found]? = some value ∧ found.toNat ≤ key.toNat ∧
      ∀ (other : UInt64) (candidate : α), map[other]? = some candidate →
        other.toNat ≤ key.toNat → other.toNat ≤ found.toNat := by
  obtain ⟨prior, split⟩ := List.getLast?_eq_some_iff.mp query
  have foundMember : (found, value) ∈ map.toList.filter fun entry => decide (entry.1 ≤ key) := by
    rw [split]
    simp
  obtain ⟨listed, atMost⟩ := List.mem_filter.mp foundMember
  refine ⟨ExtTreeMap.mem_toList_iff_getElem?_eq_some.mp listed,
    UInt64.le_iff_toNat_le.mp (of_decide_eq_true atMost), ?_⟩
  intro other candidate bound otherAtMost
  have mem : (other, candidate) ∈ map.toList.filter fun entry => decide (entry.1 ≤ key) :=
    List.mem_filter.mpr
      ⟨ExtTreeMap.mem_toList_iff_getElem?_eq_some.mpr bound,
        decide_eq_true (UInt64.le_iff_toNat_le.mpr otherAtMost)⟩
  have ordered :
      (prior ++ [(found, value)]).Pairwise fun left right => left.1.toNat < right.1.toNat := by
    rw [← split]
    exact (toList_pairwise_lt map).filter _
  rw [split] at mem
  rcases List.mem_append.mp mem with before | last
  · have order := (List.pairwise_append.mp ordered).2.2
      (other, candidate) before (found, value) (by simp)
    exact Nat.le_of_lt order
  · simp only [List.mem_singleton, Prod.mk.injEq] at last
    exact Nat.le_of_eq (congrArg UInt64.toNat last.1)

/-- Without a result, every key lies above the bound. -/
theorem lastAtMost_eq_none {key : UInt64}
    (query : lastAtMost map key = none) {other : UInt64} {candidate : α}
    (bound : map[other]? = some candidate) :
    key.toNat < other.toNat := by
  by_contra above
  have mem : (other, candidate) ∈ map.toList.filter fun entry => decide (entry.1 ≤ key) :=
    List.mem_filter.mpr
      ⟨ExtTreeMap.mem_toList_iff_getElem?_eq_some.mpr bound,
        decide_eq_true (UInt64.le_iff_toNat_le.mpr (Nat.not_lt.mp above))⟩
  rw [List.getLast?_eq_none_iff.mp query] at mem
  exact List.not_mem_nil mem

theorem anyInRange_eq_true {first last : UInt64} :
    anyInRange map first last = true ↔
      ∃ (key : UInt64) (value : α), map[key]? = some value ∧
        first.toNat ≤ key.toNat ∧ key.toNat ≤ last.toNat := by
  simp [anyInRange, UInt64.le_iff_toNat_le]

end Tickr.Rust
