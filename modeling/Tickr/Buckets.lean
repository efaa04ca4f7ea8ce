import Mathlib.Data.List.Nodup
import Mathlib.Logic.Function.Basic

/-!
# Maps of buckets

Each key has a bucket of values, as reverse indices have.  A bucket that becomes
empty is taken out of the map.
-/

namespace Tickr

open Function

abbrev Buckets (κ α : Type) := κ → Option (List α)

namespace Buckets

variable {κ α : Type}

def empty : Buckets κ α := fun _ => none

def bucket (key : κ) (buckets : Buckets κ α) : List α := (buckets key).getD []

def NoneEmpty (buckets : Buckets κ α) : Prop := ∀ key, buckets key ≠ some []

@[simp]
theorem bucket_empty {key : κ} : bucket key (empty : Buckets κ α) = [] := rfl

theorem noneEmpty_empty : NoneEmpty (empty : Buckets κ α) := by
  intro _ equal
  cases equal

variable [DecidableEq κ]

def push (key : κ) (value : α) (buckets : Buckets κ α) : Buckets κ α :=
  update buckets key (some (bucket key buckets ++ [value]))

/-- Keep only the values of a bucket that pass the test. -/
def retain (key : κ) (test : α → Bool) (buckets : Buckets κ α) : Buckets κ α :=
  match buckets key with
  | none => buckets
  | some values =>
    update buckets key
      (if (values.filter test).isEmpty then none
        else some (values.filter test))

variable {key other : κ} {value : α} {test : α → Bool} {buckets : Buckets κ α}

theorem bucket_push (other : κ) :
    bucket other (push key value buckets) =
      bucket other buckets ++ if other = key then [value] else [] := by
  by_cases same : other = key
  · subst same
    simp [bucket, push]
  · simp [bucket, push, same]

theorem bucket_retain (other : κ) :
    bucket other (retain key test buckets) =
      if other = key then (bucket other buckets).filter test
        else bucket other buckets := by
  unfold retain
  cases found : buckets key with
  | none =>
    by_cases same : other = key
    · subst same
      simp [bucket, found]
    · simp [same]
  | some values =>
    by_cases same : other = key
    · subst same
      by_cases isEmpty : (values.filter test).isEmpty = true
      · have nothing : values.filter test = [] := List.isEmpty_iff.mp isEmpty
        simp [bucket, found, nothing]
      · simp only [bucket, found, if_neg isEmpty, update_self, Option.getD_some, if_true]
    · simp [bucket, same]

theorem mem_bucket_push {item : α} :
    item ∈ bucket other (push key value buckets) ↔
      item ∈ bucket other buckets ∨ other = key ∧ item = value := by
  rw [bucket_push]
  by_cases same : other = key
  · simp [same]
  · simp [same]

theorem mem_bucket_retain {item : α} :
    item ∈ bucket other (retain key test buckets) ↔
      item ∈ bucket other buckets ∧ (other = key → test item = true) := by
  rw [bucket_retain]
  by_cases same : other = key
  · simp [same]
  · simp [same]

theorem nodup_bucket_push (nodup : ∀ other, (bucket other buckets).Nodup)
    (new : value ∉ bucket key buckets) (other : κ) :
    (bucket other (push key value buckets)).Nodup := by
  rw [bucket_push]
  by_cases same : other = key
  · subst same
    rw [if_pos rfl]
    refine List.nodup_append.mpr ⟨nodup other, List.nodup_singleton _, ?_⟩
    intro _ mem _ isLast equal
    rw [List.mem_singleton] at isLast
    rw [equal, isLast] at mem
    exact new mem
  · rw [if_neg same, List.append_nil]
    exact nodup other

theorem nodup_bucket_retain (nodup : ∀ other, (bucket other buckets).Nodup)
    (other : κ) : (bucket other (retain key test buckets)).Nodup := by
  rw [bucket_retain]
  by_cases same : other = key
  · rw [if_pos same]
    exact (nodup other).filter _
  · rw [if_neg same]
    exact nodup other

theorem NoneEmpty.push (held : NoneEmpty buckets) : NoneEmpty (push key value buckets) := by
  intro other
  by_cases same : other = key
  · subst same
    simp [Buckets.push]
  · simp only [Buckets.push, update_of_ne same]
    exact held other

theorem NoneEmpty.retain (held : NoneEmpty buckets) : NoneEmpty (retain key test buckets) := by
  unfold Buckets.retain
  cases found : buckets key with
  | none => exact held
  | some values =>
    intro other
    by_cases same : other = key
    · subst same
      simp only [update_self]
      by_cases isEmpty : (values.filter test).isEmpty = true
      · simp [isEmpty]
      · simp only [if_neg isEmpty]
        intro equal
        exact isEmpty (List.isEmpty_iff.mpr (Option.some.inj equal))
    · simp only [update_of_ne same]
      exact held other

end Buckets

end Tickr
