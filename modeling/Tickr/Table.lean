import Mathlib.Data.List.Nodup
import Mathlib.Data.List.Count

/-!
# Tables of rows

A table is the list of its rows in the order of their insertion.  A column is a
key of the table when no two rows agree on it.
-/

namespace Tickr.Table

variable {ρ κ : Type} {selects : ρ → Bool}

def updateWhere (selects : ρ → Bool) (change : ρ → ρ) (rows : List ρ) : List ρ :=
  rows.map fun row => if selects row then change row else row

def affected (selects : ρ → Bool) (rows : List ρ) : Nat := rows.countP selects

/-- Change the selected rows in place, or append a row when there are none. -/
def upsert (selects : ρ → Bool) (change : ρ → ρ) (row : ρ) (rows : List ρ) : List ρ :=
  if rows.any selects then updateWhere selects change rows else rows ++ [row]

/-- No two rows agree on the column. -/
def Keyed (column : ρ → κ) (rows : List ρ) : Prop := (rows.map column).Nodup

variable {change : ρ → ρ} {rows : List ρ} {row : ρ} {inserted : ρ}

theorem mem_append_row : row ∈ rows ++ [inserted] ↔ row ∈ rows ∨ row = inserted := by
  rw [List.mem_append, List.mem_singleton]

theorem mem_updateWhere :
    row ∈ updateWhere selects change rows ↔
      ∃ old ∈ rows, (if selects old then change old else old) = row := by
  exact List.mem_map

theorem mem_updateWhere_of_not (mem : row ∈ rows) (picked : selects row = false) :
    row ∈ updateWhere selects change rows := by
  rw [mem_updateWhere]
  refine ⟨row, mem, ?_⟩
  rw [picked]
  rfl

/-- A row that is selected is there as changed. -/
theorem mem_updateWhere_of (mem : row ∈ rows) (picked : selects row = true) :
    change row ∈ updateWhere selects change rows := by
  rw [mem_updateWhere]
  refine ⟨row, mem, ?_⟩
  rw [picked]
  rfl

/-- A column that the change leaves as it is. -/
theorem map_updateWhere {column : ρ → κ} (keeps : ∀ row, column (change row) = column row) :
    (updateWhere selects change rows).map column = rows.map column := by
  unfold updateWhere
  rw [List.map_map]
  apply List.map_congr_left
  intro row _
  by_cases picked : selects row = true
  · simp only [Function.comp, if_pos picked, keeps]
  · simp only [Function.comp, if_neg picked]

/-- Tables with equal columns have rows for each other's rows. -/
theorem exists_mem_of_map_eq {column : ρ → κ} {others : List ρ}
    (same : rows.map column = others.map column) (mem : row ∈ rows) :
    ∃ other ∈ others, column other = column row := by
  have mapped := List.mem_map_of_mem (f := column) mem
  rw [same] at mapped
  exact List.mem_map.mp mapped

/-- Columns that are equal stay equal when some of them are cleared. -/
theorem map_eq_of_factor {coarse fine : ρ → ρ} {others : List ρ}
    (same : rows.map fine = others.map fine) (factors : ∀ row, coarse (fine row) = coarse row) :
    rows.map coarse = others.map coarse := by
  have empty := congrArg (List.map coarse) same
  simp only [List.map_map, Function.comp_def, factors] at empty
  exact empty

/-- When every selected row changes to the same one, an upsert leaves that row
and the rows that are not selected. -/
theorem mem_upsert (changes : ∀ row, selects row = true → change row = inserted) :
    row ∈ upsert selects change inserted rows ↔
      row = inserted ∨ row ∈ rows ∧ selects row = false := by
  unfold upsert
  by_cases any : rows.any selects = true
  · rw [if_pos any, mem_updateWhere]
    constructor
    · intro ⟨old, mem, isRow⟩
      by_cases picked : selects old = true
      · rw [if_pos picked, changes old picked] at isRow
        exact .inl isRow.symm
      · rw [if_neg picked] at isRow
        rw [← isRow]
        exact .inr ⟨mem, by simpa using picked⟩
    · intro new
      rcases new with inserts | ⟨mem, notSelected⟩
      · obtain ⟨old, mem, picked⟩ := List.any_eq_true.mp any
        refine ⟨old, mem, ?_⟩
        rw [if_pos picked, changes old picked, inserts]
      · exact ⟨row, mem, by simp [notSelected]⟩
  · rw [if_neg any, List.mem_append, List.mem_singleton]
    have noneSelected : ∀ kept ∈ rows, selects kept = false := by simpa using any
    constructor
    · intro new
      rcases new with mem | inserts
      · exact .inr ⟨mem, noneSelected row mem⟩
      · exact .inl inserts
    · intro new
      rcases new with inserts | ⟨mem, _⟩
      · exact .inr inserts
      · exact .inl mem

variable {column : ρ → κ} {first second : ρ}

theorem keyed_nil : Keyed column [] := List.nodup_nil

theorem keyed_map {σ : Type} {rows : List σ} {change : σ → ρ} :
    Keyed column (rows.map change) ↔ Keyed (column ∘ change) rows := by
  unfold Keyed
  rw [List.map_map]

variable (unique : Keyed column rows)
include unique

theorem Keyed.eq (isFirst : first ∈ rows)
    (isSecond : second ∈ rows) (same : column first = column second) :
    first = second := List.inj_on_of_nodup_map unique isFirst isSecond same

theorem Keyed.find [DecidableEq κ] (mem : row ∈ rows) :
    rows.find? (fun kept => column kept = column row) = some row := by
  cases found : rows.find? (fun kept => column kept = column row) with
  | none =>
    have notFound := List.find?_eq_none.mp found row mem
    simp at notFound
  | some =>
    have same := List.find?_some found
    rw [unique.eq (List.mem_of_find?_eq_some found) mem (of_decide_eq_true same)]

theorem Keyed.append (fresh : ∀ held ∈ rows, column held ≠ column row) :
    Keyed column (rows ++ [row]) := by
  unfold Keyed at unique ⊢
  rw [List.map_append]
  apply List.Nodup.append unique (List.nodup_singleton _)
  intro _ kept new
  rw [List.mem_singleton] at new
  obtain ⟨held, mem, valued⟩ := List.mem_map.mp kept
  exact fresh held mem (valued.trans new)

theorem Keyed.update {change : ρ → ρ} (keeps : ∀ row, column (change row) = column row) :
    Keyed column (updateWhere selects change rows) := by
  unfold Keyed at unique ⊢
  rw [map_updateWhere keeps]
  exact unique

/-- An upsert that selects by the key keeps it a key. -/
theorem Keyed.upsert {change : ρ → ρ} (keeps : ∀ row, column (change row) = column row)
    (byKey : ∀ kept, column kept = column row → selects kept = true) :
    Keyed column (Table.upsert selects change row rows) := by
  unfold Table.upsert
  by_cases any : rows.any selects = true
  · rw [if_pos any]
    exact unique.update keeps
  rw [if_neg any]
  apply unique.append
  intro kept mem same
  exact any (List.any_eq_true.mpr ⟨kept, mem, byKey kept same⟩)

theorem Keyed.filter (keeps : ρ → Bool) : Keyed column (rows.filter keeps) :=
  (List.Sublist.map column List.filter_sublist).nodup unique

/-- An update that selects by the key changes one row or none. -/
theorem affected_le_one {key : κ} (byKey : ∀ row, selects row = true → column row = key) :
    affected selects rows ≤ 1 := by
  unfold affected
  rw [List.countP_eq_length_filter]
  have nodup : ((rows.filter selects).map column).Nodup := unique.filter selects
  match filtered : rows.filter selects with
  | [] => exact Nat.zero_le 1
  | [_] => exact Nat.le_refl 1
  | first :: second :: rest =>
    have isFirst : first ∈ rows.filter selects := by
      rw [filtered]
      exact .head _
    have isSecond : second ∈ rows.filter selects := by
      rw [filtered]
      exact .tail _ (.head _)
    have firstKey := byKey first (List.mem_filter.mp isFirst).2
    have secondKey := byKey second (List.mem_filter.mp isSecond).2
    rw [filtered] at nodup
    simp [firstKey, secondKey] at nodup

theorem affected_eq_one {key : κ} (byKey : ∀ row, selects row = true → column row = key)
    (mem : row ∈ rows) (picked : selects row = true) :
    affected selects rows = 1 := by
  have atMost := affected_le_one unique byKey
  have atLeast : 0 < affected selects rows := by
    unfold affected
    rw [List.countP_pos_iff]
    exact ⟨row, mem, picked⟩
  omega

omit unique

theorem exists_of_affected (some : affected selects rows ≠ 0) :
    ∃ row ∈ rows, selects row = true := by
  apply List.countP_pos_iff.mp
  unfold affected at some
  omega

end Tickr.Table
