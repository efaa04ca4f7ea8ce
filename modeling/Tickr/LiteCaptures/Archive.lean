import Tickr.LiteCaptures.Launch
import Tickr.LocalScope.Identity
import Tickr.Signals.Effects

/-!
# What the steps of Tickr Lite leave of the archive and the scopes

No command of Tickr Lite deletes an archive row.  Only the seeding of a launch
writes a scope under a signal, and it writes what the archive row says.
-/

namespace Tickr.LiteCaptures

open Table
open LogStream (Uuid Bytes)
open KeyValue (Delivery)
open Concurrent
open Signals
open LocalScope (ScopeStore ScopeValue ValueRow ClaimRow ScopeRow ClaimId
  RequestDigest mutationDigest)

variable {signal : Uuid} {value : ScopeValue}

theorem eq_of_slash_prefix (firstPlain : '/' ∉ first) (secondPlain : '/' ∉ second)
    (starts : first ++ ['/'] <+: second ++ '/' :: rest) : first = second := by
  induction first generalizing second with
  | nil =>
    cases second with
    | nil => rfl
    | cons letter =>
      have slash : '/' = letter := by simpa using starts
      rw [← slash] at secondPlain
      exact absurd List.mem_cons_self secondPlain
  | cons letter others ih =>
    cases second with
    | nil =>
      have slash : letter = '/' := by
        have both := List.cons_prefix_cons.mp starts
        exact both.1
      simp [slash] at firstPlain
    | cons other remaining =>
      have both := List.cons_prefix_cons.mp starts
      have plain : '/' ∉ others := fun mem =>
        firstPlain (.tail letter mem)
      have otherPlain : '/' ∉ remaining := fun mem =>
        secondPlain (.tail other mem)
      rw [both.1, ih plain otherPlain both.2]

variable (lite : Lite)

/-- The key starts with the id and a slash. -/
def Lite.Under (id : Uuid) (key : String) : Prop :=
  (lite.uuid.text id).toList ++ ['/'] <+: key.toList

instance (id : Uuid) (key : String) : Decidable (lite.Under id key) :=
  inferInstanceAs (Decidable (_ <+: _))

theorem Lite.under_signalKey (signal : Uuid) (name : String) :
    lite.Under signal (lite.signalKey signal name) := by
  have shape : (lite.signalKey signal name).toList =
      ((lite.uuid.text signal).toList ++ ['/']) ++ name.toList := by
    simp [Lite.signalKey]
  rw [Lite.Under, shape]
  exact List.prefix_append _ _

variable {lite : Lite}

theorem Lite.eq_of_under (under : lite.Under signal (lite.runKey owner name)) :
    signal = owner := by
  have shape : (lite.runKey owner name).toList =
      (lite.uuid.text owner).toList ++ '/' :: name.toList := by
    simp [Lite.runKey]
  rw [Lite.Under, shape] at under
  have same := eq_of_slash_prefix (lite.uuid.noSlash signal) (lite.uuid.noSlash owner) under
  exact lite.uuid.injective (String.toList_injective same)

theorem Lite.not_under_bare (bare : '/' ∉ key.toList) : ¬lite.Under signal key := by
  intro under
  have mem : '/' ∈ (lite.uuid.text signal).toList ++ ['/'] := by simp
  exact bare (under.subset mem)

variable {captures : List NamedEnvelope}

theorem Lite.under_of_seed (mem : value ∈ lite.seedValues signal captures) :
    lite.Under signal value.key := by
  simp only [Lite.seedValues, List.mem_map] at mem
  obtain ⟨_, _, valued⟩ := mem
  rw [← valued]
  exact lite.under_signalKey signal _

theorem Lite.signal_eq_of_seed (mem : value ∈ lite.seedValues signal captures)
    (under : lite.Under other value.key) : other = signal := by
  simp only [Lite.seedValues, List.mem_map] at mem
  obtain ⟨_, _, valued⟩ := mem
  rw [← valued] at under
  exact Lite.eq_of_under under

/-- The archive holds these captures of a signal. -/
def Captured (tables : Tables) (signal : Uuid) (captures : List NamedEnvelope) : Prop :=
  ∃ row, tables.captures.find? (fun row => row.signalId = signal) =
    some row ∧ row.captures = captures

variable {tables : Tables}

theorem Captured.eq (caught : Captured tables signal captures)
    (also : Captured tables signal others) : captures = others := by
  obtain ⟨_, found, isRow⟩ := caught
  obtain ⟨_, otherFound, ne⟩ := also
  rw [found] at otherFound
  cases otherFound
  rw [← isRow, ne]

private theorem captured_updateWhere (selects : CapturesRow → Bool)
    (change : CapturesRow → CapturesRow) (sameSignal : ∀ row, (change row).signalId = row.signalId)
    (same : ∀ row, (change row).captures = row.captures)
    (found : rows.find? (fun row => row.signalId = signal) = some row) :
    ∃ changed, (updateWhere selects change rows).find?
        (fun row => row.signalId = signal) = some changed ∧
      changed.captures = row.captures := by
  have keepsSignal : ∀ row : CapturesRow,
      (if selects row then change row else row).signalId = row.signalId := by
    intro row
    by_cases picked : selects row = true
    · simp [picked, sameSignal]
    · simp [picked]
  have keeps : ∀ row : CapturesRow,
      (if selects row then change row else row).captures = row.captures := by
    intro row
    by_cases picked : selects row = true
    · simp [picked, same]
    · simp [picked]
  have test : ((fun row : CapturesRow => decide (row.signalId = signal)) ∘
      fun row => if selects row then change row else row) =
        fun row => decide (row.signalId = signal) := by
    funext row
    simp [keepsSignal]
  rw [updateWhere, List.find?_map, test, found]
  exact ⟨_, rfl, keeps row⟩

theorem Captured.effect {query : Query} {now : Int} (caught : Captured tables signal captures)
    (deleting : ∀ id cutoff, query ≠ .deleteExpired id cutoff) :
    Captured (query.effect now tables) signal captures := by
  obtain ⟨row, found, isRow⟩ := caught
  cases query with
  | insertCaptures id =>
    simp only [Query.effect]
    by_cases taken : tables.captures.any (fun row => row.signalId = id)
    · simp only [taken]
      exact ⟨row, found, isRow⟩
    · simp only [taken]
      exact ⟨row, by simp [found], isRow⟩
  | linkCaptures id run =>
    have changed := captured_updateWhere
      (fun row => row.signalId = id && row.materializedRunId.isNone)
      (fun row => { row with materializedRunId := some run })
      (fun _ => rfl) (fun _ => rfl) found
    obtain ⟨changedRow, hit, same⟩ := changed
    exact ⟨changedRow, hit, same.trans isRow⟩
  | markTerminal run =>
    have changed := captured_updateWhere (·.endsWith run)
      (fun row => { row with terminalAt := some now })
      (fun _ => rfl) (fun _ => rfl) found
    obtain ⟨changedRow, hit, same⟩ := changed
    exact ⟨changedRow, hit, same.trans isRow⟩
  | deleteExpired id cutoff => exact absurd rfl (deleting id cutoff)
  | liveDefinition | signalCaptures | expiredCaptures | signalCancel => exact ⟨row, found, isRow⟩
  | insertCancel | insertWakeup =>
    simp only [Query.effect]
    split
    · exact ⟨row, found, isRow⟩
    · exact ⟨row, found, isRow⟩
  | materializeCancel => exact ⟨row, found, isRow⟩

open LocalScope.ScopeStore

variable {scope : Uuid} {rows : List ValueRow} {values : List ScopeValue} {row : ValueRow}

theorem mem_of_mem_insertAll (mem : row ∈ values.foldl (insertScopeValue scope) rows) :
    row ∈ rows ∨ ∃ value ∈ values, row = ⟨scope, value.key, value.envelope⟩ := by
  induction values generalizing rows with
  | nil => exact .inl mem
  | cons value _ ih =>
    rcases ih mem with older | ⟨other, ne, isRow⟩
    · rcases LocalScope.mem_insertScopeValue.mp older with new | ⟨old, _⟩
      · exact .inr ⟨value, .head _, new⟩
      · exact .inl old
    · exact .inr ⟨other, .tail value ne, isRow⟩

theorem mem_insertAll_of_ne (mem : row ∈ rows)
    (ne : ∀ value ∈ values, row.scopeId = scope → row.key ≠ value.key) :
    row ∈ values.foldl (insertScopeValue scope) rows := by
  induction values generalizing rows with
  | nil => exact mem
  | cons value _ ih =>
    apply ih
    · exact LocalScope.mem_insertScopeValue.mpr
        (.inr ⟨mem, ne value (.head _)⟩)
    · intro other diff
      exact ne other (.tail value diff)

theorem mem_insertAll_of_mem (apart : (values.map ScopeValue.key).Nodup)
    (mem : value ∈ values) :
    ⟨scope, value.key, value.envelope⟩ ∈ values.foldl (insertScopeValue scope) rows := by
  induction values generalizing rows with
  | nil => cases mem
  | cons _ others ih =>
    rw [List.map_cons, List.nodup_cons] at apart
    rcases List.mem_cons.mp mem with isHead | ne
    · subst isHead
      rw [List.foldl_cons]
      apply mem_insertAll_of_ne
      · exact LocalScope.mem_insertScopeValue.mpr (.inl rfl)
      · intro other ne _ same
        have isKey : value.key = other.key := same
        have repeated : value.key ∈ others.map ScopeValue.key := by
          rw [isKey]
          exact List.mem_map_of_mem ne
        exact apart.1 repeated
    · exact ih apart.2 ne

theorem nodup_of_validateKeys (valid : LocalScope.validateKeys seen keys = .ok ()) :
    keys.Nodup ∧ ∀ key ∈ keys, key ∉ seen := by
  induction keys generalizing seen with
  | nil => simp
  | cons key _ ih =>
    rw [LocalScope.validateKeys] at valid
    cases isKey : LocalScope.validateKey key with
    | error =>
      rw [isKey] at valid
      cases valid
    | ok =>
      rw [isKey] at valid
      by_cases isSeen : key ∈ seen
      · simp [isSeen] at valid
      simp only [isSeen] at valid
      obtain ⟨apart, unseen⟩ := ih valid
      refine ⟨List.nodup_cons.mpr ⟨?_, apart⟩, List.forall_mem_cons.mpr ⟨isSeen, ?_⟩⟩
      · intro repeated
        exact unseen key repeated (.head _)
      · intro other later otherSeen
        exact unseen other later (.tail key otherSeen)

variable {codec : LocalScope.ScopeCodec} {store : ScopeStore} {now : Int}

/-- The values and the claims of two stores are the same. -/
def SameRows (before after : ScopeStore) : Prop :=
  after.values = before.values ∧ after.claims = before.claims

theorem sameRows_of_settles {after : ScopeStore}
    (settles : LocalScope.Settles codec store after) : SameRows store after := by
  cases settles with
  | same | quarantined | snapshotted => exact ⟨rfl, rfl⟩

end Tickr.LiteCaptures
