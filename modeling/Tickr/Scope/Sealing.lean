import Tickr.Scope.Store

/-!
# What keeps a sealed scope

The metadata word moves only along its state machine, and a value is written only
while the word is `Mutating`, or deleted once it is `Cleaning`.  `put` and
`delete` do not look at the word again, so they keep this only while they still
have the lock they took.
-/

namespace Tickr.Scope

open Concurrent KeyValue

variable (owner : String)

def metadataAt (log : ScopeLog) : Option ScopeMetadata :=
  match lookup (metadataKey owner) log with
  | some (.metadata value) => some value
  | _ => none

def stateAt (log : ScopeLog) : Option ScopeState := (metadataAt owner log).map ScopeMetadata.state

def entriesAt (log : ScopeLog) (keys : List String) : List NatsScopeEntry :=
  keys.filterMap fun key =>
    match lookup key log with
    | some (.envelope envelope) => some ⟨key, envelope⟩
    | _ => none

def storedEntries (log : ScopeLog) : List NatsScopeEntry :=
  sortEntries (entriesAt log (((liveKeys log).filter (isValueKeyOf owner)).insertionSort (· ≤ ·)))

/-- The moves of the metadata word, and what the sealing move records. -/
inductive Advance (store : NatsScopeStore) (stored : List NatsScopeEntry)
    (metadata : ScopeMetadata) : ScopeMetadata → Prop
  | lock (isActive : metadata.state = .active) :
      Advance store stored metadata { metadata with state := .mutating }
  | unlock (isMutating : metadata.state = .mutating) (rows bytes : Nat) :
      Advance store stored metadata
        { metadata with state := .active, rowCount := rows, valueBytes := bytes }
  | quarantine (isMutating : metadata.state = .mutating) (diagnostic : String) :
      Advance store stored metadata
        { metadata with state := .corrupt, diagnostic := some diagnostic }
  | record (isActive : metadata.state = .active) : Advance store stored metadata { metadata with
          state := .snapshotted
          rowCount := stored.length
          valueBytes := totalBytes stored
          snapshotDigest := some (store.sha256Hex (snapshotBytes stored)) }
  | commit (isSnapshotted : metadata.state = .snapshotted) :
      Advance store stored metadata { metadata with state := .archiveCommitted }
  | startCleaning (isCommitted : metadata.state = .archiveCommitted) :
      Advance store stored metadata { metadata with state := .cleaning }
  | finishCleaning (isCleaning : metadata.state = .cleaning) :
      Advance store stored metadata
        { metadata with state := .cleaned, rowCount := 0, valueBytes := 0 }

variable (store : NatsScopeStore) (owner : String)

/-- A metadata write: the first word of a scope, or a move from the current
one. -/
def MetadataWrite (log : ScopeLog) (write : Write String ScopeCell) : Prop :=
  write.key = metadataKey owner ∧
    ∃ next, write.value = some (.metadata next) ∧
      ((lookup (metadataKey owner) log = none ∧ next.state = .active) ∨
        ∃ current, lookup (metadataKey owner) log = some (.metadata current) ∧
          Advance store (storedEntries owner log) current next)

/-- A value write: under a writer's lock, or a delete of the cleanup. -/
def ValueWrite (log : ScopeLog) (write : Write String ScopeCell) : Prop :=
  isValueKeyOf owner write.key = true ∧
    (stateAt owner log = some .mutating ∨
      (stateAt owner log = some .cleaning ∨ stateAt owner log = some .cleaned))

/-- What a client of the scope may do in one step. -/
def ScopeStep (before after : ScopeLog) : Prop :=
  after = before ∨
    ∃ write, after = write :: before ∧
      (MetadataWrite store owner before write ∨ ValueWrite owner before write)

/-- The word of a sealed scope describes exactly what is stored. -/
def SealExact (log : ScopeLog) : Prop :=
  ∀ metadata, metadataAt owner log = some metadata →
    metadata.state = .snapshotted ∨ metadata.state = .archiveCommitted →
      metadata.rowCount = (storedEntries owner log).length ∧
        metadata.valueBytes = totalBytes (storedEntries owner log) ∧
        metadata.snapshotDigest = some (store.sha256Hex (snapshotBytes (storedEntries owner log)))

/-- The client has the lock it took: the word's newest write is its own, and
`Mutating`. -/
def HoldsLock (peer : Nat) (log : ScopeLog) : Prop :=
  match log.find? fun write => write.key = metadataKey owner with
  | some ⟨author, _, some (.metadata metadata)⟩ => author = peer ∧ metadata.state = .mutating
  | _ => False

/-- The condition on a run: `put` and `delete` write their value only while
they hold their lock. -/
def WritesUnderLock (calls : Nat → ScopeCall) (peer : Nat) (op : ScopeOp)
    (log : ScopeLog) : Prop :=
  match calls peer, op with
  | .put _ _, .put _ _ => HoldsLock owner peer log
  | .delete _, .delete _ => HoldsLock owner peer log
  | _, _ => True

instance (peer : Nat) (log : ScopeLog) : Decidable (HoldsLock owner peer log) := by
  unfold HoldsLock
  split <;> infer_instance

instance (calls : Nat → ScopeCall) (peer : Nat) (op : ScopeOp)
    (log : ScopeLog) : Decidable (WritesUnderLock owner calls peer op log) := by
  unfold WritesUnderLock
  split <;> infer_instance

variable {store : NatsScopeStore} {owner : String} {log : ScopeLog} {write : Write String ScopeCell}

theorem isMetadataKey_metadataKey (owner : String) : isMetadataKey (metadataKey owner) = true := by
  unfold isMetadataKey metadataKey
  rw [String.toList_append, List.isPrefixOf_iff_prefix]
  exact List.prefix_append _ _

theorem ne_metadataKey_of_value {key : String}
    (value : isValueKeyOf owner key = true) : key ≠ metadataKey owner := by
  rintro rfl
  simp [isValueKeyOf, isMetadataKey_metadataKey] at value

theorem not_isValueKeyOf_metadataKey : isValueKeyOf owner (metadataKey owner) = false := by
  simp [isValueKeyOf, isMetadataKey_metadataKey]

variable {metadata : ScopeMetadata}

variable (kept : lookup (metadataKey owner) log = some (.metadata metadata))
include kept

theorem metadataAt_eq :
    metadataAt owner log = some metadata := by
  rw [metadataAt, kept]

theorem stateAt_eq :
    stateAt owner log = some metadata.state := by
  rw [stateAt, metadataAt_eq kept]
  rfl

omit kept

theorem metadataAt_cons_value (value : isValueKeyOf owner write.key = true) :
    metadataAt owner (write :: log) = metadataAt owner log := by
  unfold metadataAt
  rw [lookup_cons_other (ne_metadataKey_of_value value)]

theorem storedEntries_cons_metadata (isMetadata : write.key = metadataKey owner) :
    storedEntries owner (write :: log) = storedEntries owner log := by
  have same :
      (liveKeys (write :: log)).filter (isValueKeyOf owner) =
        (liveKeys log).filter (isValueKeyOf owner) := by
    have others :
        ((liveKeys log).filter (· ≠ write.key)).filter (isValueKeyOf owner) =
          (liveKeys log).filter (isValueKeyOf owner) := by
      rw [List.filter_filter]
      apply List.filter_congr
      intro key _
      cases valued : isValueKeyOf owner key with
      | false => rfl
      | true =>
        have ne := ne_metadataKey_of_value valued
        simp [isMetadata, ne]
    rw [liveKeys]
    cases write.value with
    | none => simpa using others
    | some =>
      simp only [Option.isSome_some, if_true, List.filter_append,
        List.filter_cons, List.filter_nil, isMetadata,
        not_isValueKeyOf_metadataKey, Bool.false_eq_true, if_false,
        List.append_nil]
      rw [isMetadata] at others
      exact others
  unfold storedEntries
  rw [same]
  congr 1
  apply List.filterMap_congr
  intro key mem
  have valued : isValueKeyOf owner key = true :=
    (List.mem_filter.mp ((List.mem_insertionSort _).mp mem)).2
  rw [lookup_cons_other]
  rw [isMetadata]
  exact (ne_metadataKey_of_value valued).symm

theorem metadataAt_cons_metadata (isMetadata : write.key = metadataKey owner)
    (value : write.value = some (.metadata next)) :
    metadataAt owner (write :: log) = some next := by
  unfold metadataAt
  rw [lookup_cons_same isMetadata, value]

theorem SealExact.step (exact : SealExact store owner log)
    (step : ScopeStep store owner log after) : SealExact store owner after := by
  rcases step with rfl | ⟨write, rfl, metadataWrite | valueWrite⟩
  · exact exact
  · obtain ⟨isMetadata, next, value, allowed⟩ := metadataWrite
    intro metadata found isSealed
    rw [metadataAt_cons_metadata isMetadata value] at found
    cases found
    rw [storedEntries_cons_metadata isMetadata]
    rcases allowed with ⟨_, active⟩ | ⟨current, kept, advance⟩
    · rw [active] at isSealed
      rcases isSealed with isSealed | isSealed <;> cases isSealed
    cases advance with
    | record => exact ⟨rfl, rfl, rfl⟩
    | commit snapshotted => exact exact current (metadataAt_eq kept) (.inl snapshotted)
    | _ =>
      rcases isSealed with isSealed | isSealed <;> cases isSealed
  · obtain ⟨valued, phase⟩ := valueWrite
    intro metadata found isSealed
    rw [metadataAt_cons_value valued] at found
    have state : stateAt owner log = some metadata.state := by
      rw [stateAt, found]
      rfl
    rw [state] at phase
    rcases isSealed with isSealed | isSealed <;> rw [isSealed] at phase <;>
      rcases phase with phase | phase | phase <;> cases phase

end Tickr.Scope
