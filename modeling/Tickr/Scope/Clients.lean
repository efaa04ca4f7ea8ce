import Tickr.Scope.Sealing

/-!
# The operations keep the promises

Each operation makes only the steps the scope allows, beside any others.  So a
sealed scope stays as it was sealed until its cleanup starts, in every run in
which the writers write under their locks.
-/

namespace Tickr.Scope

open Concurrent KeyValue Discipline

/-- What the clients of one scope promise each other. -/
def scopeDiscipline (store : NatsScopeStore) (owner : String)
    (calls : Nat → ScopeCall) : Discipline ScopeLog ScopeOp where
  guarantee := fun _ => ScopeStep store owner
  invariant := SealExact store owner
  condition := WritesUnderLock owner calls
  keeps := fun _ _ _ step exact => exact.step step

variable {store : NatsScopeStore} {owner : String} {calls : Nat → ScopeCall}
  {peer : Nat} {before after anchor log : ScopeLog}
  {metadata : ScopeMetadata} {revision : Nat}

theorem ScopeStep.grown (step : ScopeStep store owner before after) : before <:+ after := by
  rcases step with rfl | ⟨write, rfl, _⟩
  · exact List.suffix_rfl
  · exact List.suffix_cons write before

theorem grown_of_evolves (evolves : (scopeDiscipline store owner calls).Evolves before after) :
    before <:+ after := by
  apply evolves.keeps List.suffix_rfl
  intro _ _ _ promised grown
  exact grown.trans promised.grown

/-- The word at this revision is known to a client that read or wrote it. -/
def Known (owner : String) (metadata : ScopeMetadata) (revision : Nat) (log : ScopeLog) : Prop :=
  revision ≤ log.length ∧
    (revisionOf (metadataKey owner) log = revision →
      lookup (metadataKey owner) log = some (.metadata metadata))

theorem Known.grown (known : Known owner metadata revision before)
    (grown : before <:+ after) : Known owner metadata revision after := by
  obtain ⟨wrote, value⟩ := known
  refine ⟨Nat.le_trans wrote grown.length_le, ?_⟩
  intro same
  have prior := revisionOf_eq_of_grown grown wrote same
  have sameEntry : entry (metadataKey owner) after = entry (metadataKey owner) before :=
    entry_eq_of_revisionOf_eq grown (by omega)
  rw [lookup, sameEntry]
  exact value prior

theorem known_of_entry
    (read : entry (metadataKey owner) log = some ⟨revision, some (.metadata metadata)⟩) :
    Known owner metadata revision log := by
  refine ⟨?_, fun _ => lookup_eq read⟩
  have bound := revisionOf_le_length (metadataKey owner) log
  rw [revisionOf_eq read] at bound
  exact bound

/-- A word during which no value may be written. -/
def QuietState (state : ScopeState) : Prop :=
  state = .active ∨ state = .snapshotted ∨ state = .archiveCommitted

/-- Since `anchor`, where the word had this revision, the log can only have
grown by a new word. -/
structure Quiet (owner : String) (metadata : ScopeMetadata) (revision : Nat)
    (anchor log : ScopeLog) : Prop where
  grown : anchor <:+ log
  known : Known owner metadata revision anchor
  quiet : QuietState metadata.state
  unchanged : revisionOf (metadataKey owner) log = revision → log = anchor

variable (held : Quiet owner metadata revision anchor before)
include held

theorem Quiet.step (step : ScopeStep store owner before after) :
    Quiet owner metadata revision anchor after := by
  refine ⟨held.grown.trans step.grown, held.known, held.quiet, ?_⟩
  intro same
  have wrote : revision ≤ before.length := Nat.le_trans held.known.1 held.grown.length_le
  have prior := revisionOf_eq_of_grown step.grown wrote same
  have isAnchor := held.unchanged prior
  rcases step with rfl | ⟨write, rfl, metadataWrite | valueWrite⟩
  · exact isAnchor
  · rw [revisionOf_cons_same metadataWrite.1] at same
    omega
  obtain ⟨_, phase⟩ := valueWrite
  subst isAnchor
  have value := held.known.2 prior
  rw [stateAt_eq value] at phase
  rcases held.quiet with state | state | state <;> rw [state] at phase <;>
    rcases phase with phase | phase | phase <;> cases phase

theorem Quiet.evolves (evolves : (scopeDiscipline store owner calls).Evolves before after) :
    Quiet owner metadata revision anchor after :=
  evolves.keeps held fun _ _ _ promised quiet => quiet.step promised

/-- If the word keeps its revision until later, it has it already. -/
theorem Quiet.revision_before (evolves : (scopeDiscipline store owner calls).Evolves before after)
    (same : revisionOf (metadataKey owner) after = revision) :
    revisionOf (metadataKey owner) before = revision := by
  have wrote : revision ≤ before.length := Nat.le_trans held.known.1 held.grown.length_le
  exact revisionOf_eq_of_grown (grown_of_evolves evolves) wrote same

theorem Quiet.unchanged_before (evolves : (scopeDiscipline store owner calls).Evolves before after)
    (same : revisionOf (metadataKey owner) after = revision) :
    before = anchor := held.unchanged (held.revision_before evolves same)

omit held

def CleaningPhase (owner : String) (log : ScopeLog) : Prop :=
  stateAt owner log = some .cleaning ∨ stateAt owner log = some .cleaned

theorem stateAt_cons_metadata {write : Write String ScopeCell}
    (isMetadata : write.key = metadataKey owner) (value : write.value = some (.metadata metadata)) :
    stateAt owner (write :: log) = some metadata.state := by
  rw [stateAt, metadataAt_cons_metadata isMetadata value]
  rfl

theorem CleaningPhase.step (cleaning : CleaningPhase owner before)
    (step : ScopeStep store owner before after) :
    CleaningPhase owner after := by
  rcases step with rfl | ⟨write, rfl, metadataWrite | valueWrite⟩
  · exact cleaning
  · obtain ⟨isMetadata, next, value, allowed⟩ := metadataWrite
    unfold CleaningPhase at cleaning ⊢
    rw [stateAt_cons_metadata isMetadata value]
    rcases allowed with ⟨absent, _⟩ | ⟨current, kept, advance⟩
    · have noState : stateAt owner before = none := by
        rw [stateAt, metadataAt, absent]
        rfl
      rw [noState] at cleaning
      rcases cleaning with phase | phase <;> cases phase
    · rw [stateAt_eq kept] at cleaning
      cases advance with
      | finishCleaning => exact .inr rfl
      | lock state | unlock state _ _ | quarantine state _ | record state | commit state
      | startCleaning state =>
        rw [state] at cleaning
        rcases cleaning with phase | phase <;> cases phase
  · unfold CleaningPhase
    rw [stateAt, metadataAt_cons_value valueWrite.1]
    exact cleaning

theorem CleaningPhase.evolves (cleaning : CleaningPhase owner before)
    (evolves : (scopeDiscipline store owner calls).Evolves before after) :
    CleaningPhase owner after :=
  evolves.keeps cleaning fun _ _ _ promised phase => phase.step promised

/-- A client has read or written this word, and the log has evolved since. -/
def Witnessed (store : NatsScopeStore) (owner : String)
    (calls : Nat → ScopeCall) (word : VersionedMetadata) (log : ScopeLog) :
    Prop :=
  word.value.owner = owner ∧ ∃ seen,
    entry (metadataKey owner) seen = some ⟨word.revision, some (.metadata word.value)⟩ ∧
      (scopeDiscipline store owner calls).Evolves seen log

variable {word : VersionedMetadata}

theorem Witnessed.evolves (witnessed : Witnessed store owner calls word before)
    (evolves : (scopeDiscipline store owner calls).Evolves before after) :
    Witnessed store owner calls word after := by
  obtain ⟨ofOwner, seen, read, prior⟩ := witnessed
  exact ⟨ofOwner, seen, read, prior.trans evolves⟩

variable (witnessed : Witnessed store owner calls word log)
include witnessed

theorem Witnessed.known : Known owner word.value word.revision log := by
  obtain ⟨_, _, read, evolves⟩ := witnessed
  exact (known_of_entry read).grown (grown_of_evolves evolves)

theorem Witnessed.quiet (quiet : QuietState word.value.state) :
    ∃ anchor, Quiet owner word.value word.revision anchor log := by
  obtain ⟨_, seen, read, evolves⟩ := witnessed
  have atSeen : Quiet owner word.value word.revision seen seen :=
    ⟨List.suffix_rfl, known_of_entry read, quiet, fun _ => rfl⟩
  exact ⟨seen, atSeen.evolves evolves⟩

theorem Witnessed.cleaning
    (isCleaning : word.value.state = .cleaning) : CleaningPhase owner log := by
  obtain ⟨_, seen, read, evolves⟩ := witnessed
  have atSeen : CleaningPhase owner seen := by
    refine .inl ?_
    rw [stateAt_eq (lookup_eq read), isCleaning]
  exact atSeen.evolves evolves

omit witnessed

/-- A fallible scope program is safe for one client among the calls. -/
abbrev SafeScope (store : NatsScopeStore) (owner : String)
    (calls : Nat → ScopeCall) (peer : Nat) {α : Type}
    (post : α → ScopeLog → Prop) (program : ScopeM α) (log : ScopeLog) :
    Prop := SafeTry system (scopeDiscipline store owner calls) peer post program log

theorem backendReply_eq_ok {α : Type} {reply : Except KvError α} {value : α}
    (answered : backendReply store reply = .ok value) : reply = .ok value := by
  cases reply with
  | ok =>
    cases answered
    rfl
  | error => cases answered

theorem storeEntry_safe (key : String) :
    SafeScope store owner calls peer
      (fun found later => ∃ seen,
        (scopeDiscipline store owner calls).Evolves log seen ∧
          (scopeDiscipline store owner calls).Evolves seen later ∧
          found = entry key seen) (storeEntry store key) log := by
  refine .request ?_
  intro before rely _ _ choice
  obtain ⟨unchanged, shows⟩ := @perform_entry _ _ _ key peer choice before
  refine ⟨.inl unchanged, ?_⟩
  intro found answered _ onward _
  refine ⟨before, rely.evolves, ?_, shows found (backendReply_eq_ok answered)⟩
  have evolves := onward.evolves
  rw [show (system.perform peer (.entry key) choice before).2 = before from
    unchanged] at evolves
  exact evolves

theorem storeKeys_safe :
    SafeScope store owner calls peer
      (fun found later => ∃ seen,
        (scopeDiscipline store owner calls).Evolves log seen ∧
          (scopeDiscipline store owner calls).Evolves seen later ∧
          found = liveKeys seen) (storeKeys store) log := by
  refine .request ?_
  intro before rely _ _ choice
  obtain ⟨unchanged, shows⟩ := @perform_keys String ScopeCell _ peer choice before
  refine ⟨.inl unchanged, ?_⟩
  intro found answered _ onward _
  refine ⟨before, rely.evolves, ?_, shows found (backendReply_eq_ok answered)⟩
  have evolves := onward.evolves
  rw [show (system.perform peer .keys choice before).2 = before from
    unchanged] at evolves
  exact evolves

/-- Replacing the word: it is replaced only if it is still the one witnessed,
by one the state machine allows, and the new one is witnessed from then on. -/
theorem updateMetadata_safe {current next : ScopeMetadata} {revision : Nat}
    (witnessed : Witnessed store owner calls ⟨current, revision⟩ log) (ofOwner : next.owner = owner)
    (allowed : ∀ later,
      (scopeDiscipline store owner calls).Evolves log later →
        revisionOf (metadataKey owner) later = revision →
          Advance store (storedEntries owner later) current next) :
    SafeScope store owner calls peer
      (fun now later => Witnessed store owner calls ⟨next, now⟩ later)
      (updateMetadata store ⟨next, revision⟩) log := by
  unfold updateMetadata
  rw [show metadataKey next.owner = metadataKey owner by rw [ofOwner]]
  refine .request ?_
  intro before rely _ _ choice
  have knownBefore := (witnessed.evolves rely.evolves).known
  rcases @perform_update _ _ _ (metadataKey owner) (.metadata next)
      peer choice before revision with
    ⟨unchanged, fails⟩ | ⟨⟨made, same⟩, reports⟩
  · refine ⟨.inl unchanged, ?_⟩
    intro now answered
    exact absurd (backendReply_eq_ok answered) (fails now)
  have step : ScopeStep store owner before
      (perform peer (.update (metadataKey owner) (.metadata next) revision) choice
        before).2 := by
    refine .inr ⟨_, made, .inl ⟨rfl, next, rfl, .inr ?_⟩⟩
    exact ⟨current, knownBefore.2 same, allowed before rely.evolves same⟩
  refine ⟨step, ?_⟩
  intro now answered _ onward _
  rw [reports now (backendReply_eq_ok answered)]
  refine ⟨ofOwner, _, ?_, onward.evolves⟩
  rw [show (system.perform peer (.update (metadataKey owner) (.metadata next) revision) choice
    before).2 = _ from made]
  exact entry_cons_same rfl

theorem storeCreate_safe (isActive : metadata.state = .active) :
    SafeScope store owner calls peer Any (storeCreate (metadataKey owner) metadata) log := by
  refine .request ?_
  intro before _ _ _ choice
  refine ⟨?_, fun _ _ _ _ _ => trivial⟩
  rcases @perform_create _ _ _ (metadataKey owner)
      (.metadata metadata) peer choice before with
    ⟨still, _⟩ | ⟨made, absent⟩
  · exact .inl still
  · exact .inr ⟨_, made, .inl ⟨rfl, metadata, rfl, .inl ⟨absent, isActive⟩⟩⟩

theorem stateAt_of_holdsLock (holds : HoldsLock owner peer log) :
    stateAt owner log = some .mutating := by
  unfold HoldsLock at holds
  split at holds
  · next _ _ _ newest => rw [stateAt_eq (lookup_of_find? newest), holds.2]
  · exact holds.elim

variable {key : String}

/-- A writer's value write is allowed because the run lets it happen only
under the writer's lock. -/
theorem storePut_safe (isPut : ∃ called bytes, calls peer = .put called bytes)
    (value : isValueKeyOf owner key = true) :
    SafeScope store owner calls peer Any (storePut store key envelope) log := by
  refine .request ?_
  intro before _ _ meets choice
  obtain ⟨_, _, call⟩ := isPut
  have locked : HoldsLock owner peer before := by
    simpa [scopeDiscipline, WritesUnderLock, call] using meets
  refine ⟨?_, fun _ _ _ _ _ => trivial⟩
  rcases @perform_put _ _ _ key (.envelope envelope) peer choice
      before with still | made
  · exact .inl still
  · exact .inr ⟨_, made, .inr ⟨value, .inl (stateAt_of_holdsLock locked)⟩⟩

theorem storeDelete_locked_safe (isDelete : ∃ called, calls peer = .delete called)
    (value : isValueKeyOf owner key = true) :
    SafeScope store owner calls peer Any (storeDelete store key) log := by
  refine .request ?_
  intro before _ _ meets choice
  obtain ⟨_, call⟩ := isDelete
  have locked : HoldsLock owner peer before := by
    simpa [scopeDiscipline, WritesUnderLock, call] using meets
  refine ⟨?_, fun _ _ _ _ _ => trivial⟩
  rcases @perform_delete String ScopeCell _ key peer choice before with
    still | made
  · exact .inl still
  · exact .inr ⟨_, made, .inr ⟨value, .inl (stateAt_of_holdsLock locked)⟩⟩

theorem storeDelete_cleaning_safe (cleaning : CleaningPhase owner log)
    (value : isValueKeyOf owner key = true) :
    SafeScope store owner calls peer Any (storeDelete store key) log := by
  refine .request ?_
  intro before rely _ _ choice
  refine ⟨?_, fun _ _ _ _ _ => trivial⟩
  rcases @perform_delete String ScopeCell _ key peer choice before with
    still | made
  · exact .inl still
  · exact .inr ⟨_, made, .inr ⟨value, .inr (cleaning.evolves rely.evolves)⟩⟩

end Tickr.Scope
