import Tickr.Scope.Operations

/-!
# Runs of the scope store

A sealed scope keeps its values until its cleanup starts, in every run in which
the writers write under their locks.  A snapshot that takes over the lock of a
writer still at work lets the writer's value land in the sealed scope.
-/

namespace Tickr.Scope

open Concurrent KeyValue
open Concurrent.Discipline
open SafeExcept (andThen andDone)

def ScopeCall.owner : ScopeCall → Except NatsScopeError String
  | .put key _ => ownerFromKey key
  | .delete key => ownerFromKey key
  | .snapshot owner => .ok owner
  | .markArchiveCommitted owner _ => .ok owner
  | .cleanupArchived owner => .ok owner

/-- The bucket and its clients before the first step. -/
def scopeWorld (store : NatsScopeStore) (calls : Nat → ScopeCall) (initial : ScopeLog) :
    World ScopeLog ScopeOp KvOp.Reply (Except NatsScopeError ScopeAnswer) :=
  { state := initial
    clients := fun peer => ((calls peer).program store).run }

def scopeAfter (store : NatsScopeStore) (calls : Nat → ScopeCall)
    (initial : ScopeLog) (turns : List (Nat × Delivery)) : ScopeLog :=
  ((scopeWorld store calls initial).run system turns).state

variable {store : NatsScopeStore} {owner : String} {calls : Nat → ScopeCall}
  {peer : Nat} {before after log : ScopeLog}

theorem call_safe (onOwner : (calls peer).owner = .ok owner) :
    SafeScope store owner calls peer Any ((calls peer).program store) log := by
  cases call : calls peer with
  | put =>
    rw [call] at onOwner
    exact andDone (put_safe call onOwner)
  | delete =>
    rw [call] at onOwner
    exact andDone (delete_safe call onOwner)
  | snapshot =>
    rw [call] at onOwner
    cases onOwner
    exact andDone snapshot_safe
  | markArchiveCommitted _ digest =>
    rw [call] at onOwner
    cases onOwner
    exact andDone (markArchiveCommitted_safe digest)
  | cleanupArchived =>
    rw [call] at onOwner
    cases onOwner
    exact andDone cleanupArchived_safe

/-- The word is sealed, before its cleanup. -/
def SealedPhase (owner : String) (log : ScopeLog) : Prop :=
  stateAt owner log = some .snapshotted ∨ stateAt owner log = some .archiveCommitted

instance : Decidable (SealedPhase owner log) := inferInstanceAs (Decidable (_ ∨ _))

theorem SealedPhase.step (isSealed : SealedPhase owner before)
    (step : ScopeStep store owner before after) :
    CleaningPhase owner after ∨
      (SealedPhase owner after ∧ storedEntries owner after = storedEntries owner before) := by
  rcases step with rfl | ⟨write, rfl, metadataWrite | valueWrite⟩
  · exact .inr ⟨isSealed, rfl⟩
  · obtain ⟨metadata, next, value, allowed⟩ := metadataWrite
    have stateAfter := @stateAt_cons_metadata owner before _ _ metadata value
    have same := @storedEntries_cons_metadata owner before _ metadata
    rcases allowed with ⟨absent, _⟩ | ⟨current, kept, advance⟩
    · have noState : stateAt owner before = none := by
        rw [stateAt, metadataAt, absent]
        rfl
      rw [SealedPhase, noState] at isSealed
      rcases isSealed with phase | phase <;> cases phase
    · rw [SealedPhase, stateAt_eq kept] at isSealed
      cases advance with
      | commit => exact .inr ⟨.inr stateAfter, same⟩
      | startCleaning => exact .inl (.inl stateAfter)
      | finishCleaning => exact .inl (.inr stateAfter)
      | lock state | unlock state _ _ | quarantine state _ | record state =>
        rw [state] at isSealed
        rcases isSealed with phase | phase <;> cases phase
  · obtain ⟨_, phase⟩ := valueWrite
    rcases isSealed with state | state <;> rw [state] at phase <;>
      rcases phase with phase | phase | phase <;> cases phase

theorem SealedPhase.evolves (isSealed : SealedPhase owner before)
    (evolves : (scopeDiscipline store owner calls).Evolves before after) :
    CleaningPhase owner after ∨
      (SealedPhase owner after ∧ storedEntries owner after = storedEntries owner before) := by
  induction evolves with
  | refl => exact .inr ⟨isSealed, rfl⟩
  | tail _ step ih =>
    obtain ⟨_, promised⟩ := step
    rcases ih with cleaning | ⟨sealed, same⟩
    · exact .inl (cleaning.step promised)
    · rcases sealed.step promised with cleaning | ⟨sealedAfter, kept⟩
      · exact .inl cleaning
      · exact .inr ⟨sealedAfter, kept.trans same⟩

theorem sealExact_of_unsealed (unsealed : ¬ SealedPhase owner log) : SealExact store owner log := by
  intro metadata found isSealed
  have state : stateAt owner log = some metadata.state := by
    rw [stateAt, found]
    rfl
  refine absurd ?_ unsealed
  rcases isSealed with isSealed | isSealed
  · exact .inl (by rw [state, isSealed])
  · exact .inr (by rw [state, isSealed])

theorem allSafe_scopeWorld (onOwner : ∀ peer, (calls peer).owner = .ok owner)
    (unsealed : ¬ SealedPhase owner log) :
    AllSafe system (scopeDiscipline store owner calls) (fun _ _ _ => True)
      (scopeWorld store calls log) := by
  have exact : SealExact store owner log := sealExact_of_unsealed unsealed
  refine ⟨exact, ?_⟩
  intro peer
  exact .weaken (call_safe (onOwner peer) exact) fun _ _ _ _ => trivial

/-- For all clients of one owner and every interleaving in which each writer
writes its value under its lock: once the scope is sealed with a digest, its
values stay as they are, and their digest stays the sealed one, until the
cleanup starts. -/
theorem sealed_until_cleaning (store : NatsScopeStore) (owner : String) (calls : Nat → ScopeCall)
    (onOwner : ∀ peer, (calls peer).owner = .ok owner)
    (initial : ScopeLog) (unsealed : ¬ SealedPhase owner initial)
    (first second : List (Nat × Delivery))
    (locked : (scopeWorld store calls initial).RunMeets system
      (WritesUnderLock owner calls) (first ++ second)) (metadata : ScopeMetadata) (digest : String)
    (found : metadataAt owner (scopeAfter store calls initial first) = some metadata)
    (isSnapshotted : metadata.state = .snapshotted)
    (sealedAs : metadata.snapshotDigest = some digest) :
    CleaningPhase owner (scopeAfter store calls initial (first ++ second)) ∨
      (storedEntries owner (scopeAfter store calls initial (first ++ second)) =
          storedEntries owner (scopeAfter store calls initial first) ∧
        store.sha256Hex (snapshotBytes (storedEntries owner
          (scopeAfter store calls initial (first ++ second)))) = digest) := by
  obtain ⟨firstMeets, meets⟩ := locked.append
  obtain ⟨safe, _⟩ := (allSafe_scopeWorld onOwner unsealed).run firstMeets
  obtain ⟨_, evolves⟩ := safe.run meets
  rw [← World.run_append] at evolves
  have isSealed : SealedPhase owner (scopeAfter store calls initial first) := by
    refine .inl ?_
    rw [stateAt, found, Option.map_some, isSnapshotted]
  obtain ⟨_, _, exactDigest⟩ := safe.1 metadata found (.inl isSnapshotted)
  rcases isSealed.evolves evolves with cleaning | ⟨_, kept⟩
  · exact .inl cleaning
  refine .inr ⟨kept, ?_⟩
  have same := Option.some.inj (sealedAs.symm.trans exactDigest)
  rw [same]
  exact congrArg (fun entries => store.sha256Hex (snapshotBytes entries)) kept

/-- A store whose digest is the bytes themselves, read as characters. -/
def plainStore : NatsScopeStore where
  namespaceName := "ns"
  sha256Hex := fun bytes => String.ofList (bytes.map fun byte =>
    Char.ofNat byte.toNat)
  envelopeVersion := fun _ => .ok (some 1)
  backendText := fun _ => ""

/-- A writer, a snapshot of its scope and writers that come later. -/
def writerAndSealer : Nat → ScopeCall
  | 0 => .put "o/a" [1]
  | 1 => .snapshot "o"
  | _ => .put "o/b" [2]

/-- The client's next steps, all of them delivered. -/
def steps (peer count : Nat) : List (Nat × Delivery) := List.replicate count (peer, .applied)

theorem writerAndSealer_owner (peer : Nat) : (writerAndSealer peer).owner = .ok "o" := by
  match peer with
  | 0 => decide
  | 1 => decide
  | _ + 2 => exact (by decide : (ScopeCall.put "o/b" [2]).owner = .ok "o")

/-- The writer finishes, the snapshot seals its value, and a late writer is
turned away. -/
theorem sealed_after_writer :
    CleaningPhase "o" (scopeAfter plainStore writerAndSealer []
        ((steps 0 7 ++ steps 1 4) ++ steps 2 3)) ∨
      (storedEntries "o" (scopeAfter plainStore writerAndSealer []
            ((steps 0 7 ++ steps 1 4) ++ steps 2 3)) =
          storedEntries "o" (scopeAfter plainStore writerAndSealer [] (steps 0 7 ++ steps 1 4)) ∧
        plainStore.sha256Hex (snapshotBytes (storedEntries "o"
            (scopeAfter plainStore writerAndSealer [] ((steps 0 7 ++ steps 1 4) ++ steps 2 3)))) =
          plainStore.sha256Hex (snapshotBytes [⟨"o/a", [1]⟩])) :=
  sealed_until_cleaning plainStore "o" writerAndSealer writerAndSealer_owner []
    (by decide) (steps 0 7 ++ steps 1 4) (steps 2 3)
    (by decide)
    { protocolVersion := 1, namespaceName := "ns", owner := "o"
      state := .snapshotted, rowCount := 1, valueBytes := 1
      snapshotDigest := some (plainStore.sha256Hex (snapshotBytes [⟨"o/a", [1]⟩]))
      diagnostic := none }
    _ (by decide) rfl rfl

/-- The snapshot takes over the lock of a writer that has read the scope and
not written yet; the value then lands in the sealed scope, and the digest of
what is stored is no longer the sealed one. -/
theorem sealed_scope_changed :
    ∃ metadata,
      metadataAt "o" (scopeAfter plainStore writerAndSealer []
          (steps 0 5 ++ steps 1 5)) = some metadata ∧
        metadata.state = .snapshotted ∧
        metadataAt "o" (scopeAfter plainStore writerAndSealer []
          ((steps 0 5 ++ steps 1 5) ++ steps 0 1)) = some metadata ∧
        storedEntries "o" (scopeAfter plainStore writerAndSealer [] (steps 0 5 ++ steps 1 5)) = [] ∧
        storedEntries "o" (scopeAfter plainStore writerAndSealer []
          ((steps 0 5 ++ steps 1 5) ++ steps 0 1)) = [⟨"o/a", [1]⟩] ∧
        metadata.snapshotDigest ≠
          some (plainStore.sha256Hex (snapshotBytes (storedEntries "o"
            (scopeAfter plainStore writerAndSealer []
              ((steps 0 5 ++ steps 1 5) ++ steps 0 1))))) := by
  decide

end Tickr.Scope
