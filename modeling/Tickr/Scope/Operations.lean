import Tickr.Scope.Clients

/-!
# The store's operations keep the promises

Every operation is safe for its client.  What was read key by key is what is
stored, provided the word that was read before was quiet and is still the
newest one.
-/

namespace Tickr.Scope

open Concurrent KeyValue
open Concurrent.Discipline
open SafeExcept (andThen andDone)

theorem ok_of_map {ε α β : Type} {function : α → β} {result : Except ε α}
    {image : β} (mapped : result.map function = .ok image) :
    ∃ value, result = .ok value ∧ function value = image := by
  cases result with
  | ok value =>
    cases mapped
    exact ⟨value, rfl, rfl⟩
  | error => cases mapped

variable {store : NatsScopeStore} {owner : String} {calls : Nat → ScopeCall}
  {peer : Nat} {log : ScopeLog}

/-- What a check lets through is known to have passed it. -/
theorem check_safe {α : Type} (result : Except NatsScopeError α) :
    SafeScope store owner calls peer
      (fun value _ => result = .ok value) (Program.check result) log :=
  .check fun _ equal _ _ _ => equal

theorem pure_safe {α : Type} (value : α) :
    SafeScope store owner calls peer Any (pure value) log := .pure fun _ _ _ => trivial

theorem loadMetadata_safe :
    SafeScope store owner calls peer
      (fun found later => ∀ word, found = some word →
        ∃ seen, entry (metadataKey owner) seen = some ⟨word.revision, some (.metadata word.value)⟩ ∧
          (scopeDiscipline store owner calls).Evolves seen later)
      (loadMetadata store owner) log := by
  apply andThen (storeEntry_safe (metadataKey owner))
  rintro found _ _ ⟨seen, _, evolves, read⟩
  match found with
  | none =>
    refine .pure ?_
    rintro _ _ _ _ ⟨⟩
  | some ⟨_, none⟩ =>
    refine .pure ?_
    rintro _ _ _ _ ⟨⟩
  | some ⟨revision, some (.metadata value)⟩ =>
    refine .pure ?_
    rintro _ rely _ _ ⟨⟩
    exact ⟨seen, read.symm, evolves.trans rely.evolves⟩
  | some ⟨_, some (.envelope _)⟩ => exact SafeTry.throw

variable {metadata : ScopeMetadata}

theorem owner_of_requireIdentity (passes : store.requireIdentity metadata owner = .ok ()) :
    metadata.owner = owner := by
  unfold NatsScopeStore.requireIdentity at passes
  split at passes
  · next identity => exact identity.2.2
  · cases passes

theorem requireMetadata_safe :
    SafeScope store owner calls peer (fun word later => Witnessed store owner calls word later)
      (requireMetadata store owner) log := by
  apply andThen loadMetadata_safe
  intro found _ _ witnessed
  cases found with
  | none => exact SafeTry.throw
  | some word =>
    obtain ⟨seen, read, evolves⟩ := witnessed word rfl
    apply andThen (check_safe _)
    intro _ _ check passes
    refine .pure ?_
    intro _ rely _
    exact ⟨owner_of_requireIdentity passes, seen, read,
      (evolves.trans check).trans rely.evolves⟩

theorem ensureScope_safe :
    SafeScope store owner calls peer Any (ensureScope store owner) log := by
  apply andThen (check_safe _)
  intro _ _ _ _
  apply andThen loadMetadata_safe
  intro found _ _ _
  cases found with
  | some word =>
    apply andThen (check_safe _)
    intro _ _ _ _
    cases word.value.state with
    | active | mutating => exact pure_safe _
    | _ => exact SafeTry.throw
  | none =>
    apply andThen (storeCreate_safe rfl)
    intro made _ _ _
    cases made with
    | ok => exact pure_safe _
    | error =>
      apply andThen loadMetadata_safe
      intro again _ _ _
      cases again with
      | none => exact SafeTry.throw
      | some => exact (check_safe _).weaken fun _ _ _ _ => trivial

theorem readValues_safe (keys : List String) :
    SafeScope store owner calls peer (fun values later =>
        (∀ value ∈ values, value.key ∈ keys) ∧
          ∀ metadata revision anchor,
            Quiet owner metadata revision anchor log →
              revisionOf (metadataKey owner) later = revision → values = entriesAt anchor keys)
      (readValues store keys) log := by
  induction keys generalizing log with
  | nil =>
    refine .pure ?_
    intro _ _ _
    exact ⟨by simp, fun _ _ _ _ _ => rfl⟩
  | cons key _ ih =>
    apply andThen (storeEntry_safe key)
    rintro found _ reads ⟨_, evolvesSeen, seenEvolves, read⟩
    match found with
    | none => exact SafeTry.throw
    | some ⟨_, none⟩ => exact SafeTry.throw
    | some ⟨_, some (.metadata _)⟩ => exact SafeTry.throw
    | some ⟨revision, some (.envelope envelope)⟩ =>
      apply andThen (check_safe _)
      intro _ _ check _
      apply andThen ih
      intro _ _ evolvesRest collected
      refine .pure ?_
      intro _ rely _
      obtain ⟨othersKeys, othersStored⟩ := collected
      refine ⟨List.forall_mem_cons.mpr ⟨.head _, ?_⟩, ?_⟩
      · intro value other
        exact .tail key (othersKeys value other)
      intro metadata now anchor quiet same
      have quietSeen := quiet.evolves evolvesSeen
      have toLater := evolvesRest.trans rely.evolves
      have sameSeen := quietSeen.unchanged_before
        ((seenEvolves.trans check).trans toLater) same
      have sameRest := (quietSeen.evolves ((seenEvolves.trans check).trans
          evolvesRest)).revision_before rely.evolves same
      have kept : lookup key anchor = some (.envelope envelope) := by
        rw [← sameSeen]
        exact lookup_eq read.symm
      have tail := othersStored metadata now anchor
        (quiet.evolves (reads.trans check)) sameRest
      rw [tail]
      simp only [entriesAt, List.filterMap_cons, kept]

theorem keysOf_safe :
    SafeScope store owner calls peer (fun keys later =>
        (∀ key ∈ keys, isValueKeyOf owner key = true) ∧
          ∀ metadata revision anchor,
            Quiet owner metadata revision anchor log →
              revisionOf (metadataKey owner) later = revision →
                keys = ((liveKeys anchor).filter (isValueKeyOf owner) ).insertionSort (· ≤ ·))
      (keysOf store owner) log := by
  apply andThen storeKeys_safe
  rintro _ _ _ ⟨_, evolvesSeen, seenEvolves, read⟩
  refine .pure ?_
  intro _ rely _
  constructor
  · intro _ mem
    exact (List.mem_filter.mp ((List.mem_insertionSort _).mp mem)).2
  · intro _ _ _ quiet same
    have sameSeen := (quiet.evolves evolvesSeen).unchanged_before
      (seenEvolves.trans rely.evolves) same
    rw [read, sameSeen]

theorem collectOwner_safe :
    SafeScope store owner calls peer (fun values later =>
        (∀ value ∈ values, isValueKeyOf owner value.key = true) ∧
          ∀ metadata revision anchor,
            Quiet owner metadata revision anchor log →
              revisionOf (metadataKey owner) later = revision → values = storedEntries owner anchor)
      (collectOwner store owner) log := by
  apply andThen keysOf_safe
  rintro keys _ evolvesKeys ⟨keysOwned, keysStored⟩
  apply andThen (readValues_safe keys)
  rintro _ _ evolvesValues ⟨owned, kept⟩
  apply SafeTry.check
  intro _ passes _ rely _
  obtain ⟨_, _, isSorted⟩ := ok_of_map passes
  subst isSorted
  constructor
  · intro value mem
    exact keysOwned _ (owned value ((List.mem_insertionSort _).mp mem))
  · intro metadata revision anchor quiet same
    have quietKeys := quiet.evolves evolvesKeys
    have sameValues := (quietKeys.evolves evolvesValues).revision_before rely.evolves same
    have sameKeys := quietKeys.revision_before evolvesValues sameValues
    rw [kept metadata revision anchor quietKeys sameValues,
      keysStored metadata revision anchor quiet sameKeys]
    rfl

theorem sortEntries_storedEntries (log : ScopeLog) :
    sortEntries (storedEntries owner log) = storedEntries owner log := by
  apply List.Pairwise.insertionSort_eq
  apply List.pairwise_insertionSort

variable {word : VersionedMetadata}

/-- Recovery puts an interrupted word back to `Active`, or quarantines it. -/
theorem advance_recoveredMetadata
    (isMutating : metadata.state = .mutating) (kept entries : List NatsScopeEntry) :
    Advance store kept metadata (recoveredMetadata store metadata entries) := by
  unfold recoveredMetadata
  split
  · exact .quarantine isMutating _
  · split
    · exact .quarantine isMutating _
    · exact .unlock isMutating _ _

theorem Advance.owner_eq (advance : Advance store kept metadata next) :
    next.owner = metadata.owner := by
  cases advance <;> rfl

variable (seen : Witnessed store owner calls word log)

include seen in
theorem recoverMutation_safe
    (isMutating : word.value.state = .mutating) :
    SafeScope store owner calls peer
      (fun after later => Witnessed store owner calls after later)
      (recoverMutation store word) log := by
  unfold recoverMutation
  rw [seen.1]
  apply andThen collectOwner_safe
  intro entries _ read _
  have advance := fun kept =>
    @advance_recoveredMetadata store _ isMutating kept entries
  apply andThen
    (updateMetadata_safe (seen.evolves read)
      ((advance []).owner_eq.trans seen.1) fun _ _ _ => advance _)
  intro _ _ _ after
  split
  · exact SafeTry.throw
  · refine .pure ?_
    intro _ rely _
    exact after.evolves rely.evolves

theorem settledMetadata_safe :
    SafeScope store owner calls peer
      (fun ends later => Witnessed store owner calls ends later)
      (settledMetadata store owner) log := by
  apply andThen requireMetadata_safe
  intro _ _ _ seen
  split
  · next mutating => exact recoverMutation_safe seen mutating
  · refine .pure ?_
    intro _ rely _
    exact seen.evolves rely.evolves

theorem lockActive_safe :
    SafeScope store owner calls peer (fun locked later =>
        Witnessed store owner calls locked later ∧ locked.value.state = .mutating)
      (lockActive store owner) log := by
  apply andThen ensureScope_safe
  intro _ _ _ _
  apply andThen settledMetadata_safe
  intro _ _ _ seen
  split
  · rename_i active
    refine andThen
      (updateMetadata_safe seen seen.1 fun _ _ _ => .lock active) ?_
    intro _ _ _ locked
    refine .pure ?_
    intro _ rely _
    exact ⟨locked.evolves rely.evolves, rfl⟩
  all_goals exact SafeTry.throw

include seen in
theorem unlockActive_safe
    (isMutating : word.value.state = .mutating) (rows bytes : Nat) :
    SafeScope store owner calls peer Any (unlockActive store word rows bytes) log := by
  refine andThen
    (updateMetadata_safe seen seen.1 fun _ _ _ => .unlock isMutating rows bytes) ?_
  intro _ _ _ _
  exact pure_safe _

theorem slash_follows_takeWhile (hasSlash : '/' ∈ text) :
    text.takeWhile (· ≠ '/') ++ ['/'] <+: text := by
  induction text with
  | nil => cases hasSlash
  | cons char rest ih =>
    by_cases slash : char = '/'
    · subst slash
      exact ⟨rest, by simp⟩
    have later : '/' ∈ rest := by
      rcases List.mem_cons.mp hasSlash with same | later
      · exact absurd same.symm slash
      · exact later
    have grown := List.prefix_cons_inj char |>.mpr (ih later)
    simpa [slash] using grown

variable {key : String}

theorem isValueKeyOf_of_validateKey (passes : validateKey key = .ok ())
    (ofOwner : ownerFromKey key = .ok owner) :
    isValueKeyOf owner key = true := by
  have notMetadata : isMetadataKey key = false := by
    unfold validateKey at passes
    split at passes
    · cases passes
    rename_i took
    cases isMetadata : isMetadataKey key with
    | false => rfl
    | true => exact absurd (.inr (.inr isMetadata)) took
  have start : (owner ++ "/").toList <+: key.toList := by
    unfold ownerFromKey at ofOwner
    split at ofOwner
    · rename_i slash
      obtain ⟨_, _, named⟩ := ok_of_map ofOwner
      rw [← named]
      simpa using slash_follows_takeWhile (List.contains_iff_mem.mp slash)
    · cases ofOwner
  rw [isValueKeyOf, notMetadata, List.isPrefixOf_iff_prefix.mpr start]
  rfl

theorem put_safe (call : calls peer = .put key envelope)
    (ofOwner : ownerFromKey key = .ok owner) :
    SafeScope store owner calls peer Any (put store key envelope) log := by
  unfold put
  rw [ofOwner]
  apply andThen (check_safe _)
  intro _ _ _ valid
  have value := isValueKeyOf_of_validateKey valid ofOwner
  apply andThen (check_safe _)
  intro _ _ _ _
  apply andThen (check_safe _)
  intro _ _ _ _
  apply andThen (check_safe _)
  rintro _ _ _ ⟨⟩
  apply andThen lockActive_safe
  rintro _ _ _ ⟨seen, mutating⟩
  apply andThen collectOwner_safe
  intro _ _ reads _
  have read := seen.evolves reads
  dsimp only
  split
  · apply andThen (unlockActive_safe read mutating _ _)
    intro _ _ _ _
    exact .throw trivial
  apply andThen (.attempt (storePut_safe ⟨_, _, call⟩ value))
  intro wrote _ evolvesWrite _
  have write := read.evolves evolvesWrite
  cases wrote with
  | error =>
    apply andThen (unlockActive_safe write mutating _ _)
    intro _ _ _ _
    exact .throw trivial
  | ok => exact unlockActive_safe write mutating _ _

theorem delete_safe (call : calls peer = .delete key) (ofOwner : ownerFromKey key = .ok owner) :
    SafeScope store owner calls peer Any (delete store key) log := by
  unfold delete
  rw [ofOwner]
  apply andThen (check_safe _)
  intro _ _ _ valid
  have value := isValueKeyOf_of_validateKey valid ofOwner
  apply andThen (check_safe _)
  rintro _ _ _ ⟨⟩
  apply andThen lockActive_safe
  rintro _ _ _ ⟨seen, mutating⟩
  apply andThen collectOwner_safe
  intro _ _ reads _
  have read := seen.evolves reads
  split
  · exact andDone (unlockActive_safe read mutating _ _)
  apply andThen (storeDelete_locked_safe ⟨_, call⟩ value)
  intro _ _ write _
  exact andDone (unlockActive_safe
    (read.evolves write) mutating _ _)

/-- A snapshot seals what is stored: the word it replaces is the one it read
before the values. -/
theorem snapshot_safe : SafeScope store owner calls peer Any (snapshot store owner) log := by
  have rereads : ∀ (metadata : ScopeMetadata) (state : ScopeLog),
      SafeScope store owner calls peer Any (do
          let entries ← collectOwner store owner
          let taken ← .check (store.snapshotFromEntries owner entries)
          .check (checkSealed metadata owner taken)) state := by
    intro _ _
    apply andThen collectOwner_safe
    intro _ _ _ _
    apply andThen (check_safe _)
    intro _ _ _ _
    exact (check_safe _).weaken fun _ _ _ _ => trivial
  apply andThen (check_safe _)
  intro _ _ _ _
  apply andThen settledMetadata_safe
  intro _ _ _ seen
  split
  · rename_i active
    apply andThen collectOwner_safe
    rintro _ _ read ⟨_, held⟩
    apply andThen (check_safe _)
    intro _ _ evolvesCheck isTaken
    have witnessedCheck := (seen.evolves read).evolves evolvesCheck
    obtain ⟨_, quiet⟩ := seen.quiet (.inl active)
    refine andThen (updateMetadata_safe witnessedCheck seen.1 ?_) ?_
    · intro _ evolves same
      have quietRead := quiet.evolves read
      have sameRead := quietRead.revision_before (evolvesCheck.trans evolves) same
      have isAnchor := (quietRead.evolves (evolvesCheck.trans evolves)).unchanged same
      have kept := held _ _ _ quiet sameRead
      obtain ⟨_, _, isSnapshot⟩ := ok_of_map isTaken
      subst isSnapshot
      rw [kept, isAnchor]
      simp only [sortEntries_storedEntries]
      exact .record active
    · intro _ _ _ _
      exact pure_safe _
  · exact rereads _ _
  · exact rereads _ _
  · exact .throw trivial
  · split
    · exact .throw trivial
    · exact .throw trivial
  · exact .throw trivial
  · exact .throw trivial

theorem markArchiveCommitted_safe (digest : String) :
    SafeScope store owner calls peer Any (markArchiveCommitted store owner digest) log := by
  apply andThen requireMetadata_safe
  intro _ _ _ seen
  split
  · exact .throw trivial
  split
  · rename_i snapshotted
    refine andThen
      (updateMetadata_safe seen seen.1 fun _ _ _ => .commit snapshotted) ?_
    intro _ _ _ _
    exact pure_safe _
  all_goals first | exact pure_safe _ | exact .throw trivial

theorem deleteEntries_safe (cleaning : CleaningPhase owner log)
    (owned : ∀ value ∈ entries, isValueKeyOf owner value.key = true) :
    SafeScope store owner calls peer Any (deleteEntries store entries) log := by
  induction entries generalizing log with
  | nil => exact pure_safe _
  | cons first _ ih =>
    apply andThen
      (storeDelete_cleaning_safe cleaning (owned first (.head _)))
    intro _ _ evolves _
    exact ih (cleaning.evolves evolves)
      fun value mem => owned value (.tail first mem)

include seen in
theorem finishCleanup_safe
    (isCleaning : word.value.state = .cleaning) :
    SafeScope store owner calls peer Any (finishCleanup store owner word) log := by
  apply andThen collectOwner_safe
  rintro _ _ reads ⟨owned, _⟩
  have read := seen.evolves reads
  apply andThen (deleteEntries_safe (read.cleaning isCleaning) owned)
  intro _ _ delete _
  refine andThen
    (updateMetadata_safe (read.evolves delete) seen.1
      fun _ _ _ => .finishCleaning isCleaning) ?_
  intro _ _ _ _
  exact pure_safe _

theorem cleanupArchived_safe :
    SafeScope store owner calls peer Any (cleanupArchived store owner) log := by
  apply andThen requireMetadata_safe
  intro _ _ _ seen
  split
  · exact pure_safe _
  · rename_i commits
    refine andThen
      (updateMetadata_safe seen seen.1
        fun _ _ _ => .startCleaning commits) ?_
    intro _ _ _ cleaning
    exact finishCleanup_safe cleaning rfl
  · next isCleaning => exact finishCleanup_safe seen isCleaning
  all_goals exact .throw trivial

end Tickr.Scope
