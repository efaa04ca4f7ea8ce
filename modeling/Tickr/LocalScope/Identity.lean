import Tickr.LocalScope.Runs

/-!
# One scope for a run

With the default namespace the launches and the staging of a run that is no
replay name one scope, and no other step touches it.
-/

namespace Tickr.LocalScope

open Table
open LogStream (Uuid Bytes)
open ScopeStore

variable {digest : RequestDigest} {row : ScopeRow} {codec : ScopeCodec} {store : ScopeStore}
  {scope run : Uuid} {claim : ClaimId} {values : List ScopeValue} {now : Int}

def ClaimId.owner : ClaimId → Uuid
  | .taskScope run => run
  | .rehydration run => run
  | .seed scope _ => scope
  | .request scope _ => scope

theorem scopeRow_some (hit : store.scopeRow scope = some row) :
    row ∈ store.scopes ∧ row.scopeId = scope := by
  have found := List.find?_some hit
  exact ⟨List.mem_of_find?_eq_some hit, of_decide_eq_true found⟩

def ScopeStore.added (store : ScopeStore) (input : CreateInput)
    (digest : RequestDigest) : ScopeStore :=
  { scopes := store.scopes ++ [createdRow input digest]
    values := store.insertScopeValues input.scopeId input.values
    claims := store.claims ++ [⟨input.claim, input.scopeId, digest⟩] }

/-- The tables with a request applied that wrote values. -/
def ScopeStore.wrote (store : ScopeStore) (scope : Uuid) (claim : ClaimId)
    (digest : RequestDigest) (values : List ScopeValue) : ScopeStore :=
  { store with
    values := store.insertScopeValues scope values
    claims := store.claims ++ [⟨claim, scope, digest⟩] }

/-- The tables with a request applied that deleted a value. -/
def ScopeStore.removed (store : ScopeStore) (scope : Uuid) (claim : ClaimId)
    (digest : RequestDigest) (key : String) : ScopeStore :=
  { store with
    values := store.values.filter fun row =>
      !(row.scopeId = scope && row.key = key)
    claims := store.claims ++ [⟨claim, scope, digest⟩] }

def ScopeStore.cleared (store : ScopeStore) (scope : Uuid) : ScopeStore :=
  { scopes := updateWhere (fun row => row.scopeId = scope)
      (fun row => { row with state := .cleaned }) store.scopes
    values := store.values.filter fun row => row.scopeId ≠ scope
    claims := store.claims.filter fun row => row.scopeId ≠ scope }

/-- What is recorded of the claim that created a scope. -/
def ScopeRow.creation (row : ScopeRow) : ClaimRow :=
  ⟨row.creationClaim, row.scopeId, row.creationDigest⟩

theorem mutationDigest_ok (hash : mutationDigest scope values = .ok digest) :
    validateKeys [] (values.map ScopeValue.key) = .ok () ∧
      digest = .mutation scope (sortValues values) := by
  unfold mutationDigest at hash
  cases valid : validateKeys [] (values.map ScopeValue.key) with
  | error =>
    rw [valid] at hash
    cases hash
  | ok =>
    rw [valid] at hash
    exact ⟨rfl, (Except.ok.inj hash).symm⟩

theorem createAdmitted_cases (store : ScopeStore) (input : CreateInput) (digest : RequestDigest) :
    ((store.createAdmitted input digest).2 = store ∧
        (store.createAdmitted input digest).1 ≠ .ok .created ∧
        ((store.createAdmitted input digest).1 = .ok .idempotent →
          ∃ row ∈ store.scopes, row.creation = ⟨input.claim, input.scopeId, digest⟩)) ∨
      (∀ row ∈ store.scopes, row.scopeId ≠ input.scopeId) ∧
        store.createAdmitted input digest = (.ok .created, store.added input digest) := by
  unfold createAdmitted
  split
  · rename_i row found
    split
    · rename_i same
      have isClaim := List.find?_some found
      simp only [Bool.and_eq_true, decide_eq_true_eq] at same isClaim
      refine .inl ⟨rfl, by simp, fun _ => ⟨row, List.mem_of_find?_eq_some found, ?_⟩⟩
      rw [ScopeRow.creation, isClaim, same.1.1.1, same.2]
    · exact .inl ⟨rfl, by simp, by simp⟩
  · split
    · exact .inl ⟨rfl, by simp, by simp⟩
    split
    · exact .inl ⟨rfl, by simp, by simp⟩
    rename_i free
    simp only [Bool.or_eq_true, List.any_eq_true, decide_eq_true_eq,
      not_or, not_exists, not_and] at free
    exact .inr ⟨free.1, rfl⟩

theorem createTickrCtxScope_cases (codec : ScopeCodec) (store : ScopeStore) (input : CreateInput) :
    ((store.createTickrCtxScope codec input).2 = store ∧
        (store.createTickrCtxScope codec input).1 ≠ .ok .created ∧
        (store.createTickrCtxScope codec input).1 ≠ .ok .idempotent) ∨
      ∃ digest, mutationDigest input.scopeId input.values = .ok digest ∧
        (∀ rejection, validateMutation codec input.values = some rejection →
          rejection = .emptyRequest) ∧
        store.createTickrCtxScope codec input = store.createAdmitted input digest := by
  unfold createTickrCtxScope
  split
  · exact .inl ⟨rfl, by simp, by simp⟩
  split
  · exact .inl ⟨rfl, by simp, by simp⟩
  rename_i digest hash
  split
  · rename_i isNone
    exact .inr ⟨digest, hash, by simp [isNone], rfl⟩
  · rename_i empty
    exact .inr ⟨digest, hash, by simp [empty], rfl⟩
  · exact .inl ⟨rfl, by simp, by simp⟩

theorem writable_scope (isWritable : store.writable scope claim digest now = .scope row) :
    store.scopeRow scope = some row ∧ row.state = .active := by
  unfold writable at isWritable
  split at isWritable
  · cases isWritable
  rename_i found hit
  split at isWritable
  · cases isWritable
  split at isWritable
  · cases isWritable
  split at isWritable
  · cases isWritable
  rename_i isActive
  split at isWritable
  · cases isWritable
  · simp only [Writable.scope.injEq] at isWritable
    rw [← isWritable]
    exact ⟨hit, by simpa using isActive⟩

theorem claim_of_writable (isClaimed : store.writable scope claim digest now = .claimed true) :
    ⟨claim, scope, digest⟩ ∈ store.claims := by
  rw [writable] at isClaimed
  split at isClaimed
  · cases isClaimed
  split at isClaimed
  · cases isClaimed
  split at isClaimed
  · rename_i row found
    have isClaim := List.find?_some found
    have isRow : row = ⟨claim, scope, digest⟩ := by
      cases row
      simp_all
    rw [← isRow]
    exact List.mem_of_find?_eq_some found
  · split at isClaimed
    · cases isClaimed
    · split at isClaimed <;> cases isClaimed

theorem writeTickrCtxScope_cases (codec : ScopeCodec) (store : ScopeStore)
    (scope : Uuid) (claim : ClaimId) (values : List ScopeValue) (now : Int) :
    ((store.writeTickrCtxScope codec scope claim values now).2 = store ∧
        (∀ inserted updated,
          (store.writeTickrCtxScope codec scope claim values now).1 ≠
            .ok (.applied inserted updated)) ∧
        ((store.writeTickrCtxScope codec scope claim values now).1 = .ok .idempotent →
          ∃ digest, mutationDigest scope values = .ok digest ∧
            validateMutation codec values = none ∧ ⟨claim, scope, digest⟩ ∈ store.claims)) ∨
      ∃ digest row inserted updated, mutationDigest scope values = .ok digest ∧
        validateMutation codec values = none ∧
        store.scopeRow scope = some row ∧ row.state = .active ∧
        store.writeTickrCtxScope codec scope claim values now =
          (.ok (.applied inserted updated), store.wrote scope claim digest values) := by
  unfold writeTickrCtxScope
  split
  · exact .inl ⟨rfl, by simp, by simp⟩
  rename_i digest hash
  split
  · exact .inl ⟨rfl, by simp, by simp⟩
  rename_i admitted
  split
  iterate 2 exact .inl ⟨rfl, by simp, by simp⟩
  · rename_i claimed
    exact .inl ⟨rfl, by simp, fun _ => ⟨digest, hash, admitted, claim_of_writable claimed⟩⟩
  iterate 3 exact .inl ⟨rfl, by simp, by simp⟩
  rename_i row writable
  obtain ⟨found, isActive⟩ := writable_scope writable
  split
  · exact .inl ⟨rfl, by simp, by simp⟩
  · exact .inr ⟨digest, row, _, _, hash, admitted, found, isActive, rfl⟩

theorem deleteTickrCtxScopeValue_cases (store : ScopeStore) (scope : Uuid)
    (claim : ClaimId) (key : String) (now : Int) :
    ((store.deleteTickrCtxScopeValue scope claim key now).2 = store ∧
        (store.deleteTickrCtxScopeValue scope claim key now).1 ≠ .ok .deleted ∧
        (store.deleteTickrCtxScopeValue scope claim key now).1 ≠ .ok .missingKey ∧
        ((store.deleteTickrCtxScopeValue scope claim key now).1 = .ok .idempotent →
          ∃ digest, deleteDigest scope key = .ok digest ∧ ⟨claim, scope, digest⟩ ∈ store.claims)) ∨
      ∃ digest row, deleteDigest scope key = .ok digest ∧
        store.scopeRow scope = some row ∧ row.state = .active ∧
        store.deleteTickrCtxScopeValue scope claim key now =
          (.ok (if affected (fun row : ValueRow =>
              row.scopeId = scope && row.key = key) store.values = 0
            then .missingKey else .deleted),
            store.removed scope claim digest key) := by
  unfold deleteTickrCtxScopeValue
  split
  · exact .inl ⟨rfl, by simp, by simp, by simp⟩
  rename_i digest hash
  split
  iterate 2 exact .inl ⟨rfl, by simp, by simp, by simp⟩
  · rename_i claimed
    exact .inl ⟨rfl, by simp, by simp, fun _ => ⟨digest, hash, claim_of_writable claimed⟩⟩
  iterate 3 exact .inl ⟨rfl, by simp, by simp, by simp⟩
  rename_i row writable
  obtain ⟨found, isActive⟩ := writable_scope writable
  exact .inr ⟨digest, row, hash, found, isActive, rfl⟩

def ScopeRow.IsSealed (row : ScopeRow) : Prop := row.state = .snapshotted ∨ row.state = .cleaned

/-- What a call that reads or seals a scope leaves of the tables. -/
inductive Settles (codec : ScopeCodec) (store : ScopeStore) : ScopeStore → Prop
  | same : Settles codec store store
  | quarantined (scope : Uuid) (diagnostic : String) :
      Settles codec store (store.quarantineScope scope diagnostic)
  | snapshotted {scope : Uuid} {row : ScopeRow} (isFound : store.scopeRow scope = some row)
      (isActive : row.state = .active) :
      Settles codec store (store.updateScope scope fun row =>
        { row with
          state := .snapshotted
          snapshot := some (takenSnapshot codec scope (store.scopeValues scope)) })

theorem committedSnapshot_settles {α : Type} {answer : ScopeSnapshot → α}
    {quarantined : String → α} (row : ScopeRow) :
    Settles codec store (store.committedSnapshot codec row answer quarantined).2 := by
  unfold ScopeStore.committedSnapshot
  split
  · exact .same
  · exact .quarantined row.scopeId _

theorem readTickrCtxScope_settles (scope : Uuid) (now : Int) :
    Settles codec store (store.readTickrCtxScope codec scope now).2 := by
  unfold readTickrCtxScope
  split
  · exact .same
  rename_i row found
  split
  · exact .same
  · exact committedSnapshot_settles row
  · exact committedSnapshot_settles row
  split
  · exact .same
  simp only
  split
  · exact .same
  · split
    · exact .quarantined scope _
    · exact .same

theorem snapshotTickrCtxScope_settles (scope : Uuid) (now : Int) :
    Settles codec store (store.snapshotTickrCtxScope codec scope now).2 := by
  unfold snapshotTickrCtxScope
  split
  · exact .same
  rename_i row found
  split
  · exact .same
  · exact committedSnapshot_settles row
  · exact committedSnapshot_settles row
  rename_i active
  split
  · exact .same
  simp only
  split
  · exact .same
  · split
    · exact .quarantined scope _
    · exact .snapshotted found active

theorem snapshotTickrCtxScopeForRun_settles (contextNamespace : String) (run : Uuid) (now : Int) :
    Settles codec store (store.snapshotTickrCtxScopeForRun codec contextNamespace run now).2 := by
  unfold snapshotTickrCtxScopeForRun
  split
  · exact .same
  · split
    · exact .same
    · exact snapshotTickrCtxScope_settles _ now

theorem cleanupTickrCtxScope_cases (codec : ScopeCodec) (store : ScopeStore) (scope : Uuid) :
    (Settles codec store (store.cleanupTickrCtxScope codec scope).2 ∧
        (store.cleanupTickrCtxScope codec scope).1 ≠ .ok .cleaned) ∨
      ∃ row, store.scopeRow scope = some row ∧ row.IsSealed ∧
        store.cleanupTickrCtxScope codec scope = (.ok .cleaned, store.cleared scope) := by
  unfold cleanupTickrCtxScope
  split
  · exact .inl ⟨.same, by simp⟩
  rename_i row found
  split
  · exact .inl ⟨.same, by simp⟩
  · exact .inl ⟨.same, by simp⟩
  · rename_i state
    split
    · exact .inl ⟨.quarantined scope _, by simp⟩
    · rw [if_neg (by simp [state])]
      exact .inr ⟨row, found, .inl state, rfl⟩
  · rename_i state
    split
    · exact .inl ⟨.quarantined scope _, by simp⟩
    · rw [if_pos state]
      exact .inl ⟨.same, by simp⟩

variable {supervisor : Supervisor} {isOpened : Prop} {contents : Contents}

/-- The row that the launches and the staging of a run create. -/
structure Identified (run : Uuid) (row : ScopeRow) : Prop where
  inNamespace : row.contextNamespace = defaultCtxNamespace
  ofRun : row.runId = run
  claimed : row.creationClaim = .taskScope run
  empty : row.creationDigest = .mutation run []

/-- The scope of a run exists once it is opened, is the one that its launches
name, and holds what its steps wrote; its snapshot holds that too. -/
structure RunScope (supervisor : Supervisor) (run : Uuid) (isOpened : Prop)
    (contents : Contents) (store : ScopeStore) : Prop where
  present : isOpened → ∃ row ∈ store.scopes, row.scopeId = run
  scopes_keyed : Keyed ScopeRow.scopeId store.scopes
  values_keyed : Keyed (fun row : ValueRow => (row.scopeId, row.key)) store.values
  elsewhere : ∀ row ∈ store.scopes, row.scopeId ≠ run →
    row.runId ≠ run ∧ row.creationClaim ≠ .taskScope run
  identified : ∀ row ∈ store.scopes, row.scopeId = run → Identified run row
  claims_scoped : ∀ row ∈ store.claims, row.claim.owner = row.scopeId
  seeded : ∀ row ∈ store.claims, ∀ signal, row.claim = .seed run signal →
    row.digest = .mutation run (sortValues (supervisor.captures signal))
  absent : (∀ row ∈ store.scopes, row.scopeId ≠ run) →
    (∀ row ∈ store.claims, row.scopeId ≠ run) ∧ contents = fun _ => none
  stored : (∀ row ∈ store.scopes, row.scopeId = run → row.state = .active) →
    Stores run contents store.values
  archived : ∀ row ∈ store.scopes, row.scopeId = run → row.IsSealed →
    ∃ values, Listed contents values ∧
      row.snapshot = some (takenSnapshot supervisor.codec run values)

theorem runScope_empty :
    RunScope supervisor run False (fun _ => none) .empty where
  present isOpened := isOpened.elim
  scopes_keyed := keyed_nil
  values_keyed := keyed_nil
  elsewhere _ mem := nomatch mem
  identified _ mem := nomatch mem
  claims_scoped _ mem := nomatch mem
  seeded _ mem := nomatch mem
  absent _ := by simp [ScopeStore.empty]
  stored _ := by simp [Stores, ScopeStore.empty]
  archived _ mem := nomatch mem

variable (holds : RunScope supervisor run isOpened contents store)

include holds in
theorem RunScope.eq (isFirst : first ∈ store.scopes)
    (isSecond : second ∈ store.scopes) (same : first.scopeId = second.scopeId) : first = second :=
  holds.scopes_keyed.eq isFirst isSecond same

/-- A new scope is that of another run, or the one of this run, created by a
launch or by staging. -/
structure Creates (run : Uuid) (input : CreateInput) : Prop where
  inScope : input.claim.owner = input.scopeId
  ofRun : input.runId = input.scopeId
  own : input.scopeId = run →
    input.contextNamespace = defaultCtxNamespace ∧ input.claim = .taskScope run ∧ input.values = []
  unseeded : ∀ scope signal, input.claim ≠ .seed scope signal

include holds

theorem RunScope.added (creates : Creates run input)
    (free : ∀ row ∈ store.scopes, row.scopeId ≠ input.scopeId)
    (hash : mutationDigest input.scopeId input.values = .ok digest) :
    RunScope supervisor run isOpened contents (store.added input digest) := by
  have made : ∀ row, row ∈ (store.added input digest).scopes ↔
      row ∈ store.scopes ∨ row = createdRow input digest := by
    simp [ScopeStore.added]
  have stores : (∀ row ∈ (store.added input digest).scopes,
      row.scopeId = run → row.state = .active) →
      Stores run contents (store.insertScopeValues input.scopeId input.values) := by
    intro active
    have stored := holds.stored fun row mem =>
      active row ((made row).mpr (.inl mem))
    by_cases isRun : input.scopeId = run
    · rw [(creates.own isRun).2.2]
      exact stored
    · exact stored.insertAll_of_ne isRun input.values
  constructor
  · intro opened
    obtain ⟨row, mem, isRun⟩ := holds.present opened
    exact ⟨row, (made row).mpr (.inl mem), isRun⟩
  · exact holds.scopes_keyed.append free
  · exact keyed_insertAll holds.values_keyed input.values
  · intro row mem other
    rcases (made row).mp mem with old | rfl
    · exact holds.elsewhere row old other
    have notRun : input.scopeId ≠ run := other
    constructor
    · change input.runId ≠ run
      rw [creates.ofRun]
      exact notRun
    · intro same
      have inScope := creates.inScope
      change input.claim = .taskScope run at same
      rw [same] at inScope
      exact notRun inScope.symm
  · intro row mem isRun
    rcases (made row).mp mem with old | rfl
    · exact holds.identified row old isRun
    have isOwn : input.scopeId = run := isRun
    obtain ⟨default, isClaim, noValues⟩ := creates.own isOwn
    refine ⟨default, creates.ofRun.trans isOwn, isClaim, ?_⟩
    rw [noValues, isOwn] at hash
    exact (Except.ok.inj hash).symm
  · exact List.forall_mem_append.mpr
      ⟨holds.claims_scoped, List.forall_mem_singleton.mpr creates.inScope⟩
  · refine List.forall_mem_append.mpr ⟨holds.seeded, List.forall_mem_singleton.mpr ?_⟩
    intro signal seed
    exact absurd seed (creates.unseeded run signal)
  · intro noRow
    have before := holds.absent fun row mem =>
      noRow row ((made row).mpr (.inl mem))
    refine ⟨List.forall_mem_append.mpr
      ⟨before.1, List.forall_mem_singleton.mpr ?_⟩, before.2⟩
    exact noRow _ ((made _).mpr (.inr rfl))
  · exact stores
  · intro row mem isRun isSealed
    rcases (made row).mp mem with old | rfl
    · exact holds.archived row old isRun isSealed
    · simp [ScopeRow.IsSealed, createdRow] at isSealed

theorem RunScope.applied {claim : ClaimId} (found : store.scopeRow scope = some row)
    (isActive : row.state = .active) (inScope : claim.owner = scope)
    (seeds : ∀ signal, claim = .seed run signal →
      digest = .mutation run (sortValues (supervisor.captures signal)))
    (keyed : Keyed (fun row : ValueRow => (row.scopeId, row.key)) rows)
    (stores : Stores run contents store.values → Stores run changed rows)
    (frame : scope ≠ run → changed = contents) :
    RunScope supervisor run isOpened changed { store with
        values := rows
        claims := store.claims ++ [⟨claim, scope, digest⟩] } := by
  obtain ⟨mem, isScope⟩ := scopeRow_some found
  refine ⟨holds.present, holds.scopes_keyed, keyed, holds.elsewhere, holds.identified,
    ?_, ?_, ?_, ?_, ?_⟩
  · exact List.forall_mem_append.mpr ⟨holds.claims_scoped, List.forall_mem_singleton.mpr inScope⟩
  · exact List.forall_mem_append.mpr ⟨holds.seeded, List.forall_mem_singleton.mpr seeds⟩
  · intro noRow
    have other : scope ≠ run := by
      rw [← isScope]
      exact noRow row mem
    obtain ⟨noClaim, empty⟩ := holds.absent noRow
    rw [frame other]
    exact ⟨List.forall_mem_append.mpr ⟨noClaim, List.forall_mem_singleton.mpr other⟩, empty⟩
  · intro active
    exact stores (holds.stored active)
  · intro stored kept isRun isSealed
    have other : scope ≠ run := by
      intro same
      have isSame := holds.eq mem kept (isScope.trans (same.trans isRun.symm))
      rw [← isSame] at isSealed
      simp [ScopeRow.IsSealed, isActive] at isSealed
    rw [frame other]
    exact holds.archived stored kept isRun isSealed

theorem RunScope.updated {change : ScopeRow → ScopeRow}
    (keeps : ∀ row, { change row with
      state := row.state
      snapshot := row.snapshot
      quarantineReason := row.quarantineReason } = row)
    (seals : ∀ row ∈ store.scopes, row.scopeId = scope → (change row).state ≠ .active)
    (archives : ∀ row ∈ store.scopes, row.scopeId = run → scope = run → (change row).IsSealed →
      ∃ values, Listed contents values ∧
        (change row).snapshot = some (takenSnapshot supervisor.codec run values)) :
    RunScope supervisor run isOpened contents (store.updateScope scope change) := by
  have keepsScope row : (change row).scopeId = row.scopeId := by
    simpa using congrArg ScopeRow.scopeId (keeps row)
  have isUpdated : ∀ row, row ∈ (store.updateScope scope change).scopes →
      ∃ old ∈ store.scopes, row.scopeId = old.scopeId ∧
        (old.scopeId = scope ∧ row = change old ∨ old.scopeId ≠ scope ∧ row = old) := by
    intro _ mem
    obtain ⟨old, isOld, isRow⟩ := mem_updateWhere.mp mem
    refine ⟨old, isOld, ?_⟩
    by_cases isScope : old.scopeId = scope
    · simp only [isScope] at isRow
      rw [← isRow]
      exact ⟨keepsScope old, .inl ⟨isScope, rfl⟩⟩
    · simp only [isScope] at isRow
      rw [← isRow]
      exact ⟨rfl, .inr ⟨isScope, rfl⟩⟩
  have kept : ∀ old ∈ store.scopes,
      ∃ row ∈ (store.updateScope scope change).scopes,
        row.scopeId = old.scopeId ∧
          (old.scopeId = scope ∧ row = change old ∨ old.scopeId ≠ scope ∧ row = old) := by
    intro old isOld
    by_cases isScope : old.scopeId = scope
    · exact ⟨change old, mem_updateWhere_of isOld (by simpa using isScope),
        keepsScope old, .inl ⟨isScope, rfl⟩⟩
    · exact ⟨old, mem_updateWhere_of_not isOld (by simpa using isScope), rfl, .inr ⟨isScope, rfl⟩⟩
  refine ⟨?_, holds.scopes_keyed.update keepsScope, holds.values_keyed, ?_,
    ?_, holds.claims_scoped, holds.seeded, ?_, ?_, ?_⟩
  · intro opened
    obtain ⟨old, isOld, isRun⟩ := holds.present opened
    obtain ⟨row, mem, sameScope, _⟩ := kept old isOld
    exact ⟨row, mem, sameScope.trans isRun⟩
  · intro row mem other
    obtain ⟨old, isOld, sameScope, changed | same⟩ := isUpdated row mem
    · have unmoved := holds.elsewhere old isOld (by rw [← sameScope]; exact other)
      rw [changed.2]
      rwa [← keeps old] at unmoved
    · rw [same.2]
      exact holds.elsewhere old isOld (by rw [← sameScope]; exact other)
  · intro row mem isRun
    obtain ⟨old, isOld, sameScope, changed | same⟩ := isUpdated row mem
    · have identified := holds.identified old isOld (sameScope.symm.trans isRun)
      rw [← keeps old] at identified
      rw [changed.2]
      exact ⟨identified.1, identified.2, identified.3, identified.4⟩
    · rw [same.2]
      exact holds.identified old isOld (sameScope.symm.trans isRun)
  · intro noRow
    apply holds.absent
    intro old isOld
    obtain ⟨row, mem, sameScope, _⟩ := kept old isOld
    rw [← sameScope]
    exact noRow row mem
  · intro active
    apply holds.stored
    intro old isOld isRun
    obtain ⟨row, mem, sameScope, changed | same⟩ := kept old isOld
    · have isActive := active row mem (sameScope.trans isRun)
      rw [changed.2] at isActive
      exact absurd isActive (seals old isOld changed.1)
    · rw [← same.2]
      exact active row mem (sameScope.trans isRun)
  · intro row mem isRun isSealed
    obtain ⟨old, isOld, sameScope, changed | same⟩ := isUpdated row mem
    · have oldRun := sameScope.symm.trans isRun
      rw [changed.2] at isSealed ⊢
      exact archives old isOld oldRun (changed.1.symm.trans oldRun) isSealed
    · rw [same.2] at isSealed ⊢
      exact holds.archived old isOld (sameScope.symm.trans isRun) isSealed

theorem RunScope.quarantined (scope : Uuid) (diagnostic : String) :
    RunScope supervisor run isOpened contents (store.quarantineScope scope diagnostic) := by
  apply holds.updated
  · intro _
    rfl
  · simp
  · intro _ _ _ _ isSealed
    simp [ScopeRow.IsSealed] at isSealed

theorem RunScope.snapshotted
    (active : ∀ row ∈ store.scopes, row.scopeId = scope → row.state = .active) :
    RunScope supervisor run isOpened contents (store.updateScope scope fun row =>
        { row with
          state := .snapshotted
          snapshot := some (takenSnapshot supervisor.codec scope (store.scopeValues scope)) }) := by
  apply holds.updated
  · intro _
    rfl
  · simp
  · intro _ _ _ isRun _
    rw [isRun] at active
    refine ⟨store.scopeValues run, ?_, ?_⟩
    · exact listed_scopeValues holds.values_keyed (holds.stored active)
    · rw [isRun]

theorem RunScope.cleared (isSealed : ∀ row ∈ store.scopes, row.scopeId = scope → row.IsSealed) :
    RunScope supervisor run isOpened contents (store.cleared scope) := by
  have marked : RunScope supervisor run isOpened contents
      (store.updateScope scope fun row => { row with state := .cleaned }) := by
    apply holds.updated
    · intro _
      rfl
    · simp
    · intro row mem isRun same _
      exact holds.archived row mem isRun (isSealed row mem (isRun.trans same.symm))
  refine ⟨marked.present, marked.scopes_keyed, marked.values_keyed.filter _,
    marked.elsewhere, marked.identified, ?_, ?_, ?_, ?_, marked.archived⟩
  · intro row mem
    exact marked.claims_scoped row (List.mem_filter.mp mem).1
  · intro row mem
    exact marked.seeded row (List.mem_filter.mp mem).1
  · intro noRow
    obtain ⟨noClaim, empty⟩ := marked.absent noRow
    exact ⟨fun row mem => noClaim row (List.mem_filter.mp mem).1, empty⟩
  · intro active
    have stored := marked.stored active
    by_cases isRun : scope = run
    · -- Without a row of its own the run has no contents either.
      have noRow : ∀ row ∈ (store.cleared scope).scopes, row.scopeId ≠ run := by
        intro row mem ofRun
        have isActive := active row mem ofRun
        obtain ⟨old, _, isRow⟩ := mem_updateWhere.mp mem
        by_cases isScope : old.scopeId = scope
        · simp only [isScope] at isRow
          rw [← isRow] at isActive
          cases isActive
        · simp only [isScope] at isRow
          rw [← isRow] at ofRun
          exact isScope (ofRun.trans isRun.symm)
      have empty := (marked.absent noRow).2
      intro _ _
      rw [empty]
      simp [ScopeStore.cleared, isRun]
    · exact stored.clean_of_ne isRun

omit holds

end Tickr.LocalScope
