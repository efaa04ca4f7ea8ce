import Tickr.LocalScope.Identity

/-!
# The laws of a history of scope steps

What the steps of a run find in its scope after any history of steps of all
runs, with the default namespace, if the run is not rehydrated.
-/

namespace Tickr.LocalScope

open Table
open LogStream (Uuid Bytes)
open ScopeStore

variable {supervisor : Supervisor} {run scope : Uuid} {isOpened : Prop}
  {contents : Contents} {store : ScopeStore} {now : Int}

def Step.opens (run : Uuid) : Step → Bool
  | .launch launched _ _ _ => launched = run
  | .stage staged _ => staged = run
  | _ => false

theorem RunScope.mono {opened : Prop} (holds : RunScope supervisor run opened contents store)
    (present : isOpened → ∃ row ∈ store.scopes, row.scopeId = run) :
    RunScope supervisor run isOpened contents store := { holds with present }

variable (holds : RunScope supervisor run isOpened contents store)

include holds in
theorem RunScope.create (creates : Creates run input) :
    RunScope supervisor run isOpened contents
      (store.createTickrCtxScope supervisor.codec input).2 := by
  rcases createTickrCtxScope_cases supervisor.codec store input with
    ⟨same, _⟩ | ⟨digest, hash, _, admitted⟩
  · rw [same]
    exact holds
  rw [admitted]
  rcases createAdmitted_cases store input digest with ⟨same, _⟩ | ⟨free, isAdded⟩
  · rw [same]
    exact holds
  · rw [isAdded]
    exact holds.added creates free hash

theorem creates_taskScope (other : Uuid) (now : Int) :
    Creates run (taskScopeInput defaultCtxNamespace other now) where
  inScope := rfl
  ofRun := rfl
  own isRun := ⟨rfl, congrArg ClaimId.taskScope isRun, rfl⟩
  unseeded _ _ := by simp [taskScopeInput]

include holds in
theorem RunScope.create_own (now : Int) :
    ((store.createTickrCtxScope supervisor.codec
          (taskScopeInput defaultCtxNamespace run now)).1 = .ok .created ∨
        (store.createTickrCtxScope supervisor.codec
          (taskScopeInput defaultCtxNamespace run now)).1 = .ok .idempotent) ∧
      ∃ row ∈ (store.createTickrCtxScope supervisor.codec
          (taskScopeInput defaultCtxNamespace run now)).2.scopes,
        row.scopeId = run := by
  have admitted : store.createTickrCtxScope supervisor.codec
      (taskScopeInput defaultCtxNamespace run now) =
        store.createAdmitted (taskScopeInput defaultCtxNamespace run now) (.mutation run []) := rfl
  rw [admitted]
  unfold createAdmitted
  split
  · rename_i row found
    have claimed := List.find?_some found
    have mem := List.mem_of_find?_eq_some found
    have isClaim : row.creationClaim = .taskScope run := of_decide_eq_true claimed
    have isRun : row.scopeId = run := by
      by_contra other
      exact (holds.elsewhere row mem other).2 isClaim
    have identified := holds.identified row mem isRun
    simp only [taskScopeInput, isRun, identified.inNamespace,
      identified.ofRun, identified.empty, decide_true, Bool.and_self,
      if_true]
    exact ⟨.inr trivial, row, mem, isRun⟩
  · rename_i claim
    have noRow : ∀ row ∈ store.scopes, row.scopeId ≠ run := by
      intro row mem isRun
      have unclaimed := List.find?_eq_none.mp claim row mem
      exact unclaimed (decide_eq_true (holds.identified row mem isRun).claimed)
    have unnamed : ∀ row ∈ store.scopes, row.runId ≠ run := fun row mem =>
      (holds.elsewhere row mem (noRow row mem)).1
    split
    · rename_i row found
      have named := List.find?_some found
      have mem := List.mem_of_find?_eq_some found
      rw [Bool.and_eq_true] at named
      exact absurd (of_decide_eq_true named.2) (unnamed row mem)
    · split
      · rename_i taken
        simp only [Bool.or_eq_true, List.any_eq_true] at taken
        rcases taken with ⟨row, mem, isRun⟩ | ⟨row, mem, isClaim⟩
        · exact absurd (of_decide_eq_true isRun) (noRow row mem)
        · have owned := holds.claims_scoped row mem
          rw [of_decide_eq_true isClaim] at owned
          exact absurd owned.symm ((holds.absent noRow).1 row mem)
      · exact ⟨.inl rfl, createdRow _ _, List.mem_append_right _ (List.mem_singleton_self _), rfl⟩

def wroteTo (run scope : Uuid) (values : List ScopeValue)
    (contents : Contents) : Except ScopeError WriteOutcome → Contents
  | .ok (.applied _ _) =>
    if scope = run then contents.putAll values else contents
  | _ => contents

theorem wroteTo_of_not_applied (run scope : Uuid) (values : List ScopeValue) (contents : Contents)
    (notApplied : ∀ inserted updated, answer ≠ .ok (.applied inserted updated)) :
    wroteTo run scope values contents answer = contents := by
  unfold wroteTo
  split
  · rename_i inserted updated
    exact absurd rfl (notApplied inserted updated)
  · rfl

include holds

theorem RunScope.write (scope : Uuid) (claim : ClaimId) (values : List ScopeValue) (now : Int)
    (inScope : claim.owner = scope)
    (seeds : ∀ signal, claim = .seed run signal → values = supervisor.captures signal) :
    RunScope supervisor run isOpened
      (wroteTo run scope values contents
        (store.writeTickrCtxScope supervisor.codec scope claim values now).1)
      (store.writeTickrCtxScope supervisor.codec scope claim values now).2 := by
  rcases writeTickrCtxScope_cases supervisor.codec store scope claim values now with
    ⟨same, notApplied, _⟩ | ⟨_, _, _, _, hash, _, found, active, wrote⟩
  · rw [same, wroteTo_of_not_applied run scope values contents notApplied]
    exact holds
  rw [wrote]
  have mutation := (mutationDigest_ok hash).2
  apply holds.applied found active inScope
  · intro signal isSeed
    have isRun : run = scope := by
      rw [isSeed] at inScope
      exact inScope
    rw [mutation, seeds signal isSeed, isRun]
  · exact keyed_insertAll holds.values_keyed values
  · intro stores
    simp only [wroteTo]
    by_cases isRun : scope = run
    · rw [if_pos isRun, isRun]
      exact stores.insertAll values
    · rw [if_neg isRun]
      exact stores.insertAll_of_ne isRun values
  · intro other
    simp only [wroteTo, if_neg other]

theorem RunScope.delete (scope : Uuid) (nonce : Nat) (key : String) (now : Int) :
    RunScope supervisor run isOpened
      (recorded supervisor run contents (.delete scope nonce key now)
        (.deleted (store.deleteTickrCtxScopeValue scope (.request scope nonce) key now).1))
      (store.deleteTickrCtxScopeValue scope (.request scope nonce) key now).2 := by
  rcases deleteTickrCtxScopeValue_cases store scope (.request scope nonce) key now with
    ⟨same, _, _⟩ | ⟨_, row, _, found, active, removed⟩
  · have kept : recorded supervisor run contents (.delete scope nonce key now)
        (.deleted (store.deleteTickrCtxScopeValue scope
          (.request scope nonce) key now).1) = contents := by
      unfold recorded
      split <;> simp_all
    rw [same, kept]
    exact holds
  · rw [removed]
    -- A key without a value is removed from the contents without effect.
    have removes : recorded supervisor run contents (.delete scope nonce key now)
        (.deleted (.ok (if affected (fun row : ValueRow =>
            row.scopeId = scope && row.key = key) store.values = 0
          then .missingKey else .deleted))) =
        if scope = run ∧ affected (fun row : ValueRow =>
            row.scopeId = scope && row.key = key) store.values ≠ 0
          then contents.remove key else contents := by
      by_cases missing : affected (fun row : ValueRow =>
          row.scopeId = scope && row.key = key) store.values = 0
      · rw [if_pos missing, if_neg (by simp [missing])]
        rfl
      rw [if_neg missing]
      by_cases isRun : scope = run
      · rw [if_pos ⟨isRun, missing⟩]
        simp only [recorded, if_pos isRun]
      · rw [if_neg (by simp [isRun])]
        simp only [recorded, if_neg isRun]
    rw [removes]
    apply holds.applied found active rfl
    · intro _ seed
      cases seed
    · exact holds.values_keyed.filter _
    · intro stores
      by_cases isRun : scope = run
      · rw [isRun]
        by_cases missing : affected (fun row : ValueRow =>
            row.scopeId = run && row.key = key) store.values = 0
        · rw [if_neg (by simp [missing])]
          have noneSelected := List.countP_eq_zero.mp missing
          rw [List.filter_eq_self.mpr]
          · exact stores
          · intro row mem
            have picked := noneSelected row mem
            rw [Bool.not_eq_true] at picked
            rw [picked]
            rfl
        · rw [if_pos ⟨rfl, missing⟩]
          exact stores.remove key
      · rw [if_neg (by simp [isRun])]
        intro stored envelope
        rw [List.mem_filter, stores stored envelope]
        simp [Ne.symm isRun]
    · intro other
      rw [if_neg (by simp [other])]

variable {row : ScopeRow}

theorem RunScope.of_scopeRow {property : ScopeRow → Prop}
    (found : store.scopeRow scope = some row) (isProperty : property row) :
    ∀ stored ∈ store.scopes, stored.scopeId = scope → property stored := by
  obtain ⟨mem, isScope⟩ := scopeRow_some found
  intro _ kept ofScope
  rw [holds.eq kept mem (ofScope.trans isScope.symm)]
  exact isProperty

theorem RunScope.settled (settles : Settles supervisor.codec store after) :
    RunScope supervisor run isOpened contents after := by
  cases settles with
  | same => exact holds
  | quarantined scope diagnostic => exact holds.quarantined scope diagnostic
  | snapshotted found active => exact holds.snapshotted (holds.of_scopeRow found active)

theorem RunScope.cleanup (scope : Uuid) :
    RunScope supervisor run isOpened contents
      (store.cleanupTickrCtxScope supervisor.codec scope).2 := by
  rcases cleanupTickrCtxScope_cases supervisor.codec store scope with
    ⟨settles, _⟩ | ⟨_, found, isSealed, isCleared⟩
  · exact holds.settled settles
  · rw [isCleared]
    exact holds.cleared (holds.of_scopeRow found isSealed)

theorem RunScope.launchIn (launched scope : Uuid) (signal : Option Uuid) (archived : Bool)
    (now : Int) :
    RunScope supervisor run isOpened
      (recorded supervisor run contents (.launch launched signal archived now)
        (.launched (launchIn supervisor scope signal archived now store).1))
      (launchIn supervisor scope signal archived now store).2 := by
  cases signal with
  | none => exact holds
  | some signal =>
    unfold LocalScope.launchIn seedTriggerCaptures
    simp only
    split
    · exact holds
    split
    · exact holds
    have written := holds.write scope (.seed scope signal) (supervisor.captures signal) now rfl
      (fun _ isSeed => by
        rw [ClaimId.seed.injEq] at isSeed
        rw [isSeed.2])
    split
    all_goals
      rename_i writes
      rw [writes] at written
    · exact written
    · exact written
    · exact written
    · rename_i notApplied _
      have kept := wroteTo_of_not_applied run scope
        (supervisor.captures signal) contents (fun inserted updated same =>
          notApplied inserted updated (Except.ok.inj same))
      rw [kept] at written
      exact written

omit holds

theorem RunScope.perform (inDefault : supervisor.contextNamespace = defaultCtxNamespace)
    (holds : RunScope supervisor run isOpened contents store) (step : Step)
    (first : ∀ plan now, step ≠ .rehydrate run plan now) :
    RunScope supervisor run (isOpened ∨ step.opens run = true)
      (recorded supervisor run contents step (supervisor.perform store step).1)
      (supervisor.perform store step).2 := by
  have keeps : step.opens run = false → ∀ {changed after},
      RunScope supervisor run isOpened changed after →
      RunScope supervisor run (isOpened ∨ step.opens run = true) changed after := by
    intro opensNot _ _ kept
    apply kept.mono
    intro opened
    rw [opensNot] at opened
    exact kept.present (by simpa using opened)
  have opensOwn : ∀ (launched : Uuid) (now : Int),
      RunScope supervisor run (isOpened ∨ launched = run) contents
        (store.createTickrCtxScope supervisor.codec
          (taskScopeInput defaultCtxNamespace launched now)).2 := by
    intro launched now
    have created := holds.create (creates_taskScope launched now)
    apply created.mono
    intro opened
    rcases opened with wasOpened | isRun
    · exact created.present wasOpened
    · rw [isRun]
      exact (holds.create_own now).2
  cases step with
  | rehydrate replayed plan now =>
    have creates : Creates run
        { scopeId := replayed
          contextNamespace := replayNamespace
          runId := replayed
          claim := .rehydration replayed
          values := plan
          now := now } := by
      refine ⟨rfl, rfl, ?_, ?_⟩
      · intro isRun
        exact absurd (congrArg (Step.rehydrate · plan now) isRun) (first plan now)
      · simp
    exact keeps rfl (holds.create creates)
  | launch launched signal archived now =>
    have opened := opensOwn launched now
    simp only [Supervisor.perform, spawnClaimed, inDefault, Step.opens, decide_eq_true_eq]
    split
    all_goals
      rename_i isCreated
      rw [isCreated] at opened
    · cases signal <;> exact opened
    · exact opened.launchIn launched launched signal archived now
    · exact opened.launchIn launched launched signal archived now
    · exact opened.launchIn launched _ signal archived now
    · cases signal <;> exact opened
  | put scope nonce values now =>
    apply keeps rfl
    have written := holds.write scope (.request scope nonce) values now rfl
      (fun _ seed => by cases seed)
    have writes : recorded supervisor run contents (.put scope nonce values now)
        (supervisor.perform store (.put scope nonce values now)).1 =
        wroteTo run scope values contents
          (store.writeTickrCtxScope supervisor.codec scope
            (.request scope nonce) values now).1 := by
      simp only [Supervisor.perform]
      unfold recorded wroteTo
      split <;> simp_all
    rw [writes]
    exact written
  | delete scope nonce key now => exact keeps rfl (holds.delete scope nonce key now)
  | read scope now => exact keeps rfl (holds.settled (readTickrCtxScope_settles scope now))
  | stage staged now =>
    have opened := opensOwn staged now
    simp only [Supervisor.perform, stageForRelay, Step.opens, decide_eq_true_eq]
    split
    all_goals
      rename_i isCreated
      rw [isCreated] at opened
      exact opened
  | drain drained now =>
    have settles := @snapshotTickrCtxScopeForRun_settles supervisor.codec store
      defaultCtxNamespace drained now
    exact keeps rfl (holds.settled settles)
  | cleanup scope => exact keeps rfl (holds.cleanup scope)

/-- A launch fails on the identity of its scope when the scope is not created,
is not found, or holds another request under the claim of the captures. -/
def LaunchFault.onIdentity : LaunchFault → Bool
  | .createError _ => true
  | .createRefused _ => true
  | .seedRefused .missing => true
  | .seedRefused .claimConflict => true
  | .seedError .constraintViolated => true
  | _ => false

/-- What the steps of a run find after a history: the scope they name is the
run's own, is there once it was opened, and what they read and archive is what
the run's own requests wrote. -/
structure ScopeLaws (supervisor : Supervisor) (run : Uuid) (isOpened : Prop)
    (contents : Contents) (store : ScopeStore) : Prop where
  launch : ∀ signal isArchived now,
    (∃ seeding, (spawnClaimed supervisor run signal isArchived now store).1 = .ok ⟨run, seeding⟩) ∨
      ∃ fault, (spawnClaimed supervisor run signal isArchived now store).1 =
        .error fault ∧ fault.onIdentity = false
  stage : ∀ now, (stageForRelay supervisor run now store).1 = .ok ()
  write : isOpened → ∀ claim values now,
    (store.writeTickrCtxScope supervisor.codec run claim values now).1 ≠ .ok .missing
  delete : isOpened → ∀ claim key now,
    (store.deleteTickrCtxScopeValue run claim key now).1 ≠ .ok .missing
  read : isOpened → ∀ now, ∃ outcome,
    (store.readTickrCtxScope supervisor.codec run now).1 = .ok outcome ∧ outcome ≠ .missing ∧
      (∀ values, outcome = .present values → Listed contents values) ∧
      ∀ snapshot, outcome = .archived snapshot →
        ∃ values, Listed contents values ∧ snapshot = takenSnapshot supervisor.codec run values
  drain : isOpened → ∀ now, ∃ outcome,
    (drainSnapshot supervisor run now store).1 = .ok outcome ∧ outcome ≠ .missing ∧
      ∀ snapshot, outcome = .committed snapshot ∨ outcome = .idempotent snapshot →
        ∃ values, Listed contents values ∧ snapshot = takenSnapshot supervisor.codec run values

variable (holds : RunScope supervisor run isOpened contents store)
include holds

theorem RunScope.scopeRow (opened : isOpened) : ∃ row, store.scopeRow run = some row := by
  obtain ⟨row, mem, isRun⟩ := holds.present opened
  apply Option.isSome_iff_exists.mp
  apply List.find?_isSome.mpr
  exact ⟨row, mem, decide_eq_true isRun⟩

theorem RunScope.writable (opened : isOpened) (claim : ClaimId) (digest : RequestDigest)
    (now : Int) :
    store.writable run claim digest now ≠ .missing ∧
      (∀ signal, claim = .seed run signal →
        digest = .mutation run (sortValues (supervisor.captures signal)) →
        store.writable run claim digest now ≠ .claimed false) := by
  obtain ⟨_, found⟩ := holds.scopeRow opened
  unfold ScopeStore.writable
  rw [found]
  simp only
  constructor
  · split
    · simp
    split
    · simp
    · split
      · simp
      · split <;> simp
  · intro signal isSeed hash
    split
    · simp
    split
    · rename_i held kept
      have claimed := List.find?_some kept
      have mem := List.mem_of_find?_eq_some kept
      have isClaim : held.claim = claim := of_decide_eq_true claimed
      have owned := holds.claims_scoped held mem
      rw [isClaim, isSeed] at owned
      have same := holds.seeded held mem signal (isClaim.trans isSeed)
      have ofRun : held.scopeId = run := owned.symm
      simp [ofRun, same, hash]
    · split
      · simp
      · split <;> simp

omit holds

theorem validateKeys_error (isError : validateKeys seen keys = .error error) :
    error ≠ .constraintViolated := by
  induction keys generalizing seen with
  | nil => cases isError
  | cons key keys ih =>
    unfold validateKeys validateKey at isError
    split at isError
    · rename_i first isFirst
      simp only [Except.error.injEq] at isError
      by_cases bad : key.utf8ByteSize = 0 ∨ maxKeyBytes < key.utf8ByteSize
      · rw [if_pos bad, Except.error.injEq] at isFirst
        rw [← isError, ← isFirst]
        simp
      · rw [if_neg bad] at isFirst
        cases isFirst
    · split at isError
      · simp only [Except.error.injEq] at isError
        rw [← isError]
        simp
      · exact ih isError

include holds

theorem RunScope.write_answer (opened : isOpened) (claim : ClaimId) (values : List ScopeValue)
    (now : Int) :
    (store.writeTickrCtxScope supervisor.codec run claim values now).1 ≠ .ok .missing ∧
      (store.writeTickrCtxScope supervisor.codec run claim values now).1 ≠
        .error .constraintViolated ∧
      ∀ signal, claim = .seed run signal → values = supervisor.captures signal →
        (store.writeTickrCtxScope supervisor.codec run claim values now).1 ≠
          .ok .claimConflict := by
  unfold writeTickrCtxScope mutationDigest
  cases valid : validateKeys [] (values.map ScopeValue.key) with
  | error =>
    have notTaken := validateKeys_error valid
    simp [Except.map, notTaken]
  | ok =>
    simp only [Except.map]
    obtain ⟨there, ours⟩ := holds.writable opened claim (.mutation run (sortValues values)) now
    split
    · simp
    split
    · rename_i isMissing
      exact absurd isMissing there
    · simp
    · simp
    · rename_i taken
      refine ⟨by simp, by simp, ?_⟩
      intro signal isSeed caught
      exact absurd taken (ours signal isSeed (by rw [caught]))
    · simp
    · simp
    · split <;> simp

theorem RunScope.seeding (opened : isOpened) (signal : Option Uuid) (filed : Bool)
    (now : Int) :
    (∃ seeding,
        (LocalScope.launchIn supervisor run signal filed now store).1 = .ok ⟨run, seeding⟩) ∨
      ∃ fault,
        (LocalScope.launchIn supervisor run signal filed now store).1 =
          .error fault ∧ fault.onIdentity = false := by
  unfold LocalScope.launchIn seedTriggerCaptures
  cases signal with
  | none => exact .inl ⟨none, rfl⟩
  | some signal =>
    simp only
    split
    · exact .inr ⟨.capturesAbsent, rfl, rfl⟩
    split
    · exact .inl ⟨none, rfl⟩
    obtain ⟨_, _, _⟩ := holds.write_answer opened
      (.seed run signal) (supervisor.captures signal) now
    split
    · rename_i error _ wrote
      refine .inr ⟨.seedError error, rfl, ?_⟩
      cases error <;> simp_all [LaunchFault.onIdentity]
    · exact .inl ⟨_, rfl⟩
    · exact .inl ⟨_, rfl⟩
    · rename_i outcome _ _ _ wrote
      refine .inr ⟨.seedRefused outcome, rfl, ?_⟩
      cases outcome <;> simp_all [LaunchFault.onIdentity]

omit holds

variable (inDefault : supervisor.contextNamespace = defaultCtxNamespace)

include inDefault in
theorem RunScope.launch (holds : RunScope supervisor run isOpened contents store)
    (signal : Option Uuid) (filed : Bool) (now : Int) :
    (∃ seeding, (spawnClaimed supervisor run signal filed now store).1 = .ok ⟨run, seeding⟩) ∨
      ∃ fault, (spawnClaimed supervisor run signal filed now store).1 =
        .error fault ∧ fault.onIdentity = false := by
  obtain ⟨answer, there⟩ := holds.create_own now
  have made : RunScope supervisor run True contents
      (store.createTickrCtxScope supervisor.codec (taskScopeInput defaultCtxNamespace run now)).2 :=
    (holds.create (creates_taskScope run now)).mono fun _ => there
  unfold spawnClaimed
  rw [inDefault]
  split
  all_goals
    rename_i isCreated
    rw [isCreated] at answer made
  · simp at answer
  · exact made.seeding trivial signal filed now
  · exact made.seeding trivial signal filed now
  · simp at answer
  · rename_i outcome _ notCreated idempotent _
    rcases answer with first | second
    · exact absurd (Except.ok.inj first) notCreated
    · exact absurd (Except.ok.inj second) idempotent

include holds

theorem RunScope.stage (now : Int) : (stageForRelay supervisor run now store).1 = .ok () := by
  obtain ⟨answer, _⟩ := holds.create_own now
  unfold stageForRelay
  split
  · rename_i made
    rw [made] at answer
    simp at answer
  · rfl
  · rfl
  · rfl
  · rename_i notCreated idempotent _ made
    rw [made] at answer
    rcases answer with first | second
    · exact absurd (Except.ok.inj first) notCreated
    · exact absurd (Except.ok.inj second) idempotent

theorem RunScope.delete_answer (opened : isOpened) (claim : ClaimId) (key : String) (now : Int) :
    (store.deleteTickrCtxScopeValue run claim key now).1 ≠ .ok .missing := by
  unfold deleteTickrCtxScopeValue
  split
  · simp
  rename_i digest _
  have there := (holds.writable opened claim digest now).1
  split
  · rename_i isMissing
    exact absurd isMissing there
  · simp
  · simp
  · simp
  · simp
  · simp
  · simp only
    split <;> simp

theorem RunScope.committed (found : store.scopeRow run = some row) (isSealed : row.IsSealed)
    (kept : snapshotFromRecord supervisor.codec row = .ok snapshot) :
    ∃ values, Listed contents values ∧ snapshot = takenSnapshot supervisor.codec run values := by
  obtain ⟨mem, isRun⟩ := scopeRow_some found
  obtain ⟨values, listed, taken⟩ := holds.archived row mem isRun isSealed
  refine ⟨values, listed, ?_⟩
  unfold snapshotFromRecord at kept
  rw [taken] at kept
  simp only at kept
  split at kept
  · cases kept
  · split at kept
    · cases kept
    · exact (Except.ok.inj kept).symm

theorem RunScope.listed (found : store.scopeRow run = some row) (isActive : row.state = .active) :
    Listed contents (store.scopeValues run) :=
  listed_scopeValues holds.values_keyed (holds.stored (holds.of_scopeRow found isActive))

theorem RunScope.read_answer (opened : isOpened) (now : Int) : ∃ outcome,
    (store.readTickrCtxScope supervisor.codec run now).1 = .ok outcome ∧ outcome ≠ .missing ∧
      (∀ values, outcome = .present values → Listed contents values) ∧
      ∀ snapshot, outcome = .archived snapshot →
        ∃ values, Listed contents values ∧
          snapshot = takenSnapshot supervisor.codec run values := by
  obtain ⟨row, found⟩ := holds.scopeRow opened
  have held : row.IsSealed → ∃ outcome,
      (store.committedSnapshot supervisor.codec row ReadOutcome.archived
        .quarantined).1 = .ok outcome ∧ outcome ≠ .missing ∧
        (∀ values, outcome = .present values → Listed contents values) ∧
        ∀ snapshot, outcome = .archived snapshot →
          ∃ values, Listed contents values ∧
            snapshot = takenSnapshot supervisor.codec run values := by
    intro isSealed
    unfold ScopeStore.committedSnapshot
    split
    · rename_i snapshot kept
      refine ⟨.archived snapshot, rfl, by simp, by simp, ?_⟩
      intro _ ne
      rw [← ReadOutcome.archived.inj ne]
      exact holds.committed found isSealed kept
    · exact ⟨_, rfl, by simp, by simp, by simp⟩
  unfold readTickrCtxScope
  rw [found]
  simp only
  split
  · exact ⟨_, rfl, by simp, by simp, by simp⟩
  · rename_i state
    exact held (.inl state)
  · rename_i state
    exact held (.inr state)
  rename_i active
  split
  · exact ⟨_, rfl, by simp, by simp, by simp⟩
  split
  · exact ⟨_, rfl, by simp, by simp, by simp⟩
  split
  · exact ⟨_, rfl, by simp, by simp, by simp⟩
  refine ⟨_, rfl, by simp, ?_, by simp⟩
  intro _ isValues
  rw [← ReadOutcome.present.inj isValues]
  exact holds.listed found active

theorem RunScope.drain_answer (opened : isOpened) (now : Int) : ∃ outcome,
    (drainSnapshot supervisor run now store).1 = .ok outcome ∧ outcome ≠ .missing ∧
      ∀ snapshot, outcome = .committed snapshot ∨ outcome = .idempotent snapshot →
        ∃ values, Listed contents values ∧
          snapshot = takenSnapshot supervisor.codec run values := by
  obtain ⟨row, hit⟩ := holds.scopeRow opened
  obtain ⟨mem, isRun⟩ := scopeRow_some hit
  have identified := holds.identified row mem isRun
  have held : row.IsSealed → ∃ outcome,
      (store.committedSnapshot supervisor.codec row SnapshotOutcome.idempotent
        .quarantined).1 = .ok outcome ∧ outcome ≠ .missing ∧
        ∀ snapshot, outcome = .committed snapshot ∨ outcome = .idempotent snapshot →
          ∃ values, Listed contents values ∧
            snapshot = takenSnapshot supervisor.codec run values := by
    intro isSealed
    unfold ScopeStore.committedSnapshot
    split
    · rename_i snapshot kept
      refine ⟨.idempotent snapshot, rfl, by simp, ?_⟩
      intro _ ne
      simp only [reduceCtorEq, SnapshotOutcome.idempotent.injEq, false_or] at ne
      rw [← ne]
      exact holds.committed hit isSealed kept
    · exact ⟨_, rfl, by simp, by simp⟩
  have resolves : (drainSnapshot supervisor run now store).1 =
      (store.snapshotTickrCtxScope supervisor.codec run now).1 := by
    unfold drainSnapshot snapshotTickrCtxScopeForRun
    have valid : validateScopeIdentity defaultCtxNamespace = .ok () := rfl
    rw [valid]
    simp only
    split
    · rename_i isNone
      have unnamed := List.find?_eq_none.mp isNone row mem
      simp [identified.inNamespace, identified.ofRun] at unnamed
    rename_i found isNamed
    have named := List.find?_some isNamed
    rw [Bool.and_eq_true] at named
    have ofRun : found.runId = run := of_decide_eq_true named.2
    have own : found.scopeId = run := by
      by_contra other
      exact (holds.elsewhere found (List.mem_of_find?_eq_some isNamed) other).1 ofRun
    rw [own]
  rw [resolves]
  unfold snapshotTickrCtxScope
  rw [hit]
  simp only
  split
  · exact ⟨_, rfl, by simp, by simp⟩
  · rename_i state
    exact held (.inl state)
  · rename_i state
    exact held (.inr state)
  rename_i active
  split
  · exact ⟨_, rfl, by simp, by simp⟩
  split
  · exact ⟨_, rfl, by simp, by simp⟩
  split
  · exact ⟨_, rfl, by simp, by simp⟩
  refine ⟨_, rfl, by simp, ?_⟩
  intro _ isSnapshot
  simp only [reduceCtorEq, SnapshotOutcome.committed.injEq, or_false] at isSnapshot
  exact ⟨_, holds.listed hit active, isSnapshot.symm⟩

omit holds

include inDefault

theorem RunScope.laws (holds : RunScope supervisor run isOpened contents store) :
    ScopeLaws supervisor run isOpened contents store where
  launch := holds.launch inDefault
  stage := holds.stage
  write opened claim values now := (holds.write_answer opened claim values now).1
  delete opened := holds.delete_answer opened
  read opened := holds.read_answer opened
  drain opened := holds.drain_answer opened

theorem runScope_after (history : List Step)
    (first : ∀ plan now, .rehydrate run plan now ∉ history) :
    RunScope supervisor run (∃ step ∈ history, step.opens run = true)
      (supervisor.after run history).2 (supervisor.after run history).1 := by
  induction history with
  | nil =>
    apply runScope_empty.mono
    simp
  | cons step _ ih =>
    have holds := ih fun plan now mem =>
      first plan now (.tail step mem)
    have ran := holds.perform inDefault step fun plan now isStep =>
      first plan now (isStep ▸ (.head _))
    apply ran.mono
    intro opened
    apply ran.present
    rw [List.exists_mem_cons_iff] at opened
    exact opened.symm

omit inDefault

/-- After any history of scope steps of all runs, the steps of a run that is
not rehydrated find one scope, with what they wrote to it. -/
theorem scopeLaws_of_firstRun (supervisor : Supervisor)
    (inDefault : supervisor.contextNamespace = defaultCtxNamespace)
    (run : Uuid) (history : List Step) (firstRun : ∀ plan now, .rehydrate run plan now ∉ history) :
    ScopeLaws supervisor run (∃ step ∈ history, step.opens run = true)
      (supervisor.after run history).2 (supervisor.after run history).1 :=
  (runScope_after inDefault history firstRun).laws inDefault

/-- A machine whose envelopes are all valid. -/
def exampleSupervisor (contextNamespace : String) : Supervisor :=
  { codec :=
      { contentDigest := fun _ => ""
        validateEnvelope := fun _ => .ok () }
    contextNamespace := contextNamespace
    captures := fun signal => [⟨"signal/" ++ toString signal, [1]⟩] }

/-- A run is launched twice with the captures of its signal, writes a value and
is staged. -/
def exampleHistory : List Step :=
  [.stage 7 4, .put 7 0 [⟨"answer", [42]⟩] 3, .launch 7 (some 9) true 2, .launch 7 (some 9) true 1]

theorem scopeLaws_of_exampleHistory :
    ScopeLaws (exampleSupervisor "default") 7 (∃ step ∈ exampleHistory, step.opens 7 = true)
      ((exampleSupervisor "default").after 7 exampleHistory).2
      ((exampleSupervisor "default").after 7 exampleHistory).1 :=
  scopeLaws_of_firstRun (exampleSupervisor "default") rfl 7 exampleHistory
    (by simp [exampleHistory])

/-- A replay run cannot be launched after its rehydration, nor rehydrated after
its launch, and a run of another namespace than the default cannot be staged
and is not found by the drain. -/
theorem scope_of_replay_or_otherNamespace :
    (spawnClaimed (exampleSupervisor "default") 7 none false 1
        (rehydrate (exampleSupervisor "default") 7 [⟨"answer", [42]⟩] 0
          .empty).2).1 = .error (.createError .constraintViolated) ∧
      (rehydrate (exampleSupervisor "default") 7 [⟨"answer", [42]⟩] 1
        (spawnClaimed (exampleSupervisor "default") 7 none false 0
          .empty).2).1 = .error .constraintViolated ∧
      (stageForRelay (exampleSupervisor "team") 7 1
        (spawnClaimed (exampleSupervisor "team") 7 none false 0
          .empty).2).1 = .error (.createRefused .claimConflict) ∧
      (drainSnapshot (exampleSupervisor "team") 7 1
        (spawnClaimed (exampleSupervisor "team") 7 none false 0 .empty).2).1 = .ok .missing :=
  ⟨rfl, rfl, rfl, rfl⟩

end Tickr.LocalScope
