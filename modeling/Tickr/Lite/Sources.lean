import Tickr.Lite.Compaction
import Tickr.LocalLog.Recovery
import Tickr.LocalScope.Identity

/-!
# The sources of a drain

What the drain reads of a run's journals and scope, and what its own steps leave
there: a journal keeps the seal it gets, a scope keeps its snapshot.
-/

namespace Tickr.Lite

open Table
open LogStream LocalLog LocalScope

variable {after : ScopeStore}

section Journals

variable {codec : LiteCodec} {sealed : LogSeal} {file : Bytes}
  {staging next : LocalLogStagingStream}

/-- A stored seal digest is that of the accepted records. -/
def SealMatches (codec : JournalCodec) (staging : LocalLogStagingStream) : Prop :=
  ∀ recordDigest, staging.sealDigest = some recordDigest →
    ∃ built, buildSeal codec staging = .ok built ∧ built.recordDigest = recordDigest

theorem sealMatches_applied {codec : JournalCodec}
    (ran : applyRecoveredFrame codec staging frame = .ok next) :
    SealMatches codec next := by
  unfold applyRecoveredFrame at ran
  split at ran
  · cases ran
  rename_i unsealed
  have noSeal : staging.sealDigest = none := by simpa using unsealed
  split at ran
  · split at ran
    · cases ran
    split at ran
    · cases ran
    rename_i built isBuilt
    split at ran
    · cases ran
    rename_i sameDigest
    rw [← Except.ok.inj ran]
    intro _ ne
    refine ⟨built, isBuilt, ?_⟩
    have isSame : built.recordDigest = _ := not_not.mp sameDigest
    rw [isSame]
    exact Option.some.inj ne
  all_goals
    split at ran
    · cases ran
    split at ran
    · cases ran
    rw [← Except.ok.inj ran]
    intro _ ne
    rw [noSeal] at ne
    cases ne

theorem sealMatches_folded {codec : JournalCodec} {frames : List JournalFrame}
    {start : LocalLogStagingStream} (starts : SealMatches codec start)
    (folded : frames.foldlM (applyRecoveredFrame codec) start =
      .ok staging) : SealMatches codec staging := by
  induction frames generalizing start with
  | nil =>
    cases folded
    exact starts
  | cons _ _ ih =>
    obtain ⟨_, step, isFolded⟩ := Rust.bind_eq_ok folded
    exact ih (sealMatches_applied step) isFolded

/-- An open journal without a torn tail, and the seal it gets. -/
def Opened (codec : LiteCodec) (sealed : LogSeal) (file : Bytes)
    (staging : LocalLogStagingStream) : Prop :=
  ∃ frames, Intact codec.journal sealed.stream file frames [] staging ∧
    (∀ frame ∈ frames, codec.journal.ReadsBack frame) ∧
    buildSeal codec.journal staging = .ok sealed

/-- A journal whose stream has ended, and the seal it gets. -/
def Sealable (codec : LiteCodec) (sealed : LogSeal) (file : Bytes) : Prop :=
  ∃ frames tail staging, Intact codec.journal sealed.stream file frames tail staging ∧
    (∀ frame ∈ frames, codec.journal.ReadsBack frame) ∧
    buildSeal codec.journal staging = .ok sealed

/-- The frame of the seal fits the journal and is read back from it. -/
def SealFrame (codec : LiteCodec) (sealed : LogSeal) : Prop :=
  codec.journal.ReadsBack (.sealed sealed.recordDigest) ∧
    (codec.encodeFrame (.sealed sealed.recordDigest)).length ≤ maxFrameBytes

variable (opened : Opened codec sealed file staging)

include opened in
theorem Opened.sealable :
    Sealable codec sealed file := by
  obtain ⟨frames, intact, back, built⟩ := opened
  exact ⟨frames, [], staging, intact, back, built⟩

theorem Sealable.opens (sealable : Sealable codec sealed file) :
    ∃ staging cut, openJournal codec.journal sealed.stream .none file = (.stream staging, cut) ∧
      Opened codec sealed cut staging := by
  obtain ⟨frames, _, staging, intact, back, built⟩ := sealable
  exact ⟨staging, _, openJournal_intact intact back .none,
    frames, intact.cut, back, built⟩

theorem Sealable.stopped (sealable : Sealable codec sealed file) (wrote : Nat) :
    Sealable codec sealed (openJournal codec.journal sealed.stream (.stops wrote) file).2 := by
  obtain ⟨frames, tail, staging, intact, back, built⟩ := sealable
  rw [openJournal_intact intact back]
  cases wrote with
  | zero => exact ⟨frames, tail, staging, intact, back, built⟩
  | succ => exact ⟨frames, [], staging, intact.cut, back, built⟩

include opened

theorem Opened.sealing :
    (∃ frame, sealStream codec.journal staging = .ok (.found frame)) ∨
      ∃ next, sealStream codec.journal staging = .ok (.append (.sealed sealed.recordDigest) next) ∧
        applyRecoveredFrame codec.journal staging (.sealed sealed.recordDigest) = .ok next ∧
        buildSeal codec.journal next = .ok sealed := by
  obtain ⟨_, intact, _, isBuilt⟩ := opened
  have ended : staging.state.terminal.isNone = false := by
    cases ends : staging.state.terminal with
    | some => rfl
    | none =>
      unfold buildSeal LogStreamState.sealStream at isBuilt
      rw [ends] at isBuilt
      cases isBuilt
  have matching : SealMatches codec.journal staging := by
    apply sealMatches_folded ?_ intact.replays
    intro _ digest
    cases digest
  cases isSealed : staging.sealDigest with
  | some recordDigest =>
    obtain ⟨_, sameBuilt, digest⟩ := matching recordDigest isSealed
    have isSame : sealed.recordDigest = recordDigest := by
      rw [isBuilt] at sameBuilt
      rw [Except.ok.inj sameBuilt]
      exact digest
    left
    exact ⟨.sealed recordDigest, by
      simp [LocalLog.sealStream, ended, isBuilt, isSealed, isSame]⟩
  | none =>
    right
    have ready : sealStream codec.journal staging =
        .ok (.append (.sealed sealed.recordDigest)
          { staging with sealDigest := some sealed.recordDigest }) := by
      simp [LocalLog.sealStream, ended, isBuilt, isSealed]
    have prepared : JournalOp.sealStream.prepare codec.journal staging =
        .ok (.append (.sealed sealed.recordDigest)
          { staging with sealDigest := some sealed.recordDigest }) := ready
    exact ⟨_, ready, recovered_of_append intact.replays.sound prepared, isBuilt⟩

theorem Opened.appended (fits : SealFrame codec sealed)
    (final : applyRecoveredFrame codec.journal staging (.sealed sealed.recordDigest) = .ok next)
    (built : buildSeal codec.journal next = .ok sealed) :
    (∃ grown, appendFrame codec.journal (.sealed sealed.recordDigest) .none
        file = (.synced, grown) ∧ Sealable codec sealed grown) ∧
      ∀ wrote, Sealable codec sealed
        (appendFrame codec.journal (.sealed sealed.recordDigest) (.stops wrote) file).2 := by
  obtain ⟨frames, intact, back, wasBuilt⟩ := opened
  have reads := List.forall_mem_append.mpr ⟨back, List.forall_mem_singleton.mpr fits.1⟩
  obtain ⟨⟨grown, isAppended, whole⟩, stopped⟩ := intact.append final fits.2
  refine ⟨⟨grown, isAppended, _, [], next, whole, reads, built⟩, ?_⟩
  intro wrote
  rcases stopped wrote with whole | ⟨tail, torn⟩
  · exact ⟨_, [], next, whole, reads, built⟩
  · exact ⟨frames, tail, staging, torn, back, wasBuilt⟩

end Journals

variable {codec : LiteCodec} {store : ScopeStore} {run other : Uuid}
  {row : ScopeRow} {snapshot : ScopeSnapshot} {moments : Int → Prop}
  {now : Int}

/-- The scope that the drain of a run finds. -/
def scopeOf (store : ScopeStore) (run : Uuid) : Option ScopeRow :=
  store.scopes.find? fun row =>
    row.contextNamespace = "default" && row.runId = run

/-- The snapshot that a drain gets of a scope, at any moment it may come. -/
def Snapshots (codec : LiteCodec) (moments : Int → Prop) (store : ScopeStore)
    (row : ScopeRow) (snapshot : ScopeSnapshot) : Prop :=
  match row.state with
  | .active =>
    (∀ now, moments now → ageBound row.createdAt now = none) ∧
      storedBounds (store.scopeValues row.scopeId) = none ∧
      firstInvalidStoredEnvelope codec.scope (store.scopeValues row.scopeId) = none ∧
      takenSnapshot codec.scope row.scopeId (store.scopeValues row.scopeId) = snapshot
  | .snapshotted | .cleaned =>
    snapshotFromRecord codec.scope row = .ok snapshot ∧ snapshot.scopeId = row.scopeId
  | .quarantined => False

/-- The run's scope is found and gives the snapshot. -/
def ScopeReady (codec : LiteCodec) (moments : Int → Prop) (run : Uuid)
    (snapshot : ScopeSnapshot) (store : ScopeStore) : Prop :=
  ∃ row, scopeOf store run = some row ∧ Snapshots codec moments store row snapshot

/-- The run's scope is sealed with the snapshot. -/
def ScopeSealed (codec : LiteCodec) (run : Uuid) (snapshot : ScopeSnapshot)
    (store : ScopeStore) : Prop :=
  ∃ row, scopeOf store run = some row ∧ row.IsSealed ∧
    snapshotFromRecord codec.scope row = .ok snapshot ∧
    snapshot.scopeId = row.scopeId

/-- The run's scope is cleaned, and was sealed with the snapshot. -/
def ScopeCleaned (codec : LiteCodec) (run : Uuid) (snapshot : ScopeSnapshot)
    (store : ScopeStore) : Prop :=
  ∃ row, scopeOf store run = some row ∧ row.state = .cleaned ∧
    snapshotFromRecord codec.scope row = .ok snapshot ∧
    snapshot.scopeId = row.scopeId

theorem ScopeCleaned.isSealed (cleaned : ScopeCleaned codec run snapshot store) :
    ScopeSealed codec run snapshot store := by
  obtain ⟨row, found, isCleaned, kept, scope⟩ := cleaned
  exact ⟨row, found, .inr isCleaned, kept, scope⟩

theorem ScopeSealed.ready (isSealed : ScopeSealed codec run snapshot store) :
    ScopeReady codec moments run snapshot store := by
  obtain ⟨row, found, state, kept, scope⟩ := isSealed
  refine ⟨row, found, ?_⟩
  unfold Snapshots
  rcases state with snapshotted | cleaned
  · rw [snapshotted]
    exact ⟨kept, scope⟩
  · rw [cleaned]
    exact ⟨kept, scope⟩

/-- A change of one run's scope leaves those of the others. -/
def SameScopes (run : Uuid) (store after : ScopeStore) : Prop :=
  ∀ other, other ≠ run → ∀ row, scopeOf store other = some row →
    scopeOf after other = some row ∧ after.scopeValues row.scopeId = store.scopeValues row.scopeId

theorem SameScopes.refl (run : Uuid) (store : ScopeStore) :
    SameScopes run store store := fun _ _ _ found => ⟨found, rfl⟩

theorem SameScopes.trans (early : SameScopes run store after) (late : SameScopes run after last) :
    SameScopes run store last := by
  intro other ne row hit
  obtain ⟨found, values⟩ := early other ne row hit
  obtain ⟨again, stillSame⟩ := late other ne row found
  exact ⟨again, stillSame.trans values⟩

variable (same : SameScopes run store after)
include same

theorem SameScopes.ready (ne : other ≠ run)
    (ready : ScopeReady codec moments other snapshot store) :
    ScopeReady codec moments other snapshot after := by
  obtain ⟨row, found, snaps⟩ := ready
  obtain ⟨again, values⟩ := same other ne row found
  refine ⟨row, again, ?_⟩
  unfold Snapshots at snaps ⊢
  rw [values]
  exact snaps

theorem SameScopes.sealed (ne : other ≠ run)
    (isSealed : ScopeSealed codec other snapshot store) :
    ScopeSealed codec other snapshot after := by
  obtain ⟨row, found, rest⟩ := isSealed
  exact ⟨row, (same other ne row found).1, rest⟩

theorem SameScopes.cleaned (ne : other ≠ run)
    (cleaned : ScopeCleaned codec other snapshot store) :
    ScopeCleaned codec other snapshot after := by
  obtain ⟨row, found, rest⟩ := cleaned
  exact ⟨row, (same other ne row found).1, rest⟩

omit same

theorem scopeOf_some (hit : scopeOf store run = some row) :
    row ∈ store.scopes ∧ row.contextNamespace = "default" ∧ row.runId = run := by
  have found := List.find?_some hit
  rw [Bool.and_eq_true] at found
  exact ⟨List.mem_of_find?_eq_some hit, of_decide_eq_true found.1, of_decide_eq_true found.2⟩

variable (keyed : Keyed ScopeRow.scopeId store.scopes)
include keyed

theorem scopeRow_of_mem (mem : row ∈ store.scopes) : store.scopeRow row.scopeId = some row :=
  keyed.find mem

theorem scopeOf_updateWhere (found : scopeOf store run = some row)
    (isAfter : after.scopes = updateWhere
      (fun stored => stored.scopeId = row.scopeId) change store.scopes)
    (keeps : ∀ row, (change row).contextNamespace = row.contextNamespace)
    (keepsRun : ∀ row, (change row).runId = row.runId) :
    scopeOf after run = some (change row) ∧
      ∀ other, other ≠ run → ∀ kept, scopeOf store other = some kept →
        scopeOf after other = some kept ∧ kept.scopeId ≠ row.scopeId := by
  obtain ⟨mem, _, isRun⟩ := scopeOf_some found
  have finds : ∀ sought, scopeOf after sought = (scopeOf store sought).map fun stored =>
        if stored.scopeId = row.scopeId then change stored else stored := by
    intro _
    unfold scopeOf
    rw [isAfter, updateWhere, List.find?_map]
    congr 1
    · funext stored
      by_cases scope : stored.scopeId = row.scopeId
      · simp [scope]
      · simp [scope]
    · congr 1
      funext stored
      by_cases scope : stored.scopeId = row.scopeId
      · simp [scope, keeps, keepsRun]
      · simp [scope]
  constructor
  · rw [finds, found]
    simp
  intro _ ne kept isKept
  obtain ⟨member, _, keptRun⟩ := scopeOf_some isKept
  have different : kept.scopeId ≠ row.scopeId := by
    intro sameScope
    have same := keyed.eq member mem sameScope
    rw [same, isRun] at keptRun
    exact ne keptRun.symm
  rw [finds, isKept]
  simp [different]

omit keyed

theorem snapshotFromRecord_taken
    (kept : row.snapshot = some (takenSnapshot codec.scope row.scopeId values)) :
    snapshotFromRecord codec.scope row = .ok (takenSnapshot codec.scope row.scopeId values) := by
  have magic : snapshotMagic.isPrefixOf (encodeSnapshot values) = true := by
    rw [List.isPrefixOf_iff_prefix]
    unfold encodeSnapshot
    exact List.prefix_append _ _
  unfold snapshotFromRecord
  rw [kept]
  simp [takenSnapshot, magic]

/-- The row of a scope whose snapshot is committed. -/
def snapshottedRow (snapshot : ScopeSnapshot) (row : ScopeRow) : ScopeRow :=
  { row with
    state := .snapshotted
    snapshot := some snapshot }

include keyed

theorem updateScope_snapshotted (found : scopeOf store run = some row)
    (taken : takenSnapshot codec.scope row.scopeId (store.scopeValues row.scopeId) = snapshot) :
    ScopeSealed codec run snapshot (store.updateScope row.scopeId (snapshottedRow snapshot)) ∧
      SameScopes run store (store.updateScope row.scopeId (snapshottedRow snapshot)) ∧
      Keyed ScopeRow.scopeId (store.updateScope row.scopeId (snapshottedRow snapshot)).scopes := by
  have isAfter : (store.updateScope row.scopeId
      (snapshottedRow snapshot)).scopes =
        updateWhere (fun held => held.scopeId = row.scopeId)
          (snapshottedRow snapshot) store.scopes := rfl
  obtain ⟨ownRow, rows⟩ := scopeOf_updateWhere keyed found isAfter
    (fun _ => rfl) (fun _ => rfl)
  refine ⟨⟨_, ownRow, .inl rfl, ?_, ?_⟩, ?_, keyed.update fun _ => rfl⟩
  · rw [← taken]
    exact snapshotFromRecord_taken rfl
  · rw [← taken]
    rfl
  · intro other ne kept keeps
    exact ⟨(rows other ne kept keeps).1, rfl⟩

theorem snapshotForRun_ready (ready : ScopeReady codec moments run snapshot store)
    (moment : moments now) :
    ∃ answer after,
      store.snapshotTickrCtxScopeForRun codec.scope "default" run now = (.ok answer, after) ∧
      (answer = .committed snapshot ∨ answer = .idempotent snapshot) ∧
      ScopeSealed codec run snapshot after ∧
      SameScopes run store after ∧
      Keyed ScopeRow.scopeId after.scopes := by
  obtain ⟨row, found, snaps⟩ := ready
  obtain ⟨mem, _, _⟩ := scopeOf_some found
  have isRow := scopeRow_of_mem keyed mem
  have isValid : validateScopeIdentity "default" = .ok () := rfl
  have resolves : store.snapshotTickrCtxScopeForRun codec.scope "default" run
      now = store.snapshotTickrCtxScope codec.scope row.scopeId now := by
    unfold ScopeStore.snapshotTickrCtxScopeForRun
    unfold scopeOf at found
    rw [isValid]
    simp only [found]
  have held : row.IsSealed → snapshotFromRecord codec.scope row = .ok snapshot →
      store.snapshotTickrCtxScope codec.scope row.scopeId now =
        (.ok (.idempotent snapshot), store) := by
    intro isSealed kept
    unfold ScopeStore.snapshotTickrCtxScope
    rw [isRow]
    rcases isSealed with isState | isState
    all_goals simp [isState, ScopeStore.committedSnapshot, kept]
  unfold Snapshots at snaps
  rw [resolves]
  cases isState : row.state with
  | active =>
    rw [isState] at snaps
    obtain ⟨young, bounds, valid, taken⟩ := snaps
    have commits :
        store.snapshotTickrCtxScope codec.scope row.scopeId now =
          (.ok (.committed snapshot), store.updateScope row.scopeId (snapshottedRow snapshot)) := by
      unfold ScopeStore.snapshotTickrCtxScope
      rw [isRow]
      simp only [isState, young now moment, bounds, valid, taken]
      rfl
    exact ⟨_, _, commits, .inl rfl, updateScope_snapshotted keyed found taken⟩
  | snapshotted =>
    rw [isState] at snaps
    exact ⟨_, store, held (.inl isState) snaps.1, .inr rfl,
      ⟨row, found, .inl isState, snaps⟩, .refl run store, keyed⟩
  | cleaned =>
    rw [isState] at snaps
    exact ⟨_, store, held (.inr isState) snaps.1, .inr rfl,
      ⟨row, found, .inr isState, snaps⟩, .refl run store, keyed⟩
  | quarantined =>
    rw [isState] at snaps
    exact snaps.elim

omit keyed

theorem scopeValues_filter (ne : scope ≠ empty)
    (isAfter : after.values = store.values.filter fun value => value.scopeId ≠ empty) :
    after.scopeValues scope = store.scopeValues scope := by
  unfold ScopeStore.scopeValues ScopeStore.valueRows
  rw [isAfter, List.filter_filter]
  congr 2
  apply List.filter_congr
  intro value _
  by_cases isScope : value.scopeId = scope
  · simp [isScope, ne]
  · simp [isScope]

include keyed in
theorem cleanupTickrCtxScope_sealed (isSealed : ScopeSealed codec run snapshot store) :
    ∃ answer after, store.cleanupTickrCtxScope codec.scope snapshot.scopeId = (.ok answer, after) ∧
      (answer = .cleaned ∨ answer = .alreadyCleaned) ∧
      ScopeCleaned codec run snapshot after ∧
      SameScopes run store after ∧
      Keyed ScopeRow.scopeId after.scopes := by
  obtain ⟨row, found, isState, stays, sameScope⟩ := isSealed
  obtain ⟨mem, _, _⟩ := scopeOf_some found
  have isRow := scopeRow_of_mem keyed mem
  rw [sameScope]
  rcases isState with snapshotted | isCleaned
  · have cleanup : store.cleanupTickrCtxScope codec.scope row.scopeId =
        (.ok .cleaned, store.cleared row.scopeId) := by
      unfold ScopeStore.cleanupTickrCtxScope
      rw [isRow]
      simp [snapshotted, stays, ScopeStore.cleared]
    have isAfter : (store.cleared row.scopeId).scopes =
        updateWhere (fun held => held.scopeId = row.scopeId)
          (fun row => { row with state := .cleaned }) store.scopes := rfl
    obtain ⟨ownRow, rows⟩ := scopeOf_updateWhere keyed found isAfter
      (fun _ => rfl) (fun _ => rfl)
    refine ⟨_, _, cleanup, .inl rfl, ⟨_, ownRow, rfl, stays, sameScope⟩,
      ?_, keyed.update fun _ => rfl⟩
    intro other ne kept keeps
    obtain ⟨again, different⟩ := rows other ne kept keeps
    exact ⟨again, scopeValues_filter different rfl⟩
  · have cleanup : store.cleanupTickrCtxScope codec.scope row.scopeId =
        (.ok .alreadyCleaned, store) := by
      unfold ScopeStore.cleanupTickrCtxScope
      rw [isRow]
      simp [isCleaned, stays]
    exact ⟨_, _, cleanup, .inr rfl,
      ⟨row, found, isCleaned, stays, sameScope⟩, .refl run store, keyed⟩

end Tickr.Lite
