import Tickr.LiteCaptures.Archive

/-!
# What the commands of Tickr Lite promise each other

A trigger relays its signal only after its captures are archived, a task writes
only under its own run, and a launch starts its process only after seeding its
scope from the archive.
-/

namespace Tickr.LiteCaptures

open Table
open LogStream (Uuid Bytes)
open KeyValue (Delivery)
open Concurrent
open Signals
open LocalScope (ScopeStore ScopeValue ValueRow ClaimRow ClaimId RequestDigest)

variable {captures : List NamedEnvelope} {signal : Uuid}

/-- A manual trigger goes out with the captures that the archive holds. -/
def Recorded (sending : Sending) (state : LiteState) : Prop :=
  ∀ signal, manualSignal sending = some signal →
    ∃ captures, Captured state.signals.tables signal captures ∧
      sending.expects = captures.map fun capture =>
        ((signal, capture.name), capture.envelope.content)

/-- When the client's task of a signal came in, no manual trigger of that
signal had been relayed. -/
def Unannounced (peer : Nat) (signal : Uuid) (state : LiteState) : Prop :=
  ∀ run relayed,
    (peer, .dispatched run (some signal) relayed) ∈ state.history →
      ∀ sending ∈ relayed, manualSignal sending ≠ some signal

/-- The captures of a signal were written to a scope. -/
def Seeded (scope signal : Uuid) (captures : List NamedEnvelope) (state : LiteState) : Prop :=
  Captured state.signals.tables signal captures ∧
    (captures = [] ∨
      (∃ row ∈ state.scopes.claims, row.claim = .seed scope signal ∧ row.scopeId = scope) ∨
      ∃ author, (author, .cleaned scope) ∈ state.history)

/-- Under a signal, the values are the captures and nothing else. -/
def Lite.Exactly (lite : Lite) (signal : Uuid)
    (captures : List NamedEnvelope) (values : List ScopeValue) : Prop :=
  ∀ value, value ∈ values ∧ lite.Under signal value.key ↔ value ∈ lite.seedValues signal captures

variable (lite : Lite)

inductive MayWrite (state : LiteState) (scope : Uuid) : ClaimId → List ScopeValue → Prop
  | seed (signal : Uuid) (captures : List NamedEnvelope)
      (captured : Captured state.signals.tables signal captures) :
      MayWrite state scope (.seed scope signal) (lite.seedValues signal captures)
  | task (nonce : Nat) (run : Uuid) (name : String) (envelope : Bytes)
      (isRun : lite.isSignalId run = false) :
      MayWrite state scope (.request scope nonce) [⟨lite.runKey run name, envelope⟩]

/-- What a command's own order allows it to call. -/
def Legit (peer : Nat) (op : LiteOp) (state : LiteState) : Prop :=
  match op with
  | .signal (.send sending) => Recorded sending state
  | .signal (.forward _) => False
  | .signal (.sql (.insertCaptures signal _ _ _)) => lite.isSignalId signal = true
  | .signal (.sql (.deleteExpired _ _)) => False
  | .arrive _ _ => ∀ event, (peer, event) ∉ state.history
  | .createScope _ _ claim values =>
    (∀ scope signal, claim ≠ .seed scope signal) ∧ ∀ value ∈ values, '/' ∉ value.key.toList
  | .writeScope scope claim values => MayWrite lite state scope claim values
  | .deleteValue scope claim key =>
    (∃ nonce, claim = .request scope nonce) ∧
      ∃ run name, key = lite.runKey run name ∧ lite.isSignalId run = false
  | .reportAbsent signal => Unannounced peer signal state
  | .start _ scope (some signal) => ∃ captures, Seeded scope signal captures state
  | _ => True

/-- The identity of a trigger's signal is new, and no process starts in a
scope whose run has been compacted and cleaned up. -/
def Timely (_client : Nat) (op : LiteOp) (state : LiteState) : Prop :=
  match op with
  | .signal (.sql (.insertCaptures signal _ _ _)) =>
    ∀ row ∈ state.signals.tables.captures, row.signalId ≠ signal
  | .start _ scope _ => ∀ event ∈ state.history, event.2 ≠ .cleaned scope
  | _ => True

instance (peer : Nat) (op : LiteOp) (state : LiteState) : Decidable (Timely peer op state) := by
  unfold Timely
  split <;> infer_instance

section Steps

/-- What a new event says about the state before it. -/
def EventAllowed (peer : Nat) (event : LaunchEvent) (state : LiteState) : Prop :=
  match event with
  | .replayed _ _ => True
  | .dispatched _ _ relayed =>
    relayed = relayedOf state.signals.history ∧ ∀ event, (peer, event) ∉ state.history
  | .capturesAbsent signal => Unannounced peer signal state
  | .started _ scope signal values =>
    values = state.scopes.scopeValues scope ∧
      ∀ origin, signal = some origin →
        (∃ captures, Seeded scope origin captures state) ∧
          ∀ event ∈ state.history, event.2 ≠ .cleaned scope
  | .cleaned _ => False

/-- All that a legitimate call can do to a state. -/
inductive Step (peer : Nat) (state : LiteState) : LiteState → Prop
  | unchanged : Step peer state state
  | signal (op : SignalOp) (after : SignalState)
      (change : Change lite.paths peer state.signals op after)
      (legit : Legit lite peer (.signal op) state)
      (timely : Timely peer (.signal op) state) :
      Step peer state { state with signals := after }
  | noted (event : LaunchEvent) (allowed : EventAllowed peer event state) :
      Step peer state (state.note peer [event])
  | rows (store : ScopeStore) (same : SameRows state.scopes store) :
      Step peer state { state with scopes := store }
  | added (input : LocalScope.ScopeStore.CreateInput) (digest : RequestDigest)
      (notSeed : ∀ scope signal, input.claim ≠ .seed scope signal)
      (bare : ∀ value ∈ input.values, '/' ∉ value.key.toList) :
      Step peer state { state with scopes := state.scopes.added input digest }
  | wrote (scope : Uuid) (claim : ClaimId) (values : List ScopeValue)
      (digest : RequestDigest) (may : MayWrite lite state scope claim values)
      (distinct : (values.map ScopeValue.key).Nodup) :
      Step peer state { state with scopes := state.scopes.wrote scope claim digest values }
  | removed (scope : Uuid) (nonce : Nat) (digest : RequestDigest)
      (run : Uuid) (name : String) (isRun : lite.isSignalId run = false) :
      Step peer state { state with
          scopes := state.scopes.removed scope (.request scope nonce) digest
            (lite.runKey run name) }
  | cleared (scope : Uuid) :
      Step peer state
        (({ state with scopes := state.scopes.cleared scope }).note peer
          [.cleaned scope])

variable {lite} {peer : Nat} {state : LiteState} {delivery : Delivery}

theorem step_transact {α : Type} {answered : ScopeStore.Transacted α}
    (applied : Step lite peer state { state with scopes := answered.2 }) :
    Step lite peer state (LiteState.transact delivery answered state).2 := by
  cases delivery with
  | applied => exact applied
  | refused => exact .unchanged
  | replyLost => exact applied

theorem step_accept (applied : Step lite peer state accepted) :
    Step lite peer state (LiteState.accept delivery accepted state).2 := by
  cases delivery with
  | applied => exact applied
  | refused | replyLost => exact .unchanged

private theorem step_cleanup :
    Step lite peer state
      (LiteState.transact delivery (state.scopes.cleanupTickrCtxScope lite.codec scope)
        (if delivery = .refused then state
          else state.note peer (LiteState.cleanedEvents scope
            (state.scopes.cleanupTickrCtxScope lite.codec scope).1))).2 := by
  by_cases isRefused : delivery = .refused
  · rw [isRefused]
    exact .unchanged
  rw [if_neg isRefused]
  rcases LocalScope.cleanupTickrCtxScope_cases lite.codec state.scopes scope with
    ⟨settles, cleaned⟩ | ⟨_, _, _, isCleared⟩
  · have events : LiteState.cleanedEvents scope
        (state.scopes.cleanupTickrCtxScope lite.codec scope).1 = [] := by
      rw [LiteState.cleanedEvents]
      exact cleaned
    rw [events]
    exact step_transact (.rows _ (sameRows_of_settles settles))
  · rw [isCleared]
    cases delivery with
    | applied | replyLost => exact .cleared scope
    | refused => exact absurd rfl isRefused

theorem perform_step (op : LiteOp) (turn : Turn)
    (legit : Legit lite peer op state) (timely : Timely peer op state) :
    Step lite peer state (perform lite peer op turn state).2 := by
  cases op with
  | signal op => exact .signal op _ (perform_change op turn) legit timely
  | sendReplay => exact step_accept (.noted _ trivial)
  | arrive => exact .noted _ ⟨rfl, legit⟩
  | createScope contextNamespace run claim values =>
    apply step_transact
    rcases LocalScope.createTickrCtxScope_cases lite.codec state.scopes
      ⟨run, contextNamespace, run, claim, values, turn.now⟩ with
      ⟨same, _⟩ | ⟨digest, _, _, admitted⟩
    · rw [same]
      exact .unchanged
    rw [admitted]
    rcases LocalScope.createAdmitted_cases state.scopes
      ⟨run, contextNamespace, run, claim, values, turn.now⟩ digest with ⟨same, _⟩ | ⟨_, isAdded⟩
    · rw [same]
      exact .unchanged
    · rw [isAdded]
      exact .added _ digest legit.1 legit.2
  | writeScope scope claim values =>
    apply step_transact
    rcases LocalScope.writeTickrCtxScope_cases lite.codec state.scopes scope
      claim values turn.now with
      ⟨same, _⟩ | ⟨digest, _, _, _, hash, _, _, _, written⟩
    · rw [same]
      exact .unchanged
    · rw [written]
      have distinct := (nodup_of_validateKeys (LocalScope.mutationDigest_ok hash).1).1
      exact .wrote scope claim values digest legit distinct
  | deleteValue scope =>
    obtain ⟨⟨nonce, isClaim⟩, run, name, isKey, isRun⟩ := legit
    subst isClaim isKey
    apply step_transact
    rcases LocalScope.deleteTickrCtxScopeValue_cases state.scopes scope
      (.request scope nonce) (lite.runKey run name) turn.now with
      ⟨same, _⟩ | ⟨digest, _, _, _, _, isRemoved⟩
    · rw [same]
      exact .unchanged
    · rw [isRemoved]
      exact .removed scope nonce digest run name isRun
  | readScope =>
    exact step_transact (.rows _ (sameRows_of_settles (LocalScope.readTickrCtxScope_settles ..)))
  | snapshotRun =>
    exact step_transact
      (.rows _ (sameRows_of_settles (LocalScope.snapshotTickrCtxScopeForRun_settles ..)))
  | cleanup => exact step_cleanup
  | reportAbsent => exact .noted _ legit
  | start =>
    apply step_accept
    apply Step.noted
    refine ⟨rfl, ?_⟩
    intro _ isOrigin
    subst isOrigin
    exact ⟨legit, timely⟩

end Steps

section Growing

variable {lite} {peer : Nat} {before after : LiteState} (step : Step lite peer before after)

include step in
theorem Step.captured (captured : Captured before.signals.tables signal captures) :
    Captured after.signals.tables signal captures := by
  cases step with
  | signal _ _ change legit =>
    rcases change.tables with same | ⟨query, _, isQuery, isAfter⟩
    · rw [same]
      exact captured
    subst isQuery isAfter
    have notDeleting : ∀ id cutoff, query ≠ .deleteExpired id cutoff := by
      intro _ _ deleting
      subst deleting
      exact legit
    exact captured.effect notDeleting
  | _ => exact captured

/-- What a state says of the past still holds in a later one. -/
structure Grows (before after : LiteState) : Prop where
  captured : ∀ signal captures,
    Captured before.signals.tables signal captures → Captured after.signals.tables signal captures
  signals : before.signals.history ⊆ after.signals.history
  history : before.history ⊆ after.history
  /-- A claim goes only with the cleanup of its scope. -/
  claims : ∀ row ∈ before.scopes.claims, row ∈ after.scopes.claims ∨
    ∃ author, (author, .cleaned row.scopeId) ∈ after.history

theorem Grows.refl (state : LiteState) : Grows state state where
  captured _ _ captured := captured
  signals := .refl _
  history := .refl _
  claims _ mem := .inl mem

theorem Grows.trans (early : Grows first second) (late : Grows second third) :
    Grows first third where
  captured signal captures captured :=
    late.captured signal captures (early.captured signal captures captured)
  signals := List.Subset.trans early.signals late.signals
  history := List.Subset.trans early.history late.history
  claims row mem := by
    rcases early.claims row mem with kept | ⟨author, cleaned⟩
    · exact late.claims row kept
    · exact .inr ⟨author, late.history cleaned⟩

include step

theorem Step.signals : before.signals.history ⊆ after.signals.history := by
  cases step with
  | signal _ _ change => exact change.grows.history.subset
  | _ => exact .refl _

theorem Step.history :
    after.history = before.history ∨
      ∃ event, after.history = (peer, event) :: before.history := by
  cases step with
  | noted event => exact .inr ⟨event, rfl⟩
  | cleared scope => exact .inr ⟨.cleaned scope, rfl⟩
  | _ => exact .inl rfl

theorem Step.source (mem : (author, event) ∈ after.history) :
    (author, event) ∈ before.history ∨ after.history = (peer, event) :: before.history ∧
      author = peer ∧ (EventAllowed peer event before ∨ ∃ scope, event = .cleaned scope) := by
  cases step with
  | noted _ allowed =>
    rcases List.mem_cons.mp mem with new | older
    · cases new
      exact .inr ⟨rfl, rfl, .inl allowed⟩
    · exact .inl older
  | cleared scope =>
    rcases List.mem_cons.mp mem with new | older
    · cases new
      exact .inr ⟨rfl, rfl, .inr ⟨scope, rfl⟩⟩
    · exact .inl older
  | _ => exact .inl mem

theorem Step.claims (row : ClaimRow) (mem : row ∈ before.scopes.claims) :
    row ∈ after.scopes.claims ∨ ∃ author, (author, .cleaned row.scopeId) ∈ after.history := by
  cases step with
  | rows _ same =>
    left
    rw [same.2]
    exact mem
  | added | wrote | removed => exact .inl (List.mem_append_left _ mem)
  | cleared scope =>
    by_cases isScope : row.scopeId = scope
    · rw [isScope]
      exact .inr ⟨peer, .head _⟩
    · exact .inl (List.mem_filter.mpr ⟨mem, by simpa using isScope⟩)
  | unchanged | signal | noted => exact .inl mem

theorem Step.grows :
    Grows before after where
  captured _ _ := step.captured
  signals := step.signals
  history := by
    rcases step.history with same | ⟨_, added⟩
    · rw [same]
      exact .refl _
    · rw [added]
      exact List.subset_cons_self _ _
  claims := step.claims

omit step

variable {scope : Uuid} {sending : Sending}

theorem Recorded.grown (noted : Recorded sending before)
    (grows : Grows before after) : Recorded sending after := by
  intro signal manual
  obtain ⟨captures, captured, expects⟩ := noted signal manual
  exact ⟨captures, grows.captured signal captures captured, expects⟩

theorem Seeded.grown (seeded : Seeded scope signal captures before)
    (grows : Grows before after) : Seeded scope signal captures after := by
  refine ⟨grows.captured signal captures seeded.1, ?_⟩
  rcases seeded.2 with empty | ⟨row, mem, isClaim, isScope⟩ | ⟨author, cleaned⟩
  · exact .inl empty
  · rcases grows.claims row mem with kept | cleaned
    · exact .inr (.inl ⟨row, kept, isClaim, isScope⟩)
    · rw [isScope] at cleaned
      exact .inr (.inr cleaned)
  · exact .inr (.inr ⟨author, grows.history cleaned⟩)

end Growing

/-- What every state has that the commands can reach. -/
structure Sound (state : LiteState) : Prop where
  isSignal : ∀ row ∈ state.signals.tables.captures, lite.isSignalId row.signalId = true
  recorded : ∀ author sending,
    (author, .relayed sending) ∈ state.signals.history → Recorded sending state
  /-- A seeding that was applied has written the captures of its signal. -/
  seeded : ∀ row ∈ state.scopes.claims, ∀ scope signal,
    row.claim = .seed scope signal → row.scopeId = scope ∧
      ∃ captures, Captured state.signals.tables signal captures ∧
        ∀ value ∈ lite.seedValues signal captures,
          ⟨scope, value.key, value.envelope⟩ ∈ state.scopes.values
  /-- What is under a signal is one of its captures. -/
  owned : ∀ row ∈ state.scopes.values, ∀ signal,
    lite.isSignalId signal = true → lite.Under signal row.key →
      ∃ captures, Captured state.signals.tables signal captures ∧
        ⟨row.key, row.envelope⟩ ∈ lite.seedValues signal captures
  announced : ∀ peer run signal relayed,
    (peer, .dispatched run signal relayed) ∈ state.history →
      ∀ sending ∈ relayed, ∃ author, (author, .relayed sending) ∈ state.signals.history
  absent : ∀ peer signal,
    (peer, .capturesAbsent signal) ∈ state.history → Unannounced peer signal state
  started : ∀ peer run scope signal values,
    (peer, .started run scope (some signal) values) ∈ state.history →
      ∃ captures, Captured state.signals.tables signal captures ∧
        lite.Exactly signal captures values

variable {lite} {peer : Nat} {before after : LiteState}

theorem Sound.signalId (sound : Sound lite before)
    (caught : Captured before.signals.tables signal captures) :
    lite.isSignalId signal = true := by
  obtain ⟨row, found, _⟩ := caught
  have isSignal : row.signalId = signal := by simpa using List.find?_some found
  rw [← isSignal]
  exact sound.isSignal row (List.mem_of_find?_eq_some found)

variable {scope : Uuid} {value : ScopeValue}

theorem mem_scopeValues {store : ScopeStore} :
    value ∈ store.scopeValues scope ↔ ⟨scope, value.key, value.envelope⟩ ∈ store.values := by
  have perm : (store.scopeValues scope).Perm
      ((store.valueRows scope).map fun row => ⟨row.key, row.envelope⟩) :=
    List.perm_insertionSort _ _
  rw [perm.mem_iff, List.mem_map]
  constructor
  · intro ⟨_, mem, valued⟩
    obtain ⟨isRow, isScope⟩ := List.mem_filter.mp mem
    rw [← valued, ← of_decide_eq_true isScope]
    exact isRow
  · intro mem
    exact ⟨_, List.mem_filter.mpr ⟨mem, by simp⟩, rfl⟩

theorem Sound.exactly (sound : Sound lite before) (seeded : Seeded scope signal captures before)
    (uncleared : ∀ event ∈ before.history, event.2 ≠ .cleaned scope) :
    lite.Exactly signal captures (before.scopes.scopeValues scope) := by
  intro value
  constructor
  · intro ⟨mem, under⟩
    obtain ⟨_, caught, capture⟩ :=
      sound.owned _ (mem_scopeValues.mp mem) signal (sound.signalId seeded.1) under
    rw [seeded.1.eq caught]
    exact capture
  · intro capture
    refine ⟨mem_scopeValues.mpr ?_, Lite.under_of_seed capture⟩
    rcases seeded.2 with empty | ⟨row, isRow, isClaim, _⟩ | ⟨_, cleaned⟩
    · rw [empty] at capture
      cases capture
    · obtain ⟨_, _, caught, wrote⟩ := sound.seeded row isRow scope signal isClaim
      rw [seeded.1.eq caught] at capture
      exact wrote value capture
    · exact absurd rfl (uncleared _ cleaned)

section Soundness

variable (step : Step lite peer before after)
include step

theorem Step.mem_claims (mem : row ∈ after.scopes.claims) :
    row ∈ before.scopes.claims ∨ (∀ scope signal, row.claim ≠ .seed scope signal) ∨
      ∃ signal captures, row.claim = .seed row.scopeId signal ∧
        Captured before.signals.tables signal captures ∧
        ∀ value ∈ lite.seedValues signal captures,
          ⟨row.scopeId, value.key, value.envelope⟩ ∈ after.scopes.values := by
  cases step with
  | unchanged | signal | noted => exact .inl mem
  | rows _ same =>
    rw [same.2] at mem
    exact .inl mem
  | added _ _ notSeed =>
    rcases mem_append_row.mp mem with older | new
    · exact .inl older
    · rw [new]
      exact .inr (.inl notSeed)
  | wrote scope _ _ _ may distinct =>
    rcases mem_append_row.mp mem with older | new
    · exact .inl older
    rw [new]
    cases may with
    | task => exact .inr (.inl (by simp))
    | seed signal captures captured =>
      have written : ∀ value ∈ lite.seedValues signal captures,
          (⟨scope, value.key, value.envelope⟩ : ValueRow) ∈
            (lite.seedValues signal captures).foldl (LocalScope.ScopeStore.insertScopeValue scope)
              before.scopes.values := by
        intro _ capture
        exact mem_insertAll_of_mem distinct capture
      exact .inr (.inr ⟨signal, captures, rfl, captured, written⟩)
  | removed =>
    rcases mem_append_row.mp mem with older | new
    · exact .inl older
    · rw [new]
      exact .inr (.inl (by simp))
  | cleared => exact .inl (List.mem_filter.mp mem).1

theorem Step.scopes_of_cleaned
    (isCleaned : after.history = (peer, .cleaned cleaned) :: before.history) :
    after.scopes = before.scopes.cleared cleaned := by
  cases step with
  | cleared =>
    have heads := (List.cons.inj isCleaned).1
    cases heads
    rfl
  | noted _ allowed =>
    have heads := (List.cons.inj isCleaned).1
    cases heads
    exact allowed.elim
  | _ =>
    exact absurd isCleaned.symm (List.cons_ne_self _ _)

variable (sound : Sound lite before)
include sound

theorem Step.keeps_value (captured : Captured before.signals.tables signal captures)
    (capture : value ∈ lite.seedValues signal captures)
    (mem : ⟨scope, value.key, value.envelope⟩ ∈ before.scopes.values)
    (uncleared : ∀ cleaned,
      after.history = (peer, .cleaned cleaned) :: before.history → cleaned ≠ scope) :
    ⟨scope, value.key, value.envelope⟩ ∈ after.scopes.values := by
  have under := Lite.under_of_seed capture
  have isSignal := sound.signalId captured
  cases step with
  | unchanged | signal | noted => exact mem
  | rows _ same =>
    rw [same.1]
    exact mem
  | added _ _ _ bare =>
    apply mem_insertAll_of_ne mem
    intro other diff _ sameKey
    have sameName : value.key = other.key := sameKey
    rw [sameName] at under
    exact Lite.not_under_bare (bare other diff) under
  | wrote written _ _ _ may distinct =>
    cases may with
    | task _ _ _ _ isRun =>
      apply mem_insertAll_of_ne mem
      intro other diff _ sameKey
      have sameName : value.key = other.key := sameKey
      rw [List.mem_singleton] at diff
      rw [sameName, diff] at under
      have owner := Lite.eq_of_under under
      rw [owner, isRun] at isSignal
      cases isSignal
    | seed origin others otherCaptured =>
      by_cases rewritten : written = scope ∧ value ∈ lite.seedValues origin others
      · rw [← rewritten.1]
        exact mem_insertAll_of_mem distinct rewritten.2
      apply mem_insertAll_of_ne mem
      intro other diff isScope sameKey
      have sameName : value.key = other.key := sameKey
      rw [sameName] at under
      have isOrigin := Lite.signal_eq_of_seed diff under
      subst isOrigin
      have sameCaptures := otherCaptured.eq captured
      subst sameCaptures
      exact rewritten ⟨isScope.symm, capture⟩
  | removed _ _ _ run name isRun =>
    have differs : value.key ≠ lite.runKey run name := by
      intro sameKey
      rw [sameKey] at under
      have owner := Lite.eq_of_under under
      rw [owner, isRun] at isSignal
      cases isSignal
    exact (List.mem_filter.mpr ⟨mem, by simp [differs]⟩)
  | cleared cleaned =>
    have differs : scope ≠ cleaned := by
      intro isScope
      exact uncleared cleaned rfl isScope.symm
    exact (List.mem_filter.mpr ⟨mem, by simpa using differs⟩)

private theorem isSignal_step :
    ∀ row ∈ after.signals.tables.captures, lite.isSignalId row.signalId = true := by
  cases step with
  | signal _ _ change legit =>
    intro row mem
    rcases change.tables with same | ⟨_, _, isQuery, isAfter⟩
    · rw [same] at mem
      exact sound.isSignal row mem
    subst isQuery isAfter
    cases rowChange_of_mem mem with
    | kept _ _ older => exact sound.isSignal row older
    | inserted => exact legit
    | linked old _ older | settled old _ older => exact sound.isSignal old older
  | _ => exact sound.isSignal

private theorem recorded_step :
    ∀ author sending, (author, .relayed sending) ∈ after.signals.history →
      Recorded sending after := by
  intro author sending mem
  have prior : Recorded sending before := by
    cases step with
    | signal _ _ change legit =>
      rcases change.source mem with older | ⟨_, send | forward⟩
      · exact sound.recorded author sending older
      · subst send
        exact legit
      · subst forward
        exact legit.elim
    | _ =>
      exact sound.recorded author sending mem
  exact prior.grown step.grows

private theorem seeded_step :
    ∀ row ∈ after.scopes.claims, ∀ scope signal,
      row.claim = .seed scope signal → row.scopeId = scope ∧
        ∃ captures, Captured after.signals.tables signal captures ∧
          ∀ value ∈ lite.seedValues signal captures,
            ⟨scope, value.key, value.envelope⟩ ∈ after.scopes.values := by
  intro row mem scope signal isClaim
  rcases step.mem_claims mem with
    older | notSeed | ⟨_, captures, isSeed, captured, wrote⟩
  · obtain ⟨isScope, captures, captured, wrote⟩ := sound.seeded row older scope signal isClaim
    -- The claim would be gone with the scope's values.
    have uncleared : ∀ cleaned,
        after.history = (peer, .cleaned cleaned) :: before.history → cleaned ≠ scope := by
      intro _ isCleaned same
      rw [step.scopes_of_cleaned isCleaned] at mem
      have elsewhere := (List.mem_filter.mp mem).2
      simp [isScope, same] at elsewhere
    refine ⟨isScope, captures, step.captured captured, ?_⟩
    intro value capture
    exact step.keeps_value sound captured capture (wrote value capture) uncleared
  · exact absurd isClaim (notSeed scope signal)
  · rw [isSeed] at isClaim
    cases isClaim
    exact ⟨rfl, captures, step.captured captured, wrote⟩

private theorem owned_step :
    ∀ row ∈ after.scopes.values, ∀ signal,
      lite.isSignalId signal = true → lite.Under signal row.key →
        ∃ captures, Captured after.signals.tables signal captures ∧
          ⟨row.key, row.envelope⟩ ∈ lite.seedValues signal captures := by
  intro row mem signal isSignal under
  have carried : row ∈ before.scopes.values →
      ∃ captures, Captured after.signals.tables signal captures ∧
        ⟨row.key, row.envelope⟩ ∈ lite.seedValues signal captures := by
    intro older
    obtain ⟨captures, captured, capture⟩ := sound.owned row older signal isSignal under
    exact ⟨captures, step.captured captured, capture⟩
  cases step with
  | unchanged | signal | noted => exact carried mem
  | rows _ same =>
    rw [same.1] at mem
    exact carried mem
  | added _ _ _ bare =>
    rcases mem_of_mem_insertAll mem with older | ⟨value, valued, isRow⟩
    · exact carried older
    · rw [isRow] at under
      exact absurd under (Lite.not_under_bare (bare value valued))
  | wrote _ _ _ _ may =>
    rcases mem_of_mem_insertAll mem with older | ⟨_, valued, isRow⟩
    · exact carried older
    cases may with
    | task _ _ _ _ isRun =>
      rw [List.mem_singleton] at valued
      rw [isRow, valued] at under
      rw [Lite.eq_of_under under, isRun] at isSignal
      cases isSignal
    | seed _ captures captured =>
      rw [isRow] at under ⊢
      rw [Lite.signal_eq_of_seed valued under]
      exact ⟨captures, captured, valued⟩
  | removed | cleared => exact carried (List.mem_filter.mp mem).1

private theorem announced_step :
    ∀ author run signal relayed,
      (author, .dispatched run signal relayed) ∈ after.history →
        ∀ sending ∈ relayed, ∃ sender, (sender, .relayed sending) ∈ after.signals.history := by
  intro author run signal relayed mem sending isRelayed
  rcases step.source mem with older | ⟨_, _, allowed | ⟨_, cleaned⟩⟩
  · obtain ⟨sender, sent⟩ := sound.announced author run signal relayed older sending isRelayed
    exact ⟨sender, step.signals sent⟩
  · rw [allowed.1, relayedOf, List.mem_filterMap] at isRelayed
    obtain ⟨⟨sender, sent⟩, isSent, isSending⟩ := isRelayed
    cases sent with
    | relayed =>
      cases isSending
      exact ⟨sender, step.signals isSent⟩
    | _ => cases isSending
  · cases cleaned

private theorem absent_step :
    ∀ author signal,
      (author, .capturesAbsent signal) ∈ after.history → Unannounced author signal after := by
  intro author signal failed run relayed dispatched
  rcases step.source failed with older | ⟨isAfter, owner, allowed | ⟨_, cleaned⟩⟩
  · rcases step.source dispatched with prior | ⟨_, owner, allowed | ⟨_, cleaned⟩⟩
    · exact sound.absent author signal older run relayed prior
    · subst owner
      exact absurd older (allowed.2 _)
    · cases cleaned
  · subst owner
    rw [isAfter, List.mem_cons] at dispatched
    rcases dispatched with other | prior
    · cases other
    · exact allowed run relayed prior
  · cases cleaned

private theorem started_step :
    ∀ author run scope signal values,
      (author, .started run scope (some signal) values) ∈ after.history →
        ∃ captures, Captured after.signals.tables signal captures ∧
          lite.Exactly signal captures values := by
  intro author run scope signal values mem
  rcases step.source mem with older | ⟨_, _, allowed | ⟨_, cleaned⟩⟩
  · obtain ⟨captures, captured, exactly⟩ := sound.started author run scope signal values older
    exact ⟨captures, step.captured captured, exactly⟩
  · obtain ⟨⟨captures, seeded⟩, uncleared⟩ := allowed.2 signal rfl
    rw [allowed.1]
    exact ⟨captures, step.captured seeded.1, sound.exactly seeded uncleared⟩
  · cases cleaned

end Soundness

theorem Sound.step (sound : Sound lite before)
    (step : Step lite peer before after) : Sound lite after where
  isSignal := isSignal_step step sound
  recorded := recorded_step step sound
  seeded := seeded_step step sound
  owned := owned_step step sound
  announced := announced_step step sound
  absent := absent_step step sound
  started := started_step step sound

end Tickr.LiteCaptures
