import Tickr.Replay.Promises

/-!
# Every drive keeps the order

Along every run in which a row that names input shadows is driven again only
after they have landed, the effects of each replay come in their order and the
rows settle once and for all.
-/

namespace Tickr.Replay

open Concurrent Concurrent.Discipline KeyValue Table
open SafeExcept (andThen andDone)
open LogStream (Uuid)

variable {setup : Deployment} {jobs : Nat → Command} {peer : Nat} {state : State}
  {ε α : Type} {decision : ReplayDecision} {source : ReplaySource} {op : ReplayOp}
  {shadows : List CarriedKey}

/-- Safety of a part of the pipeline, whatever error it ends with. -/
abbrev Keeps (setup : Deployment) (jobs : Nat → Command)
    (peer : Nat) (post : α → State → Prop) (program : ReplayProgram ε α) (state : State) : Prop :=
  SafeTry (system setup.archive) (discipline setup jobs) peer post program state

/-- A call, by what it does when it is applied. -/
theorem call_keeps (step : ∀ before, Grows state before → Sound setup before →
      ShadowsLanded setup jobs peer op before → ∀ turn,
        Step setup peer before (answer setup.archive peer op turn before).2 ∧
          ∀ value,
            (answer setup.archive peer op turn before).1 = .ok value →
              post value (answer setup.archive peer op turn before).2)
    (lasts : ∀ value before after, Grows before after → post value before → post value after) :
    Keeps setup jobs peer post (call op) state := by
  refine .request ?_
  intro before rely sound meets turn
  obtain ⟨promised, shown⟩ := step before (grows_of_rely rely) sound meets turn
  have ran : (system setup.archive).perform peer op turn before =
      perform setup.archive peer op turn before := rfl
  rw [ran, perform]
  cases turn.delivery with
  | applied =>
    refine ⟨promised, ?_⟩
    intro value answered after onward _
    exact lasts value _ after (grows_of_rely onward) (shown value answered)
  | refused =>
    refine ⟨.still before, ?_⟩
    intro _ answered
    cases answered
  | replyLost =>
    refine ⟨promised, ?_⟩
    intro _ answered
    cases answered

variable (unchanged : ∀ turn before, (answer setup.archive peer op turn before).2 = before)
include unchanged

theorem call_reads (shows : ∀ before, Grows state before → Sound setup before →
      ∀ turn value,
        (answer setup.archive peer op turn before).1 = .ok value → post value before)
    (lasts : ∀ value before after, Grows before after → post value before → post value after) :
    Keeps setup jobs peer post (call op) state := by
  refine call_keeps ?_ lasts
  intro before grows sound _ turn
  rw [unchanged turn before]
  exact ⟨.still before, shows before grows sound turn⟩

theorem call_quiet : Keeps setup jobs peer Any (call op) state :=
  call_reads unchanged (fun _ _ _ _ _ _ => trivial) fun _ _ _ _ holds => holds

omit unchanged

variable {sourceInstanceId : Uuid}

theorem call_replaySource :
    Keeps setup jobs peer (fun found _ => found = setup.archive sourceInstanceId)
      (call (.replaySource sourceInstanceId)) state := by
  refine call_reads (fun _ _ => rfl) ?_ fun _ _ _ _ holds => holds
  intro _ _ _ _ _ answered
  exact (Except.ok.inj answered).symm

variable {replayInstanceId : Uuid}

theorem call_lifecycle :
    Keeps setup jobs peer
      (fun found later => ∀ row, found = some row →
        Inserted row.decision later.history ∧ row.decision.replayInstanceId = replayInstanceId)
      (call (.lifecycle replayInstanceId)) state := by
  refine call_reads (fun _ _ => rfl) ?_ ?_
  · rintro _ _ sound _ _ answered _ rfl
    have hit := Except.ok.inj answered
    obtain ⟨stored, found, isRow⟩ := Option.map_eq_some_iff.mp hit
    subst isRow
    refine ⟨sound.recorded stored (List.mem_of_find?_eq_some found), ?_⟩
    have isId : stored.id = replayInstanceId := by simpa using List.find?_some found
    exact isId
  · intro _ _ _ grows held row isRow
    obtain ⟨inserted, isId⟩ := held row isRow
    exact ⟨inserted.grown grows.history, isId⟩

theorem call_unsettledReplays :
    Keeps setup jobs peer
      (fun rows later => ∀ row ∈ rows, Inserted row.decision later.history)
      (call (.unsettledReplays minAge)) state := by
  refine call_reads (fun _ _ => rfl) ?_ ?_
  · intro _ _ sound _ _ answered _ mem
    rw [← Except.ok.inj answered] at mem
    obtain ⟨stored, kept, rfl⟩ := List.mem_map.mp mem
    rw [List.mem_insertionSort] at kept
    exact sound.recorded stored (List.mem_filter.mp kept).1
  · intro _ _ _ grows held row mem
    exact (held row mem).grown grows.history

theorem step_updateWhere (rows : ∀ kept, (change kept).row = kept.row)
    (ends : ∀ kept ∈ before.replays, selects kept = true → kept.unsettled = true) :
    Step setup peer before
      { before with replays := updateWhere selects change before.replays } := by
  refine .retime before (fun kept => if selects kept then change kept else kept) ?_ ?_
  · intro kept _
    by_cases picked : selects kept = true
    · rw [if_pos picked, rows]
    · rw [if_neg picked]
  · intro kept mem isSettled
    rw [if_neg]
    intro picked
    rw [ends kept mem picked] at isSettled
    cases isSettled

theorem call_leaseReplays :
    Keeps setup jobs peer
      (fun leases later => ∀ leased ∈ leases, Inserted leased.row.decision later.history)
      (call (.leaseReplays owner duration minAge limit)) state := by
  refine call_keeps ?_ ?_
  · intro _ _ sound _ _
    constructor
    · apply Step.retime
      · intro _ _
        rw [StoredReplay.leaseFrom]
        split
        · split <;> rfl
        · rfl
      · intro _ _ settled
        rw [StoredReplay.leaseFrom]
        split
        · rw [if_neg]
          rw [settled]
          exact Bool.false_ne_true
        · rfl
    · intro _ answered _ mem
      rw [← Except.ok.inj answered] at mem
      obtain ⟨numbered, isNumbered, rfl⟩ := List.mem_map.mp mem
      obtain ⟨stored, _⟩ := numbered
      have picked := List.mem_of_mem_take (List.fst_mem_of_mem_zipIdx isNumbered)
      rw [List.mem_insertionSort] at picked
      exact sound.recorded stored (List.mem_filter.mp picked).1
  · intro _ _ _ grows held leased mem
    exact (held leased mem).grown grows.history

variable {lease : Lease}

theorem call_releaseReplayLease :
    Keeps setup jobs peer Any
      (call (.releaseReplayLease replayInstanceId lease)) state := by
  refine call_keeps ?_ fun _ _ _ _ holds => holds
  intro _ _ sound _ _
  refine ⟨?_, fun _ _ => trivial⟩
  apply step_updateWhere
  · intro _
    rfl
  · intro kept mem picked
    -- a settled row has no lease to release
    by_contra ends
    have noLease := sound.unleased kept mem (by simpa using ends)
    rw [noLease] at picked
    simp at picked

/-- The beginning of a drive: what is known about the shadows of its row. -/
theorem call_touch (inserted : Inserted decision state.history) :
    Keeps setup jobs peer
      (fun _ later => (jobs peer).isRequest = true ∨
        decision.shadowedKeys = [] ∨ Hydrated setup decision later.history)
      (call (.touch decision.replayInstanceId)) state := by
  refine call_keeps ?_ ?_
  · intro _ grows sound meets _
    constructor
    · apply step_updateWhere
      · intro _
        rfl
      · intro _ _ picked
        exact (Bool.and_eq_true_iff.mp picked).2
    · intro _ _
      rcases meets with isRequest | landed
      · exact .inl isRequest
      obtain ⟨stored, mem, decides⟩ := sound.stored decision (inserted.grown grows.history)
      have isId : stored.id = decision.replayInstanceId := by rw [StoredReplay.id, decides]
      rw [← decides]
      exact .inr (landed stored mem isId)
  · intro _ _ _ grows held
    rcases held with isRequest | empty | hydrated
    · exact .inl isRequest
    · exact .inr (.inl empty)
    · exact .inr (.inr (hydrated.grown grows.history))

theorem call_insertReplayLifecycle (unsettled : row.status ≠ .released) :
    Keeps setup jobs peer
      (fun outcome later => outcome = .inserted → Inserted row.decision later.history)
      (call (.insertReplayLifecycle row)) state := by
  refine call_keeps ?_ ?_
  · intro before _ _ meets turn
    by_cases conflicts : before.conflicts row.decision = true
    · simp only [answer, if_pos conflicts]
      split
      · refine ⟨.still before, ?_⟩
        rintro _ answered rfl
        cases answered
      · refine ⟨.still before, ?_⟩
        rintro _ answered
        cases answered
    · simp only [answer, if_neg conflicts]
      refine ⟨.insert before row turn.now (by simpa using conflicts) meets unsettled, ?_⟩
      intro _ _ _
      exact ⟨_, .head _, peer, rfl⟩
  · intro _ _ _ grows held inserts
    exact (held inserts).grown grows.history

variable {run : Uuid}

/-- A launch makes the scope of a run that nothing is rehydrated into. -/
theorem call_launch : Keeps setup jobs peer Any (call (.launch run)) state := by
  refine call_keeps ?_ fun _ _ _ _ holds => holds
  intro before _ _ meets _
  refine ⟨?_, fun _ _ => trivial⟩
  by_cases there : run ∈ before.scopes
  · simp only [answer, if_pos there]
    exact .still before
  simp only [answer, if_neg there]
  apply Step.launch before run
  intro kept mem isRun
  exact (meets kept mem isRun).resolve_left there

variable {workflowVersion : Int} {doomed : List Uuid} {seed : ReplaySeed}

theorem gatherFrom_keeps :
    Keeps setup jobs peer (fun ancestors _ =>
        ancestors = ancestorsFrom setup.archive fuel next found)
      (gatherFrom fuel next found) state := by
  induction fuel generalizing next found state with
  | zero =>
    cases next with
    | none | some => exact .pure fun _ _ _ => rfl
  | succ fuel ih =>
    cases next with
    | none => exact .pure fun _ _ _ => rfl
    | some parentId =>
      rw [gatherFrom, ancestorsFrom]
      by_cases known : (found.any fun ancestor => ancestor.1 == parentId) = true
      · simp only [if_pos known]
        exact .pure fun _ _ _ => rfl
      simp only [if_neg known]
      apply andThen call_replaySource
      intro parent _ _ isParent
      rw [← isParent]
      cases parent with
      | none => exact .pure fun _ _ _ => rfl
      | some => exact ih

variable (filed : setup.archive decision.sourceInstanceId = some source)
include filed

theorem checkDecision_ok
    (passes : checkDecision setup decision source shadows = .ok seed) :
    triggerFor setup decision = some (buildTriggerSignal seed source.workflowId decision) ∧
      seed.replayInstanceId = decision.replayInstanceId ∧
        (shadows ≠ [] → shadows.map CarriedKey.name = decision.shadowedKeys) := by
  rw [checkDecision] at passes
  by_cases mismatch : decision.replayInstanceId ≠
      setup.replayInstanceId decision.sourceInstanceId decision.signalId
  · rw [if_pos mismatch] at passes
    cases passes
  rw [if_neg mismatch] at passes
  have id := not_not.mp mismatch
  cases hasGraph : source.graph with
  | none =>
    rw [hasGraph] at passes
    cases passes
  | some graph =>
    simp only [hasGraph] at passes
    cases mints : mintReplaySeed setup decision.sourceInstanceId graph
        source.tasks source.workflowVersion decision.resumeFrom
        decision.signalId with
    | error =>
      rw [mints] at passes
      cases passes
    | ok =>
      simp only [mints] at passes
      split at passes
      · cases passes
      split at passes
      · cases passes
      split at passes
      · cases passes
      rename_i audited
      cases passes
      refine ⟨?_, ?_, ?_⟩
      · simp only [triggerFor, filed, hasGraph, mints]
      · rw [id]
        simp only [mintReplaySeed] at mints
        split at mints
        · cases mints
          rfl
        · cases mints
      · intro hasShadows
        by_contra ne
        exact audited ⟨hasShadows, ne⟩

/-- The inputs of a drive are those of its row. -/
structure InputsFor (setup : Deployment) (decision : ReplayDecision)
    (shadows : List CarriedKey) (inputs : DriveInputs) : Prop where
  trigger : triggerFor setup decision = some inputs.trigger
  triggerId : inputs.trigger.replay.replayInstanceId = decision.replayInstanceId
  carried : inputs.plan.carried = carriedFor setup decision
  shadowed : inputs.plan.shadowed = shadows
  signal : inputs.plan.replaySignalId = decision.signalId
  instanceId : inputs.replayInstanceId = decision.replayInstanceId
  bornStalled : inputs.bornStalled = true ↔ decision.preGrounded ≠ []
  audited : shadows ≠ [] → shadows.map CarriedKey.name = decision.shadowedKeys

theorem buildDriveInputs_keeps :
    Keeps setup jobs peer (fun inputs _ => InputsFor setup decision shadows inputs)
      (buildDriveInputs setup decision source shadows) state := by
  apply andThen (SafeTry.check fun _ passes _ _ _ => passes)
  intro _ _ _ passes
  obtain ⟨isTrigger, id, audited⟩ := checkDecision_ok filed passes
  apply SafeExcept.andPure (.mapError gatherFrom_keeps fun _ _ => trivial)
  rintro _ _ _ rfl
  exact
    { trigger := isTrigger
      triggerId := id
      carried := by
        rw [carriedFor, filed]
      shadowed := rfl
      signal := rfl
      instanceId := rfl
      bornStalled := by simp
      audited := audited }

omit filed

variable {inputs : DriveInputs}

/-- What is known about the row of a drive: it was inserted, and the shadows
at hand are those it names, or a rehydration has written them. -/
structure Knows (setup : Deployment) (decision : ReplayDecision)
    (shadows : List CarriedKey) (state : State) : Prop where
  inserted : Inserted decision state.history
  genuine : ∀ entry ∈ shadows, entry.value.isShadow = true
  covered : shadows = [] → decision.shadowedKeys = [] ∨ Hydrated setup decision state.history

theorem Knows.grows (knows : Knows setup decision shadows before)
    (grows : Grows before after) :
    Knows setup decision shadows after where
  inserted := knows.inserted.grown grows.history
  genuine := knows.genuine
  covered := by
    intro empty
    rcases knows.covered empty with plain | hydrated
    · exact .inl plain
    · exact .inr (hydrated.grown grows.history)

theorem call_effect {event : ReplayEvent} {holds : List ReplayEvent → Prop}
    (performs : ∀ turn before,
      (answer setup.archive peer op turn before).2 =
        { before with history := event :: before.history })
    (isEffect : ∀ author decision, event ≠ .inserted author decision)
    (fair : ∀ before, Grows state before → Justified setup before.history event)
    (shows : ∀ history, holds (event :: history))
    (lasts : ∀ before after, holds before → before <:+ after → holds after) :
    Keeps setup jobs peer (fun _ later => holds later.history) (call op) state := by
  refine call_keeps ?_ fun _ _ _ grows held => lasts _ _ held grows.history
  intro before grows _ _ turn
  rw [performs turn before]
  exact ⟨.effect before event (fair before grows) isEffect, fun _ _ => shows _⟩

variable (knows : Knows setup decision shadows state)
  (isInputs : InputsFor setup decision shadows inputs)
include knows

include isInputs in
theorem call_sendTrigger :
    Keeps setup jobs peer
      (fun _ later => Triggered decision.replayInstanceId later.history)
      (call (.send (.trigger inputs.trigger))) state := by
  refine @call_effect setup jobs peer state (.send (.trigger inputs.trigger))
    (.sent peer (.trigger inputs.trigger)) _ (fun _ _ => rfl) ?_ ?_ ?_
    fun _ _ => .grown
  · intro _ _
    exact ReplayEvent.noConfusion
  · intro _ grows
    exact ⟨decision, knows.inserted.grown grows.history, isInputs.triggerId.symm, isInputs.trigger⟩
  · intro _
    refine ⟨_, .head _, ?_⟩
    simpa [ReplayEvent.triggers] using isInputs.triggerId

theorem call_sendResume (triggered : Triggered decision.replayInstanceId state.history)
    (hydrated : Hydrated setup decision state.history) :
    Keeps setup jobs peer
      (fun _ later => Resumed decision.replayInstanceId later.history)
      (call (.send (.resume decision.replayInstanceId))) state := by
  refine @call_effect setup jobs peer state (.send (.resume decision.replayInstanceId))
    (.sent peer (.resume decision.replayInstanceId)) _ (fun _ _ => rfl) ?_ ?_ ?_
    fun _ _ => .grown
  · intro _ _
    exact ReplayEvent.noConfusion
  · intro _ grows
    exact ⟨decision, knows.inserted.grown grows.history, rfl,
      triggered.grown grows.history, hydrated.grown grows.history⟩
  · intro _
    refine ⟨_, .head _, ?_⟩
    simp [ReplayEvent.resumes]

omit knows

theorem call_put {entry : CarriedKey} (triggered : Triggered run state.history) :
    Keeps setup jobs peer (fun _ later => entry ∈ written peer run later.history)
      (call (.put run entry)) state := by
  refine @call_effect setup jobs peer state (.put run entry)
    (.wrote peer run [entry]) _ (fun _ _ => rfl) ?_ ?_ ?_
    fun _ _ held grown => written_grown grown held
  · intro _ _
    exact ReplayEvent.noConfusion
  · intro _ grows
    exact triggered.grown grows.history
  · intro _
    exact mem_written.mpr ⟨[entry], .head _, .head _⟩

theorem putAll_keeps {entries : List CarriedKey} (triggered : Triggered run state.history) :
    Keeps setup jobs peer
      (fun _ later => ∀ entry ∈ entries, entry ∈ written peer run later.history)
      (putAll run entries) state := by
  induction entries generalizing state with
  | nil =>
    refine .pure ?_
    intro _ _ _ _ mem
    cases mem
  | cons _ _ ih =>
    apply andThen (call_put triggered)
    intro _ _ evolves writes
    have stillTriggered := triggered.grown (grows_of_evolves evolves).history
    apply (ih stillTriggered).frame.weaken
    rintro _ _ _ ⟨restWritten, onward⟩
    refine List.forall_mem_cons.mpr ⟨?_, restWritten⟩
    exact written_grown (grows_of_evolves onward).history writes

include isInputs in
theorem hydratedBy_of_entries (genuine : ∀ entry ∈ shadows, entry.value.isShadow = true)
    (named : shadows.map CarriedKey.name = decision.shadowedKeys)
    (writes : ∀ entry ∈ inputs.plan.entries,
      entry ∈ written peer decision.replayInstanceId history) :
    HydratedBy setup decision history peer := by
  have sentinel : inputs.plan.sentinel = sentinelFor setup decision := by
    rw [RehydrationPlan.sentinel, sentinelFor, isInputs.carried, isInputs.signal]
  refine ⟨?_, ?_, ?_⟩
  · intro _ mem
    apply writes
    rw [RehydrationPlan.entries, isInputs.carried]
    simp [mem]
  · intro _ mem
    rw [← named] at mem
    obtain ⟨entry, isShadow, rfl⟩ := List.mem_map.mp mem
    refine ⟨entry, ?_, rfl, genuine entry isShadow⟩
    apply writes
    rw [RehydrationPlan.entries, isInputs.shadowed]
    simp [isShadow]
  · rw [← sentinel]
    apply writes
    simp [RehydrationPlan.entries]

theorem hydrated_of_entries (knows : Knows setup decision shadows later)
    (isInputs : InputsFor setup decision shadows inputs)
    (writes : ∀ entry ∈ inputs.plan.entries,
      entry ∈ written peer decision.replayInstanceId later.history) :
    Hydrated setup decision later.history := by
  by_cases empty : shadows = []
  · rcases knows.covered empty with plain | hydrated
    · have named : shadows.map CarriedKey.name = decision.shadowedKeys := by
        rw [empty, plain]
        rfl
      exact (hydratedBy_of_entries isInputs knows.genuine named writes).hydrated
    · exact hydrated
  · exact (hydratedBy_of_entries isInputs knows.genuine
      (isInputs.audited empty) writes).hydrated

variable (triggered : Triggered decision.replayInstanceId state.history)
include knows isInputs triggered

/-- The local transaction either fills the scope or finds it filled. -/
theorem call_createScope (needed : decision.preGrounded ≠ [] ∨ shadows ≠ []) :
    Keeps setup jobs peer (fun _ later => Hydrated setup decision later.history)
      (call (.createScope decision.replayInstanceId inputs.plan.entries))
      state := by
  refine call_keeps ?_ ?_
  · intro before grows sound _ _
    have knowsNow := knows.grows grows
    by_cases present : decision.replayInstanceId ∈ before.scopes
    · simp only [answer, if_pos present]
      refine ⟨.still before, ?_⟩
      intro _ _
      obtain ⟨stored, mem, decides⟩ := sound.stored decision knowsNow.inserted
      have isId : stored.id = decision.replayInstanceId := by rw [StoredReplay.id, decides]
      have inScope := sound.inScope stored mem (isId ▸ present)
      rw [decides] at inScope
      rcases inScope with ⟨stall, shadow⟩ | hydrated
      · rcases needed with stalled | hasShadows
        · exact absurd stall stalled
        · have named := isInputs.audited hasShadows
          rw [shadow] at named
          exact absurd (List.map_eq_nil_iff.mp named) hasShadows
      · exact hydrated
    · simp only [answer, if_neg present]
      have filled : Hydrated setup decision
          (.wrote peer decision.replayInstanceId inputs.plan.entries :: before.history) := by
        have grown : Grows before { before with
              history := .wrote peer decision.replayInstanceId
                inputs.plan.entries :: before.history } :=
          ⟨List.suffix_cons _ _, (Grows.refl before).replays⟩
        apply hydrated_of_entries (knowsNow.grows grown) isInputs
        intro _ mem
        exact mem_written.mpr ⟨_, .head _, mem⟩
      refine ⟨?_, fun _ _ => filled⟩
      apply Step.create before decision.replayInstanceId inputs.plan.entries
        (triggered.grown grows.history)
      intro stored mem isRun
      have same : stored.row.decision = decision :=
        sound.ordered.inserted_unique (sound.recorded stored mem) knowsNow.inserted isRun
      rw [same]
      exact filled
  · intro _ _ _ grows held
    exact held.grown grows.history

variable {formation : Formation}

theorem rehydrate_keeps (needed : decision.preGrounded ≠ [] ∨ shadows ≠ []) :
    Keeps setup jobs peer (fun _ later => Hydrated setup decision later.history)
      (rehydrate formation decision.replayInstanceId inputs.plan) state := by
  cases formation with
  | nats =>
    apply andThen (call_quiet fun _ _ => rfl)
    intro _ _ evolves _
    have grows := grows_of_evolves evolves
    apply (putAll_keeps (triggered.grown grows.history)).frame.weaken
    rintro _ _ _ ⟨written, onward⟩
    exact hydrated_of_entries ((knows.grows grows).grows (grows_of_evolves onward)) isInputs
      written
  | lite =>
    apply andThen (call_createScope knows isInputs triggered needed)
    intro _ _ _ held
    exact .pure fun _ rely _ =>
      held.grown (grows_of_rely rely).history

theorem releaseStall_keeps
    (hydrated : decision.preGrounded ≠ [] → Hydrated setup decision state.history) :
    Keeps setup jobs peer
      (fun _ later => decision.preGrounded ≠ [] → Resumed decision.replayInstanceId later.history)
      (releaseStall inputs) state := by
  rw [releaseStall]
  by_cases stalled : inputs.bornStalled = true
  · rw [if_pos stalled, isInputs.instanceId]
    have isStalled := isInputs.bornStalled.mp stalled
    apply (call_sendResume knows triggered (hydrated isStalled)).weaken
    intro _ _ _ resumed _
    exact resumed
  · rw [if_neg stalled]
    refine .pure ?_
    intro _ _ _ isStalled
    exact absurd (isInputs.bornStalled.mpr isStalled) stalled

omit triggered

theorem performDriveEffects_keeps :
    Keeps setup jobs peer (fun _ later => Driven setup decision later.history)
      (performDriveEffects formation inputs) state := by
  apply andThen (call_sendTrigger knows isInputs)
  intro _ _ evolves triggered
  have knowsSent := knows.grows (grows_of_evolves evolves)
  by_cases needed : inputs.bornStalled = true ∨ inputs.plan.shadowed ≠ []
  · rw [if_pos needed, isInputs.instanceId]
    have isNeeded : decision.preGrounded ≠ [] ∨ shadows ≠ [] := by
      rw [← isInputs.bornStalled, ← isInputs.shadowed]
      exact needed
    apply andThen (rehydrate_keeps knowsSent isInputs triggered isNeeded)
    intro _ _ evolvesFilled hydrated
    have growsFilled := grows_of_evolves evolvesFilled
    apply (releaseStall_keeps (knowsSent.grows growsFilled) isInputs
      (triggered.grown growsFilled.history) fun _ => hydrated).frame.weaken
    rintro _ _ _ ⟨resumed, evolvesFinal⟩
    have grownFinal := (grows_of_evolves evolvesFinal).history
    exact ⟨(triggered.grown growsFilled.history).grown grownFinal,
      fun _ => hydrated.grown grownFinal, resumed⟩
  · rw [if_neg needed]
    obtain ⟨notStalled, noShadows⟩ := not_or.mp needed
    have plain : decision.preGrounded = [] := by
      by_contra stalled
      exact notStalled (isInputs.bornStalled.mpr stalled)
    have empty : shadows = [] := by
      rw [← isInputs.shadowed]
      exact not_not.mp noShadows
    apply (releaseStall_keeps knowsSent isInputs triggered
      fun stalled => absurd plain stalled).frame.weaken
    rintro _ _ _ ⟨resumed, evolvesFinal⟩
    have growsFinal := grows_of_evolves evolvesFinal
    refine ⟨triggered.grown growsFinal.history, ?_, resumed⟩
    rintro (stalled | named)
    · exact absurd plain stalled
    · rcases knowsSent.covered empty with unnamed | hydrated
      · exact absurd unnamed named
      · exact hydrated.grown growsFinal.history

omit isInputs knows

variable (inserted : Inserted decision state.history)
  (driven : Driven setup decision state.history)
include inserted driven

theorem call_release :
    Keeps setup jobs peer Any (call (.release decision.replayInstanceId)) state := by
  refine call_keeps ?_ fun _ _ _ _ holds => holds
  intro before grows _ _ turn
  refine ⟨?_, fun _ _ => trivial⟩
  simp only [answer]
  split
  · exact .still before
  · refine .release before decision.replayInstanceId turn.now _ ?_
      ⟨decision, inserted.grown grows.history, rfl, driven.grown grows.history⟩
    simp

theorem call_releaseLeased :
    Keeps setup jobs peer Any
      (call (.releaseLeased decision.replayInstanceId lease)) state := by
  refine call_keeps ?_ fun _ _ _ _ holds => holds
  intro before grows _ _ turn
  refine ⟨?_, fun _ _ => trivial⟩
  simp only [answer]
  split
  · exact .still before
  refine .release before decision.replayInstanceId turn.now _ ?_
    ⟨decision, inserted.grown grows.history, rfl, driven.grown grows.history⟩
  intro _ _ picked
  have both := (Bool.and_eq_true_iff.mp picked).1
  simpa using both

omit inserted driven

/-- A way to settle a row whose effects are complete. -/
def Settles (setup : Deployment) (jobs : Nat → Command)
    (peer : Nat) (decision : ReplayDecision)
    (settle : ReplayProgram RepositoryError Settlement) : Prop :=
  ∀ state, Inserted decision state.history →
    Driven setup decision state.history →
      Keeps setup jobs peer (fun _ _ => True) settle state

theorem settleReplayReleased_settles :
    Settles setup jobs peer decision
      (settleReplayReleased decision.replayInstanceId) := by
  intro _ inserted driven
  apply andThen (call_release inserted driven)
  intro released _ _ _
  cases released with
  | true => exact .done
  | false =>
    exact andDone call_lifecycle

theorem settleLeasedReplayReleased_settles :
    Settles setup jobs peer decision
      (settleLeasedReplayReleased decision.replayInstanceId lease) := by
  intro _ inserted driven
  apply andThen (call_releaseLeased inserted driven)
  intro released _ _ _
  cases released with
  | true => exact .done
  | false =>
    exact andDone call_lifecycle

variable {settle : ReplayProgram RepositoryError Settlement}
  (settles : Settles setup jobs peer decision settle)

include settles in
theorem driveLoaded_keeps (knows : Knows setup decision shadows state)
    (filed : setup.archive decision.sourceInstanceId = some source) :
    Keeps setup jobs peer Any
      (driveLoaded setup formation settle decision source shadows)
      state := by
  apply andThen (buildDriveInputs_keeps filed)
  intro _ _ evolves isInputs
  have knowsBuilt := knows.grows (grows_of_evolves evolves)
  apply andThen
    (.mapError (performDriveEffects_keeps knowsBuilt isInputs) fun _ _ => trivial)
  intro _ ran onward driven
  have insertedNow := knowsBuilt.inserted.grown (grows_of_evolves onward).history
  apply andThen (.mapError (settles ran insertedNow driven) fun _ _ => trivial)
  intro _ _ _ _
  exact SafeTry.check fun _ _ _ _ _ => trivial

theorem loadReplayDrive_keeps (inserted : Inserted decision state.history)
    (genuine : ∀ entry ∈ shadows, entry.value.isShadow = true)
    (covered : shadows = [] → (jobs peer).isRequest = true → decision.shadowedKeys = []) :
    Keeps setup jobs peer
      (fun outcome later => ∀ loaded source, outcome = .ready loaded source →
        loaded = decision ∧ Knows setup decision shadows later ∧
          setup.archive decision.sourceInstanceId = some source)
      (loadReplayDrive decision.replayInstanceId) state := by
  apply andThen (call_touch inserted)
  intro _ touched evolves begun
  have knows : Knows setup decision shadows touched := by
    refine ⟨inserted.grown (grows_of_evolves evolves).history, genuine, ?_⟩
    intro empty
    rcases begun with isRequest | known
    · exact .inl (covered empty isRequest)
    · exact known
  have read : Keeps setup jobs peer
      (fun found _ => ∀ row, found = some row → row.decision = decision)
      (call (.lifecycle decision.replayInstanceId)) touched := by
    apply (call_lifecycle.frame).weaken
    rintro _ _ sound ⟨held, onward⟩ row isRow
    obtain ⟨inserts, id⟩ := held row isRow
    exact sound.ordered.inserted_unique inserts
      (knows.inserted.grown (grows_of_evolves onward).history) id
  apply andThen read
  intro found _ reads decides
  have knowsRead := knows.grows (grows_of_evolves reads)
  cases found with
  | none =>
    refine .pure ?_
    intro _ _ _ _ _ isReady
    cases isReady
  | some row =>
    have isRow := decides row rfl
    dsimp only
    by_cases ends : row.status ≠ .materializing
    · rw [if_pos ends]
      refine .pure ?_
      intro _ _ _ _ _ isReady
      cases isReady
    rw [if_neg ends]
    apply andThen call_replaySource
    intro source _ evolvesSource isSource
    have knowsSource := knowsRead.grows (grows_of_evolves evolvesSource)
    cases source with
    | none =>
      refine .pure ?_
      intro _ _ _ _ _ isReady
      cases isReady
    | some =>
      refine .pure ?_
      intro _ rely _ _ _ isReady
      cases isReady
      refine ⟨isRow, knowsSource.grows (grows_of_rely rely), ?_⟩
      rw [← isRow]
      exact isSource.symm

include settles

theorem driveWith_keeps (inserted : Inserted decision state.history)
    (genuine : ∀ entry ∈ shadows, entry.value.isShadow = true)
    (covered : shadows = [] → (jobs peer).isRequest = true → decision.shadowedKeys = []) :
    Keeps setup jobs peer Any
      (driveWith setup formation settle decision.replayInstanceId shadows)
      state := by
  apply andThen
    (.mapError (loadReplayDrive_keeps inserted genuine covered) fun _ _ => trivial)
  intro outcome _ _ held
  cases outcome with
  | ready row source =>
    obtain ⟨rfl, knows, filed⟩ := held row source rfl
    exact driveLoaded_keeps settles knows filed
  | sourceUnavailable | absent => exact SafeTry.throw
  | alreadySettled status =>
    cases status with
    | released => exact .done
    | materializing | versionUnresolvable => exact SafeTry.throw

/-- A later drive has no shadows at hand. -/
theorem redrive_keeps (other : (jobs peer).isRequest = false)
    (inserted : Inserted decision state.history) :
    Keeps setup jobs peer Any
      (driveWith setup formation settle decision.replayInstanceId [])
      state := by
  apply driveWith_keeps settles inserted
  · intro _ mem
    cases mem
  · intro _ isRequest
    rw [other] at isRequest
    cases isRequest

omit settles

variable {request : ReplayRequest} {signalId : Uuid}

theorem persist_keeps (safe : Keeps setup jobs peer post (call op) state) :
    Keeps setup jobs peer post (persist op) state :=
  .mapError safe fun _ _ => trivial

theorem commitReplay_keeps (genuine : ∀ entry ∈ shadows, entry.value.isShadow = true)
    (covered : shadows = [] → decision.shadowedKeys = []) :
    Keeps setup jobs peer Any
      (commitReplay setup formation decision doomed shadows) state := by
  refine andThen (persist_keeps (call_insertReplayLifecycle ?_)) ?_
  · intro released
    cases released
  intro outcome later _ inserted
  cases outcome with
  | existing => exact .done
  | inserted =>
    have driven : Keeps setup jobs peer Any
        (driveReplay setup formation decision.replayInstanceId shadows) later :=
      driveWith_keeps settleReplayReleased_settles (inserted rfl) genuine
        fun empty _ => covered empty
    exact andDone (.attempt driven)

theorem buildShadowWrites_ok {inputs : List (String × Json)}
    (builds : buildShadowWrites definition workflowVersion inputs signalId = .ok (writes, names)) :
    (∀ entry ∈ writes, entry.value.isShadow = true) ∧ (writes = [] → names = []) := by
  simp only [buildShadowWrites] at builds
  by_cases noInputs : inputs = []
  · rw [if_pos noInputs] at builds
    cases builds
    refine ⟨?_, fun _ => rfl⟩
    intro _ mem
    cases mem
  · rw [if_neg noInputs] at builds
    cases definition with
    | none => cases builds
    | some definition =>
      simp only at builds
      cases wrote : inputs.mapM (shadowWrite definition signalId) with
      | error =>
        rw [wrote] at builds
        cases builds
      | ok entries =>
        rw [wrote] at builds
        cases builds
        constructor
        · intro _ mem
          rw [List.mem_insertionSort] at mem
          obtain ⟨_, _, writes⟩ := (Rust.mem_of_mapM wrote).mp mem
          rw [shadowWrite] at writes
          split at writes
          · cases writes
            rfl
          · split at writes <;> cases writes
        · intro empty
          have noEntries : entries = [] := by
            have same := List.length_insertionSort
              (fun (left right : CarriedKey) => left.name ≤ right.name)
              entries
            rw [empty] at same
            exact List.length_eq_zero_iff.mp same.symm
          rw [noEntries]
          rfl

theorem check_keeps {result : Except ε α} :
    Keeps setup jobs peer (fun value _ => result = .ok value)
      (Program.check result) state := .check fun _ isOk _ _ _ => isOk

theorem acceptReplay_keeps :
    Keeps setup jobs peer Any
      (acceptReplay setup formation request signalId source graph)
      state := by
  apply andThen check_keeps
  intro _ _ _ _
  have gathered : ∀ later, Keeps setup jobs peer Any
      (Program.mapError ReplayError.persist (gatherAncestors source)) later := by
    intro _
    exact .mapError (gatherFrom_keeps.weaken fun _ _ _ _ => trivial) fun _ _ => trivial
  apply andThen (gathered _)
  intro _ _ _ _
  apply andThen check_keeps
  intro _ _ _ _
  apply andThen check_keeps
  intro _ _ _ builds
  obtain ⟨genuine, covered⟩ := buildShadowWrites_ok builds
  exact commitReplay_keeps genuine covered

theorem processFresh_keeps :
    Keeps setup jobs peer Any
      (processFresh setup formation request signalId) state := by
  apply andThen (persist_keeps call_replaySource)
  intro source later _ _
  cases source with
  | none =>
    refine andThen (persist_keeps (call_insertReplayLifecycle ?_)) ?_
    · intro released
      cases released
    · intro outcome _ _ _
      cases outcome with
      | inserted | existing => exact .done
  | some source =>
    dsimp only
    cases source.graph with
    | none => exact SafeTry.throw
    | some => exact acceptReplay_keeps

theorem processReplay_keeps :
    Keeps setup jobs peer Any (processReplay setup formation request) state := by
  apply andThen (persist_keeps (call_quiet fun _ _ => rfl))
  intro _ _ _ _
  cases request.idempotencyKey with
  | none => exact processFresh_keeps
  | some =>
    apply andThen (persist_keeps (call_quiet fun _ _ => rfl))
    intro row _ _ _
    cases row with
    | none => exact processFresh_keeps
    | some => exact .done

theorem redriveRows_keeps (ne : (jobs peer).isRequest = false)
    (inserted : ∀ row ∈ rows, Inserted row.decision state.history) :
    Keeps setup jobs peer Any (redriveRows setup rows) state := by
  induction rows generalizing state with
  | nil => exact .done
  | cons row _ ih =>
    apply andThen (.attempt
      (redrive_keeps settleReplayReleased_settles ne (inserted row (.head _))))
    intro _ _ evolves _
    apply ih
    intro other mem
    exact (inserted other (.tail row mem)).grown
      (grows_of_evolves evolves).history

theorem driveLeases_keeps (ne : (jobs peer).isRequest = false)
    (inserted : ∀ leased ∈ leases, Inserted leased.row.decision state.history) :
    Keeps setup jobs peer Any (driveLeases setup leases) state := by
  induction leases generalizing state with
  | nil => exact .done
  | cons leased rest ih =>
    have driven : Keeps setup jobs peer Any
        (driveLeasedReplay setup leased) state :=
      redrive_keeps settleLeasedReplayReleased_settles ne (inserted leased (.head _))
    apply andThen (.attempt driven)
    intro outcome later evolves _
    have restInserted : ∀ other ∈ rest, Inserted other.row.decision later.history := by
      intro other mem
      exact (inserted other (.tail leased mem)).grown
        (grows_of_evolves evolves).history
    cases outcome with
    | ok => exact ih restInserted
    | error =>
      apply andThen call_releaseReplayLease
      intro _ _ onward _
      apply ih
      intro other mem
      exact (restInserted other mem).grown (grows_of_evolves onward).history

theorem safe_answer {ε : Type} {program : ReplayProgram ε α}
    {form : Except ε α → Answer} (sound : Sound setup state)
    (safe : Keeps setup jobs peer Any program state) :
    Safe (system setup.archive) (discipline setup jobs) peer Any
      (program.run >>= fun outcome => pure (form outcome)) state := by
  refine .bind ((safe sound).weaken ?_) sound
  intro _ _ _ _ _ _ _
  trivial

theorem program_safe (peer : Nat) (sound : Sound setup state) :
    Safe (system setup.archive) (discipline setup jobs) peer
      Any ((jobs peer).program setup) state := by
  cases command : jobs peer with
  | replay => exact safe_answer sound processReplay_keeps
  | redrive =>
    have other : (jobs peer).isRequest = false := by
      rw [command]
      rfl
    apply safe_answer sound
    apply andThen call_unsettledReplays
    intro _ _ _ inserted
    exact redriveRows_keeps other inserted
  | scan =>
    have other : (jobs peer).isRequest = false := by
      rw [command]
      rfl
    apply safe_answer sound
    apply andThen call_leaseReplays
    intro _ _ _ inserted
    exact driveLeases_keeps other inserted
  | launch => exact safe_answer sound call_launch

/-- Run 5 is archived; its replay carries one output over and is born
Stalled. -/
def sampleDeployment : Deployment where
  archive := fun run => if run = 5 then
    some ⟨3, 1, some .null, .null, none, .null, some ⟨["who"], ["out"]⟩⟩ else none
  replayInstanceId := fun sourceInstanceId signalId =>
    1000 * sourceInstanceId + signalId
  defaultResumeFrom := fun _ => [41]
  seedGraph := fun _ _ => .ok (.null, [40], [])
  seedSha256 := fun _ => "digest"
  parentHydrationGate := fun _ _ => .ok ()
  planCarried := fun _ _ _ => [⟨"out", .carried "envelope"⟩]

/-- A replay with one input shadow, and a pass of the re-drive loop. -/
def sampleCommands : Nat → Command
  | 0 => .replay .nats ⟨5, [], none, some "once", [("who", .string "ada")]⟩
  | _ => .redrive 0

def turnsOf (peer count : Nat) (delivery : Delivery) : List (Nat × Turn) :=
  List.replicate count (peer, ⟨delivery, 10, [7]⟩)

/-- The first drive succeeds; the later pass finds nothing to do. -/
def drivenTurns : List (Nat × Turn) := turnsOf 0 14 .applied

/-- The relay does not take the first Trigger; the later pass drives the row. -/
def redrivenTurns : List (Nat × Turn) :=
  turnsOf 0 7 .applied ++ turnsOf 0 1 .refused ++ turnsOf 1 10 .applied

end Tickr.Replay
