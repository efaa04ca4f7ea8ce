import Tickr.Replay.Pipeline

/-!
# The order of the effects of a replay

A signal, a scope write or a settlement is only added to a history that justifies
it: no write before the Trigger, no Resume before a complete rehydration, no
settlement before all of them.
-/

namespace Tickr.Replay

open Concurrent Concurrent.Discipline KeyValue Table
open LogStream (Uuid)

variable (setup : Deployment)

/-- The values that a replay carries over from the archive. -/
def carriedFor (decision : ReplayDecision) : List CarriedKey :=
  match setup.archive decision.sourceInstanceId with
  | none => []
  | some source =>
    setup.planCarried source
      (ancestorsFrom setup.archive (maxChainDepth + 1)
        source.replaySource []) decision.preGrounded

def sentinelFor (decision : ReplayDecision) : CarriedKey :=
  ⟨hydrationSentinelKey, .sentinel decision.signalId
    ((carriedFor setup decision).map CarriedKey.name)⟩

def triggerFor (decision : ReplayDecision) : Option ReplayTrigger :=
  match setup.archive decision.sourceInstanceId with
  | none => none
  | some source =>
    match source.graph with
    | none => none
    | some graph =>
      match mintReplaySeed setup decision.sourceInstanceId graph
          source.tasks source.workflowVersion decision.resumeFrom
          decision.signalId with
      | .ok (seed, _) => some (buildTriggerSignal seed source.workflowId decision)
      | .error _ => none

/-- What a client has written into the scope of a run. -/
def ReplayEvent.written (author : Nat) (run : Uuid) :
    ReplayEvent → List CarriedKey
  | .wrote writer scope entries =>
    if writer = author ∧ scope = run then entries else []
  | _ => []

def written (author : Nat) (run : Uuid) (history : List ReplayEvent) :
    List CarriedKey := history.flatMap (ReplayEvent.written author run)

/-- One client has written every carried value of a row, every input shadow
that the row names, and the sentinel. -/
def HydratedBy (decision : ReplayDecision) (history : List ReplayEvent) (author : Nat) : Prop :=
  (∀ entry ∈ carriedFor setup decision,
      entry ∈ written author decision.replayInstanceId history) ∧
    (∀ name ∈ decision.shadowedKeys,
      ∃ entry ∈ written author decision.replayInstanceId history,
        entry.name = name ∧ entry.value.isShadow = true) ∧
    sentinelFor setup decision ∈ written author decision.replayInstanceId history

/-- Some client has completed the rehydration of a row. -/
def Hydrated (decision : ReplayDecision) (history : List ReplayEvent) :
    Prop := ∃ event ∈ history, HydratedBy setup decision history event.author

variable (replayInstanceId : Uuid)

def ReplayEvent.triggers : ReplayEvent → Bool
  | .sent _ (.trigger trigger) => trigger.replay.replayInstanceId == replayInstanceId
  | _ => false

def ReplayEvent.resumes : ReplayEvent → Bool
  | .sent _ (.resume resumed) => resumed == replayInstanceId
  | _ => false

def Triggered (history : List ReplayEvent) : Prop :=
  ∃ event ∈ history, event.triggers replayInstanceId = true

def Resumed (history : List ReplayEvent) : Prop :=
  ∃ event ∈ history, event.resumes replayInstanceId = true

/-- Everything that a row needs before it is settled. -/
structure Driven (decision : ReplayDecision) (history : List ReplayEvent) : Prop where
  triggered : Triggered decision.replayInstanceId history
  hydrated : decision.preGrounded ≠ [] ∨ decision.shadowedKeys ≠ [] →
    Hydrated setup decision history
  resumed : decision.preGrounded ≠ [] → Resumed decision.replayInstanceId history

def Inserted (decision : ReplayDecision) (history : List ReplayEvent) : Prop :=
  ∃ event ∈ history, ∃ author, event = .inserted author decision

/-- What must have happened before an event. -/
def Justified (older : List ReplayEvent) : ReplayEvent → Prop
  | .inserted _ decision =>
    ∀ other, Inserted other older → other.replayInstanceId ≠ decision.replayInstanceId
  | .sent _ (.trigger trigger) =>
    ∃ decision, Inserted decision older ∧
      decision.replayInstanceId = trigger.replay.replayInstanceId ∧
        triggerFor setup decision = some trigger
  | .sent _ (.resume resumed) =>
    ∃ decision, Inserted decision older ∧
      decision.replayInstanceId = resumed ∧ Triggered resumed older ∧
        Hydrated setup decision older
  | .wrote _ run _ => Triggered run older
  | .released _ released =>
    ∃ decision, Inserted decision older ∧
      decision.replayInstanceId = released ∧ Driven setup decision older

/-- Every event of a history is justified by the older ones. -/
def Ordered : List ReplayEvent → Prop
  | [] => True
  | event :: older => Justified setup older event ∧ Ordered older

variable {setup : Deployment} {decision : ReplayDecision}
  {older history : List ReplayEvent} {author : Nat} {run : Uuid} {entry : CarriedKey}

theorem mem_written :
    entry ∈ written author run history ↔
      ∃ entries, .wrote author run entries ∈ history ∧ entry ∈ entries := by
  rw [written, List.mem_flatMap]
  constructor
  · rintro ⟨event, mem, writes⟩
    cases event with
    | wrote writer scope entries =>
      rw [ReplayEvent.written] at writes
      by_cases own : writer = author ∧ scope = run
      · rw [if_pos own] at writes
        obtain ⟨rfl, rfl⟩ := own
        exact ⟨entries, mem, writes⟩
      · rw [if_neg own] at writes
        cases writes
    | inserted | sent | released => cases writes
  · rintro ⟨_, mem, isEntry⟩
    refine ⟨_, mem, ?_⟩
    rw [ReplayEvent.written, if_pos ⟨rfl, rfl⟩]
    exact isEntry

theorem written_grown (grown : older <:+ history) (writes : entry ∈ written author run older) :
    entry ∈ written author run history := by
  obtain ⟨entries, mem, isEntry⟩ := mem_written.mp writes
  exact mem_written.mpr ⟨entries, grown.subset mem, isEntry⟩

theorem HydratedBy.grown (hydrated : HydratedBy setup decision older author)
    (grown : older <:+ history) :
    HydratedBy setup decision history author := by
  obtain ⟨carries, shadows, marks⟩ := hydrated
  refine ⟨?_, ?_, written_grown grown marks⟩
  · intro entry mem
    exact written_grown grown (carries entry mem)
  · intro name mem
    obtain ⟨entry, written, isShadow⟩ := shadows name mem
    exact ⟨entry, written_grown grown written, isShadow⟩

theorem Hydrated.grown (hydrated : Hydrated setup decision older)
    (grown : older <:+ history) : Hydrated setup decision history := by
  obtain ⟨event, mem, complete⟩ := hydrated
  exact ⟨event, grown.subset mem, complete.grown grown⟩

/-- A client that wrote the sentinel last has completed a rehydration. -/
theorem HydratedBy.hydrated (hydrated : HydratedBy setup decision history author) :
    Hydrated setup decision history := by
  obtain ⟨_, mem, _⟩ := mem_written.mp hydrated.2.2
  exact ⟨_, mem, hydrated⟩

theorem Triggered.grown (triggered : Triggered run older)
    (grown : older <:+ history) : Triggered run history := by
  obtain ⟨event, mem, trigger⟩ := triggered
  exact ⟨event, grown.subset mem, trigger⟩

theorem Resumed.grown (resumed : Resumed run older)
    (grown : older <:+ history) : Resumed run history := by
  obtain ⟨event, mem, resume⟩ := resumed
  exact ⟨event, grown.subset mem, resume⟩

theorem Driven.grown (driven : Driven setup decision older)
    (grown : older <:+ history) : Driven setup decision history where
  triggered := driven.triggered.grown grown
  hydrated := fun needed => (driven.hydrated needed).grown grown
  resumed := fun stalled => (driven.resumed stalled).grown grown

theorem Inserted.grown (inserted : Inserted decision older)
    (grown : older <:+ history) : Inserted decision history := by
  obtain ⟨event, mem, insert⟩ := inserted
  exact ⟨event, grown.subset mem, insert⟩

theorem inserted_cons :
    Inserted decision (event :: older) ↔
      (∃ author, event = .inserted author decision) ∨ Inserted decision older := by
  constructor
  · rintro ⟨found, mem, insert⟩
    rcases List.mem_cons.mp mem with rfl | isOlder
    · exact .inl insert
    · exact .inr ⟨found, isOlder, insert⟩
  · rintro (insert | ⟨found, isOlder, insert⟩)
    · exact ⟨event, .head _, insert⟩
    · exact ⟨found, .tail event isOlder, insert⟩

variable (ordered : Ordered setup history)
include ordered

theorem Ordered.inserted_unique (isFirst : Inserted first history)
    (isSecond : Inserted second history) (same : first.replayInstanceId = second.replayInstanceId) :
    first = second := by
  induction history with
  | nil =>
    obtain ⟨_, mem, _⟩ := isFirst
    cases mem
  | cons _ _ ih =>
    obtain ⟨fair, restOrdered⟩ := ordered
    rcases inserted_cons.mp isFirst with ⟨_, rfl⟩ | firstOlder
    · rcases inserted_cons.mp isSecond with ⟨_, isSame⟩ | secondOlder
      · cases isSame
        rfl
      · exact absurd same.symm (fair second secondOlder)
    · rcases inserted_cons.mp isSecond with ⟨_, rfl⟩ | secondOlder
      · exact absurd same (fair first firstOlder)
      · exact ih restOrdered firstOlder secondOlder

theorem Ordered.justified (mem : event ∈ history) :
    ∃ past, past <:+ history ∧ Justified setup past event := by
  induction history with
  | nil => cases mem
  | cons newest rest ih =>
    rcases List.mem_cons.mp mem with rfl | isOlder
    · exact ⟨rest, List.suffix_cons _ rest, ordered.1⟩
    · obtain ⟨past, grown, justified⟩ := ih ordered.2 isOlder
      exact ⟨past, grown.trans (List.suffix_cons newest rest), justified⟩

theorem Ordered.trigger_unique (isFirst : .sent firstAuthor (.trigger first) ∈ history)
    (isSecond : .sent secondAuthor (.trigger second) ∈ history)
    (same : first.replay.replayInstanceId = second.replay.replayInstanceId) :
    first = second := by
  obtain ⟨_, firstGrown, firstRow, firstInserted, firstId, isFirstRow⟩ :=
    ordered.justified isFirst
  obtain ⟨_, secondGrown, secondRow, inserted, secondId,
    isSecondRow⟩ := ordered.justified isSecond
  have sameRow : firstRow = secondRow :=
    ordered.inserted_unique (firstInserted.grown firstGrown) (inserted.grown secondGrown)
      (firstId.trans (same.trans secondId.symm))
  rw [sameRow, isSecondRow] at isFirstRow
  exact (Option.some.inj isFirstRow).symm

omit ordered

variable (setup : Deployment)

/-- What one step of a client may do. -/
inductive Step (peer : Nat) : State → State → Prop
  | still (state : State) : Step peer state state
  | insert (state : State) (row : ReplayLifecycleRow) (now : Int)
      (fresh : state.conflicts row.decision = false)
      (unscoped : row.decision.replayInstanceId ∉ state.scopes)
      (unsettled : row.status ≠ .released) :
      Step peer state { state with
          replays := state.replays ++ [⟨row, now, none⟩]
          history := .inserted peer row.decision :: state.history }
  | retime (state : State) (change : StoredReplay → StoredReplay)
      (keeps : ∀ stored ∈ state.replays, (change stored).row = stored.row)
      (settled : ∀ stored ∈ state.replays, stored.unsettled = false → change stored = stored) :
      Step peer state { state with replays := state.replays.map change }
  | release (state : State) (released : Uuid) (now : Int) (selects : StoredReplay → Bool)
      (only : ∀ stored ∈ state.replays, selects stored = true →
        stored.id = released ∧ stored.unsettled = true)
      (justified : Justified setup state.history (.released peer released)) :
      Step peer state { state with
          replays := updateWhere selects
            (fun stored => ⟨{ stored.row with status := .released }, now, none⟩) state.replays
          history := .released peer released :: state.history }
  | effect (state : State) (event : ReplayEvent)
      (justified : Justified setup state.history event)
      (isEffect : ∀ author decision, event ≠ .inserted author decision) :
      Step peer state { state with history := event :: state.history }
  | create (state : State) (run : Uuid) (entries : List CarriedKey)
      (justified : Triggered run state.history)
      (hydrates : ∀ stored ∈ state.replays, stored.id = run →
        Hydrated setup stored.row.decision (.wrote peer run entries :: state.history)) :
      Step peer state { state with
          scopes := run :: state.scopes
          history := .wrote peer run entries :: state.history }
  | launch (state : State) (run : Uuid)
      (harmless : ∀ stored ∈ state.replays, stored.id = run →
        stored.row.decision.preGrounded = [] ∧ stored.row.decision.shadowedKeys = []) :
      Step peer state { state with scopes := run :: state.scopes }

/-- What every step keeps. -/
structure Grows (before after : State) : Prop where
  history : before.history <:+ after.history
  replays : ∀ stored ∈ before.replays, ∃ later ∈ after.replays,
    later.row.decision = stored.row.decision ∧ (stored.unsettled = false → later = stored)

/-- What holds in every state reached. -/
structure Sound (state : State) : Prop where
  ordered : Ordered setup state.history
  keyed : Keyed StoredReplay.id state.replays
  bound : ∀ first ∈ state.replays, ∀ second ∈ state.replays,
    first.row.decision.idempotencyKey.isSome = true →
      first.row.decision.sourceInstanceId = second.row.decision.sourceInstanceId →
        first.row.decision.idempotencyKey = second.row.decision.idempotencyKey →
          first.id = second.id
  recorded : ∀ stored ∈ state.replays, Inserted stored.row.decision state.history
  stored : ∀ decision, Inserted decision state.history →
    ∃ stored ∈ state.replays, stored.row.decision = decision
  unleased : ∀ stored ∈ state.replays, stored.unsettled = false → stored.lease = none
  released : ∀ stored ∈ state.replays, stored.row.status = .released →
    ∃ author, .released author stored.id ∈ state.history
  inScope : ∀ stored ∈ state.replays, stored.id ∈ state.scopes →
    (stored.row.decision.preGrounded = [] ∧ stored.row.decision.shadowedKeys = []) ∨
      Hydrated setup stored.row.decision state.history

variable {setup} {peer : Nat} {before after : State}

theorem Grows.refl (state : State) : Grows state state where
  history := List.suffix_rfl
  replays := fun kept mem => ⟨kept, mem, rfl, fun _ => rfl⟩

theorem Grows.trans (grows : Grows first second) (growsOn : Grows second third) : Grows first third where
  history := grows.history.trans growsOn.history
  replays := by
    intro kept mem
    obtain ⟨middle, isMiddle, middleDecision, middleSame⟩ := grows.replays kept mem
    obtain ⟨last, isLast, lastDecision, lastSame⟩ := growsOn.replays middle isMiddle
    refine ⟨last, isLast, lastDecision.trans middleDecision, ?_⟩
    intro ends
    have same := middleSame ends
    subst same
    exact lastSame ends

theorem Step.grows (step : Step setup peer before after) : Grows before after := by
  cases step with
  | still => exact .refl before
  | insert =>
    refine ⟨List.suffix_cons _ _, ?_⟩
    intro held mem
    exact ⟨held, List.mem_append_left _ mem, rfl, fun _ => rfl⟩
  | retime change keeps ends =>
    refine ⟨List.suffix_rfl, ?_⟩
    intro held mem
    refine ⟨change held, List.mem_map_of_mem mem, ?_, ?_⟩
    · rw [keeps held mem]
    · exact ends held mem
  | release _ _ selects only =>
    refine ⟨List.suffix_cons _ _, ?_⟩
    intro held mem
    by_cases picked : selects held = true
    · refine ⟨_, mem_updateWhere_of mem picked, rfl, ?_⟩
      intro ends
      rw [(only held mem picked).2] at ends
      cases ends
    · have kept : selects held = false := by simpa using picked
      exact ⟨held, mem_updateWhere_of_not mem kept, rfl, fun _ => rfl⟩
  | effect | create => exact ⟨List.suffix_cons _ _, (Grows.refl before).replays⟩
  | launch => exact ⟨List.suffix_rfl, (Grows.refl before).replays⟩

variable (sound : Sound setup before)

include sound in
/-- An event other than an insert leaves the rows' records as they are. -/
theorem Sound.effect {event : ReplayEvent} (fair : Justified setup before.history event)
    (isEffect : ∀ author decision, event ≠ .inserted author decision) :
    Sound setup { before with history := event :: before.history } := by
  have grown := List.suffix_cons event before.history
  refine ⟨⟨fair, sound.ordered⟩, sound.keyed, sound.bound, ?_, ?_, sound.unleased, ?_, ?_⟩
  · intro stored mem
    exact (sound.recorded stored mem).grown grown
  · intro decision inserted
    rcases inserted_cons.mp inserted with ⟨author, insert⟩ | isOlder
    · exact absurd insert (isEffect author decision)
    · exact sound.stored decision isOlder
  · intro stored mem freed
    obtain ⟨author, isEvent⟩ := sound.released stored mem freed
    exact ⟨author, .tail event isEvent⟩
  · intro stored mem isScoped
    rcases sound.inScope stored mem isScoped with plain | hydrated
    · exact .inl plain
    · exact .inr (hydrated.grown grown)

theorem not_conflicting {state : State} (fresh : state.conflicts decision = false)
    (mem : kept ∈ state.replays) :
    kept.id ≠ decision.replayInstanceId ∧
      (decision.idempotencyKey.isSome = true →
        kept.row.decision.sourceInstanceId = decision.sourceInstanceId →
          kept.row.decision.idempotencyKey ≠ decision.idempotencyKey) := by
  have apart := List.any_eq_false.mp fresh kept mem
  simp only [Bool.or_eq_true, Bool.and_eq_true, beq_iff_eq, not_or, not_and] at apart
  exact ⟨apart.1, apart.2⟩

include sound

theorem Sound.insert {row : ReplayLifecycleRow} {now : Int}
    (fresh : before.conflicts row.decision = false)
    (unscoped : row.decision.replayInstanceId ∉ before.scopes)
    (unsettled : row.status ≠ .released) :
    Sound setup { before with
        replays := before.replays ++ [⟨row, now, none⟩]
        history := .inserted peer row.decision :: before.history } := by
  have grown : before.history <:+ .inserted peer row.decision :: before.history :=
    List.suffix_cons _ before.history
  have added : ∀ stored ∈ before.replays ++ [(⟨row, now, none⟩ : StoredReplay)],
      stored ∈ before.replays ∨ stored = ⟨row, now, none⟩ := by
    intro _ mem
    rcases List.mem_append.mp mem with isOlder | new
    · exact .inl isOlder
    · exact .inr (List.mem_singleton.mp new)
  refine ⟨⟨?_, sound.ordered⟩, ?_, ?_, ?_, ?_, ?_, ?_, ?_⟩
  · intro other inserted
    obtain ⟨_, mem, decides⟩ := sound.stored other inserted
    have apart := (not_conflicting fresh mem).1
    rw [StoredReplay.id, decides] at apart
    exact apart
  · apply sound.keyed.append
    intro _ mem
    exact (not_conflicting fresh mem).1
  · intro first isFirst second isSecond hasKey same sameKey
    rcases added first isFirst with firstOlder | rfl
    · rcases added second isSecond with secondOlder | rfl
      · exact sound.bound first firstOlder second secondOlder hasKey same sameKey
      · exact absurd sameKey ((not_conflicting fresh firstOlder).2 (sameKey ▸ hasKey) same)
    · rcases added second isSecond with secondOlder | rfl
      · exact absurd sameKey.symm ((not_conflicting fresh secondOlder).2 hasKey same.symm)
      · rfl
  · intro stored mem
    rcases added stored mem with isOlder | rfl
    · exact (sound.recorded stored isOlder).grown grown
    · exact ⟨_, .head _, peer, rfl⟩
  · intro decision inserted
    rcases inserted_cons.mp inserted with ⟨_, isInsert⟩ | isOlder
    · cases isInsert
      exact ⟨_, List.mem_append_right _ (.head _), rfl⟩
    · obtain ⟨stored, mem, decides⟩ := sound.stored decision isOlder
      exact ⟨stored, List.mem_append_left _ mem, decides⟩
  · intro stored mem ends
    rcases added stored mem with isOlder | rfl
    · exact sound.unleased stored isOlder ends
    · rfl
  · intro stored mem freed
    rcases added stored mem with isOlder | rfl
    · obtain ⟨author, event⟩ := sound.released stored isOlder freed
      exact ⟨author, .tail _ event⟩
    · exact absurd freed unsettled
  · intro stored mem isScoped
    rcases added stored mem with isOlder | rfl
    · rcases sound.inScope stored isOlder isScoped with plain | hydrated
      · exact .inl plain
      · exact .inr (hydrated.grown grown)
    · exact absurd isScoped unscoped

/-- Rows that keep their decisions keep what is known about them. -/
theorem Sound.update
    (decisions : ∀ stored ∈ before.replays, (change stored).row.decision = stored.row.decision)
    (unleased : ∀ stored ∈ before.replays, (change stored).unsettled = false →
      (change stored).lease = none) (released : ∀ stored ∈ before.replays,
      (change stored).row.status = .released →
        ∃ author, .released author stored.id ∈ before.history) :
    Sound setup { before with replays := before.replays.map change } := by
  have ids : ∀ stored ∈ before.replays, (change stored).id = stored.id := by
    intro stored mem
    rw [StoredReplay.id, decisions stored mem]
    rfl
  refine ⟨sound.ordered, ?_, ?_, ?_, ?_, ?_, ?_, ?_⟩
  · have sameIds : (before.replays.map change).map StoredReplay.id =
        before.replays.map StoredReplay.id := by
      rw [List.map_map]
      exact List.map_congr_left ids
    rw [Keyed, sameIds]
    exact sound.keyed
  · intro _ isFirst _ isSecond hasKey same sameKey
    obtain ⟨old, isOld, rfl⟩ := List.mem_map.mp isFirst
    obtain ⟨other, ne, rfl⟩ := List.mem_map.mp isSecond
    rw [decisions old isOld] at hasKey same sameKey
    rw [decisions other ne] at same sameKey
    rw [ids old isOld, ids other ne]
    exact sound.bound old isOld other ne hasKey same sameKey
  · intro _ mem
    obtain ⟨old, isOld, rfl⟩ := List.mem_map.mp mem
    rw [decisions old isOld]
    exact sound.recorded old isOld
  · intro decision inserted
    obtain ⟨stored, mem, decides⟩ := sound.stored decision inserted
    exact ⟨change stored, List.mem_map_of_mem mem, (decisions stored mem).trans decides⟩
  · intro _ mem ends
    obtain ⟨old, isOld, rfl⟩ := List.mem_map.mp mem
    exact unleased old isOld ends
  · intro _ mem freed
    obtain ⟨old, isOld, rfl⟩ := List.mem_map.mp mem
    rw [ids old isOld]
    exact released old isOld freed
  · intro _ mem inScope
    obtain ⟨old, isOld, rfl⟩ := List.mem_map.mp mem
    rw [ids old isOld] at inScope
    rw [decisions old isOld]
    exact sound.inScope old isOld inScope

theorem Sound.step (step : Step setup peer before after) : Sound setup after := by
  cases step with
  | still => exact sound
  | insert _ _ fresh unscoped unsettled => exact sound.insert fresh unscoped unsettled
  | retime _ keeps ends =>
    apply sound.update
    · intro kept mem
      rw [keeps kept mem]
    · intro kept mem settles
      have wasSettled : kept.unsettled = false := by
        rw [StoredReplay.unsettled, ← keeps kept mem]
        exact settles
      rw [ends kept mem wasSettled]
      exact sound.unleased kept mem wasSettled
    · intro kept mem freed
      rw [keeps kept mem] at freed
      exact sound.released kept mem freed
  | release _ _ selects only fair =>
    have noted := sound.effect fair (by
      intro _ _
      exact ReplayEvent.noConfusion)
    refine noted.update ?_ ?_ ?_
    · intro kept _
      by_cases picked : selects kept = true
      · rw [if_pos picked]
      · rw [if_neg picked]
    · intro kept mem settles
      by_cases picked : selects kept = true
      · rw [if_pos picked]
      · rw [if_neg picked] at settles ⊢
        exact sound.unleased kept mem settles
    · intro kept mem freed
      by_cases picked : selects kept = true
      · rw [(only kept mem picked).1]
        exact ⟨peer, .head _⟩
      · rw [if_neg picked] at freed
        obtain ⟨author, isEvent⟩ := sound.released kept mem freed
        exact ⟨author, .tail _ isEvent⟩
  | effect _ fair isEffect => exact sound.effect fair isEffect
  | create run entries fair hydrates =>
    have noted := @Sound.effect setup before sound (.wrote peer run entries) fair (by
        intro _ _
        exact ReplayEvent.noConfusion)
    refine { noted with inScope := ?_ }
    intro kept mem isScoped
    rcases List.mem_cons.mp isScoped with isRun | wasScoped
    · exact .inr (hydrates kept mem isRun)
    · exact noted.inScope kept mem wasScoped
  | launch _ harmless =>
    refine { sound with inScope := ?_ }
    intro kept mem isScoped
    rcases List.mem_cons.mp isScoped with isRun | wasScoped
    · exact .inl (harmless kept mem isRun)
    · exact sound.inScope kept mem wasScoped

omit sound

theorem sound_empty : Sound setup State.empty where
  ordered := trivial
  keyed := keyed_nil
  bound := by simp [State.empty]
  recorded := by simp [State.empty]
  stored := by
    rintro _ ⟨_, mem, _⟩
    cases mem
  unleased := by simp [State.empty]
  released := by simp [State.empty]
  inScope := by simp [State.empty]

variable (setup : Deployment)

instance (decision : ReplayDecision) (history : List ReplayEvent)
    (author : Nat) : Decidable (HydratedBy setup decision history author) :=
  inferInstanceAs (Decidable (_ ∧ _ ∧ _))

instance (decision : ReplayDecision) (history : List ReplayEvent) :
    Decidable (Hydrated setup decision history) :=
  inferInstanceAs (Decidable (∃ event ∈ history,
    HydratedBy setup decision history event.author))

/-- A row that names input shadows is driven again only once a rehydration has
written them; a scope is not made before the rehydration that fills it. -/
def ShadowsLanded (jobs : Nat → Command) (peer : Nat) (op : ReplayOp)
    (state : State) : Prop :=
  match op with
  | .touch replayInstanceId =>
    (jobs peer).isRequest = true ∨
      ∀ stored ∈ state.replays, stored.id = replayInstanceId →
        stored.row.decision.shadowedKeys = [] ∨
          Hydrated setup stored.row.decision state.history
  | .insertReplayLifecycle row => row.decision.replayInstanceId ∉ state.scopes
  | .launch run =>
    ∀ stored ∈ state.replays, stored.id = run →
      run ∈ state.scopes ∨
        (stored.row.decision.preGrounded = [] ∧ stored.row.decision.shadowedKeys = [])
  | _ => True

instance (jobs : Nat → Command) (peer : Nat) (op : ReplayOp) (state : State) :
    Decidable (ShadowsLanded setup jobs peer op state) := by
  unfold ShadowsLanded
  split <;> infer_instance

def discipline (jobs : Nat → Command) : Discipline State ReplayOp where
  guarantee := Step setup
  invariant := Sound setup
  condition := ShadowsLanded setup jobs
  keeps := fun _ _ _ step sound => sound.step step

variable {setup} {jobs : Nat → Command}

theorem grows_of_evolves (evolves : (discipline setup jobs).Evolves before after) :
    Grows before after :=
  evolves.keeps (Grows.refl before) fun _ _ _ promised grows => grows.trans (Step.grows promised)

theorem grows_of_rely (rely : (discipline setup jobs).Rely peer before after) :
    Grows before after := grows_of_evolves rely.evolves

end Tickr.Replay
