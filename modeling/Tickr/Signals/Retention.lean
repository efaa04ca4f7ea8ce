import Tickr.Signals.Running

/-!
# How long captures are kept

When the first run of a signal ends, the captures of the signal leave the working
set.  A signal that started one run keeps its captures for as long as the run
lasts; one that started several does not.
-/

namespace Tickr.Signals

open LogStream (Uuid)
open KeyValue Concurrent

theorem suffix_append_cases {α : Type} {element : α}
    {older added list : List α} (suffix : element :: older <:+ added ++ list) :
    element :: older <:+ list ∨ element ∈ added ∧ list <:+ older := by
  induction added with
  | nil => exact .inl suffix
  | cons newest rest ih =>
    rw [List.cons_append, List.suffix_cons_iff] at suffix
    rcases suffix with whole | suffix
    · cases whole
      exact .inr ⟨.head _, List.suffix_append rest list⟩
    · rcases ih suffix with old | ⟨new, rest⟩
      · exact .inl old
      · exact .inr ⟨.tail newest new, rest⟩

/-- The run and the signal of a task that came in. -/
def SignalEvent.receivedRun : SignalEvent → Option (Uuid × Uuid)
  | .received workflowInstanceId signalId => some (signalId, workflowInstanceId)
  | _ => none

def SignalEvent.settledRun : SignalEvent → Option (Uuid × Uuid)
  | .settled signalId workflowInstanceId => some (signalId, workflowInstanceId)
  | _ => none

/-- No other run of the signal has come in. -/
def OnlyReceived (signalId workflowInstanceId : Uuid) (state : SignalState) : Prop :=
  ∀ event ∈ state.history, ∀ received ∈ event.2.receivedRun,
    received.1 = signalId → received.2 = workflowInstanceId

instance (signalId workflowInstanceId : Uuid) (state : SignalState) :
    Decidable (OnlyReceived signalId workflowInstanceId state) :=
  inferInstanceAs (Decidable (∀ event ∈ _, ∀ received ∈ _, _))

def NoneReceived (signalId : Uuid) (state : SignalState) : Prop :=
  ∀ event ∈ state.history, ∀ received ∈ event.2.receivedRun, received.1 ≠ signalId

instance (signalId : Uuid) (state : SignalState) : Decidable (NoneReceived signalId state) :=
  inferInstanceAs (Decidable (∀ event ∈ _, ∀ received ∈ _, _))

/-- A signal has one run: the tasks that come in for it are of the run that its
captures are linked to and settled with; the captures are archived before the
first of them comes in; and no rehydration fails. -/
def OneRun (_client : Nat) (op : SignalOp) (state : SignalState) : Prop :=
  match op with
  | .receive workflowInstanceId signalId =>
    OnlyReceived signalId workflowInstanceId state ∧
      (∀ event ∈ state.history, ∀ settled ∈ event.2.settledRun,
        settled.1 = signalId → settled.2 = workflowInstanceId) ∧
      ∀ row ∈ state.tables.captures, row.signalId = signalId →
        ∀ linked ∈ row.materializedRunId, linked = workflowInstanceId
  | .sql (.linkCaptures signalId workflowInstanceId) =>
    OnlyReceived signalId workflowInstanceId state
  | .sql (.insertCaptures signalId _ _ _) =>
    (∀ row ∈ state.tables.captures, row.signalId ≠ signalId) → NoneReceived signalId state
  | .warn (.rehydration _) => False
  | _ => True

instance (peer : Nat) (op : SignalOp) (state : SignalState) :
    Decidable (OneRun peer op state) := by
  unfold OneRun
  split <;> infer_instance

variable {setup : Deployment} {jobs : Nat → Command} {peer : Nat}
  {op : SignalOp} {state after : SignalState}

/-- What is known of the rows, the runs and the reads. -/
structure Retained (state : SignalState) : Prop where
  oneRow : ∀ first ∈ state.tables.captures, ∀ second ∈ state.tables.captures,
    first.signalId = second.signalId → first.captures = second.captures
  linked : ∀ row ∈ state.tables.captures, ∀ run,
    row.materializedRunId = some run → ∀ author received,
      (author, .received received row.signalId) ∈ state.history → received = run
  settled : ∀ author signalId run,
    (author, .settled signalId run) ∈ state.history →
      (∃ ender, (ender, .terminal run) ∈ state.history) ∧
        ∀ receiver received,
          (receiver, .received received signalId) ∈ state.history → received = run
  deleted : ∀ write ∈ state.workingSet, write.value = none →
    ∃ author run, (author, .settled write.key.1 run) ∈ state.history
  readReceived : ∀ author signalId found,
    (author, .read signalId found) ∈ state.history →
      ∃ receiver run, (receiver, .received run signalId) ∈ state.history
  readMatches : ∀ author signalId found,
    (author, .read signalId found) ∈ state.history →
      ∀ row ∈ state.tables.captures, row.signalId = signalId →
        ∃ old, found = some old ∧ old.captures = row.captures
  rehydrates : ∀ author run, (author, .warned (.rehydration run)) ∉ state.history

variable (change : Change setup.paths peer state op after)
include change

theorem Change.row {row : CapturesRow} (mem : row ∈ after.tables.captures) :
    row ∈ state.tables.captures ∨ ∃ query now, op = .sql query ∧
      RowChange now state.tables query row := by
  rcases change.tables with same | ⟨query, now, isQuery, isAfter⟩
  · rw [same] at mem
    exact .inl mem
  · rw [isAfter] at mem
    exact .inr ⟨query, now, isQuery, rowChange_of_mem mem⟩

theorem Change.origin {row : CapturesRow} (mem : row ∈ after.tables.captures) :
    (∃ old ∈ state.tables.captures, old.signalId = row.signalId ∧ old.captures = row.captures) ∨
      (∃ workflowId version, op = .sql (.insertCaptures row.signalId
        workflowId version row.captures)) ∧
        ∀ old ∈ state.tables.captures, old.signalId ≠ row.signalId := by
  rcases change.row mem with isOld | ⟨_, _, isQuery, rowChange⟩
  · exact .inl ⟨row, isOld, rfl, rfl⟩
  cases rowChange with
  | kept _ _ isOld => exact .inl ⟨row, isOld, rfl, rfl⟩
  | inserted _ workflowId version _ first =>
    exact .inr ⟨⟨workflowId, version, isQuery⟩, first⟩
  | linked old run isOld free | settled old run isOld isLinked =>
    exact .inl ⟨old, isOld, rfl, rfl⟩

variable (retained : Retained state)
include retained

theorem oneRow_step :
    ∀ first ∈ after.tables.captures, ∀ second ∈ after.tables.captures,
      first.signalId = second.signalId → first.captures = second.captures := by
  intro _ isFirst _ isSecond same
  rcases change.origin isFirst with
    ⟨firstOld, isFirstOld, firstSignal, firstCaptures⟩ | ⟨⟨_, _, insert⟩, firstNew⟩
  · rcases change.origin isSecond with
      ⟨secondOld, isSecondOld, signal, secondCaptures⟩ | ⟨_, secondNew⟩
    · rw [← firstCaptures, ← secondCaptures]
      exact retained.oneRow firstOld isFirstOld secondOld isSecondOld
        (firstSignal.trans (same.trans signal.symm))
    · exact absurd (firstSignal.trans same) (secondNew firstOld isFirstOld)
  · rcases change.origin isSecond with
      ⟨secondOld, isSecondOld, signal, _⟩ | ⟨⟨_, _, isInsert'⟩, _⟩
    · exact absurd (signal.trans same.symm) (firstNew secondOld isSecondOld)
    · rw [insert] at isInsert'
      exact (Query.insertCaptures.inj (SignalOp.sql.inj isInsert')).2.2.2

theorem linked_step (oneRun : OneRun peer op state) :
    ∀ row ∈ after.tables.captures, ∀ run,
      row.materializedRunId = some run → ∀ author received,
        (author, .received received row.signalId) ∈ after.history → received = run := by
  intro row mem run isLinked author received got
  rcases change.source got with older | ⟨_, receive⟩
  · rcases change.row mem with old | ⟨_, _, isQuery, rowChange⟩
    · exact retained.linked row old run isLinked author received older
    cases rowChange with
    | kept _ _ old => exact retained.linked row old run isLinked author received older
    | inserted => cases isLinked
    | linked =>
      subst isQuery
      cases isLinked
      exact oneRun _ older (_, _) rfl rfl
    | settled old _ isOld =>
      exact retained.linked old isOld run isLinked author received older
  · subst receive
    rcases change.row mem with old | ⟨_, _, isQuery, _⟩
    · exact (oneRun.2.2 row old rfl run isLinked).symm
    · cases isQuery

variable (legit : Legit setup jobs peer op state)
include legit

theorem settled_step (oneRun : OneRun peer op state) :
    ∀ author signalId run, (author, .settled signalId run) ∈ after.history →
      (∃ ender, (ender, .terminal run) ∈ after.history) ∧
        ∀ receiver received,
          (receiver, .received received signalId) ∈ after.history → received = run := by
  intro author signalId run mem
  rcases change.source mem with
    older | ⟨_, settling, row, isRow, signal, links⟩
  · obtain ⟨⟨ender, ends⟩, only⟩ := retained.settled author signalId run older
    refine ⟨⟨ender, change.grows.mem ends⟩, ?_⟩
    intro receiver received got
    rcases change.source got with before | ⟨_, receive⟩
    · exact only receiver received before
    · subst receive
      exact (oneRun.2.1 _ older (signalId, run) rfl rfl).symm
  · subst settling
    refine ⟨⟨peer, change.grows.mem legit⟩, ?_⟩
    intro receiver received got
    rcases change.source got with before | ⟨_, receive⟩
    · rw [← signal] at before
      exact retained.linked row isRow run links receiver received before
    · cases receive

theorem deleted_step :
    ∀ write ∈ after.workingSet, write.value = none →
      ∃ author run, (author, .settled write.key.1 run) ∈ after.history := by
  intro write mem isDelete
  obtain ⟨_, isAdded, writes⟩ := change.workingSet
  rw [isAdded, List.mem_append] at mem
  rcases mem with new | older
  · have wrote := writes write new
    rw [isDelete] at wrote
    cases op with
    | workingSet call =>
      cases call with
      | delete =>
        obtain ⟨author, run, settles⟩ := legit
        rw [wrote.1]
        exact ⟨author, run, change.grows.mem settles⟩
      | create | update | put => cases wrote.2
      | entry | keys => cases wrote
    | createScope | writeScope =>
      obtain ⟨_, _, _, isSome⟩ := wrote
      cases isSome
    | _ => cases wrote
  · obtain ⟨author, run, settles⟩ := retained.deleted write older isDelete
    exact ⟨author, run, change.grows.mem settles⟩

omit legit

theorem readMatches_step (oneRun : OneRun peer op state) :
    ∀ author signalId found, (author, .read signalId found) ∈ after.history →
      ∀ row ∈ after.tables.captures, row.signalId = signalId →
        ∃ old, found = some old ∧ old.captures = row.captures := by
  intro author signalId found mem row isRow signals
  rcases change.source mem with older | ⟨_, isRead, hit⟩
  · rcases change.origin isRow with
      ⟨old, isOld, sameSignal, same⟩ | ⟨⟨_, _, insert⟩, isFirst⟩
    · rw [← same]
      exact retained.readMatches author signalId found older old isOld (sameSignal.trans signals)
    -- What was read had come in, and then nothing is inserted.
    obtain ⟨_, run, received⟩ := retained.readReceived author signalId found older
    subst insert
    exact absurd signals.symm (oneRun isFirst _ received (signalId, run) rfl)
  · subst isRead
    have isOld : row ∈ state.tables.captures := by
      rcases change.row isRow with old | ⟨_, _, isQuery, rowChange⟩
      · exact old
      · cases isQuery
        cases rowChange with
        | kept _ _ old => exact old
    cases isFirst : state.tables.captures.find? fun row => row.signalId = signalId with
    | none =>
      have notThere := List.find?_eq_none.mp isFirst row isOld
      exact absurd (decide_eq_true signals) notThere
    | some first =>
      rw [isFirst] at hit
      refine ⟨first, hit, ?_⟩
      apply retained.oneRow first (List.mem_of_find?_eq_some isFirst) row isOld
      have signal : first.signalId = signalId := by simpa using List.find?_some isFirst
      exact signal.trans signals.symm

include legit in
theorem Retained.step (oneRun : OneRun peer op state) : Retained after where
  oneRow := oneRow_step change retained
  linked := linked_step change retained oneRun
  settled := settled_step change retained legit oneRun
  deleted := deleted_step change retained legit
  readReceived := by
    intro author signalId found mem
    rcases change.source mem with older | ⟨_, isRead, _⟩
    · obtain ⟨receiver, run, received⟩ := retained.readReceived author signalId found older
      exact ⟨receiver, run, change.grows.mem received⟩
    · subst isRead
      obtain ⟨run, received⟩ := legit
      exact ⟨peer, run, change.grows.mem received⟩
  readMatches := readMatches_step change retained oneRun
  rehydrates := by
    intro author run mem
    rcases change.source mem with older | ⟨_, warning⟩
    · exact retained.rehydrates author run older
    · subst warning
      exact oneRun

omit retained

/-- A row is dropped only after it was settled with a run that has ended. -/
def DropsTimely (state : SignalState) : Prop :=
  ∀ author signalId older,
    (author, .dropped signalId) :: older <:+ state.history →
      ∃ settler run, (settler, .settled signalId run) ∈ older ∧
        ∃ ender, (ender, .terminal run) ∈ older

/-- A task that ran had the captures of its signal, or its run had ended. -/
def ExecutesTimely (state : SignalState) : Prop :=
  ∀ author run signalId missing older,
    (author, .executed run signalId missing) :: older <:+ state.history →
      missing = [] ∨ ∃ ender, (ender, .terminal run) ∈ older

theorem Change.suffix_source {author : Nat} {event : SignalEvent} (suffix : (author, event) :: older <:+ after.history) :
    (author, event) :: older <:+ state.history ∨
      author = peer ∧ event.Source op state ∧ state.history <:+ older := by
  rcases change.history with same | added
  · rw [same] at suffix
    exact .inl suffix
  rw [added] at suffix
  rcases suffix_append_cases suffix with old | ⟨new, rest⟩
  · exact .inl old
  · obtain ⟨_, isMade, equal⟩ := List.mem_map.mp new
    cases equal
    exact .inr ⟨rfl, source_of_mem isMade, rest⟩

theorem DropsTimely.step (timely : DropsTimely state)
    (sound : Sound setup jobs state) (retained : Retained state) : DropsTimely after := by
  intro author signalId older suffix
  rcases change.suffix_source suffix with
    old | ⟨_, ⟨_, row, isRow, signal, ends⟩, grows⟩
  · exact timely author signalId older old
  obtain ⟨settler, run, _, settles⟩ := sound.settledRows row isRow ends
  rw [signal] at settles
  obtain ⟨⟨ender, ended⟩, _⟩ := retained.settled settler signalId run settles
  exact ⟨settler, run, grows.subset settles, ender, grows.subset ended⟩

omit change in
/-- What was rehydrated and not cleaned up since is there. -/
theorem missingCaptures_eq_nil {signalId : Uuid} (retained : Retained state)
    (rehydrated : Rehydrated peer signalId state)
    (unsettled : ∀ author run, (author, .settled signalId run) ∉ state.history) :
    missingCaptures signalId state = [] := by
  have valued : ∀ write ∈ state.workingSet, write.key.1 = signalId → write.value.isSome = true := by
    intro write mem isKey
    by_contra delete
    obtain ⟨author, run, settles⟩ := retained.deleted write mem
      (Option.not_isSome_iff_eq_none.mp delete)
    rw [isKey] at settles
    exact unsettled author run settles
  rcases rehydrated with ⟨run, warned⟩ | ⟨found, isRead, there⟩
  · exact absurd warned (retained.rehydrates peer run)
  unfold missingCaptures
  split
  · rfl
  rename_i row hit
  have isRow := List.mem_of_find?_eq_some hit
  have signal : row.signalId = signalId := by simpa using List.find?_some hit
  obtain ⟨old, isOld, same⟩ :=
    retained.readMatches peer signalId found isRead row isRow signal
  apply List.filter_eq_nil_iff.mpr
  intro _ isName lacks
  obtain ⟨capture, mem, equal⟩ := List.mem_map.mp isName
  subst equal
  rw [← same] at mem
  obtain ⟨write, isWrite, isKey, _⟩ := there old isOld capture mem
  have absent := Option.isNone_iff_eq_none.mp lacks
  have wrote := @not_written_of_lookup_eq_none _ _ _
    (fun key => key.1 = signalId) _ _ valued rfl absent
  exact wrote write isWrite isKey

theorem ExecutesTimely.step (timely : ExecutesTimely state) (retained : Retained state)
    (legit : Legit setup jobs peer op state) : ExecutesTimely after := by
  intro author run signalId lacks older suffix
  rcases change.suffix_source suffix with
    old | ⟨_, ⟨execution, isMissing⟩, grows⟩
  · exact timely author run signalId lacks older old
  subst execution
  obtain ⟨received, rehydrated⟩ := legit
  by_cases settles : ∃ settler ended, (settler, .settled signalId ended) ∈ state.history
  · obtain ⟨settler, ended, mem⟩ := settles
    obtain ⟨⟨ender, hasEnded⟩, only⟩ := retained.settled settler signalId ended mem
    have isEnded : run = ended := only peer run received
    subst isEnded
    exact .inr ⟨ender, grows.subset hasEnded⟩
  · refine .inl ?_
    rw [isMissing]
    apply missingCaptures_eq_nil retained rehydrated
    intro settler ended mem
    exact settles ⟨settler, ended, mem⟩

omit change

/-- Retention of captures, as a property of runs. -/
def retaining (setup : Deployment) (jobs : Nat → Command) :
    Concern setup jobs where
  condition := OneRun
  invariant := fun state =>
    Retained state ∧ DropsTimely state ∧ ExecutesTimely state
  keeps := fun _ _ _ _ sound holds legit meets change =>
    ⟨holds.1.step change legit meets, holds.2.1.step change sound holds.1,
      holds.2.2.step change holds.1 legit⟩

variable (setup) (jobs) (definitions : List LiveDefinition)
  (subscriptions : List Subscription)

/-- A wakeup that starts two workflows, a task of each of their runs, the end
of the first run and a sweep. -/
def twoRuns : Nat → Command
  | 0 => .wakeup ⟨"order", some (.object [("customer", .string "ada")]), none⟩ 30
  | 1 => .dispatchTask 100 30
  | 2 => .dispatchTask 200 30
  | 3 => .runEnds 100
  | 4 => .sweep 5
  | _ => .idle

def twoSubscriptions : List Subscription :=
  [⟨"order", 1, none, [⟨"who", some "customer"⟩]⟩, ⟨"order", 2, none, [⟨"who", some "customer"⟩]⟩]

def twoRunsAfter (turns : List (Nat × Turn)) : SignalWorld :=
  (start sampleDeployment twoRuns (initialState [] twoSubscriptions)).run
    (signalSystem sampleDeployment.paths) turns

/-- Ten units of time later. -/
def laterSteps (peer count : Nat) : List (Nat × Turn) :=
  List.replicate count (peer, { appliedTurn with now := 10 })

end Tickr.Signals
