import Tickr.Signals.Commands

/-!
# What one call can do

The history, the cache and the working set only grow, and what is added to the
history is the caller's.  Each part of the state changes by a few calls only.
-/

namespace Tickr.Signals

open LogStream (Uuid)
open KeyValue Concurrent

variable {event : SignalEvent} {delivery : Delivery}

/-- What a call leaves in the history when it takes effect. -/
def SignalOp.events (paths : JsonPaths) (op : SignalOp) (state : SignalState) : List SignalEvent :=
  match op with
  | .sql query => query.events state.tables
  | .lookupGates name => (state.gates.lookupBySignalName name).map .lookedUp
  | .register precondition =>
    match GateIndex.entryOf paths state.history.length precondition with
    | .error _ => []
    | .ok gate => [.registered gate]
  | .removeGate gate => (state.gates.byGate gate.key).toList.map .removed
  | .send sending => [.relayed sending, .sent sending]
  | .collect sending => [.sent sending]
  | .persistEffects signalId intents => [.recorded signalId intents]
  | .forward sending => [.relayed sending]
  | .respond answer => [.answered answer]
  | .warn warning => [.warned warning]
  | .receive workflowInstanceId signalId => [.received workflowInstanceId signalId]
  | .endRun workflowInstanceId => [.terminal workflowInstanceId]
  | .execute workflowInstanceId signalId =>
    [.executed workflowInstanceId signalId (missingCaptures signalId state)]
  | _ => []

/-- What a call can write to the working set. -/
def SignalOp.WritesCapture (op : SignalOp) (key : CaptureKey) (value : Option Envelope) : Prop :=
  match op with
  | .workingSet op => op.Writes key value
  | .createScope request | .writeScope request =>
    key.1 = request.scopeId ∧ ∃ envelope, (key.2, envelope) ∈ request.values ∧ value = some envelope
  | _ => False

section Deliveries

variable {ε α : Type} {failure : ε} {answered : Except ε α × SignalState}
  {accepted state : SignalState}

theorem deliver_of_ok (isOk : (SignalState.deliver failure delivery answered state).1 = .ok value) :
    answered.1 = .ok value ∧
      (SignalState.deliver failure delivery answered state).2 = answered.2 := by
  cases delivery with
  | applied => exact ⟨isOk, rfl⟩
  | refused => cases isOk
  | replyLost => cases isOk

theorem accept_of_ok (isOk : (SignalState.accept delivery accepted state).1 = .ok value) :
    (SignalState.accept delivery accepted state).2 = accepted := by
  cases delivery with
  | applied => rfl
  | refused => cases isOk
  | replyLost => cases isOk

end Deliveries

/-- All that a call of a client can do to a state. -/
inductive Change (paths : JsonPaths) (peer : Nat) (state : SignalState) :
    SignalOp → SignalState → Prop
  | unchanged (op : SignalOp) : Change paths peer state op state
  | cached (call : KvOp String CacheRow) (key : String)
      (value : Option CacheRow) (writes : call.Writes key value) :
      Change paths peer state (.cache call)
        { state with cache := ⟨peer, key, value⟩ :: state.cache }
  | captured (call : KvOp CaptureKey Envelope) (key : CaptureKey)
      (value : Option Envelope) (writes : call.Writes key value) :
      Change paths peer state (.workingSet call)
        { state with workingSet := ⟨peer, key, value⟩ :: state.workingSet }
  | scopeCreated (request : ScopeRequest) :
      Change paths peer state (.createScope request) { state.writeValues peer request with
          scopes := state.scopes ++ [request] }
  | scopeWritten (request : ScopeRequest) :
      Change paths peer state (.writeScope request) (state.writeValues peer request)
  | queried (query : Query) (now : Int) :
      Change paths peer state (.sql query) (state.runQuery peer now query)
  | registered (precondition : GateIndex.Precondition) (gate : Gate)
      (made : GateIndex.entryOf paths state.history.length precondition = .ok gate) :
      Change paths peer state (.register precondition)
        (({ state with gates := state.gates.replace gate }).note peer
          [.registered gate])
  | unregistered (workflowInstanceId edgeId : Uuid) :
      Change paths peer state (.unregister workflowInstanceId edgeId) { state with
          gates := state.gates.unregister workflowInstanceId edgeId }
  | removed (gate : Gate) :
      Change paths peer state (.removeGate gate) (state.removeGate peer gate)
  /-- Nothing changes but the history. -/
  | noted (op : SignalOp) : Change paths peer state op (state.note peer (op.events paths state))

variable {paths : JsonPaths} {peer : Nat} {state after : SignalState} {op : SignalOp}

theorem change_createScope (request : ScopeRequest) :
    Change paths peer state (.createScope request) (state.createScope peer request).2 := by
  unfold SignalState.createScope
  split
  · exact .unchanged _
  split
  · exact .unchanged _
  split
  · exact .unchanged _
  · split
    · exact .unchanged _
    · exact .scopeCreated request

theorem change_writeScope (request : ScopeRequest) :
    Change paths peer state (.writeScope request) (state.writeScope peer request).2 := by
  unfold SignalState.writeScope
  split
  · exact .unchanged _
  split
  · exact .unchanged _
  · split
    · exact .unchanged _
    · exact .scopeWritten request

theorem change_register (needs : GateIndex.Precondition) :
    Change paths peer state (.register needs)
      (state.register paths peer needs).2 := by
  unfold SignalState.register
  cases made : GateIndex.entryOf paths state.history.length needs with
  | error => exact .unchanged _
  | ok gate => exact .registered needs gate made

/-- A call that may not get through changes nothing or what it does when it
does. -/
theorem Change.delivered {ε α : Type} {failure : ε} {answered : Except ε α × SignalState}
    (change : Change paths peer state op answered.2) :
    Change paths peer state op (SignalState.deliver failure delivery answered state).2 := by
  cases delivery with
  | applied | replyLost => exact change
  | refused => exact .unchanged op

variable (change : Change paths peer state op after)

include change in
theorem Change.accepted :
    Change paths peer state op (SignalState.accept delivery after state).2 := by
  cases delivery with
  | applied => exact change
  | refused | replyLost => exact .unchanged op

/-- A call whose only effect is its answer. -/
theorem change_answered :
    Change paths peer state op
      (SignalState.deliver Unreachable.unavailable delivery (.ok (), state) state).2 := by
  have answered : Change paths peer state op
      ((.ok (), state) : Except Unreachable Unit × SignalState).2 := .unchanged op
  exact answered.delivered

theorem perform_change (op : SignalOp) (turn : Turn) :
    Change paths peer state op (perform paths peer op turn state).2 := by
  cases op with
  | cache call =>
    rcases @perform_cases _ _ _ peer turn.delivery state.cache call with
      same | ⟨key, value, writes, made⟩
    · have unchanged : (perform paths peer (.cache call) turn state).2 = state := by
        rw [perform, same]
      rw [unchanged]
      exact .unchanged _
    · have wrote : (perform paths peer (.cache call) turn state).2 =
          { state with cache := ⟨peer, key, value⟩ :: state.cache } := by
        rw [perform, made]
      rw [wrote]
      exact .cached call key value writes
  | workingSet call =>
    rcases @perform_cases _ _ _ peer turn.delivery state.workingSet call
      with same | ⟨key, value, writes, made⟩
    · have unchanged :
          (perform paths peer (.workingSet call) turn state).2 = state := by
        rw [perform, same]
      rw [unchanged]
      exact .unchanged _
    · have wrote : (perform paths peer (.workingSet call) turn state).2 = { state with
              workingSet := ⟨peer, key, value⟩ :: state.workingSet } := by
        rw [perform, made]
      rw [wrote]
      exact .captured call key value writes
  | createScope request => exact (change_createScope request).delivered
  | writeScope request => exact (change_writeScope request).delivered
  | sql query => exact (Change.queried query turn.now).delivered
  | register needs => exact change_register needs
  | unregister workflowInstanceId edgeId => exact .unregistered workflowInstanceId edgeId
  | removeGate gate => exact .removed gate
  | openCache | openBucket | markRelayed | reject | abandon => exact change_answered
  | send sending => exact (Change.noted (.send sending)).accepted
  | forward sending => exact (Change.noted (.forward sending)).accepted
  | persistEffects signalId intents =>
    exact (Change.noted (.persistEffects signalId intents)).delivered
  | lookupGates name => exact .noted (.lookupGates name)
  | collect sending => exact .noted (.collect sending)
  | respond answer => exact .noted (.respond answer)
  | warn warning => exact .noted (.warn warning)
  | receive workflowInstanceId signalId => exact .noted (.receive workflowInstanceId signalId)
  | endRun workflowInstanceId => exact .noted (.endRun workflowInstanceId)
  | execute workflowInstanceId signalId => exact .noted (.execute workflowInstanceId signalId)
  | _ => exact .unchanged _

include change

/-- A call leaves the history as it was or adds its own events to it. -/
theorem Change.history :
    after.history = state.history ∨
      after.history = (op.events paths state).map
        (fun event => (peer, event)) ++ state.history := by
  cases change with
  | queried | removed | noted => exact .inr rfl
  | registered _ _ made =>
    refine .inr ?_
    rw [SignalOp.events, made]
    rfl
  | _ => exact .inl rfl

theorem Change.mem_history (mem : (author, event) ∈ after.history) :
    (author, event) ∈ state.history ∨ author = peer ∧ event ∈ op.events paths state := by
  rcases change.history with same | added
  · rw [same] at mem
    exact .inl mem
  rw [added, List.mem_append, List.mem_map] at mem
  rcases mem with ⟨_, isMade, equal⟩ | older
  · cases equal
    exact .inr ⟨rfl, isMade⟩
  · exact .inl older

omit change

/-- The call that an event comes from, and what it says about the state before
it. -/
def SignalEvent.Source (event : SignalEvent) (op : SignalOp) (state : SignalState) : Prop :=
  match event with
  | .answered answer => op = .respond answer
  | .sent sending => op = .send sending ∨ op = .collect sending
  | .relayed sending => op = .send sending ∨ op = .forward sending
  | .warned warning => op = .warn warning
  | .registered gate => ∃ precondition, op = .register precondition ∧
      gate.registration = state.history.length
  | .lookedUp gate => ∃ name, op = .lookupGates name ∧ gate ∈ state.gates.lookupBySignalName name
  | .removed gate => ∃ told, op = .removeGate told ∧ state.gates.byGate told.key = some gate
  | .recorded signalId intents => op = .persistEffects signalId intents
  | .read signalId row => op = .sql (.signalCaptures signalId) ∧
      row = state.tables.captures.find? fun row => row.signalId = signalId
  | .received workflowInstanceId signalId => op = .receive workflowInstanceId signalId
  | .terminal workflowInstanceId => op = .endRun workflowInstanceId
  | .settled signalId workflowInstanceId =>
    op = .sql (.markTerminal workflowInstanceId) ∧
      ∃ row ∈ state.tables.captures, row.signalId = signalId ∧
        row.materializedRunId = some workflowInstanceId
  | .dropped signalId => (∃ cutoff, op = .sql (.deleteExpired signalId cutoff)) ∧
      ∃ row ∈ state.tables.captures, row.signalId = signalId ∧ row.terminalAt.isSome = true
  | .executed workflowInstanceId signalId missing =>
    op = .execute workflowInstanceId signalId ∧ missing = missingCaptures signalId state

theorem isSome_of_isExpired {row : CapturesRow} (isExpired : row.isExpired cutoff = true) :
    row.terminalAt.isSome = true := by
  cases isAt : row.terminalAt with
  | none =>
    rw [CapturesRow.isExpired, isAt] at isExpired
    cases isExpired
  | some => rfl

theorem Query.source_of_mem {query : Query} (made : event ∈ query.events state.tables) :
    event.Source (.sql query) state := by
  cases query with
  | signalCaptures =>
    rw [Query.events, List.mem_singleton] at made
    subst made
    exact ⟨rfl, rfl⟩
  | markTerminal =>
    obtain ⟨row, picked, equal⟩ := List.mem_map.mp made
    obtain ⟨isRow, ends⟩ := List.mem_filter.mp picked
    subst equal
    simp only [CapturesRow.endsWith, Bool.and_eq_true, decide_eq_true_eq] at ends
    exact ⟨rfl, row, isRow, rfl, ends.1⟩
  | deleteExpired _ cutoff =>
    obtain ⟨row, picked, equal⟩ := List.mem_map.mp made
    obtain ⟨isRow, isSelected⟩ := List.mem_filter.mp picked
    subst equal
    simp only [Bool.and_eq_true, decide_eq_true_eq] at isSelected
    obtain ⟨signal, isExpired⟩ := isSelected
    subst signal
    exact ⟨⟨cutoff, rfl⟩, row, isRow, rfl, isSome_of_isExpired isExpired⟩
  | _ => cases made

theorem source_of_mem (made : event ∈ op.events paths state) : event.Source op state := by
  cases op with
  | sql => exact Query.source_of_mem made
  | lookupGates name =>
    obtain ⟨_, found, equal⟩ := List.mem_map.mp made
    subst equal
    exact ⟨name, rfl, found⟩
  | register needs =>
    cases entry : GateIndex.entryOf paths state.history.length needs with
    | error => simp [SignalOp.events, entry] at made
    | ok =>
      rw [SignalOp.events, entry, List.mem_singleton] at made
      subst made
      exact ⟨needs, rfl, GateIndex.registration_entryOf entry⟩
  | removeGate told =>
    obtain ⟨_, gone, equal⟩ := List.mem_map.mp made
    subst equal
    exact ⟨told, rfl, Option.mem_toList.mp gone⟩
  | send =>
    rcases List.mem_cons.mp made with relayed | sent
    · subst relayed
      exact .inl rfl
    · rw [List.mem_singleton] at sent
      subst sent
      exact .inl rfl
  | collect | forward =>
    rw [SignalOp.events, List.mem_singleton] at made
    subst made
    exact .inr rfl
  | execute =>
    rw [SignalOp.events, List.mem_singleton] at made
    subst made
    exact ⟨rfl, rfl⟩
  | persistEffects | respond | warn | receive | endRun =>
    rw [SignalOp.events, List.mem_singleton] at made
    subst made
    exact rfl
  | _ => cases made

include change in
/-- An event in the history was there before or is what the call has just
done. -/
theorem Change.source (mem : (author, event) ∈ after.history) :
    (author, event) ∈ state.history ∨ author = peer ∧ event.Source op state := by
  rcases change.mem_history mem with older | ⟨owner, made⟩
  · exact .inl older
  · exact .inr ⟨owner, source_of_mem made⟩

include change

theorem Change.workingSet :
    ∃ added, after.workingSet = added ++ state.workingSet ∧
      ∀ write ∈ added, op.WritesCapture write.key write.value := by
  cases change with
  | captured _ key value writes =>
    refine ⟨[⟨peer, key, value⟩], rfl, ?_⟩
    intro _ mem
    rw [List.mem_singleton.mp mem]
    exact writes
  | scopeCreated | scopeWritten =>
    refine ⟨_, rfl, ?_⟩
    intro _ mem
    obtain ⟨value, valued, rfl⟩ := List.mem_map.mp (List.mem_reverse.mp mem)
    exact ⟨rfl, value.2, valued, rfl⟩
  | _ => exact ⟨[], rfl, by simp⟩

theorem Change.cache :
    after.cache = state.cache ∨
      ∃ call key value, op = .cache call ∧ call.Writes key value ∧
        after.cache = ⟨peer, key, value⟩ :: state.cache := by
  cases change with
  | cached call key value writes => exact .inr ⟨call, key, value, rfl, writes, rfl⟩
  | _ => exact .inl rfl

theorem Change.tables :
    after.tables = state.tables ∨
      ∃ query now, op = .sql query ∧ after = state.runQuery peer now query := by
  cases change with
  | queried query now => exact .inr ⟨query, now, rfl, rfl⟩
  | _ => exact .inl rfl

/-- A gate in the index was there before, or the call has just registered
it. -/
theorem Change.byGate (found : after.gates.byGate key = some gate) :
    state.gates.byGate key = some gate ∨
      gate.registration = state.history.length ∧
        after.history = (peer, .registered gate) :: state.history := by
  cases change with
  | registered _ _ entry =>
    rcases GateIndex.byGate_of_replace found with new | older
    · subst new
      exact .inr ⟨GateIndex.registration_entryOf entry, rfl⟩
    · exact .inl older
  | unregistered | removed => exact .inl (GateMaps.byGate_of_remove found).1
  | _ => exact .inl found

omit change

/-- How a row of captures comes to be in the table after a statement. -/
inductive RowChange (now : Int) (tables : Tables) : Query → CapturesRow → Prop
  | kept (query : Query) (row : CapturesRow)
      (member : row ∈ tables.captures) : RowChange now tables query row
  | inserted (signalId workflowId : Uuid) (version : Option Int) (captures : List NamedEnvelope)
      (isFirst : ∀ old ∈ tables.captures, old.signalId ≠ signalId) :
      RowChange now tables (.insertCaptures signalId workflowId version captures)
        ⟨signalId, workflowId, version, captures, none, none⟩
  | linked (row : CapturesRow) (run : Uuid)
      (member : row ∈ tables.captures) (free : row.materializedRunId = none) :
      RowChange now tables (.linkCaptures row.signalId run)
        { row with materializedRunId := some run }
  | settled (row : CapturesRow) (run : Uuid) (member : row ∈ tables.captures)
      (linked : row.materializedRunId = some run) :
      RowChange now tables (.markTerminal run) { row with terminalAt := some now }

theorem rowChange_of_mem {query : Query} (mem : row ∈ (query.effect now tables).captures) :
    RowChange now tables query row := by
  cases query with
  | insertCaptures signalId workflowId version captures =>
    simp only [Query.effect] at mem
    split at mem
    · exact .kept _ row mem
    rename_i first
    rcases List.mem_append.mp mem with older | new
    · exact .kept _ row older
    rw [List.mem_singleton] at new
    subst new
    refine .inserted signalId workflowId version captures ?_
    intro old isOld same
    apply first
    simp only [List.any_eq_true, decide_eq_true_eq]
    exact ⟨old, isOld, same⟩
  | linkCaptures signalId run =>
    obtain ⟨old, isOld, equal⟩ := Table.mem_updateWhere.mp mem
    by_cases picked : (decide (old.signalId = signalId) && old.materializedRunId.isNone) = true
    · rw [if_pos picked] at equal
      simp only [Bool.and_eq_true, decide_eq_true_eq, Option.isNone_iff_eq_none] at picked
      obtain ⟨signal, free⟩ := picked
      subst equal
      subst signal
      exact .linked old run isOld free
    · rw [if_neg picked] at equal
      subst equal
      exact .kept _ old isOld
  | markTerminal run =>
    obtain ⟨old, isOld, equal⟩ := Table.mem_updateWhere.mp mem
    by_cases picked : old.endsWith run = true
    · rw [if_pos picked] at equal
      simp only [CapturesRow.endsWith, Bool.and_eq_true, decide_eq_true_eq] at picked
      subst equal
      exact .settled old run isOld picked.1
    · rw [if_neg picked] at equal
      subst equal
      exact .kept _ old isOld
  | deleteExpired => exact .kept _ row (List.mem_filter.mp mem).1
  | insertCancel | insertWakeup =>
    simp only [Query.effect] at mem
    split at mem
    · exact .kept _ row mem
    · exact .kept _ row mem
  | _ => exact .kept _ row mem

/-- The logs of a state are continued in a later one. -/
structure Grows (before after : SignalState) : Prop where
  history : before.history <:+ after.history
  cache : before.cache <:+ after.cache
  workingSet : before.workingSet <:+ after.workingSet

theorem Grows.refl (state : SignalState) : Grows state state :=
  ⟨List.suffix_rfl, List.suffix_rfl, List.suffix_rfl⟩

theorem Grows.trans (prior : Grows first second) (later : Grows second third) :
    Grows first third :=
  ⟨prior.history.trans later.history, prior.cache.trans later.cache,
    prior.workingSet.trans later.workingSet⟩

theorem Change.grows (change : Change paths peer state op after) : Grows state after := by
  constructor
  · rcases change.history with same | added
    · rw [same]
    · rw [added]
      exact List.suffix_append _ _
  · rcases change.cache with same | ⟨_, _, _, _, _, added⟩
    · rw [same]
    · rw [added]
      exact List.suffix_cons _ _
  · obtain ⟨_, isAdded, _⟩ := change.workingSet
    rw [isAdded]
    exact List.suffix_append _ _

end Tickr.Signals
