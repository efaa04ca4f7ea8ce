import Tickr.Signals.Effects

/-!
# What the commands promise each other

A command claims the cache with its own row, sends only after its captures are
written or their loss is logged, takes a gate out only after sending its outcome,
and answers only what it has seen.  `Legit` says this of one call in terms of
the history.
-/

namespace Tickr.Signals

open LogStream (Uuid)
open KeyValue Concurrent

variable {op : SignalOp} {author : Nat} {sending : Sending} {event : SignalEvent}

def Command.cacheClaim : Command → Option (String × CacheRow)
  | .trigger request fresh => request.idempotencyKey.map fun key =>
    (key, ⟨fresh, ⟨request.request.hashPayload⟩⟩)
  | .cancel request fresh _ => request.idempotencyKey.map fun key => (key, ⟨fresh, request.hash⟩)
  | .wakeup request fresh => request.idempotencyKey.map fun key => (key, ⟨fresh, request.hash⟩)
  | _ => none

def Command.fanOut (setup : Deployment) : Command → Option FanOut
  | .wakeup request fresh => some (request.fanOut setup.paths setup.http none fresh)
  | .deliver _ signalId (.wakeup name _ payload) =>
    some ((⟨name, payload, none⟩ : WakeupRequest).fanOut setup.paths
      setup.ingress (some signalId) signalId)
  | _ => none

def Command.workingSet (setup : Deployment) : Command → WorkingSet
  | .deliver _ _ _ => setup.ingress
  | _ => setup.http

def Command.isDelivery : Command → Bool
  | .deliver _ _ _ => true
  | _ => false

/-- A capture was not written, and the command went on without it. -/
def Warning.losesCaptures : Warning → Bool
  | .persistCaptures _ | .persistGateCaptures _ => true
  | _ => false

variable (setup : Deployment) (jobs : Nat → Command)

/-- The captures that a receiver is to find have been written. -/
def Written (expects : List (CaptureKey × Content)) (state : SignalState) : Prop :=
  ∀ expectation ∈ expects, ∃ write ∈ state.workingSet,
    write.key = expectation.1 ∧ ∃ envelope, write.value = some envelope ∧
      envelope.content = expectation.2

/-- The values of a scope request have been written. -/
def Applied (request : ScopeRequest) (state : SignalState) : Prop :=
  ∀ value ∈ request.values, ∃ write ∈ state.workingSet,
    write.key = (request.scopeId, value.1) ∧ write.value = some value.2

/-- The captures of a message are written, or were lost with a warning, or
there is nowhere to write them. -/
def Supplied (peer : Nat) (sending : Sending) (state : SignalState) : Prop :=
  Written sending.expects state ∨
    (∃ warning, warning.losesCaptures = true ∧ (peer, .warned warning) ∈ state.history) ∨
    (jobs peer).workingSet setup = .absent

/-- The payload of a client's wakeup satisfies the predicate of a gate. -/
def Fires (peer : Nat) (gate : Gate) : Prop :=
  ∃ fan, (jobs peer).fanOut setup = some fan ∧
    predicateMatches fan.paths gate.predicate fan.payload = true

/-- The client has sent no outcome for this registration. -/
def Unsent (peer registration : Nat) (state : SignalState) : Prop :=
  ∀ sending, (peer, .sent sending) ∈ state.history → sending.registration ≠ some registration

/-- An outcome goes to a gate that the client found, that its payload
satisfies, and that it has not told yet. -/
def Addressed (peer : Nat) (sending : Sending) (state : SignalState) : Prop :=
  sending.registration = none ∨ ∃ gate,
    (peer, .lookedUp gate) ∈ state.history ∧ Fires setup jobs peer gate ∧
      sending.registration = some gate.registration ∧
      Unsent peer gate.registration state

/-- A row of the cache under the client's own key and hash says this signal. -/
def Cached (peer : Nat) (signalId : Uuid) (state : SignalState) : Prop :=
  ∃ key row write, (jobs peer).cacheClaim = some (key, row) ∧
    write ∈ state.cache ∧ write.key = key ∧ write.value = some ⟨signalId, row.inputSha256⟩

/-- A command is answered with what it did, or with what it read in the
cache. -/
def Justified (peer : Nat) (answer : Answer) (state : SignalState) : Prop :=
  match jobs peer, answer with
  | .trigger request fresh, .fresh signalId =>
    signalId = fresh ∧ ∃ sending,
      (peer, .relayed sending) ∈ state.history ∧
        sending.item = .signal (request.request.signal fresh)
  | .trigger _ _, .deduplicated signalId => Cached jobs peer signalId state
  | .trigger _ _, .cancelledInstance _ => False
  | .trigger _ _, .cancelledByTag _ _ => False
  | .cancel request fresh _, .cancelledInstance signalId =>
    signalId = fresh ∧ (peer, .relayed (request.sending fresh)) ∈ state.history
  | .cancel request fresh _, .cancelledByTag signalId _ =>
    signalId = fresh ∧ (peer, .relayed (request.sending fresh)) ∈ state.history
  | .cancel _ _ _, .deduplicated signalId => Cached jobs peer signalId state
  | .cancel _ _ _, .fresh _ => False
  | _, _ => True

/-- The captures that a client read from the archive are in the working set,
or it was logged that this failed. -/
def Rehydrated (peer : Nat) (signalId : Uuid) (state : SignalState) : Prop :=
  (∃ workflowInstanceId, (peer, .warned (.rehydration workflowInstanceId)) ∈ state.history) ∨
    ∃ found, (peer, .read signalId found) ∈ state.history ∧
      ∀ row, found = some row → ∀ capture ∈ row.captures,
        ∃ write ∈ state.workingSet, write.key = (signalId, capture.name) ∧ write.value.isSome = true

/-- What a command's own order allows it to call. -/
def Legit (peer : Nat) (op : SignalOp) (state : SignalState) : Prop :=
  match op with
  | .cache (.entry _) => True
  | .cache (.create key row) => (jobs peer).cacheClaim = some (key, row)
  | .cache _ => False
  | .workingSet (.delete key) =>
    ∃ author workflowInstanceId, (author, .settled key.1 workflowInstanceId) ∈ state.history
  | .sql (.signalCaptures signalId) => ∃ workflowInstanceId,
      (peer, .received workflowInstanceId signalId) ∈ state.history
  | .sql (.markTerminal workflowInstanceId) =>
    (peer, .terminal workflowInstanceId) ∈ state.history
  | .send sending =>
    Addressed setup jobs peer sending state ∧
      Supplied setup jobs peer sending state
  | .collect sending =>
    (jobs peer).isDelivery = true ∧ Addressed setup jobs peer sending state ∧
      Supplied setup jobs peer sending state
  | .persistEffects _ intents =>
    ∀ sending ∈ intents, Supplied setup jobs peer sending state
  | .forward sending => ∃ author signalId intents,
      (author, .recorded signalId intents) ∈ state.history ∧ sending ∈ intents
  | .removeGate gate => ∃ sending, (peer, .sent sending) ∈ state.history ∧
      sending.registration = some gate.registration
  | .respond answer => Justified jobs peer answer state
  | .execute workflowInstanceId signalId =>
    (peer, .received workflowInstanceId signalId) ∈ state.history ∧
      Rehydrated peer signalId state
  | _ => True

section Growing

variable {setup} {jobs} {peer : Nat} {before after : SignalState} {signalId : Uuid}

theorem Grows.mem (grows : Grows before after) (mem : (author, event) ∈ before.history) :
    (author, event) ∈ after.history := grows.history.subset mem

theorem Written.grown (wrote : Written expects before) (grows : Grows before after) :
    Written expects after := by
  intro expectation mem
  obtain ⟨write, isWrite, rest⟩ := wrote expectation mem
  exact ⟨write, grows.workingSet.subset isWrite, rest⟩

theorem Applied.grown (ran : Applied request before) (grows : Grows before after) :
    Applied request after := by
  intro value mem
  obtain ⟨write, isWrite, rest⟩ := ran value mem
  exact ⟨write, grows.workingSet.subset isWrite, rest⟩

theorem Supplied.grown (given : Supplied setup jobs peer sending before)
    (grows : Grows before after) :
    Supplied setup jobs peer sending after := by
  rcases given with wrote | ⟨warning, loses, warned⟩ | absent
  · exact .inl (wrote.grown grows)
  · exact .inr (.inl ⟨warning, loses, grows.mem warned⟩)
  · exact .inr (.inr absent)

theorem Cached.grown (cached : Cached jobs peer signalId before)
    (grows : Grows before after) : Cached jobs peer signalId after := by
  obtain ⟨key, row, write, claim, isWrite, rest⟩ := cached
  exact ⟨key, row, write, claim, grows.cache.subset isWrite, rest⟩

theorem Justified.grown {answer : Answer} (fair : Justified jobs peer answer before)
    (grows : Grows before after) : Justified jobs peer answer after := by
  unfold Justified at fair ⊢
  split at fair
  · obtain ⟨fresh, sending, relayed, item⟩ := fair
    exact ⟨fresh, sending, grows.mem relayed, item⟩
  · exact .grown fair grows
  · exact fair
  · exact fair
  · exact ⟨fair.1, grows.mem fair.2⟩
  · exact ⟨fair.1, grows.mem fair.2⟩
  · exact .grown fair grows
  · exact fair
  · trivial

theorem Rehydrated.grown (rehydrated : Rehydrated peer signalId before)
    (grows : Grows before after) : Rehydrated peer signalId after := by
  rcases rehydrated with ⟨run, warned⟩ | ⟨found, read, there⟩
  · exact .inl ⟨run, grows.mem warned⟩
  refine .inr ⟨found, grows.mem read, ?_⟩
  intro row isRow capture mem
  obtain ⟨write, isWrite, rest⟩ := there row isRow capture mem
  exact ⟨write, grows.workingSet.subset isWrite, rest⟩

end Growing

/-- What every state has that the commands can reach. -/
structure Sound (state : SignalState) : Prop where
  /-- A row is settled only with the run it is linked to. -/
  settledRows : ∀ row ∈ state.tables.captures, row.terminalAt.isSome = true →
    ∃ author workflowInstanceId,
      row.materializedRunId = some workflowInstanceId ∧
        (author, .settled row.signalId workflowInstanceId) ∈ state.history
  /-- A registration has the number of its place in the history. -/
  numbered : ∀ author gate, (author, .registered gate) ∈ state.history →
    state.history.reverse[gate.registration]? = some (author, .registered gate)
  indexed : ∀ key gate, state.gates.byGate key = some gate →
    ∃ author, (author, .registered gate) ∈ state.history
  found : ∀ peer gate, (peer, .lookedUp gate) ∈ state.history →
    ∃ author, (author, .registered gate) ∈ state.history
  /-- Only the sender of a delivered event keeps a message to itself. -/
  relayed : ∀ peer sending, (peer, .sent sending) ∈ state.history →
    (peer, .relayed sending) ∈ state.history ∨ (jobs peer).isDelivery = true
  addressed : ∀ peer sending registration,
    (peer, .sent sending) ∈ state.history →
      sending.registration = some registration →
        ∃ gate, (peer, .lookedUp gate) ∈ state.history ∧ Fires setup jobs peer gate ∧
          gate.registration = registration
  supplied : ∀ peer sending, (peer, .sent sending) ∈ state.history →
    Supplied setup jobs peer sending state
  /-- The values of an applied scope request are in the working set. -/
  scopesWritten : ∀ request ∈ state.scopes, Applied request state
  claimsWritten : ∀ request ∈ state.scopeClaims, Applied request state

section Soundness

variable {setup} {jobs} {peer : Nat} {state after : SignalState}

theorem Sound.gate_eq (sound : Sound setup jobs state)
    (leftRegistered : (first, .registered left) ∈ state.history)
    (rightRegistered : (second, .registered right) ∈ state.history)
    (same : left.registration = right.registration) : left = right := by
  have place := sound.numbered first left leftRegistered
  have rightPlace := sound.numbered second right rightRegistered
  rw [same, rightPlace] at place
  cases place
  rfl

variable (change : Change setup.paths peer state op after)
include change

theorem registered_of_mem (mem : (author, .registered gate) ∈ after.history) :
    (author, .registered gate) ∈ state.history ∨
      gate.registration = state.history.length ∧
        after.history = (author, .registered gate) :: state.history := by
  rcases change.history with same | added
  · rw [same] at mem
    exact .inl mem
  rw [added, List.mem_append, List.mem_map] at mem
  rcases mem with ⟨_, isMade, equal⟩ | older
  · cases equal
    cases op with
    | register needs =>
      cases entry : GateIndex.entryOf setup.paths state.history.length needs with
      | error => simp [SignalOp.events, entry] at isMade
      | ok =>
        simp only [SignalOp.events, entry, List.mem_singleton,
          SignalEvent.registered.injEq] at isMade
        subst isMade
        refine .inr ⟨GateIndex.registration_entryOf entry, ?_⟩
        rw [added, SignalOp.events, entry]
        rfl
    | sql query => cases query <;> simp [SignalOp.events, Query.events] at isMade
    | _ => simp [SignalOp.events] at isMade
  · exact .inl older

theorem lookedUp_of_mem (mem : (author, .lookedUp gate) ∈ after.history) :
    (author, .lookedUp gate) ∈ state.history ∨
      author = peer ∧ ∃ name, op = .lookupGates name ∧
        gate ∈ state.gates.lookupBySignalName name := change.source mem

theorem sent_of_mem (mem : (author, .sent sending) ∈ after.history) :
    (author, .sent sending) ∈ state.history ∨
      author = peer ∧ (op = .send sending ∨ op = .collect sending) := change.source mem

omit change

/-- What a call's legitimacy says about the outcome it sends. -/
theorem Legit.addressed (legit : Legit setup jobs peer op state)
    (isSend : op = .send sending ∨ op = .collect sending) :
    Addressed setup jobs peer sending state := by
  rcases isSend with isSend | isCollect
  · subst isSend
    exact legit.1
  · subst isCollect
    exact legit.2.1

theorem Legit.supplied (legit : Legit setup jobs peer op state)
    (isSend : op = .send sending ∨ op = .collect sending) :
    Supplied setup jobs peer sending state := by
  rcases isSend with isSend | isCollect
  · subst isSend
    exact legit.2
  · subst isCollect
    exact legit.2.2

theorem applied_writeValues (request : ScopeRequest) :
    Applied request (state.writeValues peer request) := by
  intro value mem
  refine ⟨⟨peer, (request.scopeId, value.1), some value.2⟩, ?_, rfl, rfl⟩
  apply List.mem_append_left
  rw [List.mem_reverse]
  exact List.mem_map.mpr ⟨value, mem, rfl⟩

section Steps

variable (sound : Sound setup jobs state)
  (legit : Legit setup jobs peer op state)
include sound change

private theorem settledRows_step :
    ∀ row ∈ after.tables.captures, row.terminalAt.isSome = true →
      ∃ author workflowInstanceId,
        row.materializedRunId = some workflowInstanceId ∧
          (author, .settled row.signalId workflowInstanceId) ∈ after.history := by
  have taken : ∀ row ∈ state.tables.captures,
      row.terminalAt.isSome = true → ∃ author workflowInstanceId,
        row.materializedRunId = some workflowInstanceId ∧
          (author, .settled row.signalId workflowInstanceId) ∈ after.history := by
    intro row mem settles
    obtain ⟨author, run, linked, settled⟩ := sound.settledRows row mem settles
    exact ⟨author, run, linked, change.grows.mem settled⟩
  intro row mem settles
  rcases change.tables with same | ⟨query, now, _, isAfter⟩
  · rw [same] at mem
    exact taken row mem settles
  have rowChange : RowChange now state.tables query row := by
    rw [isAfter] at mem
    exact rowChange_of_mem mem
  cases rowChange with
  | kept _ _ older => exact taken row older settles
  | inserted => cases settles
  | linked old _ isOld free =>
    -- A link is made only once, and a settled row has one already.
    obtain ⟨_, _, links, _⟩ := taken old isOld settles
    rw [free] at links
    cases links
  | settled old run isOld links =>
    by_cases before : old.terminalAt.isSome = true
    · exact taken old isOld before
    refine ⟨peer, run, links, ?_⟩
    have ends : old.endsWith run = true := by
      simp [CapturesRow.endsWith, links, Option.not_isSome_iff_eq_none.mp before]
    rw [isAfter]
    apply List.mem_append_left
    apply List.mem_map_of_mem
    exact List.mem_map.mpr ⟨old, List.mem_filter.mpr ⟨isOld, ends⟩, rfl⟩

private theorem numbered_step :
    ∀ author gate, (author, .registered gate) ∈ after.history →
      after.history.reverse[gate.registration]? = some (author, .registered gate) := by
  intro author gate mem
  rcases registered_of_mem change mem with older | ⟨number, newest⟩
  · have place := sound.numbered author gate older
    obtain ⟨_, isAfter⟩ := change.grows.history
    rw [← isAfter, List.reverse_append]
    have within : gate.registration < state.history.reverse.length := by
      by_contra beyond
      rw [List.getElem?_eq_none (Nat.le_of_not_lt beyond)] at place
      cases place
    rw [List.getElem?_append_left within]
    exact place
  · rw [newest, number]
    simp

include legit in
private theorem relayed_step :
    ∀ author sending, (author, .sent sending) ∈ after.history →
      (author, .relayed sending) ∈ after.history ∨ (jobs author).isDelivery = true := by
  intro author sending mem
  rcases sent_of_mem change mem with older | ⟨owner, send | collect⟩
  · rcases sound.relayed author sending older with relayed | isDelivery
    · exact .inl (change.grows.mem relayed)
    · exact .inr isDelivery
  · subst owner
    subst send
    rcases change.history with same | added
    · rw [same] at mem
      rcases sound.relayed author sending mem with relayed | isDelivery
      · exact .inl (change.grows.mem relayed)
      · exact .inr isDelivery
    · refine .inl ?_
      rw [added]
      exact .head _
  · subst owner
    subst collect
    exact .inr legit.1

include legit in
private theorem addressed_step :
    ∀ author sending registration, (author, .sent sending) ∈ after.history →
      sending.registration = some registration →
        ∃ gate, (author, .lookedUp gate) ∈ after.history ∧ Fires setup jobs author gate ∧
          gate.registration = registration := by
  intro author sending registration mem isAddressed
  rcases sent_of_mem change mem with older | ⟨owner, send⟩
  · obtain ⟨gate, lookedUp, rest⟩ := sound.addressed author sending registration older isAddressed
    exact ⟨gate, change.grows.mem lookedUp, rest⟩
  subst owner
  rcases legit.addressed send with none | ⟨gate, lookedUp, fires, same, _⟩
  · rw [none] at isAddressed
    cases isAddressed
  · rw [same] at isAddressed
    exact ⟨gate, change.grows.mem lookedUp, fires, Option.some.inj isAddressed⟩

private theorem scopesWritten_step : ∀ request ∈ after.scopes, Applied request after := by
  have grows := change.grows
  intro request mem
  cases change with
  | scopeCreated =>
    rcases List.mem_append.mp mem with older | new
    · exact (sound.scopesWritten request older).grown grows
    · rw [List.mem_singleton] at new
      subst new
      exact applied_writeValues request
  | _ => exact (sound.scopesWritten request mem).grown grows

private theorem claimsWritten_step : ∀ request ∈ after.scopeClaims, Applied request after := by
  have grows := change.grows
  intro request mem
  cases change with
  | scopeCreated | scopeWritten =>
    rcases List.mem_append.mp mem with older | new
    · exact (sound.claimsWritten request older).grown grows
    · rw [List.mem_singleton] at new
      subst new
      exact applied_writeValues request
  | _ => exact (sound.claimsWritten request mem).grown grows

end Steps

theorem Sound.step (sound : Sound setup jobs state)
    (legit : Legit setup jobs peer op state)
    (change : Change setup.paths peer state op after) :
    Sound setup jobs after where
  settledRows := settledRows_step change sound
  numbered := numbered_step change sound
  indexed := by
    intro key gate index
    rcases change.byGate index with older | ⟨_, newest⟩
    · obtain ⟨author, registered⟩ := sound.indexed key gate older
      exact ⟨author, change.grows.mem registered⟩
    · refine ⟨peer, ?_⟩
      rw [newest]
      exact .head _
  found := by
    intro author gate mem
    rcases lookedUp_of_mem change mem with older | ⟨_, _, _, hit⟩
    · obtain ⟨registrar, registered⟩ := sound.found author gate older
      exact ⟨registrar, change.grows.mem registered⟩
    · have index := (GateIndex.mem_lookupBySignalName.mp hit).1
      obtain ⟨registrar, registered⟩ := sound.indexed gate.key gate index
      exact ⟨registrar, change.grows.mem registered⟩
  relayed := relayed_step change sound legit
  addressed := addressed_step change sound legit
  supplied := by
    intro author sending mem
    rcases sent_of_mem change mem with older | ⟨owner, send⟩
    · exact (sound.supplied author sending older).grown change.grows
    · subst owner
      exact (legit.supplied send).grown change.grows
  scopesWritten := scopesWritten_step change sound
  claimsWritten := claimsWritten_step change sound

end Soundness

/-- A property to be shown of runs: the condition on their calls, what holds
in every state of them, and that every legitimate call keeps it. -/
structure Concern where
  condition : Nat → SignalOp → SignalState → Prop
  invariant : SignalState → Prop
  keeps : ∀ peer op state after, Sound setup jobs state →
    invariant state → Legit setup jobs peer op state →
      condition peer op state → Change setup.paths peer state op after → invariant after

variable {setup jobs}

/-- What the commands promise each other, for the sake of one property. -/
def signals (concern : Concern setup jobs) :
    Discipline SignalState SignalOp where
  guarantee := fun peer before after => ∃ op,
    Legit setup jobs peer op before ∧ concern.condition peer op before ∧
      Change setup.paths peer before op after
  invariant := fun state =>
    Sound setup jobs state ∧ concern.invariant state
  condition := concern.condition
  keeps := by
    intro peer before after promised holds
    obtain ⟨op, legit, meets, change⟩ := promised
    exact ⟨holds.1.step legit change,
      concern.keeps peer op before after holds.1 holds.2 legit meets change⟩

variable {concern : Concern setup jobs} {peer : Nat} {before after : SignalState}

theorem grows_of_evolves (evolves : (signals concern).Evolves before after) :
    Grows before after :=
  evolves.keeps (.refl before) fun _ _ _ ⟨_, _, _, change⟩ grows => grows.trans change.grows

theorem grows_of_rely (rely : (signals concern).Rely peer before after) :
    Grows before after := grows_of_evolves rely.evolves

theorem own_of_guarantee (ne : other ≠ peer)
    (promised : (signals concern).guarantee other before after)
    (mem : (peer, event) ∈ after.history) :
    (peer, event) ∈ before.history := by
  obtain ⟨_, _, _, change⟩ := promised
  rcases change.mem_history mem with older | ⟨diff, _⟩
  · exact older
  · exact absurd diff.symm ne

theorem own_of_rely (rely : (signals concern).Rely peer before after)
    (mem : (peer, event) ∈ after.history) :
    (peer, event) ∈ before.history := by
  induction rely with
  | refl => exact mem
  | tail _ step ih =>
    obtain ⟨_, ne, promised⟩ := step
    exact ih (own_of_guarantee ne promised mem)

theorem Unsent.of_rely (unsent : Unsent peer registration before)
    (rely : (signals concern).Rely peer before after) :
    Unsent peer registration after :=
  fun sending mem => unsent sending (own_of_rely rely mem)

/-- A fallible program of a client is safe among the commands. -/
abbrev SafeSignal (concern : Concern setup jobs) (peer : Nat)
    {ε α : Type} (post : α → SignalState → Prop) (program : SignalM ε α)
    (state : SignalState) : Prop :=
  Discipline.SafeTry (signalSystem setup.paths) (signals concern) peer post program state

/-- A program is safe and fails in these ways only. -/
abbrev SafeFailing (concern : Concern setup jobs) (peer : Nat)
    {ε α : Type} (post : α → SignalState → Prop) (faults : ε → Prop)
    (program : SignalM ε α) (state : SignalState) : Prop :=
  Discipline.SafeExcept (signalSystem setup.paths) (signals concern)
    peer post faults program state

variable {ε α : Type} {state : SignalState} {faults : ε → Prop}
  (legit : ∀ before, (signals concern).Rely peer state before → (signals concern).invariant before → Legit setup jobs peer op before)
include legit

section Request

variable {interpret : op.Reply → Except ε α} {post : α → SignalState → Prop}
  (reached : ∀ before turn value, (signals concern).Rely peer state before → (signals
    concern).invariant before → concern.condition peer op before → interpret (perform
    setup.paths peer op turn before).1 = .ok value → post value (perform setup.paths
    peer op turn before).2)
  (lasts : ∀ value before after, (signals concern).Rely peer before after → post value before →
    post value after)
include reached lasts

/-- One call: it is legitimate whenever it is made, and the others do not undo
what it brings about. -/
theorem request_failing (allowed : ∀ reply fault, interpret reply = .error fault → faults fault) :
    SafeFailing concern peer post faults (Program.request op interpret) state := by
  refine .request ?_ allowed
  intro before rely holds meets turn
  refine ⟨⟨op, legit before rely holds, meets, perform_change op turn⟩, ?_⟩
  intro value answered after onward _
  exact lasts value _ after onward (reached before turn value rely holds meets answered)

theorem request_safe : SafeSignal concern peer post (Program.request op interpret) state :=
  request_failing legit reached lasts fun _ _ _ => trivial

end Request

omit legit

/-- One call that a command may make at any time. -/
theorem request_free (free : ∀ before, Legit setup jobs peer op before) :
    SafeSignal concern peer Any (Program.request op interpret) state :=
  request_safe (fun before _ _ => free before) (fun _ _ _ _ _ _ _ => trivial)
    fun _ _ _ _ _ => trivial

include legit in
theorem ask_safe (reached : ∀ before turn,
      (signals concern).Rely peer state before →
        (signals concern).invariant before →
          concern.condition peer op before →
            post (perform setup.paths peer op turn before).1
              (perform setup.paths peer op turn before).2) (lasts : ∀ reply before after,
      (signals concern).Rely peer before after → post reply before → post reply after) :
    SafeFailing concern peer post faults (ask op) state := by
  apply request_failing legit ?_ lasts
  · intro _ _ equal
    cases equal
  · intro before turn _ rely holds meets answered
    cases answered
    exact reached before turn rely holds meets

theorem ask_free (free : ∀ before, Legit setup jobs peer op before) :
    SafeFailing concern peer Any faults (ask op) state :=
  ask_safe (fun before _ _ => free before) (fun _ _ _ _ _ => trivial) fun _ _ _ _ _ => trivial

end Tickr.Signals
