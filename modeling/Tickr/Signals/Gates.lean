import Tickr.Signals.Running

/-!
# Gates that a wakeup opens

Finding a gate, telling its run and taking it out by its identity are separate
steps, so a gate can be lost or told twice.  Here is what keeps each of the two
from happening.
-/

namespace Tickr.Signals

open LogStream (Uuid)
open KeyValue Concurrent

def SignalEvent.tells (registration : Nat) : SignalEvent → Bool
  | .relayed sending => sending.registration = some registration
  | .recorded _ intents => intents.any fun sending => sending.registration = some registration
  | _ => false

/-- The run of a gate is told about this very registration. -/
def Told (gate : Gate) (state : SignalState) : Prop :=
  ∃ event ∈ state.history, event.2.tells gate.registration = true

instance (gate : Gate) (state : SignalState) : Decidable (Told gate state) :=
  inferInstanceAs (Decidable (∃ event ∈ _, _))

def SignalEvent.removedGate : SignalEvent → Option Gate
  | .removed gate => some gate
  | _ => none

/-- The gate whose outcome was sent and that is now taken out. -/
def SignalOp.gateTaken : SignalOp → Option Gate
  | .removeGate gate => some gate
  | _ => none

/-- What is taken out is the registration that was told. -/
def TakesWhatWasTold (op : SignalOp) (state : SignalState) : Prop :=
  ∀ gate ∈ op.gateTaken, ∀ found ∈ state.gates.byGate gate.key,
    found.registration = gate.registration

instance (op : SignalOp) (state : SignalState) : Decidable (TakesWhatWasTold op state) :=
  inferInstanceAs (Decidable (∀ gate ∈ _, ∀ found ∈ _, _))

/-- A wakeup takes out the registration it told, and its delivery is left for
later only after the run of every gate it took out has been told. -/
def LosesNoGate (peer : Nat) (op : SignalOp) (state : SignalState) : Prop :=
  TakesWhatWasTold op state ∧
    (op = .leavePending → ∀ event ∈ state.history, event.1 = peer →
      ∀ gate ∈ event.2.removedGate, Told gate state)

instance (peer : Nat) (op : SignalOp) (state : SignalState) :
    Decidable (LosesNoGate peer op state) :=
  inferInstanceAs (Decidable (_ ∧ (_ → ∀ event ∈ _, _ → ∀ gate ∈ _, _)))

variable {setup : Deployment} {jobs : Nat → Command} {peer : Nat}
  {op : SignalOp} {gate : Gate} {state after : SignalState}

theorem Told.grown (told : Told gate state) (grows : Grows state after) : Told gate after := by
  obtain ⟨event, mem, tells⟩ := told
  exact ⟨event, grows.history.subset mem, tells⟩

/-- Whoever took a gate out had sent its outcome. -/
def RemovedAfterSending (state : SignalState) : Prop :=
  ∀ peer gate, (peer, .removed gate) ∈ state.history →
    ∃ sending, (peer, .sent sending) ∈ state.history ∧
      sending.registration = some gate.registration

theorem RemovedAfterSending.step (holds : RemovedAfterSending state)
    (legit : Legit setup jobs peer op state) (takes : TakesWhatWasTold op state)
    (change : Change setup.paths peer state op after) :
    RemovedAfterSending after := by
  intro author gate mem
  rcases change.source mem with older | ⟨owner, told, removal, found⟩
  · obtain ⟨sending, sent, tells⟩ := holds author gate older
    exact ⟨sending, change.grows.mem sent, tells⟩
  subst owner
  subst removal
  obtain ⟨sending, sent, tells⟩ := legit
  have same : gate.registration = told.registration := takes told rfl gate found
  refine ⟨sending, change.grows.mem sent, ?_⟩
  rw [same]
  exact tells

/-- Gates that are not lost, as a property of runs. -/
def keepingGates (setup : Deployment) (jobs : Nat → Command) :
    Concern setup jobs where
  condition := LosesNoGate
  invariant := RemovedAfterSending
  keeps := fun _ _ _ _ _ holds legit meets change =>
    holds.step legit meets.1 change

theorem AllRecorded.told {sending : Sending} (recorded : AllRecorded peer state)
    (sent : (peer, .sent sending) ∈ state.history)
    (tells : sending.registration = some gate.registration) :
    Told gate state := by
  obtain ⟨signalId, intents, records, mem⟩ := recorded sending sent
  refine ⟨(peer, .recorded signalId intents), records, ?_⟩
  exact List.any_eq_true.mpr ⟨sending, mem, decide_eq_true tells⟩

variable {ending : CommandEnd}

theorem Delivered.told
    (delivered : Delivered (keepingGates setup jobs) peer ending state)
    (holds : RemovedAfterSending state)
    (removed : (peer, .removed gate) ∈ state.history) : Told gate state := by
  rcases delivered with ⟨_, _, noted⟩ | ⟨_, _, allowed, grows, own⟩
  · obtain ⟨_, sent, tells⟩ := holds peer gate removed
    exact noted.told sent tells
  · have removedBefore := own (.removed gate) removed
    exact (allowed.2 rfl (peer, .removed gate) removedBefore rfl gate rfl).grown grows

variable (setup) (jobs) (definitions : List LiveDefinition)
  (subscriptions : List Subscription)

/-- A gate that waits for approval, and the two wakeups for it. -/
def approvalGate : Gate := ⟨0, 1, 2, "approve", none, []⟩

def approvedDirectly : Nat → Command
  | 0 => .dispatchPrecondition ⟨1, 2, "approve", none, []⟩
  | 1 => .wakeup ⟨"approve", none, none⟩ 30
  | 2 => .wakeup ⟨"approve", none, none⟩ 40
  | _ => .idle

def approvedThroughIngress : Nat → Command
  | 0 => .dispatchPrecondition ⟨1, 2, "approve", none, []⟩
  | 1 => .deliver "producer" 30 (.wakeup "approve" true none)
  | 2 => .deliver "producer" 30 (.wakeup "approve" true none)
  | _ => .idle

def approvalRun (jobs : Nat → Command) (turns : List (Nat × Turn)) : SignalWorld :=
  (start sampleDeployment jobs (initialState [] [])).run
    (signalSystem sampleDeployment.paths) turns

variable {setup jobs}

/-- The payload of the command's wakeup satisfies the predicate of the gate. -/
def Command.fires (setup : Deployment) (command : Command) (gate : Gate) : Bool :=
  match command.fanOut setup with
  | some fan => predicateMatches fan.paths gate.predicate fan.payload
  | none => false

theorem fires_iff :
    (jobs peer).fires setup gate = true ↔ Fires setup jobs peer gate := by
  unfold Command.fires Fires
  constructor
  · intro firing
    split at firing
    · next fan isFan => exact ⟨fan, isFan, firing⟩
    · cases firing
  · intro ⟨_, isFan, isMatch⟩
    rw [isFan]
    exact isMatch

def SignalEvent.foundGate : SignalEvent → Option Gate
  | .lookedUp gate => some gate
  | _ => none

def SignalOp.gatesFound (op : SignalOp) (state : SignalState) : List Gate :=
  match op with
  | .lookupGates name => state.gates.lookupBySignalName name
  | _ => []

def SignalOp.givesUpOutcome : SignalOp → Bool
  | .warn (.sendGateOutcome _) => true
  | _ => false

/-- A gate that fires is found by one wakeup only, what is taken out is what
was told, and every outcome is sent. -/
def FoundOnce (setup : Deployment) (jobs : Nat → Command)
    (peer : Nat) (op : SignalOp) (state : SignalState) : Prop :=
  (∀ gate ∈ op.gatesFound state,
    (jobs peer).fires setup gate = true →
      ∀ event ∈ state.history, event.2.foundGate = some gate →
        (jobs event.1).fires setup gate = true → event.1 = peer) ∧
    TakesWhatWasTold op state ∧ op.givesUpOutcome = false

instance (op : SignalOp) (state : SignalState) :
    Decidable (FoundOnce setup jobs peer op state) :=
  inferInstanceAs (Decidable ((∀ gate ∈ _, _ → ∀ event ∈ _, _) ∧ _ ∧ _))

variable (registration : Nat)

def SignalEvent.sends : SignalEvent → Bool
  | .sent sending => sending.registration = some registration
  | _ => false

/-- How often an outcome was sent for a registration. -/
def outcomesSent (state : SignalState) : Nat :=
  state.history.countP fun event => event.2.sends registration

structure SingleFiring (setup : Deployment) (jobs : Nat → Command)
    (state : SignalState) : Prop where
  finder : ∀ first second gate, (first, .lookedUp gate) ∈ state.history →
    (second, .lookedUp gate) ∈ state.history →
      Fires setup jobs first gate → Fires setup jobs second gate → first = second
  once : ∀ registration, outcomesSent registration state ≤ 1
  removed : RemovedAfterSending state
  sends : ∀ peer key, (peer, .warned (.sendGateOutcome key)) ∉ state.history

theorem finder_step (single : SingleFiring setup jobs state)
    (meets : FoundOnce setup jobs peer op state)
    (change : Change setup.paths peer state op after) :
    ∀ first second gate, (first, .lookedUp gate) ∈ after.history →
      (second, .lookedUp gate) ∈ after.history →
        Fires setup jobs first gate →
          Fires setup jobs second gate → first = second := by
  -- A new finding and an old one: the condition speaks of the old one.
  have mixed : ∀ old gate, (old, .lookedUp gate) ∈ state.history →
      (∃ name, op = .lookupGates name ∧ gate ∈ state.gates.lookupBySignalName name) →
        Fires setup jobs old gate →
          Fires setup jobs peer gate → old = peer := by
    intro old gate mem new oldFires newFires
    obtain ⟨_, lookup, found⟩ := new
    subst lookup
    exact meets.1 gate found (fires_iff.mpr newFires)
      (old, .lookedUp gate) mem rfl (fires_iff.mpr oldFires)
  intro first second gate firstFound secondFound firstFires fires
  rcases change.source firstFound with firstOld | ⟨isFirst, firstNew⟩
  · rcases change.source secondFound with secondOld | ⟨isSecond, secondNew⟩
    · exact single.finder first second gate firstOld secondOld firstFires fires
    · subst isSecond
      exact mixed first gate firstOld secondNew firstFires fires
  · subst isFirst
    rcases change.source secondFound with secondOld | ⟨isSecond, _⟩
    · exact (mixed second gate secondOld firstNew fires firstFires).symm
    · exact isSecond.symm

theorem countP_events_le_one :
    (op.events setup.paths state).countP (SignalEvent.sends registration) ≤ 1 := by
  by_cases isSend : ∃ sending, op = .send sending ∨ op = .collect sending
  · obtain ⟨_, isSend | isCollect⟩ := isSend
    · subst isSend
      rw [SignalOp.events, List.countP_cons_of_neg (by simp [SignalEvent.sends])]
      exact List.countP_le_length
    · subst isCollect
      exact List.countP_le_length
  · have none : (op.events setup.paths state).countP (SignalEvent.sends registration) = 0 := by
      apply List.countP_eq_zero.mpr
      intro event made isSending
      cases event with
      | sent sending => exact isSend ⟨sending, source_of_mem made⟩
      | _ => cases isSending
    rw [none]
    exact Nat.zero_le 1

variable (sound : Sound setup jobs state) (single : SingleFiring setup jobs state)
  (legit : Legit setup jobs peer op state)
include sound single legit

theorem not_sent_before {registration : Nat} (isSend : op = .send sending ∨ op = .collect sending)
    (tells : sending.registration = some registration) :
    outcomesSent registration state = 0 := by
  rcases legit.addressed isSend with
    none | ⟨gate, lookedUp, fires, same, unsent⟩
  · rw [none] at tells
    cases tells
  have isRegistration : gate.registration = registration := by
    rw [same] at tells
    exact Option.some.inj tells
  apply List.countP_eq_zero.mpr
  intro event mem isSending
  obtain ⟨author, happened⟩ := event
  cases happened with
  | sent other =>
    have otherTells : other.registration = some registration := of_decide_eq_true isSending
    obtain ⟨otherGate, otherFound, otherFires, otherSame⟩ :=
      sound.addressed author other registration mem otherTells
    obtain ⟨_, registered⟩ := sound.found peer gate lookedUp
    obtain ⟨_, otherRegistered⟩ := sound.found author otherGate otherFound
    have sameGate : otherGate = gate := sound.gate_eq otherRegistered
      registered (otherSame.trans isRegistration.symm)
    subst sameGate
    have owner := single.finder author peer otherGate otherFound lookedUp otherFires fires
    subst owner
    apply unsent other mem
    rw [isRegistration]
    exact otherTells
  | _ => cases isSending

theorem once_step (change : Change setup.paths peer state op after)
    (registration : Nat) : outcomesSent registration after ≤ 1 := by
  rcases change.history with same | added
  · unfold outcomesSent
    rw [same]
    exact single.once registration
  have total : outcomesSent registration after =
      (op.events setup.paths state).countP (SignalEvent.sends registration) +
        outcomesSent registration state := by
    unfold outcomesSent
    rw [added, List.countP_append, List.countP_map]
    rfl
  have atMostOne := @countP_events_le_one setup op state registration
  by_cases none : (op.events setup.paths state).countP (SignalEvent.sends registration) = 0
  · have before := single.once registration
    omega
  obtain ⟨event, made, sending⟩ := List.countP_pos_iff.mp (Nat.pos_of_ne_zero none)
  cases event with
  | sent =>
    have before := not_sent_before sound single legit
      (source_of_mem made) (of_decide_eq_true sending)
    omega
  | _ => cases sending

theorem SingleFiring.step (meets : FoundOnce setup jobs peer op state)
    (change : Change setup.paths peer state op after) :
    SingleFiring setup jobs after where
  finder := finder_step single meets change
  once := once_step sound single legit change
  removed := single.removed.step legit meets.2.1 change
  sends := by
    intro author key mem
    rcases change.source mem with older | ⟨_, warning⟩
    · exact single.sends author key older
    · subst warning
      cases meets.2.2

omit legit single sound

/-- Single firing, as a property of runs. -/
def firing (setup : Deployment) (jobs : Nat → Command) :
    Concern setup jobs where
  condition := FoundOnce setup jobs
  invariant := SingleFiring setup jobs
  keeps := fun _ _ _ _ sound holds legit meets change =>
    holds.step sound legit meets change

/-- The wakeup of a command was carried out. -/
def CommandEnd.carriedOut (command : Command) (ending : CommandEnd) : Bool :=
  match command, ending with
  | .wakeup _ _, .answered (.fresh _) => true
  | .deliver _ _ _, .completed => true
  | _, _ => false

theorem Ended.finished {concern : Concern setup jobs}
    (ended : Ended concern peer ending state)
    (taken : ending.carriedOut (jobs peer) = true) :
    Finished setup jobs peer state := by
  unfold CommandEnd.carriedOut at taken
  split at taken
  · next request fresh signalId wakeup => exact ended.woken request fresh signalId wakeup rfl
  · rename_i key signalId envelope sends
    have delivered := ended.delivered (by rw [sends]; rfl)
    rcases delivered with ⟨_, finished, _⟩ | ⟨waits, _⟩
    · exact finished
    · cases waits
  · cases taken

variable (setup) (jobs) (definitions : List LiveDefinition)
  (subscriptions : List Subscription)

/-- In every run in which a gate is found by one wakeup that it fires for, what
is taken out is what was told and every send succeeds: no registration is told
twice, and it is told once when a wakeup that was carried out found it and
satisfies it, or when a wakeup took it out. -/
theorem outcome_sent_once (turns : List (Nat × Turn))
    (meets : (start setup jobs (initialState definitions
      subscriptions)).RunMeets (signalSystem setup.paths)
        (FoundOnce setup jobs) turns) :
    let final := (start setup jobs (initialState definitions
      subscriptions)).run (signalSystem setup.paths) turns
    (∀ registration, outcomesSent registration final.state ≤ 1) ∧
      (∀ peer gate ending, (peer, .lookedUp gate) ∈ final.state.history →
        Fires setup jobs peer gate →
          final.clients peer = .done (.ok ending) →
            ending.carriedOut (jobs peer) = true →
              outcomesSent gate.registration final.state = 1) ∧
      ∀ peer gate, (peer, .removed gate) ∈ final.state.history →
        outcomesSent gate.registration final.state = 1 := by
  intro final
  have atFirst : SingleFiring setup jobs (initialState definitions subscriptions) := by
    constructor
    · intro _ _ _ mem
      cases mem
    · intro _
      exact Nat.zero_le 1
    · intro _ _ mem
      cases mem
    · intro _ _ mem
      cases mem
  have safe := commands_safe definitions subscriptions (firing setup jobs) atFirst meets
  obtain ⟨⟨sound, single⟩, clientsSafe⟩ := safe
  have exactly : ∀ peer sending registration,
      (peer, .sent sending) ∈ final.state.history →
        sending.registration = some registration → outcomesSent registration final.state = 1 := by
    intro peer sending registration sent tells
    have atLeast : 0 < outcomesSent registration final.state :=
      List.countP_pos_iff.mpr ⟨(peer, .sent sending), sent, decide_eq_true tells⟩
    have atMost : outcomesSent registration final.state ≤ 1 := single.once registration
    omega
  refine ⟨single.once, ?_, ?_⟩
  · intro peer gate _ lookedUp fires current taken
    have clientSafe := clientsSafe peer
    rw [current] at clientSafe
    obtain ⟨_, isEnding, ended⟩ := clientSafe _ .refl ⟨sound, single⟩
    cases isEnding
    rcases ended.finished taken gate lookedUp fires with ⟨sending, sent, tells⟩ | warned
    · exact exactly peer sending gate.registration sent tells
    · exact absurd warned (single.sends peer gate.key)
  · intro peer gate removed
    obtain ⟨sending, sent, tells⟩ := single.removed peer gate removed
    exact exactly peer sending gate.registration sent tells

/-- One wakeup finds the gate and tells it, the next one comes too late. -/
theorem outcome_sent_once_approval :
    let final := approvalRun approvedDirectly (steps 0 1 ++ steps 1 10 ++ steps 2 10)
    (1, .removed approvalGate) ∈ final.state.history ∧ outcomesSent 0 final.state = 1 := by
  intro final
  have removed : (1, .removed approvalGate) ∈ final.state.history := by decide
  have once := outcome_sent_once sampleDeployment approvedDirectly [] []
    (steps 0 1 ++ steps 1 10 ++ steps 2 10) (by decide)
  exact ⟨removed, once.2.2 1 approvalGate removed⟩

/-- Two wakeups find the gate before either of them takes it out, and both tell
its run. -/
theorem outcome_sent_twice :
    let final := approvalRun approvedDirectly
      (steps 0 1 ++ steps 1 2 ++ steps 2 2 ++ steps 1 10 ++ steps 2 10)
    outcomesSent 0 final.state = 2 ∧ final.clients 1 = .done (.ok (.answered (.fresh 30))) ∧
      final.clients 2 = .done (.ok (.answered (.fresh 40))) := by
  exact ⟨by decide, rfl, rfl⟩

end Tickr.Signals
