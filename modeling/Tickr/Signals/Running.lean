import Tickr.Signals.Delivering

/-!
# Runs of the commands

Every command, from its first call to its last, makes legitimate calls only,
whatever the others do in between and whatever fails, and it ends with an answer
or an acknowledgement.
-/

namespace Tickr.Signals

open LogStream (Uuid)
open KeyValue Concurrent Discipline
open SafeExcept (andThen)

variable {setup : Deployment} {jobs : Nat → Command}
  {concern : Concern setup jobs} {peer : Nat} {state : SignalState}
  {signalId workflowInstanceId : Uuid}

/-- These captures are or were in the working set. -/
def Present (signalId : Uuid) (captures : List NamedEnvelope) (state : SignalState) : Prop :=
  ∀ capture ∈ captures, ∃ write ∈ state.workingSet,
    write.key = (signalId, capture.name) ∧ write.value.isSome = true

theorem entry_safe (failure : String) :
    SafeSignal concern peer
      (fun found later => (found.bind Entry.value).isSome = true →
        ∃ write ∈ later.workingSet, write.key = key ∧ write.value.isSome = true)
      (Program.request (.workingSet (.entry key)) (fun reply => reply.mapError fun _ => failure) :
        SignalM String (Option (Entry Envelope))) state := by
  apply request_safe
  · intro _ _ _
    trivial
  · intro before turn found _ _ _ answered isSome
    have read := @perform_entry _ _ _ key peer turn.delivery before.workingSet
    have isEntry := read.2 found (ok_of_mapError answered)
    subst isEntry
    obtain ⟨_, hit⟩ := Option.isSome_iff_exists.mp isSome
    obtain ⟨write, mem, isKey, valued⟩ := mem_of_lookup_eq_some hit
    simp only [perform]
    rw [read.1]
    refine ⟨write, mem, isKey, ?_⟩
    rw [valued]
    rfl
  · intro _ _ _ rely now isSome
    obtain ⟨write, mem, rest⟩ := now isSome
    exact ⟨write, (grows_of_rely rely).workingSet.subset mem, rest⟩

theorem rehydrate_safe (signalId : Uuid) (captures : List NamedEnvelope) :
    SafeSignal concern peer (fun _ later => Present signalId captures later)
      (rehydrate signalId captures) state := by
  induction captures generalizing state with
  | nil =>
    refine .pure ?_
    intro _ _ _ _ mem
    cases mem
  | cons capture rest ih =>
    -- Found or written, the first capture is still there after the rest.
    have taken : ∀ later,
        (∃ write ∈ (later : SignalState).workingSet,
          write.key = (signalId, capture.name) ∧ write.value.isSome = true) →
          SafeSignal concern peer (fun _ final => Present signalId (capture :: rest) final)
            (rehydrate signalId rest) later := by
      intro _ wrote
      apply ih.frame.weaken
      intro _ _ _ now
      refine List.forall_mem_cons.mpr ⟨?_, now.1⟩
      obtain ⟨write, isWrite, there⟩ := wrote
      exact ⟨write, (grows_of_evolves now.2).workingSet.subset isWrite, there⟩
    apply andThen (entry_safe _)
    intro found later _ now
    by_cases isSome : (found.bind Entry.value).isSome = true
    · rw [if_pos isSome]
      exact taken later (now isSome)
    rw [if_neg isSome]
    apply andThen (put_safe _ _ _)
    intro _ final _ wrote
    obtain ⟨write, isWrite, isKey, valued⟩ := wrote
    apply taken final
    refine ⟨write, isWrite, isKey, ?_⟩
    rw [valued]
    rfl

theorem rehydrateFrom_safe (signalId : Uuid) (row : Option CapturesRow) :
    SafeSignal concern peer
      (fun _ later => ∀ found, row = some found → Present signalId found.captures later)
      (rehydrateFrom signalId row) state := by
  cases row with
  | none =>
    refine .pure ?_
    intro _ _ _ _ hit
    cases hit
  | some row =>
    unfold rehydrateFrom
    dsimp only
    by_cases isEmpty : row.captures.isEmpty = true
    · rw [if_pos isEmpty]
      refine .pure ?_
      intro _ _ _ _ hit _ mem
      cases hit
      rw [List.isEmpty_iff.mp isEmpty] at mem
      cases mem
    · rw [if_neg isEmpty]
      apply andThen (request_free fun _ => by trivial)
      intro _ _ _ _
      apply (rehydrate_safe signalId row.captures).weaken
      intro _ _ _ there _ hit
      cases hit
      exact there

/-- After a link that succeeds, what was read from the archive is back. -/
theorem linkAndRehydrate_safe
    (received : (peer, .received workflowInstanceId signalId) ∈ state.history) :
    SafeSignal concern peer (fun _ later => Rehydrated peer signalId later)
      (linkAndRehydrate signalId workflowInstanceId) state := by
  apply andThen (request_free fun _ => by trivial)
  intro _ linked evolves _
  have stillReceived := (grows_of_evolves evolves).mem received
  have read : SafeSignal concern peer
      (fun row later => (peer, .read signalId row) ∈ later.history)
      (query "read signal_captures for rehydration" (.signalCaptures signalId)) linked := by
    apply request_safe
    · intro _ rely _
      exact ⟨workflowInstanceId, (grows_of_rely rely).mem stillReceived⟩
    · intro _ _ _ _ _ _ answered
      have delivered := deliver_of_ok (ok_of_mapError answered)
      have isRow := delivered.1
      simp only [perform]
      rw [delivered.2]
      cases isRow
      exact .head _
    · intro _ _ _ rely mem
      exact (grows_of_rely rely).mem mem
  apply andThen read
  intro row _ _ isRead
  apply (rehydrateFrom_safe signalId row).frame.weaken
  intro _ _ _ now
  refine .inr ⟨row, (grows_of_evolves now.2).mem isRead, ?_⟩
  intro found hit capture mem
  exact now.1 found hit capture mem

theorem noted_safe (legit : ∀ before, (signals concern).Rely peer state before →
      Legit setup jobs peer op before) (notes : ∀ turn before, (peer, event) ∈
      (perform setup.paths peer op turn before).2.history) :
    SafeFailing concern peer (fun _ later => (peer, event) ∈ later.history) faults
      (ask op : SignalM String op.Reply) state := by
  apply ask_safe
  · intro before rely _
    exact legit before rely
  · intro before turn _ _ _
    exact notes turn before
  · intro _ _ _ rely mem
    exact (grows_of_rely rely).mem mem

theorem dispatchTask_safe :
    SafeFailing concern peer Any (fun _ => False)
      (dispatchTask workflowInstanceId signalId) state := by
  have received : SafeFailing concern peer (fun _ later =>
        (peer, .received workflowInstanceId signalId) ∈ later.history)
      (fun _ => False)
      (ask (.receive workflowInstanceId signalId) : SignalM String Unit)
      state := noted_safe (fun _ _ => by trivial) fun _ _ => .head _
  have executes : ∀ later : SignalState,
      (peer, .received workflowInstanceId signalId) ∈ later.history →
        Rehydrated peer signalId later → SafeFailing concern peer Any (fun _ => False) (do
              ask (.execute workflowInstanceId signalId)
              pure .handled : SignalM String CommandEnd) later := by
    intro later got rehydrated
    have executed : SafeFailing concern peer Any (fun _ => False)
        (ask (.execute workflowInstanceId signalId) : SignalM String Unit)
        later := by
      apply ask_safe
      · intro _ rely _
        exact ⟨(grows_of_rely rely).mem got, rehydrated.grown (grows_of_rely rely)⟩
      · intro _ _ _ _ _
        trivial
      · intro _ _ _ _ _
        trivial
    apply SafeExcept.andPure executed
    intro _ _ _ _
    trivial
  apply andThen received
  intro _ _ _ got
  apply andThen (.attempt (linkAndRehydrate_safe got))
  intro linked after evolves now
  have stillReceived := (grows_of_evolves evolves).mem got
  cases linked with
  | ok => exact executes after stillReceived (now.1 _ rfl)
  | error =>
    apply (noted_safe (fun _ _ => by trivial) fun _ _ => .head _).andThen
    intro _ final finalEvolves warned
    exact executes final ((grows_of_evolves finalEvolves).mem stillReceived)
      (.inl ⟨workflowInstanceId, warned⟩)

def SignalSettled (signalId : Uuid) (state : SignalState) : Prop :=
  ∃ author workflowInstanceId, (author, .settled signalId workflowInstanceId) ∈ state.history

theorem SignalSettled.grown (ends : SignalSettled signalId before) (grows : Grows before after) :
    SignalSettled signalId after := by
  obtain ⟨author, run, mem⟩ := ends
  exact ⟨author, run, grows.mem mem⟩

theorem deleteCaptures_safe (captures : List NamedEnvelope)
    (ends : SignalSettled signalId state) :
    SafeSignal concern peer Any (deleteCaptures signalId captures) state := by
  induction captures generalizing state with
  | nil =>
    exact .done
  | cons capture _ ih =>
    have deleted : SafeSignal concern peer Any
        (.request (.workingSet (.delete (signalId, capture.name)))
          id : SignalM KvError Unit) state := by
      apply request_safe
      · intro _ rely _
        exact ends.grown (grows_of_rely rely)
      · intro _ _ _ _ _ _ _
        trivial
      · intro _ _ _ _ _
        trivial
    apply andThen (.attempt deleted)
    intro _ _ evolves _
    exact ih (ends.grown (grows_of_evolves evolves))

variable {opened : Bool}

theorem deleteRowCaptures_safe (ends : SignalSettled row.signalId state) :
    SafeSignal concern peer Any (deleteRowCaptures opened row) state := by
  unfold deleteRowCaptures
  split
  · exact deleteCaptures_safe row.captures ends
  · exact .done

variable {rows : List CapturesRow}

theorem cleanRows_safe (ends : ∀ row ∈ rows, SignalSettled row.signalId state) :
    SafeSignal concern peer Any (cleanRows opened rows) state := by
  induction rows generalizing state with
  | nil =>
    exact .done
  | cons row _ ih =>
    apply andThen (deleteRowCaptures_safe (ends row (.head _)))
    intro _ _ evolves _
    apply ih
    intro other mem
    exact (ends other (.tail row mem)).grown (grows_of_evolves evolves)

theorem openBucket_safe : SafeSignal concern peer Any openBucket state := by
  apply SafeExcept.andPure (.attempt (request_free fun _ => by trivial))
  intro _ _ _ _
  trivial

theorem onWorkflowTerminal_safe
    (terminal : (peer, .terminal workflowInstanceId) ∈ state.history) :
    SafeSignal concern peer Any (onWorkflowTerminal workflowInstanceId) state := by
  have marked : SafeSignal concern peer
      (fun rows later => ∀ row ∈ rows, SignalSettled row.signalId later)
      (query "settle Trigger-derived Event variables for terminal run"
        (.markTerminal workflowInstanceId)) state := by
    apply request_safe
    · intro _ rely _
      exact (grows_of_rely rely).mem terminal
    · intro _ _ _ _ _ _ answered _ mem
      have delivered := deliver_of_ok (ok_of_mapError answered)
      have isRows := delivered.1
      simp only [perform]
      rw [delivered.2]
      cases isRows
      obtain ⟨old, isOld, equal⟩ := List.mem_map.mp mem
      subst equal
      refine ⟨peer, workflowInstanceId, ?_⟩
      apply List.mem_append_left
      apply List.mem_map_of_mem
      exact List.mem_map.mpr ⟨old, isOld, rfl⟩
    · intro _ _ _ rely settled row mem
      exact (settled row mem).grown (grows_of_rely rely)
  apply andThen marked
  intro _ _ _ settled
  split
  · exact .done
  apply andThen openBucket_safe
  intro _ _ evolves _
  apply cleanRows_safe
  intro row mem
  exact (settled row mem).grown (grows_of_evolves evolves)

theorem runEnds_safe :
    SafeFailing concern peer Any (fun _ => False) (runEnds workflowInstanceId) state := by
  apply andThen (noted_safe (fun _ _ => by trivial) fun _ _ => .head _)
  intro _ _ _ terminal
  apply SafeExcept.andPure (.attempt (onWorkflowTerminal_safe terminal))
  intro _ _ _ _
  trivial

theorem sweepRows_safe (ends : ∀ row ∈ rows, SignalSettled row.signalId state) :
    SafeSignal concern peer Any (sweepRows opened cutoff rows) state := by
  induction rows generalizing state with
  | nil =>
    exact .done
  | cons row rest ih =>
    apply andThen (deleteRowCaptures_safe (ends row (.head _)))
    intro _ _ evolves _
    apply andThen (request_free fun _ => by trivial)
    intro _ after afterEvolves _
    have safe : SafeSignal concern peer Any (sweepRows opened cutoff rest) after := by
      apply ih
      intro other mem
      exact (ends other (.tail row mem)).grown
        ((grows_of_evolves evolves).trans (grows_of_evolves afterEvolves))
    apply SafeExcept.andPure safe
    intro _ _ _ _
    trivial

theorem sweepExpired_safe (grace : Int) :
    SafeSignal concern peer Any (sweepExpired grace) state := by
  apply andThen (ask_free fun _ => by trivial)
  intro now clocked _ _
  have listed : SafeSignal concern peer
      (fun rows later => ∀ row ∈ rows, SignalSettled row.signalId later)
      (query "list expired Trigger-derived Event variables"
        (.expiredCaptures (now - grace))) clocked := by
    apply request_safe
    · intro _ _ _
      trivial
    · intro _ _ _ _ holds _ answered row mem
      have delivered := deliver_of_ok (ok_of_mapError answered)
      have isRows := delivered.1
      simp only [perform]
      rw [delivered.2]
      cases isRows
      obtain ⟨isRow, isExpired⟩ := List.mem_filter.mp mem
      obtain ⟨author, run, _, settles⟩ :=
        holds.1.settledRows row isRow (isSome_of_isExpired isExpired)
      exact ⟨author, run, settles⟩
    · intro _ _ _ rely settled row mem
      exact (settled row mem).grown (grows_of_rely rely)
  apply andThen listed
  intro _ _ _ settled
  split
  · exact .done
  apply andThen openBucket_safe
  intro _ _ evolves _
  apply sweepRows_safe
  intro row mem
  exact (settled row mem).grown (grows_of_evolves evolves)

theorem dispatchWakeup_safe
    (isWakeup : jobs peer = .wakeup request fresh) (idle : Unstarted peer state) :
    SafeFailing concern peer
      (fun ending later => ∀ signalId, ending = .answered (.fresh signalId) →
        Finished setup jobs peer later)
      (fun _ => False) (dispatchWakeup setup request fresh) state := by
  have fan : (jobs peer).fanOut setup =
      some (request.fanOut setup.paths setup.http none fresh) := by
    rw [isWakeup]
    rfl
  have claim : (jobs peer).cacheClaim =
      request.idempotencyKey.map fun key => (key, ⟨fresh, request.hash⟩) := by
    rw [isWakeup]
    rfl
  have justified : ∀ answer later, Justified jobs peer answer (later : SignalState) := by
    intro _ _
    simp only [Justified, isWakeup]
  have responds : ∀ answer later, (∀ signalId, answer ≠ .fresh signalId) →
      SafeFailing concern peer (fun ending final =>
          ∀ signalId, ending = .answered (.fresh signalId) →
            Finished setup jobs peer final)
        (fun _ => False) (respond answer) later := by
    intro answer later other
    apply (respond_safe (justified answer later)).weaken
    intro _ _ _ isEnding signalId isFresh
    rw [isEnding] at isFresh
    cases isFresh
    exact absurd rfl (other signalId)
  apply andThen (.attempt (processWakeup_safe fan (.inr claim) idle))
  intro processed later _ now
  cases processed with
  | error => exact responds _ later fun _ isFresh => by cases isFresh
  | ok outcome =>
    cases outcome with
    | deduplicated | conflict => exact responds _ later fun _ isFresh => by cases isFresh
    | fresh signalId =>
      have silent : (respond (.fresh signalId)).run.All SignalOp.Silent := by
        exact (Program.all_request trivial).andDone
      apply (finished_retained (respond_safe (justified (.fresh signalId) later)) silent
        (now.1 _ rfl)).weaken
      intro _ _ _ reachedFinal _ _
      exact reachedFinal.2

/-- What holds when the command of a client has ended. -/
structure Ended (concern : Concern setup jobs) (peer : Nat)
    (ending : CommandEnd) (state : SignalState) : Prop where
  woken : ∀ request fresh signalId,
    jobs peer = .wakeup request fresh →
      ending = .answered (.fresh signalId) → Finished setup jobs peer state
  delivered : (jobs peer).isDelivery = true → Delivered concern peer ending state

theorem ended_of_other (notWakeup : ∀ request fresh, jobs peer ≠ .wakeup request fresh)
    (delivery : (jobs peer).isDelivery = false) :
    Ended concern peer ending state := by
  constructor
  · intro request fresh _ isWakeup
    exact absurd isWakeup (notWakeup request fresh)
  · intro isDelivery
    rw [delivery] at isDelivery
    cases isDelivery

/-- Every command is safe from where it has done nothing yet. -/
theorem program_safe (concern : Concern setup jobs)
    (idle : ∀ event, (peer, event) ∉ state.history) :
    SafeFailing concern peer (Ended concern peer) (fun _ => False)
      ((jobs peer).program setup) state := by
  have unstarted : Unstarted peer state :=
    ⟨fun gate => idle (.lookedUp gate), fun sending => idle (.sent sending)⟩
  cases command : jobs peer with
  | wakeup =>
    apply (dispatchWakeup_safe command unstarted).weaken
    intro _ _ _ ended
    refine ⟨fun _ _ signalId _ isFresh => ended signalId isFresh, ?_⟩
    intro sends
    rw [command] at sends
    cases sends
  | deliver =>
    apply (processDelivery_safe command unstarted).weaken
    intro _ _ _ delivered
    refine ⟨?_, fun _ => delivered⟩
    intro _ _ _ isWakeup
    rw [command] at isWakeup
    cases isWakeup
  | trigger =>
    apply (dispatchTrigger_safe command).weaken
    intro _ _ _ _
    exact ended_of_other (by simp [command]) (by rw [command]; rfl)
  | cancel =>
    apply (dispatchCancel_safe command).weaken
    intro _ _ _ _
    exact ended_of_other (by simp [command]) (by rw [command]; rfl)
  | dispatchTask =>
    apply dispatchTask_safe.weaken
    intro _ _ _ _
    exact ended_of_other (by simp [command]) (by rw [command]; rfl)
  | runEnds =>
    apply runEnds_safe.weaken
    intro _ _ _ _
    exact ended_of_other (by simp [command]) (by rw [command]; rfl)
  | sweep grace =>
    apply SafeExcept.andPure (.attempt (sweepExpired_safe grace))
    intro _ _ _ _
    exact ended_of_other (by simp [command]) (by rw [command]; rfl)
  | dispatchPrecondition =>
    apply SafeExcept.andPure (ask_free fun _ => by trivial)
    intro _ _ _ _
    exact ended_of_other (by simp [command]) (by rw [command]; rfl)
  | cancelPrecondition =>
    apply SafeExcept.andPure (ask_free fun _ => by trivial)
    intro _ _ _ _
    exact ended_of_other (by simp [command]) (by rw [command]; rfl)
  | signalApplied =>
    apply SafeExcept.andPure (.attempt (request_free fun _ => by trivial))
    intro _ _ _ _
    exact ended_of_other (by simp [command]) (by rw [command]; rfl)
  | idle =>
    refine .pure ?_
    intro _ _ _
    exact ended_of_other (by simp [command]) (by rw [command]; rfl)

/-- The state before anything came in: workflows and subscriptions there may
be, but no signal has passed. -/
def initialState (definitions : List LiveDefinition)
    (subscriptions : List Subscription) : SignalState where
  cache := []
  tables := ⟨definitions, [], [], []⟩
  workingSet := []
  scopes := []
  scopeClaims := []
  gates := GateIndex.new
  subscriptions := subscriptions
  history := []

variable (definitions : List LiveDefinition) (subscriptions : List Subscription)

theorem sound_initialState :
    Sound setup jobs (initialState definitions subscriptions) where
  settledRows := fun _ mem => by cases mem
  numbered := fun _ _ mem => by cases mem
  indexed := fun _ _ found => by cases found
  found := fun _ _ mem => by cases mem
  relayed := fun _ _ mem => by cases mem
  addressed := fun _ _ _ mem => by cases mem
  supplied := fun _ _ mem => by cases mem
  scopesWritten := fun _ mem => by cases mem
  claimsWritten := fun _ mem => by cases mem

/-- What is known of the result of a client's command. -/
def Outcome (concern : Concern setup jobs) (peer : Nat)
    (result : Except String CommandEnd) (state : SignalState) : Prop :=
  ∃ ending, result = .ok ending ∧ Ended concern peer ending state

theorem commands_safe (concern : Concern setup jobs)
    (holds : concern.invariant (initialState definitions subscriptions))
    (meets : (start setup jobs (initialState definitions
      subscriptions)).RunMeets (signalSystem setup.paths) concern.condition turns) :
    AllSafe (signalSystem setup.paths) (signals concern) (Outcome concern)
      ((start setup jobs (initialState definitions
        subscriptions)).run (signalSystem setup.paths) turns) := by
  have inv : (signals concern).invariant (initialState definitions subscriptions) :=
    ⟨sound_initialState definitions subscriptions, holds⟩
  have safe : AllSafe (signalSystem setup.paths) (signals concern) (Outcome concern)
      (start setup jobs (initialState definitions subscriptions)) := by
    refine ⟨inv, ?_⟩
    intro peer
    have clientSafe : SafeFailing concern peer (Ended concern peer)
        (fun _ => False) ((jobs peer).program setup)
        (initialState definitions subscriptions) := by
      apply program_safe concern
      intro _ mem
      cases mem
    apply (clientSafe inv).weaken
    intro result _ _ now
    cases result with
    | ok ending => exact ⟨ending, rfl, now.1 ending rfl⟩
    | error fault => exact absurd (now.2 fault rfl) id
  exact (safe.run meets).1

/-- A path names a member of an object, and any path finds the elements of an
array. -/
def samplePaths : JsonPaths where
  parse := .ok
  query := fun path payload =>
    match payload with
    | .object members => (members.filter fun member => member.1 = path).map Prod.snd
    | .array items => items
    | _ => []

def sampleDeployment : Deployment := ⟨samplePaths, fun workflowId _ => workflowId, .nats, .nats⟩

def appliedTurn : Turn := ⟨.applied, 0, false, .acquired⟩

def refusedTurn : Turn := ⟨.refused, 0, false, .acquired⟩

/-- That many calls of one client, all of which get through. -/
def steps (peer count : Nat) : List (Nat × Turn) := List.replicate count (peer, appliedTurn)

end Tickr.Signals
