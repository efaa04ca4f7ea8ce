import Tickr.Signals.Translating

/-!
# Triggers and cancellations over HTTP

Both claim the cache, do their work, send over the relay and answer what they did
or what the cache told them.
-/

namespace Tickr.Signals

open LogStream (Uuid)
open KeyValue Concurrent Discipline
open SafeExcept (andThen)

variable {setup : Deployment} {jobs : Nat → Command}
  {concern : Concern setup jobs} {peer : Nat} {state : SignalState}

theorem justified_failed (status : Nat) (message : String) :
    Justified jobs peer (.failed status message) state := by
  unfold Justified
  cases jobs peer <;> trivial

theorem justified_conflict (first : Uuid) (hash your : Digest) :
    Justified jobs peer (.conflict first hash your) state := by
  unfold Justified
  cases jobs peer <;> trivial

theorem TriggerError.justified (error : TriggerError) :
    Justified jobs peer error.answer state := by
  cases error <;> exact justified_failed _ _

theorem CancelError.justified (error : CancelError) :
    Justified jobs peer error.answer state := by
  cases error <;> exact justified_failed _ _

theorem respond_safe {answer : Answer} (fair : Justified jobs peer answer state) :
    SafeFailing concern peer (fun ending _ => ending = .answered answer)
      faults (respond answer) state := by
  have responded : SafeFailing concern peer Any faults (ask (.respond answer)) state := by
    apply ask_safe
    · intro _ rely _
      exact fair.grown (grows_of_rely rely)
    · intro _ _ _ _ _
      trivial
    · intro _ _ _ _ _
      trivial
  apply SafeExcept.andPure responded
  intro _ _ _ _
  rfl

variable {workingSet : WorkingSet} {request : TriggerRequest}

/-- What a processed trigger has brought about. -/
def TriggerOutcome.Reached (setup : Deployment)
    (jobs : Nat → Command) (peer : Nat) (request : TriggerRequest)
    (signalId : Uuid) (state : SignalState) : TriggerOutcome → Prop
  | .fresh sending =>
    Supplied setup jobs peer sending state ∧ sending.registration = none ∧
      sending.item = .signal (request.signal signalId)
  | .deduplicated original => Cached jobs peer original state
  | .conflict _ _ _ => True

theorem backfillPendingScheduleLinkage_safe (request : TriggerRequest) (signalId : Uuid) :
    SafeSignal concern peer Any
      (backfillPendingScheduleLinkage setup request signalId) state := by
  unfold backfillPendingScheduleLinkage
  split
  · exact .done
  apply andThen (.attempt (request_free fun _ => by trivial))
  intro linked _ _ _
  cases linked with
  | ok =>
    exact .done
  | error => exact ask_free fun _ => by trivial

variable (isWorkingSet : workingSet = (jobs peer).workingSet setup)
include isWorkingSet

theorem persistTrigger_safe :
    SafeSignal concern peer
      (fun outcome later => outcome.Reached setup jobs peer request signalId later)
      (persistTrigger setup workingSet request definition signalId)
      state := by
  apply andThen (ask_free fun _ => by trivial)
  intro now clocked _ _
  have checked : SafeSignal concern peer
      (fun captures _ => extractCaptures setup.paths request.payload
        signalId request.source now definition.captures = .ok captures)
      (Program.check ((extractCaptures setup.paths request.payload
        signalId request.source now definition.captures).mapError
          TriggerError.capturesExtractionFailed)) clocked := by
    refine .check ?_
    intro _ taken _ _ _
    exact ok_of_mapError taken
  apply andThen checked
  intro captures _ _ taken
  apply andThen (request_free fun _ => by trivial)
  intro _ _ _ _
  apply andThen (backfillPendingScheduleLinkage_safe request signalId)
  intro _ linked _ _
  have written : SafeSignal concern peer
      (fun _ later => workingSet = .absent ∨ Stored workingSet signalId captures later)
      (Program.mapError
        (if workingSet = .nats then TriggerError.natsWrite
          else .scopeWrite)
        (writeCaptures workingSet signalId signalId captures)) linked :=
    SafeExcept.mapError (writeCaptures_safe workingSet signalId signalId captures)
      fun _ _ => trivial
  apply SafeExcept.andPure written
  intro _ _ _ kept
  refine ⟨?_, rfl, rfl⟩
  rcases kept with isAbsent | kept
  · rw [isWorkingSet] at isAbsent
    exact .inr (.inr isAbsent)
  · exact .inl (kept.written taken)

theorem processTrigger_safe (claim : kept.isSome = true ∨ (jobs peer).cacheClaim =
      request.idempotencyKey.map fun key =>
        (key, ⟨fresh, ⟨request.hashPayload⟩⟩)) :
    SafeSignal concern peer
      (fun outcome later => outcome.Reached setup jobs peer request
        (kept.getD fresh) later) (processTrigger setup workingSet request kept fresh)
      state := by
  apply andThen (request_free fun _ => by trivial)
  intro found _ _ _
  cases found with
  | none => exact SafeTry.throw
  | some definition =>
    dsimp only
    by_cases refused : request.inputs.isSome ∧ definition.captures = []
    · rw [if_pos refused]
      exact SafeTry.throw
    rw [if_neg refused]
    apply andThen (.mapError (consultCache_safe claim) fun _ _ => trivial)
    intro outcome _ _ now
    cases outcome with
    | fresh => exact persistTrigger_safe isWorkingSet
    | deduplicatedSameHash first =>
      refine .pure ?_
      intro _ rely _
      exact (now first rfl).grown (grows_of_rely rely)
    | conflictDifferentHash =>
      exact .pure fun _ _ _ => trivial

omit isWorkingSet

/-- The relay has a message whose sending was answered. -/
theorem relay_safe {ε : Type} {interpret : Except Unreachable Unit → Except ε Unit}
    (isOk : ∀ reply, interpret reply = .ok () → reply = .ok ())
    (unaddressed : sending.registration = none)
    (supplied : Supplied setup jobs peer sending state) :
    SafeSignal concern peer (fun _ later => (peer, .relayed sending) ∈ later.history)
      (Program.request (.send sending) interpret : SignalM ε Unit) state := by
  apply request_safe
  · intro _ rely _
    exact ⟨.inl unaddressed, supplied.grown (grows_of_rely rely)⟩
  · intro _ _ _ _ _ _ answered
    have accepted := accept_of_ok (isOk _ answered)
    simp only [perform]
    rw [accepted]
    exact .head _
  · intro _ _ _ rely mem
    exact (grows_of_rely rely).mem mem

theorem dispatchTrigger_safe {fresh : Uuid} (isTrigger : jobs peer = .trigger trigger fresh) :
    SafeFailing concern peer Any (fun _ => False)
      (dispatchTrigger setup trigger fresh) state := by
  have claim : (jobs peer).cacheClaim = trigger.request.idempotencyKey.map fun key =>
        (key, ⟨fresh, ⟨trigger.request.hashPayload⟩⟩) := by
    rw [isTrigger]
    rfl
  have isWorkingSet : setup.http = (jobs peer).workingSet setup := by
    rw [isTrigger]
    rfl
  apply andThen (.attempt (processTrigger_safe isWorkingSet (.inr claim)))
  intro processed later _ now
  cases processed with
  | error error => exact (respond_safe error.justified).weaken fun _ _ _ _ => trivial
  | ok outcome =>
    have outcomeReached := now.1 outcome rfl
    cases outcome with
    | deduplicated original =>
      have justified : Justified jobs peer (.deduplicated original) later := by
        simp only [Justified, isTrigger]
        exact outcomeReached
      exact (respond_safe justified).weaken fun _ _ _ _ => trivial
    | conflict =>
      exact (respond_safe (justified_conflict _ _ _)).weaken fun _ _ _ _ => trivial
    | fresh sending =>
      obtain ⟨supplied, unaddressed, item⟩ := outcomeReached
      apply andThen (.attempt (relay_safe (fun _ => id) unaddressed supplied))
      intro sent final _ relayed
      cases sent with
      | ok =>
        have justified : Justified jobs peer (.fresh fresh) final := by
          simp only [Justified, isTrigger]
          exact ⟨trivial, sending, relayed.1 _ rfl, item⟩
        exact (respond_safe justified).weaken fun _ _ _ _ => trivial
      | error => exact (respond_safe (justified_failed _ _)).weaken fun _ _ _ _ => trivial

variable {request : CancelRequest} {fresh : Uuid} {reads : Nat}

theorem awaitByTagMaterialization_safe (signalId : Uuid) (reads : Nat) :
    SafeSignal concern peer Any (awaitByTagMaterialization signalId reads) state := by
  induction reads generalizing state with
  | zero => exact .throw
  | succ _ ih =>
    have counted : SafeSignal concern peer Any (materializedCount signalId) state := by
      apply andThen (request_free fun _ => by trivial)
      intro found _ _ _
      cases found with
      | none =>
        exact .done
      | some =>
        dsimp only
        split
        · exact .done
        · split
          · exact SafeTry.throw
          · exact .done
    apply andThen counted
    intro found _ _ _
    cases found with
    | some =>
      exact .done
    | none =>
      apply andThen (ask_free fun _ => by trivial)
      intro _ _ _ _
      split
      · exact SafeTry.throw
      · exact ih

theorem sendCancel_safe (request : CancelRequest) (signalId : Uuid) :
    SafeSignal concern peer (fun _ later =>
        (peer, .relayed (request.sending signalId)) ∈ later.history)
      (sendCancel request signalId) state := by
  apply relay_safe (fun _ => ok_of_mapError) rfl
  left
  intro _ mem
  cases mem

theorem processPreparedCancel_safe (isCancel : jobs peer = .cancel request fresh reads) :
    SafeSignal concern peer (fun answer later => Justified jobs peer answer later)
      (processPreparedCancel request fresh reads) state := by
  have byTag : ∀ matched later,
      (peer, .relayed (request.sending fresh)) ∈ (later : SignalState).history →
        Justified jobs peer (.cancelledByTag fresh matched) later := by
    intro _ _ relayed
    simp only [Justified, isCancel]
    exact ⟨trivial, relayed⟩
  have single : ∀ later : SignalState,
      (peer, .relayed (request.sending fresh)) ∈ later.history →
        Justified jobs peer (.cancelledInstance fresh) later := by
    intro _ relayed
    simp only [Justified, isCancel]
    exact ⟨trivial, relayed⟩
  unfold processPreparedCancel
  split
  · apply andThen
    · apply andThen
      · exact request_free fun _ => by trivial
      intro inserted later _ _
      have checked : SafeSignal concern peer Any
          (if inserted then pure () else throw .durableSignalState :
            SignalM CancelError Unit) later := by
        split
        · exact .done
        · exact .throw
      exact checked
    · intro _ _ _ _
      apply andThen (sendCancel_safe request fresh)
      intro _ _ _ relayed
      apply SafeExcept.andPure (awaitByTagMaterialization_safe fresh reads).frame
      intro matched final _ now
      exact byTag matched final ((grows_of_evolves now.2).mem relayed)
  · apply andThen (sendCancel_safe request fresh)
    intro _ _ _ relayed
    apply andThen (.attempt (request_free fun _ => by trivial))
    intro audited _ evolves _
    have stillRelayed := (grows_of_evolves evolves).mem relayed
    cases audited with
    | ok =>
      refine .pure ?_
      intro final rely _
      exact single final ((grows_of_rely rely).mem stillRelayed)
    | error =>
      apply SafeExcept.andPure (ask_free fun _ => by trivial).frame
      intro _ final _ now
      exact single final ((grows_of_evolves now.2).mem stillRelayed)

theorem dispatchCancel_safe (isCancel : jobs peer = .cancel request fresh reads) :
    SafeFailing concern peer Any (fun _ => False)
      (dispatchCancel setup request fresh reads) state := by
  have claim : (jobs peer).cacheClaim =
      request.idempotencyKey.map fun key => (key, ⟨fresh, request.hash⟩) := by
    rw [isCancel]
    rfl
  have processes : SafeSignal concern peer
      (fun answer later => Justified jobs peer answer later)
      (processCancel setup.http request fresh reads) state := by
    apply andThen (.mapError (consultCache_safe (.inr claim)) fun _ _ => trivial)
    intro outcome _ _ now
    cases outcome with
    | fresh => exact processPreparedCancel_safe isCancel
    | deduplicatedSameHash first =>
      refine .pure ?_
      intro _ rely _
      simp only [Justified, isCancel]
      exact (now first rfl).grown (grows_of_rely rely)
    | conflictDifferentHash =>
      refine .pure ?_
      intro _ _ _
      exact justified_conflict _ _ _
  apply andThen (.attempt processes)
  intro processed _ _ now
  cases processed with
  | ok answer => exact (respond_safe (now.1 answer rfl)).weaken fun _ _ _ _ => trivial
  | error error => exact (respond_safe error.justified).weaken fun _ _ _ _ => trivial

end Tickr.Signals
