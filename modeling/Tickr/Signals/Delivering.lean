import Tickr.Signals.Handling

/-!
# Delivered events

A delivery ends completed or left for later.  When it is completed, every message
that its sender took is among the recorded intents; when it is left for later,
nothing has been done since.
-/

namespace Tickr.Signals

open LogStream (Uuid)
open KeyValue Concurrent Discipline
open SafeExcept (andThen)

variable {setup : Deployment} {jobs : Nat → Command}
  {concern : Concern setup jobs} {peer : Nat} {state : SignalState}
  {faults : String → Prop} {envelope : IngressEnvelope}

/-- Every message that the client's sender keeps is among recorded intents. -/
def AllRecorded (peer : Nat) (state : SignalState) : Prop :=
  ∀ sending, (peer, .sent sending) ∈ state.history →
    ∃ signalId intents, (peer, .recorded signalId intents) ∈ state.history ∧ sending ∈ intents

/-- The delivery was left for later in a state in which this was allowed, and
nothing came to the client's own past since. -/
def LeftPending (concern : Concern setup jobs) (peer : Nat)
    (state : SignalState) : Prop :=
  ∃ before, concern.condition peer .leavePending before ∧
    Grows before state ∧ ∀ event, (peer, event) ∈ state.history → (peer, event) ∈ before.history

variable {before after : SignalState}

theorem AllRecorded.of_rely (noted : AllRecorded peer before)
    (rely : (signals concern).Rely peer before after) :
    AllRecorded peer after := by
  intro sending sent
  obtain ⟨signalId, intents, records, mem⟩ := noted sending (own_of_rely rely sent)
  exact ⟨signalId, intents, (grows_of_rely rely).mem records, mem⟩

theorem Unstarted.allRecorded (idle : Unstarted peer state) :
    AllRecorded peer state := fun sending sent => absurd sent (idle.2 sending)

theorem LeftPending.of_rely (left : LeftPending concern peer before)
    (rely : (signals concern).Rely peer before after) :
    LeftPending concern peer after := by
  obtain ⟨prior, allowed, grows, own⟩ := left
  refine ⟨prior, allowed, grows.trans (grows_of_rely rely), ?_⟩
  intro event mem
  exact own event (own_of_rely rely mem)

theorem allRecorded_retained {ε α : Type} {post : α → SignalState → Prop}
    {faults : ε → Prop} {program : SignalM ε α}
    (safe : SafeFailing concern peer post faults program state)
    (calls : program.run.All SignalOp.Silent) (noted : AllRecorded peer state) :
    SafeFailing concern peer (fun value later => post value later ∧ AllRecorded peer later)
      faults program state := by
  apply SafeExcept.retains safe calls
  · intro _ before after ne promised taken sending sent
    obtain ⟨signalId, intents, records, mem⟩ :=
      taken sending (own_of_guarantee ne promised sent)
    have grows : Grows before after := by
      obtain ⟨_, _, _, change⟩ := promised
      exact change.grows
    exact ⟨signalId, intents, grows.mem records, mem⟩
  · intro op turn before silent taken sending sent
    have change := @perform_change setup.paths peer before op turn
    obtain ⟨signalId, intents, records, mem⟩ :=
      taken sending (not_sent_of_silent silent change sent)
    exact ⟨signalId, intents, change.grows.mem records, mem⟩
  · exact noted

def Delivered (concern : Concern setup jobs) (peer : Nat)
    (ending : CommandEnd) (state : SignalState) : Prop :=
  ending = .completed ∧ Finished setup jobs peer state ∧ AllRecorded peer state ∨
    ending = .pending ∧ LeftPending concern peer state

/-- How a delivery ends whose client is done with its gates and messages. -/
def Settles (concern : Concern setup jobs) (peer : Nat)
    (ending : CommandEnd) (state : SignalState) : Prop :=
  ending = .completed ∨ ending = .pending ∧ LeftPending concern peer state

theorem Settles.delivered (settles : Settles concern peer ending state)
    (ended : Finished setup jobs peer state) (noted : AllRecorded peer state) :
    Delivered concern peer ending state := by
  rcases settles with isCompleted | left
  · exact .inl ⟨isCompleted, ended, noted⟩
  · exact .inr left

variable {history : List (Nat × SignalEvent)}

theorem mem_collectedBy {sending : Sending} :
    sending ∈ collectedBy peer history ↔ (peer, .sent sending) ∈ history := by
  unfold collectedBy
  rw [List.mem_reverse, List.mem_filterMap]
  constructor
  · intro ⟨_, mem, isSent⟩
    split at isSent
    · rename_i author sent
      by_cases same : author = peer
      · rw [if_pos same] at isSent
        cases isSent
        subst same
        exact mem
      · rw [if_neg same] at isSent
        cases isSent
    · cases isSent
  · intro mem
    refine ⟨(peer, .sent sending), mem, ?_⟩
    simp

theorem recorded_of_intentsOf {signalId : Uuid}
    (found : intentsOf signalId history = some intents) :
    ∃ author, (author, .recorded signalId intents) ∈ history := by
  induction history with
  | nil => cases found
  | cons event older ih =>
    obtain ⟨author, happened⟩ := event
    by_cases records : happened = .recorded signalId intents
    · subst records
      exact ⟨author, .head _⟩
    have olderFound : intentsOf signalId older = some intents := by
      cases happened with
      | recorded recorded =>
        by_cases same : recorded = signalId
        · subst same
          simp only [intentsOf, if_pos, Option.some.injEq] at found
          subst found
          exact absurd rfl records
        · simp only [intentsOf, if_neg same] at found
          exact found
      | _ => exact found
    obtain ⟨recorder, mem⟩ := ih olderFound
    exact ⟨recorder, .tail _ mem⟩

theorem leavePending_pending :
    SafeFailing concern peer (fun ending later =>
        ending = .pending ∧ LeftPending concern peer later)
      faults leavePending state := by
  have left : SafeFailing concern peer (fun _ later => LeftPending concern peer later) faults
      (ask .leavePending) state := by
    apply ask_safe
    · intro _ _ _
      trivial
    · intro before _ _ _ meets
      exact ⟨before, meets, .refl before, fun _ mem => mem⟩
    · intro _ _ _ rely leftBefore
      exact leftBefore.of_rely rely
  apply SafeExcept.andPure left
  intro _ _ _ leftFinal
  exact ⟨rfl, leftFinal⟩

theorem leavePending_safe :
    SafeFailing concern peer (Settles concern peer) faults leavePending
      state := leavePending_pending.weaken fun _ _ _ left => .inr left

theorem completeDelivery_safe :
    SafeFailing concern peer (Settles concern peer) faults completeDelivery state := by
  apply SafeExcept.andPure (ask_free fun _ => by trivial)
  intro _ _ _ _
  exact .inl rfl

theorem leavePending_silent : leavePending.run.All SignalOp.Silent :=
  (Program.all_request trivial).andDone

theorem completeDelivery_silent : completeDelivery.run.All SignalOp.Silent :=
  (Program.all_request trivial).andDone

theorem forwardReadyIntents_silent (signalId : Uuid) (intents : List Sending) :
    (forwardReadyIntents signalId intents).run.All SignalOp.Silent := by
  induction intents with
  | nil =>
    apply Program.All.andThen (Program.all_request trivial).attempt
    intro marked
    cases marked with
    | ok => exact completeDelivery_silent
    | error => exact leavePending_silent
  | cons _ _ ih =>
    apply Program.All.andThen (Program.all_request trivial).attempt
    intro sent
    cases sent with
    | ok => exact ih
    | error => exact leavePending_silent

theorem forwardReadyIntents_safe {signalId : Uuid}
    (recorded : ∀ sending ∈ intents, ∃ author signalId held,
      (author, .recorded signalId held) ∈ state.history ∧ sending ∈ held) :
    SafeFailing concern peer (Settles concern peer) faults
      (forwardReadyIntents signalId intents) state := by
  induction intents generalizing state with
  | nil =>
    apply andThen (.attempt (request_free fun _ => by trivial))
    intro marked _ _ _
    cases marked with
    | ok => exact completeDelivery_safe
    | error => exact leavePending_safe
  | cons sending _ ih =>
    have forwarded : SafeSignal concern peer Any
        (.request (.forward sending) id : SignalM Unreachable Unit) state := by
      apply request_safe
      · intro _ rely _
        obtain ⟨author, operation, held, records, mem⟩ :=
          recorded sending (.head _)
        exact ⟨author, operation, held, (grows_of_rely rely).mem records, mem⟩
      · intro _ _ _ _ _ _ _
        trivial
      · intro _ _ _ _ _
        trivial
    apply andThen (.attempt forwarded)
    intro sent _ evolves _
    cases sent with
    | error => exact leavePending_safe
    | ok =>
      apply ih
      intro other mem
      obtain ⟨author, operation, held, records, kept⟩ :=
        recorded other (.tail sending mem)
      exact ⟨author, operation, held, (grows_of_evolves evolves).mem records, kept⟩

theorem rejectDelivery_silent (signalId : Uuid) (reason : String) :
    (rejectDelivery signalId reason).run.All SignalOp.Silent := by
  apply Program.All.andThen (Program.all_request trivial).attempt
  intro denied
  cases denied with
  | ok => exact completeDelivery_silent
  | error => exact leavePending_silent

theorem rejectDelivery_safe (signalId : Uuid) (reason : String) :
    SafeFailing concern peer (Settles concern peer) faults
      (rejectDelivery signalId reason) state := by
  apply andThen (.attempt (request_free fun _ => by trivial))
  intro denied _ _ _
  cases denied with
  | ok => exact completeDelivery_safe
  | error => exact leavePending_safe

theorem abandonDelivery_safe (signalId : Uuid) :
    SafeFailing concern peer (fun ending later =>
        ending = .pending ∧ LeftPending concern peer later)
      faults (abandonDelivery signalId) state := by
  apply andThen (.attempt (request_free fun _ => by trivial))
  intro _ _ _ _
  exact leavePending_pending

variable {signalId : Uuid} {intents : List Sending}

/-- Effects are recorded before anything of them is forwarded; a delivery that
completes this way has recorded all it sent. -/
theorem persistEffects_safe
    (supplied : ∀ sending ∈ intents, Supplied setup jobs peer sending state)
    (finished : Finished setup jobs peer state)
    (collected : ∀ sending, (peer, .sent sending) ∈ state.history → sending ∈ intents) :
    SafeFailing concern peer (Delivered concern peer) faults
      (persistEffects signalId intents) state := by
  have persisted : SafeSignal concern peer
      (fun stored later => stored = intents ∧ (peer, .recorded signalId intents) ∈ later.history ∧
        AllRecorded peer later)
      (.request (.persistEffects signalId intents) id :
        SignalM Unreachable (List Sending)) state := by
    apply request_safe
    · intro _ rely _ sending mem
      exact (supplied sending mem).grown (grows_of_rely rely)
    · intro before turn stored rely _ _ answered
      have delivered := deliver_of_ok answered
      have stays : stored = intents := by
        cases delivered.1
        rfl
      have change := @perform_change setup.paths peer before
        (.persistEffects signalId intents) turn
      have recorded : (peer, .recorded signalId intents) ∈
          (perform setup.paths peer (.persistEffects signalId intents)
            turn before).2.history := by
        simp only [perform]
        rw [delivered.2]
        exact .head _
      refine ⟨stays, recorded, ?_⟩
      intro sending sent
      have silent : SignalOp.Silent (.persistEffects signalId intents) := trivial
      have prior := not_sent_of_silent silent change sent
      exact ⟨signalId, intents, recorded, collected sending (own_of_rely rely prior)⟩
    · intro _ _ _ rely now
      exact ⟨now.1, (grows_of_rely rely).mem now.2.1, now.2.2.of_rely rely⟩
  apply andThen
    (finished_retained (.attempt persisted)
      (Program.all_request (by trivial)).attempt finished)
  intro answered later _ now
  cases answered with
  | error =>
    apply leavePending_pending.weaken
    intro _ _ _ left
    exact .inr left
  | ok stored =>
    obtain ⟨stays, records, allRecorded⟩ := now.1.1 stored rfl
    subst stays
    have forwarded : SafeFailing concern peer (Settles concern peer)
        faults (forwardReadyIntents signalId stored) later := by
      apply forwardReadyIntents_safe
      intro _ mem
      exact ⟨peer, signalId, stored, records, mem⟩
    have silent := forwardReadyIntents_silent signalId stored
    have kept := finished_retained
      (allRecorded_retained forwarded silent allRecorded) silent now.2
    apply kept.weaken
    intro _ _ _ reachedFinal
    obtain ⟨⟨settles, finalRecorded⟩, finalFinished⟩ := reachedFinal
    exact settles.delivered finalFinished finalRecorded

theorem processTrigger_silent (workingSet : WorkingSet)
    (request : TriggerRequest) (kept : Option Uuid) (fresh : Uuid) :
    (processTrigger setup workingSet request kept fresh).run.All SignalOp.Silent := by
  have linkage : ∀ signal,
      (backfillPendingScheduleLinkage setup request signal).run.All SignalOp.Silent := by
    intro _
    unfold backfillPendingScheduleLinkage
    split
    · trivial
    apply Program.All.andThen (Program.all_request trivial).attempt
    intro linked
    cases linked with
    | ok => trivial
    | error => exact Program.all_request trivial
  have persists : ∀ definition signal,
      (persistTrigger setup workingSet request definition signal).run.All SignalOp.Silent := by
    intro _ signal
    apply Program.All.andThen (Program.all_request trivial)
    intro _
    apply Program.All.andThen
    · trivial
    · intro _
      apply Program.All.andThen (Program.all_request trivial)
      intro _
      apply (linkage signal).andThen
      intro _
      exact (writeCaptures_silent _ _ _ _).mapError.andDone
  apply Program.All.andThen (Program.all_request trivial)
  intro found
  cases found with
  | none => trivial
  | some definition =>
    dsimp only
    split
    · trivial
    apply (consultCache_silent _ _ _ _ _).mapError.andThen
    intro outcome
    cases outcome with
    | fresh => exact persists definition _
    | deduplicatedSameHash => trivial
    | conflictDifferentHash => trivial

/-- The event is a wakeup that will be translated. -/
def IngressEnvelope.translates : IngressEnvelope → Bool
  | .wakeup _ targetDecodes _ => targetDecodes
  | _ => false

theorem processReservedEnvelope_silent (producerKey : String) (signalId : Uuid)
    (untranslated : envelope.translates = false) :
    (processReservedEnvelope setup producerKey signalId envelope).run.All SignalOp.Silent := by
  cases envelope with
  | trigger =>
    apply (processTrigger_silent _ _ _ _).mapError.andThen
    intro _
    trivial
  | cancel target reason =>
    cases target with
    | none => trivial
    | some =>
      cases reason with
      | true => trivial
      | false => trivial
  | wakeup _ decodes =>
    cases decodes with
    | true => cases untranslated
    | false => trivial

variable {producerKey : String}

variable (isDelivery : jobs peer = .deliver producerKey signalId envelope)
include isDelivery

theorem processReservedEnvelope_safe
    (idle : Unstarted peer state) :
    SafeFailing concern peer (fun intents later =>
        (∀ sending ∈ intents, Supplied setup jobs peer sending later) ∧
          (envelope.translates = true →
            Finished setup jobs peer later ∧
              ∀ sending, (peer, .sent sending) ∈ later.history → sending ∈ intents))
      (fun failure => envelope.translates = true → ∃ error, failure = .transient error)
      (processReservedEnvelope setup producerKey signalId envelope)
      state := by
  have working : setup.ingress = (jobs peer).workingSet setup := by
    rw [isDelivery]
    rfl
  cases envelope with
  | trigger =>
    apply andThen
      (.mapError (processTrigger_safe working (.inl rfl))
        fun _ _ never => by cases never)
    intro outcome _ _ now
    cases outcome with
    | fresh =>
      apply SafeExcept.check
      · intro _ isIntents _ rely _
        cases isIntents
        refine ⟨?_, fun never => by cases never⟩
        intro _ mem
        rw [List.mem_singleton.mp mem]
        exact .grown now.1 (grows_of_rely rely)
      · intro _ _ never
        cases never
    | deduplicated | conflict =>
      apply SafeExcept.check
      · intro _ isIntents
        cases isIntents
      · intro _ _ never
        cases never
  | cancel target reason =>
    cases target with
    | none =>
      refine .throw ?_
      intro never
      cases never
    | some =>
      cases reason with
      | false =>
        refine .throw ?_
        intro never
        cases never
      | true =>
        refine .pure ?_
        intro _ _ _
        refine ⟨?_, fun never => by cases never⟩
        intro _ mem
        rw [List.mem_singleton.mp mem]
        left
        intro _ expected
        cases expected
  | wakeup name decodes payload =>
    cases decodes with
    | false =>
      refine .throw ?_
      intro never
      cases never
    | true =>
      have fan : (jobs peer).fanOut setup =
          some ((⟨name, payload, none⟩ : WakeupRequest).fanOut
            setup.paths setup.ingress (some signalId)
            signalId) := by
        rw [isDelivery]
        rfl
      apply andThen
        (.mapError (processWakeup_safe fan (.inl rfl) idle)
          fun error _ _ => ⟨error, rfl⟩)
      intro _ _ _ finished
      apply ask_safe
      · intro _ _ _
        trivial
      · intro _ _ rely holds _
        refine ⟨?_, fun _ => ⟨finished.of_rely rely, ?_⟩⟩
        · intro sending mem
          exact holds.1.supplied peer sending (mem_collectedBy.mp mem)
        · intro _ sent
          exact mem_collectedBy.mpr sent
      · intro _ _ _ rely now
        refine ⟨?_, fun translated => ⟨?_, ?_⟩⟩
        · intro sending mem
          exact (now.1 sending mem).grown (grows_of_rely rely)
        · exact (now.2 translated).1.of_rely rely
        · intro sending sent
          exact (now.2 translated).2 sending (own_of_rely rely sent)

theorem processDelivery_safe
    (idle : Unstarted peer state) :
    SafeFailing concern peer (Delivered concern peer) (fun _ => False)
      (processDelivery setup producerKey signalId envelope) state := by
  have reserved : SafeFailing concern peer
      (fun reservation later => ∀ intents, reservation = .ready intents →
        ∃ author, (author, .recorded signalId intents) ∈ later.history)
      (fun _ => False) (ask (.reserve signalId) : SignalM String Reservation)
      state := by
    apply ask_safe
    · intro _ _ _
      trivial
    · intro _ _ _ _ _ _ isReady
      simp only [perform] at isReady ⊢
      split at isReady
      · cases isReady
      · cases isReady
      · cases isReady
      · cases isReady
      split at isReady
      · rename_i stored kept
        cases isReady
        exact recorded_of_intentsOf kept
      · cases isReady
    · intro _ _ _ rely now intents isReady
      obtain ⟨author, records⟩ := now intents isReady
      exact ⟨author, (grows_of_rely rely).mem records⟩
  apply andThen (unstarted_retained reserved (Program.all_request (by trivial)) idle)
  intro reservation later _ now
  have unstartedLater := now.2
  -- The paths that translate nothing end with nothing looked up or sent.
  have settled : ∀ {program : SignalM String CommandEnd},
      SafeFailing concern peer (Settles concern peer) (fun _ => False) program later →
        program.run.All SignalOp.Silent →
          SafeFailing concern peer (Delivered concern peer)
            (fun _ => False) program later := by
    intro _ safe silent
    apply (unstarted_retained safe silent unstartedLater).weaken
    intro _ _ _ reachedFinal
    exact reachedFinal.1.delivered reachedFinal.2.finished reachedFinal.2.allRecorded
  cases reservation with
  | failed | pending => exact settled leavePending_safe leavePending_silent
  | complete => exact settled completeDelivery_safe completeDelivery_silent
  | ready intents =>
    apply settled _ (forwardReadyIntents_silent signalId intents)
    apply forwardReadyIntents_safe
    intro _ mem
    obtain ⟨author, records⟩ := now.1 intents rfl
    exact ⟨author, signalId, intents, records, mem⟩
  | acquired =>
    have processed : SafeFailing concern peer _ (fun _ => False)
        (.attempt (processReservedEnvelope setup producerKey
          signalId envelope) : SignalM String _) later :=
      .attempt (processReservedEnvelope_safe isDelivery unstartedLater)
    by_cases isTranslated : envelope.translates = true
    · apply processed.andThen
      intro answered _ _ reachedAfter
      cases answered with
      | ok intents =>
        obtain ⟨supplied, translated⟩ := reachedAfter.1 intents rfl
        obtain ⟨finished, collected⟩ := translated isTranslated
        exact persistEffects_safe supplied finished collected
      | error failure =>
        obtain ⟨_, isTransient⟩ := reachedAfter.2 failure rfl isTranslated
        subst isTransient
        apply (abandonDelivery_safe signalId).weaken
        intro _ _ _ left
        exact .inr left
    · have silent : (processReservedEnvelope setup producerKey
          signalId envelope).run.All SignalOp.Silent :=
        processReservedEnvelope_silent producerKey signalId (Bool.eq_false_iff.mpr isTranslated)
      apply (unstarted_retained processed silent.attempt unstartedLater).andThen
      intro answered _ _ reachedAfter
      have stillUnstarted := reachedAfter.2
      cases answered with
      | ok intents =>
        exact persistEffects_safe (reachedAfter.1.1 intents rfl).1 stillUnstarted.finished
          fun sending sent => absurd sent (stillUnstarted.2 sending)
      | error failure =>
        cases failure with
        | permanent reason =>
          apply (unstarted_retained (rejectDelivery_safe signalId reason)
            (rejectDelivery_silent signalId reason)
            stillUnstarted).weaken
          intro _ _ _ reachedFinal
          exact reachedFinal.1.delivered reachedFinal.2.finished reachedFinal.2.allRecorded
        | transient =>
          apply (abandonDelivery_safe signalId).weaken
          intro _ _ _ left
          exact .inr left

end Tickr.Signals
