import Tickr.Signals.Writing

/-!
# Translating a wakeup

A wakeup looks its gates up once and goes through them.  The gates still to come
have not been told by this client, and what it has looked up stays what it found
then.
-/

namespace Tickr.Signals

open LogStream (Uuid)
open KeyValue Concurrent Discipline
open SafeExcept (andThen)

variable {allowed : Nat → Prop} {sending : Sending} {op : SignalOp} {gate : Gate}

def SignalOp.TellsOnly (allowed : Nat → Prop) : SignalOp → Prop
  | .lookupGates _ => False
  | .send sending | .collect sending =>
    ∀ registration, sending.registration = some registration → allowed registration
  | _ => True

/-- Calls that neither look up gates nor send. -/
def SignalOp.Silent : SignalOp → Prop
  | .lookupGates _ | .send _ | .collect _ => False
  | _ => True

theorem SignalOp.Silent.tellsOnly (silent : op.Silent) : op.TellsOnly allowed := by
  cases op with
  | lookupGates | send | collect => cases silent
  | _ => trivial

variable {ε α : Type}

theorem tellsOnly_of_silent {program : SignalM ε α} (calls : program.run.All SignalOp.Silent) :
    program.run.All (SignalOp.TellsOnly allowed) := calls.mono fun _ silent => silent.tellsOnly

theorem consultCache_silent (workingSet : WorkingSet) (kept : Bool)
    (key : Option String) (fresh : Uuid) (hash : Digest) :
    (consultCache workingSet kept key fresh hash).run.All SignalOp.Silent := by
  unfold consultCache
  split
  · apply Program.All.ask trivial
    intro _
    apply Program.All.andThen (Program.all_request trivial).attempt
    intro made
    cases made with
    | ok => trivial
    | error =>
      exact (Program.all_request trivial).andDone
  · trivial

theorem putCaptures_silent (signalId : Uuid) (captures : List NamedEnvelope) :
    (putCaptures signalId captures).run.All SignalOp.Silent := by
  induction captures with
  | nil => trivial
  | cons _ _ ih =>
    apply Program.All.ask trivial
    intro _
    exact ih

theorem writeEventCaptures_silent (signalId owner : Uuid) (captures : List NamedEnvelope) :
    (writeEventCaptures signalId owner captures).run.All SignalOp.Silent := by
  unfold writeEventCaptures
  split
  · trivial
  apply Program.All.ask trivial
  intro _
  split
  · trivial
  split
  · apply Program.All.ask trivial
    intro _
    split
    · trivial
    · trivial
  · trivial

theorem writeCapturesToNats_silent (signalId : Uuid) (captures : List NamedEnvelope) :
    (writeCapturesToNats signalId captures).run.All SignalOp.Silent := by
  unfold writeCapturesToNats
  split
  · trivial
  · apply Program.All.ask trivial
    intro _
    exact putCaptures_silent signalId captures

theorem writeCaptures_silent (workingSet : WorkingSet)
    (signalId owner : Uuid) (captures : List NamedEnvelope) :
    (writeCaptures workingSet signalId owner captures).run.All SignalOp.Silent := by
  cases workingSet with
  | nats => exact writeCapturesToNats_silent signalId captures
  | scopeStore => exact writeEventCaptures_silent signalId owner captures
  | absent => trivial

namespace FanOut

variable (fan : FanOut)

theorem extract_silent (declarations : List CaptureDeclaration) :
    (fan.extract declarations).run.All SignalOp.Silent := .ask trivial fun _ => trivial

theorem persistSubscriberCaptures_silent (entry : Subscription) :
    (fan.persistSubscriberCaptures entry).run.All SignalOp.Silent := by
  unfold persistSubscriberCaptures archiveCaptures
  split
  · trivial
  apply (fan.extract_silent entry.mergedCaptures).andThen
  intro _
  split
  · trivial
  · apply Program.All.ask trivial
    intro _
    exact writeCaptures_silent _ _ _ _

theorem writeGateCaptures_silent (gate : Gate) :
    (fan.writeGateCaptures gate).run.All SignalOp.Silent := by
  unfold writeGateCaptures
  split
  · trivial
  apply (fan.extract_silent gate.capturesSpec).andThen
  intro _
  split
  · trivial
  · exact writeCaptures_silent _ _ _ _

theorem passOver_silent (warning : Warning) (context : String) :
    (fan.passOver warning context).run.All SignalOp.Silent := by
  unfold passOver
  split
  · trivial
  · exact Program.all_request trivial

theorem audit_silent (matched : Nat) :
    (fan.audit matched).run.All SignalOp.Silent := by
  apply Program.All.andThen (Program.all_request trivial).attempt
  intro audited
  cases audited with
  | ok => trivial
  | error => exact fan.passOver_silent _ _

section Calls

variable {permitted : SignalOp → Prop}
  (passes : ∀ warning context, (fan.passOver warning context).run.All permitted)
include passes

theorem fanOutSubscriber_all {entry : Subscription}
    (persists : (fan.persistSubscriberCaptures entry).run.All permitted)
    (sends : (fan.send (fan.trigger entry)).run.All permitted) :
    (fan.fanOutSubscriber entry).run.All permitted := by
  have triggers : (fan.sendTrigger entry).run.All permitted := by
    apply Program.All.andThen sends.attempt
    intro sent
    cases sent with
    | ok => trivial
    | error => exact (passes _ _).andDone
  rw [fanOutSubscriber]
  split
  · apply Program.All.andThen persists.attempt
    intro persisted
    cases persisted with
    | ok => exact triggers
    | error => exact (passes _ _).andThen fun _ => triggers
  · trivial

theorem fanOutGate_all (persists : (fan.writeGateCaptures gate).run.All permitted)
    (sends : (fan.send (fan.outcome gate)).run.All permitted)
    (removes : permitted (.removeGate gate)) : (fan.fanOutGate gate).run.All permitted := by
  have outcomes : (fan.sendOutcome gate).run.All permitted := by
    apply Program.All.andThen sends.attempt
    intro sent
    cases sent with
    | ok => exact (Program.all_request removes).andDone
    | error => exact (passes _ _).andDone
  rw [fanOutGate]
  split
  · apply Program.All.andThen persists.attempt
    intro persisted
    cases persisted with
    | ok => exact outcomes
    | error => exact (passes _ _).andThen fun _ => outcomes
  · trivial

omit passes

theorem fanOutSubscribers_all (each : ∀ entry, (fan.fanOutSubscriber entry).run.All permitted)
    (entries : List Subscription) : (fan.fanOutSubscribers entries).run.All permitted := by
  induction entries with
  | nil => trivial
  | cons entry _ ih => exact (each entry).andThen fun _ => ih.andDone

theorem fanOutGates_all (each : ∀ gate, (fan.fanOutGate gate).run.All permitted)
    (gates : List Gate) : (fan.fanOutGates gates).run.All permitted := by
  induction gates with
  | nil => trivial
  | cons gate _ ih => exact (each gate).andThen fun _ => ih.andDone

end Calls

theorem send_tellsOnly (sending : Sending)
    (tells : ∀ registration, sending.registration = some registration → allowed registration) :
    (fan.send sending).run.All (SignalOp.TellsOnly allowed) := by
  unfold send
  split
  · exact Program.all_request tells
  · exact Program.all_request tells

theorem passOver_tellsOnly (warning : Warning) (context : String) :
    (fan.passOver warning context).run.All (SignalOp.TellsOnly allowed) :=
  tellsOnly_of_silent (fan.passOver_silent warning context)

theorem fanOutSubscribers_tellsOnly (entries : List Subscription) :
    (fan.fanOutSubscribers entries).run.All (SignalOp.TellsOnly allowed) := by
  refine fan.fanOutSubscribers_all (fun entry => ?_) entries
  apply fan.fanOutSubscriber_all fan.passOver_tellsOnly
  · exact tellsOnly_of_silent (fan.persistSubscriberCaptures_silent entry)
  · exact fan.send_tellsOnly _ fun _ isSome => nomatch isSome

theorem fanOutGate_tellsOnly {gate : Gate} (tells : allowed gate.registration) :
    (fan.fanOutGate gate).run.All (SignalOp.TellsOnly allowed) := by
  refine fan.fanOutGate_all fan.passOver_tellsOnly ?_ ?_ trivial
  · exact tellsOnly_of_silent (fan.writeGateCaptures_silent gate)
  · apply fan.send_tellsOnly
    rintro _ ⟨⟩
    exact tells

end FanOut

variable {setup : Deployment} {jobs : Nat → Command}
  {concern : Concern setup jobs} {peer : Nat} {state : SignalState} {gates : List Gate}
  {before after : SignalState}

def Untold (peer : Nat) (gates : List Gate) (state : SignalState) : Prop :=
  ∀ gate ∈ gates, Unsent peer gate.registration state

/-- The client has looked up these gates at most. -/
def Finds (peer : Nat) (gates : List Gate) (state : SignalState) : Prop :=
  ∀ gate, (peer, .lookedUp gate) ∈ state.history → gate ∈ gates

/-- The client sent the outcome of a gate, or logged that it could not. -/
def Attempted (peer : Nat) (gate : Gate) (state : SignalState) : Prop :=
  (∃ sending, (peer, .sent sending) ∈ state.history ∧
      sending.registration = some gate.registration) ∨
    (peer, .warned (.sendGateOutcome gate.key)) ∈ state.history

theorem Attempted.grown (attempted : Attempted peer gate before)
    (grows : Grows before after) : Attempted peer gate after := by
  rcases attempted with ⟨sending, sent, tells⟩ | warned
  · exact .inl ⟨sending, grows.mem sent, tells⟩
  · exact .inr (grows.mem warned)

variable {post : α → SignalState → Prop} {faults : ε → Prop} {program : SignalM ε α}

theorem lookedUp_of_tellsOnly (tells : op.TellsOnly allowed)
    (change : Change setup.paths peer before op after)
    (mem : (peer, .lookedUp gate) ∈ after.history) :
    (peer, .lookedUp gate) ∈ before.history := by
  rcases lookedUp_of_mem change mem with older | ⟨_, _, lookup, _⟩
  · exact older
  · subst lookup
    cases tells

theorem Unsent.of_tellsOnly (unsent : Unsent peer registration before)
    (tells : op.TellsOnly allowed) (notAllowed : ¬allowed registration)
    (change : Change setup.paths peer before op after) :
    Unsent peer registration after := by
  intro sending mem isRegistration
  rcases sent_of_mem change mem with older | ⟨_, send | collect⟩
  · exact unsent sending older isRegistration
  · subst send
    exact notAllowed (tells registration isRegistration)
  · subst collect
    exact notAllowed (tells registration isRegistration)

variable (safe : SafeFailing concern peer post faults program state)
include safe

theorem untold_retained (calls : program.run.All (SignalOp.TellsOnly allowed))
    (others : ∀ gate ∈ gates, ¬allowed gate.registration) (untold : Untold peer gates state) :
    SafeFailing concern peer (fun value later => post value later ∧ Untold peer gates later)
      faults program state := by
  apply SafeExcept.retains safe calls
  · intro _ _ _ ne promised taken gate mem sending sent
    exact taken gate mem sending (own_of_guarantee ne promised sent)
  · intro op turn _ tells taken gate mem
    exact (taken gate mem).of_tellsOnly tells (others gate mem) (perform_change op turn)
  · exact untold

theorem untold_of_silent (calls : program.run.All SignalOp.Silent)
    (untold : Untold peer gates state) :
    SafeFailing concern peer (fun value later => post value later ∧ Untold peer gates later)
      faults program state := by
  have tells : program.run.All (SignalOp.TellsOnly fun _ => False) :=
    calls.mono fun _ silent => silent.tellsOnly
  exact untold_retained safe tells (fun _ _ => id) untold

theorem finds_retained (calls : program.run.All (SignalOp.TellsOnly allowed))
    (finds : Finds peer gates state) :
    SafeFailing concern peer (fun value later => post value later ∧ Finds peer gates later)
      faults program state := by
  apply SafeExcept.retains safe calls
  · intro _ _ _ ne promised taken gate mem
    exact taken gate (own_of_guarantee ne promised mem)
  · intro op turn _ tells taken gate mem
    exact taken gate (lookedUp_of_tellsOnly tells (perform_change op turn) mem)
  · exact finds

omit safe

/-- The client has neither looked up a gate nor sent anything. -/
def Unstarted (peer : Nat) (state : SignalState) : Prop :=
  (∀ gate, (peer, .lookedUp gate) ∉ state.history) ∧
    ∀ sending, (peer, .sent sending) ∉ state.history

/-- Every gate that the client found and that its payload satisfies has been
seen to. -/
def Finished (setup : Deployment) (jobs : Nat → Command)
    (peer : Nat) (state : SignalState) : Prop :=
  ∀ gate, (peer, .lookedUp gate) ∈ state.history →
    Fires setup jobs peer gate → Attempted peer gate state

theorem Unstarted.of_rely (idle : Unstarted peer before)
    (rely : (signals concern).Rely peer before after) :
    Unstarted peer after :=
  ⟨fun gate mem => idle.1 gate (own_of_rely rely mem),
    fun sending mem => idle.2 sending (own_of_rely rely mem)⟩

theorem Unstarted.finished (idle : Unstarted peer state) :
    Finished setup jobs peer state :=
  fun gate lookedUp _ => absurd lookedUp (idle.1 gate)

theorem Finished.of_rely (ended : Finished setup jobs peer before)
    (rely : (signals concern).Rely peer before after) :
    Finished setup jobs peer after := by
  intro gate lookedUp fires
  exact (ended gate (own_of_rely rely lookedUp) fires).grown (grows_of_rely rely)

theorem not_sent_of_silent (silent : op.Silent)
    (change : Change setup.paths peer before op after)
    (mem : (peer, .sent sending) ∈ after.history) :
    (peer, .sent sending) ∈ before.history := by
  rcases sent_of_mem change mem with older | ⟨_, send | collect⟩
  · exact older
  · subst send
    cases silent
  · subst collect
    cases silent

include safe

theorem unstarted_retained (calls : program.run.All SignalOp.Silent)
    (idle : Unstarted peer state) :
    SafeFailing concern peer (fun value later => post value later ∧ Unstarted peer later)
      faults program state := by
  apply SafeExcept.retains safe calls
  · intro _ _ _ ne promised taken
    exact ⟨fun gate mem =>
        taken.1 gate (own_of_guarantee ne promised mem),
      fun sending mem =>
        taken.2 sending (own_of_guarantee ne promised mem)⟩
  · intro op turn _ silent taken
    have tells : op.TellsOnly fun _ => False := silent.tellsOnly
    exact ⟨fun gate mem => taken.1 gate
        (lookedUp_of_tellsOnly tells (perform_change op turn) mem),
      fun sending mem => taken.2 sending
        (not_sent_of_silent silent (perform_change op turn) mem)⟩
  · exact idle

theorem finished_retained (calls : program.run.All SignalOp.Silent)
    (ended : Finished setup jobs peer state) :
    SafeFailing concern peer (fun value later =>
        post value later ∧ Finished setup jobs peer later)
      faults program state := by
  apply SafeExcept.retains safe calls
  · intro _ before after ne promised taken gate lookedUp fires
    have grows : Grows before after := by
      obtain ⟨_, _, _, change⟩ := promised
      exact change.grows
    exact (taken gate (own_of_guarantee ne promised lookedUp) fires).grown grows
  · intro op turn before silent taken gate lookedUp fires
    have tells : op.TellsOnly fun _ => False := silent.tellsOnly
    have change := @perform_change setup.paths peer before op turn
    exact (taken gate (lookedUp_of_tellsOnly tells change lookedUp) fires).grown change.grows
  · exact ended

omit safe

theorem Addressed.of_rely (addressed : Addressed setup jobs peer sending before)
    (rely : (signals concern).Rely peer before after) :
    Addressed setup jobs peer sending after := by
  rcases addressed with none | ⟨gate, lookedUp, fires, tells, unsent⟩
  · exact .inl none
  · exact .inr ⟨gate, (grows_of_rely rely).mem lookedUp, fires, tells, unsent.of_rely rely⟩

variable {fan : FanOut} {command : Command}

theorem Command.reserved_of_fanOut (isFan : command.fanOut setup = some fan) :
    fan.reserved = command.isDelivery := by
  cases command with
  | wakeup =>
    cases isFan
    rfl
  | deliver _ _ envelope =>
    cases envelope with
    | wakeup =>
      cases isFan
      rfl
    | trigger | cancel => cases isFan
  | _ => cases isFan

theorem Command.workingSet_of_fanOut (isFan : command.fanOut setup = some fan) :
    fan.workingSet = command.workingSet setup := by
  cases command with
  | wakeup =>
    cases isFan
    rfl
  | deliver _ _ envelope =>
    cases envelope with
    | wakeup =>
      cases isFan
      rfl
    | trigger | cancel => cases isFan
  | _ => cases isFan

theorem extract_safe (fan : FanOut) (declarations : List CaptureDeclaration) :
    SafeSignal concern peer
      (fun captures _ => ∃ now, extractCaptures fan.paths fan.payload
        fan.signalId (.wakeup fan.name) now declarations = .ok captures)
      (fan.extract declarations) state := by
  apply andThen (ask_free fun _ => by trivial)
  intro now _ _ _
  apply SafeTry.check
  intro _ taken _ _ _
  exact ⟨now, ok_of_mapError taken⟩

theorem archiveCaptures_safe (fan : FanOut) (entry : Subscription)
    (taken : List NamedEnvelope) :
    SafeSignal concern peer
      (fun _ later => fan.workingSet = .absent ∨ Stored fan.workingSet fan.signalId taken later)
      (fan.archiveCaptures entry taken) state := by
  unfold FanOut.archiveCaptures
  by_cases isEmpty : taken.isEmpty = true
  · rw [List.isEmpty_iff.mp isEmpty]
    refine .pure ?_
    intro _ _ _
    exact .inr stored_nil
  · rw [if_neg isEmpty]
    apply andThen (request_free fun _ => by trivial)
    intro _ _ _ _
    exact writeCaptures_safe _ _ _ _

theorem persistSubscriberCaptures_safe (fan : FanOut) (entry : Subscription) :
    SafeSignal concern peer
      (fun _ later => fan.workingSet = .absent ∨ Written (fan.trigger entry).expects later)
      (fan.persistSubscriberCaptures entry) state := by
  unfold FanOut.persistSubscriberCaptures
  by_cases isAbsent : fan.workingSet = .absent
  · rw [if_pos isAbsent]
    refine .pure ?_
    intro _ _ _
    exact .inl isAbsent
  rw [if_neg isAbsent]
  apply andThen (extract_safe fan _)
  intro captures _ _ taken
  obtain ⟨_, takes⟩ := taken
  apply (archiveCaptures_safe fan entry captures).weaken
  intro _ _ _ reached
  rcases reached with absent | kept
  · exact .inl absent
  · exact .inr (kept.written takes)

theorem writeGateCaptures_safe (fan : FanOut) (gate : Gate) :
    SafeSignal concern peer
      (fun _ later => fan.workingSet = .absent ∨ Written (fan.outcome gate).expects later)
      (fan.writeGateCaptures gate) state := by
  unfold FanOut.writeGateCaptures
  by_cases isAbsent : fan.workingSet = .absent
  · rw [if_pos isAbsent]
    refine .pure ?_
    intro _ _ _
    exact .inl isAbsent
  rw [if_neg isAbsent]
  apply andThen (extract_safe fan _)
  intro captures _ _ taken
  obtain ⟨_, takes⟩ := taken
  by_cases isEmpty : captures.isEmpty = true
  · rw [if_pos isEmpty]
    rw [List.isEmpty_iff.mp isEmpty] at takes
    refine .pure ?_
    intro _ _ _
    exact .inr (stored_nil.written takes)
  · rw [if_neg isEmpty]
    apply (writeCaptures_safe _ _ _ _).weaken
    intro _ _ _ reached
    rcases reached with absent | kept
    · exact .inl absent
    · exact .inr (kept.written takes)

variable (isFan : (jobs peer).fanOut setup = some fan)

include isFan in
theorem supplied_of_written (wrote : fan.workingSet = .absent ∨ Written sending.expects state) :
    Supplied setup jobs peer sending state := by
  rcases wrote with isAbsent | wrote
  · rw [Command.workingSet_of_fanOut isFan] at isAbsent
    exact .inr (.inr isAbsent)
  · exact .inl wrote

theorem passOver_safe (fan : FanOut) (warning : Warning) (context : String) :
    SafeSignal concern peer (fun _ later => (peer, .warned warning) ∈ later.history)
      (fan.passOver warning context) state := by
  unfold FanOut.passOver
  split
  · exact .throw
  apply ask_safe
  · intro _ _ _
    trivial
  · intro _ _ _ _ _
    exact .head _
  · intro _ _ _ rely mem
    exact (grows_of_rely rely).mem mem

include isFan

theorem send_safe (addressed : Addressed setup jobs peer sending state)
    (supplied : Supplied setup jobs peer sending state) :
    SafeSignal concern peer (fun _ later => (peer, .sent sending) ∈ later.history)
      (fan.send sending) state := by
  unfold FanOut.send
  by_cases isReserved : fan.reserved = true
  · rw [if_pos isReserved]
    apply ask_safe
    · intro _ rely _
      refine ⟨?_, addressed.of_rely rely, supplied.grown (grows_of_rely rely)⟩
      rw [← Command.reserved_of_fanOut isFan]
      exact isReserved
    · intro _ _ _ _ _
      exact .head _
    · intro _ _ _ rely mem
      exact (grows_of_rely rely).mem mem
  · rw [if_neg isReserved]
    apply request_safe
    · intro _ rely _
      exact ⟨addressed.of_rely rely, supplied.grown (grows_of_rely rely)⟩
    · intro _ _ _ _ _ _ answered
      have accepted := accept_of_ok (ok_of_mapError answered)
      simp only [perform]
      rw [accepted]
      exact .tail _ (.head _)
    · intro _ _ _ rely mem
      exact (grows_of_rely rely).mem mem

theorem sendTrigger_safe {entry : Subscription}
    (given : Supplied setup jobs peer (fan.trigger entry) state) :
    SafeSignal concern peer Any (fan.sendTrigger entry) state := by
  apply andThen (.attempt (send_safe isFan (.inl rfl) given))
  intro sent _ _ _
  cases sent with
  | ok =>
    exact .done
  | error =>
    apply SafeExcept.andPure (passOver_safe fan _ _)
    intro _ _ _ _
    trivial

omit isFan

theorem fanOutSubscriber_safe (entry : Subscription)
    (isFan : (jobs peer).fanOut setup = some fan) :
    SafeSignal concern peer Any (fan.fanOutSubscriber entry) state := by
  unfold FanOut.fanOutSubscriber
  split
  · apply andThen (.attempt (persistSubscriberCaptures_safe fan entry))
    intro persisted _ _ now
    cases persisted with
    | ok => exact sendTrigger_safe isFan (supplied_of_written isFan (now.1 _ rfl))
    | error =>
      apply andThen (passOver_safe fan _ _)
      intro _ _ _ warned
      exact sendTrigger_safe isFan (.inr (.inl ⟨_, rfl, warned⟩))
  · exact .done

theorem fanOutSubscribers_safe (entries : List Subscription)
    (isFan : (jobs peer).fanOut setup = some fan) :
    SafeSignal concern peer Any (fan.fanOutSubscribers entries) state := by
  induction entries generalizing state with
  | nil =>
    exact .done
  | cons entry _ ih =>
    apply andThen (fanOutSubscriber_safe entry isFan)
    intro _ _ _ _
    apply SafeExcept.andPure ih
    intro _ _ _ _
    trivial

include isFan

theorem sendOutcome_safe (lookedUp : (peer, .lookedUp gate) ∈ state.history)
    (fires : Fires setup jobs peer gate) (unsent : Unsent peer gate.registration state)
    (given : Supplied setup jobs peer (fan.outcome gate) state) :
    SafeSignal concern peer (fun _ later => Attempted peer gate later)
      (fan.sendOutcome gate) state := by
  apply andThen
    (.attempt (send_safe isFan
      (.inr ⟨gate, lookedUp, fires, rfl, unsent⟩) given))
  intro sent later _ now
  cases sent with
  | ok =>
    have isSent := now.1 _ rfl
    have gone : SafeSignal concern peer Any
        (ask (.removeGate gate) : SignalM String _) later := by
      apply ask_safe
      · intro _ rely _
        exact ⟨_, (grows_of_rely rely).mem isSent, rfl⟩
      · intro _ _ _ _ _
        trivial
      · intro _ _ _ _ _
        trivial
    apply SafeExcept.andPure gone.frame
    intro _ _ _ atEnd
    exact .inl ⟨_, (grows_of_evolves atEnd.2).mem isSent, rfl⟩
  | error =>
    apply SafeExcept.andPure (passOver_safe fan _ _)
    intro _ _ _ warned
    exact .inr warned

theorem fanOutGate_safe (lookedUp : (peer, .lookedUp gate) ∈ state.history)
    (unsent : Unsent peer gate.registration state) :
    SafeSignal concern peer
      (fun _ later => Fires setup jobs peer gate → Attempted peer gate later)
      (fan.fanOutGate gate) state := by
  unfold FanOut.fanOutGate
  by_cases isMatch : predicateMatches fan.paths gate.predicate fan.payload = true
  · rw [if_pos isMatch]
    have fires : Fires setup jobs peer gate := ⟨fan, isFan, isMatch⟩
    have untold : Untold peer [gate] state := by
      intro _ mem
      rw [List.mem_singleton.mp mem]
      exact unsent
    apply andThen
      (untold_of_silent (.attempt (writeGateCaptures_safe fan gate))
        (fan.writeGateCaptures_silent gate).attempt untold)
    intro persisted _ evolves now
    have found := (grows_of_evolves evolves).mem lookedUp
    have stillUnsent := now.2 gate (.head _)
    cases persisted with
    | ok =>
      apply SafeExcept.weaken (sendOutcome_safe isFan found
        fires stillUnsent (supplied_of_written isFan (now.1.1 _ rfl)))
      intro _ _ _ attempted _
      exact attempted
    | error =>
      apply andThen
        (untold_of_silent (passOver_safe fan _ _) (fan.passOver_silent _ _) now.2)
      intro _ _ warnedEvolves warned
      apply SafeExcept.weaken (sendOutcome_safe isFan
        ((grows_of_evolves warnedEvolves).mem found) fires
        (warned.2 gate (.head _))
        (.inr (.inl ⟨_, rfl, warned.1⟩)))
      intro _ _ _ attempted _
      exact attempted
  · rw [if_neg isMatch]
    refine .pure ?_
    intro _ _ _ fires
    obtain ⟨_, ne, matching⟩ := fires
    rw [isFan] at ne
    cases ne
    exact absurd matching isMatch

theorem fanOutGates_safe (lookedUp : ∀ gate ∈ gates, (peer, .lookedUp gate) ∈ state.history)
    (apart : (gates.map Gate.registration).Nodup) (untold : Untold peer gates state) :
    SafeSignal concern peer
      (fun _ later => ∀ gate ∈ gates,
        Fires setup jobs peer gate → Attempted peer gate later)
      (fan.fanOutGates gates) state := by
  induction gates generalizing state with
  | nil =>
    refine .pure ?_
    intro _ _ _ _ mem
    cases mem
  | cons gate rest ih =>
    rw [List.map_cons, List.nodup_cons] at apart
    have untoldRest : Untold peer rest state := fun other mem =>
      untold other (.tail gate mem)
    apply andThen
    · apply untold_retained (fanOutGate_safe isFan
        (lookedUp gate (.head _)) (untold gate (.head _)))
        (@FanOut.fanOutGate_tellsOnly (· = gate.registration) fan gate rfl) ?_ untoldRest
      · intro other mem same
        exact apart.1 (List.mem_map.mpr ⟨other, mem, same⟩)
    · intro _ _ evolves now
      have grows := grows_of_evolves evolves
      have restSafe := ih
        (fun other mem => grows.mem (lookedUp other (.tail gate mem)))
        apart.2 now.2
      apply SafeExcept.andPure restSafe.frame
      intro _ _ _ restReached
      refine List.forall_mem_cons.mpr ⟨?_, restReached.1⟩
      intro fires
      exact (now.1 fires).grown (grows_of_evolves restReached.2)

omit isFan

/-- The gates found are found once each. -/
theorem lookupGates_safe (name : String) (idle : Unstarted peer state) :
    SafeSignal concern peer (fun gates later =>
        (∀ gate ∈ gates, (peer, .lookedUp gate) ∈ later.history) ∧
          (gates.map Gate.registration).Nodup ∧
          Finds peer gates later ∧ Untold peer gates later)
      (ask (.lookupGates name) : SignalM String (List Gate)) state := by
  apply ask_safe
  · intro _ _ _
    trivial
  · intro _ turn rely holds _
    have unstartedBefore := idle.of_rely rely
    refine ⟨?_, ?_, ?_, ?_⟩
    · intro _ mem
      apply List.mem_append_left
      apply List.mem_map_of_mem
      exact List.mem_map_of_mem mem
    · apply (GateIndex.nodup_lookupBySignalName _ _).map_on
      intro left leftFound right rightFound same
      obtain ⟨_, leftRegistered⟩ := holds.1.indexed left.key left
        (GateIndex.mem_lookupBySignalName.mp leftFound).1
      obtain ⟨_, registered⟩ := holds.1.indexed right.key right
        (GateIndex.mem_lookupBySignalName.mp rightFound).1
      exact holds.1.gate_eq leftRegistered registered same
    · intro gate mem
      rcases lookedUp_of_mem (perform_change (.lookupGates name) turn) mem
        with older | ⟨_, _, sameName, found⟩
      · exact absurd older (unstartedBefore.1 gate)
      · cases sameName
        exact found
    · intro _ _ sending mem
      rcases sent_of_mem (perform_change (.lookupGates name) turn) mem
        with older | ⟨_, send | collect⟩
      · exact absurd older (unstartedBefore.2 sending)
      · cases send
      · cases collect
  · intro _ _ _ rely now
    obtain ⟨lookedUp, apart, finds, untold⟩ := now
    refine ⟨?_, apart, ?_, ?_⟩
    · intro gate mem
      exact (grows_of_rely rely).mem (lookedUp gate mem)
    · intro gate mem
      exact finds gate (own_of_rely rely mem)
    · intro gate mem
      exact (untold gate mem).of_rely rely

theorem audit_safe (fan : FanOut) (matched : Nat) :
    SafeSignal concern peer Any (fan.audit matched) state := by
  apply andThen (.attempt (request_free fun _ => by trivial))
  intro audited _ _ _
  cases audited with
  | ok =>
    exact .done
  | error =>
    apply (passOver_safe fan _ _).weaken
    intro _ _ _ _
    trivial

include isFan in
/-- A translation that comes to its end has seen to every gate it found. -/
theorem translate_safe (idle : Unstarted peer state) :
    SafeSignal concern peer (fun _ later => Finished setup jobs peer later)
      fan.translate state := by
  unfold FanOut.translate
  refine andThen
    (unstarted_retained (ask_free fun _ => by trivial) (Program.all_request trivial) idle) ?_
  intro entries _ _ reachedListed
  apply andThen (lookupGates_safe fan.name reachedListed.2)
  intro gates _ _ reachedFound
  obtain ⟨lookedUp, apart, finds, untold⟩ := reachedFound
  by_cases nothing : entries.isEmpty = true ∧ gates.isEmpty = true
  · rw [if_pos nothing]
    refine .pure ?_
    intro _ rely _ gate mem _
    have hit := finds gate (own_of_rely rely mem)
    rw [List.isEmpty_iff.mp nothing.2] at hit
    cases hit
  · rw [if_neg nothing]
    have subscribers : (fan.fanOutSubscribers entries).run.All
        (SignalOp.TellsOnly fun _ => False) := fan.fanOutSubscribers_tellsOnly entries
    apply andThen
      (finds_retained (untold_retained (fanOutSubscribers_safe entries isFan) subscribers
        (fun _ _ => id) untold) subscribers finds)
    intro matched triggers evolves sent
    have looked : ∀ gate ∈ gates, (peer, .lookedUp gate) ∈ triggers.history := by
      intro gate mem
      exact (grows_of_evolves evolves).mem (lookedUp gate mem)
    apply andThen
      (finds_retained (fanOutGates_safe isFan looked apart
        sent.1.2) (fan.fanOutGates_all
          (fun gate => @FanOut.fanOutGate_tellsOnly (fun _ => True) fan gate trivial) gates)
        sent.2)
    intro _ outcomes _ now
    have ended : Finished setup jobs peer outcomes := by
      intro gate mem fires
      exact now.1 gate (now.2 gate mem) fires
    apply SafeExcept.andPure (finished_retained (audit_safe fan matched)
      (fan.audit_silent matched) ended)
    intro _ _ _ atEnd
    exact atEnd.2

theorem processWakeup_safe (isFan : (jobs peer).fanOut setup =
      some (request.fanOut setup.paths workingSet kept fresh))
    (claim : kept.isSome = true ∨ (jobs peer).cacheClaim =
      request.idempotencyKey.map fun key => (key, ⟨fresh, request.hash⟩))
    (idle : Unstarted peer state) :
    SafeSignal concern peer (fun _ later => Finished setup jobs peer later)
      (processWakeup setup.paths workingSet request kept fresh)
      state := by
  apply andThen
    (unstarted_retained (consultCache_safe claim) (consultCache_silent _ _ _ _ _) idle)
  intro outcome _ _ now
  cases outcome with
  | fresh =>
    apply SafeExcept.andPure (translate_safe isFan now.2)
    intro _ _ _ finished
    exact finished
  | deduplicatedSameHash | conflictDifferentHash =>
    refine .pure ?_
    intro _ rely _
    exact (now.2.of_rely rely).finished

end Tickr.Signals
