import Tickr.LiteCaptures.Pipelines
import Tickr.LiteCaptures.Promises
import Tickr.Signals.Running

/-!
# The captures a process starts with

Along every run a task of a manual trigger finds its archive row, and its process
starts with exactly the captures of the trigger under its signal.
-/

namespace Tickr.LiteCaptures

open Table
open LogStream (Uuid Bytes)
open KeyValue (Delivery)
open Concurrent Discipline
open Signals
open LocalScope (ScopeStore ScopeValue ClaimId WriteOutcome CreationOutcome)

variable (lite : Lite)

def discipline : Discipline LiteState LiteOp where
  guarantee peer before after := Step lite peer before after
  invariant := Sound lite
  condition := Timely
  keeps := fun _ _ _ step sound => sound.step step

variable {lite} {peer : Nat} {state later : LiteState} {ε α : Type}

theorem grows_of_evolves (evolves : (discipline lite).Evolves state later) : Grows state later :=
  evolves.keeps (Grows.refl state) fun _ _ _ made grows => grows.trans (Step.grows made)

theorem grows_of_rely (rely : (discipline lite).Rely peer state later) :
    Grows state later := grows_of_evolves rely.evolves

theorem own_of_rely (rely : (discipline lite).Rely peer state later) (mem : (peer, event) ∈ later.history) :
    (peer, event) ∈ state.history := by
  induction rely with
  | refl => exact mem
  | tail _ step ih =>
    obtain ⟨_, ne, made⟩ := step
    apply ih
    rcases Step.history made with same | ⟨_, isAdded⟩
    · rw [same] at mem
      exact mem
    rw [isAdded] at mem
    rcases List.mem_cons.mp mem with new | older
    · cases new
      exact absurd rfl ne
    · exact older

abbrev Keeps (lite : Lite) (peer : Nat) (post : α → LiteState → Prop)
    (program : LiteM ε α) (state : LiteState) : Prop :=
  SafeTry (liteSystem lite) (discipline lite) peer post program state

variable {op : LiteOp}

/-- One call: it is legitimate whenever it is made, and its answer says
something that lasts. -/
theorem call_keeps {interpret : op.Reply → Except ε α}
    (legit : ∀ before, (discipline lite).Rely peer state before →
      Sound lite before → Legit lite peer op before)
    (now : ∀ before turn value, (discipline lite).Rely peer state before → Sound lite before →
      Timely peer op before →
      interpret (perform lite peer op turn before).1 = .ok value →
        ∀ after, (discipline lite).Rely peer (perform lite peer op turn before).2 after →
          post value after) :
    Keeps lite peer post (Program.request op interpret) state := by
  refine .request ?_
  intro before rely sound timely turn
  refine ⟨perform_step op turn (legit before rely sound) timely, ?_⟩
  intro value valued after onward _
  exact now before turn value rely sound timely valued after onward

theorem call_free {interpret : op.Reply → Except ε α}
    (legit : ∀ before, (discipline lite).Rely peer state before →
      Sound lite before → Legit lite peer op before) :
    Keeps lite peer Any (Program.request op interpret) state := by
  apply call_keeps legit
  intro _ _ _ _ _ _ _ _ _
  trivial

theorem legit_of_plain {op : SignalOp} (plain : Plain op) :
    Legit lite peer (.signal op) state := by
  cases op with
  | send sending =>
    intro _ manual
    have notManual : manualSignal sending = none := plain
    rw [notManual] at manual
    cases manual
  | forward => exact plain
  | sql query =>
    cases query with
    | insertCaptures | deleteExpired => exact plain.elim
    | _ => trivial
  | _ => trivial

/-- A command of the signal pipelines that archives nothing. -/
theorem plain_keeps {program : SignalM ε α} (calls : program.run.All Plain) (state : LiteState) :
    Keeps lite peer Any (lift program) state := by
  intro _
  have within : ∀ op turn before,
      (∃ inner, op = .signal inner ∧ Plain inner) →
        Sound lite before → Timely peer op before →
          Step lite peer before (perform lite peer op turn before).2 := by
    intro _ turn _ allowed _ timely
    obtain ⟨inner, isOp, plain⟩ := allowed
    subst isOp
    exact perform_step (.signal inner) turn (legit_of_plain plain) timely
  apply (safe_of_all (calls.embed LiteOp.signal fun _ reply => reply) within state).weaken
  intro _ _ _ _
  exact ⟨fun _ _ => trivial, fun _ _ => trivial⟩

variable {lite : Lite} {β : Type}

theorem lift_bind (program : SignalM ε α) (rest : α → SignalM ε β) :
    lift (program >>= rest) = lift program >>= fun value =>
      lift (rest value) := Program.embedExcept_bind _ _ program rest

theorem lift_attempt {ε' : Type} (program : SignalM ε α) :
    (lift (Program.attempt program) : LiteM ε' (Except ε α)) = Program.attempt (lift program) :=
  Program.embedExcept_attempt _ _ program

theorem backfill_plain (request : TriggerRequest) (signalId : Uuid) :
    (backfillPendingScheduleLinkage lite.deployment request signalId).run.All Plain := by
  rw [backfillPendingScheduleLinkage]
  split
  · trivial
  apply Program.All.andThen (Program.all_request trivial)
  intro linked
  cases linked with
  | ok => trivial
  | error => exact Program.all_request trivial

theorem insert_keeps {failure : ε} (isSignal : lite.isSignalId signal = true) (state : LiteState) :
    Keeps lite peer (fun _ later => Captured later.signals.tables signal captures)
      (lift (query failure (.insertCaptures signal workflowId version captures))) state := by
  apply call_keeps
  · intro _ _ _
    exact isSignal
  intro before _ _ _ _ timely valued _ rely
  have inserted := (deliver_of_ok (ok_of_mapError valued)).2
  apply (grows_of_rely rely).captured
  have absent : before.signals.tables.captures.any
      (fun row => row.signalId = signal) = false := by
    rw [List.any_eq_false]
    intro row mem
    have ne := timely row mem
    simpa using ne
  have notFound : before.signals.tables.captures.find?
      (fun row => row.signalId = signal) = none := by
    rw [List.find?_eq_none]
    intro row mem
    have ne := timely row mem
    simpa using ne
  simp only [perform, Signals.perform] at inserted ⊢
  rw [inserted]
  refine ⟨⟨signal, workflowId, version, captures, none, none⟩, ?_, rfl⟩
  simp [SignalState.runQuery, SignalState.note, Query.effect, absent, notFound]

variable {fresh : Uuid}

theorem persistTrigger_keeps (trigger : HttpTrigger) (definition : LiveDefinition)
    (signals : lite.isSignalId fresh = true) (state : LiteState) :
    Keeps lite peer
      (fun outcome later => ∀ sending, outcome = .fresh sending → Recorded sending later)
      (lift (persistTrigger lite.deployment .absent trigger.request definition fresh)) state := by
  have timed : Keeps lite peer Any (lift (ask .clock : SignalM TriggerError Int)) state := by
    apply plain_keeps
    exact Program.all_request trivial
  rw [persistTrigger, lift_bind]
  apply timed.andThen
  intro now first _ _
  have checked : Keeps lite peer
      (fun taken _ => extractCaptures lite.paths trigger.request.payload
        fresh trigger.request.source now definition.captures = .ok taken)
      (lift (.check ((extractCaptures lite.paths
        trigger.request.payload fresh trigger.request.source now
          definition.captures).mapError .capturesExtractionFailed) :
        SignalM TriggerError (List NamedEnvelope))) first := by
    refine .check ?_
    intro _ takes _ _ _
    exact ok_of_mapError takes
  rw [lift_bind]
  apply checked.andThen
  intro taken second _ takes
  rw [lift_bind]
  apply (insert_keeps signals second).andThen
  intro _ third _ captured
  rw [lift_bind]
  apply (plain_keeps (backfill_plain trigger.request fresh) third).andThen
  intro _ _ evolves _
  have kept := (grows_of_evolves evolves).captured _ _ captured
  refine .pure ?_
  intro _ rely _ _ isSending _ manual
  cases isSending
  cases manual
  refine ⟨taken, (grows_of_rely rely).captured _ _ kept, ?_⟩
  have demanded := demands_of_extractCaptures takes
  rw [expected, Lite.deployment, demanded, List.map_map]
  rfl

theorem relayTrigger_keeps {sending : Sending} (noted : Recorded sending state) :
    Keeps lite peer Any (lift (relayTrigger fresh sending)) state := by
  have sent : Keeps lite peer Any
      (lift (Program.request (.send sending) id : SignalM Unreachable Unit)) state := by
    apply call_free
    intro _ rely _
    exact noted.grown (grows_of_rely rely)
  rw [relayTrigger, lift_bind]
  apply (SafeExcept.attempt sent).andThen
  intro reply later _ _
  cases reply with
  | ok | error => exact plain_keeps (respond_plain _) later

theorem dispatchTrigger_keeps (trigger : HttpTrigger)
    (isSignal : lite.isSignalId fresh = true) (state : LiteState) :
    Keeps lite peer Any (lift (dispatchTrigger lite.deployment trigger fresh)) state := by
  have processed : Keeps lite peer
      (fun outcome later => ∀ sending, outcome = .fresh sending → Recorded sending later)
      (lift (processTrigger lite.deployment .absent trigger.request none fresh)) state := by
    have looked : Keeps lite peer Any
        (lift (query TriggerError.workflowLookup
          (.liveDefinition trigger.request.workflowId))) state := by
      apply plain_keeps
      exact Program.all_request trivial
    rw [processTrigger, lift_bind]
    apply looked.andThen
    intro found later _ _
    cases found with
    | none => exact SafeTry.throw
    | some definition =>
      dsimp only
      split
      · exact SafeTry.throw
      · exact persistTrigger_keeps trigger definition isSignal later
  rw [dispatchTrigger, lift_bind, lift_attempt]
  apply (SafeExcept.attempt processed).andThen
  intro outcome later _ answered
  match outcome with
  | .error error => exact plain_keeps (respond_plain _) later
  | .ok (.deduplicated _) => exact plain_keeps (respond_plain _) later
  | .ok (.conflict _ _ _) => exact plain_keeps (respond_plain _) later
  | .ok (.fresh sending) => exact relayTrigger_keeps (answered.1 _ rfl sending rfl)

variable {signal scope : Uuid}

theorem Unannounced.relied {later : LiteState} (unannounced : Unannounced peer signal state)
    (rely : (discipline lite).Rely peer state later) :
    Unannounced peer signal later := by
  intro run relayed dispatched
  exact unannounced run relayed (own_of_rely rely dispatched)

/-- Without an archive row of its signal, no manual trigger was relayed when
the task came in. -/
theorem Sound.unannounced (sound : Sound lite state)
    (notCaptured : ∀ captures, ¬Captured state.signals.tables signal captures) :
    Unannounced peer signal state := by
  intro run relayed dispatched sending isRelayed manual
  obtain ⟨author, sent⟩ :=
    sound.announced peer run (some signal) relayed dispatched sending isRelayed
  obtain ⟨captures, caught, _⟩ := sound.recorded author sending sent signal manual
  exact notCaptured captures caught

theorem read_keeps {failure : LaunchFault} :
    Keeps lite peer (fun found later =>
        (∀ row, found = some row → Captured later.signals.tables signal row.captures) ∧
        (found = none → Unannounced peer signal later))
      (lift (query failure (.signalCaptures signal))) state := by
  apply call_keeps
  · intro _ _ _
    trivial
  intro before turn found _ sound _ hit _ onward
  obtain ⟨isAnswer, reached⟩ := deliver_of_ok (ok_of_mapError hit)
  simp only [perform, Signals.perform] at onward
  rw [reached] at onward
  have grows := grows_of_rely onward
  have isRow : before.signals.tables.captures.find?
      (fun row => row.signalId = signal) = found := by
    simpa [Query.answer] using isAnswer
  constructor
  · intro row isSome
    apply grows.captured
    exact ⟨row, isRow.trans isSome, rfl⟩
  · intro isNone
    have notCaptured : ∀ captures, ¬Captured before.signals.tables signal captures := by
      intro _ captured
      obtain ⟨_, first, _⟩ := captured
      rw [isRow, isNone] at first
      cases first
    have unannounced : Unannounced peer signal { before with
          signals := before.signals.runQuery peer turn.now (.signalCaptures signal) } :=
      sound.unannounced notCaptured
    exact unannounced.relied onward

theorem claim_of_written {store : ScopeStore} {claim : ClaimId}
    (result : (store.writeTickrCtxScope codec scope claim values now).1 = .ok outcome)
    (written : writtenSeed outcome = .ok done) :
    ∃ row ∈ (store.writeTickrCtxScope codec scope claim values now).2.claims,
      row.claim = claim ∧ row.scopeId = scope := by
  rcases LocalScope.writeTickrCtxScope_cases codec store scope claim values
    now with ⟨same, notApplied, claimed⟩ | ⟨digest, _, _, _, _, _, _, _, isApplied⟩
  · rw [same]
    cases outcome with
    | applied inserted updated => exact absurd result (notApplied inserted updated)
    | idempotent =>
      obtain ⟨_, _, _, isClaimed⟩ := claimed result
      exact ⟨_, isClaimed, rfl, rfl⟩
    | _ => cases written
  · rw [isApplied]
    exact ⟨⟨claim, scope, digest⟩, by simp [ScopeStore.wrote], rfl, rfl⟩

theorem transact_of_ok {α : Type} {answered : ScopeStore.Transacted α} {value : α}
    (isOk : (LiteState.transact delivery answered state).1 = .ok value) :
    answered.1 = .ok value ∧
      (LiteState.transact delivery answered state).2 = { state with scopes := answered.2 } := by
  cases delivery with
  | applied => exact ⟨ok_of_mapError isOk, rfl⟩
  | refused => cases isOk
  | replyLost => cases isOk

theorem seedRow_keeps {row : CapturesRow}
    (captured : Captured state.signals.tables signal row.captures) :
    Keeps lite peer (fun _ later => Seeded scope signal row.captures later)
      (seedRow lite scope signal row) state := by
  rw [seedRow]
  split
  · rename_i empty
    refine .pure ?_
    intro _ rely _
    exact ⟨(grows_of_rely rely).captured _ _ captured, .inl (List.isEmpty_iff.mp empty)⟩
  apply call_keeps
  · intro _ rely _
    exact .seed signal row.captures ((grows_of_rely rely).captured _ _ captured)
  intro before turn _ rely _ _ valued _ onward
  have kept := (grows_of_rely rely).captured _ _ captured
  cases reply : (perform lite peer (.writeScope scope
      (.seed scope signal) (lite.seedValues signal row.captures)) turn before).1 with
  | error =>
    rw [reply] at valued
    cases valued
  | ok =>
    rw [reply] at valued
    obtain ⟨outcome, now⟩ := transact_of_ok reply
    have claimed := claim_of_written outcome valued
    have seeded : Seeded scope signal row.captures
        (perform lite peer (.writeScope scope (.seed scope signal)
          (lite.seedValues signal row.captures)) turn before).2 := by
      rw [perform, now]
      exact ⟨kept, .inr (.inl claimed)⟩
    exact seeded.grown (grows_of_rely onward)

theorem seedTriggerCaptures_keeps (root : Option Uuid) :
    Keeps lite peer
      (fun _ later => ∀ signal, root = some signal →
        ∃ captures, Seeded scope signal captures later)
      (seedTriggerCaptures lite scope root) state := by
  cases root with
  | none =>
    refine .pure ?_
    intro _ _ _ _ isSome
    cases isSome
  | some signal =>
    apply read_keeps.andThen
    intro found later _ read
    cases found with
    | none =>
      have reported : Keeps lite peer Any (tell (.reportAbsent signal) : LiteM LaunchFault Unit)
          later := by
        apply call_free
        intro _ rely _
        exact (read.2 rfl).relied rely
      apply reported.andThen
      intro _ _ _ _
      exact SafeTry.throw
    | some row =>
      apply (seedRow_keeps (read.1 row rfl)).weaken
      intro _ _ _ seeded _ isOrigin
      cases isOrigin
      exact ⟨row.captures, seeded⟩

theorem spawnClaimed_keeps (run : Uuid) (root : Option Uuid) :
    Keeps lite peer Any (spawnClaimed lite run root) state := by
  have made : Keeps lite peer Any
      (.request (.createScope lite.contextNamespace run (.taskScope run) [])
        (fun reply => (reply.mapError .createError).bind (grantedScope run)) :
        LiteM LaunchFault Uuid) state := by
    apply call_free
    intro _ _ _
    exact ⟨by simp, by simp⟩
  apply made.andThen
  intro _ _ _ _
  apply (seedTriggerCaptures_keeps root).andThen
  intro _ _ _ seeded
  apply call_free
  intro _ rely _
  cases root with
  | none => trivial
  | some signal =>
    obtain ⟨captures, isSeeded⟩ := seeded signal rfl
    exact ⟨captures, isSeeded.grown (grows_of_rely rely)⟩

theorem launch_keeps (run : Uuid) (root : Option Uuid)
    (unlaunched : ∀ event, (peer, event) ∉ state.history) :
    Keeps lite peer Any (launch lite run root) state := by
  have arrived : Keeps lite peer Any (tell (.arrive run root) : LiteM String Unit) state := by
    apply call_free
    intro _ rely _ event mem
    exact unlaunched event (own_of_rely rely mem)
  have linked : ∀ later, Keeps lite peer Any (linkTask run root) later := by
    intro later
    cases root with
    | none =>
      exact .done
    | some signal =>
      have linking : Keeps lite peer Any (lift (query () (.linkCaptures signal run))) later := by
        apply plain_keeps
        exact Program.all_request trivial
      apply (SafeExcept.attempt linking).andThen
      intro _ _ _ _
      exact .done
  apply arrived.andThen
  intro _ first _ _
  apply (linked first).andThen
  intro _ _ _ _
  apply (SafeExcept.attempt (spawnClaimed_keeps run root)).andThen
  intro _ _ _ _
  exact .done

/-- Triggers draw signal ids and tasks write under run ids; what a replay
carries has the bare name of an output. -/
def LiteCommand.Ordinary (lite : Lite) : LiteCommand → Prop
  | .trigger _ fresh => lite.isSignalId fresh = true
  | .rehydrate _ plan => ∀ value ∈ plan, '/' ∉ value.key.toList
  | .set _ run _ _ _ => lite.isSignalId run = false
  | .unset _ run _ _ => lite.isSignalId run = false
  | _ => True

/-- A command of one call whose answer is not looked at. -/
theorem tell_keeps (legit : ∀ before, Legit lite peer op before) (state : LiteState) :
    Keeps lite peer Any (do
        let _ ← tell op
        pure CommandEnd.handled : LiteM String CommandEnd) state := by
  have told : Keeps lite peer Any (tell op : LiteM String op.Reply) state := by
    apply call_free
    intro before _ _
    exact legit before
  apply told.andThen
  intro _ _ _ _
  exact .done

theorem drain_keeps (run : Uuid) (state : LiteState) : Keeps lite peer Any (drain run) state := by
  have snapped : Keeps lite peer Any (tell (.snapshotRun run) : LiteM String _) state := by
    apply call_free
    intro _ _ _
    trivial
  apply snapped.andThen
  intro outcome _ _ _
  cases snapshotScope outcome with
  | none =>
    exact .done
  | some =>
    apply tell_keeps
    intro _
    trivial

theorem program_keeps (command : LiteCommand) (ordinary : command.Ordinary lite)
    (unlaunched : ∀ event, (peer, event) ∉ state.history) :
    Keeps lite peer Any (command.program lite) state := by
  cases command with
  | trigger request => exact dispatchTrigger_keeps request ordinary state
  | wakeup request fresh => exact plain_keeps (dispatchWakeup_plain lite request fresh) state
  | cancel request fresh reads =>
    exact plain_keeps (dispatchCancel_plain lite request fresh reads) state
  | dispatchPrecondition | cancelPrecondition =>
    apply plain_keeps
    exact (Program.all_request trivial).andDone
  | signalApplied =>
    apply plain_keeps
    apply Program.All.andThen (Program.all_request trivial)
    intro _
    trivial
  | replay | get =>
    apply tell_keeps
    intro _
    trivial
  | rehydrate =>
    apply tell_keeps
    intro _
    exact ⟨by simp, ordinary⟩
  | launch run signal => exact launch_keeps run signal unlaunched
  | set _ run nonce name envelope =>
    apply tell_keeps
    intro _
    exact .task nonce run name envelope ordinary
  | unset _ run nonce name =>
    apply tell_keeps
    intro _
    exact ⟨⟨nonce, rfl⟩, run, name, rfl, ordinary⟩
  | stage =>
    apply tell_keeps
    intro _
    exact ⟨by simp, by simp⟩
  | drain run => exact drain_keeps run state
  | idle =>
    exact .done

def initialLite (definitions : List LiveDefinition)
    (subscriptions : List Subscription) : LiteState where
  signals := initialState definitions subscriptions
  scopes := .empty
  history := []

theorem sound_initialLite (lite : Lite) (definitions : List LiveDefinition)
    (subscriptions : List Subscription) :
    Sound lite (initialLite definitions subscriptions) where
  isSignal := fun _ mem => by cases mem
  recorded := fun _ _ mem => by cases mem
  seeded := fun _ mem => by cases mem
  owned := fun _ mem => by cases mem
  announced := fun _ _ _ _ mem => by cases mem
  absent := fun _ _ mem => by cases mem
  started := fun _ _ _ _ _ mem => by cases mem

variable (lite) (jobs : Nat → LiteCommand)
  (definitions : List LiveDefinition) (subscriptions : List Subscription)

theorem sound_run (ordinary : ∀ peer, (jobs peer).Ordinary lite) {turns : List (Nat × Turn)}
    (meets : (start lite jobs (initialLite definitions
      subscriptions)).RunMeets (liteSystem lite) Timely turns) :
    Sound lite ((start lite jobs (initialLite definitions
      subscriptions)).run (liteSystem lite) turns).state := by
  have sound := sound_initialLite lite definitions subscriptions
  have safe : AllSafe (liteSystem lite) (discipline lite) (fun _ _ _ => True)
      (start lite jobs (initialLite definitions subscriptions)) := by
    refine ⟨sound, ?_⟩
    intro peer
    have clientSafe : Keeps lite peer Any ((jobs peer).program lite)
        (initialLite definitions subscriptions) := by
      apply program_keeps _ (ordinary peer)
      intro _ mem
      cases mem
    apply (clientSafe sound).weaken
    intro _ _ _ _
    trivial
  exact (safe.run meets).1.1

/-- In every run, a launch for the signal of a manual trigger that was relayed
before its task came in does not fail for missing Event variables, and a
process that starts for the signal of a manual trigger has exactly the
captures of that trigger under the signal in its scope. -/
theorem manual_captures_seeded (ordinary : ∀ peer, (jobs peer).Ordinary lite)
    (turns : List (Nat × Turn))
    (meets : (start lite jobs (initialLite definitions
      subscriptions)).RunMeets (liteSystem lite) Timely turns) :
    let final := ((start lite jobs (initialLite definitions
      subscriptions)).run (liteSystem lite) turns).state
    (∀ peer run signal relayed,
      (peer, .dispatched run (some signal) relayed) ∈ final.history →
        (∃ sending ∈ relayed, manualSignal sending = some signal) →
          (peer, .capturesAbsent signal) ∉ final.history) ∧
    ∀ peer run scope signal values,
      (peer, .started run scope (some signal) values) ∈ final.history →
        ∀ author sending,
          (author, .relayed sending) ∈ final.signals.history →
            manualSignal sending = some signal →
              ∃ captures, (sending.expects = captures.map fun capture =>
                  ((signal, capture.name), capture.envelope.content)) ∧
                lite.Exactly signal captures values := by
  intro final
  have sound : Sound lite final := sound_run lite jobs definitions subscriptions ordinary meets
  constructor
  · intro peer run signal relayed dispatched announced absent
    obtain ⟨sending, isRelayed, manual⟩ := announced
    exact sound.absent peer signal absent run relayed dispatched sending isRelayed manual
  · intro peer run scope signal values started author sending sent manual
    obtain ⟨_, caught, exactly⟩ := sound.started peer run scope signal values started
    obtain ⟨others, recorded, expects⟩ := sound.recorded author sending sent signal manual
    rw [caught.eq recorded] at exactly
    exact ⟨others, expects, exactly⟩

/-- Ids are written as that many strokes; even ones are signal ids. -/
def sampleLite : Lite where
  paths := samplePaths
  derivedRunId := fun workflowId _ => workflowId
  codec := ⟨fun _ => "", fun _ => .ok ()⟩
  contextNamespace := "default"
  uuid :=
    { text := fun id => String.ofList (List.replicate id '|')
      injective := by
        intro _ _ same
        have lengths := congrArg (fun text => text.toList.length) same
        simpa using lengths
      noSlash := by
        intro _ member
        have isStroke : '/' = '|' := by
          simp only [String.toList_ofList] at member
          exact List.eq_of_mem_replicate member
        exact absurd isStroke (by decide) }
  encode := fun envelope => [if envelope.content.present then 1 else 0]
  isSignalId := fun id => id % 2 = 0

def sampleDefinition : LiveDefinition := ⟨3, 1, [⟨"who", some "who"⟩]⟩

def sampleSubscription : Subscription := ⟨"ping", 3, none, [⟨"who", some "who"⟩]⟩

def sampleInputs : Json := .object [("who", .string "ada")]

/-- A manual trigger, and the task of the run that it starts. -/
def manualCommands : Nat → LiteCommand
  | 0 => .trigger ⟨3, none, some sampleInputs, none, none⟩ 4
  | 1 => .launch 7 (some 4)
  | _ => .idle

theorem manual_captures_seeded_sample :
    let final := ((start sampleLite manualCommands
      (initialLite [sampleDefinition] [])).run (liteSystem sampleLite)
        (steps 0 5 ++ steps 1 6)).state
    (1, .started 7 7 (some 4) [⟨"||||/who", [1]⟩]) ∈ final.history ∧
      (1, .capturesAbsent 4) ∉ final.history ∧
      ∃ captures, sampleLite.Exactly 4 captures [⟨"||||/who", [1]⟩] := by
  intro final
  have ordinary : ∀ peer, (manualCommands peer).Ordinary sampleLite := by
    intro peer
    match peer with
    | 0 => rfl
    | 1 => trivial
    | _ + 2 => trivial
  have seeded := manual_captures_seeded sampleLite manualCommands
    [sampleDefinition] [] ordinary (steps 0 5 ++ steps 1 6)
    (by decide +kernel)
  have started : (1, .started 7 7 (some 4) [⟨"||||/who", [1]⟩]) ∈
      final.history := by decide +kernel
  have dispatched : ∃ relayed,
      (1, .dispatched 7 (some 4) relayed) ∈ final.history ∧
        ∃ sending ∈ relayed, manualSignal sending = some 4 :=
    ⟨relayedOf final.signals.history, by decide +kernel, by decide +kernel⟩
  have sent : ∃ sending,
      (0, .relayed sending) ∈ final.signals.history ∧ manualSignal sending = some 4 :=
    ⟨⟨.signal ⟨4, none, .trigger 3 none .manual none⟩, none,
      [((4, "who"), ⟨.string, .string "ada", true⟩)]⟩, by decide +kernel, rfl⟩
  obtain ⟨relayed, isDispatched, announced⟩ := dispatched
  obtain ⟨sending, isSent, isManual⟩ := sent
  obtain ⟨captures, _, exactly⟩ := seeded.2 1 7 7 4 _ started 0 sending isSent isManual
  exact ⟨started, seeded.1 1 7 4 relayed isDispatched announced, captures, exactly⟩

/-- A wakeup that a workflow subscribes to, and a replay, each with the task
of the run that it starts. -/
def unarchivedCommands : Nat → LiteCommand
  | 0 => .wakeup ⟨"ping", some sampleInputs, none⟩ 4
  | 1 => .launch 7 (some 4)
  | 2 => .replay 6 3
  | 3 => .launch 9 (some 6)
  | _ => .idle

/-- The tasks of a wakeup and of a replay come in after their Triggers were
relayed; both launches fail for missing Event variables. -/
theorem captures_absent_of_wakeup_and_replay :
    let world := start sampleLite unarchivedCommands
      (initialLite [sampleDefinition] [sampleSubscription])
    let turns := steps 0 6 ++ steps 1 6 ++ steps 2 1 ++ steps 3 6
    let final := (world.run (liteSystem sampleLite) turns).state
    world.RunMeets (liteSystem sampleLite) Timely turns ∧
      (0, .relayed ⟨.signal ⟨4, none, .trigger 3 none (.wakeup "ping") none⟩,
        none, [((4, "who"), ⟨.string, .string "ada", true⟩)]⟩) ∈ final.signals.history ∧
      final.history.map Prod.snd =
        [.capturesAbsent 6, .dispatched 9 (some 6) (relayedOf final.signals.history),
          .replayed 6 3, .capturesAbsent 4,
          .dispatched 7 (some 4) (relayedOf final.signals.history)] := by
  decide +kernel

end Tickr.LiteCaptures
