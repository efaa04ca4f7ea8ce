import Tickr.Signals.Running

/-!
# What an answer tells the client

A duplicate is the business of whoever claimed its key first.  Its answer is true
when the first command was itself answered as sent and had the same aim.
-/

namespace Tickr.Signals

open LogStream (Uuid)
open KeyValue Concurrent

/-- The signal that a command sends under its own identity. -/
def Command.signal : Command → Option Signal
  | .trigger request fresh => some (request.request.signal fresh)
  | .cancel request fresh _ =>
    some ⟨fresh, request.idempotencyKey, .cancel request.target request.note⟩
  | _ => none

/-- The signal is what the command asks for: a trigger of its workflow, or a
cancellation of its target. -/
def Command.Wants (command : Command) (signal : Signal) : Prop :=
  match command with
  | .trigger request _ => ∃ scheduledAt source name,
      signal.variant = .trigger request.workflowId scheduledAt source name
  | .cancel request _ _ => ∃ note, signal.variant = .cancel request.target note
  | _ => True

def Answer.done : Answer → Option Uuid
  | .fresh signalId | .cancelledInstance signalId
  | .cancelledByTag signalId _ => some signalId
  | _ => none

def Answer.signalId : Answer → Option Uuid
  | .deduplicated original => some original
  | answer => answer.done

/-- What an answer says is true: the relay has accepted a signal with the
identity in the answer that does what the command asks for. -/
def Truthful (jobs : Nat → Command) (peer : Nat) (answer : Answer)
    (state : SignalState) : Prop :=
  (jobs peer).signal.isSome = true →
    ∀ signalId, answer.signalId = some signalId →
      ∃ author sending signal, (author, .relayed sending) ∈ state.history ∧
        sending.item = .signal signal ∧ signal.signalId = signalId ∧
        (jobs peer).Wants signal

/-- Commands whose hash leaves no doubt about the aim, once they share key and
hash: two cancellations, or two triggers of one workflow. -/
def Command.sharesAim : Command → Command → Bool
  | .trigger request _, .trigger other _ => request.workflowId = other.workflowId
  | .cancel _ _ _, .cancel _ _ _ => true
  | _, _ => false

theorem CancelTarget.json_injective : Function.Injective CancelTarget.json := by
  intro left right same
  cases left with
  | workflowInstance _ leftNode =>
    cases right with
    | workflowInstance _ node =>
      cases leftNode with
      | none =>
        cases node with
        | none =>
          simp only [CancelTarget.json, Json.object.injEq,
            List.cons.injEq, Prod.mk.injEq, Json.integer.injEq] at same
          simp only [true_and, and_true] at same
          rw [Int.ofNat.inj same]
        | some => simp [CancelTarget.json] at same
      | some =>
        cases node with
        | none => simp [CancelTarget.json] at same
        | some =>
          simp only [CancelTarget.json, Option.elim, Json.object.injEq,
            List.cons.injEq, Prod.mk.injEq, Json.integer.injEq] at same
          simp only [true_and, and_true] at same
          rw [Int.ofNat.inj same.1, Int.ofNat.inj same.2]
    | byTag => simp [CancelTarget.json] at same
  | byTag =>
    cases right with
    | workflowInstance => simp [CancelTarget.json] at same
    | byTag =>
      simp only [CancelTarget.json, Json.object.injEq, List.cons.injEq,
        Prod.mk.injEq, true_and, and_true] at same
      congr 1
      apply List.map_injective_iff.mpr _ same
      intro _ _ equal
      simp only [Prod.mk.injEq, Json.string.injEq] at equal
      exact Prod.ext equal.1 equal.2

theorem CancelRequest.target_eq {left right : CancelRequest}
    (same : left.hash = right.hash) : left.target = right.target := by
  have digests := Digest.mk.inj same
  simp only [Json.object.injEq, List.cons.injEq, Prod.mk.injEq, true_and, and_true] at digests
  exact CancelTarget.json_injective digests.2

variable {setup : Deployment} {jobs : Nat → Command}

def SignalOp.isDuplicateAnswer : SignalOp → Bool
  | .respond (.deduplicated _) => true
  | _ => false

def SignalEvent.reportsDone : SignalEvent → Bool
  | .answered answer => answer.done.isSome
  | _ => false

/-- A command is answered as a duplicate only when whoever wrote its key to the
cache had the same aim and has been answered as done. -/
def FirstIsDone (jobs : Nat → Command) (peer : Nat) (op : SignalOp)
    (state : SignalState) : Prop :=
  op.isDuplicateAnswer = true → (jobs peer).signal.isSome = true →
    ∀ write ∈ state.cache,
      (jobs peer).cacheClaim.map Prod.fst = some write.key →
        (jobs write.author).sharesAim (jobs peer) = true ∧
          ∃ event ∈ state.history, event.1 = write.author ∧ event.2.reportsDone = true

instance (peer : Nat) (op : SignalOp) (state : SignalState) :
    Decidable (FirstIsDone jobs peer op state) :=
  inferInstanceAs (Decidable (_ → _ → ∀ write ∈ _, _))

/-- The relay has the signal of a client's command. -/
def Carried (jobs : Nat → Command) (peer : Nat) (signalId : Uuid)
    (state : SignalState) : Prop :=
  ∀ signal, (jobs peer).signal = some signal →
    signal.signalId = signalId ∧ ∃ sending,
      (peer, .relayed sending) ∈ state.history ∧ sending.item = .signal signal

/-- What the cache and the answers of a run are worth. -/
structure Answering (jobs : Nat → Command) (state : SignalState) : Prop where
  claimed : ∀ write ∈ state.cache, ∃ row, write.value = some row ∧
    (jobs write.author).cacheClaim = some (write.key, row)
  carried : ∀ peer answer signalId,
    (peer, .answered answer) ∈ state.history →
      answer.done = some signalId → Carried jobs peer signalId state
  truthful : ∀ peer answer, (peer, .answered answer) ∈ state.history →
    Truthful jobs peer answer state

variable {peer : Nat} {answer : Answer} {signalId : Uuid}
  {state after : SignalState} {op : SignalOp}

theorem Carried.grown (taken : Carried jobs peer signalId state)
    (grows : Grows state after) :
    Carried jobs peer signalId after := by
  intro signal signals
  obtain ⟨id, sending, relayed, item⟩ := taken signal signals
  exact ⟨id, sending, grows.mem relayed, item⟩

theorem Truthful.grown (truthful : Truthful jobs peer answer state)
    (grows : Grows state after) : Truthful jobs peer answer after := by
  intro isSome signalId id
  obtain ⟨author, sending, signal, relayed, rest⟩ := truthful isSome signalId id
  exact ⟨author, sending, signal, grows.mem relayed, rest⟩

variable {signal : Signal} {command : Command}

theorem Command.wants_signal (signals : command.signal = some signal) : command.Wants signal := by
  cases command with
  | trigger =>
    cases signals
    exact ⟨_, _, _, rfl⟩
  | cancel =>
    cases signals
    exact ⟨_, rfl⟩
  | _ => cases signals

theorem Justified.carried (justified : Justified jobs peer answer state)
    (isDone : answer.done = some signalId) :
    Carried jobs peer signalId state := by
  intro _ isSignal
  cases isCommand : jobs peer with
  | trigger _ fresh =>
    rw [isCommand] at isSignal
    cases isSignal
    cases answer with
    | fresh =>
      simp only [Justified, isCommand] at justified
      cases isDone
      exact ⟨justified.1.symm, justified.2⟩
    | cancelledInstance | cancelledByTag => simp only [Justified, isCommand] at justified
    | deduplicated | conflict | failed => cases isDone
  | cancel _ fresh =>
    rw [isCommand] at isSignal
    cases isSignal
    cases answer with
    | fresh => simp only [Justified, isCommand] at justified
    | cancelledInstance | cancelledByTag =>
      simp only [Justified, isCommand] at justified
      cases isDone
      exact ⟨justified.1.symm, _, justified.2, rfl⟩
    | deduplicated | conflict | failed => cases isDone
  | _ =>
    rw [isCommand] at isSignal
    cases isSignal

theorem Carried.truthful (taken : Carried jobs peer signalId state)
    (id : answer.signalId = some signalId) :
    Truthful jobs peer answer state := by
  intro isSome _ ne
  rw [id] at ne
  cases ne
  obtain ⟨signal, signals⟩ := Option.isSome_iff_exists.mp isSome
  obtain ⟨same, sending, relayed, item⟩ := taken signal signals
  exact ⟨peer, sending, signal, relayed, item, same, Command.wants_signal signals⟩

theorem Justified.cached (fair : Justified jobs peer (.deduplicated original) state)
    (isSome : (jobs peer).signal.isSome = true) :
    Cached jobs peer original state := by
  cases isCommand : jobs peer with
  | trigger | cancel =>
    simp only [Justified, isCommand] at fair
    exact fair
  | _ =>
    rw [isCommand] at isSome
    cases isSome

variable {first second : Command}

theorem Command.wants_of_sharesAim (shares : first.sharesAim second = true)
    (firstClaim : first.cacheClaim = some (key, firstRow))
    (claim : second.cacheClaim = some (key, secondRow))
    (hash : firstRow.inputSha256 = secondRow.inputSha256)
    (wants : first.Wants signal) : second.Wants signal := by
  cases first with
  | trigger request =>
    cases second with
    | trigger other =>
      have same : request.workflowId = other.workflowId := of_decide_eq_true shares
      obtain ⟨scheduledAt, source, name, isTrigger⟩ := wants
      refine ⟨scheduledAt, source, name, ?_⟩
      rw [← same]
      exact isTrigger
    | _ => cases shares
  | cancel =>
    cases second with
    | cancel =>
      obtain ⟨_, _, isFirst⟩ := Option.map_eq_some_iff.mp firstClaim
      obtain ⟨_, _, isSecond⟩ := Option.map_eq_some_iff.mp claim
      cases isFirst
      cases isSecond
      obtain ⟨note, isCancel⟩ := wants
      refine ⟨note, ?_⟩
      rw [← CancelRequest.target_eq hash]
      exact isCancel
    | _ => cases shares
  | _ => cases shares

/-- The row a duplicate was read from names the signal of whoever wrote it. -/
theorem Command.signalId_of_cacheClaim (claim : command.cacheClaim = some (key, row))
    (signals : command.signal = some signal) :
    signal.signalId = row.signalId := by
  cases command with
  | trigger | cancel =>
    obtain ⟨_, _, isClaim⟩ := Option.map_eq_some_iff.mp claim
    cases isClaim
    cases signals
    rfl
  | _ => cases signals

theorem Command.signal_isSome_of_sharesAim (shares : first.sharesAim second = true) :
    first.signal.isSome = true := by
  cases first with
  | trigger | cancel => rfl
  | _ => cases shares

theorem truthful_of_firstIsDone (answering : Answering jobs state)
    (justified : Justified jobs peer (.deduplicated original) state)
    (firstIsDone : FirstIsDone jobs peer (.respond (.deduplicated original)) state) :
    Truthful jobs peer (.deduplicated original) state := by
  intro isSome _ id
  cases id
  obtain ⟨_, _, write, claim, isWrite, isKey, value⟩ := justified.cached isSome
  have keyed : (jobs peer).cacheClaim.map Prod.fst = some write.key := by
    rw [claim, isKey]
    rfl
  obtain ⟨shares, event, happened, isAuthor, isDone⟩ := firstIsDone rfl isSome write isWrite keyed
  obtain ⟨_, kept, authorClaim⟩ := answering.claimed write isWrite
  rw [value] at kept
  cases kept
  obtain ⟨_, done⟩ := event
  cases isAuthor
  cases done with
  | answered answer =>
    obtain ⟨doneId, isDoneId⟩ := Option.isSome_iff_exists.mp isDone
    obtain ⟨signal, isSignal⟩ := Option.isSome_iff_exists.mp
      (Command.signal_isSome_of_sharesAim shares)
    obtain ⟨_, sending, relayed, item⟩ :=
      answering.carried _ answer doneId happened isDoneId signal isSignal
    refine ⟨write.author, sending, signal, relayed, item,
      Command.signalId_of_cacheClaim authorClaim isSignal, ?_⟩
    rw [isKey] at authorClaim
    exact Command.wants_of_sharesAim shares authorClaim claim rfl (Command.wants_signal isSignal)
  | _ => cases isDone

theorem Answering.step (answering : Answering jobs state)
    (legit : Legit setup jobs peer op state)
    (firstIsDone : FirstIsDone jobs peer op state)
    (change : Change setup.paths peer state op after) :
    Answering jobs after where
  claimed := by
    intro write mem
    rcases change.cache with same | ⟨call, _, _, isCall, writes, added⟩
    · rw [same] at mem
      exact answering.claimed write mem
    rw [added] at mem
    rcases List.mem_cons.mp mem with new | older
    · subst new
      subst isCall
      cases call with
      | create _ row =>
        obtain ⟨isKey, valued⟩ := writes
        subst isKey
        exact ⟨row, valued, legit⟩
      | entry => cases writes
      | _ => cases legit
    · exact answering.claimed write older
  carried := by
    intro author answer signalId mem done
    rcases change.source mem with older | ⟨owner, respond⟩
    · exact (answering.carried author answer signalId older done).grown change.grows
    · subst owner
      subst respond
      exact (Justified.carried legit done).grown change.grows
  truthful := by
    intro author answer mem
    rcases change.source mem with older | ⟨owner, respond⟩
    · exact (answering.truthful author answer older).grown change.grows
    subst owner
    subst respond
    apply Truthful.grown _ change.grows
    cases answer with
    | deduplicated => exact truthful_of_firstIsDone answering legit firstIsDone
    | fresh | cancelledInstance | cancelledByTag =>
      exact (Justified.carried legit rfl).truthful rfl
    | conflict | failed =>
      intro _ _ id
      cases id

/-- Truth of the answers, as a property of runs. -/
def answering (setup : Deployment) (jobs : Nat → Command) :
    Concern setup jobs where
  condition := FirstIsDone jobs
  invariant := Answering jobs
  keeps := fun _ _ _ _ _ holds legit meets change =>
    holds.step legit meets change

variable (setup) (jobs) (definitions : List LiveDefinition)
  (subscriptions : List Subscription)

def retriedTrigger : Nat → Command
  | 0 => .trigger ⟨1, none, none, some "key", none⟩ 10
  | 1 => .trigger ⟨1, none, none, some "key", none⟩ 20
  | _ => .idle

/-- Workflow 1 is known; both triggers run as the turns say. -/
def retriedRun (turns : List (Nat × Turn)) : SignalWorld :=
  (start sampleDeployment retriedTrigger (initialState [⟨1, 1, []⟩] [])).run
    (signalSystem sampleDeployment.paths) turns

end Tickr.Signals
