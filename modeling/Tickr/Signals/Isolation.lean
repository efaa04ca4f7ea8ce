import Tickr.Signals.Running

/-!
# Captures of consumers that share a signal

All consumers of one wakeup read their captures under its identity.  Each finds
its own value when all values written under a key agree.
-/

namespace Tickr.Signals

open LogStream (Uuid)
open KeyValue Concurrent

def SignalOp.capturesWritten : SignalOp → List (CaptureKey × Envelope)
  | .workingSet (.create key envelope) => [(key, envelope)]
  | .workingSet (.update key envelope _) => [(key, envelope)]
  | .workingSet (.put key envelope) => [(key, envelope)]
  | .createScope request | .writeScope request =>
    request.values.map fun value => ((request.scopeId, value.1), value.2)
  | _ => []

def SignalOp.losesCaptures : SignalOp → Bool
  | .warn warning => warning.losesCaptures
  | _ => false

/-- The call hands messages to the sender or records them. -/
def SignalOp.passesMessages : SignalOp → Bool
  | .send _ | .collect _ | .persistEffects _ _ => true
  | _ => false

/-- A value has the content of every value written under its key before and
with it, no command goes on without its captures, and whoever sends has a
working set. -/
def CapturesAgree (setup : Deployment) (jobs : Nat → Command)
    (peer : Nat) (op : SignalOp) (state : SignalState) : Prop :=
  (∀ value ∈ op.capturesWritten,
    (∀ write ∈ state.workingSet, write.key = value.1 →
      ∀ envelope ∈ write.value, envelope.content = value.2.content) ∧
    ∀ other ∈ op.capturesWritten, other.1 = value.1 → other.2.content = value.2.content) ∧
    op.losesCaptures = false ∧
    (op.passesMessages = true → (jobs peer).workingSet setup ≠ .absent)

instance (setup : Deployment) (jobs : Nat → Command) (peer : Nat)
    (op : SignalOp) (state : SignalState) :
    Decidable (CapturesAgree setup jobs peer op state) :=
  inferInstanceAs (Decidable ((∀ value ∈ _, (∀ write ∈ _, _ →
    ∀ envelope ∈ _, _) ∧ ∀ other ∈ _, _) ∧ _ ∧ (_ → _)))

variable {setup : Deployment} {jobs : Nat → Command} {peer : Nat}
  {op : SignalOp} {state after : SignalState} {key : CaptureKey}
  {content : Content}

/-- Whoever reads the key finds this content, unless the captures of the signal
were cleaned up. -/
def FindsContent (key : CaptureKey) (content : Content) (state : SignalState) : Prop :=
  (∀ envelope, lookup key state.workingSet = some envelope → envelope.content = content) ∧
    (lookup key state.workingSet = none →
      ∃ write ∈ state.workingSet, write.key = key ∧ write.value = none)

/-- All values ever written under one key have one content. -/
def OneContent (state : SignalState) : Prop :=
  ∀ first ∈ state.workingSet, ∀ second ∈ state.workingSet,
    first.key = second.key → ∀ left right, first.value = some left →
      second.value = some right → left.content = right.content

theorem mem_capturesWritten (writes : op.WritesCapture key (some envelope)) :
    (key, envelope) ∈ op.capturesWritten := by
  cases op with
  | workingSet call =>
    cases call with
    | create | update | put =>
      obtain ⟨isKey, value⟩ := writes
      cases isKey
      cases value
      exact .head _
    | entry | keys => cases writes
    | delete =>
      obtain ⟨_, value⟩ := writes
      cases value
  | createScope | writeScope =>
    obtain ⟨scope, _, mem, value⟩ := writes
    cases value
    exact List.mem_map.mpr ⟨(key.2, envelope), mem, Prod.ext (Prod.ext scope.symm rfl) rfl⟩
  | _ => cases writes

theorem OneContent.step (one : OneContent state)
    (agree : CapturesAgree setup jobs peer op state)
    (change : Change setup.paths peer state op after) :
    OneContent after := by
  obtain ⟨added, isAdded, writes⟩ := change.workingSet
  have new : ∀ write ∈ added, ∀ envelope, write.value = some envelope →
      (write.key, envelope) ∈ op.capturesWritten := by
    intro write mem _ valued
    apply mem_capturesWritten
    rw [← valued]
    exact writes write mem
  intro first firstMember second member same left right isLeft isRight
  rw [isAdded, List.mem_append] at firstMember member
  rcases firstMember with firstNew | firstOld
  · have wrote := new first firstNew left isLeft
    rcases member with secondNew | secondOld
    · have other := new second secondNew right isRight
      exact ((agree.1 _ wrote).2 _ other same.symm).symm
    · exact ((agree.1 _ wrote).1 second secondOld same.symm right isRight).symm
  · rcases member with secondNew | secondOld
    · have wrote := new second secondNew right isRight
      exact (agree.1 _ wrote).1 first firstOld same left isLeft
    · exact one first firstOld second secondOld same left right isLeft isRight

theorem OneContent.finds (one : OneContent state) (wrote : Written expects state)
    (expected : (key, content) ∈ expects) : FindsContent key content state := by
  obtain ⟨write, isWrite, isKey, envelope, isValue, isContent⟩ := wrote (key, content) expected
  constructor
  · intro found hit
    obtain ⟨newest, isNewest, newestKey, newestValue⟩ := mem_of_lookup_eq_some hit
    have same : found.content = envelope.content :=
      one newest isNewest write isWrite (newestKey.trans isKey.symm) found
        envelope newestValue isValue
    exact same.trans isContent
  · intro isNone
    by_contra noDelete
    have valued : ∀ other ∈ state.workingSet, key = other.key → other.value.isSome = true := by
      intro other mem sameKey
      by_contra delete
      exact noDelete ⟨other, mem, sameKey.symm, Option.not_isSome_iff_eq_none.mp delete⟩
    exact not_written_of_lookup_eq_none valued rfl isNone write isWrite isKey

/-- The captures of every message are written, and values agree. -/
structure Isolated (setup : Deployment) (jobs : Nat → Command)
    (state : SignalState) : Prop where
  one : OneContent state
  lossless : ∀ peer warning, (peer, .warned warning) ∈ state.history →
    warning.losesCaptures = false
  relayed : ∀ peer sending, (peer, .relayed sending) ∈ state.history →
    Written sending.expects state
  recorded : ∀ peer signalId intents,
    (peer, .recorded signalId intents) ∈ state.history →
      ∀ sending ∈ intents, Written sending.expects state

theorem Supplied.written (given : Supplied setup jobs peer sending state)
    (lossless : ∀ peer warning, (peer, .warned warning) ∈ state.history →
      warning.losesCaptures = false) (there : (jobs peer).workingSet setup ≠ .absent) :
    Written sending.expects state := by
  rcases given with written | ⟨warning, loses, warned⟩ | isAbsent
  · exact written
  · rw [lossless peer warning warned] at loses
    cases loses
  · exact absurd isAbsent there

theorem Isolated.step (isolated : Isolated setup jobs state)
    (legit : Legit setup jobs peer op state)
    (agree : CapturesAgree setup jobs peer op state)
    (change : Change setup.paths peer state op after) :
    Isolated setup jobs after where
  one := isolated.one.step agree change
  lossless := by
    intro author warning mem
    rcases change.source mem with older | ⟨_, isWarning⟩
    · exact isolated.lossless author warning older
    · subst isWarning
      exact agree.2.1
  relayed := by
    intro author sending mem
    rcases change.source mem with older | ⟨_, send | forward⟩
    · exact (isolated.relayed author sending older).grown change.grows
    · subst send
      have written := legit.2.written isolated.lossless (agree.2.2 rfl)
      exact written.grown change.grows
    · subst forward
      obtain ⟨recorder, signalId, intents, records, intent⟩ := legit
      have written := isolated.recorded recorder signalId intents records sending intent
      exact written.grown change.grows
  recorded := by
    intro author signalId intents mem sending intent
    rcases change.source mem with older | ⟨_, persist⟩
    · exact (isolated.recorded author signalId intents older sending intent).grown change.grows
    · subst persist
      have written := (legit sending intent).written isolated.lossless (agree.2.2 rfl)
      exact written.grown change.grows

/-- Captures that do not disturb each other, as a property of runs. -/
def isolating (setup : Deployment) (jobs : Nat → Command) :
    Concern setup jobs where
  condition := CapturesAgree setup jobs
  invariant := Isolated setup jobs
  keeps := fun _ _ _ _ _ holds legit meets change =>
    holds.step legit meets change

variable (setup) (jobs) (definitions : List LiveDefinition)
  (subscriptions : List Subscription)

/-- Two workflows that take the order's customer and its carrier under one
name. -/
def orderSubscriptions : List Subscription :=
  [⟨"order", 1, none, [⟨"who", some "customer"⟩]⟩, ⟨"order", 2, none, [⟨"who", some "carrier"⟩]⟩]

def orderWakeup : Nat → Command
  | 0 => .wakeup ⟨"order", some (.object [("carrier", .string "ship"),
      ("customer", .string "ada")]), none⟩ 30
  | _ => .idle

def orderRun (subscriptions : List Subscription) (count : Nat) : SignalWorld :=
  (start sampleDeployment orderWakeup (initialState [] subscriptions)).run
    (signalSystem sampleDeployment.paths) (steps 0 count)

def customerTrigger : Sending :=
  ⟨.signal ⟨30, none, .trigger 1 none (.wakeup "order") none⟩, none,
    [((30, "who"), ⟨.string, .string "ada", true⟩)]⟩

end Tickr.Signals
