import Mathlib.Data.List.Basic
import Tickr.Concurrent

/-!
# A message subject with deduplication

Messages are kept in the order they were published.  A publish whose message id
is remembered is acknowledged and dropped; whether an id seen before is still
remembered is decided by the schedule.  `landed`, what was published since a
client last read, is a history variable.
-/

namespace Tickr.JetStream

open Concurrent

structure Stored (ι α : Type) where
  sequence : Nat
  id : ι
  message : α
  deriving DecidableEq

structure Subject (ι α : Type) where
  stored : List (Stored ι α)
  lastSequence : Nat
  seenIds : List ι
  landed : Nat → List α

def Subject.empty {ι α : Type} : Subject ι α :=
  { stored := [], lastSequence := 0, seenIds := [], landed := fun _ => [] }

/-- The messages, oldest first. -/
def Subject.messages {ι α : Type} (subject : Subject ι α) : List α :=
  subject.stored.map Stored.message

inductive StreamError where
  | unavailable
  | notFound

inductive SubjectOp (ι α : Type) where
  | getStream
  | readAll
  | publish (id : ι) (message : α)
  | deleteMessage (sequence : Nat)

@[reducible]
def SubjectOp.Result {ι α : Type} : SubjectOp ι α → Type
  | .getStream => Unit
  | .readAll => List (Stored ι α)
  | .publish _ _ => Unit
  | .deleteMessage _ => Unit

@[reducible]
def SubjectOp.Reply {ι α : Type} (op : SubjectOp ι α) : Type := Except StreamError op.Result

/-- How a call arrives: answered, not at all, or applied while its answer is
lost; and whether a message id seen before is still remembered. -/
inductive Arrival where
  | answered (remembers : Bool)
  | refused
  | replyLost (remembers : Bool)

/-- Whether an id seen before would be recognised. -/
def Arrival.remembers : Arrival → Bool
  | .answered remembers | .replyLost remembers => remembers
  | .refused => true

variable {ι α : Type}

def Subject.append (subject : Subject ι α) (id : ι) (message : α) : Subject ι α :=
  { stored := subject.stored ++ [⟨subject.lastSequence + 1, id, message⟩]
    lastSequence := subject.lastSequence + 1
    seenIds := id :: subject.seenIds
    landed := fun peer => subject.landed peer ++ [message] }

/-- The client has seen everything stored. -/
def Subject.readBy (subject : Subject ι α) (peer : Nat) : Subject ι α :=
  { subject with landed := Function.update subject.landed peer [] }

variable [DecidableEq ι]

/-- The effect of a call that reaches the stream. -/
def answer (peer : Nat) (op : SubjectOp ι α) (remembers : Bool)
    (subject : Subject ι α) : op.Reply × Subject ι α :=
  match op with
  | .getStream => (.ok (), subject)
  | .readAll => (.ok subject.stored, subject.readBy peer)
  | .publish id message =>
    if id ∈ subject.seenIds ∧ remembers = true then (.ok (), subject)
    else (.ok (), subject.append id message)
  | .deleteMessage sequence =>
    if subject.stored.any fun stored => stored.sequence = sequence then
      (.ok (), { subject with
          stored := subject.stored.filter fun stored =>
            stored.sequence ≠ sequence })
    else (.error .notFound, subject)

def perform (peer : Nat) (op : SubjectOp ι α) (arrival : Arrival)
    (subject : Subject ι α) : op.Reply × Subject ι α :=
  match arrival with
  | .answered remembers => answer peer op remembers subject
  | .refused => (.error .unavailable, subject)
  | .replyLost remembers => (.error .unavailable, (answer peer op remembers subject).2)

def system : System (Subject ι α) (SubjectOp ι α) Arrival SubjectOp.Reply where
  perform := perform

variable {ι α : Type} {peer : Nat} {subject : Subject ι α}

@[simp]
theorem messages_append (id : ι) (message : α) :
    (subject.append id message).messages = subject.messages ++ [message] := by
  simp [Subject.append, Subject.messages]

@[simp]
theorem landed_readBy : (subject.readBy peer).landed peer = [] := by
  simp [Subject.readBy]

theorem landed_readBy_other {other : Nat} (ne : other ≠ peer) :
    (subject.readBy peer).landed other = subject.landed other := by
  simp [Subject.readBy, ne]

variable {ι α : Type} [DecidableEq ι] {peer : Nat} {arrival : Arrival} {subject : Subject ι α}

theorem system_perform (op : SubjectOp ι α) :
    system.perform peer op arrival subject = perform peer op arrival subject := rfl

/-- A read gives all that is stored, or an error. -/
theorem perform_readAll :
    (perform peer .readAll arrival subject).2 = subject ∧
        (∀ found, (perform peer .readAll arrival subject).1 ≠ .ok found) ∨
      (perform peer .readAll arrival subject).2 = subject.readBy peer ∧
        ∀ found, (perform peer .readAll arrival subject).1 = .ok found →
          found = subject.stored := by
  cases arrival with
  | answered =>
    refine .inr ⟨rfl, ?_⟩
    intro _ answered
    cases answered
    rfl
  | refused =>
    refine .inl ⟨rfl, ?_⟩
    intro _ answered
    cases answered
  | replyLost =>
    refine .inr ⟨rfl, ?_⟩
    intro _ answered
    cases answered

/-- A publish appends its message, or leaves the subject as it is; if it is
then acknowledged, its id was seen before. -/
theorem perform_publish (id : ι) (message : α) :
    (perform peer (.publish id message) arrival subject).2 = subject.append id message ∨
      (perform peer (.publish id message) arrival subject).2 = subject ∧
        ((perform peer (.publish id message) arrival subject).1 = .ok () →
          id ∈ subject.seenIds) := by
  have answers : ∀ remembers,
      (answer peer (.publish id message) remembers subject).2 = subject.append id message ∨
        (answer peer (.publish id message) remembers subject).2 = subject ∧
          id ∈ subject.seenIds := by
    intro remembers
    by_cases dropped : id ∈ subject.seenIds ∧ remembers = true
    · refine .inr ⟨?_, dropped.1⟩
      rw [answer, if_pos dropped]
    · refine .inl ?_
      rw [answer, if_neg dropped]
  cases arrival with
  | refused =>
    refine .inr ⟨rfl, ?_⟩
    intro answered
    cases answered
  | answered remembers | replyLost remembers =>
    rcases answers remembers with appended | ⟨unchanged, seen⟩
    · exact .inl appended
    · exact .inr ⟨unchanged, fun _ => seen⟩

/-- A message whose id is remembered is dropped. -/
theorem perform_publish_remembered {id : ι} {message : α}
    (seen : id ∈ subject.seenIds) (remembered : arrival.remembers = true) :
    (perform peer (.publish id message) arrival subject).2 = subject := by
  cases arrival with
  | refused => rfl
  | answered | replyLost => simp_all [Arrival.remembers, perform, answer]

end Tickr.JetStream
