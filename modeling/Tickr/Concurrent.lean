import Mathlib.Logic.Function.Basic
import Mathlib.Logic.Relation

/-!
# Concurrent clients of a shared state

A client is a tree of calls to a shared state.  A schedule names, turn by turn,
the client that takes its next step and how that step is delivered; a client
that is never scheduled again has stopped.  `Safe` is the rely and guarantee
judgement for one client, and the soundness theorem puts the clients together.
-/

namespace Tickr.Concurrent

/-- The postcondition that asks for nothing. -/
abbrev Any {α σ : Type} (_ : α) (_ : σ) : Prop := True

/-- A program that makes calls and continues with their replies. -/
inductive Program (Op : Type) (Reply : Op → Type) (α : Type) : Type
  | done (result : α)
  | call (op : Op) (next : Reply op → Program Op Reply α)

namespace Program

variable {Op : Type} {Reply : Op → Type} {α β : Type}

protected def bind (program : Program Op Reply α)
    (rest : α → Program Op Reply β) : Program Op Reply β :=
  match program with
  | .done result => rest result
  | .call op next => .call op fun reply => (next reply).bind rest

instance : Monad (Program Op Reply) where
  pure := .done
  bind := Program.bind

/-- One call whose reply decides between a result and an error. -/
def request {ε : Type} (op : Op) (interpret : Reply op → Except ε α) :
    ExceptT ε (Program Op Reply) α := ExceptT.mk (.call op fun reply => .done (interpret reply))

/-- A result computed without a call. -/
def check {ε : Type} (result : Except ε α) : ExceptT ε (Program Op Reply) α :=
  ExceptT.mk (.done result)

/-- Run a fallible program and hand its error to the caller as a value. -/
def attempt {ε ε' : Type} (program : ExceptT ε (Program Op Reply) α) :
    ExceptT ε' (Program Op Reply) (Except ε α) :=
  ExceptT.mk (program.run >>= fun result => .done (.ok result))

def mapError {ε ε' : Type} (rename : ε → ε') (program : ExceptT ε (Program Op Reply) α) :
    ExceptT ε' (Program Op Reply) α :=
  ExceptT.mk (program.run >>= fun result => .done (result.mapError rename))

variable {allowed : Op → Prop} {ε ε' : Type}

/-- Every call the program can make, whatever it is answered, is allowed. -/
def All (allowed : Op → Prop) : Program Op Reply α → Prop
  | .done _ => True
  | .call op next => allowed op ∧ ∀ reply, (next reply).All allowed

variable {program : Program Op Reply α}

theorem All.mono {wider : Op → Prop} (calls : program.All allowed)
    (implies : ∀ op, allowed op → wider op) : program.All wider := by
  induction program with
  | done => trivial
  | call op _ ih => exact ⟨implies op calls.1, fun reply => ih reply (calls.2 reply)⟩

theorem All.bind {rest : α → Program Op Reply β} (calls : program.All allowed)
    (restCalls : ∀ value, (rest value).All allowed) :
    (program >>= rest).All allowed := by
  induction program with
  | done result => exact restCalls result
  | call _ _ ih => exact ⟨calls.1, fun reply => ih reply (calls.2 reply)⟩

theorem all_request {op : Op} {interpret : Reply op → Except ε α} (isAllowed : allowed op) :
    (request op interpret : ExceptT ε (Program Op Reply) α).run.All allowed :=
  ⟨isAllowed, fun _ => trivial⟩

variable {program : ExceptT ε (Program Op Reply) α} {rest : α → ExceptT ε (Program Op Reply) β}

variable (calls : program.run.All allowed)
include calls

theorem All.andThen
    (restCalls : ∀ value, (rest value).run.All allowed) :
    (program >>= rest).run.All allowed := by
  apply calls.bind
  intro result
  cases result with
  | ok value => exact restCalls value
  | error => trivial

theorem All.andDone {form : α → β} :
    (program >>= fun value => pure (form value)).run.All allowed := calls.andThen fun _ => trivial

omit calls

theorem All.ask {op : Op} {interpret : Reply op → Except ε α} (isAllowed : allowed op)
    (calls : ∀ value, (rest value).run.All allowed) :
    (request op interpret >>= rest).run.All allowed := (all_request isAllowed).andThen calls

include calls

theorem All.attempt :
    (Program.attempt program : ExceptT ε' (Program Op Reply) _).run.All
      allowed := calls.bind fun _ => trivial

theorem All.mapError {rename : ε → ε'} :
    (Program.mapError rename program).run.All allowed := calls.bind fun _ => trivial

end Program

theorem ok_of_mapError {ε ε' α : Type} {result : Except ε α} {rename : ε → ε'} {value : α}
    (renamed : result.mapError rename = .ok value) : result = .ok value := by
  cases result with
  | ok =>
    cases renamed
    rfl
  | error => cases renamed

/-- How a shared state answers a call. -/
structure System (σ Op Choice : Type) (Reply : Op → Type) where
  perform : Nat → (op : Op) → Choice → σ → Reply op × σ

/-- A shared state and what each client still has to do. -/
structure World (σ Op : Type) (Reply : Op → Type) (α : Type) where
  state : σ
  clients : Nat → Program Op Reply α

variable {σ Op Choice α : Type} {Reply : Op → Type}

/-- One turn: the client makes its next call, if it has one. -/
def World.step (system : System σ Op Choice Reply) (world : World σ Op Reply α)
    (turn : Nat × Choice) : World σ Op Reply α :=
  match world.clients turn.1 with
  | .done _ => world
  | .call op next =>
    let answered := system.perform turn.1 op turn.2 world.state
    { state := answered.2
      clients := Function.update world.clients turn.1 (next answered.1) }

def World.run (system : System σ Op Choice Reply) (world : World σ Op Reply α)
    (turns : List (Nat × Choice)) : World σ Op Reply α := turns.foldl (World.step system) world

theorem World.run_append (system : System σ Op Choice Reply)
    (world : World σ Op Reply α) (first second : List (Nat × Choice)) :
    world.run system (first ++ second) = (world.run system first).run system second :=
  List.foldl_append

/-- The call made at a turn meets a condition on the state it is made in. -/
def World.StepMeets (condition : Nat → Op → σ → Prop)
    (world : World σ Op Reply α) (turn : Nat × Choice) : Prop :=
  match world.clients turn.1 with
  | .done _ => True
  | .call op _ => condition turn.1 op world.state

def World.RunMeets (system : System σ Op Choice Reply)
    (condition : Nat → Op → σ → Prop) (world : World σ Op Reply α) :
    List (Nat × Choice) → Prop
  | [] => True
  | turn :: rest =>
    world.StepMeets condition turn ∧ (world.step system turn).RunMeets system condition rest

instance World.decidableStepMeets {condition : Nat → Op → σ → Prop}
    [∀ peer op state, Decidable (condition peer op state)]
    (world : World σ Op Reply α) (turn : Nat × Choice) :
    Decidable (world.StepMeets condition turn) :=
  match current : world.clients turn.1 with
  | .done _ => isTrue (by rw [World.StepMeets, current]; trivial)
  | .call op _ =>
    decidable_of_iff (condition turn.1 op world.state) (by rw [World.StepMeets, current])

instance World.decidableRunMeets (system : System σ Op Choice Reply)
    {condition : Nat → Op → σ → Prop} [∀ peer op state, Decidable (condition peer op state)] :
    (world : World σ Op Reply α) → (turns : List (Nat × Choice)) →
      Decidable (world.RunMeets system condition turns)
  | _, [] => isTrue trivial
  | world, turn :: rest =>
    @instDecidableAnd _ _ (world.decidableStepMeets turn)
      (decidableRunMeets system (world.step system turn) rest)

theorem World.RunMeets.append {system : System σ Op Choice Reply}
    {condition : Nat → Op → σ → Prop} {world : World σ Op Reply α}
    {first second : List (Nat × Choice)}
    (meets : world.RunMeets system condition (first ++ second)) :
    world.RunMeets system condition first ∧
      (world.run system first).RunMeets system condition second := by
  induction first generalizing world with
  | nil => exact ⟨trivial, meets⟩
  | cons _ _ ih =>
    obtain ⟨step, restMeets⟩ := meets
    obtain ⟨firstMeets, secondMeets⟩ := ih restMeets
    exact ⟨⟨step, firstMeets⟩, secondMeets⟩

/-- What the clients of a system promise each other: the steps each may make,
an invariant those steps keep, and the condition under which they promise. -/
structure Discipline (σ Op : Type) where
  guarantee : Nat → σ → σ → Prop
  invariant : σ → Prop
  condition : Nat → Op → σ → Prop
  keeps : ∀ peer before after, guarantee peer before after → invariant before → invariant after

namespace Discipline

variable {β ε : Type} (system : System σ Op Choice Reply) (discipline : Discipline σ Op)

/-- What may happen to the state between two steps of a client. -/
def Rely (peer : Nat) : σ → σ → Prop :=
  Relation.ReflTransGen fun before after =>
    ∃ other, other ≠ peer ∧ discipline.guarantee other before after

/-- What any clients may do to the state. -/
def Evolves : σ → σ → Prop :=
  Relation.ReflTransGen fun before after =>
    ∃ peer, discipline.guarantee peer before after

section

variable {discipline : Discipline σ Op} {peer : Nat} {before after : σ}

/-- What every step keeps is kept as the state evolves. -/
theorem Evolves.keeps {held : σ → Prop} (evolves : discipline.Evolves before after)
    (holds : held before)
    (keeps : ∀ peer before after, discipline.guarantee peer before after →
      held before → held after) : held after := by
  induction evolves with
  | refl => exact holds
  | tail _ step ih =>
    obtain ⟨peer, promised⟩ := step
    exact keeps peer _ _ promised ih

theorem Rely.evolves (rely : discipline.Rely peer before after) :
    discipline.Evolves before after := by
  induction rely with
  | refl => exact .refl
  | tail _ step ih =>
    obtain ⟨other, _, promised⟩ := step
    exact ih.tail ⟨other, promised⟩

end

/-- From this state on, and whatever the others do, every step of the client
is within its guarantee, and its result satisfies the postcondition. -/
def Safe (peer : Nat) (post : α → σ → Prop) :
    Program Op Reply α → σ → Prop
  | .done result, state =>
    ∀ later, discipline.Rely peer state later → discipline.invariant later → post result later
  | .call op next, state =>
    ∀ later, discipline.Rely peer state later →
      discipline.invariant later → discipline.condition peer op later →
        ∀ choice,
          discipline.guarantee peer later (system.perform peer op choice later).2 ∧
            Safe peer post (next (system.perform peer op choice later).1)
              (system.perform peer op choice later).2

variable {system discipline} {peer : Nat} {state : σ} {post : α → σ → Prop}

section Programs

variable {program : Program Op Reply α}

/-- Other clients' steps do not make a client unsafe. -/
theorem Safe.stable {state later : σ} (safe : Safe system discipline peer post program state)
    (rely : discipline.Rely peer state later) :
    Safe system discipline peer post program later := by
  cases program with
  | done =>
    intro final relyFinal holds
    exact safe final (rely.trans relyFinal) holds
  | call =>
    intro final relyFinal holds meets choice
    exact safe final (rely.trans relyFinal) holds meets choice

theorem Safe.weaken {post weaker : α → σ → Prop}
    (safe : Safe system discipline peer post program state)
    (implies : ∀ result later, discipline.invariant later →
      post result later → weaker result later) :
    Safe system discipline peer weaker program state := by
  induction program generalizing state with
  | done result =>
    intro later rely holds
    exact implies result later holds (safe later rely holds)
  | call _ _ ih =>
    intro later rely holds meets choice
    obtain ⟨promised, rest⟩ := safe later rely holds meets choice
    exact ⟨promised, ih _ rest⟩

variable (safe : Safe system discipline peer post program state)
include safe

/-- What a result ensures, the other clients cannot undo. -/
theorem Safe.lasting :
    Safe system discipline peer
      (fun result later => ∀ final, discipline.Rely peer later final →
        discipline.invariant final → post result final) program state := by
  induction program generalizing state with
  | done =>
    intro _ rely _ final relyFinal holds
    exact safe final (rely.trans relyFinal) holds
  | call _ _ ih =>
    intro later rely holds meets choice
    obtain ⟨promised, rest⟩ := safe later rely holds meets choice
    exact ⟨promised, ih _ rest⟩

/-- A client's own steps and the others' together are what the state evolved
by. -/
theorem Safe.frame :
    Safe system discipline peer (fun result later =>
        post result later ∧ discipline.Evolves state later) program state := by
  have general : ∀ (rest : Program Op Reply α) (reached : σ),
      discipline.Evolves state reached →
        Safe system discipline peer post rest reached →
          Safe system discipline peer (fun result later =>
              post result later ∧ discipline.Evolves state later)
            rest reached := by
    intro rest
    induction rest with
    | done =>
      intro _ evolved restSafe later rely holds
      exact ⟨restSafe later rely holds, evolved.trans rely.evolves⟩
    | call _ _ ih =>
      intro _ evolved restSafe later rely holds meets choice
      obtain ⟨promised, nextSafe⟩ := restSafe later rely holds meets choice
      exact ⟨promised, ih _ _ ((evolved.trans rely.evolves).tail ⟨peer, promised⟩) nextSafe⟩
  exact general program state .refl safe

omit safe

/-- Sequencing: the rest of a program is safe wherever the first part may
end. -/
theorem Safe.bind {post : β → σ → Prop} {rest : α → Program Op Reply β}
    (safe : Safe system discipline peer
      (fun result later => Safe system discipline peer post (rest result) later) program state)
    (holds : discipline.invariant state) :
    Safe system discipline peer post (program >>= rest) state := by
  induction program generalizing state with
  | done => exact safe state .refl holds
  | call _ _ ih =>
    intro later rely laterHolds meets choice
    obtain ⟨promised, restSafe⟩ := safe later rely laterHolds meets choice
    exact ⟨promised, ih _ restSafe (discipline.keeps peer _ _ promised laterHolds)⟩

/-- What neither the other clients nor the calls of a program undo still holds
at its end. -/
theorem Safe.retains {kept : σ → Prop} {allowed : Op → Prop}
    (safe : Safe system discipline peer post program state) (calls : program.All allowed)
    (others : ∀ other before after, other ≠ peer →
      discipline.guarantee other before after → kept before → kept after)
    (own : ∀ op choice before, allowed op → kept before →
      kept (system.perform peer op choice before).2) (holds : kept state) :
    Safe system discipline peer
      (fun result later => post result later ∧ kept later) program state := by
  have taken : ∀ before after, discipline.Rely peer before after →
      kept before → kept after := by
    intro _ _ rely keptBefore
    induction rely with
    | refl => exact keptBefore
    | tail _ step ih =>
      obtain ⟨other, ne, promised⟩ := step
      exact others other _ _ ne promised ih
  induction program generalizing state with
  | done =>
    intro later rely inv
    exact ⟨safe later rely inv, taken state later rely holds⟩
  | call op _ ih =>
    intro later rely inv meets choice
    obtain ⟨promised, rest⟩ := safe later rely inv meets choice
    have keptLater := taken state later rely holds
    exact ⟨promised, ih _ rest (calls.2 _) (own op choice later calls.1 keptLater)⟩

/-- A program all of whose calls the client may make at any time is safe. -/
theorem safe_of_all {allowed : Op → Prop} (calls : program.All allowed)
    (within : ∀ op choice before, allowed op → discipline.invariant before →
      discipline.condition peer op before →
        discipline.guarantee peer before (system.perform peer op choice before).2) (state : σ) :
    Safe system discipline peer Any program state := by
  induction program generalizing state with
  | done =>
    intro _ _ _
    trivial
  | call op _ ih =>
    intro later _ inv meets choice
    exact ⟨within op choice later calls.1 inv meets, ih _ (calls.2 _) _⟩

end Programs

/-- Safety of a fallible program: one condition on its result when it succeeds
and one on its error when it fails. -/
def SafeExcept (system : System σ Op Choice Reply)
    (discipline : Discipline σ Op) (peer : Nat) (post : α → σ → Prop)
    (faults : ε → Prop) (program : ExceptT ε (Program Op Reply) α) (state : σ) : Prop :=
  discipline.invariant state → Safe system discipline peer (fun result later =>
        (∀ value, result = .ok value → post value later) ∧
          ∀ fault, result = .error fault → faults fault)
      program.run state

variable {faults : ε → Prop} {program : ExceptT ε (Program Op Reply) α}

theorem outcome_ok {wanted : α → Prop} {value : α} (holds : wanted value) :
    (∀ other, (.ok value : Except ε α) = .ok other → wanted other) ∧
      ∀ fault, (.ok value : Except ε α) = .error fault → faults fault := by
  constructor
  · intro _ equal
    cases equal
    exact holds
  · intro _ equal
    cases equal

theorem outcome_error {wanted : α → Prop} {fault : ε} (allowed : faults fault) :
    (∀ value, (.error fault : Except ε α) = .ok value → wanted value) ∧
      ∀ other, (.error fault : Except ε α) = .error other → faults other := by
  constructor
  · intro _ equal
    cases equal
  · intro _ equal
    cases equal
    exact allowed

protected theorem SafeExcept.pure {value : α}
    (holds : ∀ later, discipline.Rely peer state later →
      discipline.invariant later → post value later) :
    SafeExcept system discipline peer post faults
      (pure value : ExceptT ε (Program Op Reply) α) state := by
  intro _ later rely inv
  exact outcome_ok (holds later rely inv)

protected theorem SafeExcept.done {value : α} :
    SafeExcept system discipline peer Any faults
      (pure value : ExceptT ε (Program Op Reply) α) state := .pure fun _ _ _ => trivial

protected theorem SafeExcept.throw {fault : ε} (allowed : faults fault) :
    SafeExcept system discipline peer post faults
      (throw fault : ExceptT ε (Program Op Reply) α) state := by
  intro _ _ _ _
  exact outcome_error allowed

protected theorem SafeExcept.check {result : Except ε α}
    (holds : ∀ value, result = .ok value → ∀ later,
      discipline.Rely peer state later → discipline.invariant later → post value later)
    (allowed : ∀ fault, result = .error fault → faults fault) :
    SafeExcept system discipline peer post faults
      (Program.check result : ExceptT ε (Program Op Reply) α) state := by
  intro _ later rely inv
  refine ⟨?_, allowed⟩
  intro value equal
  exact holds value equal later rely inv

theorem SafeExcept.weaken {post weaker : α → σ → Prop}
    (safe : SafeExcept system discipline peer post faults program state)
    (implies : ∀ value later, discipline.invariant later → post value later → weaker value later) :
    SafeExcept system discipline peer weaker faults program state := by
  intro holds
  apply (safe holds).weaken
  intro _ later inv now
  refine ⟨?_, now.2⟩
  intro value equal
  exact implies value later inv (now.1 value equal)

/-- The state has evolved by the end of a fallible program. -/
theorem SafeExcept.frame (safe : SafeExcept system discipline peer post faults program state) :
    SafeExcept system discipline peer
      (fun value later => post value later ∧ discipline.Evolves state later)
      faults program state := by
  intro holds
  apply (safe holds).frame.weaken
  intro _ _ _ now
  obtain ⟨⟨works, fails⟩, evolves⟩ := now
  refine ⟨?_, fails⟩
  intro value equal
  exact ⟨works value equal, evolves⟩

/-- `Safe.retains` for a fallible program that succeeds. -/
theorem SafeExcept.retains {kept : σ → Prop} {allowed : Op → Prop}
    (safe : SafeExcept system discipline peer post faults program state)
    (calls : program.run.All allowed)
    (others : ∀ other before after, other ≠ peer →
      discipline.guarantee other before after → kept before → kept after)
    (own : ∀ op choice before, allowed op → kept before →
      kept (system.perform peer op choice before).2) (holds : kept state) :
    SafeExcept system discipline peer
      (fun value later => post value later ∧ kept later) faults program
      state := by
  intro inv
  apply ((safe inv).retains calls others own holds).weaken
  intro _ _ _ now
  obtain ⟨⟨works, fails⟩, keptLater⟩ := now
  refine ⟨?_, fails⟩
  intro value equal
  exact ⟨works value equal, keptLater⟩

theorem SafeExcept.allow {allowed : ε → Prop}
    (safe : SafeExcept system discipline peer post faults program state)
    (implies : ∀ fault, faults fault → allowed fault) :
    SafeExcept system discipline peer post allowed program state := by
  intro holds
  apply (safe holds).weaken
  intro _ _ _ now
  refine ⟨now.1, ?_⟩
  intro fault equal
  exact implies fault (now.2 fault equal)

variable {first : α → σ → Prop}

/-- Sequencing of fallible programs: an error skips the rest, which starts
from what the first part ensured and from any state it evolved into. -/
theorem SafeExcept.andThen {post : β → σ → Prop} {rest : α → ExceptT ε (Program Op Reply) β}
    (safe : SafeExcept system discipline peer first faults program state)
    (continues : ∀ value later, discipline.Evolves state later →
      first value later → SafeExcept system discipline peer post faults (rest value) later) :
    SafeExcept system discipline peer post faults (program >>= rest) state := by
  intro holds
  refine .bind ((safe holds).frame.weaken ?_) holds
  intro result later inv now
  obtain ⟨⟨works, fails⟩, evolves⟩ := now
  cases result with
  | ok value => exact continues value later evolves (works value rfl) inv
  | error fault =>
    intro _ _ _
    exact outcome_error (fails fault rfl)

/-- The result of a program is returned in another form. -/
protected theorem SafeExcept.andPure {post : β → σ → Prop} {form : α → β}
    (safe : SafeExcept system discipline peer first faults program state)
    (implies : ∀ value later, discipline.invariant later →
      first value later → post (form value) later) :
    SafeExcept system discipline peer post faults
      (program >>= fun value => pure (form value)) state := by
  intro holds
  refine .bind ((safe holds).lasting.weaken ?_) holds
  intro result _ _ now
  cases result with
  | ok value =>
    intro final rely inv
    have held := (now final rely inv).1 value rfl
    exact outcome_ok (implies value final inv held)
  | error fault =>
    intro final rely inv
    exact outcome_error ((now final rely inv).2 fault rfl)

theorem SafeExcept.andDone {form : α → β}
    (safe : SafeExcept system discipline peer first faults program state) :
    SafeExcept system discipline peer Any faults
      (program >>= fun value => pure (form value)) state :=
  .andPure safe fun _ _ _ _ => trivial

/-- Whether the program failed is inspected, not passed on. -/
protected theorem SafeExcept.attempt {ε' : Type} {fails : ε → Prop} {allowed : ε' → Prop}
    (safe : SafeExcept system discipline peer post fails program state) :
    SafeExcept system discipline peer (fun result later =>
        (∀ value, result = .ok value → post value later) ∧
          ∀ fault, result = .error fault → fails fault)
      allowed (Program.attempt program) state := by
  intro holds
  refine .bind ((safe holds).lasting.weaken ?_) holds
  intro _ _ _ now final rely inv
  exact outcome_ok (now final rely inv)

protected theorem SafeExcept.mapError {ε' : Type} {fails : ε → Prop} {allowed : ε' → Prop} {rename : ε → ε'}
    (safe : SafeExcept system discipline peer post fails program state)
    (implies : ∀ fault, fails fault → allowed (rename fault)) :
    SafeExcept system discipline peer post allowed (Program.mapError rename program) state := by
  intro holds
  refine .bind ((safe holds).lasting.weaken ?_) holds
  intro result _ _ now final rely inv
  obtain ⟨works, fails⟩ := now final rely inv
  cases result with
  | ok value => exact outcome_ok (works value rfl)
  | error fault => exact outcome_error (implies fault (fails fault rfl))

variable {op : Op} {interpret : Reply op → Except ε α}
  (steps : ∀ before, discipline.Rely peer state before → discipline.invariant before →
    discipline.condition peer op before → ∀ choice, discipline.guarantee peer before
    (system.perform peer op choice before).2 ∧ ∀ value, interpret (system.perform peer op
    choice before).1 = .ok value → ∀ after, discipline.Rely peer (system.perform peer op choice
    before).2 after → discipline.invariant after → post value after)
include steps

protected theorem SafeExcept.request
    (allowed : ∀ reply fault, interpret reply = .error fault → faults fault) :
    SafeExcept system discipline peer post faults (Program.request op interpret) state := by
  intro _ before rely inv meets choice
  obtain ⟨promised, now⟩ := steps before rely inv meets choice
  refine ⟨promised, ?_⟩
  intro after onward invariantAfter
  refine ⟨?_, allowed _⟩
  intro value equal
  exact now value equal after onward invariantAfter

/-- Safety of a fallible program that may fail with any error. -/
abbrev SafeTry (system : System σ Op Choice Reply)
    (discipline : Discipline σ Op) (peer : Nat) (post : α → σ → Prop)
    (program : ExceptT ε (Program Op Reply) α) (state : σ) : Prop :=
  SafeExcept system discipline peer post (fun _ => True) program state

protected theorem SafeTry.request :
    SafeTry system discipline peer post (Program.request op interpret) state :=
  SafeExcept.request steps fun _ _ _ => trivial

omit steps

protected theorem SafeTry.throw {fault : ε} :
    SafeTry system discipline peer post (throw fault : ExceptT ε (Program Op Reply) α) state :=
  SafeExcept.throw trivial

protected theorem SafeTry.check {result : Except ε α}
    (holds : ∀ value, result = .ok value → ∀ later,
      discipline.Rely peer state later → discipline.invariant later → post value later) :
    SafeTry system discipline peer post
      (Program.check result : ExceptT ε (Program Op Reply) α) state :=
  SafeExcept.check holds fun _ _ => trivial

/-- Every client of the world is safe, for its own postcondition. -/
def AllSafe (system : System σ Op Choice Reply) (discipline : Discipline σ Op)
    (post : Nat → α → σ → Prop) (world : World σ Op Reply α) : Prop :=
  discipline.invariant world.state ∧
    ∀ peer, Safe system discipline peer (post peer) (world.clients peer) world.state

variable {post : Nat → α → σ → Prop} {world : World σ Op Reply α}
  (safe : AllSafe system discipline post world)
include safe

/-- The step a client is about to take is within its guarantee. -/
theorem AllSafe.promised {peer : Nat} {op : Op} {next : Reply op → Program Op Reply α}
    (current : world.clients peer = .call op next)
    (meets : discipline.condition peer op world.state) (choice : Choice) :
    discipline.guarantee peer world.state (system.perform peer op choice world.state).2 ∧
      Safe system discipline peer (post peer)
        (next (system.perform peer op choice world.state).1)
        (system.perform peer op choice world.state).2 := by
  have own := safe.2 peer
  rw [current] at own
  exact own world.state .refl safe.1 meets choice

theorem AllSafe.step {turn : Nat × Choice} (meets : world.StepMeets discipline.condition turn) :
    AllSafe system discipline post (world.step system turn) ∧
      discipline.Evolves world.state (world.step system turn).state := by
  unfold World.step
  unfold World.StepMeets at meets
  cases current : world.clients turn.1 with
  | done => exact ⟨safe, .refl⟩
  | call =>
    rw [current] at meets
    obtain ⟨promised, rest⟩ := safe.promised current meets turn.2
    refine ⟨⟨discipline.keeps turn.1 _ _ promised safe.1, ?_⟩,
      .single ⟨turn.1, promised⟩⟩
    intro peer
    by_cases same : peer = turn.1
    · subst same
      simpa using rest
    · simp only [Function.update_of_ne same]
      exact (safe.2 peer).stable (.single ⟨turn.1, .symm same, promised⟩)

variable {turns : List (Nat × Choice)}

/-- Safe clients together: along any run whose calls meet the condition, every
state reached satisfies the invariant and every client stays safe. -/
theorem AllSafe.run (meets : world.RunMeets system discipline.condition turns) :
    AllSafe system discipline post (world.run system turns) ∧
      discipline.Evolves world.state (world.run system turns).state := by
  induction turns generalizing world with
  | nil => exact ⟨safe, .refl⟩
  | cons _ _ ih =>
    obtain ⟨stepMeets, restMeets⟩ := meets
    obtain ⟨stepSafe, stepEvolves⟩ := safe.step stepMeets
    obtain ⟨restSafe, evolves⟩ := ih stepSafe restMeets
    exact ⟨restSafe, stepEvolves.trans evolves⟩

/-- A further property of the state, kept by the steps that the discipline
allows and that meet a further condition, holds along every run whose calls
meet both conditions. -/
theorem AllSafe.run_keeps {kept : σ → Prop} {condition : Nat → Op → σ → Prop}
    (keeps : ∀ peer op choice before, discipline.invariant before →
      condition peer op before →
        discipline.guarantee peer before (system.perform peer op choice before).2 →
          kept before → kept (system.perform peer op choice before).2)
    (disciplined : world.RunMeets system discipline.condition turns)
    (meets : world.RunMeets system condition turns) (holds : kept world.state) :
    kept (world.run system turns).state := by
  induction turns generalizing world with
  | nil => exact holds
  | cons turn rest ih =>
    obtain ⟨stepDisciplined, restDisciplined⟩ := disciplined
    obtain ⟨stepMeets, restMeets⟩ := meets
    have stepSafe := (safe.step stepDisciplined).1
    have stepKept : kept (world.step system turn).state := by
      unfold World.StepMeets at stepDisciplined stepMeets
      unfold World.step
      cases current : world.clients turn.1 with
      | done => exact holds
      | call op =>
        rw [current] at stepDisciplined stepMeets
        have promised := (safe.promised current stepDisciplined turn.2).1
        exact keeps turn.1 op turn.2 world.state safe.1 stepMeets promised holds
    exact ih stepSafe restDisciplined restMeets stepKept

/-- What a finished client of a safe world returned. -/
theorem AllSafe.result {peer : Nat} {result : α}
    (ended : world.clients peer = .done result) :
    post peer result world.state := by
  have own := safe.2 peer
  rw [ended] at own
  exact own world.state .refl safe.1

omit safe

end Discipline

end Tickr.Concurrent
