import Tickr.Concurrent

/-!
# Contracts of calls

Which calls a client may make in a state, what an allowed call can do to the
state, and the invariant this keeps.  From such a contract come the rules for
single calls and the invariant of every run.
-/

namespace Tickr.Concurrent

variable {σ Op Choice α ε : Type} {Reply : Op → Type} {system : System σ Op Choice Reply}

/-- What is promised of the calls of a system: when a client may make them,
what they then do, and what they keep. -/
structure Contract (system : System σ Op Choice Reply) where
  (legit condition : Nat → Op → σ → Prop)
  step : Nat → σ → σ → Prop
  sound : σ → Prop
  steps : ∀ peer op choice state, sound state → legit peer op state →
    condition peer op state → step peer state (system.perform peer op choice state).2
  keeps : ∀ peer before after, step peer before after → sound before → sound after

namespace Contract

variable (contract : Contract system)

def discipline : Discipline σ Op where
  guarantee := contract.step
  invariant := contract.sound
  condition := contract.condition
  keeps := contract.keeps

/-- The calls of the program keep the contract, and its result is as said. -/
abbrev Keeps (peer : Nat) (post : α → σ → Prop)
    (program : ExceptT ε (Program Op Reply) α) (state : σ) : Prop :=
  Discipline.SafeTry system contract.discipline peer post program state

variable {contract} {peer : Nat} {state later : σ} {op : Op} {interpret : Reply op → Except ε α}
  (legit : ∀ before, contract.discipline.Rely peer state before → contract.sound before →
    contract.legit peer op before)
include legit

/-- One call: it is legitimate whenever it is made, and its answer says
something that lasts. -/
theorem call_keeps {post : α → σ → Prop}
    (now : ∀ before choice value,
      contract.discipline.Rely peer state before → contract.sound before →
      contract.condition peer op before →
      interpret (system.perform peer op choice before).1 = .ok value →
        ∀ after, contract.discipline.Rely peer (system.perform peer op choice before).2 after →
          contract.sound after → post value after) :
    contract.Keeps peer post (Program.request op interpret) state := by
  apply Discipline.SafeTry.request
  intro before rely sound meets choice
  have made := contract.steps peer op choice before sound (legit before rely sound) meets
  refine ⟨made, ?_⟩
  intro value valued after onward soundAfter
  exact now before choice value rely sound meets valued after onward soundAfter

theorem call_free :
    contract.Keeps peer Any (Program.request op interpret) state := by
  apply call_keeps legit
  intro _ _ _ _ _ _ _ _ _ _
  trivial

omit legit

/-- The state is sound along every run that meets the condition. -/
theorem sound_run {programs : Nat → ExceptT ε (Program Op Reply) α} (sound : contract.sound state)
    (keeps : ∀ peer, contract.Keeps peer Any (programs peer) state)
    {turns : List (Nat × Choice)}
    (meets : World.RunMeets system contract.condition
      ⟨state, fun peer => (programs peer).run⟩ turns) :
    contract.sound (World.run system ⟨state, fun peer => (programs peer).run⟩ turns).state := by
  have safe : Discipline.AllSafe system contract.discipline
      (fun _ _ _ => True) ⟨state, fun peer => (programs peer).run⟩ := by
    refine ⟨sound, ?_⟩
    intro peer
    apply (keeps peer sound).weaken
    intro _ _ _ _
    trivial
  exact (safe.run meets).1.1

end Contract

end Tickr.Concurrent
