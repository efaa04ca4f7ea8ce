import Tickr.Concurrent

/-!
# Programs that may stop at any point

A program runs alone against a state, and its process may stop between two calls
or inside one.  `Steady`: an invariant holds wherever the process may stop, and
a postcondition where the program ends.
-/

namespace Tickr.Crash

open Concurrent

/-- How a call is answered, and what it may leave when it stops half-way. -/
structure Device (σ Op : Type) (Reply : Op → Type) where
  perform : (op : Op) → σ → Reply op × σ
  Torn : (op : Op) → σ → σ → Prop

variable {σ Op α β : Type} {Reply : Op → Type}

def run (device : Device σ Op Reply) : Program Op Reply α → σ → α × σ
  | .done result, state => (result, state)
  | .call op next, state =>
    run device (next (device.perform op state).1) (device.perform op state).2

/-- A system with one client, whose calls are all delivered this way. -/
def alone {Choice : Type} (system : System σ Op Choice Reply) (choice : Choice) :
    Device σ Op Reply where
  perform := fun op => system.perform 0 op choice
  Torn := fun _ _ _ => False

theorem run_bind {device : Device σ Op Reply} (program : Program Op Reply α)
    (rest : α → Program Op Reply β) (state : σ) :
    run device (program >>= rest) state =
      run device (rest (run device program state).1) (run device program state).2 := by
  induction program generalizing state with
  | done => rfl
  | call _ _ ih => exact ih _ _

/-- A fallible program that succeeds goes on with its result. -/
theorem run_andThen {ε : Type} {device : Device σ Op Reply} {state after : σ} {value : α}
    {program : ExceptT ε (Program Op Reply) α} {rest : α → ExceptT ε (Program Op Reply) β}
    (ran : run device program.run state = (.ok value, after)) :
    run device (program >>= rest).run state = run device (rest value).run after := by
  refine (run_bind program.run _ state).trans ?_
  rw [ran]
  rfl

/-- A program that is stopped may leave this state. -/
inductive Stops (device : Device σ Op Reply) : Program Op Reply α → σ → σ → Prop
  | between {program : Program Op Reply α} {state : σ} : Stops device program state state
  | inside {op : Op} {next : Reply op → Program Op Reply α} {state left : σ}
      (torn : device.Torn op state left) :
      Stops device (.call op next) state left
  | later {op : Op} {next : Reply op → Program Op Reply α} {state left : σ}
      (stops : Stops device (next (device.perform op state).1) (device.perform op state).2 left) :
      Stops device (.call op next) state left

/-- The state after so many calls. -/
def runFor (device : Device σ Op Reply) : Nat → Program Op Reply α → σ → σ
  | 0, _, state => state
  | _ + 1, .done _, state => state
  | count + 1, .call op next, state =>
    runFor device count (next (device.perform op state).1) (device.perform op state).2

theorem stops_runFor (device : Device σ Op Reply) (count : Nat)
    (program : Program Op Reply α) (state : σ) :
    Stops device program state (runFor device count program state) := by
  induction count generalizing program state with
  | zero => exact .between
  | succ _ ih =>
    cases program with
    | done => exact .between
    | call => exact .later (ih _ _)

variable {device : Device σ Op Reply} (kept : σ → Prop)
  (performs : ∀ op state, kept state → kept (device.perform op state).2) {state : σ}
include performs

/-- What every call keeps, a program keeps that ends. -/
theorem run_keeps (program : Program Op Reply α) (holds : kept state) :
    kept (run device program state).2 := by
  induction program generalizing state with
  | done => exact holds
  | call op _ ih => exact ih _ (performs op state holds)

theorem Stops.keeps (tears : ∀ op state left, device.Torn op state left → kept state → kept left)
    {program : Program Op Reply α} {state left : σ}
    (stops : Stops device program state left) (holds : kept state) :
    kept left := by
  induction stops with
  | between => exact holds
  | inside torn => exact tears _ _ _ torn holds
  | later _ ih => exact ih (performs _ _ holds)

omit performs

variable {inv : σ → Prop} {program : Program Op Reply α} {post : α → σ → Prop}

def Steady (device : Device σ Op Reply) (inv : σ → Prop) :
    Program Op Reply α → σ → (α → σ → Prop) → Prop
  | .done result, state, post => inv state ∧ post result state
  | .call op next, state, post =>
    inv state ∧ (∀ left, device.Torn op state left → inv left) ∧
      Steady device inv (next (device.perform op state).1) (device.perform op state).2 post

theorem Steady.holds (steady : Steady device inv program state post) : inv state := by
  cases program with
  | done | call => exact steady.1

/-- Wherever a steady program stops, the invariant holds. -/
theorem Steady.stopped {state left : σ} (steady : Steady device inv program state post)
    (stops : Stops device program state left) : inv left := by
  induction stops with
  | between => exact steady.holds
  | inside torn => exact steady.2.1 _ torn
  | later _ ih => exact ih steady.2.2

/-- A steady program ends in its postcondition. -/
theorem Steady.ended (steady : Steady device inv program state post) :
    inv (run device program state).2 ∧
      post (run device program state).1 (run device program state).2 := by
  induction program generalizing state with
  | done => exact steady
  | call _ _ ih => exact ih _ steady.2.2

theorem Steady.mono {post weaker : α → σ → Prop} (steady : Steady device inv program state post)
    (weakens : ∀ result state, inv state → post result state → weaker result state) :
    Steady device inv program state weaker := by
  induction program generalizing state with
  | done result => exact ⟨steady.1, weakens result state steady.1 steady.2⟩
  | call _ _ ih => exact ⟨steady.1, steady.2.1, ih _ steady.2.2⟩

theorem Steady.weaken {weaker : σ → Prop} (steady : Steady device inv program state post)
    (weakens : ∀ state, inv state → weaker state) :
    Steady device weaker program state post := by
  induction program generalizing state with
  | done => exact ⟨weakens state steady.1, steady.2⟩
  | call _ _ ih =>
    exact ⟨weakens state steady.1, fun left torn => weakens left (steady.2.1 left torn),
      ih _ steady.2.2⟩

/-- A weaker invariant, with the stronger one kept at the end. -/
theorem Steady.relax {weaker : σ → Prop} (steady : Steady device inv program state post)
    (weakens : ∀ state, inv state → weaker state) :
    Steady device weaker program state fun result state =>
      inv state ∧ post result state :=
  (steady.mono fun _ _ holds ended => ⟨holds, ended⟩).weaken weakens

theorem Steady.bind {rest : α → Program Op Reply β} {post : β → σ → Prop}
    (steady : Steady device inv program state fun result state =>
      Steady device inv (rest result) state post) :
    Steady device inv (program >>= rest) state post := by
  induction program generalizing state with
  | done => exact steady.2
  | call _ _ ih => exact ⟨steady.1, steady.2.1, ih _ steady.2.2⟩

/-- What every call keeps may be added to the invariant. -/
theorem Steady.keeping {kept : σ → Prop}
    (performs : ∀ op state, kept state → kept (device.perform op state).2)
    (tears : ∀ op state left, device.Torn op state left → kept state → kept left)
    (steady : Steady device inv program state post) (holds : kept state) :
    Steady device (fun state => inv state ∧ kept state) program state
      fun result state => post result state ∧ kept state := by
  induction program generalizing state with
  | done => exact ⟨⟨steady.1, holds⟩, steady.2, holds⟩
  | call op _ ih =>
    exact ⟨⟨steady.1, holds⟩,
      fun left torn => ⟨steady.2.1 left torn, tears op state left torn holds⟩,
      ih _ steady.2.2 (performs op state holds)⟩

/-- The rule for a fallible program and what follows its success. -/
theorem Steady.try {ε : Type} {program : ExceptT ε (Program Op Reply) α}
    {rest : α → ExceptT ε (Program Op Reply) β} {post : Except ε β → σ → Prop}
    (steady : Steady device inv program.run state fun result state =>
      match result with
      | .ok value => Steady device inv (rest value).run state post
      | .error error => post (.error error) state) :
    Steady device inv (program >>= rest).run state post := by
  apply Steady.bind
  apply steady.mono
  intro result _ holds ended
  cases result with
  | ok => exact ended
  | error => exact ⟨holds, ended⟩

/-- The rule for one call that decides between a result and an error. -/
theorem Steady.request {ε : Type} {op : Op} {interpret : Reply op → Except ε α}
    {state after : σ} {reply : Reply op} {post : Except ε α → σ → Prop} (holds : inv state)
    (torn : ∀ left, device.Torn op state left → inv left)
    (ran : device.perform op state = (reply, after)) (kept : inv after)
    (ended : post (interpret reply) after) :
    Steady device inv (Program.request op interpret).run state post := by
  refine ⟨holds, torn, ?_⟩
  rw [ran]
  exact ⟨kept, ended⟩

theorem Steady.check {ε : Type} {result : Except ε α}
    {post : Except ε α → σ → Prop} (holds : inv state) (ended : post result state) :
    Steady device inv (Program.check result : ExceptT ε (Program Op Reply) α).run state
      post := ⟨holds, ended⟩

/-- What a number of passes leave, the earliest first. -/
def passes (pass : Nat → σ → σ) : Nat → σ → σ
  | 0, state => state
  | count + 1, state => pass count (passes pass count state)

variable (inv : σ → Prop) {finished : σ → Prop} (measure : σ → Nat) {pass : Nat → σ → σ}

theorem passes_keep (keeps : ∀ index state, inv state → inv (pass index state)) (holds : inv state)
    (count : Nat) :
    inv (passes pass count state) := by
  induction count with
  | zero => exact holds
  | succ count ih => exact keeps count _ ih

theorem passes_fixed (fixed : ∀ index, pass index state = state) (count : Nat) :
    passes pass count state = state := by
  induction count with
  | zero => rfl
  | succ _ ih => rw [passes, ih, fixed]

/-- Passes that each come closer to the end get there. -/
theorem passes_finish (keeps : ∀ index state, inv state → inv (pass index state))
    (stays : ∀ index state, inv state → finished state → finished (pass index state))
    (progress : ∀ index state, inv state → ¬ finished state →
      measure (pass index state) < measure state) (holds : inv state) {count : Nat}
    (enough : measure state < count) : finished (passes pass count state) := by
  have closer : finished (passes pass count state) ∨
      measure (passes pass count state) + count ≤ measure state := by
    clear enough
    induction count with
    | zero => exact .inr (Nat.le_refl _)
    | succ count ih =>
      have kept := passes_keep inv keeps holds count
      by_cases ends : finished (passes pass count state)
      · exact .inl (stays count _ kept ends)
      rcases ih with early | _
      · exact absurd early ends
      have decreases := progress count _ kept ends
      right
      change measure (pass count (passes pass count state)) + (count + 1) ≤ measure state
      omega
  rcases closer with ends | _
  · exact ends
  · omega

end Tickr.Crash
