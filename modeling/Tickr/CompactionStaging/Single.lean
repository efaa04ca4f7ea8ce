import Tickr.CompactionStaging.Calls

/-!
# One payload for an identity

The bytes of an identity are created only when there are none, and deleted only
after their digest was recorded.  Unless a late call creates bytes after another
payload was completed, an identity has one payload for ever.
-/

namespace Tickr.CompactionStaging

open LogStream (Bytes)
open KeyValue Concurrent

variable (codec : StagingCodec) {identity : String} {payload : Bytes} {key : StageKey}

def Held (key : StageKey) (bytes : Bytes) (state : StagingState) : Prop :=
  ∃ write ∈ state.store, write.key = key ∧ write.value = some bytes

/-- The payload was staged and its digest recorded as complete. -/
def Finished (identity : String) (payload : Bytes) (state : StagingState) : Prop :=
  Held ⟨.payload, identity⟩ payload state ∧ Held ⟨.complete, identity⟩ (codec.digest payload) state

section Steps

/-- What a command's own order allows it to call. -/
def Legit (op : StagingOp) (state : StagingState) : Prop :=
  match op with
  | .store (.entry _) => True
  | .store .keys => True
  | .store (.create key value) => key.kind = .complete →
      ∃ payload, Held ⟨.payload, key.identity⟩ payload state ∧ value = codec.digest payload
  | .store (.delete key) => key.kind ≠ .complete ∧
      (key.kind = .payload → ∃ payload, Finished codec key.identity payload state)
  | .store (.update _ _ _) => False
  | .store (.put _ _) => False
  | .note (.acknowledged identity payload) => Held ⟨.payload, identity⟩ payload state
  | _ => True

/-- The bytes of an identity are created while it is not complete. -/
def StagedInTime (_client : Nat) (op : StagingOp) (state : StagingState) : Prop :=
  match op with
  | .store (.create ⟨.payload, identity⟩ _) => lookup ⟨.complete, identity⟩ state.store = none
  | _ => True

instance (peer : Nat) (op : StagingOp) (state : StagingState) :
    Decidable (StagedInTime peer op state) := by
  unfold StagedInTime
  split <;> infer_instance

/-- All that a legitimate call can do to a state. -/
inductive Step (peer : Nat) (state : StagingState) : StagingState → Prop
  | unchanged : Step peer state state
  | created (key : StageKey) (value : Bytes) (isFree : lookup key state.store = none)
      (legit : Legit codec (.store (.create key value)) state)
      (inTime : StagedInTime peer (.store (.create key value)) state) :
      Step peer state { state with store := ⟨peer, key, some value⟩ :: state.store }
  | deleted (key : StageKey) (legit : Legit codec (.store (.delete key)) state) :
      Step peer state { state with store := ⟨peer, key, none⟩ :: state.store }
  | queued (published : List Bytes) : Step peer state { state with published }
  | noted (event : StageEvent) (legit : Legit codec (.note event) state) :
      Step peer state { state with history := (peer, event) :: state.history }

variable {codec} {peer : Nat} {before after : StagingState}

theorem perform_step (op : StagingOp) (turn : Turn) (legit : Legit codec op before)
    (time : StagedInTime peer op before) :
    Step codec peer before (perform peer op turn before).2 := by
  cases op with
  | connect | receive | archive => exact .unchanged
  | publish => exact .queued _
  | note event => exact .noted event legit
  | store op =>
    simp only [perform]
    cases op with
    | entry =>
      rw [perform_entry.1]
      exact .unchanged
    | keys =>
      rw [perform_keys.1]
      exact .unchanged
    | create key value =>
      rcases @perform_create _ _ _ key value peer turn.delivery
        before.store with ⟨unchanged, _⟩ | ⟨made, free⟩
      · rw [unchanged]
        exact .unchanged
      · rw [made]
        exact .created key value free legit time
    | delete key =>
      rcases @perform_delete _ Bytes _ key peer turn.delivery before.store with unchanged | made
      · rw [unchanged]
        exact .unchanged
      · rw [made]
        exact .deleted key legit
    | update | put => exact legit.elim

/-- What a key has held stays known. -/
structure Grows (before after : StagingState) : Prop where
  held : ∀ key bytes, Held key bytes before → Held key bytes after

theorem Grows.refl (state : StagingState) : Grows state state := ⟨fun _ _ held => held⟩

theorem Grows.trans (early : Grows first second) (late : Grows second third) :
    Grows first third := ⟨fun key bytes held => late.held key bytes (early.held key bytes held)⟩

theorem Step.grows (step : Step codec peer before after) : Grows before after := by
  constructor
  intro _ _ held
  obtain ⟨write, mem, isWrite⟩ := held
  cases step with
  | created | deleted => exact ⟨write, .tail _ mem, isWrite⟩
  | unchanged | queued | noted => exact ⟨write, mem, isWrite⟩

theorem Finished.grown (ended : Finished codec identity payload before)
    (grows : Grows before after) : Finished codec identity payload after :=
  ⟨grows.held _ _ ended.1, grows.held _ _ ended.2⟩

end Steps

/-- What every state has that the commands can reach. -/
structure Sound (state : StagingState) : Prop where
  unique : ∀ identity first second,
    Held ⟨.payload, identity⟩ first state → Held ⟨.payload, identity⟩ second state → first = second
  /-- What is recorded as complete is the digest of staged bytes. -/
  evidence : ∀ write ∈ state.store, write.key.kind = .complete →
    ∃ payload, Held ⟨.payload, write.key.identity⟩ payload state ∧
      write.value = some (codec.digest payload)
  stored : ∀ identity payload, Held ⟨.payload, identity⟩ payload state →
    lookup ⟨.payload, identity⟩ state.store = some payload ∨
      Held ⟨.complete, identity⟩ (codec.digest payload) state
  acknowledged : ∀ peer identity payload,
    (peer, .acknowledged identity payload) ∈ state.history →
      Held ⟨.payload, identity⟩ payload state

variable {codec} {peer : Nat} {before after : StagingState}

theorem sound_empty : Sound codec .empty where
  unique := by
    intro _ _ _ held
    obtain ⟨_, mem, _⟩ := held
    cases mem
  evidence := by
    intro _ mem
    cases mem
  stored := by
    intro _ _ held
    obtain ⟨_, mem, _⟩ := held
    cases mem
  acknowledged := by
    intro _ _ _ mem
    cases mem

variable (sound : Sound codec before)
  (complete : Held ⟨.complete, identity⟩ (codec.digest payload) before)
include sound complete

theorem Sound.held_payload : Held ⟨.payload, identity⟩ payload before := by
  obtain ⟨write, mem, isKey, hash⟩ := complete
  obtain ⟨staged, held, value⟩ := sound.evidence write mem (by rw [isKey])
  rw [hash] at value
  have stages : payload = staged := codec.collisionFree (Option.some.inj value)
  rw [isKey] at held
  rw [stages]
  exact held

theorem Sound.lookup_complete :
    lookup ⟨.complete, identity⟩ before.store = some (codec.digest payload) := by
  have staged := sound.held_payload complete
  have valued : ∀ write ∈ before.store, write.key.kind = .complete → write.value.isSome = true := by
    intro write mem whole
    obtain ⟨_, _, isValue⟩ := sound.evidence write mem whole
    rw [isValue]
    rfl
  cases found : lookup ⟨.complete, identity⟩ before.store with
  | none =>
    obtain ⟨write, mem, isKey, _⟩ := complete
    have unwritten := @not_written_of_lookup_eq_none _ _ _
      (fun key : StageKey => key.kind = .complete) _ _ valued rfl found
    exact absurd isKey (unwritten write mem)
  | some =>
    obtain ⟨write, mem, isKey, hash⟩ := mem_of_lookup_eq_some found
    obtain ⟨other, held, isValue⟩ := sound.evidence write mem (by rw [isKey])
    rw [isKey] at held
    rw [← hash, isValue, sound.unique identity other payload held staged]

omit complete

theorem Sound.first_payload (free : lookup ⟨.payload, identity⟩ before.store = none)
    (time : lookup ⟨.complete, identity⟩ before.store = none) :
    ¬Held ⟨.payload, identity⟩ payload before := by
  intro held
  rcases sound.stored identity payload held with stored | complete
  · rw [free] at stored
    cases stored
  · rw [sound.lookup_complete complete] at time
    cases time

omit sound

theorem held_cons (held : Held key bytes ⟨write :: before.store, shown, history⟩) :
    Held key bytes before ∨ write.key = key ∧ write.value = some bytes := by
  obtain ⟨found, mem, isWrite⟩ := held
  rcases List.mem_cons.mp mem with new | older
  · rw [new] at isWrite
    exact .inr isWrite
  · exact .inl ⟨found, older, isWrite⟩

include sound

theorem Sound.created (free : lookup key before.store = none)
    (legit : Legit codec (.store (.create key value)) before)
    (time : StagedInTime peer (.store (.create key value)) before) :
    Sound codec { before with
        store := ⟨peer, key, some value⟩ :: before.store } := by
  have grows := (Step.created key value free legit time).grows
  obtain ⟨kind, identity⟩ := key
  constructor
  · intro other first second isFirst isSecond
    rcases held_cons isFirst with firstHeld | ⟨firstKey, firstValue⟩
    · rcases held_cons isSecond with secondHeld | ⟨secondKey, _⟩
      · exact sound.unique other first second firstHeld secondHeld
      · cases secondKey
        exact absurd firstHeld (sound.first_payload free time)
    · rcases held_cons isSecond with secondHeld | ⟨_, secondValue⟩
      · cases firstKey
        exact absurd secondHeld (sound.first_payload free time)
      · rw [firstValue] at secondValue
        exact Option.some.inj secondValue
  · intro write mem whole
    rcases List.mem_cons.mp mem with new | older
    · subst new
      obtain ⟨payload, held, hash⟩ := legit whole
      refine ⟨payload, grows.held _ _ held, ?_⟩
      rw [hash]
    · obtain ⟨payload, held, hash⟩ := sound.evidence write older whole
      exact ⟨payload, grows.held _ _ held, hash⟩
  · intro other payload held
    rcases held_cons held with isHeld | ⟨isKey, valued⟩
    · rcases sound.stored other payload isHeld with stored | complete
      · by_cases wrote : (⟨kind, identity⟩ : StageKey) = ⟨.payload, other⟩
        · rw [wrote, stored] at free
          cases free
        · refine .inl ?_
          rw [lookup_cons_other wrote]
          exact stored
      · exact .inr (grows.held _ _ complete)
    · refine .inl ?_
      rw [lookup_cons_same isKey]
      exact valued
  · intro author other payload mem
    exact grows.held _ _ (sound.acknowledged author other payload mem)

theorem Sound.deleted (legit : Legit codec (.store (.delete key)) before) :
    Sound codec { before with store := ⟨peer, key, none⟩ :: before.store } := by
  have grows : Grows before { before with
      store := ⟨peer, key, none⟩ :: before.store } := (Step.deleted key legit).grows
  have prior : ∀ other bytes, Held other bytes { before with
      store := ⟨peer, key, none⟩ :: before.store } →
        Held other bytes before := by
    intro _ _ held
    rcases held_cons held with isHeld | ⟨_, value⟩
    · exact isHeld
    · cases value
  constructor
  · intro identity first second isFirst isSecond
    exact sound.unique identity first second (prior _ _ isFirst) (prior _ _ isSecond)
  · intro write mem whole
    rcases List.mem_cons.mp mem with new | older
    · subst new
      exact absurd whole legit.1
    · obtain ⟨payload, held, hash⟩ := sound.evidence write older whole
      exact ⟨payload, grows.held _ _ held, hash⟩
  · intro identity payload held
    have isHeld := prior _ _ held
    by_cases wrote : key = ⟨.payload, identity⟩
    · subst wrote
      -- The bytes go only once their own digest is recorded.
      obtain ⟨ended, staged, complete⟩ := legit.2 rfl
      rw [sound.unique identity payload ended isHeld staged]
      exact .inr (grows.held _ _ complete)
    · rcases sound.stored identity payload isHeld with stored | complete
      · refine .inl ?_
        rw [lookup_cons_other wrote]
        exact stored
      · exact .inr (grows.held _ _ complete)
  · intro author identity payload mem
    exact grows.held _ _ (sound.acknowledged author identity payload mem)

theorem Sound.step (step : Step codec peer before after) : Sound codec after := by
  cases step with
  | unchanged => exact sound
  | created _ _ free legit time => exact sound.created free legit time
  | deleted _ legit => exact sound.deleted legit
  | queued => exact ⟨sound.unique, sound.evidence, sound.stored, sound.acknowledged⟩
  | noted _ legit =>
    refine ⟨sound.unique, sound.evidence, sound.stored, ?_⟩
    intro author identity payload mem
    rcases List.mem_cons.mp mem with new | older
    · cases new
      exact legit
    · exact sound.acknowledged author identity payload older

omit sound

end Tickr.CompactionStaging
