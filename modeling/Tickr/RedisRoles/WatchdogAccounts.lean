import Tickr.RedisRoles.LivenessWatchdog

/-!
# What the liveness watchdog accounts for

Each call leaves the watchdog as it was or makes one of five turns, from which
follow the counters, the deadline index and when a record can be removed.
-/

namespace Tickr.RedisRoles.LivenessWatchdog

open Script Function
open Pickup (AttemptOutcome Bytes)

variable {limits : Limits} {call : Call} {calls : List Call} {state : State} {row : Row}
  {index : List (Nat × Int)} {delta : Quota} {key : Nat} {score : Int}

/-- The changes a call can make to its row, to the index and to the counters. -/
inductive Turn (limits : Limits) (call : Call) (state : State) :
    Row → List (Nat × Int) → Quota → Prop
  | armed (isArm : call.mutation.operation = .arm)
      (isFree : (state.rows call.key).generation = none) :
      Turn limits call state { state.rows call.key with
          generation := some call.mutation.claim.pickupGeneration
          owner := some call.mutation.claim.owner
          deadline := some (call.now + call.mutation.timeoutMs)
          payload := some call.mutation.payload
          reservedUnits := some (limits.reservedUnits call.mutation.payload)
          sourceCompleted := false }
        (zadd call.key (call.now + call.mutation.timeoutMs) state.index)
        (quotaOf (limits.reservedUnits call.mutation.payload) 1 1 0 0)
  | moved (deadline : Int) (isLater : call.now ≤ deadline)
      (isOther : call.mutation.operation ≠ .cleanup)
      (isExact : call.mutation.claim.Exact (state.rows call.key))
      (isOpen : (state.rows call.key).outcome = none) :
      Turn limits call state { state.rows call.key with deadline := some deadline }
        (zadd call.key deadline state.index) 0
  | completed (isOther : call.mutation.operation ≠ .cleanup)
      (isExact : call.mutation.claim.Exact (state.rows call.key))
      (isOpen : (state.rows call.key).outcome = none) :
      Turn limits call state { state.rows call.key with sourceCompleted := true } state.index 0
  | elected (isElect : call.mutation.operation = .elect)
      (isExact : call.mutation.claim.Exact (state.rows call.key))
      (isOpen : (state.rows call.key).outcome = none) (isNamed : call.mutation.outcome.isSome) :
      Turn limits call state { state.rows call.key with
          outcome := call.mutation.outcome, event := some call.mutation.event }
        (zrem call.key state.index) (quotaOf 0 0 (-zremCount call.key state.index) 1 1)
  | cleaned (units : Nat) (isCleanup : call.mutation.operation = .cleanup)
      (isExact : call.mutation.claim.Exact (state.rows call.key))
      (isCompleted : (state.rows call.key).sourceCompleted = true)
      (isElected : (state.rows call.key).outcome.isSome)
      (isUnits : (state.rows call.key).reservedUnits = some units) :
      Turn limits call state {} (zrem call.key state.index)
        (quotaOf (-units) (-1) (-zremCount call.key state.index) (-1) (-1))

/-- A call makes no change, or a turn. -/
def Turned (limits : Limits) (call : Call) (state after : State) : Prop :=
  after = state ∨ ∃ row index delta, Turn limits call state row index delta ∧
    after = state.write call.mutation row index delta

theorem arm_turned (isArm : call.mutation.operation = .arm) :
    Turned limits call state (arm limits call state).2 := by
  unfold arm
  simp only
  split_ifs with held
  · exact .inl rfl
  · exact .inl rfl
  · exact .inl rfl
  · exact .inr ⟨_, _, _, .armed isArm (by simpa using held), rfl⟩

theorem elect_turned (isElect : call.mutation.operation = .elect)
    (isExact : call.mutation.claim.Exact (state.rows call.key))
    (isOpen : (state.rows call.key).outcome = none) :
    Turned limits call state (elect limits call state).2 := by
  unfold elect
  simp only
  split_ifs with empty full
  · exact .inl rfl
  · exact .inl rfl
  · rw [not_or] at empty
    exact .inr ⟨_, _, _, .elected isElect isExact isOpen (Option.isSome_iff_ne_none.mpr empty.2),
      rfl⟩

theorem cleanup_turned (isCleanup : call.mutation.operation = .cleanup)
    (isExact : call.mutation.claim.Exact (state.rows call.key)) :
    Turned limits call state (cleanup call state).2 := by
  unfold cleanup
  simp only
  split_ifs with waits
  · exact .inl rfl
  simp only [not_or, Bool.not_eq_false] at waits
  split
  · exact .inl rfl
  · next units isUnits =>
    exact .inr ⟨_, _, _, .cleaned units isCleanup isExact waits.1
      (Option.isSome_iff_ne_none.mpr waits.2.1) isUnits, rfl⟩

theorem perform_turned (limits : Limits) (call : Call) (state : State) :
    Turned limits call state (perform limits call state).2 := by
  unfold perform
  simp only
  split
  · exact .inl rfl
  split_ifs with arm isExact ends elects
  · exact arm_turned arm
  · exact .inl rfl
  · exact .inl rfl
  · have isOpen : call.mutation.operation ≠ .cleanup → (state.rows call.key).outcome = none := by
      intro other
      by_contra isSome
      exact elects ⟨Option.isSome_iff_ne_none.mpr isSome, other⟩
    split
    · next op => exact arm_turned op
    · next op =>
      have ne : call.mutation.operation ≠ .cleanup := by simp [op]
      exact .inr ⟨_, _, _, .moved _ (by omega) ne isExact (isOpen ne), rfl⟩
    · next op =>
      have ne : call.mutation.operation ≠ .cleanup := by simp [op]
      exact .inr ⟨_, _, _, .moved _ le_rfl ne isExact (isOpen ne), rfl⟩
    · next op =>
      have ne : call.mutation.operation ≠ .cleanup := by simp [op]
      exact .inr ⟨_, _, _, .completed ne isExact (isOpen ne), rfl⟩
    · next op => exact elect_turned op isExact (isOpen (by simp [op]))
    · next op => exact cleanup_turned op isExact
  · exact .inl rfl

def Row.charge (row : Row) : Quota :=
  quotaOf (row.reservedUnits.getD 0) row.generation.isSome.toNat
    (row.generation.isSome && row.outcome.isNone).toNat row.outcome.isSome.toNat
    row.event.isSome.toNat

/-- A row is absent, or has every field that arming it sets. -/
def Row.Lawful (row : Row) : Prop :=
  row = {} ∨ row.generation.isSome ∧ row.owner.isSome ∧ row.reservedUnits.isSome ∧
    (∃ deadline, row.deadline = some deadline ∧ 0 < deadline) ∧
    row.event.isSome = row.outcome.isSome

def Row.Unsettled (row : Row) : Prop := row.generation.isSome ∧ row.outcome = none

/-- The index holds the unsettled records, each under its deadline. -/
def Indexed (rows : Nat → Row) (index : List (Nat × Int)) : Prop :=
  ∀ key score, (key, score) ∈ index ↔ (rows key).Unsettled ∧ (rows key).deadline = some score

structure Sound (state : State) : Prop where
  lawful : ∀ key, (state.rows key).Lawful
  exact : Exact Row.charge state.rows state.quota
  indexed : Indexed state.rows state.index

/-- A claim with generation -1 and no owner is that of a missing record, and the
server's clock is past its epoch. -/
def RealClaim (call : Call) (_ : State) : Prop :=
  ¬ (call.mutation.claim.pickupGeneration = -1 ∧ call.mutation.claim.owner = "") ∧ 0 < call.now

instance (call : Call) (state : State) : Decidable (RealClaim call state) :=
  inferInstanceAs (Decidable (_ ∧ _))

theorem sound_initial : Sound {} :=
  ⟨fun _ => .inl rfl, exact_zero fun _ => by funext meter; cases meter <;> rfl,
    fun _ _ => by simp [Row.Unsettled]⟩

theorem Row.Lawful.held (lawful : row.Lawful) (real : RealClaim call state)
    (isExact : call.mutation.claim.Exact row) :
    row.generation.isSome ∧ row.owner.isSome ∧ row.reservedUnits.isSome ∧
      (∃ deadline, row.deadline = some deadline ∧ 0 < deadline) ∧
      row.event.isSome = row.outcome.isSome := by
  rcases lawful with empty | held
  · subst empty
    exact (real.1 ⟨isExact.1.symm, isExact.2.symm⟩).elim
  · exact held

theorem Row.Lawful.free (lawful : row.Lawful) (isFree : row.generation = none) : row = {} := by
  rcases lawful with empty | held
  · exact empty
  · rw [isFree] at held
    cases held.1

theorem mem_zadd (other : Nat) (at_ : Int) :
    (other, at_) ∈ zadd key score index ↔
      other = key ∧ at_ = score ∨ other ≠ key ∧ (other, at_) ∈ index := by
  simp [zadd, List.mem_orderedInsert, and_comm]

theorem mem_zrem (other : Nat) (at_ : Int) :
    (other, at_) ∈ zrem key index ↔ other ≠ key ∧ (other, at_) ∈ index := by
  simp [zrem, and_comm]

theorem Sound.zremCount_eq (sound : Sound state) (lawful : (state.rows key).generation.isSome) :
    zremCount key state.index = (state.rows key).outcome.isNone.toNat := by
  have member : state.index.any (·.1 = key) = true ↔ (state.rows key).outcome = none := by
    rw [List.any_eq_true]
    constructor
    · rintro ⟨⟨other, at_⟩, mem, isKey⟩
      have isKey : other = key := by simpa using isKey
      subst isKey
      exact ((sound.indexed other at_).mp mem).1.2
    · intro isOpen
      rcases sound.lawful key with empty | held
      · rw [empty] at lawful
        cases lawful
      · obtain ⟨deadline, due, _⟩ := held.2.2.2.1
        exact ⟨(key, deadline), (sound.indexed key deadline).mpr ⟨⟨lawful, isOpen⟩, due⟩,
          by simp⟩
  unfold zremCount
  split_ifs with isAny
  · simp [member.mp isAny]
  · cases result : (state.rows key).outcome with
    | none => exact (isAny (member.mpr result)).elim
    | some => rfl

/-- Only the entry of the row that is written changes. -/
theorem Indexed.update (indexed : Indexed rows index)
    (others : ∀ other at_, other ≠ key → ((other, at_) ∈ next ↔ (other, at_) ∈ index))
    (own : ∀ at_, (key, at_) ∈ next ↔ row.Unsettled ∧ row.deadline = some at_) :
    Indexed (update rows key row) next := by
  intro other at_
  by_cases isKey : other = key
  · subst isKey
    rw [update_self]
    exact own at_
  · rw [update_of_ne isKey, others other at_ isKey]
    exact indexed other at_

theorem Sound.write (sound : Sound state) (lawful : row.Lawful)
    (balanced : row.charge = (state.rows call.key).charge + delta)
    (others : ∀ other at_, other ≠ call.key → ((other, at_) ∈ index ↔ (other, at_) ∈ state.index))
    (own : ∀ at_, (call.key, at_) ∈ index ↔ row.Unsettled ∧ row.deadline = some at_) :
    Sound (state.write call.mutation row index delta) where
  lawful := (forall_update_iff _ fun _ => Row.Lawful).mpr
    ⟨lawful, fun key _ => sound.lawful key⟩
  exact := sound.exact.update balanced
  indexed := sound.indexed.update others own

theorem Sound.turn (sound : Sound state) (real : RealClaim call state)
    (turn : Turn limits call state row index delta) :
    Sound (state.write call.mutation row index delta) := by
  have lawful := sound.lawful call.key
  cases turn with
  | armed arm isFree =>
    have empty := lawful.free isFree
    have later : 0 < (call.now : Int) + call.mutation.timeoutMs := by
      have := real.2
      omega
    rw [empty]
    refine sound.write (.inr ⟨rfl, rfl, rfl, ⟨_, rfl, later⟩, rfl⟩) ?_ ?_ ?_
    · rw [empty]
      funext meter
      cases meter <;> simp [Row.charge, quotaOf]
    · intro _ _ ne
      simp [mem_zadd, ne]
    · intro _
      simp [mem_zadd, Row.Unsettled, eq_comm]
  | moved deadline later diff isExact isOpen =>
    obtain ⟨isHeld, owned, isUnits, _, isEvent⟩ := lawful.held real isExact
    have above : 0 < deadline := by
      have := real.2
      omega
    refine sound.write (.inr ⟨isHeld, owned, isUnits, ⟨_, rfl, above⟩, isEvent⟩) ?_ ?_ ?_
    · funext meter
      cases meter <;> simp [Row.charge, quotaOf]
    · intro _ _ ne
      simp [mem_zadd, ne]
    · intro _
      simp [mem_zadd, Row.Unsettled, isHeld, isOpen, eq_comm]
  | completed diff isExact isOpen =>
    refine sound.write (.inr (lawful.held real isExact)) ?_ (fun _ _ _ => .rfl) ?_
    · funext meter
      cases meter <;> simp [Row.charge, quotaOf]
    · exact fun at_ => sound.indexed call.key at_
  | elected elect isExact isOpen named =>
    obtain ⟨isHeld, owned, isUnits, timed, isEvent⟩ := lawful.held real isExact
    have noEvent : (state.rows call.key).event = none := by simpa [isOpen] using isEvent
    refine sound.write (.inr ⟨isHeld, owned, isUnits, timed, named.symm⟩) ?_ ?_ ?_
    · rw [sound.zremCount_eq isHeld]
      funext meter
      cases meter <;> simp [Row.charge, quotaOf, isOpen, isHeld, named, noEvent]
    · intro _ _ ne
      simp [mem_zrem, ne]
    · intro _
      simp [mem_zrem, Row.Unsettled, Option.isSome_iff_ne_none.mp named]
  | cleaned units cleanup isExact isCompleted elects isUnits =>
    obtain ⟨isHeld, _, _, _, isEvent⟩ := lawful.held real isExact
    refine sound.write (.inl rfl) ?_ ?_ ?_
    · rw [sound.zremCount_eq isHeld]
      funext meter
      cases meter <;> simp [Row.charge, quotaOf, isUnits, isHeld, elects, isEvent]
    · intro _ _ ne
      simp [mem_zrem, ne]
    · intro _
      simp [mem_zrem, Row.Unsettled]

theorem Sound.perform (call : Call) (state : State) (real : RealClaim call state)
    (sound : Sound state) : Sound (perform limits call state).2 := by
  rcases perform_turned limits call state with same | ⟨_, _, _, turn, write⟩
  · rw [same]
    exact sound
  · rw [write]
    exact sound.turn real turn

theorem Sound.selectDue_isSome (sound : Sound state) (now : Int) :
    (selectDue now state).isSome ↔ ∃ key deadline, (state.rows key).Unsettled ∧
      (state.rows key).deadline = some deadline ∧ deadline ≤ now := by
  have listed : (∃ mem ∈ state.index, mem.2 ≤ now) ↔ ∃ key deadline,
      (state.rows key).Unsettled ∧ (state.rows key).deadline = some deadline ∧ deadline ≤ now := by
    constructor
    · rintro ⟨⟨key, deadline⟩, mem, due⟩
      obtain ⟨unsettled, isDeadline⟩ := (sound.indexed key deadline).mp mem
      exact ⟨key, deadline, unsettled, isDeadline, due⟩
    · rintro ⟨key, deadline, unsettled, isDeadline, due⟩
      exact ⟨(key, deadline), (sound.indexed key deadline).mpr ⟨unsettled, isDeadline⟩, due⟩
  rw [← listed]
  unfold selectDue
  split
  · next isNone =>
    simpa using isNone
  rename_i mem first
  have due : mem.2 ≤ now := by simpa using List.find?_some first
  have member := List.mem_of_find?_eq_some first
  obtain ⟨unsettled, isDeadline⟩ := (sound.indexed mem.1 mem.2).mp member
  have above : 0 < mem.2 := by
    rcases sound.lawful mem.1 with empty | held
    · rw [empty] at isDeadline
      cases isDeadline
    obtain ⟨_, kept, above⟩ := held.2.2.2.1
    rw [isDeadline] at kept
    cases kept
    exact above
  have there : ∃ mem ∈ state.index, mem.2 ≤ now := ⟨mem, member, due⟩
  simp only [isDeadline, Option.getD_some, unsettled.2]
  rw [if_neg (by simp; omega)]
  exact ⟨fun _ => there, fun _ => rfl⟩

theorem Turned.elected_row (turned : Turned limits call state after)
    (held : (state.rows key).generation.isSome) (elects : (state.rows key).outcome.isSome) :
    after.rows key = state.rows key ∨
      call.mutation.operation = .cleanup ∧ (state.rows key).sourceCompleted = true ∧
        after.rows key = {} := by
  rcases turned with same | ⟨row, _, _, turn, write⟩
  · exact .inl (by rw [same])
  by_cases isKey : key = call.key
  · subst isKey
    have isRow : after.rows call.key = row := by
      rw [write]
      exact update_self _ _ _
    have notOpen := Option.isSome_iff_ne_none.mp elects
    cases turn with
    | armed _ free => exact (Option.isSome_iff_ne_none.mp held free).elim
    | moved _ _ _ _ isOpen | completed _ _ isOpen | elected _ _ isOpen _ =>
      exact (notOpen isOpen).elim
    | cleaned _ isCleanup _ isCompleted => exact .inr ⟨isCleanup, isCompleted, isRow⟩
  · left
    rw [write]
    exact update_of_ne isKey _ _

theorem Row.Lawful.held_of_elected (lawful : row.Lawful) (elects : row.outcome.isSome) :
    row.generation.isSome := by
  rcases lawful with empty | held
  · rw [empty] at elects
    cases elects
  · exact held.1

def sampleLimits : Limits := ⟨4, 4, 9000, 100⟩

def sampleClaim : LocalPickupClaim := ⟨7, 1, "a"⟩

def sampleArm : Call := ⟨1, { operation := .arm, claim := sampleClaim, payload := [1], timeoutMs := 5 }⟩

def sampleElect : Call :=
  ⟨2, { operation := .elect, claim := sampleClaim, outcome := some .livenessExpired, event := [2] }⟩

def cleanupOf (claim : LocalPickupClaim) : WatchdogMutation := { operation := .cleanup, claim }

/-- An election follows the completion of the source, and no record is armed
again under a claim that was cleaned. -/
def Orderly (call : Call) (state : State) : Prop :=
  RealClaim call state ∧
    (call.mutation.operation = .elect → (state.rows call.key).sourceCompleted = true) ∧
    (call.mutation.operation = .arm → state.operations (cleanupOf call.mutation.claim) = false)

instance (call : Call) (state : State) : Decidable (Orderly call state) :=
  inferInstanceAs (Decidable (_ ∧ _ ∧ _))

/-- The record of the key can be removed once it is elected. -/
def Removable (state : State) (key : Nat) : Prop :=
  ((state.rows key).outcome.isSome → (state.rows key).sourceCompleted = true) ∧
    ∀ generation owner, (state.rows key).generation = some generation →
      (state.rows key).owner = some owner →
      state.operations (cleanupOf ⟨key, generation, owner⟩) = false

theorem removable_of_empty (empty : state.rows key = {}) : Removable state key := by
  simp [Removable, empty]

theorem removable_of_turn (sound : Sound state) (tidy : Orderly call state)
    (removable : ∀ key, Removable state key) (turn : Turn limits call state row index delta)
    (key : Nat) : Removable (state.write call.mutation row index delta) key := by
  obtain ⟨_, elects, arms⟩ := tidy
  -- the only cleanup that a turn records is the one that empties the row
  have unrecorded : ∀ claim : LocalPickupClaim, state.operations (cleanupOf claim) = false →
      (call.mutation.operation = .cleanup → claim.dispatchKey ≠ call.key) →
      update state.operations call.mutation true (cleanupOf claim) = false := by
    intro _ isFalse other
    rw [update_of_ne, isFalse]
    intro same
    exact other (by rw [← same]; rfl) (by rw [Call.key, ← same]; rfl)
  by_cases isKey : key = call.key
  · subst isKey
    obtain ⟨isCompleted, isFree⟩ := removable call.key
    have isRow : (state.write call.mutation row index delta).rows call.key = row :=
      update_self _ _ _
    cases turn with
    | armed arm new =>
      rw [Removable, isRow, (sound.lawful call.key).free new]
      refine ⟨by simp, ?_⟩
      intro _ _ gen owns
      cases gen
      cases owns
      exact unrecorded _ (arms arm) (by simp [arm])
    | moved _ _ other =>
      rw [Removable, isRow]
      exact ⟨isCompleted, fun _ _ gen owns =>
        unrecorded _ (isFree _ _ gen owns) fun isCleanup => (other isCleanup).elim⟩
    | completed other =>
      rw [Removable, isRow]
      exact ⟨fun _ => rfl, fun _ _ gen owns =>
        unrecorded _ (isFree _ _ gen owns) fun isCleanup => (other isCleanup).elim⟩
    | elected elect =>
      rw [Removable, isRow]
      exact ⟨fun _ => elects elect, fun _ _ gen owns =>
        unrecorded _ (isFree _ _ gen owns) (by simp [elect])⟩
    | cleaned => exact removable_of_empty isRow
  · have isRow : (state.write call.mutation row index delta).rows key = state.rows key :=
      update_of_ne isKey _ _
    unfold Removable
    rw [isRow]
    exact ⟨(removable key).1, fun _ _ gen owns =>
      unrecorded _ ((removable key).2 _ _ gen owns) fun _ => isKey⟩

theorem removable_perform (call : Call) (state : State) (tidy : Orderly call state)
    (holds : Sound state ∧ ∀ key, Removable state key) :
    Sound (perform limits call state).2 ∧ ∀ key, Removable (perform limits call state).2 key := by
  refine ⟨holds.1.perform call state tidy.1, ?_⟩
  rcases perform_turned limits call state with same | ⟨_, _, _, turn, write⟩
  · rw [same]
    exact holds.2
  · rw [write]
    exact removable_of_turn holds.1 tidy holds.2 turn

def sampleComplete : Call := ⟨2, { operation := .completeSource, claim := sampleClaim }⟩

/-- An election is asked for a record that stands under the claim, and that is
settled or can be. -/
def Electable (limits : Limits) (call : Call) (formation : Formation) : Prop :=
  RealClaim call formation.state ∧ (call.mutation.operation = .elect →
    call.mutation.claim.Exact (formation.state.rows call.key) ∧
      ((formation.state.rows call.key).outcome.isSome ∨
        formation.state.operations call.mutation = false ∧
          formation.state.quota .durableOutcomes < limits.maxStagedOutcomes))

instance (call : Call) (formation : Formation) : Decidable (Electable limits call formation) :=
  inferInstanceAs (Decidable (_ ∧ _))

theorem Sound.quota_nonneg (sound : Sound state) (meter : Meter) : 0 ≤ state.quota meter := by
  refine sound.exact.nonneg (fun _ => ?_) meter
  intro meter
  cases meter <;> simp [Row.charge, quotaOf]

/-- The script's answer to a call as the adapter tells it. -/
theorem readReply_perform (sound : Sound formation.state)
    (electable : Electable limits call formation) (isValid : call.valid limits = true) :
    let reply := (perform limits call formation.state).1
    let answer := readReply call.mutation.operation reply
    reply.status ≠ .rejected ∧ answer ≠ .accounting ∧
      (reply.status = .stale → answer = .flag false) ∧
      (reply.status = .fenced → answer = .capacityFenced) := by
  obtain ⟨real, elects⟩ := electable
  cases op : call.mutation.operation with
  | arm =>
    simp only [perform, arm, op]
    split_ifs <;> simp_all [State.reply, readReply]
  | renew | registerFailure =>
    simp only [perform, moveDeadline, op]
    split_ifs <;> simp_all [State.reply, readReply]
  | completeSource =>
    simp only [perform, op]
    split_ifs <;> simp_all [State.reply, readReply]
  | elect =>
    obtain ⟨_, settles⟩ := elects op
    have named : call.mutation.event ≠ [] ∧ call.mutation.outcome.isSome := by
      simp only [Call.valid, op, decide_eq_true_eq] at isValid
      exact ⟨isValid.1, isValid.2.2⟩
    obtain ⟨_, _⟩ := Option.isSome_iff_exists.mp named.2
    simp only [perform, elect, op]
    rcases settles with ends | ⟨_, _⟩
    · obtain ⟨_, _⟩ := Option.isSome_iff_exists.mp ends
      split_ifs <;> simp_all [State.reply, readReply]
    · cases isElected : (formation.state.rows call.key).outcome <;> split_ifs <;>
        first | omega | simp_all [State.reply, readReply]
  | cleanup =>
    simp only [perform, cleanup, op]
    by_cases isExact : call.mutation.claim.Exact (formation.state.rows call.key)
    · obtain ⟨_, _, isUnits, _, _⟩ := (sound.lawful call.key).held real isExact
      obtain ⟨_, _⟩ := Option.isSome_iff_exists.mp isUnits
      split_ifs <;> simp_all [State.reply, readReply]
    · split_ifs <;> simp_all [State.reply, readReply]

theorem serve_answer (electable : Electable limits call formation)
    (isValid : call.valid limits = true) (sound : Sound formation.state)
    (isOpen : formation.isOpen = true) :
    serve limits call formation =
      (readReply call.mutation.operation (perform limits call formation.state).1,
        ⟨(perform limits call formation.state).2, true⟩) := by
  obtain ⟨denied, accounting, _, _⟩ := readReply_perform sound electable isValid
  have counted : ∀ meter, ¬ (perform limits call formation.state).2.quota meter < 0 := by
    intro meter
    exact not_lt.mpr ((sound.perform call formation.state electable.1).quota_nonneg meter)
  simp [serve, isValid, isOpen, denied, accounting, counted]

theorem serve_keeps (call : Call) (formation : Formation)
    (electable : Electable limits call formation)
    (holds : Sound formation.state ∧ formation.isOpen = true) :
    Sound (serve limits call formation).2.state ∧
      (serve limits call formation).2.isOpen = true := by
  by_cases isValid : call.valid limits = true
  · rw [serve_answer electable isValid holds.1 holds.2]
    exact ⟨holds.1.perform call formation.state electable.1, rfl⟩
  · simpa [serve, isValid] using holds

end Tickr.RedisRoles.LivenessWatchdog
