import Tickr.Pickup.Records
import Tickr.Script

/-!
# The Redis compaction staging

One script stages an envelope, hands it to a consumer, seals its references,
records its archive and completes it.  The two digests that it completed with
stay.
-/

namespace Tickr.RedisRoles.CompactionStaging

open Pickup (Bytes)
open Script

/-- A text of sixty-four digits, so that the text of a completion is a pair. -/
abbrev Digest := String

/-- The hashes of digests, stream ids and payloads, which are written together. -/
structure Envelope where
  digest : Digest
  streamId : Nat
  payload : Bytes
  deriving DecidableEq

structure Row where
  envelope : Option Envelope := none
  units : Nat := 0
  -- the sealed payload and the number of its references
  sealed : Option (Bytes × Nat) := none
  archive : Option (Bytes × Digest) := none
  completed : Option (Digest × Digest) := none

/-- Used bytes, staged envelopes, sealed references and archive commits. -/
abbrev Quota := Int × Int × Int × Int

structure State where
  rows : String → Row := fun _ => {}
  pending : Nat → Option String := fun _ => none
  stream : List Nat := []
  nextId : Nat := 0
  quota : Quota := 0
  pendingDeliveries : Int := 0

structure Limits where
  (maxEnvelopes maxReferences hardBytes : Nat)

inductive Status where
  | completed | conflict | accounting | trimmed | replayed | fenced | staged | missing | claimed
  | sealed | ineligible | archived | replayedComplete

abbrev Reply := Status × Option Nat

inductive Operation where
  | stage (digest : Digest) (payload : Bytes) (units : Nat)
  | claim (digest : Digest) (payload : Bytes) (units streamId : Nat)
  | «seal» (payload : Bytes) (units references : Nat)
  | archive (payload : Bytes) (units : Nat) (digest : Digest)
  | complete (digest archiveDigest : Digest) (streamId : Nat)

structure Call where
  identity : String
  operation : Operation

def State.reply (state : State) (status : Status) (detail : Option Nat := none) : Reply × State :=
  ((status, detail), state)

def State.write (state : State) (identity : String) (row : Row) (delta : Quota)
    (stream : List Nat := state.stream) (nextId : Nat := state.nextId) : State where
  rows := Function.update state.rows identity row
  pending := state.pending
  stream := stream
  nextId := nextId
  quota := state.quota + delta
  pendingDeliveries := state.pendingDeliveries

/-- The delivery of a stream entry is noted or forgotten. -/
def State.deliver (state : State) (id : Nat) (holder : Option String) (delta : Int) : State :=
  { state with
    pending := Function.update state.pending id holder
    pendingDeliveries := state.pendingDeliveries + delta }

def State.Full (limits : Limits) (units : Nat) (state : State) : Prop :=
  limits.hardBytes < units ∨ (limits.hardBytes : Int) - units < state.quota.1

instance (limits : Limits) (units : Nat) (state : State) : Decidable (state.Full limits units) :=
  inferInstanceAs (Decidable (_ ∨ _))

def perform (limits : Limits) (call : Call) (state : State) : Reply × State :=
  let identity := call.identity
  let row := state.rows identity
  match call.operation with
  | .stage digest payload units =>
    match row.completed, row.envelope with
    | some done, _ => state.reply (if done.1 = digest then .completed else .conflict)
    | none, some prior =>
      if prior.digest ≠ digest then state.reply .conflict
      else if prior.payload ≠ payload ∨ row.units < units then state.reply .accounting
      else if prior.streamId ∉ state.stream then state.reply .trimmed prior.streamId
      else state.reply .replayed prior.streamId
    | none, none =>
      if limits.maxEnvelopes ≤ state.quota.2.1 ∨ state.Full limits units then
        state.reply .fenced
      else
        let id := state.nextId
        let staged := { row with envelope := some ⟨digest, id, payload⟩, units }
        (state.write identity staged (units, 1, 0, 0) (id :: state.stream) (id + 1)).reply
          .staged id
  | .claim digest payload units streamId =>
    match state.pending streamId with
    | some prior => state.reply (if prior = identity then .replayed else .accounting) streamId
    | none =>
      if row.envelope ≠ some ⟨digest, streamId, payload⟩ ∨ row.units < units then
        state.reply .missing streamId
      else if streamId ∉ state.stream then state.reply .trimmed streamId
      else (state.deliver streamId identity 1).reply .claimed streamId
  | .«seal» payload units references =>
    match row.envelope, row.sealed with
    | none, _ => state.reply .missing
    | some _, some prior => state.reply (if prior.1 = payload then .replayed else .conflict)
    | some _, none =>
      if limits.maxReferences < references ∨
          (limits.maxReferences : Int) - references < state.quota.2.2.1 ∨
          state.Full limits units then
        state.reply .fenced
      else
        let next := { row with sealed := some (payload, references), units := row.units + units }
        (state.write identity next (units, 0, references, 0)).reply .sealed
  | .archive payload units digest =>
    match row.sealed, row.archive with
    | none, _ => state.reply .ineligible
    | some _, some prior =>
      state.reply (if prior = (payload, digest) then .replayed else .conflict)
    | some _, none =>
      if state.Full limits units then state.reply .fenced
      else
        let archived := { row with archive := some (payload, digest), units := row.units + units }
        (state.write identity archived (units, 0, 0, 1)).reply .archived
  | .complete digest archiveDigest streamId =>
    match row.completed, row.envelope, row.sealed, row.archive with
    | some done, _, _, _ =>
      state.reply (if done = (digest, archiveDigest) then .replayedComplete else .conflict) streamId
    | none, some staged, some sealed, some archived =>
      if staged.digest ≠ digest ∨ staged.streamId ≠ streamId ∨
          state.pending streamId ≠ some identity ∨ archived.2 ≠ archiveDigest ∨ sealed.2 < 1 then
        state.reply .ineligible streamId
      else if streamId ∉ state.stream then state.reply .trimmed streamId
      else
        let next := (state.deliver streamId none (-1)).write identity
          { completed := some (digest, archiveDigest) } (-row.units, -1, -sealed.2, -1)
          (state.stream.erase streamId)
        let negative := next.quota.1 < 0 ∨ next.quota.2.1 < 0 ∨ next.pendingDeliveries < 0 ∨
          next.quota.2.2.1 < 0 ∨ next.quota.2.2.2 < 0
        next.reply (if negative then .accounting else .completed) streamId
    | _, _, _, _ => state.reply .ineligible streamId

/-! ## What holds in every run -/

def Row.charge (row : Row) : Quota :=
  (row.units, row.envelope.toList.length, row.sealed.elim 0 (·.2), row.archive.toList.length)

/-- The digest that the identity was accepted with. -/
def Row.accepted (row : Row) : Option Digest :=
  row.completed.map (·.1) <|> row.envelope.map (·.digest)

structure Row.Lawful (row : Row) : Prop where
  uncharged : row.envelope = none → row.units = 0 ∧ row.sealed = none ∧ row.archive = none
  ends : row.completed.isSome → row.envelope = none

/-- An accepted digest and a completion stay, and an envelope stays until the
completion. -/
structure Row.Follows (old new : Row) : Prop where
  accepted : ∀ digest, old.accepted = some digest → new.accepted = some digest
  stored : ∀ staged, old.envelope = some staged → new.envelope = some staged ∨ new.completed.isSome
  completed : ∀ done, old.completed = some done → new.completed = some done

theorem Row.Follows.trans {first second third : Row} (early : first.Follows second)
    (late : second.Follows third) : first.Follows third where
  accepted digest h := late.accepted _ (early.accepted _ h)
  completed done h := late.completed _ (early.completed _ h)
  stored staged h := by
    rcases early.stored staged h with held | ended
    · exact late.stored staged held
    · obtain ⟨done, isDone⟩ := Option.isSome_iff_exists.mp ended
      exact .inr (by rw [late.completed done isDone]; rfl)

/-- What one step does: a row completes with the digests of its envelope and of
its archive, and only when it is sealed. -/
structure Row.Turns (old new : Row) : Prop extends old.Follows new where
  ends : ∀ done, new.completed = some done → old.completed = some done ∨
    old.sealed.isSome ∧ old.envelope.map (·.digest) = some done.1 ∧
      old.archive.map (·.2) = some done.2

structure Sound (state : State) : Prop where
  rows : Exact Row.charge state.rows state.quota
  deliveries : Exact (fun holder : Option String => (holder.toList.length : Int)) state.pending
    state.pendingDeliveries
  lawful : ∀ identity, (state.rows identity).Lawful
  pending : ∀ id identity, state.pending id = some identity →
    (state.rows identity).envelope.map (·.streamId) = some id

variable {state : State} {identity : String} {row : Row}

def Advances (state next : State) : Prop :=
  Sound next ∧ ∀ identity, (state.rows identity).Turns (next.rows identity)

theorem Row.Turns.of_same {old new : Row} (staged : new.envelope = old.envelope)
    (done : new.completed = old.completed) : old.Turns new :=
  ⟨⟨by simp [Row.accepted, staged, done], fun _ h => .inl (staged.trans h),
    fun _ h => done.trans h⟩, fun _ h => .inl (done.symm.trans h)⟩

variable (sound : Sound state)
include sound

theorem Sound.stays : Advances state state :=
  ⟨sound, fun _ => .of_same rfl rfl⟩

theorem Sound.write {stream : List Nat}
    (balanced : row.charge = (state.rows identity).charge + delta) (lawful : row.Lawful)
    (held : ∀ id, state.pending id = some identity → row.envelope.map (·.streamId) = some id)
    (turns : (state.rows identity).Turns row) :
    Advances state (state.write identity row delta stream nextId) := by
  refine ⟨⟨sound.rows.update balanced, sound.deliveries, fun other => ?_, fun id other isHeld => ?_⟩,
    fun other => ?_⟩
  all_goals by_cases same : other = identity
  all_goals simp_all [State.write]
  · exact sound.lawful other
  · simpa using sound.pending id other isHeld
  · exact .of_same rfl rfl

theorem Sound.deliver {id : Nat}
    (balanced : (holder.toList.length : Int) = (state.pending id).toList.length + delta)
    (held : ∀ identity, holder = some identity →
      (state.rows identity).envelope.map (·.streamId) = some id) :
    Sound (state.deliver id holder delta) := by
  refine ⟨sound.rows, sound.deliveries.update balanced, sound.lawful, fun other identity isHeld => ?_⟩
  by_cases same : other = id
  · subst same
    exact held identity (by simpa [State.deliver] using isHeld)
  · exact sound.pending other identity (by simpa [State.deliver, same] using isHeld)

theorem Sound.perform (limits : Limits) (call : Call) :
    Advances state (perform limits call state).2 := by
  obtain ⟨identity, operation⟩ := call
  have lawful := sound.lawful identity
  have held := fun id => sound.pending id identity
  cases operation with
  | stage =>
    dsimp only [CompactionStaging.perform]
    split
    · exact sound.stays
    · split_ifs <;> exact sound.stays
    rename_i done unstaged
    have free := lawful.uncharged unstaged
    split_ifs <;> try exact sound.stays
    apply sound.write
    · simp [Row.charge, free, unstaged]
    · exact ⟨by simp, by simp [done]⟩
    · simp_all
    · refine ⟨⟨?_, by simp [unstaged], ?_⟩, ?_⟩ <;> simp_all [Row.accepted]
  | claim =>
    dsimp only [CompactionStaging.perform]
    split
    · exact sound.stays
    · rename_i unclaimed
      split_ifs with ne <;> try exact sound.stays
      exact ⟨sound.deliver (by simp [unclaimed]) (by simp_all), fun _ => .of_same rfl rfl⟩
  | «seal» payload amount references =>
    dsimp only [CompactionStaging.perform]
    split <;> try exact sound.stays
    rename_i staged stages unsealed
    split_ifs <;> try exact sound.stays
    apply sound.write
    · simp [Row.charge, unsealed]
    · exact ⟨by simp [stages], lawful.ends⟩
    · exact held
    · exact .of_same rfl rfl
  | archive =>
    dsimp only [CompactionStaging.perform]
    split <;> try exact sound.stays
    rename_i isSealed unarchived
    split_ifs <;> try exact sound.stays
    apply sound.write
    · simp [Row.charge, unarchived]
    · exact ⟨fun unstaged => by simp_all [lawful.uncharged unstaged], lawful.ends⟩
    · exact held
    · exact .of_same rfl rfl
  | complete digest archiveDigest streamId =>
    dsimp only [CompactionStaging.perform]
    split <;> try exact sound.stays
    rename_i staged sealed filed done stages isSealed isArchived
    split_ifs with unequal <;> try exact sound.stays
    all_goals
      simp only [not_or, not_not] at unequal
      obtain ⟨_, _, isHeld, _, -⟩ := unequal
      apply (sound.deliver (by simp [isHeld]) (by simp)).write
      · simp [Row.charge, State.deliver, stages, isSealed, isArchived]
      · exact ⟨by simp, by simp⟩
      · intro id stillHeld
        by_cases same : id = streamId
        · simp [State.deliver, same] at stillHeld
        · have only := held id (by simpa [State.deliver, same] using stillHeld)
          simp_all
      · refine ⟨⟨?_, by simp, ?_⟩, ?_⟩ <;> simp_all [State.deliver, Row.accepted]

omit sound

theorem accepted_of_stage
    (taken : (perform limits ⟨identity, .stage digest payload units⟩ state).1.1 ∈
      [.staged, .replayed, .completed]) :
    ((perform limits ⟨identity, .stage digest payload units⟩ state).2.rows identity).accepted =
      some digest := by
  revert taken
  dsimp only [perform]
  split
  · split_ifs <;> simp_all [State.reply, Row.accepted]
  · split_ifs <;> simp_all [State.reply, Row.accepted]
  · split_ifs <;> simp_all [State.reply, State.write, Row.accepted]

def Progress (old new : State) : Prop :=
  Sound new ∧ ∀ identity, (old.rows identity).Follows (new.rows identity)

theorem run_progresses (limits : Limits) (calls : List Call) (sound : Sound state) :
    Progress state (run (perform limits) calls state) := by
  refine run_keeps (fun call now _ held => ?_) (meets_true _ _)
    ⟨sound, fun _ => (Row.Turns.of_same rfl rfl).toFollows⟩
  have next := held.1.perform limits call
  exact ⟨next.1, fun identity => (held.2 identity).trans (next.2 identity).toFollows⟩

theorem digests_kept_and_counters_exact (limits : Limits) (first second : List Call) :
    let before := run (perform limits) first {}
    let after := run (perform limits) second before
    (∀ identity, (before.rows identity).Follows (after.rows identity)) ∧
    (∀ identity digest payload units,
      let served := perform limits ⟨identity, .stage digest payload units⟩ after
      served.1.1 ∈ [.staged, .replayed, .completed] →
        (served.2.rows identity).accepted = some digest) ∧
    (∀ call identity, (after.rows identity).Turns ((perform limits call after).2.rows identity)) ∧
    Exact Row.charge after.rows after.quota ∧
    Exact (fun holder : Option String => (holder.toList.length : Int)) after.pending
      after.pendingDeliveries ∧
    ∀ identity, (after.rows identity).completed.isSome →
      (after.rows identity).charge = 0 ∧ ∀ id, after.pending id ≠ some identity := by
  intro before after
  have fresh : Sound {} := ⟨exact_zero fun _ => rfl, exact_zero fun _ => rfl,
    fun _ => ⟨by simp, by simp⟩, by simp⟩
  have early : Sound before := (run_progresses limits first fresh).1
  have late : Progress before after := run_progresses limits second early
  refine ⟨late.2, fun _ _ _ _ => accepted_of_stage, fun call => (late.1.perform limits call).2,
    late.1.rows, late.1.deliveries, fun identity ended => ?_⟩
  have gone := (late.1.lawful identity).ends ended
  have free := (late.1.lawful identity).uncharged gone
  refine ⟨?_, fun id held => ?_⟩
  · simp [Row.charge, gone, free]
  · simpa [gone] using late.1.pending id identity held

end Tickr.RedisRoles.CompactionStaging
