import Tickr.Pickup.Elections

/-!
# The order of a dispatch's events

While the record has not moved on since its publisher read it, and the event
stream recognises what it has stored, a dispatch's events are Assigned, then
Started, then one terminal event, each at most once.
-/

namespace Tickr.Pickup

open Concurrent KeyValue
open Concurrent.Discipline

variable {record : TaskPickupRecord} {identity : EventIdentity} {choice : PickupChoice}

/-- The kinds of a dispatch's events, in the order of the stream. -/
def eventKinds (sequence : Nat) (shared : Shared) : List EventKind :=
  shared.events.stored.filterMap fun stored =>
    if stored.id.dispatchKey = sequence then some stored.id.kind else none

/-- Assigned, then Started if any, then a terminal event if any. -/
def InOrder (kinds : List EventKind) : Prop :=
  kinds ∈ [[], [.assigned], [.assigned, .started], [.assigned, .terminal],
    [.assigned, .started, .terminal]]

/-- The events of a dispatch are in order, and no event is ahead of the
record. -/
structure Orderly (sequence : Nat) (shared : Shared) : Prop where
  inOrder : InOrder (eventKinds sequence shared)
  assigned : ∀ kind ∈ eventKinds sequence shared, kind ≠ .assigned →
    AssignedBefore shared.bucket sequence
  settled : .terminal ∈ eventKinds sequence shared →
    (settledBy sequence shared.bucket).isSome = true

instance (shared : Shared) (identity : EventIdentity) : Decidable (Staged shared identity) :=
  inferInstanceAs (Decidable (∃ stored ∈ shared.events.stored, _))

/-- A publish finds the record at the revision that was read, and an event of
its identity that is in the stream is still recognised. -/
def EventIsCurrent (_ : Nat) (op : PickupOp) (shared : Shared) : Prop :=
  match op with
  | .stage identity staged =>
    revisionOf (.dispatch identity.dispatchKey) shared.bucket = staged.basis ∧
      (Staged shared identity → identity ∈ shared.events.seenIds)
  | _ => True

instance (peer : Nat) (op : PickupOp) (shared : Shared) :
    Decidable (EventIsCurrent peer op shared) := by
  unfold EventIsCurrent
  split <;> infer_instance

variable {kind : EventKind} {sequence : Nat}

theorem staged_of_mem_eventKinds :
    kind ∈ eventKinds sequence shared ↔ Staged shared ⟨sequence, kind⟩ := by
  unfold eventKinds Staged
  rw [List.mem_filterMap]
  constructor
  · intro found
    obtain ⟨kept, mem, isKind⟩ := found
    refine ⟨kept, mem, ?_⟩
    split at isKind
    · rename_i sameKey
      cases isKind
      rw [← sameKey]
    · cases isKind
  · intro found
    obtain ⟨kept, mem, id⟩ := found
    refine ⟨kept, mem, ?_⟩
    rw [id, if_pos rfl]

theorem eventKinds_append_same (shared : Shared) (identity : EventIdentity) (event : StagedEvent) :
    eventKinds identity.dispatchKey { shared with events := shared.events.append identity event } =
      eventKinds identity.dispatchKey shared ++ [identity.kind] := by
  simp [eventKinds, JetStream.Subject.append]

theorem eventKinds_append_other
    (ne : identity.dispatchKey ≠ sequence) (shared : Shared) (event : StagedEvent) :
    eventKinds sequence { shared with events := shared.events.append identity event } =
      eventKinds sequence shared := by
  simp [eventKinds, JetStream.Subject.append, ne]

theorem InOrder.append {kinds : List EventKind} (inOrder : InOrder kinds) (new : kind ∉ kinds)
    (first : kind = .assigned → .started ∉ kinds ∧ .terminal ∉ kinds)
    (afterAssigned : kind ≠ .assigned → .assigned ∈ kinds)
    (beforeTerminal : kind = .started → .terminal ∉ kinds) :
    InOrder (kinds ++ [kind]) := by
  unfold InOrder at inOrder ⊢
  simp only [List.mem_cons, List.not_mem_nil, or_false] at inOrder
  rcases inOrder with rfl | rfl | rfl | rfl | rfl <;> cases kind <;>
    simp_all

variable {wire : Wire} {peer : Nat} {before after : Shared} {event : StagedEvent}

theorem Change.readBefore (change : Change wire peer before after)
    (appended : after = { before with events := before.events.append identity event }) :
    ∃ record, ReadAt before.bucket identity.dispatchKey record event.basis ∧
      Grounded record identity.kind := by
  have sameBucket : after.bucket = before.bucket := by rw [appended]
  have longer : after.events.stored.length = before.events.stored.length + 1 := by
    rw [appended]
    simp [JetStream.Subject.append]
  cases change with
  | nothing => omega
  | created | advanced | fenced | refenced | probed => simp at sameBucket
  | forgotten => simp [Shared.forget] at longer
  | launched => simp at longer
  | staged _ _ _ record isRead ground =>
    have same := congrArg (fun shared : Shared => shared.events.stored) appended
    simp only [JetStream.Subject.append, List.append_cancel_left_eq,
      List.cons.injEq, JetStream.Stored.mk.injEq] at same
    obtain ⟨⟨_, sameIdentity, sameEvent⟩, _⟩ := same
    subst sameIdentity
    subst sameEvent
    exact ⟨record, isRead, ground⟩

/-- Nothing published, nothing out of order. -/
theorem Orderly.grown (tidy : Orderly sequence before) (grown : Grown before after)
    (same : after.events.stored = before.events.stored) :
    Orderly sequence after := by
  have kinds : eventKinds sequence after = eventKinds sequence before := by
    unfold eventKinds
    rw [same]
  constructor
  · rw [kinds]
    exact tidy.inOrder
  · intro kind mem later
    rw [kinds] at mem
    exact (tidy.assigned kind mem later).grown grown.bucket
  · intro mem
    rw [kinds] at mem
    obtain ⟨first, isFirst⟩ := Option.isSome_iff_exists.mp (tidy.settled mem)
    rw [show settledBy sequence after.bucket = some first from
      oldest_grown grown.bucket isFirst]
    rfl

theorem AssignedBefore.of_lookup (given : AssignedBefore before.bucket sequence)
    (sound : Sound wire before)
    (found : lookup (.dispatch sequence) before.bucket = some (.pickup record)) :
    record.assignedStaged = true := by
  obtain ⟨_, kept, assigns⟩ := given
  obtain ⟨_, now, follows⟩ := kept.current sound
  rw [now] at found
  cases found
  exact follows.assignedStaged assigns

theorem ReadAt.current (isRead : ReadAt before.bucket sequence record revision)
    (same : revisionOf (.dispatch sequence) before.bucket = revision) :
    lookup (.dispatch sequence) before.bucket = some (.pickup record) := by
  obtain ⟨_, isOlder, entry⟩ := isRead
  exact lookup_of_unchanged isOlder entry same

theorem RecordSound.settledBy_isSome (sound : RecordSound wire before sequence record) :
    (settledBy sequence before.bucket).isSome = record.terminal.isSome := by
  have settled := congrArg Option.isSome sound.settled
  rw [Option.isSome_map, Option.isSome_map] at settled
  exact settled.symm

theorem Grounded.assignedStaged (ground : Grounded record kind)
    (sound : RecordSound wire before sequence record)
    (later : kind ≠ .assigned) : record.assignedStaged = true := by
  cases kind with
  | assigned => exact (later rfl).elim
  | started => exact ground.1
  | terminal =>
    obtain ⟨elected, elects, waits⟩ := ground
    exact sound.pending elected elects waits

theorem Orderly.published (tidy : Orderly sequence before) (sound : Sound wire before)
    (found : lookup (.dispatch identity.dispatchKey) before.bucket = some (.pickup record))
    (ground : Grounded record identity.kind) (new : ¬ Staged before identity) :
    Orderly sequence { before with events := before.events.append identity event } := by
  by_cases same : identity.dispatchKey = sequence
  · subst same
    have isSound := sound.cells _ _ found
    have kinds := eventKinds_append_same before identity event
    have notYet : identity.kind = .assigned →
        ∀ kind ∈ eventKinds identity.dispatchKey before, kind = .assigned := by
      intro first kind mem
      by_contra later
      have assigns := (tidy.assigned kind mem later).of_lookup sound found
      rw [first] at ground
      rw [show record.assignedStaged = false from ground] at assigns
      cases assigns
    constructor
    · rw [kinds]
      apply tidy.inOrder.append
      · rw [staged_of_mem_eventKinds]
        exact new
      · intro first
        refine ⟨fun mem => ?_, fun mem => ?_⟩
        · cases notYet first _ mem
        · cases notYet first _ mem
      · intro later
        rw [staged_of_mem_eventKinds]
        exact isSound.assigned (ground.assignedStaged isSound later)
      · intro started mem
        have settles := tidy.settled mem
        rw [isSound.settledBy_isSome] at settles
        rw [started] at ground
        rw [ground.2] at settles
        cases settles
    · intro kind mem later
      rw [kinds, List.mem_append, List.mem_singleton] at mem
      rcases mem with old | added
      · exact tidy.assigned kind old later
      · rw [added] at later
        exact ⟨record, ⟨before.bucket, List.suffix_refl _, found⟩,
          ground.assignedStaged isSound later⟩
    · intro mem
      rw [kinds, List.mem_append, List.mem_singleton] at mem
      rcases mem with old | added
      · exact tidy.settled old
      rw [← added] at ground
      obtain ⟨_, elects, _⟩ := ground
      rw [isSound.settledBy_isSome, elects]
      rfl
  · have kinds := eventKinds_append_other same before event
    constructor
    · rw [kinds]
      exact tidy.inOrder
    · intro kind mem later
      rw [kinds] at mem
      exact tidy.assigned kind mem later
    · intro mem
      rw [kinds] at mem
      exact tidy.settled mem

variable {op : PickupOp}

theorem stored_of_perform (now : EventIsCurrent peer op before)
    (change : Change wire peer before (system.perform peer op choice before).2) :
    (system.perform peer op choice before).2.events.stored = before.events.stored ∨
      ∃ identity event record, (system.perform peer op choice before).2 =
            { before with events := before.events.append identity event } ∧
          lookup (.dispatch identity.dispatchKey) before.bucket = some (.pickup record) ∧
          Grounded record identity.kind ∧ ¬ Staged before identity := by
  cases op with
  | stage identity staged =>
    obtain ⟨same, recognised⟩ := now
    have ran : (system.perform peer (.stage identity staged) choice
        before).2 = { before with
          events := (JetStream.perform peer (.publish identity staged)
            choice.arrival before.events).2 } := rfl
    by_cases stages : Staged before identity
    · have remembers : choice.arrival.remembers = true := by
        unfold PickupChoice.arrival
        cases choice.delivery <;> rfl
      have dropped := @JetStream.perform_publish_remembered _ _ _ peer
        _ before.events identity staged (recognised stages) remembers
      rw [ran, dropped]
      exact .inl rfl
    · rcases @JetStream.perform_publish _ _ _ peer choice.arrival
          before.events identity staged with added | ⟨still, _⟩
      · rw [added] at ran
        obtain ⟨record, isRead, ground⟩ := change.readBefore ran
        exact .inr ⟨identity, staged, record, ran,
          isRead.current same, ground, stages⟩
      · rw [ran, still]
        exact .inl rfl
  | spawn =>
    simp only [system, perform]
    split <;> exact .inl rfl
  | _ =>
    exact .inl rfl

theorem Orderly.step (tidy : Orderly sequence before) (sound : Sound wire before)
    (current : EventIsCurrent peer op before)
    (change : Change wire peer before (system.perform peer op choice before).2) :
    Orderly sequence (system.perform peer op choice before).2 := by
  rcases stored_of_perform current change with
    same | ⟨_, _, _, added, found, ground, new⟩
  · exact tidy.grown change.grown same
  · rw [added]
    exact tidy.published sound found ground new

/-- The outcome is stored, and Started is in the stream only if it was. -/
def NoLateStarted (sequence : Nat) (earlier shared : Shared) : Prop :=
  (settledBy sequence shared.bucket).isSome = true ∧
    (.started ∈ eventKinds sequence shared → .started ∈ eventKinds sequence earlier)

theorem NoLateStarted.step (late : NoLateStarted sequence prior before)
    (sound : Sound wire before) (current : EventIsCurrent peer op before)
    (change : Change wire peer before (system.perform peer op choice before).2) :
    NoLateStarted sequence prior (system.perform peer op choice before).2 := by
  obtain ⟨ends, onlyEarlier⟩ := late
  constructor
  · obtain ⟨first, isFirst⟩ := Option.isSome_iff_exists.mp ends
    rw [show settledBy sequence _ = some first from
      oldest_grown change.grown.bucket isFirst]
    rfl
  · rcases stored_of_perform current change with
      same | ⟨identity, _, _, appended, found, ground, _⟩
    · intro mem
      apply onlyEarlier
      unfold eventKinds at mem ⊢
      rw [same] at mem
      exact mem
    · intro mem
      rw [appended] at mem
      by_cases sameKey : identity.dispatchKey = sequence
      · subst sameKey
        rw [eventKinds_append_same, List.mem_append, List.mem_singleton] at mem
        rcases mem with old | added
        · exact onlyEarlier old
        have isSound := sound.cells _ _ found
        rw [← added] at ground
        rw [isSound.settledBy_isSome, ground.2] at ends
        cases ends
      · rw [eventKinds_append_other sameKey] at mem
        exact onlyEarlier mem

/-- What holds of a dispatch's events between two times of a run. -/
structure EventLaws (earlier later : PickupWorld) (sequence : Nat) : Prop where
  inOrder : InOrder (eventKinds sequence later.state)
  startedBeforeOutcome : (storedOutcome sequence earlier.state.bucket).isSome →
    .started ∈ eventKinds sequence later.state → .started ∈ eventKinds sequence earlier.state

theorem orderly_empty (sequence : Nat) : Orderly sequence Shared.empty := by
  refine ⟨.head _, ?_, ?_⟩
  · intro _ mem
    cases mem
  · intro mem
    cases mem

/-- In every run whose publishes are all current: from any time of it to any
later one, each dispatch's events are in order, and no Started event is added
once the outcome is stored. -/
theorem eventLaws_of_run (wire : Wire) (clients : Nat → PickupClient)
    (first second : List (Nat × PickupChoice)) (sequence : Nat)
    (current : (startWorld wire clients).RunMeets system EventIsCurrent (first ++ second)) :
    EventLaws ((startWorld wire clients).run system first)
      ((startWorld wire clients).run system (first ++ second)) sequence := by
  have safe := allSafe_startWorld wire clients
  have safeFirst := (safe.run (runMeets_pickups wire _ first)).1
  obtain ⟨_, currentSecond⟩ := current.append
  constructor
  · have tidy := safe.run_keeps
      (fun peer op choice before sound now change (tidy : Orderly sequence before) =>
          tidy.step sound now change)
      (runMeets_pickups wire _ _) current (orderly_empty sequence)
    exact tidy.inOrder
  · intro kept started
    rw [storedOutcome_eq safeFirst.1, Option.isSome_map] at kept
    have late := safeFirst.run_keeps (fun _ _ _ _ sound now change late =>
        NoLateStarted.step late sound now change)
      (runMeets_pickups wire _ second) currentSecond
      (⟨kept, id⟩ : NoLateStarted sequence ((startWorld wire clients).run system first).state _)
    rw [World.run_append] at started
    exact late.2 started

/-- A handler that runs its process to the end, and a sweeper that forwards
the outcome: all their publishes are current. -/
def undisturbedRun : List (Nat × PickupChoice) :=
  launchSteps 0 ++ steps 0 7 true ++ steps 0 1 false ++ steps 0 2 true ++ steps 1 4 true

theorem eventLaws_of_undisturbedRun :
    EventLaws ((startWorld sampleWire sampleParties).run system [])
        ((startWorld sampleWire sampleParties).run system undisturbedRun) 1 ∧
      eventKinds 1
          ((startWorld sampleWire sampleParties).run system
            undisturbedRun).state =
        [.assigned, .started, .terminal] :=
  ⟨eventLaws_of_run sampleWire sampleParties [] undisturbedRun 1 (by decide), by decide⟩

/-- The handler has read the record to stage Started; the sweeper settles the
record and forwards the terminal event; the handler goes on. -/
theorem started_after_terminal :
    let expired := launchSteps 0 ++ steps 0 1 true ++ steps 1 5 true
    let world := (startWorld sampleWire sampleParties).run system
    storedOutcome 1 (world expired).state.bucket = some .livenessExpired ∧
      eventKinds 1 (world expired).state = [.assigned, .terminal] ∧
      eventKinds 1 (world (expired ++ steps 0 1 true)).state =
        [.assigned, .terminal, .started] := by
  decide

end Tickr.Pickup
