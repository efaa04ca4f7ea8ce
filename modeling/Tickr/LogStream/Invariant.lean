import Tickr.Coverage
import Tickr.LogStream.State

/-!
# The invariant of an accepted-Log stream

A state holds a set of durable records.  Each accepted record or gap among
them spans a block of sequence numbers; held blocks never overlap, and the
committed frontier is where the walk over them from zero stops.
-/

namespace Tickr.LogStream

open Rust Coverage

namespace ReplayedLogRecord

def span : ReplayedLogRecord → Option (Nat × Nat)
  | .accepted identity _ _ => some (identity.sequence.toNat, identity.sequence.toNat)
  | .preAcceptanceGap gap => some (gap.firstSequence.toNat, gap.lastSequence.toNat)
  | .terminal _ _ => none

/-- Two spans share a sequence number, or both records are terminals. -/
def spansMeet : Option (Nat × Nat) → Option (Nat × Nat) → Bool
  | some left, some right => decide (left.1 ≤ right.2) && decide (right.1 ≤ left.2)
  | none, none => true
  | _, _ => false

/-- Two different records of one stream that claim a common sequence number,
or two different terminals of it. -/
def Conflicts (left right : ReplayedLogRecord) : Prop :=
  left.stream = right.stream ∧ left ≠ right ∧ spansMeet left.span right.span = true

instance (left right : ReplayedLogRecord) : Decidable (left.Conflicts right) :=
  inferInstanceAs (Decidable (_ ∧ _ ∧ _))

/-- What a record must satisfy on its own to enter a stream. -/
def Admissible (contentDigest : Bytes → String)
    (stream : LogStreamIdentity) : ReplayedLogRecord → Prop
  | .accepted identity digest bytes => identity.stream = stream ∧ digest = contentDigest bytes
  | .preAcceptanceGap gap =>
    gap.stream = stream ∧ gap.firstSequence.toNat ≤ gap.lastSequence.toNat ∧ gap.droppedRecords ≠ 0
  | .terminal identity _ => identity = stream

variable {contentDigest : Bytes → String} {stream : LogStreamIdentity}
  {left right record : ReplayedLogRecord}

theorem Conflicts.symm (clash : left.Conflicts right) : right.Conflicts left := by
  obtain ⟨same, ne, _⟩ := clash
  refine ⟨same.symm, ne.symm, ?_⟩
  cases leftSpan : left.span <;> cases rightSpan : right.span <;>
    simp_all [spansMeet]

theorem Admissible.stream_eq (admissible : record.Admissible contentDigest stream) :
    record.stream = stream := by
  cases record with
  | accepted | preAcceptanceGap => exact admissible.1
  | terminal => exact admissible

theorem Admissible.span_ordered (admissible : record.Admissible contentDigest stream) (spans : record.span = some (first, last)) :
    first ≤ last ∧ last < 2 ^ 64 := by
  cases record with
  | accepted =>
    cases spans
    exact ⟨Nat.le_refl _, toNat_lt_size _⟩
  | preAcceptanceGap =>
    cases spans
    exact ⟨admissible.2.1, toNat_lt_size _⟩
  | terminal => cases spans

/-- Two records that do not conflict and share a sequence number are one. -/
theorem eq_of_overlap (fits : ¬ left.Conflicts right) (same : left.stream = right.stream)
    (leftSpan : left.span = some (first, last)) (rightSpan : right.span = some (other, otherLast))
    (lower : first ≤ otherLast) (upper : other ≤ last) :
    left = right := by
  by_contra ne
  apply fits
  refine ⟨same, ne, ?_⟩
  rw [leftSpan, rightSpan]
  simp only [spansMeet, lower, upper, decide_true, Bool.and_self]

theorem isTerminal_eq_false_iff :
    record.isTerminal = false ↔ ∃ bounds, record.span = some bounds := by
  cases record <;> simp [isTerminal, span]

theorem isTerminal_eq_true_iff :
    record.isTerminal = true ↔ ∃ stream terminal, record = .terminal stream terminal := by
  cases record <;> simp [isTerminal]

theorem Conflicts.isTerminal_eq (clash : left.Conflicts right) :
    left.isTerminal = right.isTerminal := by
  have meet := clash.2.2
  cases left <;> cases right <;> first | rfl | cases meet

end ReplayedLogRecord

namespace LogStreamState

/-- The record is stored in the state. -/
def Holds (state : LogStreamState) : ReplayedLogRecord → Prop
  | .accepted identity digest bytes =>
    state.accepted[identity.sequence]? = some ⟨identity, digest, bytes⟩
  | .preAcceptanceGap gap => state.gaps[gap.firstSequence]? = some gap
  | .terminal stream terminal => stream = state.identity ∧ state.terminal = some terminal

/-- The first sequence number above a committed frontier. -/
def frontierEnd : Option UInt64 → Nat
  | none => 0
  | some frontier => frontier.toNat + 1

def coverage (state : LogStreamState) : Set Block :=
  { block | ∃ record, state.Holds record ∧ record.span = some (block.first, block.last) }

/-- A sequence number that some held record or gap spans. -/
def Covers (state : LogStreamState) (sequence : Nat) : Prop :=
  ∃ record first last, state.Holds record ∧
    record.span = some (first, last) ∧ first ≤ sequence ∧ sequence ≤ last

/-- Entries sit under their own keys, pass the checks a record passes alone,
and do not conflict. -/
structure Consistent (contentDigest : Bytes → String) (state : LogStreamState) : Prop where
  accepted_key :
    ∀ (sequence : UInt64) (record : AcceptedLogRecord),
      state.accepted[sequence]? = some record → record.identity.sequence = sequence
  gap_key :
    ∀ (sequence : UInt64) (gap : PreAcceptanceGap),
      state.gaps[sequence]? = some gap → gap.firstSequence = sequence
  admissible : ∀ record, state.Holds record → record.Admissible contentDigest state.identity
  compatible : ∀ left right, state.Holds left → state.Holds right → ¬ left.Conflicts right

/-- The invariant of a stream between two calls. -/
structure WellFormed (contentDigest : Bytes → String)
    (state : LogStreamState) : Prop extends Consistent contentDigest state where
  frontier : IsFrontier state.coverage (frontierEnd state.committedFrontier)
  clean_contiguous :
    ∀ exit, state.terminal = some (.endOfStream exit) → state.frontierHasHole = false

variable {contentDigest : Bytes → String} {state : LogStreamState}

theorem holds_with_frontier (state : LogStreamState)
    (frontier : Option UInt64) (record : ReplayedLogRecord) :
    Holds { state with committedFrontier := frontier } record ↔
      state.Holds record := by
  cases record <;> exact .rfl

variable (consistent : Consistent contentDigest state)
include consistent

theorem Consistent.holds_accepted {sequence : UInt64}
    (kept : state.accepted[sequence]? = some record) :
    state.Holds (.accepted record.identity record.contentDigest record.bytes) := by
  rw [Holds, consistent.accepted_key sequence record kept]
  exact kept

theorem Consistent.holds_gap {sequence : UInt64} (kept : state.gaps[sequence]? = some gap) :
    state.Holds (.preAcceptanceGap gap) := by
  rw [Holds, consistent.gap_key sequence gap kept]
  exact kept

theorem Consistent.stream_eq (leftHeld : state.Holds left) (held : state.Holds right) :
    left.stream = right.stream :=
  (consistent.admissible left leftHeld).stream_eq.trans
    (consistent.admissible right held).stream_eq.symm

theorem covered_iff_covers (sequence : Nat) :
    Covered state.coverage sequence ↔ state.Covers sequence := by
  constructor
  · rintro ⟨block, ⟨record, held, spans⟩, lower, upper⟩
    exact ⟨record, block.first, block.last, held, spans, lower, upper⟩
  · rintro ⟨record, first, last, held, spans, lower, upper⟩
    have ordered := (consistent.admissible record held).span_ordered spans
    exact ⟨⟨first, last, ordered.1⟩, ⟨record, held, spans⟩, lower, upper⟩

theorem Consistent.coverage_apart : state.coverage.Pairwise Block.Apart := by
  rintro left ⟨leftRecord, leftHeld, leftSpan⟩ _ ⟨rightRecord, held, span⟩ _
  by_contra overlap
  unfold Block.Apart at overlap
  have same : leftRecord = rightRecord :=
    ReplayedLogRecord.eq_of_overlap
      (consistent.compatible leftRecord rightRecord leftHeld held)
      (consistent.stream_eq leftHeld held)
      leftSpan span (by omega) (by omega)
  subst same
  cases left
  simp_all

/-- No block starts beyond the end of the sequence space. -/
theorem Consistent.coverage_first_lt (mem : block ∈ state.coverage) :
    block.first < 2 ^ 64 := by
  obtain ⟨record, held, spans⟩ := mem
  have bounds := (consistent.admissible record held).span_ordered spans
  omega

theorem coverage_starts_iff (sequence : UInt64) :
    (∃ block ∈ state.coverage, block.first = sequence.toNat) ↔
      state.accepted.contains sequence = true ∨ ∃ gap, state.gaps[sequence]? = some gap := by
  rw [Std.ExtTreeMap.contains_eq_isSome_getElem?, Option.isSome_iff_exists]
  constructor
  · rintro ⟨_, ⟨record, held, spans⟩, starts⟩
    cases record with
    | accepted identity =>
      have first := (Prod.mk.inj (Option.some.inj spans)).1
      have same : identity.sequence = sequence := eq_of_toNat_eq (first.trans starts)
      rw [← same]
      exact .inl ⟨_, held⟩
    | preAcceptanceGap gap =>
      have first := (Prod.mk.inj (Option.some.inj spans)).1
      have same : gap.firstSequence = sequence := eq_of_toNat_eq (first.trans starts)
      rw [← same]
      exact .inr ⟨gap, held⟩
    | terminal => cases spans
  · rintro (⟨record, kept⟩ | ⟨gap, kept⟩)
    · have key := consistent.accepted_key sequence record kept
      refine ⟨⟨sequence.toNat, sequence.toNat, Nat.le_refl _⟩,
        ⟨_, consistent.holds_accepted kept, ?_⟩, rfl⟩
      simp only [ReplayedLogRecord.span, key]
    · have held := consistent.holds_gap kept
      have valid := consistent.admissible _ held
      exact ⟨⟨gap.firstSequence.toNat, gap.lastSequence.toNat, valid.2.1⟩, ⟨_, held, rfl⟩,
        congrArg UInt64.toNat (consistent.gap_key sequence gap kept)⟩

omit consistent

theorem advanceLoop_spec (consistent : Consistent contentDigest state)
    (fuel : Nat) (next : UInt64) (frontier : Option UInt64)
    (enoughFuel : 2 ^ 64 < fuel + next.toNat) (tiled : Tiled state.coverage next.toNat)
    (atFrontier : frontierEnd frontier = next.toNat) :
    ∃ now, state.advanceLoop fuel next frontier = .ok now ∧
      IsFrontier state.coverage (frontierEnd now) := by
  induction fuel generalizing next frontier with
  | zero =>
    have bound := toNat_lt_size next
    omega
  | succ fuel ih =>
    have walk : ∀ (last : UInt64) (block : Block) (outcome : Except Panic (Option UInt64)),
        block ∈ state.coverage → block.first = next.toNat → block.last = last.toNat →
        (∀ following, checkedAdd last 1 = some following →
          outcome = state.advanceLoop fuel following (some last)) →
        (checkedAdd last 1 = none → outcome = .ok (some last)) →
        ∃ now, outcome = .ok now ∧ IsFrontier state.coverage (frontierEnd now) := by
      intro last block _ mem starts ends goesOn stops
      have longer : Tiled state.coverage (last.toNat + 1) := by
        rw [← ends]
        exact tiled.extend mem starts
      have ordered := block.ordered
      cases sum : checkedAdd last 1 with
      | some following =>
        have following_toNat := checkedAdd_one_eq_some sum
        rw [goesOn following sum]
        refine ih following (some last) (by omega) ?_ ?_
        · rw [following_toNat]
          exact longer
        · rw [following_toNat]
          rfl
      | none =>
        -- The walk has used up the sequence space: nothing starts there.
        have full := checkedAdd_one_eq_none sum
        refine ⟨some last, stops sum, longer, ?_⟩
        intro _ member
        have inSpace := consistent.coverage_first_lt member
        simp only [frontierEnd]
        omega
    rw [advanceLoop]
    by_cases accepted : state.accepted.contains next = true
    · rw [if_pos accepted]
      obtain ⟨record, kept⟩ := Option.isSome_iff_exists.mp
        ((Std.ExtTreeMap.contains_eq_isSome_getElem?).symm.trans accepted)
      have key := consistent.accepted_key next record kept
      exact walk next ⟨next.toNat, next.toNat, Nat.le_refl _⟩ _
        ⟨_, consistent.holds_accepted kept, by simp only [ReplayedLogRecord.span, key]⟩ rfl rfl
        (fun _ sum => by simp only [sum]) fun sum => by simp only [sum]
    · rw [if_neg accepted]
      cases kept : state.gaps[next]? with
      | some gap =>
        have held := consistent.holds_gap kept
        have valid := consistent.admissible _ held
        exact walk gap.lastSequence ⟨gap.firstSequence.toNat, gap.lastSequence.toNat, valid.2.1⟩ _
          ⟨_, held, rfl⟩ (congrArg UInt64.toNat (consistent.gap_key next gap kept)) rfl
          (fun _ sum => by simp only [sum]) fun sum => by simp only [sum]
      | none =>
        refine ⟨frontier, rfl, ?_, ?_⟩
        · rw [atFrontier]
          exact tiled
        · intro block mem starts
          rw [atFrontier] at starts
          rcases (coverage_starts_iff consistent next).mp
              ⟨block, mem, starts⟩ with contained | ⟨_, found⟩
          · exact accepted contained
          · rw [found] at kept
            cases kept

/-- Advancing from a tiled frontier with room above it neither overflows nor
runs on, and stops exactly where the walk does. -/
theorem advanceFrontier_spec (consistent : Consistent contentDigest state)
    (tiled : Tiled state.coverage (frontierEnd state.committedFrontier))
    (room : frontierEnd state.committedFrontier < 2 ^ 64) :
    ∃ now,
      state.advanceFrontier = .ok { state with committedFrontier := now } ∧
        IsFrontier state.coverage (frontierEnd now) := by
  have start :
      ∃ next, state.nextSequence = .ok next ∧ next.toNat = frontierEnd state.committedFrontier := by
    unfold nextSequence
    cases current : state.committedFrontier with
    | none => exact ⟨0, rfl, rfl⟩
    | some =>
      rw [current] at room
      exact plainAdd_one_of_lt room
  obtain ⟨next, started, next_toNat⟩ := start
  obtain ⟨now, looped, frontier⟩ :=
    advanceLoop_spec consistent (sequenceSpace + 1) next
      state.committedFrontier (by unfold sequenceSpace; omega)
      (next_toNat ▸ tiled) next_toNat.symm
  refine ⟨now, ?_, frontier⟩
  simp only [advanceFrontier, started, looped, bind, Except.bind, pure, Except.pure]

theorem WellFormed.frontier_room (wf : WellFormed contentDigest state)
    {sequence : Nat} (inSpace : sequence < 2 ^ 64) (uncovered : ¬ state.Covers sequence) :
    frontierEnd state.committedFrontier < 2 ^ 64 := by
  by_contra full
  apply uncovered
  rw [← covered_iff_covers wf.toConsistent]
  exact wf.frontier.tiled.covered (by omega)

theorem finishInsert_spec {α : Type} (outcome : α)
    (wf : WellFormed contentDigest state) (isOpen : state.terminal = none)
    (consistent : Consistent contentDigest inserted)
    (same : inserted.committedFrontier = state.committedFrontier)
    (sameTerminal : inserted.terminal = state.terminal)
    (larger : state.coverage ⊆ inserted.coverage) {sequence : Nat} (space : sequence < 2 ^ 64)
    (uncovered : ¬ state.Covers sequence) :
    ∃ now,
      finishInsert outcome inserted =
          (.ok outcome, { inserted with committedFrontier := now }) ∧
        WellFormed contentDigest { inserted with committedFrontier := now } := by
  have room := wf.frontier_room space uncovered
  obtain ⟨now, advanced, isFrontier⟩ :=
    advanceFrontier_spec consistent
      (by rw [same]; exact wf.frontier.tiled.mono larger)
      (by rw [same]; exact room)
  refine ⟨now, by simp only [finishInsert, advanced], ?_⟩
  refine
    { accepted_key := consistent.accepted_key
      gap_key := consistent.gap_key
      admissible := fun record held =>
        consistent.admissible record ((holds_with_frontier _ _ _).mp held)
      compatible := fun left right leftHeld other =>
        consistent.compatible left right ((holds_with_frontier _ _ _).mp leftHeld)
          ((holds_with_frontier _ _ _).mp other)
      frontier := ?_
      clean_contiguous := ?_ }
  · exact isFrontier
  · intro _ closed
    rw [sameTerminal, isOpen] at closed
    cases closed

end LogStreamState

end Tickr.LogStream
