import Tickr.LogStream.Apply

/-!
# Replay

On a well-formed stream the walk over the committed part lists the held records
below the frontier by increasing sequence number and ends with the terminal.
-/

namespace Tickr.LogStream

open Rust Coverage

/-- One record's numbers all lie below the other's. -/
def ReplayedLogRecord.Precedes (left right : ReplayedLogRecord) : Prop :=
  ∃ first last otherFirst otherLast,
    left.span = some (first, last) ∧ right.span = some (otherFirst, otherLast) ∧ last < otherFirst

namespace LogStreamState

/-- A held record or gap that starts at or below the committed frontier. -/
def Committed (state : LogStreamState) (record : ReplayedLogRecord) : Prop :=
  state.Holds record ∧
    ∃ first last, record.span = some (first, last) ∧ first < frontierEnd state.committedFrontier

variable {contentDigest : Bytes → String} {state : LogStreamState}
  (wf : WellFormed contentDigest state)

include wf in
theorem WellFormed.starts_at_boundary {sequence : UInt64}
    (boundary : Tiled state.coverage sequence.toNat)
    (commits : sequence.toNat < frontierEnd state.committedFrontier) :
    state.accepted.contains sequence = true ∨ ∃ gap, state.gaps[sequence]? = some gap := by
  obtain ⟨block, mem, contains, _⟩ := wf.frontier.tiled sequence.toNat commits
  rw [← coverage_starts_iff wf.toConsistent]
  refine ⟨block, mem, ?_⟩
  obtain ⟨_, _⟩ := contains
  rcases boundary.below_or_above wf.coverage_apart mem with
    _ | _
  · omega
  · omega

/-- What the loop lists from a boundary on. -/
structure ListsFrom (state : LogStreamState) (start : Nat)
    (records : List ReplayedLogRecord) : Prop where
  increasing : records.Pairwise ReplayedLogRecord.Precedes
  member_iff : ∀ record,
    record ∈ records ↔
      state.Holds record ∧
        ∃ first last, record.span = some (first, last) ∧
          start ≤ first ∧ first < frontierEnd state.committedFrontier

include wf in
theorem ListsFrom.cons (held : state.Holds record) (spans : record.span = some (first, last))
    (commits : first < frontierEnd state.committedFrontier)
    (lists : state.ListsFrom (last + 1) rest) :
    state.ListsFrom first (record :: rest) := by
  have ordered := (wf.admissible record held).span_ordered spans
  constructor
  · refine List.pairwise_cons.mpr ⟨?_, lists.increasing⟩
    intro other listed
    obtain ⟨_, otherFirst, otherLast, otherSpan, _, _⟩ := (lists.member_iff other).mp listed
    exact ⟨first, last, otherFirst, otherLast, spans, otherSpan, by omega⟩
  · intro other
    rw [List.mem_cons, lists.member_iff]
    constructor
    · rintro (rfl | ⟨otherHeld, otherFirst, otherLast, otherSpan, _, below⟩)
      · exact ⟨held, first, last, spans, Nat.le_refl _, commits⟩
      · exact ⟨otherHeld, otherFirst, otherLast, otherSpan, by omega, below⟩
    · rintro ⟨otherHeld, otherFirst, otherLast, otherSpan, _, below⟩
      by_cases beyond : last + 1 ≤ otherFirst
      · exact .inr ⟨otherHeld, otherFirst, otherLast, otherSpan, beyond, below⟩
      have otherOrdered := (wf.admissible other otherHeld).span_ordered otherSpan
      exact .inl (ReplayedLogRecord.eq_of_overlap
        (wf.compatible other record otherHeld held)
        (wf.stream_eq otherHeld held) otherSpan spans
        (by omega) (by omega))

theorem ListsFrom.nil (beyond : frontierEnd state.committedFrontier ≤ start) :
    state.ListsFrom start [] := by
  constructor
  · exact .nil
  · simp only [List.not_mem_nil, false_iff]
    omega

include wf

theorem replayLoop_spec {frontier : UInt64} (current : state.committedFrontier = some frontier)
    (fuel : Nat) (sequence : UInt64) (enoughFuel : 2 ^ 64 < fuel + sequence.toNat)
    (boundary : Tiled state.coverage sequence.toNat) :
    ∃ records, state.replayLoop frontier fuel sequence = .ok records ∧
      state.ListsFrom sequence.toNat records := by
  have frontierEnd_eq : frontierEnd state.committedFrontier = frontier.toNat + 1 := by
    rw [current]
    rfl
  induction fuel generalizing sequence with
  | zero =>
    have bound := toNat_lt_size sequence
    omega
  | succ fuel ih =>
    rw [replayLoop]
    by_cases within : sequence ≤ frontier
    swap
    · rw [if_neg within]
      rw [UInt64.le_iff_toNat_le] at within
      exact ⟨[], rfl, .nil (by omega)⟩
    rw [if_pos within]
    have commits : sequence.toNat < frontierEnd state.committedFrontier := by
      have := UInt64.le_iff_toNat_le.mp within
      omega
    -- Both kinds of record continue after their last sequence number.
    have continue_ : ∀ (record : ReplayedLogRecord) (last : UInt64)
        (outcome : Except Panic (List ReplayedLogRecord)), state.Holds record →
        record.span = some (sequence.toNat, last.toNat) →
        (∀ next, checkedAdd last 1 = some next →
          outcome = state.replayLoop frontier fuel next) →
        (checkedAdd last 1 = none → outcome = .ok []) →
        ∃ records, outcome.map (record :: ·) = .ok records ∧
          state.ListsFrom sequence.toNat records := by
      intro record last _ held spans goesOn stops
      have ordered := (wf.admissible record held).span_ordered spans
      have starts :
          (⟨sequence.toNat, last.toNat, ordered.1⟩ : Block) ∈
            state.coverage := ⟨record, held, spans⟩
      have longer : Tiled state.coverage (last.toNat + 1) := boundary.extend starts rfl
      cases sum : checkedAdd last 1 with
      | some next =>
        have next_toNat := checkedAdd_one_eq_some sum
        obtain ⟨_, listed, lists⟩ := ih next (by omega) (next_toNat ▸ longer)
        rw [next_toNat] at lists
        rw [goesOn next sum, listed]
        exact ⟨_, rfl, .cons wf held spans commits lists⟩
      | none =>
        have full := checkedAdd_one_eq_none sum
        have bound := toNat_lt_size frontier
        rw [stops sum]
        exact ⟨_, rfl, .cons wf held spans commits (.nil (by omega))⟩
    cases kept : state.accepted[sequence]? with
    | some record =>
      have keyed := wf.accepted_key sequence record kept
      exact continue_ _ sequence _ (wf.holds_accepted kept)
        (by simp only [ReplayedLogRecord.span, keyed])
        (fun _ sum => by simp only [sum]) fun sum => by simp only [sum]
    | none =>
      rcases wf.starts_at_boundary boundary commits with
        accepted | ⟨gap, found⟩
      · rw [Std.ExtTreeMap.contains_eq_isSome_getElem?, kept] at accepted
        cases accepted
      have keyed := wf.gap_key sequence gap found
      simp only [found]
      exact continue_ _ gap.lastSequence _ (wf.holds_gap found)
        (by simp only [ReplayedLogRecord.span, keyed])
        (fun _ sum => by simp only [sum]) fun sum => by simp only [sum]

theorem replay_spec :
    ∃ body, state.replay = .ok (body ++ state.terminalRecords) ∧
      body.Pairwise ReplayedLogRecord.Precedes ∧
      ∀ record, record ∈ body ↔ state.Committed record := by
  unfold replay
  cases current : state.committedFrontier with
  | none =>
    refine ⟨[], rfl, .nil, ?_⟩
    intro _
    simp only [List.not_mem_nil, false_iff]
    rintro ⟨_, first, _, _, below⟩
    rw [current] at below
    exact Nat.not_lt_zero first below
  | some =>
    obtain ⟨body, listed, lists⟩ :=
      replayLoop_spec wf current (sequenceSpace + 1) 0
        (by unfold sequenceSpace; omega) (tiled_zero _)
    refine ⟨body, ?_, lists.increasing, ?_⟩
    · simp only [listed, bind, Except.bind, pure, Except.pure]
    · intro _
      rw [lists.member_iff]
      simp [Committed]

omit wf

/-- The sequence number is an accepted record or lies in a gap. -/
def IsCovered (state : LogStreamState) (sequence : UInt64) : Prop :=
  state.accepted.contains sequence = true ∨
    ∃ (key : UInt64) (gap : PreAcceptanceGap),
      state.gaps[key]? = some gap ∧ gap.firstSequence ≤ sequence ∧ sequence ≤ gap.lastSequence

/-- The sequence number is at or below the committed frontier. -/
def AtMostFrontier (state : LogStreamState) (sequence : UInt64) : Prop :=
  ∃ frontier, state.committedFrontier = some frontier ∧ sequence ≤ frontier

theorem atMostFrontier_iff (sequence : UInt64) :
    state.AtMostFrontier sequence ↔ sequence.toNat < frontierEnd state.committedFrontier := by
  unfold AtMostFrontier
  cases state.committedFrontier with
  | none => simp [frontierEnd]
  | some => simp [frontierEnd, UInt64.le_iff_toNat_le]

theorem isCovered_iff (sound : Consistent contentDigest state) (sequence : UInt64) :
    state.IsCovered sequence ↔ Covered state.coverage sequence.toNat := by
  rw [covered_iff_covers sound, IsCovered,
    Std.ExtTreeMap.contains_eq_isSome_getElem?, Option.isSome_iff_exists]
  constructor
  · rintro (⟨record, stored⟩ | ⟨_, _, stored, lower, upper⟩)
    · have keyed := sound.accepted_key sequence record stored
      exact ⟨_, sequence.toNat, sequence.toNat, sound.holds_accepted stored,
        by simp only [ReplayedLogRecord.span, keyed],
        Nat.le_refl _, Nat.le_refl _⟩
    · exact ⟨_, _, _, sound.holds_gap stored, rfl,
        UInt64.le_iff_toNat_le.mp lower, UInt64.le_iff_toNat_le.mp upper⟩
  · rintro ⟨record, _, _, held, spans, lower, upper⟩
    cases record with
    | accepted identity =>
      cases spans
      have same : identity.sequence = sequence := eq_of_toNat_eq (by omega)
      rw [← same]
      exact .inl ⟨_, held⟩
    | preAcceptanceGap gap =>
      cases spans
      exact .inr ⟨_, gap, held, UInt64.le_iff_toNat_le.mpr lower,
        UInt64.le_iff_toNat_le.mpr upper⟩
    | terminal => cases spans

include wf in
theorem WellFormed.covered_up_to_iff (top : UInt64) :
    (∀ sequence, sequence ≤ top → state.IsCovered sequence) ↔ state.AtMostFrontier top := by
  rw [atMostFrontier_iff, ← wf.frontier.prefix_covered_iff wf.coverage_apart]
  constructor
  · intro covered number upTo
    have asSequence : (UInt64.ofNat number).toNat = number :=
      UInt64.toNat_ofNat_of_lt' (Nat.lt_of_le_of_lt upTo (UInt64.toNat_lt_size top))
    rw [← asSequence, ← isCovered_iff wf.toConsistent]
    exact covered _ (UInt64.le_iff_toNat_le.mpr (by omega))
  · intro covered _ upTo
    rw [isCovered_iff wf.toConsistent]
    exact covered _ (UInt64.le_iff_toNat_le.mp upTo)

/-- What holds of a stream between any two calls, in terms of its maps. -/
structure StreamLaws (contentDigest : Bytes → String) (state : LogStreamState) : Prop where
  records_outside_gaps :
    ∀ (sequence key : UInt64) (record : AcceptedLogRecord) (gap : PreAcceptanceGap),
      state.accepted[sequence]? = some record →
        state.gaps[key]? = some gap → ¬ (gap.firstSequence ≤ sequence ∧ sequence ≤ gap.lastSequence)
  gaps_disjoint :
    ∀ (key otherKey : UInt64) (gap other : PreAcceptanceGap),
      state.gaps[key]? = some gap → state.gaps[otherKey]? = some other →
        key ≠ otherKey →
          ∀ sequence,
            ¬ ((gap.firstSequence ≤ sequence ∧ sequence ≤ gap.lastSequence) ∧
                other.firstSequence ≤ sequence ∧ sequence ≤ other.lastSequence)
  frontier_greatest :
    ∀ frontier, state.committedFrontier = some frontier ↔
      (∀ sequence, sequence ≤ frontier → state.IsCovered sequence) ∧
        ∀ top, (∀ sequence, sequence ≤ top → state.IsCovered sequence) → top ≤ frontier
  frontier_none : state.committedFrontier = none ↔ ¬ state.IsCovered 0
  replay_exact :
    ∃ body, state.replay = .ok (body ++ state.terminalRecords) ∧
      body.Pairwise ReplayedLogRecord.Precedes ∧
      ∀ entry, entry ∈ body ↔
        (∃ (sequence : UInt64) (record : AcceptedLogRecord),
          state.accepted[sequence]? = some record ∧ state.AtMostFrontier sequence ∧
            entry = .accepted record.identity record.contentDigest record.bytes) ∨
        (∃ (key : UInt64) (gap : PreAcceptanceGap),
          state.gaps[key]? = some gap ∧ state.AtMostFrontier gap.firstSequence ∧
            entry = .preAcceptanceGap gap)
  error_unchanged :
    ∀ call fault next,
      state.applyRecord contentDigest call = (.error fault, next) →
        next = state
  never_panics :
    ∀ call panic next, state.applyRecord contentDigest call ≠ (.error (.panic panic), next)

include wf

theorem WellFormed.frontier_greatest (frontier : UInt64) :
    state.committedFrontier = some frontier ↔
      (∀ sequence, sequence ≤ frontier → state.IsCovered sequence) ∧
        ∀ top, (∀ sequence, sequence ≤ top → state.IsCovered sequence) → top ≤ frontier := by
  simp only [wf.covered_up_to_iff]
  constructor
  · intro current
    refine ⟨⟨frontier, current, UInt64.le_refl frontier⟩, ?_⟩
    rintro _ ⟨_, same, upTo⟩
    rw [current] at same
    cases same
    exact upTo
  · rintro ⟨⟨now, current, upTo⟩, greatest⟩
    have other := greatest now ⟨now, current, UInt64.le_refl now⟩
    rw [current, UInt64.le_antisymm other upTo]

theorem WellFormed.frontier_none : state.committedFrontier = none ↔ ¬ state.IsCovered 0 := by
  have zero : state.IsCovered 0 ↔ state.AtMostFrontier 0 := by
    rw [← wf.covered_up_to_iff]
    constructor
    · intro covered _ upTo
      rw [UInt64.le_antisymm upTo UInt64.zero_le]
      exact covered
    · intro covered
      exact covered 0 (UInt64.le_refl 0)
  rw [zero]
  unfold AtMostFrontier
  cases state.committedFrontier with
  | none => simp
  | some => simp

theorem WellFormed.committed_iff (entry : ReplayedLogRecord) :
    state.Committed entry ↔
      (∃ (sequence : UInt64) (record : AcceptedLogRecord),
        state.accepted[sequence]? = some record ∧ state.AtMostFrontier sequence ∧
          entry = .accepted record.identity record.contentDigest record.bytes) ∨
      (∃ (key : UInt64) (gap : PreAcceptanceGap),
        state.gaps[key]? = some gap ∧ state.AtMostFrontier gap.firstSequence ∧
          entry = .preAcceptanceGap gap) := by
  simp only [atMostFrontier_iff]
  constructor
  · rintro ⟨held, _, _, spans, below⟩
    cases entry with
    | accepted identity =>
      cases spans
      exact .inl ⟨identity.sequence, _, held, below, rfl⟩
    | preAcceptanceGap gap =>
      cases spans
      exact .inr ⟨_, gap, held, below, rfl⟩
    | terminal => cases spans
  · rintro (⟨sequence, record, kept, below, rfl⟩ | ⟨_, _, kept, below, rfl⟩)
    · have keyed := wf.accepted_key sequence record kept
      refine ⟨wf.holds_accepted kept, _, _, rfl, ?_⟩
      rw [keyed]
      exact below
    · exact ⟨wf.holds_gap kept, _, _, rfl, below⟩

theorem WellFormed.streamLaws :
    StreamLaws contentDigest state where
  records_outside_gaps := by
    rintro sequence _ record _ kept gapStored ⟨lower, upper⟩
    have keyed := wf.accepted_key sequence record kept
    have recordHeld := wf.holds_accepted kept
    have gapHeld := wf.holds_gap gapStored
    have same := ReplayedLogRecord.eq_of_overlap (wf.compatible _ _ recordHeld gapHeld)
      (wf.stream_eq recordHeld gapHeld) rfl rfl
      (by rw [keyed]; exact UInt64.le_iff_toNat_le.mp upper)
      (by rw [keyed]; exact UInt64.le_iff_toNat_le.mp lower)
    cases same
  gaps_disjoint := by
    rintro key otherKey gap other kept otherStored ne _
      ⟨⟨lower, upper⟩, otherLower, otherUpper⟩
    have held := wf.holds_gap kept
    have otherHeld := wf.holds_gap otherStored
    rw [UInt64.le_iff_toNat_le] at lower upper otherLower otherUpper
    have same := ReplayedLogRecord.eq_of_overlap (wf.compatible _ _ held otherHeld)
      (wf.stream_eq held otherHeld) rfl rfl
      (by omega) (by omega)
    injection same with sameGap
    apply ne
    rw [← wf.gap_key key gap kept, sameGap, wf.gap_key otherKey other otherStored]
  frontier_greatest := wf.frontier_greatest
  frontier_none := wf.frontier_none
  replay_exact := by
    obtain ⟨body, replayed, increasing, listed⟩ := replay_spec wf
    exact ⟨body, replayed, increasing, fun entry =>
      (listed entry).trans (wf.committed_iff entry)⟩
  error_unchanged := by
    intro call _ _ failed
    rcases applyRecord_cases wf call with ⟨_, ran, _⟩ | ⟨_, ran⟩
    · rw [ran] at failed
      cases failed
    · rw [ran] at failed
      cases failed
      rfl
  never_panics := by
    intro call _ _ failed
    rcases applyRecord_cases wf call with ⟨_, ran, _⟩ | ⟨_, ran⟩
    · rw [ran] at failed
      cases failed
    · rw [ran] at failed
      cases failed

omit wf

/-- Every finite sequence of calls on a fresh stream, failed calls included,
reaches a state that satisfies the stream laws. -/
theorem streamLaws_of_calls (contentDigest : Bytes → String)
    (identity : LogStreamIdentity) (calls : List ReplayedLogRecord) :
    StreamLaws contentDigest ((new identity).run contentDigest calls) :=
  (run_keeps (wellFormed_new contentDigest identity) calls).1.streamLaws

-- The last sequence number of all: the frontier reaches it and stays there.
example :
    ((new ⟨0, 7⟩).run (fun _ => "")
      [.accepted ⟨⟨0, 7⟩, 18446744073709551615⟩ "" [],
        .preAcceptanceGap ⟨⟨0, 7⟩, 0, 18446744073709551614, 1⟩,
        .accepted ⟨⟨0, 7⟩, 0⟩ "" []]).committedFrontier =
      some 18446744073709551615 := by
  decide

end LogStreamState

end Tickr.LogStream
