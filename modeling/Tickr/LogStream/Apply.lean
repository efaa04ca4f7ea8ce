import Tickr.LogStream.Invariant

/-!
# What one call does

A record enters an open stream exactly when it is admissible and conflicts with
nothing the stream holds.  In every other case the call returns a violation and
leaves the state as it was.
-/

namespace Tickr.LogStream.LogStreamState

open Rust Coverage

variable {terminal : LogTerminal} {sequence : UInt64} {gap : PreAcceptanceGap}

/-- The state conflicts with no record it holds. -/
def Compatible (state : LogStreamState) (record : ReplayedLogRecord) : Prop :=
  ∀ other, state.Holds other → ¬ record.Conflicts other

structure Accepts (contentDigest : Bytes → String) (state : LogStreamState)
    (record : ReplayedLogRecord) : Prop where
  isOpen : state.terminal = none
  admissible : record.Admissible contentDigest state.identity
  compatible : state.Compatible record

/-- `next` is a well-formed `state` that also holds `record`. -/
structure Extends (contentDigest : Bytes → String)
    (state next : LogStreamState) (record : ReplayedLogRecord) : Prop where
  wellFormed : WellFormed contentDigest next
  identity : next.identity = state.identity
  terminal : next.terminal = state.terminal
  holds : ∀ other, next.Holds other ↔ state.Holds other ∨ other = record

variable {contentDigest : Bytes → String} {state next : LogStreamState} {record : ReplayedLogRecord}

/-- A call goes through exactly when it is accepted; otherwise it returns a
violation and changes nothing. -/
def Decides {α : Type} (state : LogStreamState) (accepted : Prop)
    (reached : LogStreamState → Prop) (applied : Applied α) : Prop :=
  (accepted ∧ ∃ outcome next, applied = (.ok outcome, next) ∧ reached next) ∨
    (¬ accepted ∧ ∃ violation, applied = (.error (.violation violation), state))

section Deciding

variable {α : Type} {accepted : Prop} {reached : LogStreamState → Prop} {applied : Applied α}
  (decides : Decides state accepted reached applied)
include decides

theorem Decides.discard : Decides state accepted reached (discard applied) := by
  rcases decides with ⟨accepts, _, next, rfl, arrives⟩ | ⟨rejects, violation, rfl⟩
  · exact .inl ⟨accepts, (), next, rfl, arrives⟩
  · exact .inr ⟨rejects, violation, rfl⟩

theorem Decides.of_ok {outcome : α} (isOk : applied = (.ok outcome, next)) :
    accepted ∧ reached next := by
  subst isOk
  rcases decides with ⟨accepts, _, _, same, arrives⟩ | ⟨_, _, same⟩
  · cases same
    exact ⟨accepts, arrives⟩
  · cases same

theorem Decides.succeeds (accepts : accepted) :
    ∃ outcome next, applied = (.ok outcome, next) ∧ reached next := by
  rcases decides with ⟨_, succeeds⟩ | ⟨rejects, _⟩
  · exact succeeds
  · exact absurd accepts rejects

end Deciding

variable (wf : WellFormed contentDigest state)

include wf in
theorem WellFormed.extends_self
    (held : state.Holds record) :
    Extends contentDigest state state record where
  wellFormed := wf
  identity := rfl
  terminal := rfl
  holds other := by
    constructor
    · exact .inl
    · rintro (otherHeld | rfl)
      · exact otherHeld
      · exact held

/-- Some held record shares a sequence number with the range. -/
def Overlapped (state : LogStreamState) (first last : Nat) : Prop :=
  ∃ other otherFirst otherLast, state.Holds other ∧ other.span = some (otherFirst, otherLast) ∧
    otherFirst ≤ last ∧ first ≤ otherLast

theorem compatible_of_not_overlapped (spans : record.span = some (first, last))
    (apart : ¬ state.Overlapped first last) : state.Compatible record := by
  rintro other held ⟨_, _, meet⟩
  rw [spans] at meet
  cases otherSpan : other.span with
  | none =>
    rw [otherSpan] at meet
    cases meet
  | some bounds =>
    rw [otherSpan] at meet
    simp only [ReplayedLogRecord.spansMeet, Bool.and_eq_true, decide_eq_true_eq] at meet
    exact apart ⟨other, bounds.1, bounds.2, held, otherSpan, meet.2, meet.1⟩

theorem not_compatible_of_overlap (consistent : Consistent contentDigest state)
    (admissible : record.Admissible contentDigest state.identity)
    (spans : record.span = some (first, last)) (held : state.Holds other)
    (otherSpan : other.span = some (otherFirst, otherLast))
    (lower : otherFirst ≤ last) (upper : first ≤ otherLast)
    (ne : record ≠ other) : ¬ state.Compatible record := by
  intro fits
  apply ne
  exact ReplayedLogRecord.eq_of_overlap (fits other held)
    (admissible.stream_eq.trans (consistent.admissible other held).stream_eq.symm)
    spans otherSpan upper lower

variable {inserted : LogStreamState}

theorem finishInsert_extends {α : Type} (outcome : α)
    (wf : WellFormed contentDigest state) (isOpen : state.terminal = none)
    (admissible : record.Admissible contentDigest state.identity) (spans : record.span = some (first, last))
    (apart : ¬ state.Overlapped first last) (sameId : inserted.identity = state.identity)
    (frontier : inserted.committedFrontier = state.committedFrontier)
    (same : inserted.terminal = state.terminal)
    (acceptedKey : ∀ (sequence : UInt64) (kept : AcceptedLogRecord),
      inserted.accepted[sequence]? = some kept → kept.identity.sequence = sequence)
    (gapKey : ∀ (sequence : UInt64) (gap : PreAcceptanceGap),
      inserted.gaps[sequence]? = some gap → gap.firstSequence = sequence)
    (holds : ∀ other, inserted.Holds other ↔ state.Holds other ∨ other = record) :
    ∃ next, finishInsert outcome inserted = (.ok outcome, next) ∧
      Extends contentDigest state next record := by
  have bounds := admissible.span_ordered spans
  have compatible := compatible_of_not_overlapped spans apart
  have consistent : Consistent contentDigest inserted := by
    refine
      { accepted_key := acceptedKey
        gap_key := gapKey
        admissible := ?_
        compatible := ?_ }
    · intro other held
      rw [sameId]
      rcases (holds other).mp held with prior | rfl
      · exact wf.admissible other prior
      · exact admissible
    · intro left right leftHeld rightHeld
      rcases (holds left).mp leftHeld with leftEarlier | rfl
      · rcases (holds right).mp rightHeld with rightEarlier | rfl
        · exact wf.compatible left right leftEarlier rightEarlier
        · exact fun clash => compatible left leftEarlier clash.symm
      · rcases (holds right).mp rightHeld with rightEarlier | rfl
        · exact compatible right rightEarlier
        · exact fun clash => clash.2.1 rfl
  have larger : state.coverage ⊆ inserted.coverage := by
    rintro _ ⟨other, held, otherSpan⟩
    exact ⟨other, (holds other).mpr (.inl held), otherSpan⟩
  have uncovered : ¬ state.Covers first := by
    rintro ⟨other, otherFirst, otherLast, held, otherSpan, _, upper⟩
    exact apart ⟨other, otherFirst, otherLast, held, otherSpan, by omega, upper⟩
  obtain ⟨_, ended, nextWellFormed⟩ :=
    finishInsert_spec outcome wf isOpen consistent frontier
      same larger (by omega) uncovered
  refine ⟨_, ended, nextWellFormed, sameId, same, ?_⟩
  intro other
  exact holds other

variable (consistent : Consistent contentDigest state)
include consistent

/-- The lookup below a sequence number finds the one gap that can contain
it. -/
theorem gapCovering_eq_some (found : state.gapCovering sequence = some gap) :
    state.Holds (.preAcceptanceGap gap) ∧ gap.firstSequence.toNat ≤ sequence.toNat ∧
      sequence.toNat ≤ gap.lastSequence.toNat := by
  obtain ⟨mapped, within⟩ := Option.filter_eq_some_iff.mp found
  obtain ⟨⟨key, value⟩, query, rfl⟩ := Option.map_eq_some_iff.mp mapped
  obtain ⟨kept, atMost, _⟩ := lastAtMost_eq_some query
  have keyed := consistent.gap_key key value kept
  refine ⟨consistent.holds_gap kept, ?_, UInt64.le_iff_toNat_le.mp (of_decide_eq_true within)⟩
  rw [keyed]
  exact atMost

theorem gapCovering_eq_none (lacks : state.gapCovering sequence = none)
    (held : state.Holds (.preAcceptanceGap gap))
    (lower : gap.firstSequence.toNat ≤ sequence.toNat) :
    gap.lastSequence.toNat < sequence.toNat := by
  by_contra reaches
  unfold gapCovering at lacks
  cases query : lastAtMost state.gaps sequence with
  | none =>
    have above := lastAtMost_eq_none query held
    omega
  | some entry =>
    obtain ⟨key, nearest⟩ := entry
    obtain ⟨kept, _, greatest⟩ := lastAtMost_eq_some query
    have keyed := consistent.gap_key key nearest kept
    have nearestHeld := consistent.holds_gap kept
    have valid := consistent.admissible _ nearestHeld
    have order := greatest gap.firstSequence gap held lower
    -- The nearest gap starts inside `gap`, so the two are the same gap.
    have same := ReplayedLogRecord.eq_of_overlap (consistent.compatible _ _ held nearestHeld)
        (consistent.stream_eq held nearestHeld) rfl rfl
        (by have := valid.2.1; rw [keyed] at this; omega)
        (by rw [keyed]; omega)
    injection same with sameGap
    subst sameGap
    rw [query] at lacks
    have within : sequence ≤ gap.lastSequence := UInt64.le_iff_toNat_le.mpr (by omega)
    simp [Option.filter, within] at lacks

/-- The two lookups of `apply_accepted` miss exactly when the number is
free. -/
theorem not_overlapped_of_lookups (notAccepted : state.accepted[sequence]? = none)
    (notInGap : state.gapCovering sequence = none) :
    ¬ state.Overlapped sequence.toNat sequence.toNat := by
  rintro ⟨other, _, _, held, span, lower, _⟩
  cases other with
  | accepted identity =>
    cases span
    have same : identity.sequence = sequence := eq_of_toNat_eq (by omega)
    rw [Holds, same, notAccepted] at held
    cases held
  | preAcceptanceGap =>
    cases span
    have below := gapCovering_eq_none consistent notInGap held lower
    omega
  | terminal => cases span

omit consistent

variable {submission : LogRecordSubmission}

theorem holds_insert_accepted
    (fresh : state.accepted[submission.identity.sequence]? = none) (other : ReplayedLogRecord) :
    Holds { state with
          accepted := state.accepted.insert submission.identity.sequence
            { identity := submission.identity
              contentDigest := submission.contentDigest
              bytes := submission.bytes } } other ↔
      state.Holds other ∨ other = submission.record := by
  cases other with
  | accepted =>
    simp only [Holds, getElem?_insert_eq_some, LogRecordSubmission.record,
      ReplayedLogRecord.accepted.injEq, AcceptedLogRecord.mk.injEq]
    constructor
    · rintro (⟨_, rfl, rfl, rfl⟩ | ⟨_, kept⟩)
      · exact .inr ⟨rfl, rfl, rfl⟩
      · exact .inl kept
    · rintro (kept | ⟨rfl, rfl, rfl⟩)
      · refine .inr ⟨?_, kept⟩
        intro same
        rw [← same, fresh] at kept
        cases kept
      · exact .inl ⟨rfl, rfl, rfl, rfl⟩
  | preAcceptanceGap | terminal => simp [Holds, LogRecordSubmission.record]

include wf in
theorem applyAccepted_spec
    (submission : LogRecordSubmission) :
    Decides state (Accepts contentDigest state submission.record)
      (Extends contentDigest state · submission.record)
      (state.applyAccepted contentDigest submission) := by
  have consistent := wf.toConsistent
  unfold Decides applyAccepted requireOpen
  by_cases closed : state.terminal.isSome = true
  · rw [if_pos closed]
    refine .inr ⟨?_, _, rfl⟩
    intro accepts
    rw [accepts.isOpen] at closed
    cases closed
  rw [if_neg closed]
  have isOpen : state.terminal = none := by simpa using closed
  by_cases sameStream : submission.identity.stream = state.identity
  swap
  · refine .inr ⟨fun accepts => sameStream accepts.admissible.1, ?_⟩
    simp only [ne_eq, sameStream]
    exact ⟨_, rfl⟩
  by_cases valid : submission.hasValidDigest contentDigest = true
  swap
  · refine .inr ⟨?_, ?_⟩
    · intro accepts
      exact valid (beq_iff_eq.mpr accepts.admissible.2)
    · simp only [ne_eq, sameStream, valid]
      exact ⟨_, rfl⟩
  have admissible : submission.record.Admissible contentDigest state.identity :=
    ⟨sameStream, beq_iff_eq.mp valid⟩
  simp only [ne_eq, sameStream, valid]
  cases kept : state.accepted[submission.identity.sequence]? with
  | some old =>
    have existingHeld := consistent.holds_accepted kept
    have existingKey := consistent.accepted_key _ old kept
    have existingStream := (consistent.admissible _ existingHeld).stream_eq
    have sameId : old.identity = submission.identity := by
      cases existingIdentity : old.identity
      cases submitted : submission.identity
      simp_all [ReplayedLogRecord.stream]
    by_cases same : old.contentDigest = submission.contentDigest ∧
        old.bytes = submission.bytes
    · have held : state.Holds submission.record := by
        rw [sameId, same.1, same.2] at existingHeld
        exact existingHeld
      simp only [same]
      refine .inl ⟨⟨isOpen, admissible, ?_⟩, _, state, rfl, wf.extends_self held⟩
      intro other otherHeld
      exact consistent.compatible _ other held otherHeld
    · simp only [same]
      refine .inr ⟨fun accepts => ?_, _, rfl⟩
      refine not_compatible_of_overlap consistent admissible rfl
        existingHeld (by simp only [ReplayedLogRecord.span, existingKey])
        (Nat.le_refl _) (Nat.le_refl _) ?_ accepts.compatible
      intro equal
      simp only [LogRecordSubmission.record, ReplayedLogRecord.accepted.injEq] at equal
      exact same ⟨equal.2.1.symm, equal.2.2.symm⟩
  | none =>
    cases covering : state.gapCovering submission.identity.sequence with
    | some =>
      obtain ⟨gapHeld, lower, upper⟩ := gapCovering_eq_some consistent covering
      refine .inr ⟨fun accepts => ?_, _, rfl⟩
      exact not_compatible_of_overlap consistent admissible rfl gapHeld
        rfl lower upper (by simp [LogRecordSubmission.record])
        accepts.compatible
    | none =>
      have apart := not_overlapped_of_lookups consistent kept covering
      refine .inl ⟨⟨isOpen, admissible, compatible_of_not_overlapped rfl apart⟩, .accepted, ?_⟩
      refine finishInsert_extends AcceptOutcome.accepted wf isOpen
        admissible rfl apart rfl rfl rfl ?_ consistent.gap_key
        (holds_insert_accepted kept)
      intro sequence record inserted
      rcases getElem?_insert_eq_some _ |>.mp inserted with ⟨same, rfl⟩ | ⟨_, prior⟩
      · exact same
      · exact consistent.accepted_key sequence record prior

section Gap

theorem gap_check_eq_true (consistent : Consistent contentDigest state) :
    (anyInRange state.accepted gap.firstSequence gap.lastSequence ||
        (values state.gaps).any fun old =>
          decide (old.firstSequence ≤ gap.lastSequence) &&
            decide (gap.firstSequence ≤ old.lastSequence)) = true ↔
      state.Overlapped gap.firstSequence.toNat gap.lastSequence.toNat := by
  rw [Bool.or_eq_true, anyInRange_eq_true, List.any_eq_true]
  constructor
  · rintro (⟨key, record, kept, lower, upper⟩ | ⟨_, listed, meets⟩)
    · have keyed := consistent.accepted_key key record kept
      exact ⟨_, key.toNat, key.toNat, consistent.holds_accepted kept,
        by simp only [ReplayedLogRecord.span, keyed], upper, lower⟩
    · obtain ⟨_, kept⟩ := mem_values_iff.mp listed
      simp only [Bool.and_eq_true, decide_eq_true_eq] at meets
      exact ⟨_, _, _, consistent.holds_gap kept, rfl, meets.1, meets.2⟩
  · rintro ⟨other, _, _, held, otherSpan, lower, upper⟩
    cases other with
    | accepted identity =>
      cases otherSpan
      exact .inl ⟨identity.sequence, _, held, upper, lower⟩
    | preAcceptanceGap old =>
      cases otherSpan
      refine .inr ⟨old, mem_values_iff.mpr ⟨_, held⟩, ?_⟩
      simp only [Bool.and_eq_true, decide_eq_true_eq]
      exact ⟨lower, upper⟩
    | terminal => cases otherSpan

theorem holds_insert_gap (fresh : state.gaps[gap.firstSequence]? = none)
    (other : ReplayedLogRecord) :
    Holds { state with gaps := state.gaps.insert gap.firstSequence gap } other ↔
      state.Holds other ∨ other = .preAcceptanceGap gap := by
  cases other with
  | accepted | terminal => simp [Holds]
  | preAcceptanceGap =>
    simp only [Holds, getElem?_insert_eq_some, ReplayedLogRecord.preAcceptanceGap.injEq]
    constructor
    · rintro (⟨_, rfl⟩ | ⟨_, kept⟩)
      · exact .inr rfl
      · exact .inl kept
    · rintro (kept | rfl)
      · refine .inr ⟨?_, kept⟩
        intro same
        rw [← same, fresh] at kept
        cases kept
      · exact .inl ⟨rfl, rfl⟩

include wf in
theorem applyGap_spec (gap : PreAcceptanceGap) :
    Decides state (Accepts contentDigest state (.preAcceptanceGap gap))
      (Extends contentDigest state · (.preAcceptanceGap gap)) (state.applyGap gap) := by
  have consistent := wf.toConsistent
  unfold Decides applyGap requireOpen
  by_cases closed : state.terminal.isSome = true
  · rw [if_pos closed]
    refine .inr ⟨?_, _, rfl⟩
    intro accepts
    rw [accepts.isOpen] at closed
    cases closed
  rw [if_neg closed]
  have isOpen : state.terminal = none := by simpa using closed
  by_cases sameStream : gap.stream = state.identity
  swap
  · refine .inr ⟨fun accepts => sameStream accepts.admissible.1, ?_⟩
    simp only [ne_eq, sameStream]
    exact ⟨_, rfl⟩
  simp only [ne_eq, sameStream]
  by_cases malformed : gap.lastSequence < gap.firstSequence ∨ gap.droppedRecords = 0
  · rw [if_pos malformed]
    refine .inr ⟨fun accepts => ?_, _, rfl⟩
    obtain ⟨_, _, dropped⟩ := accepts.admissible
    rcases malformed with reversed | empty
    · have := UInt64.lt_iff_toNat_lt.mp reversed
      omega
    · exact dropped empty
  rw [if_neg malformed]
  obtain ⟨notReversed, dropped⟩ := not_or.mp malformed
  have ordered : gap.firstSequence.toNat ≤ gap.lastSequence.toNat := by
    rw [UInt64.lt_iff_toNat_lt] at notReversed
    omega
  have admissible : (ReplayedLogRecord.preAcceptanceGap gap).Admissible
      contentDigest state.identity := ⟨sameStream, ordered, dropped⟩
  by_cases declared : state.gaps[gap.firstSequence]? = some gap
  · rw [if_pos declared]
    have held : state.Holds (.preAcceptanceGap gap) := declared
    refine .inl ⟨⟨isOpen, admissible, ?_⟩, _, state, rfl, wf.extends_self held⟩
    intro other otherHeld
    exact consistent.compatible _ other held otherHeld
  rw [if_neg declared]
  by_cases overlapped : state.Overlapped gap.firstSequence.toNat gap.lastSequence.toNat
  · rw [if_pos ((gap_check_eq_true consistent).mpr overlapped)]
    obtain ⟨_, _, _, held, span, lower, upper⟩ := overlapped
    refine .inr ⟨fun accepts => ?_, _, rfl⟩
    refine not_compatible_of_overlap consistent admissible rfl held span
      lower upper ?_ accepts.compatible
    rintro rfl
    exact declared held
  · rw [if_neg (fun check =>
      overlapped ((gap_check_eq_true consistent).mp check))]
    have fresh : state.gaps[gap.firstSequence]? = none := by
      cases kept : state.gaps[gap.firstSequence]? with
      | none => rfl
      | some old =>
        have held := consistent.holds_gap kept
        have keyed := consistent.gap_key _ old kept
        have valid := consistent.admissible _ held
        refine absurd ⟨_, _, _, held, rfl, ?_, ?_⟩ overlapped
        · rw [keyed]
          exact ordered
        · rw [← keyed]
          exact valid.2.1
    refine .inl ⟨⟨isOpen, admissible, compatible_of_not_overlapped rfl overlapped⟩, .declared, ?_⟩
    refine finishInsert_extends GapOutcome.declared wf isOpen
      admissible rfl overlapped rfl rfl rfl consistent.accepted_key ?_
      (holds_insert_gap fresh)
    intro sequence kept inserted
    rcases getElem?_insert_eq_some _ |>.mp inserted with ⟨same, rfl⟩ | ⟨_, prior⟩
    · exact same
    · exact consistent.gap_key sequence kept prior

end Gap

/-- A stream closes with its first terminal; a clean one needs every stored
record at or below the frontier. -/
def Closes (state : LogStreamState) (terminal : LogTerminal) : Prop :=
  state.terminal = some terminal ∨
    (state.terminal = none ∧ ∀ exit, terminal = .endOfStream exit → state.frontierHasHole = false)

theorem holds_with_terminal (terminal : Option LogTerminal) (body : record.isTerminal = false) :
    Holds { state with terminal } record ↔
      state.Holds record := by
  cases record with
  | accepted | preAcceptanceGap => exact .rfl
  | terminal => cases body

theorem coverage_with_terminal (state : LogStreamState) (terminal : Option LogTerminal) :
    coverage { state with terminal } = state.coverage := by
  ext block
  have same : ∀ record : ReplayedLogRecord,
      record.span = some (block.first, block.last) →
        (Holds { state with terminal } record ↔
          state.Holds record) := fun record spans =>
    holds_with_terminal terminal (ReplayedLogRecord.isTerminal_eq_false_iff.mpr ⟨_, spans⟩)
  constructor
  · rintro ⟨record, held, spans⟩
    exact ⟨record, (same record spans).mp held, spans⟩
  · rintro ⟨record, held, spans⟩
    exact ⟨record, (same record spans).mpr held, spans⟩

include wf

theorem WellFormed.close
    (whole : ∀ exit, terminal = .endOfStream exit → state.frontierHasHole = false) :
    WellFormed contentDigest { state with terminal := some terminal } := by
  refine
    { accepted_key := wf.accepted_key
      gap_key := wf.gap_key
      admissible := ?_
      compatible := ?_
      frontier := ?_
      clean_contiguous := ?_ }
  · intro record held
    cases body : record.isTerminal with
    | false => exact wf.admissible record ((holds_with_terminal _ body).mp held)
    | true =>
      obtain ⟨_, _, rfl⟩ := ReplayedLogRecord.isTerminal_eq_true_iff.mp body
      exact held.1
  · intro left right leftHeld rightHeld clash
    have kind := clash.isTerminal_eq
    cases body : left.isTerminal with
    | false =>
      exact wf.compatible left right ((holds_with_terminal _ body).mp leftHeld)
        ((holds_with_terminal _ (kind ▸ body)).mp rightHeld) clash
    | true =>
      obtain ⟨_, _, rfl⟩ := ReplayedLogRecord.isTerminal_eq_true_iff.mp body
      obtain ⟨_, _, rfl⟩ :=
        ReplayedLogRecord.isTerminal_eq_true_iff.mp (kind ▸ body)
      have same := leftHeld.2.symm.trans rightHeld.2
      apply clash.2.1
      rw [leftHeld.1, rightHeld.1, Option.some.inj same]
  · rw [coverage_with_terminal]
    exact wf.frontier
  · intro exit closed
    exact whole exit (Option.some.inj closed)

theorem applyTerminal_spec (terminal : LogTerminal) :
    Decides state (state.Closes terminal)
      (fun next => next = { state with terminal := some terminal } ∧ WellFormed contentDigest next)
      (state.applyTerminal terminal) := by
  unfold Decides applyTerminal
  cases current : state.terminal with
  | some old =>
    by_cases same : old = terminal
    · subst same
      have still : { state with terminal := some old } = state := by rw [← current]
      simp only [if_true]
      rw [still]
      exact .inl ⟨.inl current, _, _, rfl, rfl, wf⟩
    · simp only [same]
      refine .inr ⟨?_, _, rfl⟩
      rintro (closed | ⟨isOpen, _⟩)
      · rw [current] at closed
        exact same (Option.some.inj closed)
      · rw [current] at isOpen
        cases isOpen
  | none =>
    cases terminal with
    | abnormalClosure =>
      exact .inl ⟨.inr ⟨current, by simp⟩, _, _, rfl, rfl, wf.close (by simp)⟩
    | endOfStream exit =>
      cases hole : state.frontierHasHole with
      | true =>
        refine .inr ⟨?_, _, rfl⟩
        rintro (closed | ⟨_, whole⟩)
        · rw [current] at closed
          cases closed
        · rw [whole exit rfl] at hole
          cases hole
      | false =>
        exact .inl ⟨.inr ⟨current, fun _ _ => hole⟩, _, _, rfl, rfl,
          wf.close fun _ _ => hole⟩

omit wf

variable (wf : WellFormed contentDigest state)
include wf

theorem applyRecord_body_spec (body : record.isTerminal = false) :
    Decides state (Accepts contentDigest state record) (Extends contentDigest state · record)
      (state.applyRecord contentDigest record) := by
  cases record with
  | accepted identity digest bytes =>
    exact (applyAccepted_spec wf ⟨identity, digest, bytes⟩).discard
  | preAcceptanceGap gap => exact (applyGap_spec wf gap).discard
  | terminal => cases body

theorem applyRecord_terminal_spec (stream : LogStreamIdentity) (terminal : LogTerminal) :
    Decides state (state.Closes terminal)
      (fun next => next = { state with terminal := some terminal } ∧ WellFormed contentDigest next)
      (state.applyRecord contentDigest (.terminal stream terminal)) :=
  (applyTerminal_spec wf terminal).discard

/-- Any call either succeeds and keeps the invariant, or returns a violation
and changes nothing. -/
theorem applyRecord_cases (record : ReplayedLogRecord) :
    (∃ next, state.applyRecord contentDigest record = (.ok (), next) ∧
      WellFormed contentDigest next ∧ next.identity = state.identity) ∨
    (∃ violation, state.applyRecord contentDigest record =
      (.error (.violation violation), state)) := by
  cases body : record.isTerminal with
  | false =>
    rcases applyRecord_body_spec wf body with
      ⟨_, ⟨⟩, next, applied, longer⟩ | ⟨_, denied⟩
    · exact .inl ⟨next, applied, longer.wellFormed, longer.identity⟩
    · exact .inr denied
  | true =>
    obtain ⟨stream, terminal, rfl⟩ := ReplayedLogRecord.isTerminal_eq_true_iff.mp body
    rcases applyRecord_terminal_spec wf stream terminal with
      ⟨_, ⟨⟩, _, applied, rfl, nextWellFormed⟩ | ⟨_, denied⟩
    · exact .inl ⟨_, applied, nextWellFormed, rfl⟩
    · exact .inr denied

theorem holds_of_applied (ofStream : record.stream = state.identity)
    (applied : state.applyRecord contentDigest record = (.ok (), next)) :
    WellFormed contentDigest next ∧ next.identity = state.identity ∧
      ∀ other, next.Holds other ↔ state.Holds other ∨ other = record := by
  cases body : record.isTerminal with
  | false =>
    obtain ⟨_, longer⟩ := (applyRecord_body_spec wf body).of_ok applied
    exact ⟨longer.wellFormed, longer.identity, longer.holds⟩
  | true =>
    obtain ⟨stream, terminal, isTerminal⟩ := ReplayedLogRecord.isTerminal_eq_true_iff.mp body
    subst isTerminal
    obtain ⟨closes, isNext, closed⟩ :=
      (applyRecord_terminal_spec wf stream terminal).of_ok applied
    subst isNext
    refine ⟨closed, rfl, ?_⟩
    intro other
    cases otherBody : other.isTerminal with
    | false =>
      rw [holds_with_terminal (some terminal) otherBody]
      constructor
      · exact .inl
      · intro held
        rcases held with held | same
        · exact held
        · rw [same] at otherBody
          cases otherBody
    | true =>
      obtain ⟨_, otherTerminal, ne⟩ :=
        ReplayedLogRecord.isTerminal_eq_true_iff.mp otherBody
      subst ne
      have named : stream = state.identity := ofStream
      constructor
      · intro held
        obtain ⟨sameStream, sameTerminal⟩ := held
        right
        rw [Option.some.inj sameTerminal, named]
        exact congrArg (ReplayedLogRecord.terminal · otherTerminal) sameStream
      · intro held
        rcases held with ⟨sameStream, kept⟩ | same
        · rcases closes with already | ⟨isOpen, _⟩
          · refine ⟨sameStream, ?_⟩
            exact already.symm.trans kept
          · rw [isOpen] at kept
            cases kept
        · cases same
          exact ⟨named, rfl⟩

theorem applyRecord_keeps (record : ReplayedLogRecord) :
    WellFormed contentDigest (state.applyRecord contentDigest record).2 ∧
      (state.applyRecord contentDigest record).2.identity = state.identity := by
  rcases applyRecord_cases wf record with
    ⟨_, applied, nextWellFormed, same⟩ | ⟨_, applied⟩
  · rw [applied]
    exact ⟨nextWellFormed, same⟩
  · rw [applied]
    exact ⟨wf, rfl⟩

omit wf

theorem not_holds_new (identity : LogStreamIdentity)
    (record : ReplayedLogRecord) : ¬ (new identity).Holds record := by
  intro held
  cases record with
  | accepted | preAcceptanceGap | terminal => simp [Holds, new] at held

theorem wellFormed_new (contentDigest : Bytes → String) (identity : LogStreamIdentity) :
    WellFormed contentDigest (new identity) := by
  refine
    { accepted_key := by simp [new]
      gap_key := by simp [new]
      admissible := fun record held =>
        absurd held (not_holds_new identity record)
      compatible := fun left _ held =>
        absurd held (not_holds_new identity left)
      frontier := ⟨tiled_zero _, ?_⟩
      clean_contiguous := by simp [new] }
  rintro _ ⟨record, held, _⟩
  exact absurd held (not_holds_new identity record)

@[simp]
theorem run_cons (state : LogStreamState) (record : ReplayedLogRecord)
    (rest : List ReplayedLogRecord) :
    state.run contentDigest (record :: rest) =
      run contentDigest (state.applyRecord contentDigest record).2 rest := rfl

theorem run_append (state : LogStreamState) (left right : List ReplayedLogRecord) :
    state.run contentDigest (left ++ right) =
      run contentDigest (state.run contentDigest left) right := List.foldl_append

include wf in
/-- Every sequence of calls on a fresh stream keeps the invariant. -/
theorem run_keeps (records : List ReplayedLogRecord) :
    WellFormed contentDigest (state.run contentDigest records) ∧
      (state.run contentDigest records).identity = state.identity := by
  induction records generalizing state with
  | nil => exact ⟨wf, rfl⟩
  | cons record _ ih =>
    obtain ⟨step, stepIdentity⟩ := applyRecord_keeps wf record
    obtain ⟨restWellFormed, restIdentity⟩ := ih step
    exact ⟨restWellFormed, restIdentity.trans stepIdentity⟩

theorem finishInsert_outcome {α : Type} {outcome found : α}
    (ended : finishInsert outcome inserted = (.ok found, next)) :
    found = outcome := by
  unfold finishInsert at ended
  split at ended
  · cases ended
    rfl
  · cases ended

theorem applyAccepted_already
    (applied : state.applyAccepted contentDigest submission =
      (.ok .alreadyAccepted, next)) : next = state := by
  unfold applyAccepted at applied
  split at applied
  · cases applied
  split at applied
  · cases applied
  split at applied
  · cases applied
  split at applied
  · split at applied
    · cases applied
      rfl
    · cases applied
  · split at applied
    · cases applied
    · cases finishInsert_outcome applied

theorem applyGap_already (applied : state.applyGap gap = (.ok .alreadyDeclared, next)) :
    next = state := by
  unfold applyGap at applied
  split at applied
  · cases applied
  split at applied
  · cases applied
  split at applied
  · cases applied
  split at applied
  · cases applied
    rfl
  · split at applied
    · cases applied
    · cases finishInsert_outcome applied

theorem applyTerminal_already
    (applied : state.applyTerminal terminal =
      (.ok .alreadyRecorded, next)) : state.terminal = some terminal := by
  unfold applyTerminal at applied
  split at applied
  · rename_i old closed
    split at applied
    · next same => rw [closed, same]
    · cases applied
  · cases terminal with
    | abnormalClosure => cases applied
    | endOfStream =>
      cases hole : state.frontierHasHole <;> rw [hole] at applied <;>
        cases applied

theorem applyTerminal_recorded (applied : state.applyTerminal terminal = (.ok .recorded, next)) :
    state.terminal = none ∧
      ∀ exit, terminal = .endOfStream exit → state.frontierHasHole = false := by
  unfold applyTerminal at applied
  split at applied
  · split at applied
    · cases applied
    · cases applied
  rename_i isOpen
  refine ⟨isOpen, ?_⟩
  intro _ clean
  subst clean
  cases hole : state.frontierHasHole with
  | false => rfl
  | true =>
    rw [hole] at applied
    cases applied

theorem applyRecord_terminal_of_open (stream : LogStreamIdentity) (isOpen : state.terminal = none)
    (whole : ∀ exit, terminal = .endOfStream exit → state.frontierHasHole = false) :
    state.applyRecord contentDigest (.terminal stream terminal) =
      (.ok (), { state with terminal := some terminal }) := by
  cases terminal with
  | abnormalClosure => simp [applyRecord, applyTerminal, isOpen, discard, Except.map]
  | endOfStream exit =>
    simp [applyRecord, applyTerminal, isOpen, whole exit rfl, discard, Except.map]

end Tickr.LogStream.LogStreamState
