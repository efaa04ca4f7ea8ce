import Tickr.LogStream.Replay

/-!
# Confluence and rebuild

A stream that has applied records without conflicts holds exactly the admissible
ones among them, whatever their order and repetitions, and a rebuild from a
replay gives the committed part of the stream back.
-/

namespace Tickr.LogStream

open Rust Coverage

variable {records : List ReplayedLogRecord} {record : ReplayedLogRecord}

namespace LogStreamState

variable {contentDigest : Bytes → String} {state other : LogStreamState}

theorem frontierEnd_injective (same : frontierEnd left = frontierEnd right) : left = right := by
  cases left with
  | none =>
    cases right with
    | none => rfl
    | some =>
      simp only [frontierEnd] at same
      omega
  | some leftFrontier =>
    cases right with
    | none =>
      simp only [frontierEnd] at same
      omega
    | some frontier =>
      simp only [frontierEnd] at same
      rw [eq_of_toNat_eq (by omega : leftFrontier.toNat = frontier.toNat)]

theorem Consistent.accepted_eq_some_iff
    (sound : Consistent contentDigest state) (sequence : UInt64) (record : AcceptedLogRecord) :
    state.accepted[sequence]? = some record ↔
      record.identity.sequence = sequence ∧
        state.Holds (.accepted record.identity record.contentDigest record.bytes) := by
  constructor
  · intro kept
    exact ⟨sound.accepted_key sequence record kept, sound.holds_accepted kept⟩
  · rintro ⟨rfl, held⟩
    exact held

theorem Consistent.gaps_eq_some_iff
    (sound : Consistent contentDigest state) (sequence : UInt64) (gap : PreAcceptanceGap) :
    state.gaps[sequence]? = some gap ↔
      gap.firstSequence = sequence ∧ state.Holds (.preAcceptanceGap gap) := by
  constructor
  · intro kept
    exact ⟨sound.gap_key sequence gap kept, sound.holds_gap kept⟩
  · rintro ⟨rfl, held⟩
    exact held

variable (wf : WellFormed contentDigest state)

include wf in
theorem WellFormed.eq_of_holds_iff
    (otherWellFormed : WellFormed contentDigest other)
    (sameId : state.identity = other.identity)
    (sameTerminal : state.terminal = other.terminal)
    (same : ∀ record, record.isTerminal = false → (state.Holds record ↔ other.Holds record)) :
    state = other := by
  have sameAccepted : state.accepted = other.accepted := by
    apply Std.ExtTreeMap.ext_getElem?
    intro _
    apply Option.ext
    intro _
    rw [wf.accepted_eq_some_iff, otherWellFormed.accepted_eq_some_iff, same _ rfl]
  have sameGaps : state.gaps = other.gaps := by
    apply Std.ExtTreeMap.ext_getElem?
    intro _
    apply Option.ext
    intro _
    rw [wf.gaps_eq_some_iff, otherWellFormed.gaps_eq_some_iff, same _ rfl]
  have sameCoverage : state.coverage = other.coverage := by
    ext block
    have spanned : ∀ record : ReplayedLogRecord,
        record.span = some (block.first, block.last) →
          (state.Holds record ↔ other.Holds record) := fun record spans =>
      same record (ReplayedLogRecord.isTerminal_eq_false_iff.mpr ⟨_, spans⟩)
    constructor
    · rintro ⟨record, held, spans⟩
      exact ⟨record, (spanned record spans).mp held, spans⟩
    · rintro ⟨record, held, spans⟩
      exact ⟨record, (spanned record spans).mpr held, spans⟩
  have sameFrontier : state.committedFrontier = other.committedFrontier := by
    apply frontierEnd_injective
    refine wf.frontier.unique otherWellFormed.frontier
      wf.coverage_apart otherWellFormed.coverage_apart ?_
    intro _
    rw [sameCoverage]
  cases state
  simp_all

/-- Apply the records one by one, up to the first that fails. -/
def applyRecords (contentDigest : Bytes → String) (state : LogStreamState) :
    List ReplayedLogRecord → Except Fault LogStreamState
  | [] => .ok state
  | record :: rest =>
    match state.applyRecord contentDigest record with
    | (.ok (), next) => applyRecords contentDigest next rest
    | (.error fault, _) => .error fault

theorem applyRecords_cons_ok (rest : List ReplayedLogRecord)
    (ran : state.applyRecord contentDigest record = (.ok (), next)) :
    state.applyRecords contentDigest (record :: rest) = next.applyRecords contentDigest rest := by
  rw [applyRecords, ran]

theorem applyRecords_append (state : LogStreamState) (left right : List ReplayedLogRecord) :
    state.applyRecords contentDigest (left ++ right) =
      (state.applyRecords contentDigest left).bind fun next =>
        next.applyRecords contentDigest right := by
  induction left generalizing state with
  | nil => rfl
  | cons head rest ih =>
    rw [List.cons_append, applyRecords, applyRecords]
    cases state.applyRecord contentDigest head with
    | mk result next =>
      cases result with
      | ok => exact ih next
      | error => rfl

include wf

theorem holds_of_applyRecords
    (ofStream : ∀ record ∈ records, record.stream = state.identity)
    (ran : state.applyRecords contentDigest records = .ok next) :
    WellFormed contentDigest next ∧ next.identity = state.identity ∧
      ∀ other, next.Holds other ↔ state.Holds other ∨ other ∈ records := by
  induction records generalizing state with
  | nil =>
    cases ran
    simp [wf]
  | cons head rest ih =>
    cases step : state.applyRecord contentDigest head with
    | mk result =>
      cases result with
      | error =>
        rw [applyRecords, step] at ran
        cases ran
      | ok =>
        rw [applyRecords_cons_ok rest step] at ran
        obtain ⟨reachedWellFormed, reachedIdentity, holds⟩ :=
          holds_of_applied wf (ofStream head (.head _)) step
        obtain ⟨nextWellFormed, nextIdentity, nextHolds⟩ :=
          ih reachedWellFormed (by
            rw [reachedIdentity]
            exact (List.forall_mem_cons.mp ofStream).2) ran
        refine ⟨nextWellFormed, nextIdentity.trans reachedIdentity, ?_⟩
        intro _
        rw [nextHolds, holds, List.mem_cons, or_assoc]

theorem run_body_holds
    (isOpen : state.terminal = none) (records : List ReplayedLogRecord)
    (body : ∀ record ∈ records, record.isTerminal = false)
    (fits : ∀ left ∈ records, ∀ right ∈ records, ¬ left.Conflicts right)
    (compatibleHeld : ∀ record ∈ records, state.Compatible record) :
    (state.run contentDigest records).terminal = none ∧
      (∀ record, (state.run contentDigest records).Holds record ↔
        state.Holds record ∨ (record ∈ records ∧ record.Admissible contentDigest state.identity)) ∧
      ((∀ record ∈ records,
        record.Admissible contentDigest state.identity) →
        state.applyRecords contentDigest records = .ok (state.run contentDigest records)) := by
  induction records generalizing state with
  | nil => simp [run, isOpen, applyRecords]
  | cons head rest ih =>
    obtain ⟨headBody, restBody⟩ := List.forall_mem_cons.mp body
    obtain ⟨headHeld, restHeld⟩ := List.forall_mem_cons.mp compatibleHeld
    have restCompatible : ∀ left ∈ rest, ∀ right ∈ rest,
        ¬ left.Conflicts right := fun left leftMember right member =>
      fits left (.tail head leftMember) right
        (.tail head member)
    rw [run_cons]
    rcases applyRecord_body_spec wf headBody with
      ⟨accepts, ⟨⟩, next, ran, longer⟩ | ⟨rejects, _, ran⟩
    · rw [ran, applyRecords_cons_ok rest ran]
      have nextCompatible : ∀ record ∈ rest, next.Compatible record := by
        intro record mem held heldRecord
        rcases (longer.holds held).mp heldRecord with prior | rfl
        · exact restHeld record mem held prior
        · exact fits record (.tail _ mem) held (.head _)
      obtain ⟨finalOpen, final, allApplied⟩ :=
        ih longer.wellFormed (longer.terminal.trans isOpen) restBody restCompatible
          nextCompatible
      rw [longer.identity] at allApplied
      refine ⟨finalOpen, ?_, fun admissible => allApplied (List.forall_mem_cons.mp admissible).2⟩
      intro _
      rw [final, longer.holds, longer.identity, List.mem_cons]
      constructor
      · rintro ((held | rfl) | ⟨mem, admissible⟩)
        · exact .inl held
        · exact .inr ⟨.inl rfl, accepts.admissible⟩
        · exact .inr ⟨.inr mem, admissible⟩
      · rintro (held | ⟨rfl | mem, admissible⟩)
        · exact .inl (.inl held)
        · exact .inl (.inr rfl)
        · exact .inr ⟨mem, admissible⟩
    · rw [ran]
      have notAdmissible : ¬ head.Admissible contentDigest state.identity :=
        fun admissible => rejects ⟨isOpen, admissible, headHeld⟩
      obtain ⟨finalOpen, final, _⟩ := ih wf isOpen restBody restCompatible restHeld
      refine ⟨finalOpen, ?_, fun admissible =>
        absurd (admissible head (.head _)) notAdmissible⟩
      intro _
      rw [final, List.mem_cons]
      constructor
      · rintro (held | ⟨mem, admissible⟩)
        · exact .inl held
        · exact .inr ⟨.inr mem, admissible⟩
      · rintro (held | ⟨rfl | mem, admissible⟩)
        · exact .inl held
        · exact absurd admissible notAdmissible
        · exact .inr ⟨mem, admissible⟩

omit wf

/-- No accepted record or gap comes after a terminal. -/
def TerminalLast (records : List ReplayedLogRecord) : Prop :=
  records.Pairwise fun earlier later =>
    earlier.isTerminal = true → later.isTerminal = true

theorem TerminalLast.split (last : TerminalLast records) :
    records = records.filter (fun record => !record.isTerminal) ++
      records.filter ReplayedLogRecord.isTerminal := by
  induction records with
  | nil => rfl
  | cons head rest ih =>
    obtain ⟨after, restLast⟩ := List.pairwise_cons.mp last
    cases kind : head.isTerminal with
    | true =>
      have terminal : ∀ record ∈ rest, record.isTerminal = true :=
        fun record mem => after record mem kind
      have body : rest.filter (fun record => !record.isTerminal) = [] := by
        simpa using terminal
      simp [kind, body, List.filter_eq_self.mpr terminal]
    | false =>
      simp only [List.filter_cons, kind]
      exact congrArg (head :: ·) (ih restLast)

include wf in
theorem run_terminals
    (stream : LogStreamIdentity) (terminal : LogTerminal) (records : List ReplayedLogRecord)
    (all : ∀ record ∈ records, record = .terminal stream terminal) (nonempty : records ≠ []) :
    state.run contentDigest records =
      (state.applyRecord contentDigest (.terminal stream terminal)).2 := by
  have repeated : ∀ (reached : LogStreamState) (rest : List ReplayedLogRecord),
      (reached.applyRecord contentDigest (.terminal stream terminal)).2 = reached →
        (∀ record ∈ rest, record = .terminal stream terminal) →
          reached.run contentDigest rest = reached := by
    intro _ rest stable allRest
    induction rest with
    | nil => rfl
    | cons head _ ih =>
      have isHead := allRest head (.head _)
      subst isHead
      rw [run_cons, stable]
      exact ih (List.forall_mem_cons.mp allRest).2
  cases records with
  | nil => exact absurd rfl nonempty
  | cons _ rest =>
    obtain ⟨isHead, allRest⟩ := List.forall_mem_cons.mp all
    subst isHead
    rw [run_cons]
    refine repeated _ rest ?_ allRest
    rcases applyRecord_terminal_spec wf stream terminal with
      ⟨_, _, _, ran, rfl, nextWellFormed⟩ | ⟨_, _, ran⟩
    · rw [ran]
      obtain ⟨_, _, again, rfl, _⟩ :=
        (applyRecord_terminal_spec nextWellFormed stream terminal).succeeds (.inl rfl)
      rw [again]
    · rw [ran, ran]

variable (identity : LogStreamIdentity)

theorem compatible_new (record : ReplayedLogRecord) : (new identity).Compatible record :=
  fun other held => absurd held (not_holds_new identity other)

variable {left right : List ReplayedLogRecord}

theorem run_body_eq (body : ∀ record ∈ left, record.isTerminal = false)
    (fits : ∀ record ∈ left, ∀ other ∈ left, ¬ record.Conflicts other)
    (same : ∀ record, record ∈ left ↔ record ∈ right) :
    (new identity).run contentDigest left = (new identity).run contentDigest right := by
  have fresh := wellFormed_new contentDigest identity
  obtain ⟨leftOpen, leftHolds, _⟩ :=
    run_body_holds fresh rfl left body fits fun record _ => compatible_new identity record
  obtain ⟨rightOpen, holds, _⟩ :=
    run_body_holds fresh rfl right (fun record mem =>
        body record ((same record).mpr mem))
      (fun record mem other member =>
        fits record ((same record).mpr mem) other
          ((same other).mpr member))
      fun record _ => compatible_new identity record
  obtain ⟨leftWellFormed, leftIdentity⟩ := run_keeps fresh left
  obtain ⟨rightWellFormed, rightIdentity⟩ := run_keeps fresh right
  refine leftWellFormed.eq_of_holds_iff rightWellFormed (leftIdentity.trans rightIdentity.symm)
    (leftOpen.trans rightOpen.symm) ?_
  intro _ _
  rw [leftHolds, holds, same]

theorem run_eq_of_same_members (sameMembers : ∀ record, record ∈ left ↔ record ∈ right)
    (fits : ∀ record ∈ left, ∀ other ∈ left, ¬ record.Conflicts other)
    (ofStream : ∀ record ∈ left, record.isTerminal = true → record.stream = identity)
    (leftLast : TerminalLast left) (last : TerminalLast right) :
    (new identity).run contentDigest left = (new identity).run contentDigest right := by
  have filtered : ∀ test record, record ∈ left.filter test ↔ record ∈ right.filter test := by
    intro _ _
    rw [List.mem_filter, List.mem_filter, sameMembers]
  have same := filtered ReplayedLogRecord.isTerminal
  have equal :
      (new identity).run contentDigest (left.filter fun record => !record.isTerminal) =
        (new identity).run contentDigest (right.filter fun record => !record.isTerminal) := by
    refine run_body_eq identity ?_ ?_ (filtered _)
    · exact fun record mem => by simpa using (List.mem_filter.mp mem).2
    · intro record mem other otherMember
      exact fits record (List.mem_filter.mp mem).1 other (List.mem_filter.mp otherMember).1
  rw [leftLast.split, last.split, run_append, run_append, ← equal]
  have body :=
    (run_keeps (wellFormed_new contentDigest identity)
      (left.filter fun record => !record.isTerminal)).1
  by_cases closes : left.filter ReplayedLogRecord.isTerminal = []
  · have rightOpen : right.filter ReplayedLogRecord.isTerminal = [] := by
      rw [List.eq_nil_iff_forall_not_mem] at closes ⊢
      exact fun record mem => closes record ((same record).mpr mem)
    rw [closes, rightOpen]
  obtain ⟨_, member⟩ := List.exists_mem_of_ne_nil _ closes
  obtain ⟨closingInLeft, closingKind⟩ := List.mem_filter.mp member
  obtain ⟨stream, terminal, rfl⟩ := ReplayedLogRecord.isTerminal_eq_true_iff.mp closingKind
  -- All terminals are of this stream and do not conflict, so they agree.
  have allSame : ∀ record ∈ left.filter ReplayedLogRecord.isTerminal,
      record = .terminal stream terminal := by
    intro record mem
    obtain ⟨inLeft, kind⟩ := List.mem_filter.mp mem
    by_contra ne
    refine fits record inLeft _ closingInLeft ⟨?_, ne, ?_⟩
    · rw [ofStream record inLeft kind, ofStream _ closingInLeft rfl]
    · obtain ⟨_, _, rfl⟩ := ReplayedLogRecord.isTerminal_eq_true_iff.mp kind
      rfl
  rw [run_terminals body stream terminal _ allSame closes,
    run_terminals body stream terminal _
      (fun record mem => allSame record ((same record).mpr mem))
      (List.ne_nil_of_mem ((same _).mp member))]

/-- The part of a stream that lies at or below its frontier. -/
def restrictToFrontier (state : LogStreamState) : LogStreamState :=
  match state.committedFrontier with
  | none => { state with accepted := ∅, gaps := ∅ }
  | some frontier =>
    { state with
      accepted := state.accepted.filter fun sequence _ =>
        decide (sequence ≤ frontier)
      gaps := state.gaps.filter fun _ gap =>
        decide (gap.lastSequence ≤ frontier) }

theorem restrict_accepted_eq_some (sequence : UInt64) (record : AcceptedLogRecord) :
    state.restrictToFrontier.accepted[sequence]? = some record ↔
      state.accepted[sequence]? = some record ∧
        sequence.toNat < frontierEnd state.committedFrontier := by
  unfold restrictToFrontier
  cases state.committedFrontier with
  | none => simp [frontierEnd]
  | some =>
    simp only [getElem?_filter_eq_some, decide_eq_true_eq, frontierEnd,
      UInt64.le_iff_toNat_le, Nat.lt_succ_iff]

theorem restrict_gaps_eq_some (sequence : UInt64) (gap : PreAcceptanceGap) :
    state.restrictToFrontier.gaps[sequence]? = some gap ↔
      state.gaps[sequence]? = some gap ∧
        gap.lastSequence.toNat < frontierEnd state.committedFrontier := by
  unfold restrictToFrontier
  cases state.committedFrontier with
  | none => simp [frontierEnd]
  | some =>
    simp only [getElem?_filter_eq_some, decide_eq_true_eq, frontierEnd,
      UInt64.le_iff_toNat_le, Nat.lt_succ_iff]

@[simp]
theorem restrict_identity : state.restrictToFrontier.identity = state.identity := by
  unfold restrictToFrontier
  cases state.committedFrontier <;> rfl

@[simp]
theorem restrict_terminal : state.restrictToFrontier.terminal = state.terminal := by
  unfold restrictToFrontier
  cases state.committedFrontier <;> rfl

@[simp]
theorem restrict_committedFrontier :
    state.restrictToFrontier.committedFrontier = state.committedFrontier := by
  unfold restrictToFrontier
  cases state.committedFrontier <;> rfl

theorem restrict_with_terminal (terminal : Option LogTerminal) :
    restrictToFrontier { state with terminal } =
      { state.restrictToFrontier with terminal } := by
  unfold restrictToFrontier
  cases state.committedFrontier <;> rfl

theorem body_of_holds (isOpen : state.terminal = none) (held : state.Holds record) :
    record.isTerminal = false := by
  cases record with
  | accepted | preAcceptanceGap => rfl
  | terminal =>
    have closed := held.2
    rw [isOpen] at closed
    cases closed

variable (wf : WellFormed contentDigest state)
include wf

theorem WellFormed.span_below_frontier (held : state.Holds record) (spans : record.span = some (first, last)) :
    first < frontierEnd state.committedFrontier ↔ last < frontierEnd state.committedFrontier := by
  have ordered := (wf.admissible record held).span_ordered spans
  have mem : (⟨first, last, ordered.1⟩ : Block) ∈ state.coverage := ⟨record, held, spans⟩
  rcases wf.frontier.tiled.below_or_above wf.coverage_apart
      mem with below | above
  · simp only at below
    omega
  · simp only at above
    omega

theorem WellFormed.holds_restrict (body : record.isTerminal = false) :
    state.restrictToFrontier.Holds record ↔ state.Committed record := by
  unfold Committed
  cases record with
  | accepted =>
    simp only [Holds, restrict_accepted_eq_some, ReplayedLogRecord.span,
      Option.some.injEq, Prod.mk.injEq]
    constructor
    · rintro ⟨stored, below⟩
      exact ⟨stored, _, _, ⟨rfl, rfl⟩, below⟩
    · rintro ⟨stored, _, _, ⟨rfl, rfl⟩, below⟩
      exact ⟨stored, below⟩
  | preAcceptanceGap =>
    simp only [Holds, restrict_gaps_eq_some, ReplayedLogRecord.span,
      Option.some.injEq, Prod.mk.injEq]
    constructor
    · rintro ⟨stored, below⟩
      exact ⟨stored, _, _, ⟨rfl, rfl⟩,
        (wf.span_below_frontier (wf.holds_gap stored) rfl).mpr below⟩
    · rintro ⟨stored, _, _, ⟨rfl, rfl⟩, below⟩
      exact ⟨stored, (wf.span_below_frontier (wf.holds_gap stored) rfl).mp below⟩
  | terminal => cases body

theorem WellFormed.restrict (isOpen : state.terminal = none) :
    WellFormed contentDigest state.restrictToFrontier := by
  have stillOpen := restrict_terminal.trans isOpen
  have before : ∀ record, state.restrictToFrontier.Holds record →
      state.Holds record := fun record held =>
    ((wf.holds_restrict (body_of_holds stillOpen held)).mp held).1
  refine
    { accepted_key := ?_
      gap_key := ?_
      admissible := ?_
      compatible := ?_
      frontier := ⟨?_, ?_⟩
      clean_contiguous := ?_ }
  · intro sequence record kept
    exact wf.accepted_key sequence record
      ((restrict_accepted_eq_some sequence record).mp kept).1
  · intro sequence gap kept
    exact wf.gap_key sequence gap ((restrict_gaps_eq_some sequence gap).mp kept).1
  · intro record held
    rw [restrict_identity]
    exact wf.admissible record (before record held)
  · intro left right leftHeld rightHeld
    exact wf.compatible left right (before left leftHeld) (before right rightHeld)
  · rw [restrict_committedFrontier]
    intro number below
    obtain ⟨block, ⟨record, held, spans⟩, contains, ends⟩ := wf.frontier.tiled number below
    have body := ReplayedLogRecord.isTerminal_eq_false_iff.mpr ⟨_, spans⟩
    have commits : state.Committed record :=
      ⟨held, _, _, spans, (wf.span_below_frontier held spans).mpr ends⟩
    exact ⟨block, ⟨record, (wf.holds_restrict body).mpr commits, spans⟩, contains, ends⟩
  · rw [restrict_committedFrontier]
    rintro block ⟨record, held, spans⟩
    exact wf.frontier.open_ block ⟨record, before record held, spans⟩
  · simp [isOpen]

omit wf

theorem lastStored_below_frontier (whole : state.frontierHasHole = false) (isLast : state.lastStored = some last) :
    last.toNat < frontierEnd state.committedFrontier := by
  unfold frontierHasHole at whole
  rw [isLast] at whole
  cases current : state.committedFrontier with
  | none => simp [current] at whole
  | some frontier =>
    have same : frontier = last := by simpa [current] using whole
    rw [same]
    exact Nat.lt_succ_self _

theorem accepted_le_lastStored {sequence : UInt64}
    (kept : state.accepted.contains sequence = true) :
    ∃ last, state.lastStored = some last ∧ sequence.toNat ≤ last.toNat := by
  have there := Std.ExtTreeMap.isSome_maxKey?_of_contains kept
  obtain ⟨greatest, isGreatest⟩ := Option.isSome_iff_exists.mp there
  have order := (Std.ExtTreeMap.maxKey?_eq_some_iff_mem_and_forall.mp
    isGreatest).2 sequence (Std.ExtTreeMap.contains_iff_mem.mp kept)
  have atMost : sequence.toNat ≤ greatest.toNat :=
    UInt64.le_iff_toNat_le.mp (Std.isLE_compare.mp order)
  unfold lastStored
  rw [isGreatest]
  cases ((values state.gaps).map PreAcceptanceGap.lastSequence).max? with
  | none => exact ⟨greatest, rfl, atMost⟩
  | some gapLast =>
    have left := UInt64.le_iff_toNat_le.mp (Std.left_le_max (a := greatest) (b := gapLast))
    exact ⟨_, rfl, Nat.le_trans atMost left⟩

theorem gap_le_lastStored {key : UInt64} (kept : state.gaps[key]? = some gap) :
    ∃ last, state.lastStored = some last ∧ gap.lastSequence.toNat ≤ last.toNat := by
  have listed : gap.lastSequence ∈ (values state.gaps).map PreAcceptanceGap.lastSequence :=
    List.mem_map_of_mem (mem_values_iff.mpr ⟨key, kept⟩)
  unfold lastStored
  cases gapMax : ((values state.gaps).map PreAcceptanceGap.lastSequence).max? with
  | none =>
    rw [List.max?_eq_none_iff.mp gapMax] at listed
    cases listed
  | some gapLast =>
    have atMost := UInt64.le_iff_toNat_le.mp ((List.max?_eq_some_iff.mp gapMax).2 _ listed)
    cases state.accepted.maxKey? with
    | none => exact ⟨gapLast, rfl, atMost⟩
    | some greatest =>
      have right := UInt64.le_iff_toNat_le.mp (Std.right_le_max (a := greatest) (b := gapLast))
      exact ⟨_, rfl, Nat.le_trans atMost right⟩

theorem restrict_eq_self (whole : state.frontierHasHole = false) :
    state.restrictToFrontier = state := by
  have same : state.restrictToFrontier.accepted = state.accepted := by
    apply Std.ExtTreeMap.ext_getElem?
    intro sequence
    apply Option.ext
    intro _
    rw [restrict_accepted_eq_some]
    refine and_iff_left_of_imp fun kept => ?_
    have contained : state.accepted.contains sequence = true := by
      rw [Std.ExtTreeMap.contains_eq_isSome_getElem?, kept]
      rfl
    obtain ⟨_, isLast, atMost⟩ := accepted_le_lastStored contained
    exact Nat.lt_of_le_of_lt atMost (lastStored_below_frontier whole isLast)
  have sameGaps : state.restrictToFrontier.gaps = state.gaps := by
    apply Std.ExtTreeMap.ext_getElem?
    intro _
    apply Option.ext
    intro _
    rw [restrict_gaps_eq_some]
    refine and_iff_left_of_imp fun kept => ?_
    obtain ⟨_, isLast, atMost⟩ := gap_le_lastStored kept
    exact Nat.lt_of_le_of_lt atMost (lastStored_below_frontier whole isLast)
  have built : state.restrictToFrontier =
      ⟨state.restrictToFrontier.identity, state.restrictToFrontier.accepted,
        state.restrictToFrontier.gaps,
        state.restrictToFrontier.committedFrontier,
        state.restrictToFrontier.terminal⟩ := rfl
  rw [built, same, sameGaps, restrict_identity,
    restrict_committedFrontier, restrict_terminal]

variable (wf : WellFormed contentDigest state)
include wf

theorem applyRecords_committed (isOpen : state.terminal = none)
    (listed : ∀ record, record ∈ body ↔ state.Committed record) :
    (new state.identity).applyRecords contentDigest body = .ok state.restrictToFrontier := by
  have fresh := wellFormed_new contentDigest state.identity
  have isBody : ∀ record ∈ body, record.isTerminal = false := by
    intro record mem
    obtain ⟨_, _, _, spans, _⟩ := (listed record).mp mem
    exact ReplayedLogRecord.isTerminal_eq_false_iff.mpr ⟨_, spans⟩
  have admissible : ∀ record ∈ body, record.Admissible contentDigest state.identity :=
    fun record mem =>
      wf.admissible record ((listed record).mp mem).1
  obtain ⟨rebuiltOpen, holds, ran⟩ :=
    run_body_holds fresh rfl body isBody (fun left leftMember right member =>
        wf.compatible left right ((listed left).mp leftMember).1
          ((listed right).mp member).1)
      fun record _ => compatible_new state.identity record
  rw [ran admissible]
  obtain ⟨built, rebuiltIdentity⟩ := run_keeps fresh body
  refine congrArg Except.ok (built.eq_of_holds_iff
    (wf.restrict isOpen) ?_ ?_ ?_)
  · rw [rebuiltIdentity, restrict_identity]
    rfl
  · rw [rebuiltOpen, restrict_terminal, isOpen]
  intro record kind
  rw [holds, wf.holds_restrict kind, ← listed]
  constructor
  · rintro (held | ⟨mem, _⟩)
    · exact absurd held (not_holds_new state.identity record)
    · exact mem
  · intro mem
    exact .inr ⟨mem, admissible record mem⟩

theorem WellFormed.reopen : WellFormed contentDigest { state with terminal := none } := by
  have before : ∀ record, Holds { state with terminal := none } record → state.Holds record :=
    fun record held => (holds_with_terminal none (body_of_holds rfl held)).mp held
  refine
    { accepted_key := wf.accepted_key
      gap_key := wf.gap_key
      admissible := fun record held =>
        wf.admissible record (before record held)
      compatible := fun left right leftHeld rightHeld =>
        wf.compatible left right (before left leftHeld) (before right rightHeld)
      frontier := ?_
      clean_contiguous := by simp }
  rw [coverage_with_terminal]
  exact wf.frontier

theorem applyRecords_replay :
    ∃ records, state.replay = .ok records ∧ (∀ record ∈ records, record.stream = state.identity) ∧
      (new state.identity).applyRecords contentDigest records = .ok state.restrictToFrontier := by
  obtain ⟨body, replayed, _, listed⟩ := replay_spec wf
  refine ⟨_, replayed, ?_, ?_⟩
  · intro record mem
    rcases List.mem_append.mp mem with inBody | inTerminal
    · exact (wf.admissible record ((listed record).mp inBody).1).stream_eq
    unfold terminalRecords at inTerminal
    cases closed : state.terminal with
    | none => simp [closed] at inTerminal
    | some terminal =>
      have same : record = .terminal state.identity terminal := by simpa [closed] using inTerminal
      rw [same]
      rfl
  · have reopened := wf.reopen
    have commits : ∀ record, record ∈ body ↔
        Committed { state with terminal := none } record := by
      intro _
      rw [listed]
      apply and_congr_left
      rintro ⟨_, _, spans, _⟩
      have kind := ReplayedLogRecord.isTerminal_eq_false_iff.mpr ⟨_, spans⟩
      exact (holds_with_terminal none kind).symm
    have bodyApplied := applyRecords_committed reopened rfl commits
    rw [applyRecords_append, bodyApplied, restrict_with_terminal]
    unfold terminalRecords
    cases closed : state.terminal with
    | none =>
      have still :
          { state.restrictToFrontier with terminal := none } =
            state.restrictToFrontier := by
        rw [← closed, ← restrict_terminal]
      simp only [Except.bind, applyRecords, still]
    | some terminal =>
      have restored :
          { state.restrictToFrontier with terminal := some terminal } =
            state.restrictToFrontier := by
        rw [← closed, ← restrict_terminal]
      have openWellFormed :
          WellFormed contentDigest { state.restrictToFrontier with terminal := none } := by
        rw [← restrict_with_terminal]
        exact reopened.restrict rfl
      have closes : Closes { state.restrictToFrontier with terminal := none } terminal := by
        refine .inr ⟨rfl, ?_⟩
        rintro exit rfl
        have whole := wf.clean_contiguous exit closed
        rw [restrict_eq_self whole]
        exact whole
      obtain ⟨_, _, ran, rfl, _⟩ :=
        (applyRecord_terminal_spec openWellFormed state.identity terminal).succeeds closes
      simp only [Except.bind]
      rw [applyRecords_cons_ok [] ran]
      exact congrArg Except.ok restored

omit wf

end LogStreamState

variable {contentDigest : Bytes → String}

def streamRecords (stream : LogStreamIdentity)
    (records : List ReplayedLogRecord) : List ReplayedLogRecord :=
  records.filter fun record => decide (record.stream = stream)

theorem entryOrNew_insert (streams : LogStreams)
    (identity stream : LogStreamIdentity) (state : LogStreamState) :
    entryOrNew (streams.insert identity state) stream =
      if identity = stream then state else entryOrNew streams stream := by
  unfold entryOrNew
  by_cases same : identity = stream
  · subst same
    simp
  · rw [getElem?_insert_of_ne _ _ same, if_neg same]

theorem foldlM_rebuildStep_ok (records : List ReplayedLogRecord) (streams : LogStreams)
    (applies : ∀ stream, ∃ final,
      (entryOrNew streams stream).applyRecords contentDigest
        (streamRecords stream records) = .ok final) :
    ∃ built, records.foldlM (rebuildStep contentDigest) streams = .ok built ∧
      ∀ stream,
        (entryOrNew streams stream).applyRecords contentDigest (streamRecords stream records) =
          .ok (entryOrNew built stream) := by
  induction records generalizing streams with
  | nil => exact ⟨streams, rfl, fun _ => rfl⟩
  | cons head rest ih =>
    have headRecords : streamRecords head.stream (head :: rest) =
        head :: streamRecords head.stream rest := by
      simp [streamRecords]
    obtain ⟨_, headApplies⟩ := applies head.stream
    rw [headRecords] at headApplies
    cases ran : (entryOrNew streams head.stream).applyRecord contentDigest head with
    | mk result next =>
      cases result with
      | error =>
        rw [LogStreamState.applyRecords, ran] at headApplies
        cases headApplies
      | ok =>
        have step : rebuildStep contentDigest streams head =
            .ok (streams.insert head.stream next) := by
          rw [rebuildStep, ran]
        -- Every stream continues from where this step left it.
        have advanced : ∀ stream,
            (entryOrNew streams stream).applyRecords contentDigest
                (streamRecords stream (head :: rest)) =
              (entryOrNew (streams.insert head.stream next)
                stream).applyRecords contentDigest (streamRecords stream rest) := by
          intro stream
          rw [entryOrNew_insert]
          by_cases same : head.stream = stream
          · subst same
            rw [if_pos rfl, headRecords, LogStreamState.applyRecords_cons_ok _ ran]
          · simp [streamRecords, same]
        obtain ⟨built, folded, result⟩ :=
          ih (streams.insert head.stream next) fun stream => advanced stream ▸ applies stream
        refine ⟨built, ?_, fun stream => (advanced stream).trans (result stream)⟩
        rw [List.foldlM_cons, step]
        exact folded

theorem foldlM_rebuildStep_single (ofStream : ∀ record ∈ records, record.stream = identity)
    (nonempty : records ≠ [])
    (applies : (entryOrNew streams identity).applyRecords contentDigest records = .ok final) :
    records.foldlM (rebuildStep contentDigest) streams = .ok (streams.insert identity final) := by
  induction records generalizing streams with
  | nil => exact absurd rfl nonempty
  | cons head rest ih =>
    obtain ⟨rfl, restOf⟩ := List.forall_mem_cons.mp ofStream
    cases ran : (entryOrNew streams head.stream).applyRecord contentDigest head with
    | mk result next =>
      cases result with
      | error =>
        rw [LogStreamState.applyRecords, ran] at applies
        cases applies
      | ok =>
        rw [LogStreamState.applyRecords_cons_ok rest ran] at applies
        rw [List.foldlM_cons, rebuildStep, ran]
        by_cases last : rest = []
        · subst last
          cases applies
          rfl
        · have entry : entryOrNew (streams.insert head.stream next) head.stream = next := by
            rw [entryOrNew_insert, if_pos rfl]
          refine (ih restOf last (entry.symm ▸ applies)).trans (congrArg Except.ok ?_)
          refine Std.ExtTreeMap.ext_getElem? fun _ => ?_
          simp only [Std.ExtTreeMap.getElem?_insert]
          split <;> rfl

/-- An at-least-once feed of compatible records, in any order with the
terminal last, converges to one state; and a rebuild from that state's replay
gives its committed part, which is all of it after a clean end of stream. -/
theorem feed_converges_and_rebuilds (contentDigest : Bytes → String)
    (identity : LogStreamIdentity) (left right : List ReplayedLogRecord)
    (sameMembers : ∀ record, record ∈ left ↔ record ∈ right)
    (compatible : ∀ record ∈ left, ∀ other ∈ left, ¬ record.Conflicts other)
    (ofStream : ∀ record ∈ left, record.isTerminal = true → record.stream = identity)
    (leftLast : LogStreamState.TerminalLast left) (rightLast : LogStreamState.TerminalLast right) :
    (LogStreamState.new identity).run contentDigest left =
        (LogStreamState.new identity).run contentDigest right ∧
      ∃ records,
        ((LogStreamState.new identity).run contentDigest left).replay = .ok records ∧
          (records ≠ [] →
            rebuildLogStreams contentDigest records =
              .ok ((∅ : LogStreams).insert identity
                ((LogStreamState.new identity).run contentDigest
                  left).restrictToFrontier)) ∧
          ∀ exit,
            ((LogStreamState.new identity).run contentDigest left).terminal =
                some (.endOfStream exit) →
              ((LogStreamState.new identity).run contentDigest left).restrictToFrontier =
                (LogStreamState.new identity).run contentDigest left := by
  obtain ⟨wellFormed, same⟩ :=
    LogStreamState.run_keeps (LogStreamState.wellFormed_new contentDigest identity) left
  refine ⟨LogStreamState.run_eq_of_same_members identity sameMembers
    compatible ofStream leftLast rightLast, ?_⟩
  obtain ⟨records, replayed, recordsOf, ran⟩ := LogStreamState.applyRecords_replay wellFormed
  rw [same] at recordsOf ran
  refine ⟨records, replayed, fun nonempty =>
    foldlM_rebuildStep_single recordsOf nonempty ran, ?_⟩
  intro exit closed
  exact LogStreamState.restrict_eq_self (wellFormed.clean_contiguous exit closed)

/-- A feed with a gap below its record, closed cleanly. -/
def sampleFeed : List ReplayedLogRecord :=
  [.preAcceptanceGap ⟨⟨0, 7⟩, 0, 1, 2⟩, .accepted ⟨⟨0, 7⟩, 2⟩ "1" [116],
    .terminal ⟨0, 7⟩ (.endOfStream (.status 0))]

/-- The same records redelivered in another order. -/
def sampleRedelivery : List ReplayedLogRecord :=
  [.accepted ⟨⟨0, 7⟩, 2⟩ "1" [116], .preAcceptanceGap ⟨⟨0, 7⟩, 0, 1, 2⟩,
    .accepted ⟨⟨0, 7⟩, 2⟩ "1" [116],
    .terminal ⟨0, 7⟩ (.endOfStream (.status 0)),
    .terminal ⟨0, 7⟩ (.endOfStream (.status 0))]

theorem sampleFeed_converges :
    (LogStreamState.new ⟨0, 7⟩).run (fun bytes => toString bytes.length) sampleFeed =
      (LogStreamState.new ⟨0, 7⟩).run (fun bytes => toString bytes.length)
        sampleRedelivery :=
  (feed_converges_and_rebuilds (fun bytes => toString bytes.length) ⟨0, 7⟩
    sampleFeed sampleRedelivery
    (by simp [sampleFeed, sampleRedelivery]) (by decide) (by decide)
    (by unfold LogStreamState.TerminalLast; decide)
    (by unfold LogStreamState.TerminalLast; decide)).1

end Tickr.LogStream
