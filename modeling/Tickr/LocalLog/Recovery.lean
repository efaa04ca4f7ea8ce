import Tickr.LocalLog.Journal

/-!
# Recovery of the local Log journal

Every reopening succeeds and finds every operation that was reported as done, in
all runs in which the header is written as a whole and a journal is reopened
after a failed append before it is appended to again.
-/

namespace Tickr.LocalLog

open LogStream Framing

variable {applied state : LogStreamState} {frame : JournalFrame}

def LocalLogStagingStream.Contains (stream : LocalLogStagingStream) :
    JournalFrame → Prop
  | .accepted submission => stream.state.Holds submission.record
  | .preAcceptanceGap gap => stream.state.Holds (.preAcceptanceGap gap)
  | .terminal terminal => stream.state.terminal = some terminal
  | .sealed recordDigest => stream.sealDigest = some recordDigest

/-- The invariant of a stream in memory. -/
structure Sound (codec : JournalCodec) (stream : LocalLogStagingStream) : Prop where
  wellFormed : stream.state.WellFormed codec.contentDigest
  sealed_closed : stream.sealDigest.isSome = true → stream.state.terminal.isSome = true

variable {codec : JournalCodec} {identity : LogStreamIdentity} {stream next : LocalLogStagingStream}

theorem sound_new : Sound codec (.new identity) :=
  ⟨LogStreamState.wellFormed_new codec.contentDigest identity, by
    simp [LocalLogStagingStream.new]⟩

theorem not_contains_new : ¬ (LocalLogStagingStream.new identity).Contains frame := by
  cases frame with
  | accepted item => exact LogStreamState.not_holds_new identity item.record
  | preAcceptanceGap gap => exact LogStreamState.not_holds_new identity (.preAcceptanceGap gap)
  | terminal =>
    simp [LocalLogStagingStream.Contains, LocalLogStagingStream.new, LogStreamState.new]
  | sealed => simp [LocalLogStagingStream.Contains, LocalLogStagingStream.new]

/-- The durable record of a frame that adds to the stream's body. -/
def JournalFrame.body : JournalFrame → Option ReplayedLogRecord
  | .accepted submission => some submission.record
  | .preAcceptanceGap gap => some (.preAcceptanceGap gap)
  | .terminal _ => none
  | .sealed _ => none

variable {record : ReplayedLogRecord}

theorem eq_of_body {left right : JournalFrame}
    (leftBody : left.body = some record) (rightBody : right.body = some record) : left = right := by
  have same : left.body = right.body := leftBody.trans rightBody.symm
  cases left with
  | accepted item =>
    cases right with
    | accepted other =>
      have sameRecord := Option.some.inj same
      cases item
      cases other
      simpa [LogRecordSubmission.record] using sameRecord
    | preAcceptanceGap | terminal | sealed => cases same
  | preAcceptanceGap =>
    cases right with
    | accepted | terminal | sealed => cases same
    | preAcceptanceGap =>
      cases same
      rfl
  | terminal | sealed => cases leftBody

theorem Sound.unsealed (sound : Sound codec stream)
    (isOpen : stream.state.terminal = none) : stream.sealDigest = none := by
  cases isSealed : stream.sealDigest with
  | none => rfl
  | some =>
    have closed := sound.sealed_closed (by rw [isSealed]; rfl)
    rw [isOpen] at closed
    cases closed

theorem contains_extended (extended : stream.state.Extends codec.contentDigest applied record)
    (isBody : frame.body = some record) (other : JournalFrame) :
    LocalLogStagingStream.Contains { stream with state := applied } other ↔
      stream.Contains other ∨ other = frame := by
  have named : ∀ otherRecord, other.body = some otherRecord →
      (other = frame ↔ otherRecord = record) := by
    intro _ otherBody
    constructor
    · intro same
      rw [same, isBody] at otherBody
      exact (Option.some.inj otherBody).symm
    · intro same
      rw [same] at otherBody
      exact eq_of_body otherBody isBody
  cases other with
  | accepted item =>
    rw [named _ rfl]
    exact extended.holds item.record
  | preAcceptanceGap gap =>
    rw [named _ rfl]
    exact extended.holds (.preAcceptanceGap gap)
  | terminal terminal =>
    have ne : JournalFrame.terminal terminal ≠ frame := by
      intro same
      rw [← same] at isBody
      cases isBody
    simp [LocalLogStagingStream.Contains, extended.terminal, ne]
  | sealed recordDigest =>
    have ne : JournalFrame.sealed recordDigest ≠ frame := by
      intro same
      rw [← same] at isBody
      cases isBody
    simp [LocalLogStagingStream.Contains, ne]

theorem contains_of_recovered (sound : Sound codec stream)
    (after : applyRecoveredFrame codec stream frame = .ok next) :
    Sound codec next ∧ ∀ other, next.Contains other ↔ stream.Contains other ∨ other = frame := by
  unfold applyRecoveredFrame at after
  split at after
  · cases after
  rename_i unsealed
  have noSeal : stream.sealDigest = none := by simpa using unsealed
  split at after
  · split at after
    · cases after
    rename_i closed
    split at after
    · cases after
    split at after
    · cases after
    cases after
    refine ⟨⟨sound.wellFormed, fun _ => ?_⟩, ?_⟩
    · simpa [Option.isSome_iff_ne_none] using closed
    · intro other
      cases other with
      | sealed => simp [LocalLogStagingStream.Contains, noSeal, eq_comm]
      | accepted | preAcceptanceGap | terminal =>
        simp [LocalLogStagingStream.Contains]
  · split at after
    · cases after
    split at after
    · cases after
    rename_i outcome applied accepted
    cases after
    obtain ⟨_, extended⟩ :=
      (LogStreamState.applyAccepted_spec sound.wellFormed _).of_ok accepted
    refine ⟨⟨extended.wellFormed, ?_⟩, contains_extended extended rfl⟩
    intro isSealed
    rw [noSeal] at isSealed
    cases isSealed
  · split at after
    · cases after
    split at after
    · cases after
    rename_i outcome applied accepted
    cases after
    obtain ⟨_, extended⟩ :=
      (LogStreamState.applyGap_spec sound.wellFormed _).of_ok accepted
    refine ⟨⟨extended.wellFormed, ?_⟩, contains_extended extended rfl⟩
    intro isSealed
    rw [noSeal] at isSealed
    cases isSealed
  · rename_i terminal
    split at after
    · cases after
    rename_i isOpen
    split at after
    · cases after
    rename_i outcome applied accepted
    cases after
    obtain ⟨_, isClosed, closedWellFormed⟩ :=
      (LogStreamState.applyTerminal_spec sound.wellFormed _).of_ok accepted
    subst isClosed
    have noTerminal : stream.state.terminal = none := by simpa using isOpen
    refine ⟨⟨closedWellFormed, fun _ => rfl⟩, ?_⟩
    intro other
    cases other with
    | accepted item =>
      rw [or_iff_left (by simp)]
      exact @LogStreamState.holds_with_terminal stream.state
        item.record (some terminal) rfl
    | preAcceptanceGap gap =>
      rw [or_iff_left (by simp)]
      exact @LogStreamState.holds_with_terminal stream.state
        (.preAcceptanceGap gap) (some terminal) rfl
    | terminal =>
      simp [LocalLogStagingStream.Contains, noTerminal, eq_comm]
    | sealed => simp [LocalLogStagingStream.Contains]

variable {op : JournalOp}

/-- An operation that finds its frame recorded is right. -/
theorem contains_of_found (sound : Sound codec stream)
    (found : op.prepare codec stream = .ok (.found frame)) :
    stream.Contains frame := by
  cases op with
  | accept item =>
    rw [JournalOp.prepare, accept] at found
    split at found
    · cases found
    · rename_i applied already
      cases found
      obtain ⟨_, longer⟩ :=
        (LogStreamState.applyAccepted_spec sound.wellFormed _).of_ok already
      have still := LogStreamState.applyAccepted_already already
      rw [still] at longer
      exact (longer.holds item.record).mpr (.inr rfl)
    · cases found
  | declareGap gap =>
    rw [JournalOp.prepare, declarePreAcceptanceGap] at found
    split at found
    · cases found
    · rename_i applied already
      cases found
      obtain ⟨_, longer⟩ := (LogStreamState.applyGap_spec sound.wellFormed _).of_ok already
      have still := LogStreamState.applyGap_already already
      rw [still] at longer
      exact (longer.holds (.preAcceptanceGap gap)).mpr (.inr rfl)
    · cases found
  | finishCleanly =>
    rw [JournalOp.prepare, finishCleanly] at found
    split at found
    · cases found
    · rename_i applied already
      cases found
      exact LogStreamState.applyTerminal_already already
    · cases found
  | recoverAbnormal =>
    rw [JournalOp.prepare, recoverAbnormalClosure] at found
    split at found
    · rename_i terminal closed
      cases found
      exact closed
    · split at found
      · cases found
      · cases found
  | sealStream =>
    rw [JournalOp.prepare, sealStream] at found
    split at found
    · cases found
    split at found
    · cases found
    split at found
    · rename_i recordDigest isSealed
      split at found
      · cases found
        exact isSealed
      · cases found
    · cases found

theorem recovered_of_append (sound : Sound codec stream)
    (ready : op.prepare codec stream = .ok (.append frame next)) :
    applyRecoveredFrame codec stream frame = .ok next := by
  unfold applyRecoveredFrame
  cases op with
  | accept =>
    rw [JournalOp.prepare, accept] at ready
    split at ready
    · cases ready
    · cases ready
    rename_i prospective took
    cases ready
    obtain ⟨accepts, _⟩ :=
      (LogStreamState.applyAccepted_spec sound.wellFormed _).of_ok took
    simp [sound.unsealed accepts.isOpen, accepts.isOpen, took]
  | declareGap =>
    rw [JournalOp.prepare, declarePreAcceptanceGap] at ready
    split at ready
    · cases ready
    · cases ready
    rename_i prospective took
    cases ready
    obtain ⟨accepts, _⟩ := (LogStreamState.applyGap_spec sound.wellFormed _).of_ok took
    simp [sound.unsealed accepts.isOpen, accepts.isOpen, took]
  | finishCleanly =>
    rw [JournalOp.prepare, finishCleanly] at ready
    split at ready
    · cases ready
    · cases ready
    rename_i prospective noted
    cases ready
    obtain ⟨isOpen, _⟩ := LogStreamState.applyTerminal_recorded noted
    simp [sound.unsealed isOpen, isOpen, noted]
  | recoverAbnormal =>
    rw [JournalOp.prepare, recoverAbnormalClosure] at ready
    split at ready
    · cases ready
    rename_i isOpen
    split at ready
    · cases ready
    · rename_i outcome prospective noted
      cases ready
      simp [sound.unsealed isOpen, isOpen, noted]
  | sealStream =>
    rw [JournalOp.prepare, sealStream] at ready
    split at ready
    · cases ready
    rename_i closed
    split at ready
    · cases ready
    split at ready
    · split at ready
      · cases ready
      · cases ready
    · rename_i unsealed
      cases ready
      simp [unsealed, closed]

variable {frames : List JournalFrame}

/-- Recovering the frames one by one gives the stream. -/
def Replays (codec : JournalCodec) (identity : LogStreamIdentity)
    (frames : List JournalFrame) (stream : LocalLogStagingStream) : Prop :=
  frames.foldlM (applyRecoveredFrame codec) (.new identity) = .ok stream

variable (replays : Replays codec identity frames stream)

include replays in
theorem Replays.snoc
    (after : applyRecoveredFrame codec stream frame = .ok next) :
    Replays codec identity (frames ++ [frame]) next := by
  unfold Replays at replays ⊢
  rw [List.foldlM_append, replays]
  simp [bind, Except.bind, after, pure, Except.pure]

variable {start : LocalLogStagingStream}

theorem contains_of_folded (sound : Sound codec start)
    (folded : frames.foldlM (applyRecoveredFrame codec) start = .ok stream) :
    Sound codec stream ∧
      ∀ frame, stream.Contains frame ↔ start.Contains frame ∨ frame ∈ frames := by
  induction frames generalizing start with
  | nil =>
    cases folded
    simp [sound]
  | cons _ _ ih =>
    obtain ⟨_, step, isFolded⟩ := Rust.bind_eq_ok folded
    obtain ⟨reachedSound, contains⟩ := contains_of_recovered sound step
    obtain ⟨finalSound, final⟩ := ih reachedSound isFolded
    refine ⟨finalSound, ?_⟩
    intro _
    rw [final, contains, List.mem_cons, or_assoc]

include replays

theorem Replays.sound :
    Sound codec stream := (contains_of_folded sound_new replays).1

theorem Replays.contains_iff
    (frame : JournalFrame) : stream.Contains frame ↔ frame ∈ frames := by
  rw [(contains_of_folded sound_new replays).2 frame]
  exact or_iff_right not_contains_new

omit replays

theorem recoverLoop_frames
    (fits : ∀ frame ∈ frames, (codec.encodeFrame frame).length ≤ maxFrameBytes)
    (back : ∀ frame ∈ frames, codec.ReadsBack frame)
    (torn : Framing.next maxFrameBytes tail = .incomplete)
    (folded : frames.foldlM (applyRecoveredFrame codec) start = .ok stream) (enough : frames.length < fuel) (offset : Nat) :
    recoverLoop codec fuel (frames.flatMap (frameBytes codec) ++ tail) offset start =
      .ok (stream, offset + (frames.flatMap (frameBytes codec)).length) := by
  induction frames generalizing start fuel offset with
  | nil =>
    cases folded
    cases fuel with
    | zero => cases enough
    | succ =>
      rw [List.flatMap_nil, List.nil_append, recoverLoop, torn]
      rfl
  | cons head rest ih =>
    cases fuel with
    | zero => cases enough
    | succ =>
      have whole : Framing.next maxFrameBytes
          ((head :: rest).flatMap (frameBytes codec) ++ tail) =
            .complete (codec.encodeFrame head) (rest.flatMap (frameBytes codec) ++ tail) := by
        rw [List.flatMap_cons, List.append_assoc]
        exact next_frame (fits head (.head _)) (by decide) _
      obtain ⟨_, step, isFolded⟩ := Rust.bind_eq_ok folded
      have decodes : codec.decodeFrame (codec.encodeFrame head) =
          .ok head := back head (.head _)
      have continues := ih (List.forall_mem_cons.mp fits).2 (List.forall_mem_cons.mp back).2
        isFolded (Nat.lt_of_succ_lt_succ enough) (offset + 4 + (codec.encodeFrame head).length)
      rw [recoverLoop, whole]
      simp only [decodes, step, continues]
      rw [List.flatMap_cons, List.length_append,
        show (frameBytes codec head).length = _ from length_frame _]
      congr 2
      omega

variable {file tail : Bytes}

structure Intact (codec : JournalCodec) (identity : LogStreamIdentity)
    (file : Bytes) (frames : List JournalFrame) (tail : Bytes)
    (stream : LocalLogStagingStream) : Prop where
  layout : file = journalHeader ++ (frames.flatMap (frameBytes codec) ++ tail)
  torn : Framing.next maxFrameBytes tail = .incomplete
  fits : ∀ frame ∈ frames, (codec.encodeFrame frame).length ≤ maxFrameBytes
  replays : Replays codec identity frames stream

theorem intact_header : Intact codec identity journalHeader [] [] (.new identity) where
  layout := by simp
  torn := rfl
  fits := by simp
  replays := rfl

theorem frames_length_le (codec : JournalCodec) (frames : List JournalFrame) :
    frames.length ≤ (frames.flatMap (frameBytes codec)).length := by
  induction frames with
  | nil => exact Nat.le_refl 0
  | cons head =>
    rw [List.flatMap_cons, List.length_append, List.length_cons,
      show (frameBytes codec head).length = _ from length_frame _]
    omega

variable (intact : Intact codec identity file frames tail stream)
include intact

theorem Intact.header_le : journalHeader.length ≤ file.length := by
  rw [intact.layout, List.length_append]
  omega

theorem Intact.nonempty : file ≠ [] := by
  intro empty
  have long := intact.header_le
  rw [empty] at long
  exact absurd long (by decide)

theorem openJournal_intact (back : ∀ frame ∈ frames, codec.ReadsBack frame)
    (fault : WriteFault) :
    openJournal codec identity fault file =
      truncateTail stream (journalHeader ++ frames.flatMap (frameBytes codec)).length fault
        file := by
  have starts : file.take journalHeader.length = journalHeader := by
    rw [intact.layout, List.take_left]
  have rest : file.drop journalHeader.length = frames.flatMap (frameBytes codec) ++ tail := by
    rw [intact.layout, List.drop_left]
  have enough : frames.length < file.length + 1 := by
    have counted := frames_length_le codec frames
    rw [intact.layout, List.length_append, List.length_append]
    omega
  rw [openJournal, if_neg intact.nonempty,
    if_neg (Nat.not_lt.mpr intact.header_le), if_neg (not_not_intro starts), rest,
    recoverLoop_frames intact.fits back intact.torn intact.replays enough,
    List.length_append]

theorem Intact.cut :
    Intact codec identity (file.take (journalHeader ++ frames.flatMap (frameBytes codec)).length)
      frames [] stream := by
  refine ⟨?_, rfl, intact.fits, intact.replays⟩
  rw [intact.layout, ← List.append_assoc, List.take_left, List.append_nil]

omit intact

theorem Intact.grow (intact : Intact codec identity file frames [] stream)
    (after : applyRecoveredFrame codec stream frame = .ok next)
    (frameFits : (codec.encodeFrame frame).length ≤ maxFrameBytes) :
    Intact codec identity (file ++ frameBytes codec frame) (frames ++ [frame]) [] next := by
  refine ⟨?_, rfl, ?_, intact.replays.snoc after⟩
  · rw [intact.layout]
    simp
  · exact List.forall_mem_append.mpr ⟨intact.fits, List.forall_mem_singleton.mpr frameFits⟩

theorem Intact.tear (intact : Intact codec identity file frames [] stream)
    (frameFits : (codec.encodeFrame frame).length ≤ maxFrameBytes)
    {wrote : Nat} (torn : wrote < (frameBytes codec frame).length) :
    Intact codec identity (file ++ (frameBytes codec frame).take wrote)
      frames ((frameBytes codec frame).take wrote) stream := by
  refine ⟨?_, next_torn frameFits (by decide) torn, intact.fits, intact.replays⟩
  rw [intact.layout]
  simp

/-- A frame that fits is appended whole, or torn where the process stopped. -/
theorem Intact.append (intact : Intact codec identity file frames [] stream)
    (after : applyRecoveredFrame codec stream frame = .ok next)
    (fits : (codec.encodeFrame frame).length ≤ maxFrameBytes) :
    (∃ grown, appendFrame codec frame .none file = (.synced, grown) ∧
        Intact codec identity grown (frames ++ [frame]) [] next) ∧
      ∀ wrote, let left := (appendFrame codec frame (.stops wrote) file).2
        Intact codec identity left (frames ++ [frame]) [] next ∨
          ∃ tail, Intact codec identity left frames tail stream := by
  have grown := intact.grow after fits
  simp only [appendFrame, if_neg (Nat.not_lt.mpr fits)]
  refine ⟨⟨_, rfl, grown⟩, ?_⟩
  intro wrote
  by_cases torn : wrote < (frameBytes codec frame).length
  · exact .inr ⟨_, intact.tear fits torn⟩
  · rw [List.take_of_length_le (Nat.not_lt.mp torn)]
    exact .inl grown

variable {journal : Journal}

/-- What a careful run keeps: the journal was not created yet, or it is intact,
with every reported operation among its frames and only attempted ones; and the
stream in memory is the one recovery would give, unless an append left bytes
behind it. -/
def Recoverable (codec : JournalCodec) (identity : LogStreamIdentity) (journal : Journal) : Prop :=
  (journal.file = [] ∧ journal.stream = none ∧ journal.returned = []) ∨
    ∃ frames tail stream,
      Intact codec identity journal.file frames tail stream ∧
        (∀ frame ∈ journal.returned, frame ∈ frames) ∧
        (∀ frame ∈ frames, frame ∈ journal.attempted) ∧
        ∀ opened, journal.stream = some opened →
          journal.unsettled = false → opened = stream ∧ tail = []

def WholeHeader : WriteFault → Prop
  | .none => True
  | .fails written => written = 0 ∨ journalHeader.length ≤ written
  | .stops written => written = 0 ∨ journalHeader.length ≤ written

/-- The conditions on a run: a new journal's header is not torn, and after an
append that failed with bytes written the journal is reopened before the next
call. -/
def Careful (journal : Journal) : JournalEvent → Prop
  | .opens fault => journal.file = [] → WholeHeader fault
  | .calls _ _ => journal.stream = none ∨ journal.unsettled = false
  | .stops => True

def RunCareful (codec : JournalCodec) (identity : LogStreamIdentity)
    (journal : Journal) : List JournalEvent → Prop
  | [] => True
  | event :: rest =>
    Careful journal event ∧ RunCareful codec identity (journal.step codec identity event) rest

instance : DecidablePred WholeHeader
  | .none => inferInstanceAs (Decidable True)
  | .fails _ => inferInstanceAs (Decidable (_ ∨ _))
  | .stops _ => inferInstanceAs (Decidable (_ ∨ _))

instance (journal : Journal) : DecidablePred (Careful journal)
  | .opens fault => inferInstanceAs (Decidable (_ → WholeHeader fault))
  | .calls _ _ => inferInstanceAs (Decidable (_ ∨ _))
  | .stops => inferInstanceAs (Decidable True)

instance decidableRunCareful (codec : JournalCodec) (identity : LogStreamIdentity) :
    (journal : Journal) → (events : List JournalEvent) →
      Decidable (RunCareful codec identity journal events)
  | _, [] => inferInstanceAs (Decidable True)
  | journal, event :: rest =>
    @instDecidableAnd _ _ inferInstance
      (decidableRunCareful codec identity (journal.step codec identity event) rest)

theorem recoverable_start : Recoverable codec identity .start := .inl ⟨rfl, rfl, rfl⟩

variable (recoverable : Recoverable codec identity journal)
include recoverable

theorem Recoverable.created (empty : journal.file = []) (whole : WholeHeader fault) :
    Recoverable codec identity (journal.opening codec identity fault) := by
  have nothing : journal.returned = [] := by
    rcases recoverable with ⟨_, _, noneReturned⟩ | ⟨_, _, _, intact, _⟩
    · exact noneReturned
    · exact absurd empty intact.nonempty
  have opened : openJournal codec identity fault journal.file = createJournal identity fault := by
    rw [openJournal, if_pos empty]
  have left : ∀ wrote, wrote = 0 ∨ journalHeader.length ≤ wrote →
      Recoverable codec identity { journal with
          file := journalHeader.take wrote, stream := none } := by
    intro _ wholeWritten
    rcases wholeWritten with zero | isWhole
    · exact .inl ⟨by rw [zero]; rfl, rfl, nothing⟩
    refine .inr ⟨[], [], .new identity, ?_, ?_, ?_, ?_⟩
    · rw [List.take_of_length_le isWhole]
      exact intact_header
    · simp [nothing]
    · simp
    · simp
  unfold Journal.opening
  rw [opened]
  cases fault with
  | none =>
    change Recoverable codec identity { journal with
        file := journalHeader, stream := some (.new identity)
        unsettled := false }
    refine .inr ⟨[], [], .new identity, intact_header, ?_, ?_, ?_⟩
    · simp [nothing]
    · simp
    · intro _ opens _
      exact ⟨(Option.some.inj opens).symm, rfl⟩
  | fails wrote | stops wrote => exact left wrote whole

theorem Recoverable.reopened (back : ∀ frame ∈ journal.attempted, codec.ReadsBack frame)
    (notEmpty : journal.file ≠ []) (fault : WriteFault) :
    Recoverable codec identity (journal.opening codec identity fault) := by
  rcases recoverable with ⟨empty, _⟩ | ⟨frames, tail, stream, intact, returned, attempted, _⟩
  · exact absurd empty notEmpty
  have opened := openJournal_intact intact
    (fun frame mem => back frame (attempted frame mem)) fault
  have left : Recoverable codec identity { journal with stream := none } :=
    .inr ⟨frames, tail, stream, intact, returned, attempted, by simp⟩
  have leftCut : Recoverable codec identity { journal with
        file := journal.file.take (journalHeader ++ frames.flatMap (frameBytes codec)).length
        stream := none } := .inr ⟨frames, [], stream, intact.cut, returned, attempted, by simp⟩
  unfold Journal.opening
  rw [opened]
  cases fault with
  | none =>
    refine .inr ⟨frames, [], stream, intact.cut, returned, attempted, ?_⟩
    intro _ hit _
    exact ⟨(Option.some.inj hit).symm, rfl⟩
  | fails wrote | stops wrote =>
    cases wrote with
    | zero => exact left
    | succ => exact leftCut

omit recoverable

theorem Recoverable.appended (intact : Intact codec identity journal.file frames [] stream)
    (returned : ∀ other ∈ journal.returned, other ∈ frames)
    (attempted : ∀ other ∈ frames, other ∈ journal.attempted)
    (isOpen : journal.stream = some stream) (ends : journal.unsettled = false)
    (after : applyRecoveredFrame codec stream frame = .ok next) (fault : WriteFault) :
    Recoverable codec identity (journal.appending codec frame next fault) := by
  have later : ∀ other ∈ frames, other ∈ frame :: journal.attempted :=
    fun other mem => .tail frame (attempted other mem)
  have attemptedNew :=
    List.forall_mem_append.mpr ⟨later, List.forall_mem_singleton.mpr (.head _)⟩
  have returnedLater : ∀ other ∈ journal.returned, other ∈ frames ++ [frame] :=
    fun other mem => List.mem_append_left _ (returned other mem)
  unfold Journal.appending appendFrame
  by_cases tooBig : maxFrameBytes < (codec.encodeFrame frame).length
  · rw [if_pos tooBig]
    refine .inr ⟨frames, [], stream, intact, returned, later, ?_⟩
    intro _ opens _
    rw [isOpen] at opens
    exact ⟨(Option.some.inj opens).symm, rfl⟩
  · rw [if_neg tooBig]
    have fits := Nat.not_lt.mp tooBig
    have grown := intact.grow after fits
    cases fault with
    | none =>
      refine .inr ⟨_, [], next, grown, List.forall_mem_cons.mpr ⟨?_, returnedLater⟩,
        attemptedNew, ?_⟩
      · exact List.mem_append_right _ (.head _)
      · intro _ opens _
        exact ⟨(Option.some.inj opens).symm, rfl⟩
    | fails wrote =>
      -- The stream is still in step only if no byte was written.
      have untouched : (journal.unsettled ||
          decide (journal.file ++ (frameBytes codec frame).take wrote ≠ journal.file)) = false →
            (frameBytes codec frame).take wrote = [] := by
        intro stillSettled
        rw [ends, Bool.false_or, decide_eq_false_iff_not, not_not] at stillSettled
        exact List.append_cancel_left (stillSettled.trans (List.append_nil _).symm)
      dsimp only
      by_cases whole : (frameBytes codec frame).length ≤ wrote
      · rw [List.take_of_length_le whole] at untouched ⊢
        refine .inr ⟨_, [], next, grown, returnedLater, attemptedNew, ?_⟩
        intro _ _ stillSettled
        have bytes := congrArg List.length (untouched stillSettled)
        cases bytes
      · refine .inr ⟨frames, _, stream, intact.tear fits (Nat.lt_of_not_le whole), returned,
          later, ?_⟩
        intro _ opens stillSettled
        rw [isOpen] at opens
        exact ⟨(Option.some.inj opens).symm, untouched stillSettled⟩
    | stops wrote =>
      dsimp only
      by_cases whole : (frameBytes codec frame).length ≤ wrote
      · rw [List.take_of_length_le whole]
        exact .inr ⟨_, [], next, grown, returnedLater, attemptedNew, by simp⟩
      · exact .inr ⟨frames, _, stream, intact.tear fits (Nat.lt_of_not_le whole), returned,
          later, by simp⟩

include recoverable

theorem Recoverable.called (careful : journal.stream = none ∨ journal.unsettled = false)
    (op : JournalOp) (fault : WriteFault) :
    Recoverable codec identity (journal.calling codec op fault) := by
  cases isOpen : journal.stream with
  | none =>
    rw [Journal.calling, isOpen]
    exact recoverable
  | some opened =>
    have ends : journal.unsettled = false := by
      rcases careful with isNone | ends
      · rw [isOpen] at isNone
        cases isNone
      · exact ends
    rcases recoverable with ⟨_, isNone, _⟩ |
      ⟨frames, _, _, intact, returned, attempted, step⟩
    · rw [isOpen] at isNone
      cases isNone
    obtain ⟨isStream, noTail⟩ := step opened isOpen ends
    subst isStream
    subst noTail
    have sound := intact.replays.sound
    rw [Journal.calling, isOpen]
    dsimp only
    cases ready : op.prepare codec opened with
    | error => exact .inr ⟨frames, [], opened, intact, returned, attempted, step⟩
    | ok result =>
      cases result with
      | found frame =>
        have contained := contains_of_found sound ready
        have mem := (intact.replays.contains_iff frame).mp contained
        exact .inr ⟨frames, [], opened, intact, List.forall_mem_cons.mpr ⟨mem, returned⟩,
          attempted, fun other ne => step other (isOpen.trans ne)⟩
      | append =>
        exact .appended intact returned attempted isOpen
          ends (recovered_of_append sound ready) fault

theorem Recoverable.step (careful : Careful journal event)
    (back : ∀ frame ∈ journal.attempted, codec.ReadsBack frame) :
    Recoverable codec identity (journal.step codec identity event) := by
  cases event with
  | opens fault =>
    by_cases empty : journal.file = []
    · exact recoverable.created empty (careful empty)
    · exact recoverable.reopened back empty fault
  | calls op fault => exact recoverable.called careful op fault
  | stops =>
    rcases recoverable with ⟨empty, _, nothing⟩ |
      ⟨frames, tail, stream, intact, returned, attempted, _⟩
    · exact .inl ⟨empty, rfl, nothing⟩
    · refine .inr ⟨frames, tail, stream, intact, returned, attempted, ?_⟩
      intro _ isOpened
      cases isOpened

omit recoverable

/-- An attempt is never forgotten. -/
theorem attempted_step (event : JournalEvent) (mem : frame ∈ journal.attempted) :
    frame ∈ (journal.step codec identity event).attempted := by
  cases event with
  | opens =>
    rw [Journal.step, Journal.opening]
    split <;> exact mem
  | calls =>
    rw [Journal.step, Journal.calling]
    split
    · exact mem
    split
    · exact mem
    · exact mem
    · rw [Journal.appending]
      split <;> exact .tail _ mem
  | stops => exact mem

theorem attempted_run (events : List JournalEvent) (mem : frame ∈ journal.attempted) :
    frame ∈ (journal.run codec identity events).attempted := by
  induction events generalizing journal with
  | nil => exact mem
  | cons event _ ih => exact ih (attempted_step event mem)

include recoverable in
theorem Recoverable.run (careful : RunCareful codec identity journal events)
    (back : ∀ frame ∈ (journal.run codec identity events).attempted, codec.ReadsBack frame) :
    Recoverable codec identity (journal.run codec identity events) := by
  induction events generalizing journal with
  | nil => exact recoverable
  | cons event rest ih =>
    obtain ⟨first, later⟩ := careful
    have stepped := recoverable.step first fun frame mem =>
      back frame (attempted_run (event :: rest) mem)
    exact ih stepped later back

/-- For every sequence of operations, failed and interrupted appends, stops and
reopenings in which the header is not torn and a journal is reopened after an
append that failed with bytes written: a reopening succeeds, and the recovered
stream contains every operation whose success was returned, once, and only
operations that were attempted. -/
theorem reopening_recovers (codec : JournalCodec)
    (identity : LogStreamIdentity) (events : List JournalEvent)
    (careful : RunCareful codec identity .start events)
    (readsBack : ∀ frame ∈ (Journal.start.run codec identity events).attempted,
      codec.ReadsBack frame) :
    ∃ stream file,
      openJournal codec identity .none (Journal.start.run codec identity events).file =
        (.stream stream, file) ∧
      (∀ frame ∈ (Journal.start.run codec identity events).returned, stream.Contains frame) ∧
      (∀ frame, stream.Contains frame →
        frame ∈ (Journal.start.run codec identity events).attempted) ∧
      stream.state.acceptedRecords.Nodup ∧
      stream.state.declaredGaps.Nodup := by
  have once : ∀ stream, Sound codec stream →
      stream.state.acceptedRecords.Nodup ∧ stream.state.declaredGaps.Nodup :=
    fun stream sound =>
      ⟨Rust.values_nodup sound.wellFormed.accepted_key, Rust.values_nodup sound.wellFormed.gap_key⟩
  rcases recoverable_start.run careful readsBack with
    ⟨empty, _, nothing⟩ | ⟨frames, _, stream, intact, returned, attempted, _⟩
  · refine ⟨.new identity, journalHeader, ?_, ?_, ?_, once _ sound_new⟩
    · rw [openJournal, if_pos empty]
      rfl
    · rw [nothing]
      intro _ mem
      cases mem
    · intro _ contained
      exact absurd contained not_contains_new
  · refine ⟨stream, (Journal.start.run codec identity events).file.take
      (journalHeader ++ frames.flatMap (frameBytes codec)).length, ?_, ?_, ?_,
      once _ intact.replays.sound⟩
    · exact openJournal_intact intact
        (fun frame mem => readsBack frame (attempted frame mem)) .none
    · intro frame isReturned
      exact (intact.replays.contains_iff frame).mpr (returned frame isReturned)
    · intro frame contained
      exact attempted frame ((intact.replays.contains_iff frame).mp contained)

/-- The record and the terminal of the runs below. -/
def sampleRecord : JournalFrame := .accepted ⟨⟨⟨0, 1⟩, 0⟩, "", [7]⟩

def sampleTerminal : JournalFrame := .terminal (.abnormalClosure (some 0))

/-- Frames of one byte, for the two frames of the runs below. -/
def sampleCodec : JournalCodec where
  contentDigest := fun _ => ""
  recordsText := fun _ => []
  encodeFrame := fun frame =>
    if frame = sampleRecord then [9]
    else if frame = sampleTerminal then [8] else [7]
  decodeFrame := fun payload =>
    if payload = [9] then .ok sampleRecord
    else if payload = [8] then .ok sampleTerminal
    else .error "unknown frame"

/-- The first append of the record is cut short; after a reopening it is
accepted. -/
def reopenedRun : List JournalEvent :=
  [.opens .none, .calls (.accept ⟨⟨⟨0, 1⟩, 0⟩, "", [7]⟩) (.fails 3),
    .opens .none, .calls (.accept ⟨⟨⟨0, 1⟩, 0⟩, "", [7]⟩) .none,
    .calls .recoverAbnormal (.stops 5)]

theorem reopenedRun_recovers :
    ∃ stream file,
      openJournal sampleCodec ⟨0, 1⟩ .none (Journal.start.run sampleCodec ⟨0, 1⟩ reopenedRun).file =
        (.stream stream, file) ∧ stream.Contains sampleRecord := by
  obtain ⟨stream, file, opened, contains, _⟩ :=
    reopening_recovers sampleCodec ⟨0, 1⟩ reopenedRun (by decide +kernel) (by decide +kernel)
  exact ⟨stream, file, opened, contains sampleRecord (by decide +kernel)⟩

/-- Three runs after which the journal cannot be opened: the header is torn at
its creation; an append fails with three bytes written and is retried on the
same stream; a terminal is written but its sync fails, and it is retried. -/
theorem reopening_fails :
    (openJournal sampleCodec ⟨0, 1⟩ .none
        (Journal.start.run sampleCodec ⟨0, 1⟩ [.opens (.stops 5)]).file).1 =
      .failed (.io "read local log staging journal header") ∧
    (∃ reason,
      (openJournal sampleCodec ⟨0, 1⟩ .none
        (Journal.start.run sampleCodec ⟨0, 1⟩
          [.opens .none, .calls (.accept ⟨⟨⟨0, 1⟩, 0⟩, "", [7]⟩) (.fails 4),
            .calls (.accept ⟨⟨⟨0, 1⟩, 0⟩, "", [7]⟩) .none]).file).1 =
        .failed reason ∧
      sampleRecord ∈ (Journal.start.run sampleCodec ⟨0, 1⟩
          [.opens .none, .calls (.accept ⟨⟨⟨0, 1⟩, 0⟩, "", [7]⟩) (.fails 4),
            .calls (.accept ⟨⟨⟨0, 1⟩, 0⟩, "", [7]⟩) .none]).returned) ∧
    (openJournal sampleCodec ⟨0, 1⟩ .none
        (Journal.start.run sampleCodec ⟨0, 1⟩
          [.opens .none, .calls (.accept ⟨⟨⟨0, 1⟩, 0⟩, "", [7]⟩) .none,
            .calls .recoverAbnormal (.fails 5),
            .calls .recoverAbnormal .none]).file).1 =
      .failed (.refused
        "local log staging journal contains a record after its terminal record") := by
  refine ⟨by decide +kernel, ⟨.undecodable "unknown frame", ?_⟩, by decide +kernel⟩
  decide +kernel

end Tickr.LocalLog
