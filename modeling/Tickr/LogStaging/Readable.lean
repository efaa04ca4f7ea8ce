import Tickr.LogStaging.Writers

/-!
# A readable subject

A record that was accepted on an earlier copy of a stream may be appended to the
subject as long as nothing that landed in the meantime unsettles it.
-/

namespace Tickr.LogStream

variable {record : ReplayedLogRecord} {state : LogStreamState}

namespace ReplayedLogRecord

/-- A terminal that says the stream ended cleanly. -/
def isCleanEnd : ReplayedLogRecord → Bool
  | .terminal _ (.endOfStream _) => true
  | _ => false

/-- The landed record takes away what made the other acceptable: it conflicts
with it, closed its stream, or may have left a hole below a clean end. -/
def Unsettles (landed record : ReplayedLogRecord) : Prop :=
  landed.Conflicts record ∨
    landed.stream = record.stream ∧
      (landed.isTerminal = true ∧ record.isTerminal = false ∨
        landed.isTerminal = false ∧ record.isCleanEnd = true)

instance (landed record : ReplayedLogRecord) : Decidable (landed.Unsettles record) :=
  inferInstanceAs (Decidable (_ ∨ _ ∧ (_ ∨ _)))

end ReplayedLogRecord

namespace LogStreamState

variable {contentDigest : Bytes → String} {read latest : LogStreamState}
  {landed : List ReplayedLogRecord} {terminal : LogTerminal}

theorem terminal_held (closed : state.terminal = some terminal) :
    state.Holds (.terminal state.identity terminal) := ⟨rfl, closed⟩

variable (wf : WellFormed contentDigest read)
  (ofStream : ∀ other ∈ landed, other.stream = read.identity)
  (applied : read.applyRecords contentDigest landed = .ok latest)
include wf ofStream applied

theorem accepts_latest
    (body : record.isTerminal = false) (accepts : Accepts contentDigest read record)
    (ends : ∀ other ∈ landed, ¬ other.Unsettles record) :
    Accepts contentDigest latest record := by
  obtain ⟨_, same, holds⟩ := holds_of_applyRecords wf ofStream applied
  have recordStream : record.stream = read.identity := accepts.admissible.stream_eq
  constructor
  · cases closed : latest.terminal with
    | none => rfl
    | some =>
      have held := (holds _).mp (terminal_held closed)
      rcases held with before | landedTerminal
      · have stillOpen := accepts.isOpen
        rw [before.2] at stillOpen
        cases stillOpen
      · refine absurd (.inr ⟨?_, .inl ⟨rfl, body⟩⟩) (ends _ landedTerminal)
        exact (ofStream _ landedTerminal).trans recordStream.symm
  · rw [same]
    exact accepts.admissible
  · intro other held clash
    rcases (holds other).mp held with before | hasLanded
    · exact accepts.compatible other before clash
    · exact ends other hasLanded (.inl clash.symm)

theorem closes_latest (closes : read.Closes terminal)
    (ends : ∀ other ∈ landed, ¬ other.Unsettles (.terminal read.identity terminal)) :
    latest.Closes terminal := by
  obtain ⟨_, sameId, holds⟩ := holds_of_applyRecords wf ofStream applied
  cases closed : latest.terminal with
  | some =>
    left
    rw [closed]
    have held := (holds _).mp (terminal_held closed)
    rcases held with before | landedTerminal
    · rcases closes with already | ⟨isOpen, _⟩
      · exact before.2.symm.trans already
      · rw [before.2] at isOpen
        cases isOpen
    · by_contra ne
      refine ends _ landedTerminal (.inl ⟨?_, ?_, rfl⟩)
      · exact sameId
      · intro same
        exact ne (congrArg some (ReplayedLogRecord.terminal.inj same).2)
  | none =>
    right
    have wasOpen : read.terminal = none := by
      cases wasClosed : read.terminal with
      | none => rfl
      | some =>
        have held := (holds _).mpr (.inl (terminal_held wasClosed))
        exact held.2.symm.trans closed
    refine ⟨closed, ?_⟩
    intro exit clean
    subst clean
    -- Nothing landed: a body record would unsettle a clean end, and a
    -- terminal would have closed the stream.
    have nothing : landed = [] := by
      cases landed with
      | nil => rfl
      | cons head rest =>
        exfalso
        have mem : head ∈ head :: rest := .head _
        have headStream := ofStream head mem
        cases body : head.isTerminal with
        | false => exact ends head mem (.inr ⟨headStream, .inr ⟨body, rfl⟩⟩)
        | true =>
          obtain ⟨_, _, isTerminal⟩ := ReplayedLogRecord.isTerminal_eq_true_iff.mp body
          have held := (holds head).mpr (.inr mem)
          rw [isTerminal] at held
          cases closed.symm.trans held.2
    subst nothing
    cases applied
    rcases closes with already | ⟨_, whole⟩
    · rw [wasOpen] at already
      cases already
    · exact whole exit rfl

theorem applies_latest (recordStream : record.stream = read.identity)
    (took : read.applyRecord contentDigest record = (.ok (), next))
    (ends : ∀ other ∈ landed, ¬ other.Unsettles record) :
    ∃ now, latest.applyRecord contentDigest record = (.ok (), now) := by
  obtain ⟨latestWellFormed, _, _⟩ := holds_of_applyRecords wf ofStream applied
  cases body : record.isTerminal with
  | false =>
    obtain ⟨accepts, _⟩ := (applyRecord_body_spec wf body).of_ok took
    obtain ⟨_, now, appliedLatest, _⟩ := (applyRecord_body_spec latestWellFormed body).succeeds
      (accepts_latest wf ofStream applied body accepts ends)
    exact ⟨now, appliedLatest⟩
  | true =>
    obtain ⟨stream, terminal, isTerminal⟩ := ReplayedLogRecord.isTerminal_eq_true_iff.mp body
    subst isTerminal
    have named : stream = read.identity := recordStream
    subst named
    obtain ⟨closes, _⟩ := (applyRecord_terminal_spec wf read.identity terminal).of_ok took
    obtain ⟨_, now, appliedLatest, _⟩ :=
      (applyRecord_terminal_spec latestWellFormed read.identity terminal).succeeds
        (closes_latest wf ofStream applied closes ends)
    exact ⟨now, appliedLatest⟩

omit applied ofStream wf

end LogStreamState

end Tickr.LogStream

namespace Tickr.LogStaging

open LogStream JetStream

variable (codec : Codec)

def decoded (messages : List LogMessage) : List ReplayedLogRecord :=
  messages.filterMap fun message =>
    (decodeLogRecord codec.contentDigest message).toOption

structure Readable (messages : List LogMessage) : Prop where
  decodes : ∀ message ∈ messages, ∃ record, decodeLogRecord codec.contentDigest message = .ok record
  applies : ∀ stream, ∃ final,
    (LogStreamState.new stream).applyRecords codec.contentDigest
      (streamRecords stream (decoded codec messages)) = .ok final

variable {codec : Codec} {messages read landed : List LogMessage}

theorem decoded_append (left right : List LogMessage) :
    decoded codec (left ++ right) = decoded codec left ++ decoded codec right :=
  List.filterMap_append

variable {message : LogMessage}

theorem decoded_single (decodes : decodeLogRecord codec.contentDigest message = .ok record) :
    decoded codec [message] = [record] := by
  simp [decoded, decodes, Except.toOption]

theorem streamRecords_append (stream : LogStreamIdentity) (left right : List ReplayedLogRecord) :
    streamRecords stream (left ++ right) =
      streamRecords stream left ++ streamRecords stream right := List.filter_append ..

variable {stream : LogStreamIdentity}

theorem stream_of_mem_streamRecords (mem : record ∈ streamRecords stream records) :
    record ∈ records ∧ record.stream = stream := by
  simpa [streamRecords] using mem

theorem readable_nil : Readable codec [] := ⟨by simp, fun _ => ⟨_, rfl⟩⟩

theorem Readable.decodeAll_eq (readable : Readable codec (kept.map Stored.message)) :
    decodeAll codec kept = .ok (decoded codec (kept.map Stored.message)) := by
  have decodes := readable.decodes
  clear readable
  unfold decodeAll
  suffices all : kept.mapM (fun message =>
      decodeLogRecord codec.contentDigest message.message) =
        .ok (decoded codec (kept.map Stored.message)) by
    rw [all]
    rfl
  induction kept with
  | nil => rfl
  | cons head _ ih =>
    obtain ⟨_, headDecodes⟩ := decodes head.message (by simp)
    have restDecodes := ih fun message _ =>
      decodes message (by tauto)
    rw [List.mapM_cons, restDecodes]
    simp [decoded, headDecodes, Except.toOption, bind, Except.bind, pure, Except.pure]

theorem Readable.rebuild (readable : Readable codec messages) :
    ∃ streams,
      rebuildLogStreams codec.contentDigest (decoded codec messages) = .ok streams ∧
        ∀ stream,
          (LogStreamState.new stream).applyRecords codec.contentDigest
              (streamRecords stream (decoded codec messages)) =
            .ok (entryOrNew streams stream) :=
  foldlM_rebuildStep_ok (decoded codec messages) ∅ readable.applies

theorem holds_of_rebuilt
    (applied : (LogStreamState.new stream).applyRecords codec.contentDigest
      (streamRecords stream (decoded codec messages)) = .ok state) :
    state.WellFormed codec.contentDigest ∧ state.identity = stream ∧
      ∀ record, state.Holds record ↔ record ∈ decoded codec messages ∧ record.stream = stream := by
  obtain ⟨wf, identity, holds⟩ :=
    LogStreamState.holds_of_applyRecords (LogStreamState.wellFormed_new codec.contentDigest stream)
      (fun _ mem => (stream_of_mem_streamRecords mem).2) applied
  refine ⟨wf, identity, ?_⟩
  intro record
  rw [holds]
  constructor
  · intro held
    rcases held with heldByNew | mem
    · exact absurd heldByNew (LogStreamState.not_holds_new stream record)
    · exact stream_of_mem_streamRecords mem
  · intro mem
    exact .inr (List.mem_filter.mpr ⟨mem.1, decide_eq_true mem.2⟩)

theorem Readable.append (readable : Readable codec (read ++ landed))
    (decodes : decodeLogRecord codec.contentDigest message = .ok record) {next : LogStreamState}
    (wasRead : (LogStreamState.new record.stream).applyRecords
      codec.contentDigest (streamRecords record.stream (decoded codec read)) = .ok state)
    (took : state.applyRecord codec.contentDigest record = (.ok (), next))
    (ends : ∀ other ∈ decoded codec landed, ¬ other.Unsettles record) :
    Readable codec ((read ++ landed) ++ [message]) := by
  constructor
  · exact List.forall_mem_append.mpr
      ⟨readable.decodes, List.forall_mem_singleton.mpr ⟨record, decodes⟩⟩
  intro stream
  obtain ⟨latest, applies⟩ := readable.applies stream
  rw [decoded_append, decoded_single decodes, streamRecords_append,
    LogStreamState.applyRecords_append, applies]
  by_cases same : record.stream = stream
  · subst same
    obtain ⟨wf, identity, _⟩ := holds_of_rebuilt wasRead
    have appliesLanded : state.applyRecords codec.contentDigest
        (streamRecords record.stream (decoded codec landed)) = .ok latest := by
      rw [decoded_append, streamRecords_append,
        LogStreamState.applyRecords_append, wasRead] at applies
      exact applies
    obtain ⟨_, appliedLatest⟩ :=
      LogStreamState.applies_latest wf (fun _ mem => by
          rw [identity]
          exact (stream_of_mem_streamRecords mem).2)
        appliesLanded identity.symm took
        (fun other mem =>
          ends other (stream_of_mem_streamRecords mem).1)
    simp [streamRecords, Except.bind, LogStreamState.applyRecords, appliedLatest]
  · simp [streamRecords, Except.bind, LogStreamState.applyRecords, same]

end Tickr.LogStaging
