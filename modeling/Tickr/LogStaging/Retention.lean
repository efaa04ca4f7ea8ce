import Tickr.Crash
import Tickr.LogStaging.Runs

/-!
# Retries, seal digests and the purge of a Log subject

One client alone with the subject: what a repeated call is answered, what the
digest of a seal says of the sealed streams, and which messages the purge of a
sealed task deletes.
-/

namespace Tickr.LogStaging

open LogStream Concurrent JetStream Crash

def quiet : Device LogSubject LogOp SubjectOp.Reply := alone system (.answered true)

/-- The record is a terminal, or nothing closed its stream. -/
def Unclosed (codec : Codec) (subject : LogSubject) (record : ReplayedLogRecord) : Prop :=
  record.isTerminal = true ∨
    ∀ terminal, .terminal record.stream terminal ∉ decoded codec subject.messages

/-- The written message decodes to the record, and the call that wrote it is
answered this way while the message is stored. -/
def Repeats {α : Type} (codec : Codec) (subject : LogSubject) (message : LogMessage)
    (record : ReplayedLogRecord) (call : LogM α) (answer : α) : Prop :=
  decodeLogRecord codec.contentDigest message = .ok record ∧
    (message ∈ subject.messages → Unclosed codec subject record →
      (run quiet call.run subject).1 = .ok answer)

variable {codec : Codec} {subject : LogSubject} {message : LogMessage}
  {record : ReplayedLogRecord}

theorem mem_decoded : record ∈ decoded codec messages ↔
    ∃ message ∈ messages, decodeLogRecord codec.contentDigest message = .ok record := by
  rw [decoded, List.mem_filterMap]
  refine exists_congr fun message => and_congr_right fun _ => ?_
  cases decodeLogRecord codec.contentDigest message <;> simp [Except.toOption]

theorem answers_of_held {α : Type} {answer : Except LogStagingError α}
    {rest : LogStreamState → LogM α} (readable : Readable codec subject.messages)
    (decodes : decodeLogRecord codec.contentDigest message = .ok record)
    (mem : message ∈ subject.messages) (isOpen : Unclosed codec subject record)
    (answers : ∀ state, state.WellFormed codec.contentDigest → state.identity = record.stream →
      state.Holds record → (record.isTerminal = true ∨ state.terminal = none) →
      (run quiet (rest state).run (subject.readBy 0)).1 = answer) :
    (run quiet (reload codec record.stream >>= rest).run subject).1 = answer := by
  obtain ⟨state, built⟩ := readable.applies record.stream
  obtain ⟨wf, identity, holds⟩ := holds_of_rebuilt built
  have stored : record ∈ decoded codec subject.messages := mem_decoded.mpr ⟨message, mem, decodes⟩
  have stillOpen : record.isTerminal = true ∨ state.terminal = none := by
    refine isOpen.imp_right fun absent => ?_
    cases closed : state.terminal with
    | none => rfl
    | some terminal =>
      have held := (holds _).mp (LogStreamState.terminal_held closed)
      rw [identity] at held
      exact absurd held.1 (absent terminal)
  have reloaded : run quiet (reload codec record.stream).run subject =
      (.ok state, subject.readBy 0) := by
    have all : run quiet (readAllNatsRecords codec).run subject =
        (.ok (decoded codec subject.messages), subject.readBy 0) :=
      congrArg (·, subject.readBy 0) readable.decodeAll_eq
    rw [reload, run_andThen all, built]
    rfl
  rw [run_andThen reloaded]
  exact answers state wf identity ((holds record).mpr ⟨stored, rfl⟩) stillOpen

def sampleSubmission (generation : UInt64) : LogRecordSubmission :=
  ⟨⟨⟨0, generation⟩, 0⟩, "", [1]⟩

theorem readable_single {next : LogStreamState}
    (decodes : decodeLogRecord codec.contentDigest message = .ok record)
    (applies : (LogStreamState.new record.stream).applyRecord codec.contentDigest record =
      (.ok (), next)) : Readable codec [message] :=
  @Readable.append codec [] [] _ _ _ readable_nil decodes _ rfl applies nofun

/-- What the purge has read: the terminals, and the sequence numbers of the
other messages. -/
abbrev PurgeScan := Rust.BTreeMap LogStreamIdentity LogTerminal × List Nat

variable (codec : Codec)

def purgeStep (scan : PurgeScan) (stored : Stored MessageId LogMessage) :
    Except LogStagingError PurgeScan :=
  match decodeLogRecord codec.contentDigest stored.message with
  | .error reason => .error (.undecodable reason)
  | .ok (.terminal stream terminal) =>
    if stream ∈ scan.1 then
      .error (.refused "sealed Log staging contains duplicate terminal records")
    else .ok (scan.1.insert stream terminal, scan.2)
  | .ok _ => .ok (scan.1, scan.2 ++ [stored.sequence])

def deleteMessages : List Nat → LogM Unit
  | [] => return ()
  | sequence :: rest => do
      Program.request (.deleteMessage sequence) (inContext "purge Accepted Log or gap")
      deleteMessages rest

/-- `fences` are the terminal fences of the seal. -/
def purgeSealedTaskLogs (fences : List (LogStreamIdentity × LogTerminal)) : LogM Unit := do
  Program.request .getStream (inContext "open Log staging stream for sealed purge")
  let stored ← readAll "fetch sealed Log purge records"
  let scan ← Program.check (stored.foldlM (purgeStep codec) (∅, []))
  if scan.1 ≠ Std.ExtTreeMap.ofList fences then
    throw (.refused "retained Log terminal fences do not match immutable seal")
  else deleteMessages scan.2

variable {codec : Codec} {read items : List (Stored MessageId LogMessage)}
  {stored : Stored MessageId LogMessage} {scan next : PurgeScan}

/-- The scan deletes no terminal of what it has read, and keeps each. -/
structure Scanned (codec : Codec) (read : List (Stored MessageId LogMessage))
    (scan : PurgeScan) : Prop where
  deletes : ∀ sequence ∈ scan.2, ∃ stored ∈ read, stored.sequence = sequence ∧
    ∃ record, decodeLogRecord codec.contentDigest stored.message = .ok record ∧
      record.isTerminal = false
  retains : ∀ stored ∈ read, ∀ stream terminal,
    decodeLogRecord codec.contentDigest stored.message = .ok (.terminal stream terminal) →
      stream ∈ scan.1

theorem Scanned.step (scanned : Scanned codec read scan)
    (stepped : purgeStep codec scan stored = .ok next) :
    Scanned codec (read ++ [stored]) next := by
  have deletes := scanned.deletes
  have retains := scanned.retains
  rw [purgeStep.eq_def] at stepped
  split at stepped
  · cases stepped
  · split at stepped
    · cases stepped
    · constructor <;> grind
  · constructor <;> grind [ReplayedLogRecord.isTerminal]

theorem Scanned.run (scanned : Scanned codec read scan)
    (ran : items.foldlM (purgeStep codec) scan = .ok next) : Scanned codec (read ++ items) next := by
  induction items generalizing read scan with
  | nil =>
    cases ran
    rwa [List.append_nil]
  | cons _ _ ih =>
    obtain ⟨_, stepped, ran⟩ := Rust.bind_eq_ok ran
    have later := ih (scanned.step stepped) ran
    rwa [List.append_assoc] at later

/-- Only messages with the listed sequence numbers are deleted. -/
theorem deleted_of_gone {sequences : List Nat} (mem : stored ∈ subject.stored)
    (gone : stored ∉ (Crash.run quiet (deleteMessages sequences).run subject).2.stored) :
    stored.sequence ∈ sequences := by
  induction sequences generalizing subject with
  | nil => exact absurd mem gone
  | cons sequence rest ih =>
    by_cases same : stored.sequence = sequence
    · exact List.mem_cons.mpr (.inl same)
    have kept : stored ∈ (quiet.perform (.deleteMessage sequence) subject).2.stored := by
      simp only [quiet, alone, system, perform, answer]
      split
      · exact List.mem_filter.mpr ⟨mem, by simpa using same⟩
      · exact mem
    change stored ∉ (Crash.run quiet (ExceptT.bindCont (fun _ => deleteMessages rest)
      (inContext _ (quiet.perform (.deleteMessage sequence) subject).1)) _).2.stored at gone
    cases answered : (quiet.perform (.deleteMessage sequence) subject).1 with
    | error =>
      rw [answered] at gone
      exact absurd kept gone
    | ok =>
      rw [answered] at gone
      exact .tail _ (ih kept gone)

/-- The first generation is closed; the record is of the given one. -/
def sampleSubject (generation : UInt64) : LogSubject :=
  (Subject.empty.append (.record ⟨0, generation⟩ 0)
    (acceptedMessage ⟨0, generation⟩ (sampleSubmission generation) none)).append
      (.terminal ⟨0, 1⟩) (abnormalMessage ⟨0, 1⟩ none)

end Tickr.LogStaging
