import Tickr.LogStaging.Readable

/-!
# Runs of writers and sealers

The subject stays readable in every run in which nothing unsettling lands between
a client's read and its publish.  A sealer that closes a stream which a writer
has read as open makes it unreadable.
-/

namespace Tickr.LogStaging

open LogStream Concurrent JetStream
open Concurrent.Discipline
open SafeExcept (andThen)

variable {record : ReplayedLogRecord} {state : LogStreamState} {context : String}

def messageIdOf : ReplayedLogRecord → MessageId
  | .accepted identity _ _ => .record identity.stream identity.sequence
  | .preAcceptanceGap gap => .gap gap.stream gap.firstSequence gap.lastSequence
  | .terminal stream _ => .terminal stream

variable (codec : Codec)

/-- What a client may do in one step. -/
inductive LogStep (peer : Nat) (before : LogSubject) : LogSubject → Prop
  | idle : LogStep peer before before
  | read : LogStep peer before (before.readBy peer)
  | publish {message : LogMessage} {record : ReplayedLogRecord}
      (decodes : decodeLogRecord codec.contentDigest message = .ok record)
      (readable : Readable codec (before.messages ++ [message])) :
      LogStep peer before (before.append (messageIdOf record) message)

/-- The subject is readable, and an id was seen only with a record of that id
stored. -/
structure Staged (subject : LogSubject) : Prop where
  readable : Readable codec subject.messages
  ids : ∀ id ∈ subject.seenIds, ∃ record ∈ decoded codec subject.messages, messageIdOf record = id

/-- The condition on a run: nothing that landed since the client's last read
unsettles the record it publishes. -/
def Undisturbed (peer : Nat) (op : LogOp) (subject : LogSubject) : Prop :=
  match op with
  | .publish _ message =>
    ∀ record ∈ decoded codec [message],
      ∀ landed ∈ decoded codec (subject.landed peer), ¬ landed.Unsettles record
  | _ => True

instance (peer : Nat) (op : LogOp) (subject : LogSubject) :
    Decidable (Undisturbed codec peer op subject) := by
  unfold Undisturbed
  split <;> infer_instance

section Knowledge

variable {codec : Codec} {peer : Nat} {before after subject : LogSubject}

theorem Staged.step (staged : Staged codec before)
    (step : LogStep codec peer before after) : Staged codec after := by
  cases step with
  | idle => exact staged
  | read => exact ⟨staged.readable, staged.ids⟩
  | @publish _ record decodes readable =>
    constructor
    · rw [messages_append]
      exact readable
    · intro id seen
      rw [messages_append, decoded_append, decoded_single decodes]
      rcases List.mem_cons.mp seen with new | wasSeen
      · exact ⟨record, by simp, new.symm⟩
      · obtain ⟨other, mem, named⟩ := staged.ids id wasSeen
        exact ⟨other, List.mem_append_left _ mem, named⟩

/-- What the clients of the subject promise each other. -/
def logDiscipline (codec : Codec) : Discipline LogSubject LogOp where
  guarantee := LogStep codec
  invariant := Staged codec
  condition := Undisturbed codec
  keeps := fun _ _ _ step staged => staged.step step

theorem decoded_mono (step : LogStep codec peer before after)
    (mem : record ∈ decoded codec before.messages) :
    record ∈ decoded codec after.messages := by
  cases step with
  | idle => exact mem
  | read => exact mem
  | publish =>
    rw [messages_append, decoded_append]
    exact List.mem_append_left _ mem

theorem decoded_of_evolves (evolves : (logDiscipline codec).Evolves before after)
    (mem : record ∈ decoded codec before.messages) :
    record ∈ decoded codec after.messages :=
  evolves.keeps mem fun _ _ _ promised => decoded_mono promised

/-- The client's last read, and that the rest of the subject landed since. -/
def Since (peer : Nat) (read : List LogMessage) (subject : LogSubject) :
    Prop := subject.messages = read ++ subject.landed peer

variable {read : List LogMessage}

theorem Since.append (since : Since peer read subject) (id : MessageId) (message : LogMessage) :
    Since peer read (subject.append id message) := by
  unfold Since at since ⊢
  rw [messages_append, since, List.append_assoc]
  rfl

theorem Since.rely (since : Since peer read before)
    (rely : (logDiscipline codec).Rely peer before after) :
    Since peer read after := by
  induction rely with
  | refl => exact since
  | tail _ step ih =>
    obtain ⟨_, ne, promised⟩ := step
    cases promised with
    | idle => exact ih
    | read =>
      unfold Since
      rw [landed_readBy_other (Ne.symm ne)]
      exact ih
    | publish => exact ih.append _ _

/-- The state is the client's copy of a stream, from its last read. -/
def CopyOf (codec : Codec) (peer : Nat) (identity : LogStreamIdentity)
    (state : LogStreamState) (subject : LogSubject) : Prop :=
  ∃ read, Since peer read subject ∧
    (LogStreamState.new identity).applyRecords codec.contentDigest
      (streamRecords identity (decoded codec read)) = .ok state

variable {identity : LogStreamIdentity} {next : LogStreamState}

theorem CopyOf.rely (copy : CopyOf codec peer identity state before)
    (rely : (logDiscipline codec).Rely peer before after) :
    CopyOf codec peer identity state after := by
  obtain ⟨read, since, ran⟩ := copy
  exact ⟨read, since.rely rely, ran⟩

variable (copy : CopyOf codec peer identity state subject)
include copy

theorem CopyOf.identity_eq : state.identity = identity := by
  obtain ⟨_, _, ran⟩ := copy
  exact (holds_of_rebuilt ran).2.1

theorem CopyOf.wellFormed : state.WellFormed codec.contentDigest := by
  obtain ⟨_, _, ran⟩ := copy
  exact (holds_of_rebuilt ran).1

theorem CopyOf.stored (held : state.Holds record) : record ∈ decoded codec subject.messages := by
  obtain ⟨_, since, ran⟩ := copy
  have mem := (((holds_of_rebuilt ran).2.2 record).mp held).1
  rw [since, decoded_append]
  exact List.mem_append_left _ mem

omit copy

variable {other : ReplayedLogRecord}

theorem eq_of_messageId
    (same : messageIdOf other = messageIdOf record) (compatible : ¬ other.Conflicts record)
    (admissible : record.Admissible codec.contentDigest identity) :
    other = record := by
  by_contra ne
  apply compatible
  cases other with
  | accepted =>
    cases record with
    | accepted =>
      obtain ⟨sameStream, sequence⟩ := MessageId.record.inj same
      refine ⟨sameStream, ne, ?_⟩
      simp [ReplayedLogRecord.span, ReplayedLogRecord.spansMeet, sequence]
    | preAcceptanceGap | terminal => cases same
  | preAcceptanceGap =>
    cases record with
    | accepted | terminal => cases same
    | preAcceptanceGap =>
      obtain ⟨sameStream, first, last⟩ := MessageId.gap.inj same
      refine ⟨sameStream, ne, ?_⟩
      simp [ReplayedLogRecord.span, ReplayedLogRecord.spansMeet, first,
        last, admissible.2.1]
  | terminal =>
    cases record with
    | accepted | preAcceptanceGap => cases same
    | terminal => exact ⟨MessageId.terminal.inj same, ne, rfl⟩

end Knowledge

/-- A fallible program of a client of the subject is safe. -/
abbrev SafeLog (codec : Codec) (peer : Nat) {α : Type}
    (post : α → LogSubject → Prop) (faults : LogStagingError → Prop)
    (program : LogM α) (subject : LogSubject) : Prop :=
  SafeExcept system (logDiscipline codec) peer post faults program subject

variable {codec : Codec} {peer : Nat} {subject : LogSubject} {faults : LogStagingError → Prop}
  {α : Type}

theorem inContext_eq_ok (answered : inContext context reply = .ok value) : reply = .ok value := by
  cases reply with
  | ok =>
    cases answered
    rfl
  | error => cases answered

variable (streamFails : ∀ context error, faults (.stream context error))
include streamFails

theorem fault_of_inContext (failed : inContext context reply = .error fault) : faults fault := by
  cases reply with
  | ok => cases failed
  | error error =>
    cases failed
    exact streamFails context error

theorem readAll_safe (context : String) :
    SafeLog codec peer (fun stored later =>
        Since peer (stored.map Stored.message) later ∧ Readable codec (stored.map Stored.message))
      faults (readAll context) subject := by
  refine .request ?_ ?_
  · intro before _ staged _ choice
    rw [system_perform]
    rcases @perform_readAll _ _ _ peer choice before with ⟨unchanged, fails⟩ | ⟨isRead, shows⟩
    · rw [unchanged]
      refine ⟨.idle, ?_⟩
      intro found answered
      exact absurd (inContext_eq_ok answered) (fails found)
    rw [isRead]
    refine ⟨.read, ?_⟩
    intro found answered _ onward _
    rw [shows found (inContext_eq_ok answered)]
    refine ⟨.rely ?_ onward, staged.readable⟩
    unfold Since
    rw [landed_readBy, List.append_nil]
    rfl
  · intro _ _ failed
    exact fault_of_inContext streamFails failed

variable {next : LogStreamState}

theorem publish_safe (copy : CopyOf codec peer record.stream state subject)
    (decodes : decodeLogRecord codec.contentDigest message = .ok record)
    (accepted : state.applyRecord codec.contentDigest record = (.ok (), next)) :
    SafeLog codec peer (fun _ later =>
        record ∈ decoded codec later.messages ∧
          ∀ identity other, CopyOf codec peer identity other subject →
            CopyOf codec peer identity other later)
      faults (publish context (messageIdOf record) message) subject := by
  refine .request ?_ ?_
  · intro before rely staged undisturbed choice
    obtain ⟨_, since, applied⟩ := copy.rely rely
    have settled := undisturbed record (by rw [decoded_single decodes]; simp)
    rw [system_perform]
    rcases @perform_publish _ _ _ peer choice before (messageIdOf record)
        message with appended | ⟨unchanged, seen⟩
    · have readable : Readable codec (before.messages ++ [message]) := by
        have prior := staged.readable
        rw [since] at prior ⊢
        exact prior.append decodes applied accepted settled
      rw [appended]
      refine ⟨LogStep.publish decodes readable, ?_⟩
      intro _ _ _ onward _
      refine ⟨decoded_of_evolves onward.evolves ?_, ?_⟩
      · rw [messages_append, decoded_append, decoded_single decodes]
        exact List.mem_append_right _ (.head _)
      · intro _ _ otherCopy
        obtain ⟨otherRead, otherSince, otherApplied⟩ := otherCopy.rely rely
        exact ⟨otherRead, (otherSince.append _ _).rely onward, otherApplied⟩
    · rw [unchanged]
      refine ⟨LogStep.idle, ?_⟩
      intro _ answered _ onward _
      refine ⟨decoded_of_evolves onward.evolves ?_, ?_⟩
      · -- The message was dropped: a record of its id is stored already.
        obtain ⟨other, mem, sameId⟩ := staged.ids _ (seen (inContext_eq_ok answered))
        obtain ⟨nextWellFormed, _, holds⟩ :=
          LogStreamState.holds_of_applied copy.wellFormed copy.identity_eq.symm accepted
        have held := (holds record).mpr (.inr rfl)
        have sameStream : other.stream = record.stream := by
          cases other <;> cases record <;> simp_all [messageIdOf, ReplayedLogRecord.stream]
        have compatible : ¬ other.Conflicts record := by
          rw [since, decoded_append] at mem
          rcases List.mem_append.mp mem with wasRead | landed
          · have otherHeld := ((holds_of_rebuilt applied).2.2 other).mpr ⟨wasRead, sameStream⟩
            exact nextWellFormed.compatible other record
              ((holds other).mpr (.inl otherHeld)) held
          · intro conflict
            exact settled other landed (.inl conflict)
        have same := eq_of_messageId sameId compatible (nextWellFormed.admissible record held)
        rw [← same]
        exact mem
      · intro _ _ otherCopy
        exact (otherCopy.rely rely).rely onward
  · intro _ _ failed
    exact fault_of_inContext streamFails failed

omit streamFails

variable {identity : LogStreamIdentity}

/-- The records are all those the client's last read showed. -/
def ReadRecords (codec : Codec) (peer : Nat)
    (records : List ReplayedLogRecord) (subject : LogSubject) : Prop :=
  ∃ read, Since peer read subject ∧ Readable codec read ∧ records = decoded codec read

theorem decodeAll_safe (since : Since peer (kept.map Stored.message) subject)
    (readable : Readable codec (kept.map Stored.message)) :
    SafeLog codec peer (ReadRecords codec peer) faults
      (Program.check (decodeAll codec kept)) subject := by
  rw [readable.decodeAll_eq]
  refine .check ?_ ?_
  · intro _ decoded _ rely _
    cases decoded
    exact ⟨_, since.rely rely, readable, rfl⟩
  · intro _ failed
    cases failed

theorem readAllNatsRecords_safe (streamFails : ∀ context error, faults (.stream context error)) :
    SafeLog codec peer (ReadRecords codec peer) faults (readAllNatsRecords codec) subject := by
  apply andThen (readAll_safe streamFails _)
  intro _ _ _ seen
  exact decodeAll_safe seen.1 seen.2

theorem reload_safe (streamFails : ∀ context error, faults (.stream context error)) :
    SafeLog codec peer (fun state later => CopyOf codec peer identity state later)
      faults (reload codec identity) subject := by
  apply andThen (readAllNatsRecords_safe streamFails)
  intro _ _ _ seen
  obtain ⟨read, since, readable, decoded⟩ := seen
  obtain ⟨_, ran⟩ := readable.applies identity
  rw [decoded, ran]
  refine .check ?_ ?_
  · intro _ isFinal _ rely _
    cases isFinal
    exact ⟨read, since.rely rely, ran⟩
  · intro _ failed
    cases failed

def StoredFor (codec : Codec) (record : ReplayedLogRecord) {α : Type}
    (_ : α) (subject : LogSubject) : Prop := record ∈ decoded codec subject.messages

theorem pure_stored (kept : record ∈ decoded codec subject.messages) :
    SafeLog codec peer (StoredFor codec record) faults (pure value) subject := by
  refine .pure ?_
  intro _ rely _
  exact decoded_of_evolves rely.evolves kept

variable (copy : CopyOf codec peer identity state subject)
include copy

theorem admissible_of_applied (body : record.isTerminal = false)
    (ran : state.applyRecord codec.contentDigest record =
      (.ok (), next)) : record.Admissible codec.contentDigest identity := by
  obtain ⟨accepts, _⟩ := (LogStreamState.applyRecord_body_spec copy.wellFormed body).of_ok ran
  rw [← copy.identity_eq]
  exact accepts.admissible

/-- A record found on the client's copy is stored. -/
theorem stored_of_applied_self (ofStream : record.stream = identity)
    (ran : state.applyRecord codec.contentDigest record =
      (.ok (), state)) : record ∈ decoded codec subject.messages := by
  obtain ⟨_, _, holds⟩ := LogStreamState.holds_of_applied copy.wellFormed
    (ofStream.trans copy.identity_eq.symm) ran
  exact copy.stored ((holds record).mpr (.inr rfl))

omit copy

theorem accept_safe (item : LogRecordSubmission) :
    SafeLog codec peer (StoredFor codec item.record) (fun _ => True)
      (accept codec identity item) subject := by
  apply andThen (reload_safe fun _ _ => trivial)
  intro state _ _ copy
  split
  · exact .throw trivial
  · rename_i next ran
    have still := LogStreamState.applyAccepted_already ran
    subst still
    have applies : next.applyRecord codec.contentDigest
        item.record = (.ok (), next) := by
      rw [LogRecordSubmission.record, LogStreamState.applyRecord, ran]
      rfl
    have fits := admissible_of_applied copy rfl applies
    exact pure_stored (stored_of_applied_self copy fits.stream_eq applies)
  · rename_i prospective ran
    have applies : state.applyRecord codec.contentDigest
        item.record = (.ok (), prospective) := by
      rw [LogRecordSubmission.record, LogStreamState.applyRecord, ran]
      rfl
    have fits := admissible_of_applied copy rfl applies
    have ofStream : item.record.stream = identity := fits.stream_eq
    rw [← ofStream] at copy
    apply andThen (publish_safe (fun _ _ => trivial) copy
      (decode_acceptedMessage fits.1 fits.2 _) applies)
    intro _ _ _ shown
    apply andThen (reload_safe fun _ _ => trivial)
    intro _ _ evolves _
    have kept := decoded_of_evolves evolves shown.1
    split
    · exact .throw trivial
    · exact pure_stored kept

theorem declareGap_safe (gap : PreAcceptanceGap) :
    SafeLog codec peer (StoredFor codec (.preAcceptanceGap gap))
      (fun _ => True) (declarePreAcceptanceGap codec identity gap)
      subject := by
  apply andThen (reload_safe fun _ _ => trivial)
  intro state _ _ copy
  split
  · exact .throw trivial
  · rename_i next ran
    have still := LogStreamState.applyGap_already ran
    subst still
    have applies : next.applyRecord codec.contentDigest
        (.preAcceptanceGap gap) = (.ok (), next) := by
      rw [LogStreamState.applyRecord, ran]
      rfl
    have fits := admissible_of_applied copy rfl applies
    exact pure_stored (stored_of_applied_self copy fits.stream_eq applies)
  · rename_i prospective ran
    have applies : state.applyRecord codec.contentDigest
        (.preAcceptanceGap gap) = (.ok (), prospective) := by
      rw [LogStreamState.applyRecord, ran]
      rfl
    have fits := admissible_of_applied copy rfl applies
    have ofStream := fits.stream_eq
    rw [← ofStream] at copy
    apply andThen (publish_safe (fun _ _ => trivial) copy
      (decode_gapMessage fits.1 _) applies)
    intro _ _ _ shown
    apply andThen (reload_safe fun _ _ => trivial)
    intro _ _ evolves _
    have kept := decoded_of_evolves evolves shown.1
    split
    · exact .throw trivial
    · exact pure_stored kept

include copy in
/-- A terminal found on the client's copy is stored. -/
theorem stored_of_terminal (closed : state.terminal = some terminal) :
    .terminal identity terminal ∈ decoded codec subject.messages := by
  have held := LogStreamState.terminal_held closed
  rw [copy.identity_eq] at held
  exact copy.stored held

theorem finishCleanly_safe (exit : LogExit) :
    SafeLog codec peer (fun _ later =>
        .terminal identity (.endOfStream exit) ∈ decoded codec later.messages ∨
          .terminal identity (.endOfStream (stagedExit exit)) ∈ decoded codec later.messages)
      (fun _ => True) (finishCleanly codec identity exit) subject := by
  apply andThen (reload_safe fun _ _ => trivial)
  intro _ _ _ copy
  split
  · exact .throw trivial
  · rename_i next ran
    have kept := stored_of_terminal copy (LogStreamState.applyTerminal_already ran)
    exact (pure_stored kept).weaken fun _ _ _ => .inl
  rename_i prospective ran
  obtain ⟨isOpen, whole⟩ := LogStreamState.applyTerminal_recorded ran
  apply andThen
    (publish_safe (fun _ _ => trivial) copy (decode_endMessage exit _)
      (LogStreamState.applyRecord_terminal_of_open identity isOpen
        fun _ _ => whole exit rfl))
  intro _ _ _ shown
  apply andThen (reload_safe fun _ _ => trivial)
  intro _ _ evolves _
  have kept := decoded_of_evolves evolves shown.1
  exact (pure_stored kept).weaken fun _ _ _ => .inr

theorem recoverAbnormalClosure_safe :
    SafeLog codec peer
      (fun _ later => ∃ terminal, .terminal identity terminal ∈ decoded codec later.messages)
      (fun _ => True) (recoverAbnormalClosure codec identity) subject := by
  apply andThen (reload_safe fun _ _ => trivial)
  intro _ _ _ copy
  split
  · rename_i isClosed
    obtain ⟨terminal, closed⟩ := Option.isSome_iff_exists.mp isClosed
    exact (pure_stored (stored_of_terminal copy closed)).weaken
      fun _ _ _ kept => ⟨terminal, kept⟩
  split
  · exact .throw trivial
  · rename_i next ran
    have kept := stored_of_terminal copy (LogStreamState.applyTerminal_already ran)
    exact (pure_stored kept).weaken fun _ _ _ kept => ⟨_, kept⟩
  rename_i prospective ran
  obtain ⟨isOpen, _⟩ := LogStreamState.applyTerminal_recorded ran
  apply andThen
    (publish_safe (fun _ _ => trivial) copy (decode_abnormalMessage _)
      (LogStreamState.applyRecord_terminal_of_open identity isOpen (by simp)))
  intro _ _ _ shown
  apply andThen (reload_safe fun _ _ => trivial)
  intro _ _ evolves _
  have kept := decoded_of_evolves evolves shown.1
  exact (pure_stored kept).weaken fun _ _ _ kept => ⟨_, kept⟩

/-- How sealing may fail: by a failed stream operation, or because a stream
was opened while the others were being closed. -/
def SealFault (fault : LogStagingError) : Prop :=
  (∃ context error, fault = .stream context error) ∨
    fault = .refused "abnormal Log terminal did not become replayable"

theorem sealFault_stream (context : String) (error : StreamError) :
    SealFault (.stream context error) := .inl ⟨context, error, rfl⟩

def CopiesOf (codec : Codec) (peer : Nat) (streams : LogStreams) (subject : LogSubject) : Prop :=
  ∀ identity, CopyOf codec peer identity (entryOrNew streams identity) subject

theorem rebuildSubject_safe :
    SafeLog codec peer (CopiesOf codec peer) SealFault (rebuildSubject codec) subject := by
  apply andThen (readAll_safe sealFault_stream _)
  intro _ _ _ seen
  apply andThen (decodeAll_safe seen.1 seen.2)
  intro _ _ _ shown
  obtain ⟨read, since, readable, decoded⟩ := shown
  obtain ⟨_, built, ran⟩ := readable.rebuild
  rw [decoded, built]
  refine .check ?_ ?_
  · intro _ isRebuilt _ rely _
    cases isRebuilt
    intro identity
    exact ⟨read, since.rely rely, ran identity⟩
  · intro _ failed
    cases failed

variable {streams : LogStreams}

theorem open_of_mem_openStreams (copies : CopiesOf codec peer streams subject)
    (mem : pair ∈ openStreams streams) :
    (entryOrNew streams pair.1).terminal = none := by
  obtain ⟨state, isOpen, isPair⟩ := List.mem_map.mp mem
  obtain ⟨value, noTerminal⟩ := List.mem_filter.mp isOpen
  obtain ⟨key, found⟩ := Rust.mem_values_iff.mp value
  have entry : entryOrNew streams key = state := by
    rw [entryOrNew, found]
    rfl
  have same := (copies key).identity_eq
  rw [entry] at same
  rw [← isPair, same, entry]
  simpa using noTerminal

theorem closeStreams_safe (copies : ∀ pair ∈ pairs, ∃ state,
      CopyOf codec peer pair.1 state subject ∧ state.terminal = none) :
    SafeLog codec peer Any SealFault (closeStreams pairs) subject := by
  induction pairs generalizing subject with
  | nil => exact .done
  | cons pair _ ih =>
    obtain ⟨_, copy, isOpen⟩ := copies pair (.head _)
    apply andThen
      (publish_safe sealFault_stream copy (decode_abnormalMessage pair.2)
        (LogStreamState.applyRecord_terminal_of_open pair.1 isOpen (by simp)))
    intro _ _ _ shown
    apply ih
    intro other mem
    obtain ⟨otherState, otherCopy, otherOpen⟩ := copies other (.tail pair mem)
    exact ⟨otherState, shown.2 _ _ otherCopy, otherOpen⟩

theorem sealStreams_eq_ok (taskInstanceId : Uuid) (closed : (openStreams streams).isEmpty = true) :
    ∃ result, sealStreams codec taskInstanceId streams = .ok result := by
  have allClosed : ∀ state ∈ Rust.values streams, ∃ terminal, state.terminal = some terminal := by
    intro state mem
    cases isOpen : state.terminal with
    | some terminal => exact ⟨terminal, rfl⟩
    | none =>
      have listed : (state.identity, state.committedFrontier) ∈ openStreams streams :=
        List.mem_map.mpr ⟨state, List.mem_filter.mpr ⟨mem, by simp [isOpen]⟩, rfl⟩
      rw [List.isEmpty_iff.mp closed] at listed
      cases listed
  have seals : ∀ states : List LogStreamState,
      (∀ state ∈ states, ∃ terminal, state.terminal = some terminal) →
        ∃ sealed, states.mapM sealedStream = .ok sealed := by
    intro states
    induction states with
    | nil => exact fun _ => ⟨[], rfl⟩
    | cons state _ ih =>
      intro eachClosed
      obtain ⟨_, isClosed⟩ := eachClosed state (.head _)
      obtain ⟨_, sealedRest⟩ := ih
        fun other mem => eachClosed other (.tail _ mem)
      rw [List.mapM_cons, sealedStream, isClosed, sealedRest]
      exact ⟨_, rfl⟩
  unfold sealStreams
  split
  · exact ⟨_, rfl⟩
  · obtain ⟨_, sealedAll⟩ := seals _ allClosed
    rw [sealedAll]
    exact ⟨_, rfl⟩

theorem sealStreams_safe (taskInstanceId : Uuid) (closed : (openStreams streams).isEmpty = true) :
    SafeLog codec peer Any SealFault
      (Program.check (sealStreams codec taskInstanceId streams)) subject := by
  obtain ⟨_, isSealed⟩ := @sealStreams_eq_ok codec _ taskInstanceId closed
  rw [isSealed]
  apply SafeExcept.check (fun _ _ _ _ _ => trivial)
  intro _ failed
  cases failed

theorem sealTaskLogs_safe (taskInstanceId : Uuid) :
    SafeLog codec peer Any SealFault (sealTaskLogs codec taskInstanceId) subject := by
  have opens : SafeLog codec peer Any (fun _ => True)
      (.request .getStream (inContext "open Log staging stream"))
      subject := by
    apply SafeTry.request
    intro _ _ _ _ choice
    refine ⟨?_, fun _ _ _ _ _ => trivial⟩
    cases choice <;> exact .idle
  apply andThen (.attempt opens)
  intro opened _ _ _
  cases opened with
  | error => exact .done
  | ok =>
    apply andThen rebuildSubject_safe
    intro _ _ _ copies
    split
    · next closed => exact sealStreams_safe taskInstanceId closed
    refine andThen (closeStreams_safe ?_) ?_
    · intro pair mem
      exact ⟨_, copies pair.1, open_of_mem_openStreams copies mem⟩
    · intro _ _ _ _
      apply andThen rebuildSubject_safe
      intro _ _ _ _
      split
      · next closed => exact sealStreams_safe taskInstanceId closed
      · exact .throw (.inr rfl)

/-- The records whose storage a successful call reports. -/
def LogCall.Acknowledges : LogCall → ReplayedLogRecord → Prop
  | .accept _ submission, record => record = submission.record
  | .declareGap _ gap, record => record = .preAcceptanceGap gap
  | .finishCleanly identity exit, record =>
    record = .terminal identity (.endOfStream exit) ∨
      record = .terminal identity (.endOfStream (stagedExit exit))
  | .recoverAbnormal identity, record => ∃ terminal, record = .terminal identity terminal
  | .sealTask _, _ => False

/-- The subject and its clients before the first step. -/
def logWorld (codec : Codec) (calls : Nat → LogCall) :
    World LogSubject LogOp SubjectOp.Reply (Except LogStagingError LogAnswer) :=
  { state := Subject.empty
    clients := fun peer => ((calls peer).program codec).run }

theorem logCall_safe (call : LogCall) :
    SafeLog codec peer
      (fun answer later => answer = .acknowledged →
        ∃ record, call.Acknowledges record ∧ record ∈ decoded codec later.messages)
      (fun fault => ∀ task, call = .sealTask task → SealFault fault)
      (call.program codec) subject := by
  cases call with
  | accept _ item =>
    apply andThen ((accept_safe item).allow fun _ _ _ other => nomatch other)
    intro _ _ _ held
    exact (pure_stored held).weaken fun _ _ _ kept _ => ⟨_, rfl, kept⟩
  | declareGap _ gap =>
    apply andThen ((declareGap_safe gap).allow fun _ _ _ other => nomatch other)
    intro _ _ _ held
    exact (pure_stored held).weaken fun _ _ _ kept _ => ⟨_, rfl, kept⟩
  | finishCleanly _ exit =>
    apply andThen ((finishCleanly_safe exit).allow fun _ _ _ other => nomatch other)
    intro _ _ _ held
    rcases held with held | held
    · exact (pure_stored held).weaken fun _ _ _ kept _ => ⟨_, .inl rfl, kept⟩
    · exact (pure_stored held).weaken fun _ _ _ kept _ => ⟨_, .inr rfl, kept⟩
  | recoverAbnormal =>
    apply andThen
      (recoverAbnormalClosure_safe.allow fun _ _ _ other => nomatch other)
    intro _ _ _ held
    obtain ⟨terminal, held⟩ := held
    exact (pure_stored held).weaken fun _ _ _ kept _ => ⟨_, ⟨terminal, rfl⟩, kept⟩
  | sealTask task =>
    apply andThen ((sealTaskLogs_safe task).allow fun _ allowed _ _ => allowed)
    intro _ _ _ _
    refine .pure ?_
    intro _ _ _ isAcknowledged
    cases isAcknowledged

theorem staged_empty : Staged codec Subject.empty := ⟨readable_nil, fun _ seen => nomatch seen⟩

/-- Digests and texts that are never compared in the runs below. -/
def plainCodec : Codec where
  contentDigest := fun _ => ""
  sealText := fun _ => []

/-- Two writers of one stream, and a sealer of its task. -/
def writersAndSealer : Nat → LogCall
  | 0 => .accept ⟨0, 1⟩ ⟨⟨⟨0, 1⟩, 0⟩, "", [1]⟩
  | 1 => .sealTask 0
  | _ => .accept ⟨0, 1⟩ ⟨⟨⟨0, 1⟩, 1⟩, "", [2]⟩

/-- The client's next steps, all answered. -/
def answers (peer count : Nat) : List (Nat × Arrival) :=
  List.replicate count (peer, .answered true)

end Tickr.LogStaging
