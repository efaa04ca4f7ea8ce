import Tickr.Rust

/-!
# The accepted-Log stream

The pure state machine shared by every Log staging adapter.  A stream accepts
records and gaps in any order, advances its frontier over the contiguous part,
and closes with one terminal.  The content digest is a parameter.
-/

namespace Tickr.LogStream

open Rust

/-- A 128-bit identifier; only its equality and order matter here. -/
abbrev Uuid := Nat

abbrev Bytes := List UInt8

/-- One pickup generation's Log staging stream. -/
structure LogStreamIdentity where
  taskInstanceId : Uuid
  pickupGeneration : UInt64
  deriving DecidableEq

/-- The derived order: by task instance first, then by generation. -/
instance : Ord LogStreamIdentity :=
  ⟨compareLex (compareOn LogStreamIdentity.taskInstanceId)
    (compareOn LogStreamIdentity.pickupGeneration)⟩

instance : Std.TransOrd LogStreamIdentity :=
  inferInstanceAs (Std.TransCmp
    (compareLex (compareOn LogStreamIdentity.taskInstanceId)
      (compareOn LogStreamIdentity.pickupGeneration)))

instance : Std.LawfulEqOrd LogStreamIdentity where
  eq_of_compare := by
    intro left _ equal
    obtain ⟨sameTask, sameGeneration⟩ := compareLex_eq_eq.mp equal
    cases left
    simp only [compareOn, Std.compare_eq_iff_eq] at sameTask sameGeneration
    rw [sameTask, sameGeneration]

structure LogRecordIdentity where
  stream : LogStreamIdentity
  sequence : UInt64
  deriving DecidableEq

structure LogRecordSubmission where
  identity : LogRecordIdentity
  contentDigest : String
  bytes : Bytes
  deriving DecidableEq

/-- A bounded range discarded before any accepted record was created. -/
structure PreAcceptanceGap where
  stream : LogStreamIdentity
  (firstSequence lastSequence droppedRecords : UInt64)
  deriving DecidableEq

inductive LogExit where
  | status (code : Int32)
  | noStatus
  | error (reason : String)
  deriving DecidableEq

inductive LogTerminal where
  | endOfStream (exit : LogExit)
  | abnormalClosure (committedFrontier : Option UInt64)
  deriving DecidableEq

/-- One durable item available to replay. -/
inductive ReplayedLogRecord where
  | accepted (identity : LogRecordIdentity) (contentDigest : String) (bytes : Bytes)
  | preAcceptanceGap (gap : PreAcceptanceGap)
  | terminal (stream : LogStreamIdentity) (terminal : LogTerminal)
  deriving DecidableEq

inductive AcceptOutcome where
  | accepted
  | alreadyAccepted

inductive GapOutcome where
  | declared
  | alreadyDeclared

inductive TerminalOutcome where
  | recorded
  | alreadyRecorded

structure AcceptedLogRecord where
  identity : LogRecordIdentity
  contentDigest : String
  bytes : Bytes
  deriving DecidableEq

/-- Immutable accepted-record snapshot shared by every adapter. -/
structure LogSeal where
  stream : LogStreamIdentity
  acceptedRecords : List AcceptedLogRecord
  recordDigest : String
  terminal : LogTerminal
  deriving DecidableEq

inductive LogStreamViolation where
  | wrongStream
  | invalidContentDigest
  | identityContentConflict
  | acceptedIdentityCoveredByGap
  | invalidGap
  | gapOverlap
  | terminalConflict
  | appendAfterTerminal
  | cleanTerminalBeforeContiguousFrontier
  | sealBeforeTerminal
  deriving DecidableEq

def LogStreamViolation.message : LogStreamViolation → String
  | .wrongStream => "Log record belongs to another pickup generation"
  | .invalidContentDigest => "Log record content digest does not match its bytes"
  | .identityContentConflict => "Log record identity was accepted with different content"
  | .acceptedIdentityCoveredByGap => "Log record identity is covered by a pre-acceptance gap"
  | .invalidGap => "pre-acceptance gap is empty or malformed"
  | .gapOverlap => "pre-acceptance gap overlaps durable Log coverage"
  | .terminalConflict => "Log staging stream has a different terminal record"
  | .appendAfterTerminal => "cannot append to a terminal Log staging stream"
  | .cleanTerminalBeforeContiguousFrontier =>
    "cannot write End-of-stream while the committed frontier has a hole"
  | .sealBeforeTerminal => "cannot seal a Log staging stream before its terminal record"

/-- What ends a call early: a returned violation, or a panic. -/
inductive Fault where
  | violation (violation : LogStreamViolation)
  | panic (panic : Panic)
  deriving DecidableEq

/-- Pure state machine shared by local and distributed adapters. -/
structure LogStreamState where
  identity : LogStreamIdentity
  accepted : BTreeMap UInt64 AcceptedLogRecord
  gaps : BTreeMap UInt64 PreAcceptanceGap
  committedFrontier : Option UInt64
  terminal : Option LogTerminal
  deriving DecidableEq

/-- A call's result beside the state it leaves, also when it fails. -/
abbrev Applied (α : Type) := Except Fault α × LogStreamState

/-- The number of sequence numbers, which bounds both loops below. -/
def sequenceSpace : Nat := 2 ^ 64

namespace LogRecordSubmission

variable (contentDigest : Bytes → String)

def new (identity : LogRecordIdentity) (bytes : Bytes) :
    LogRecordSubmission := { identity, contentDigest := contentDigest bytes, bytes }

def hasValidDigest (submission : LogRecordSubmission) : Bool :=
  submission.contentDigest == contentDigest submission.bytes

def record (submission : LogRecordSubmission) : ReplayedLogRecord :=
  .accepted submission.identity submission.contentDigest submission.bytes

end LogRecordSubmission

namespace ReplayedLogRecord

def stream : ReplayedLogRecord → LogStreamIdentity
  | .accepted identity _ _ => identity.stream
  | .preAcceptanceGap gap => gap.stream
  | .terminal stream _ => stream

def isTerminal : ReplayedLogRecord → Bool
  | .terminal _ _ => true
  | _ => false

end ReplayedLogRecord

namespace LogStreamState

def new (identity : LogStreamIdentity) : LogStreamState :=
  { identity, accepted := ∅, gaps := ∅, committedFrontier := none,
    terminal := none }

variable (state : LogStreamState)

def acceptedRecords : List AcceptedLogRecord := values state.accepted

def declaredGaps : List PreAcceptanceGap := values state.gaps

def requireOpen : Except LogStreamViolation Unit :=
  if state.terminal.isSome then .error .appendAfterTerminal else .ok ()

def gapCovering (sequence : UInt64) : Option PreAcceptanceGap :=
  ((lastAtMost state.gaps sequence).map Prod.snd).filter fun gap =>
    decide (sequence ≤ gap.lastSequence)

/-- The body of `advance_frontier`'s loop; every turn moves `next` up. -/
def advanceLoop (state : LogStreamState) :
    Nat → UInt64 → Option UInt64 → Except Panic (Option UInt64)
  | 0, _, _ => .error .outOfFuel
  | fuel + 1, next, frontier =>
    if state.accepted.contains next then
      match checkedAdd next 1 with
      | some following => state.advanceLoop fuel following (some next)
      | none => .ok (some next)
    else
      match state.gaps[next]? with
      | none => .ok frontier
      | some gap =>
        match checkedAdd gap.lastSequence 1 with
        | some following => state.advanceLoop fuel following (some gap.lastSequence)
        | none => .ok (some gap.lastSequence)

/-- Where the walk resumes: `map_or(0, |frontier| frontier + 1)`. -/
def nextSequence : Except Panic UInt64 :=
  match state.committedFrontier with
  | none => .ok 0
  | some frontier => plainAdd frontier 1

def advanceFrontier :
    Except Panic LogStreamState := do
  let next ← state.nextSequence
  let frontier ← state.advanceLoop (sequenceSpace + 1) next state.committedFrontier
  return { state with committedFrontier := frontier }

/-- Finish an insertion by advancing the frontier over it. -/
def finishInsert {α : Type} (outcome : α) (inserted : LogStreamState) : Applied α :=
  match inserted.advanceFrontier with
  | .ok advanced => (.ok outcome, advanced)
  | .error panic => (.error (.panic panic), inserted)

variable (contentDigest : Bytes → String)

def applyAccepted (state : LogStreamState)
    (submission : LogRecordSubmission) : Applied AcceptOutcome :=
  match state.requireOpen with
  | .error violation => (.error (.violation violation), state)
  | .ok () =>
    if submission.identity.stream ≠ state.identity then
      (.error (.violation .wrongStream), state)
    else if ¬ submission.hasValidDigest contentDigest then
      (.error (.violation .invalidContentDigest), state)
    else
      match state.accepted[submission.identity.sequence]? with
      | some existing =>
        if existing.contentDigest = submission.contentDigest ∧
            existing.bytes = submission.bytes then
          (.ok .alreadyAccepted, state)
        else
          (.error (.violation .identityContentConflict), state)
      | none =>
        if (state.gapCovering submission.identity.sequence).isSome then
          (.error (.violation .acceptedIdentityCoveredByGap), state)
        else
          finishInsert .accepted { state with
              accepted := state.accepted.insert submission.identity.sequence
                { identity := submission.identity
                  contentDigest := submission.contentDigest
                  bytes := submission.bytes } }

def applyGap (gap : PreAcceptanceGap) : Applied GapOutcome :=
  match state.requireOpen with
  | .error violation => (.error (.violation violation), state)
  | .ok () =>
    if gap.stream ≠ state.identity then
      (.error (.violation .wrongStream), state)
    else if gap.lastSequence < gap.firstSequence ∨ gap.droppedRecords = 0 then
      (.error (.violation .invalidGap), state)
    else if state.gaps[gap.firstSequence]? = some gap then
      (.ok .alreadyDeclared, state)
    else if anyInRange state.accepted gap.firstSequence gap.lastSequence ||
        (values state.gaps).any fun existing =>
          decide (existing.firstSequence ≤ gap.lastSequence) &&
            decide (gap.firstSequence ≤ existing.lastSequence) then
      (.error (.violation .gapOverlap), state)
    else
      finishInsert .declared { state with
          gaps := state.gaps.insert gap.firstSequence gap }

/-- The greatest stored sequence number: `last` in `frontier_has_hole`. -/
def lastStored : Option UInt64 :=
  let lastAccepted := state.accepted.maxKey?
  let lastGap := ((values state.gaps).map PreAcceptanceGap.lastSequence).max?
  match lastAccepted, lastGap with
  | some accepted, some gap => some (max accepted gap)
  | accepted, gap => accepted.or gap

def frontierHasHole : Bool :=
  match state.committedFrontier, state.lastStored with
  | none, some _ => true
  | some frontier, some last => frontier != last
  | _, none => false

def applyTerminal (terminal : LogTerminal) : Applied TerminalOutcome :=
  match state.terminal with
  | some existing =>
    if existing = terminal then
      (.ok .alreadyRecorded, state)
    else
      (.error (.violation .terminalConflict), state)
  | none =>
    if (match terminal with
        | .endOfStream _ => state.frontierHasHole
        | .abnormalClosure _ => false) then
      (.error (.violation .cleanTerminalBeforeContiguousFrontier), state)
    else
      (.ok .recorded, { state with terminal := some terminal })

/-- The loop of `replay`, from `sequence` up to the frontier. -/
def replayLoop (state : LogStreamState) (frontier : UInt64) :
    Nat → UInt64 → Except Panic (List ReplayedLogRecord)
  | 0, _ => .error .outOfFuel
  | fuel + 1, sequence =>
    if sequence ≤ frontier then
      match state.accepted[sequence]? with
      | some record =>
        (match checkedAdd sequence 1 with
          | some next => state.replayLoop frontier fuel next
          | none => .ok []).map
          (.accepted record.identity record.contentDigest record.bytes :: ·)
      | none =>
        match state.gaps[sequence]? with
        | none => .error (.expected "the committed frontier is contiguous")
        | some gap =>
          (match checkedAdd gap.lastSequence 1 with
            | some next => state.replayLoop frontier fuel next
            | none => .ok []).map (.preAcceptanceGap gap :: ·)
    else .ok []

def terminalRecords : List ReplayedLogRecord :=
  match state.terminal with
  | some terminal => [.terminal state.identity terminal]
  | none => []

def replay : Except Panic (List ReplayedLogRecord) :=
  match state.committedFrontier with
  | none => .ok state.terminalRecords
  | some frontier => do
      let records ← state.replayLoop frontier (sequenceSpace + 1) 0
      return records ++ state.terminalRecords

/-- The canonical immutable digest of an accepted-record set; `encode` is the
JSON serialiser. -/
def acceptedRecordDigest (contentDigest : Bytes → String) (encode : List AcceptedLogRecord → Bytes)
    (records : List AcceptedLogRecord) : String := contentDigest (encode records)

/-- `seal`, whose plain name is reserved in Lean. -/
def sealStream (contentDigest : Bytes → String)
    (encode : List AcceptedLogRecord → Bytes) (state : LogStreamState) :
    Except LogStreamViolation LogSeal :=
  match state.terminal with
  | none => .error .sealBeforeTerminal
  | some terminal =>
    .ok
      { stream := state.identity
        acceptedRecords := state.acceptedRecords
        recordDigest := acceptedRecordDigest contentDigest encode state.acceptedRecords
        terminal }

variable (contentDigest : Bytes → String)

def discard {α : Type} (applied : Applied α) : Applied Unit :=
  (applied.1.map fun _ => (), applied.2)

/-- Apply one durable record.  Every call of the three operations is the
application of one record: `apply_terminal` takes no stream. -/
def applyRecord (state : LogStreamState) : ReplayedLogRecord → Applied Unit
  | .accepted identity digest bytes =>
    discard (state.applyAccepted contentDigest { identity, contentDigest := digest, bytes })
  | .preAcceptanceGap gap => discard (state.applyGap gap)
  | .terminal _ terminal => discard (state.applyTerminal terminal)

/-- The state after a sequence of calls, failed calls included. -/
def run (state : LogStreamState) (records : List ReplayedLogRecord) : LogStreamState :=
  records.foldl (fun reached record =>
    (reached.applyRecord contentDigest record).2) state

end LogStreamState

variable (contentDigest : Bytes → String)

abbrev LogStreams := BTreeMap LogStreamIdentity LogStreamState

/-- `streams.entry(identity).or_insert_with(|| LogStreamState::new(identity))`. -/
def entryOrNew (streams : LogStreams) (identity : LogStreamIdentity) :
    LogStreamState := (streams[identity]?).getD (.new identity)

/-- One turn of the rebuild loop: find or create the record's stream, then
apply the record to it. -/
def rebuildStep (streams : LogStreams) (record : ReplayedLogRecord) : Except Fault LogStreams :=
  match (entryOrNew streams record.stream).applyRecord contentDigest record with
  | (.ok (), applied) => .ok (streams.insert record.stream applied)
  | (.error fault, _) => .error fault

/-- Rebuild every pickup generation represented by durable records. -/
def rebuildLogStreams (records : List ReplayedLogRecord) :
    Except Fault LogStreams := records.foldlM (rebuildStep contentDigest) ∅

end Tickr.LogStream
