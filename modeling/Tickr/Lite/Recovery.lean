import Tickr.Lite.Convergence

/-!
# Recovering the journals at startup

Startup closes the journal of every claimed dispatch that has no final Log yet.
A stop inside leaves a journal that the next startup can close.
-/

namespace Tickr.Lite

open Concurrent Crash Table
open LogStream LocalLog LocalScope

variable {sealed : LogSeal} {new : Bytes}

section Journals

variable {codec : LiteCodec} {other : LogSeal} {file : Bytes} {staging next : LocalLogStagingStream}

def closureFrame (staging : LocalLogStagingStream) : JournalFrame :=
  .terminal (.abnormalClosure staging.state.committedFrontier)

structure Unfinished (codec : LiteCodec) (sealed : LogSeal)
    (staging next : LocalLogStagingStream) : Prop where
  closes : recoverAbnormalClosure staging = .ok (.append (closureFrame staging) next)
  readsBack : codec.journal.ReadsBack (closureFrame staging)
  fits : (codec.encodeFrame (closureFrame staging)).length ≤ maxFrameBytes
  seals : buildSeal codec.journal next = .ok sealed

/-- A journal without a terminal, and the seal it gets once it is closed. -/
def Closing (codec : LiteCodec) (sealed : LogSeal) (file : Bytes) : Prop :=
  ∃ frames tail staging next, Intact codec.journal sealed.stream file frames tail staging ∧
    (∀ frame ∈ frames, codec.journal.ReadsBack frame) ∧
    Unfinished codec sealed staging next

/-- A journal that startup can leave with a terminal. -/
def Closable (codec : LiteCodec) (sealed : LogSeal) (file : Bytes) : Prop :=
  Sealable codec sealed file ∨ Closing codec sealed file

theorem terminal_of_buildSeal (built : buildSeal codec.journal staging = .ok sealed) :
    ∃ terminal, staging.state.terminal = some terminal := by
  cases ends : staging.state.terminal with
  | some terminal => exact ⟨terminal, rfl⟩
  | none =>
    unfold buildSeal LogStreamState.sealStream at built
    rw [ends] at built
    cases built

theorem Unfinished.noTerminal (undone : Unfinished codec sealed staging next) :
    staging.state.terminal = none := by
  have closes := undone.closes
  unfold recoverAbnormalClosure at closes
  cases ends : staging.state.terminal with
  | none => rfl
  | some =>
    rw [ends] at closes
    cases closes

theorem Closable.opens (closes : Closable codec sealed file) :
    ∃ staging cut, openJournal codec.journal sealed.stream .none file = (.stream staging, cut) ∧
      (buildSeal codec.journal staging = .ok sealed ∨
        ∃ next, Unfinished codec sealed staging next) := by
  rcases closes with sealable | closing
  · obtain ⟨staging, cut, opened, _, _, _, built⟩ := sealable.opens
    exact ⟨staging, cut, opened, .inl built⟩
  · obtain ⟨_, _, staging, next, intact, back, undone⟩ := closing
    exact ⟨staging, _, openJournal_intact intact back .none, .inr ⟨next, undone⟩⟩

theorem Closable.unique (left : Closable codec sealed file) (right : Closable codec other file)
    (sameStream : sealed.stream = other.stream) : sealed = other := by
  obtain ⟨staging, _, opened, leftSeals⟩ := left.opens
  obtain ⟨again, _, openedAgain, rightSeals⟩ := right.opens
  rw [sameStream, openedAgain] at opened
  have sameStaging : again = staging := by
    injection opened with sameOpened _
    injection sameOpened
  rw [sameStaging] at rightSeals
  rcases leftSeals with built | ⟨leftNext, leftUnfinished⟩
  · rcases rightSeals with rightBuilt | ⟨_, undone⟩
    · rw [built] at rightBuilt
      exact Except.ok.inj rightBuilt
    · obtain ⟨_, ends⟩ := terminal_of_buildSeal built
      rw [undone.noTerminal] at ends
      cases ends
  · rcases rightSeals with rightBuilt | ⟨rightNext, undone⟩
    · obtain ⟨_, ends⟩ := terminal_of_buildSeal rightBuilt
      rw [leftUnfinished.noTerminal] at ends
      cases ends
    have same : leftNext = rightNext := by
      have closes := leftUnfinished.closes
      rw [undone.closes] at closes
      injection closes with ready
      injection ready with _ same
      exact same.symm
    have built := leftUnfinished.seals
    rw [same, undone.seals] at built
    exact (Except.ok.inj built).symm

/-- An open journal without a terminal, and the seal it gets. -/
def OpenedUnfinished (codec : LiteCodec) (sealed : LogSeal) (file : Bytes)
    (staging next : LocalLogStagingStream) : Prop :=
  ∃ frames, Intact codec.journal sealed.stream file frames [] staging ∧
    (∀ frame ∈ frames, codec.journal.ReadsBack frame) ∧
    Unfinished codec sealed staging next

theorem OpenedUnfinished.closing (opened : OpenedUnfinished codec sealed file staging next) :
    Closing codec sealed file := by
  obtain ⟨frames, intact, back, undone⟩ := opened
  exact ⟨frames, [], staging, next, intact, back, undone⟩

theorem Closing.opens (closing : Closing codec sealed file) :
    ∃ staging next cut,
      openJournal codec.journal sealed.stream .none file = (.stream staging, cut) ∧
      OpenedUnfinished codec sealed cut staging next := by
  obtain ⟨frames, _, staging, next, intact, back, undone⟩ := closing
  exact ⟨staging, next, _, openJournal_intact intact back .none, frames,
    intact.cut, back, undone⟩

theorem Closing.stopped (closing : Closing codec sealed file) (wrote : Nat) :
    Closing codec sealed (openJournal codec.journal sealed.stream (.stops wrote) file).2 := by
  obtain ⟨frames, tail, staging, next, intact, back, undone⟩ := closing
  rw [openJournal_intact intact back]
  cases wrote with
  | zero => exact ⟨frames, tail, staging, next, intact, back, undone⟩
  | succ => exact ⟨frames, [], staging, next, intact.cut, back, undone⟩

/-- The closure is recorded, or torn and to be recorded again. -/
theorem OpenedUnfinished.appended (opened : OpenedUnfinished codec sealed file staging next) :
    (∃ grown, appendFrame codec.journal (closureFrame staging) .none file =
        (.synced, grown) ∧ Sealable codec sealed grown) ∧
      ∀ wrote, Closable codec sealed
        (appendFrame codec.journal (closureFrame staging) (.stops wrote) file).2 := by
  obtain ⟨frames, intact, readsBack, undone⟩ := opened
  have ready : JournalOp.recoverAbnormal.prepare codec.journal staging =
      .ok (.append (closureFrame staging) next) := undone.closes
  have after := recovered_of_append intact.replays.sound ready
  have reads :=
    List.forall_mem_append.mpr ⟨readsBack, List.forall_mem_singleton.mpr undone.readsBack⟩
  obtain ⟨⟨grown, isAppended, whole⟩, stopped⟩ := intact.append after undone.fits
  refine ⟨⟨grown, isAppended, _, [], next, whole, reads, undone.seals⟩, ?_⟩
  intro wrote
  rcases stopped wrote with whole | ⟨tail, torn⟩
  · exact .inl ⟨_, [], next, whole, reads, undone.seals⟩
  · exact .inr ⟨frames, tail, staging, next, torn, readsBack, undone⟩

end Journals

section Closing

variable {codec : LiteCodec} {file : Bytes} {host : Machine} {inv : Machine → Prop}
  (isThere : host.files (.journal sealed.stream) = some file)
include isThere

omit isThere

theorem files_put_of_ne (ne : other ≠ name) :
    (host.put name bytes).files other = host.files other := Function.update_of_ne ne _ _

theorem files_put_self (host : Machine) (name : FileName) (bytes : Bytes) :
    (host.put name bytes).files name = some bytes := Function.update_self _ _ _

theorem put_put (host : Machine) (name : FileName) (first second : Bytes) :
    (host.put name first).put name second = host.put name second := by
  simp [Machine.put]

include isThere in
theorem steady_closeJournal (closable : Closable codec sealed file) (holds : inv host)
    (puts : ∀ file, Closable codec sealed file → inv (host.put (.journal sealed.stream) file))
    (ended : ∀ file, Sealable codec sealed file →
      post (.ok ()) (host.put (.journal sealed.stream) file)) :
    Steady (device codec) inv (closeJournal sealed.stream).run host post := by
  rcases closable with sealable | closing
  · apply Steady.try
    apply steady_openSealable isThere sealable holds
    · intro file seals
      exact puts file (.inl seals)
    intro staging cut opened
    have built : buildSeal codec.journal staging = .ok sealed := by
      obtain ⟨_, _, _, built⟩ := opened
      exact built
    obtain ⟨terminal, ends⟩ := terminal_of_buildSeal built
    have hit : recoverAbnormalClosure staging = .ok (.found (.terminal terminal)) := by
      unfold recoverAbnormalClosure
      rw [ends]
    simp only [hit]
    exact ⟨puts cut (.inl opened.sealable), ended cut opened.sealable⟩
  · apply Steady.try
    obtain ⟨staging, next, cut, isOpened, opened⟩ := closing.opens
    have closes : recoverAbnormalClosure staging = .ok (.append (closureFrame staging) next) := by
      obtain ⟨_, _, _, undone⟩ := opened
      exact undone.closes
    apply steady_openJournal isThere isOpened holds ?_ closing.stopped opened.closing
    · simp only [closes]
      obtain ⟨⟨grown, isAppended, sealable⟩, torn⟩ := opened.appended
      apply steady_appendFrame (Function.update_self _ _ _) isAppended
        (puts cut (.inr opened.closing)) ?_ torn (.inl sealable)
      · rw [put_put]
        exact ended grown sealable
      · intro file isClosable
        rw [put_put]
        exact puts file isClosable
    · intro file isClosing
      exact puts file (.inr isClosing)

end Closing

variable {codec : LiteCodec} {moments : Int → Prop} {plan : Uuid → RunPlan}
  {stream : LogStreamIdentity} {host : Machine}

/-- Both files of a final Log are there and can be read. -/
def FinalPairRead (codec : LiteCodec) (stream : LogStreamIdentity) (host : Machine) : Prop :=
  ∃ log exit, host.files (.final stream .log) = some log ∧ (codec.decodeLog log).isSome = true ∧
    host.files (.final stream .exit) = some exit ∧
    (codec.decodeExit exit).isSome = true

/-- A stream without a final Log has a journal that can be closed. -/
def JournalCloses (codec : LiteCodec) (stream : LogStreamIdentity) (host : Machine) : Prop :=
  host.files (.final stream .log) = none ∧
    ∃ sealed file, sealed.stream = stream ∧ host.files (.journal stream) = some file ∧
      Closable codec sealed file

def StreamReady (codec : LiteCodec) (stream : LogStreamIdentity) (host : Machine) : Prop :=
  FinalPairRead codec stream host ∨ JournalCloses codec stream host

def claimedStreams (codec : LiteCodec) (host : Machine) :
    Except LiteError (List LogStreamIdentity) := logStreams codec (fun _ => true) host.pickup

/-- What startup needs: every claimed stream has a final Log or a journal that
can be closed, and every staged run is at a stage of its plan. -/
structure Startable (codec : LiteCodec) (moments : Int → Prop)
    (plan : Uuid → RunPlan) (host : Machine) : Prop where
  stages : Stages codec moments (Closable codec) plan host
  installed : ∀ row ∈ host.staging, row.state = .staged →
    ∀ sealed ∈ (plan row.workflowInstanceId).seals,
      host.files (.final sealed.stream .log) ≠ none →
      ∀ file, host.files (.journal sealed.stream) = some file → Sealable codec sealed file
  readBack : ∀ run ∈ host.stagedRuns, ∀ sealed ∈ (plan run).seals, FinalsReadBack codec sealed
  inventory : ∃ streams, claimedStreams codec host = .ok streams ∧
    ∀ stream ∈ streams, StreamReady codec stream host
  paired : Paired host

theorem Stages.rejournal (stages : Stages codec moments usable plan host)
    (wasThere : host.files (.journal stream) = some old)
    (still : ∀ sealed, sealed.stream = stream → usable sealed old → usable sealed new) :
    Stages codec moments usable plan (host.put (.journal stream) new) := by
  refine ⟨stages.staging_keyed, stages.scopes_keyed, stages.apart, ?_⟩
  have installed : ∀ (sealed : LogSeal) (part : FinalPart),
      FinalInstalled codec sealed part host →
      FinalInstalled codec sealed part (host.put (.journal stream) new) := by
    intro _ _ isInstalled
    exact isInstalled
  intro row mem
  have progress := stages.progress row mem
  unfold RunProgress at progress ⊢
  split at progress
  · obtain ⟨planned, staged⟩ := progress
    refine ⟨planned, staged.scope, ?_, ?_, staged.unarchived⟩
    · intro sealed isSealed
      obtain ⟨file, isFile, isUsable⟩ := staged.journals sealed isSealed
      by_cases own : sealed.stream = stream
      · rw [own, wasThere] at isFile
        refine ⟨new, ?_, still sealed own ?_⟩
        · rw [own]
          exact files_put_self host _ new
        · rw [Option.some.inj isFile]
          exact isUsable
      · refine ⟨file, ?_, isUsable⟩
        rw [files_put_of_ne (by simpa using own)]
        exact isFile
    · intro sealed isSealed part
      rcases staged.finals sealed isSealed part with absent | isInstalled
      · left
        exact absent
      · exact .inr (installed sealed part isInstalled)
  · obtain ⟨planned, ends, complete⟩ := progress
    exact ⟨planned, ends, complete.scope, fun sealed isSealed part =>
        installed sealed part (complete.finals sealed isSealed part),
      complete.archived⟩
  · obtain ⟨payload, ends, drained⟩ := progress
    refine ⟨payload, ends, drained.scope, fun sealed isSealed part =>
        installed sealed part (drained.finals sealed isSealed part), ?_,
      drained.archived⟩
    intro sealed isSealed
    have gone := drained.journals sealed isSealed
    have ne : sealed.stream ≠ stream := by
      intro own
      rw [own, wasThere] at gone
      cases gone
    rw [files_put_of_ne (by simpa using ne)]
    exact gone

theorem StreamReady.rejournal (ready : StreamReady codec other host)
    (closes : Closable codec sealed new) :
    StreamReady codec other (host.put (.journal sealed.stream) new) := by
  rcases ready with ⟨log, exit, isLog, readsLog, isExit, reads⟩ |
    ⟨isNone, own, file, ofStream, isFile, isClosable⟩
  · refine .inl ⟨log, exit, ?_, readsLog, ?_, reads⟩
    · exact isLog
    · exact isExit
  have stillNone : (host.put (.journal sealed.stream) new).files
      (.final other .log) = none := by
    exact isNone
  by_cases isOwn : other = sealed.stream
  · refine .inr ⟨stillNone, sealed, new, isOwn.symm, ?_, closes⟩
    rw [isOwn]
    exact files_put_self host _ new
  · refine .inr ⟨stillNone, own, file, ofStream, ?_, isClosable⟩
    rw [files_put_of_ne (by simpa using isOwn)]
    exact isFile

variable (startable : Startable codec moments plan host)

include startable in
theorem Startable.rejournal (noLog : host.files (.final sealed.stream .log) = none)
    (wasThere : host.files (.journal sealed.stream) = some old)
    (was : Closable codec sealed old) (closes : Closable codec sealed new) :
    Startable codec moments plan (host.put (.journal sealed.stream) new) := by
  obtain ⟨streams, listing, ready⟩ := startable.inventory
  refine ⟨?_, ?_, startable.readBack, ⟨streams, listing, ?_⟩, ?_⟩
  · apply startable.stages.rejournal wasThere
    intro _ sameStream isClosable
    rw [isClosable.unique was sameStream]
    exact closes
  · intro row mem staged other ne hasLog file isFile
    have elsewhere : other.stream ≠ sealed.stream := by
      intro same
      rw [same, files_put_of_ne (by simp)] at hasLog
      exact hasLog noLog
    rw [files_put_of_ne (by simp)] at hasLog
    rw [files_put_of_ne (by simpa using elsewhere)] at isFile
    exact startable.installed row mem staged other ne hasLog file isFile
  · intro other ne
    exact (ready other ne).rejournal closes
  · exact startable.paired.of_journals fun _ notJournal =>
      Function.update_of_ne (notJournal _) _ _

/-- The stream needs no recovery any more. -/
def Recovered (codec : LiteCodec) (stream : LogStreamIdentity) (host : Machine) : Prop :=
  host.files (.final stream .log) ≠ none ∨
    ∃ sealed file, sealed.stream = stream ∧
      host.files (.journal stream) = some file ∧ Sealable codec sealed file

theorem Recovered.rejournal (after : Recovered codec stream host)
    (sealable : Sealable codec sealed new) :
    Recovered codec stream (host.put (.journal sealed.stream) new) := by
  rcases after with hasLog | ⟨own, file, ofStream, isFile, seals⟩
  · left
    exact hasLog
  right
  by_cases isOwn : stream = sealed.stream
  · refine ⟨sealed, new, isOwn.symm, ?_, sealable⟩
    rw [isOwn]
    exact files_put_self host _ new
  · refine ⟨own, file, ofStream, ?_, seals⟩
    rw [files_put_of_ne (by simpa using isOwn)]
    exact isFile

/-- Journals changed, and what was recovered still is. -/
structure Rejournals (codec : LiteCodec) (host after : Machine) : Prop where
  onlyFiles : after = { host with files := after.files }
  onlyJournals : ∀ name, (∀ stream, name ≠ .journal stream) → after.files name = host.files name
  keeps : ∀ stream, Recovered codec stream host → Recovered codec stream after

theorem Rejournals.refl (codec : LiteCodec) (host : Machine) :
    Rejournals codec host host := ⟨rfl, fun _ _ => rfl, fun _ after => after⟩

theorem Rejournals.trans (first : Rejournals codec host after)
    (second : Rejournals codec after last) :
    Rejournals codec host last := by
  constructor
  · rw [second.onlyFiles, first.onlyFiles]
  · intro name notJournal
    exact (second.onlyJournals name notJournal).trans (first.onlyJournals name notJournal)
  · intro stream final
    exact second.keeps stream (first.keeps stream final)

theorem rejournals_put (host : Machine) (sealable : Sealable codec sealed new) :
    Rejournals codec host (host.put (.journal sealed.stream) new) :=
  ⟨rfl, fun _ notJournal => files_put_of_ne (notJournal _),
    fun _ after => after.rejournal sealable⟩

include startable

theorem steady_recoverStream (ready : StreamReady codec stream host) :
    Steady (device codec) (Startable codec moments plan) (recoverStream codec stream).run host
      fun result after => result = .ok () ∧
        Rejournals codec host after ∧ Recovered codec stream after := by
  rcases ready with ⟨_, _, isLog, readsLog, isExit, reads⟩ |
    ⟨noLog, sealed, _, ofStream, isFile, closes⟩
  · obtain ⟨_, isLogDocument⟩ := Option.isSome_iff_exists.mp readsLog
    obtain ⟨_, document⟩ := Option.isSome_iff_exists.mp reads
    apply Steady.try
    apply Steady.try
    apply steady_readFile startable
    simp only [isLog, isLogDocument]
    apply Steady.try
    apply Steady.try
    apply steady_readRequired isExit startable
    simp only [document]
    apply Steady.check startable
    apply Steady.check startable
    apply Steady.check startable
    refine ⟨rfl, .refl codec host, .inl ?_⟩
    rw [isLog]
    simp
  · apply Steady.try
    apply Steady.try
    apply steady_readFile startable
    simp only [noLog]
    apply Steady.check startable
    subst ofStream
    apply steady_closeJournal isFile closes startable
    · intro _ isClosable
      exact startable.rejournal noLog isFile closes isClosable
    · intro new sealable
      exact ⟨rfl, rejournals_put host sealable,
        .inr ⟨sealed, new, rfl, files_put_self host _ new, sealable⟩⟩

theorem steady_recoverStreams
    (listing : claimedStreams codec host = .ok inventory) (streams : List LogStreamIdentity)
    (claimed : ∀ stream ∈ streams, stream ∈ inventory) :
    Steady (device codec) (Startable codec moments plan) (recoverStreams codec streams).run host
      fun result after => result = .ok () ∧ Rejournals codec host after ∧
        ∀ stream ∈ streams, Recovered codec stream after := by
  induction streams generalizing host with
  | nil => exact .check startable ⟨rfl, .refl codec host, by simp⟩
  | cons stream _ ih =>
    obtain ⟨_, isOthers, ready⟩ := startable.inventory
    rw [listing] at isOthers
    rw [← Except.ok.inj isOthers] at ready
    apply Steady.try
    apply (steady_recoverStream startable (ready stream
      (claimed stream (.head _)))).mono
    intro _ first firstStartable ends
    obtain ⟨isOk, rejournals, final⟩ := ends
    rw [isOk]
    have stillInventory : claimedStreams codec first = .ok inventory := by
      rw [rejournals.onlyFiles]
      exact listing
    apply (ih firstStartable stillInventory fun other ne =>
      claimed other (.tail _ ne)).mono
    intro _ _ _ restEnds
    obtain ⟨restOk, restRejournals, restRecovered⟩ := restEnds
    refine ⟨restOk, rejournals.trans restRejournals,
      List.forall_mem_cons.mpr ⟨?_, restRecovered⟩⟩
    exact restRejournals.keeps stream final

theorem steady_recoverLocalJournals :
    Steady (device codec) (Startable codec moments plan) (recoverLocalJournals codec).run host
      fun result after => result = .ok () ∧ Rejournals codec host after ∧
        ∃ streams, claimedStreams codec after = .ok streams ∧
          ∀ stream ∈ streams, Recovered codec stream after := by
  obtain ⟨streams, listing, _⟩ := startable.inventory
  have ran : (device codec).perform .allStreams host = (.ok streams, host) := by
    unfold claimedStreams at listing
    simp only [device, LiteOp.perform, listing]
  apply Steady.try
  apply Steady.request startable (fun _ => False.elim) ran startable
  apply (steady_recoverStreams startable listing streams fun _ isStream => isStream).mono
  intro _ _ _ ends
  obtain ⟨isOk, rejournals, final⟩ := ends
  refine ⟨isOk, rejournals, streams, ?_, final⟩
  rw [rejournals.onlyFiles]
  exact listing

omit startable

end Tickr.Lite
