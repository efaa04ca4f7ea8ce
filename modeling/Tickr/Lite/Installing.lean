import Tickr.Lite.Progress

/-!
# Sealing journals and installing final Logs

The steps of the drain on one staged run, up to its archive.  Each of them comes
through or takes a temporary file away that an earlier stop has left.
-/

namespace Tickr.Lite

open Concurrent Crash Table
open LogStream LocalLog LocalScope

variable {codec : LiteCodec} {moments : Int → Prop} {plan : DrainPlan} {row : StagingRow}
  {host after : Machine} {sealed : LogSeal} {part : FinalPart}
  {post : Except LiteError Unit → Machine → Prop} {stream : LogStreamIdentity} {file : Bytes}

/-- A file of a sealed stream is not outside the streams of the run. -/
theorem ne_of_outside {plan : RunPlan} {name own : FileName} (isSealed : sealed ∈ plan.seals)
    (ofStream : own.stream = sealed.stream)
    (beyond : ∀ sealed ∈ plan.seals, name.stream ≠ sealed.stream) : name ≠ own := by
  intro same
  rw [same] at beyond
  exact beyond sealed isSealed ofStream

structure AtRun (codec : LiteCodec) (moments : Int → Prop)
    (plan : DrainPlan) (row : StagingRow) (host : Machine) :
    Prop where
  draining : Draining codec moments plan host
  member : row ∈ host.staging
  isStaged : row.state = .staged

variable (atRun : AtRun codec moments plan row host)
include atRun

theorem AtRun.progress :
    (∃ payload, row.payload = some payload ∧
      Planned codec host.pickup row.workflowInstanceId payload
        row.payloadDigest (plan row.workflowInstanceId)) ∧
      StagedRun codec moments (Sealable codec) (plan row.workflowInstanceId)
        row.workflowInstanceId host := by
  have progress := atRun.draining.progress row atRun.member
  unfold RunProgress at progress
  rw [atRun.isStaged] at progress
  exact progress

theorem AtRun.update (touches : Touches plan row.workflowInstanceId host after)
    (same : after.staging = host.staging)
    (keyed : Keyed ScopeRow.scopeId after.scopes.scopes)
    (staged : StagedRun codec moments (Sealable codec) (plan row.workflowInstanceId)
      row.workflowInstanceId after) : AtRun codec moments plan row after := by
  refine ⟨?_, same ▸ atRun.member, atRun.isStaged⟩
  apply atRun.draining.refreshed atRun.member touches same keyed
  unfold RunProgress
  rw [atRun.isStaged, touches.pickup]
  exact ⟨atRun.progress.1, staged⟩

variable (isSealed : sealed ∈ (plan row.workflowInstanceId).seals)
include isSealed

theorem AtRun.eq_of_stream (ne : other ∈ (plan row.workflowInstanceId).seals)
    (same : other.stream = sealed.stream) : other = sealed := by
  obtain ⟨⟨_, _, planned⟩, _⟩ := atRun.progress
  exact planned.eq_of_stream ne isSealed same

theorem AtRun.put_journal (sealable : Sealable codec sealed file) :
    AtRun codec moments plan row (host.put (.journal sealed.stream) file) := by
  obtain ⟨_, staged⟩ := atRun.progress
  refine atRun.update (touches_files rfl ?_) rfl atRun.draining.scopes_keyed
    ⟨staged.scope, ?_, ?_, staged.unarchived⟩
  · intro _ beyond
    exact Function.update_of_ne (ne_of_outside isSealed rfl beyond) _ _
  · intro other ne
    by_cases same : other.stream = sealed.stream
    · rw [atRun.eq_of_stream isSealed ne same]
      exact ⟨file, Function.update_self _ _ _, sealable⟩
    · dsimp only [Machine.put]
      rw [Function.update_of_ne (by simpa using same)]
      exact staged.journals other ne
  · intro other ne part
    have ready := staged.finals other ne part
    exact ready

theorem AtRun.refile {files : FileName → Option Bytes}
    (others : ∀ name, name ≠ .final sealed.stream part →
      name ≠ .temporary sealed.stream part → files name = host.files name)
    (ready : FinalReady codec sealed part { host with files }) :
    AtRun codec moments plan row { host with files } := by
  obtain ⟨_, staged⟩ := atRun.progress
  refine atRun.update (touches_files rfl ?_) rfl atRun.draining.scopes_keyed
    ⟨staged.scope, ?_, ?_, staged.unarchived⟩
  · intro name beyond
    exact others name (ne_of_outside isSealed rfl beyond) (ne_of_outside isSealed rfl beyond)
  · intro other ne
    dsimp only
    rw [others _ (by simp) (by simp)]
    exact staged.journals other ne
  · intro other ne otherPart
    by_cases same : other.stream = sealed.stream ∧ otherPart = part
    · rw [atRun.eq_of_stream isSealed ne same.1, same.2]
      exact ready
    have kept := staged.finals other ne otherPart
    simp only [FinalReady, FinalInstalled] at kept ⊢
    rw [others _ (by simpa using same) (by simp), others _ (by simp) (by simpa using same)]
    exact kept

theorem AtRun.put_temporary (absent : host.files (.final sealed.stream part) = none)
    (contents : Bytes) :
    AtRun codec moments plan row (host.put (.temporary sealed.stream part) contents) := by
  apply atRun.refile isSealed
  · intro _ _ kept
    exact Function.update_of_ne kept _ _
  · left
    exact absent

theorem AtRun.remove_temporary (part : FinalPart) :
    AtRun codec moments plan row (host.remove (.temporary sealed.stream part)) := by
  obtain ⟨_, staged⟩ := atRun.progress
  apply atRun.refile isSealed
  · intro _ _ kept
    exact Function.update_of_ne kept _ _
  · have ready := staged.finals sealed isSealed part
    simp only [FinalReady, FinalInstalled] at ready ⊢
    rw [Function.update_self]
    rcases ready with absent | installed
    · exact .inl absent
    · exact .inr ⟨installed.1, rfl⟩

omit isSealed atRun

theorem finalInstalled_put (host : Machine) (sealed : LogSeal) (part : FinalPart) :
    FinalInstalled codec sealed part
      ((host.remove (.temporary sealed.stream part)).put
        (.final sealed.stream part) (finalBytes codec sealed part)) := by
  simp [FinalInstalled, Machine.put, Machine.remove]

variable (isSealed : sealed ∈ (plan row.workflowInstanceId).seals)

include isSealed in
include atRun in
theorem AtRun.install (part : FinalPart) :
    AtRun codec moments plan row
      ((host.remove (.temporary sealed.stream part)).put
        (.final sealed.stream part) (finalBytes codec sealed part)) := by
  apply atRun.refile isSealed
  · intro name notFinal kept
    change Function.update (Function.update host.files _ _) _ _ name = _
    rw [Function.update_of_ne notFinal, Function.update_of_ne kept]
  · exact .inr (finalInstalled_put host sealed part)

/-- The temporary files that a run may leave. -/
def RunPlan.temporaries (plan : RunPlan) : List FileName :=
  plan.seals.flatMap fun sealed =>
    [.temporary sealed.stream .log, .temporary sealed.stream .exit]

def Machine.count (host : Machine) (names : List FileName) : Nat :=
  names.countP fun name => (host.files name).isSome

theorem mem_temporaries {plan : RunPlan} (isSealed : sealed ∈ plan.seals) (part : FinalPart) :
    FileName.temporary sealed.stream part ∈ plan.temporaries := by
  unfold RunPlan.temporaries
  rw [List.mem_flatMap]
  refine ⟨sealed, isSealed, ?_⟩
  cases part <;> simp

theorem count_lt_of_isSome
    (fewer : ∀ name ∈ names, (after.files name).isSome = true → (host.files name).isSome = true)
    (mem : name ∈ names) (was : (host.files name).isSome = true)
    (gone : after.files name = none) :
    after.count names < host.count names := by
  obtain ⟨before, rest, split⟩ := List.append_of_mem mem
  have atMost : ∀ part : List FileName, (∀ name ∈ part, name ∈ names) →
      after.count part ≤ host.count part := fun _ isPart =>
    List.countP_mono_left fun name isName => fewer name (isPart name isName)
  have first := atMost before fun name isName => by
    rw [split]
    exact List.mem_append_left _ isName
  have last := atMost rest fun _ isName => by
    rw [split]
    exact List.mem_append_right _ (.tail _ isName)
  unfold Machine.count at first last ⊢
  rw [split, List.countP_append, List.countP_append, List.countP_cons,
    List.countP_cons, was, gone]
  simp only [Option.isSome_none, Bool.false_eq_true, if_false, if_true]
  omega

variable {inv : Machine → Prop}

theorem steady_readFile {post : Except LiteError (Option Bytes) → Machine → Prop}
    (holds : inv host) (ended : post (.ok (host.files name)) host) :
    Steady (device codec) inv (readFile name).run host post :=
  ⟨holds, fun _ torn => False.elim torn, holds, ended⟩

variable {bytes : Bytes}

theorem steady_quarantine
    (isThere : host.files (.temporary stream part) = some bytes) (holds : inv host)
    (gone : inv (host.remove (.temporary stream part)))
    (ended : post (.ok ()) (host.remove (.temporary stream part))) :
    Steady (device codec) inv (quarantineTemporaryFile stream part).run host post := by
  have ran : (device codec).perform (.quarantine stream part) host =
      (.ok (), host.remove (.temporary stream part)) := by
    simp only [device, LiteOp.perform, removeFile, isThere]
    rfl
  exact .request holds (fun _ => False.elim) ran gone ended

theorem steady_install
    (isThere : host.files (.temporary stream part) = some bytes) (holds : inv host)
    (installed : inv ((host.remove (.temporary stream part)).put (.final stream part) bytes))
    (ended : post (.ok ()) ((host.remove (.temporary stream part)).put
      (.final stream part) bytes)) :
    Steady (device codec) inv (installTemporaryFile stream part).run host post := by
  have ran : (device codec).perform (.install stream part) host =
      (.ok (), (host.remove (.temporary stream part)).put (.final stream part) bytes) := by
    simp only [device, LiteOp.perform, replaceFile, isThere]
    rfl
  exact .request holds (fun _ => False.elim) ran installed ended

theorem steady_writeTemporary
    (absent : host.files (.temporary stream part) = none) (holds : inv host)
    (puts : ∀ bytes, inv (host.put (.temporary stream part) bytes))
    (ended : post (.ok ()) (host.put (.temporary stream part) contents)) :
    Steady (device codec) inv (writeTemporaryFile stream part contents).run host post := by
  have ran : (device codec).perform
      (.writeTemporary stream part contents) host =
        (.ok (), host.put (.temporary stream part) contents) := by
    simp only [device, LiteOp.perform, absent]
  refine .request holds ?_ ran (puts contents) ended
  intro _ torn
  obtain ⟨_, _, isLeft⟩ := torn
  rw [isLeft]
  exact puts _

section Finals

/-- Files of the run changed, and what was installed still is. -/
structure Refiled (codec : LiteCodec) (plan : RunPlan) (host after : Machine) : Prop where
  onlyFiles : after = { host with files := after.files }
  confined : ∀ name, (∀ sealed ∈ plan.seals, name.stream ≠ sealed.stream) →
    after.files name = host.files name
  keeps : ∀ sealed part, FinalInstalled codec sealed part host →
    FinalInstalled codec sealed part after

theorem Refiled.refl (plan : RunPlan) (host : Machine) :
    Refiled codec plan host host := ⟨rfl, fun _ _ => rfl, fun _ _ installed => installed⟩

theorem Refiled.trans {plan : RunPlan} (first : Refiled codec plan host after)
    (second : Refiled codec plan after last) :
    Refiled codec plan host last := by
  constructor
  · rw [second.onlyFiles, first.onlyFiles]
  · intro name beyond
    exact (second.confined name beyond).trans (first.confined name beyond)
  · intro sealed part installed
    exact second.keeps sealed part (first.keeps sealed part installed)

theorem refiled_put_journal {plan : RunPlan} (host : Machine)
    (isSealed : sealed ∈ plan.seals) (file : Bytes) :
    Refiled codec plan host (host.put (.journal sealed.stream) file) := by
  refine ⟨rfl, ?_, ?_⟩
  · intro _ beyond
    exact Function.update_of_ne (ne_of_outside isSealed rfl beyond) _ _
  · intro _ _ installed
    exact installed

theorem refiled_of_others {plan : RunPlan} (isSealed : sealed ∈ plan.seals)
    (others : ∀ name, name ≠ .final sealed.stream part →
      name ≠ .temporary sealed.stream part → files name = host.files name)
    (notInstalled : host.files (.final sealed.stream part) = none ∨
      host.files (.temporary sealed.stream part) ≠ none) :
    Refiled codec plan host { host with files } := by
  refine ⟨rfl, ?_, ?_⟩
  · intro name beyond
    exact others name (ne_of_outside isSealed rfl beyond) (ne_of_outside isSealed rfl beyond)
  intro other otherPart installed
  have ne : ¬ (other.stream = sealed.stream ∧ otherPart = part) := by
    intro same
    unfold FinalInstalled at installed
    rw [same.1, same.2] at installed
    rcases notInstalled with absent | there
    · rw [absent] at installed
      cases installed.1
    · exact there installed.2
  simp only [FinalInstalled] at installed ⊢
  rw [others _ (by simpa using ne) (by simp), others _ (by simp) (by simpa using ne)]
  exact installed

/-- Only one final file and its temporary one may have changed. -/
def OthersKept (stream : LogStreamIdentity) (part : FinalPart) (host after : Machine) : Prop :=
  ∀ name, name ≠ .final stream part → name ≠ .temporary stream part →
    after.files name = host.files name

/-- How an installation ends: the file is installed and no temporary file was
added, or a temporary file is gone. -/
def Installs (codec : LiteCodec) (plan : RunPlan) (sealed : LogSeal)
    (part : FinalPart) (host : Machine) (result : Except LiteError Unit)
    (after : Machine) : Prop :=
  Refiled codec plan host after ∧ OthersKept sealed.stream part host after ∧
    match result with
    | .ok _ => FinalInstalled codec sealed part after ∧
        after.count plan.temporaries ≤ host.count plan.temporaries
    | .error _ =>
      host.files (.temporary sealed.stream part) ≠ none ∧
        after.files (.final sealed.stream part) = host.files (.final sealed.stream part) ∧
        after.count plan.temporaries < host.count plan.temporaries

theorem installs_put (codec : LiteCodec) {plan : RunPlan} (isSealed : sealed ∈ plan.seals)
    (absent : host.files (.final sealed.stream part) = none) :
    Installs codec plan sealed part host (.ok ())
      ((host.remove (.temporary sealed.stream part)).put
        (.final sealed.stream part) (finalBytes codec sealed part)) := by
  have others : OthersKept sealed.stream part host
      ((host.remove (.temporary sealed.stream part)).put
        (.final sealed.stream part) (finalBytes codec sealed part)) := by
    intro name notFinal kept
    change Function.update (Function.update host.files _ _) _ _ name = _
    rw [Function.update_of_ne notFinal, Function.update_of_ne kept]
  refine ⟨refiled_of_others isSealed others (.inl absent), others,
    finalInstalled_put host sealed part, ?_⟩
  apply List.countP_mono_left
  intro name mem isSome
  have notFinal : name ≠ .final sealed.stream part := by
    intro same
    unfold RunPlan.temporaries at mem
    simp [same] at mem
  change (Function.update (Function.update host.files _ _) _ _ name).isSome = true at isSome
  rw [Function.update_of_ne notFinal] at isSome
  by_cases isName : name = .temporary sealed.stream part
  · rw [isName, Function.update_self] at isSome
    cases isSome
  · rw [Function.update_of_ne isName] at isSome
    exact isSome

variable (atRun : AtRun codec moments plan row host)
  (isSealed : sealed ∈ (plan row.workflowInstanceId).seals)
include atRun isSealed

theorem steady_quarantined (message : String)
    (isThere : host.files (.temporary sealed.stream part) = some bytes) :
    Steady (device codec) (AtRun codec moments plan row)
      (do quarantineTemporaryFile sealed.stream part
          (fail message : Lite Unit)).run host
      (Installs codec (plan row.workflowInstanceId) sealed part host) := by
  have gone := atRun.remove_temporary isSealed part
  apply Steady.try
  apply steady_quarantine isThere atRun gone
  apply Steady.check gone
  have others : OthersKept sealed.stream part host
      (host.remove (.temporary sealed.stream part)) := by
    intro _ _ kept
    exact Function.update_of_ne kept _ _
  have there : host.files (.temporary sealed.stream part) ≠ none := by
    rw [isThere]
    simp
  refine ⟨refiled_of_others isSealed others (.inr there), others, there, ?_, ?_⟩
  · simp [Machine.remove]
  apply count_lt_of_isSome ?_ (mem_temporaries isSealed part)
  · rw [isThere]
    rfl
  · exact Function.update_self _ _ _
  · intro name _ isSome
    by_cases isName : name = .temporary sealed.stream part
    · rw [isName, isThere]
      rfl
    · simp only [Machine.remove, Function.update_of_ne isName] at isSome
      exact isSome

theorem steady_installFrom (absent : host.files (.final sealed.stream part) = none) :
    Steady (device codec) (AtRun codec moments plan row)
      (installFrom sealed.stream part (finalBytes codec sealed part)
        (host.files (.temporary sealed.stream part))).run host
      (Installs codec (plan row.workflowInstanceId) sealed part host) := by
  have installed := installs_put codec isSealed absent
  cases isThere : host.files (.temporary sealed.stream part) with
  | none =>
    apply Steady.try
    apply steady_writeTemporary isThere atRun
    · intro bytes
      exact atRun.put_temporary isSealed absent bytes
    -- The file just written is renamed, as if it had been there before.
    have same : ((host.put (.temporary sealed.stream part)
        (finalBytes codec sealed part)).remove
          (.temporary sealed.stream part)).put
            (.final sealed.stream part) (finalBytes codec sealed part) =
        (host.remove (.temporary sealed.stream part)).put
          (.final sealed.stream part) (finalBytes codec sealed part) := by
      simp [Machine.put, Machine.remove]
    have wrote := atRun.put_temporary isSealed absent (finalBytes codec sealed part)
    apply steady_install (Function.update_self _ _ _) wrote
    · exact wrote.install isSealed part
    · rw [same]
      exact installed
  | some old =>
    simp only [installFrom]
    by_cases expected : old = finalBytes codec sealed part
    · rw [if_pos expected]
      rw [expected] at isThere
      exact steady_install isThere atRun (atRun.install isSealed part) installed
    · rw [if_neg expected]
      exact steady_quarantined atRun isSealed _ isThere

theorem steady_installFinalFile (part : FinalPart) :
    Steady (device codec) (AtRun codec moments plan row)
      (installFinalFile sealed.stream part (finalBytes codec sealed part)).run host
      (Installs codec (plan row.workflowInstanceId) sealed part host) := by
  obtain ⟨_, staged⟩ := atRun.progress
  have ready := staged.finals sealed isSealed part
  apply Steady.try
  apply steady_readFile atRun
  rcases ready with absent | installed
  · simp only [absent]
    apply Steady.try
    apply steady_readFile atRun
    exact steady_installFrom atRun isSealed absent
  · simp only [installed.1]
    apply Steady.try
    apply steady_readFile atRun
    simp only [installed.2]
    exact ⟨atRun, .refl _ host, fun _ _ _ => rfl, installed, Nat.le_refl _⟩

end Finals

/-- Every final Log has its exit metadata, and no exit metadata is being
written. -/
def Paired (host : Machine) : Prop :=
  ∀ stream, host.files (.temporary stream .exit) = none ∧
    (host.files (.final stream .log) ≠ none → host.files (.final stream .exit) ≠ none)

theorem Paired.of_journals (paired : Paired host)
    (same : ∀ name, (∀ stream, name ≠ .journal stream) →
      after.files name = host.files name) : Paired after := by
  intro stream
  rw [same (.temporary stream .exit) (by simp),
    same (.final stream .log) (by simp), same (.final stream .exit) (by simp)]
  exact paired stream

theorem Paired.of_failedLog
    (paired : Paired host) (others : OthersKept stream .log host after)
    (same : after.files (.final stream .log) =
      host.files (.final stream .log)) : Paired after := by
  intro other
  rw [others (.temporary other .exit) (by simp) (by simp),
    others (.final other .exit) (by simp) (by simp)]
  by_cases own : other = stream
  · rw [own, same]
    exact paired stream
  · rw [others (.final other .log) (by simpa using own) (by simp)]
    exact paired other

theorem Paired.of_installed (paired : Paired host)
    (logOthers : OthersKept sealed.stream .log host after)
    (others : OthersKept sealed.stream .exit after last)
    (installed : FinalInstalled codec sealed .exit last) :
    Paired last := by
  intro other
  by_cases own : other = sealed.stream
  · rw [own]
    refine ⟨installed.2, fun _ => ?_⟩
    rw [installed.1]
    simp
  · rw [others (.temporary other .exit) (by simp) (by simpa using own),
      others (.final other .log) (by simp) (by simp),
      others (.final other .exit) (by simpa using own) (by simp),
      logOthers (.temporary other .exit) (by simp) (by simp),
      logOthers (.final other .log) (by simpa using own) (by simp),
      logOthers (.final other .exit) (by simp) (by simp)]
    exact paired other

section Journals

variable {good : Bytes → Prop} (isThere : host.files (.journal stream) = some file)
include isThere

theorem steady_openJournal {post : Except LiteError LocalLogStagingStream → Machine → Prop}
    (opened : openJournal codec.journal stream .none file = (.stream staging, cut))
    (holds : inv host) (puts : ∀ file, good file → inv (host.put (.journal stream) file))
    (stopped : ∀ wrote, good (openJournal codec.journal stream (.stops wrote) file).2)
    (isGood : good cut) (ended : post (.ok staging) (host.put (.journal stream) cut)) :
    Steady (device codec) inv (openJournalOf stream).run host post := by
  have ran : (device codec).perform (.openExisting stream) host =
      (.ok staging, host.put (.journal stream) cut) := by
    simp only [device, LiteOp.perform, openExisting, isThere, opened]
    rfl
  refine .request holds ?_ ran (puts cut isGood) ended
  rintro _ ⟨wrote, rfl⟩
  have left : (openExisting codec stream (.stops wrote) host).2 = host.put
      (.journal stream) (openJournal codec.journal stream (.stops wrote) file).2 := by
    simp only [openExisting, isThere]
    split <;> simp_all
  rw [left]
  exact puts _ (stopped wrote)

theorem steady_appendFrame
    (added : appendFrame codec.journal frame .none file = (.synced, grown))
    (holds : inv host) (puts : ∀ file, good file → inv (host.put (.journal stream) file))
    (stopped : ∀ wrote, good (appendFrame codec.journal frame (.stops wrote) file).2)
    (isGood : good grown) (ended : post (.ok ()) (host.put (.journal stream) grown)) :
    Steady (device codec) inv (appendFrameTo stream frame).run host post := by
  have ran : (device codec).perform (.append stream frame) host =
      (.ok (), host.put (.journal stream) grown) := by
    simp only [device, LiteOp.perform, appendTo, isThere, added]
    rfl
  refine .request holds ?_ ran (puts grown isGood) ended
  rintro _ ⟨wrote, rfl⟩
  have left : (appendTo codec stream frame (.stops wrote) host).2 = host.put
      (.journal stream) (appendFrame codec.journal frame (.stops wrote) file).2 := by
    simp only [appendTo, isThere]
    split <;> simp_all
  rw [left]
  exact puts _ (stopped wrote)

end Journals

theorem steady_openSealable {post : Except LiteError LocalLogStagingStream → Machine → Prop}
    (isThere : host.files (.journal sealed.stream) = some file)
    (sealable : Sealable codec sealed file) (holds : inv host)
    (puts : ∀ file, Sealable codec sealed file → inv (host.put (.journal sealed.stream) file))
    (ended : ∀ staging cut, Opened codec sealed cut staging →
      post (.ok staging) (host.put (.journal sealed.stream) cut)) :
    Steady (device codec) inv (openJournalOf sealed.stream).run host post := by
  obtain ⟨staging, cut, isOpened, opened⟩ := sealable.opens
  exact steady_openJournal isThere isOpened holds puts sealable.stopped opened.sealable
    (ended staging cut opened)

def Seals (codec : LiteCodec) (plan : RunPlan) (sealed : LogSeal)
    (host : Machine) (result : Except LiteError LogSeal) (after : Machine) : Prop :=
  Refiled codec plan host after ∧ (Paired host → Paired after) ∧ result = .ok sealed ∧
    after.count plan.temporaries ≤ host.count plan.temporaries

theorem seals_put (codec : LiteCodec) {plan : RunPlan} (host : Machine)
    (isSealed : sealed ∈ plan.seals) (file : Bytes) :
    Seals codec plan sealed host (.ok sealed) (host.put (.journal sealed.stream) file) := by
  refine ⟨refiled_put_journal host isSealed file, ?_, rfl, ?_⟩
  · intro paired
    exact paired.of_journals fun name other =>
      Function.update_of_ne (other _) _ _
  apply List.countP_mono_left
  intro name mem isSome
  have other : name ≠ .journal sealed.stream := by
    intro same
    unfold RunPlan.temporaries at mem
    simp [same] at mem
  simp only [Machine.put, Function.update_of_ne other] at isSome
  exact isSome

variable (atRun : AtRun codec moments plan row host)
include atRun

include isSealed

theorem steady_sealJournal :
    Steady (device codec) (AtRun codec moments plan row)
      (sealJournal codec sealed.stream).run host
      (Seals codec (plan row.workflowInstanceId) sealed host) := by
  obtain ⟨⟨_, _, planned⟩, staged⟩ := atRun.progress
  obtain ⟨file, isThere, sealable⟩ := staged.journals sealed isSealed
  have fits := planned.sealFrames sealed isSealed
  apply Steady.try
  apply steady_openSealable isThere sealable atRun
  · intro _ isSealable
    exact atRun.put_journal isSealed isSealable
  intro staging cut opened
  have atCut := atRun.put_journal isSealed opened.sealable
  have built : buildSeal codec.journal staging = .ok sealed := by
    obtain ⟨_, _, _, built⟩ := opened
    exact built
  have ends := seals_put codec host isSealed cut
  rcases opened.sealing with ⟨_, found⟩ | ⟨_, isAppended, final, nextBuilt⟩
  · simp only [found, built]
    exact ⟨atCut, ends⟩
  simp only [isAppended, built]
  apply Steady.try
  obtain ⟨⟨grown, isAppended, isSealable⟩, torn⟩ := opened.appended fits final nextBuilt
  apply steady_appendFrame (Function.update_self _ _ _) isAppended atCut ?_ torn isSealable
  · have same : (host.put (.journal sealed.stream) cut).put
        (.journal sealed.stream) grown = host.put (.journal sealed.stream) grown := by
      simp [Machine.put]
    rw [same]
    exact ⟨atRun.put_journal isSealed isSealable, seals_put codec host isSealed grown⟩
  · intro _ isSealable
    exact atCut.put_journal isSealed isSealable

def InstallsLog (codec : LiteCodec) (plan : RunPlan) (sealed : LogSeal)
    (host : Machine) (result : Except LiteError FinalLogReference) (after : Machine) : Prop :=
  Refiled codec plan host after ∧ (Paired host → Paired after) ∧
    match result with
    | .ok reference =>
      reference = finalLogReference codec sealed ∧
        (∀ part, FinalInstalled codec sealed part after) ∧
        after.count plan.temporaries ≤ host.count plan.temporaries
    | .error _ => after.count plan.temporaries < host.count plan.temporaries

theorem steady_installFinal :
    Steady (device codec) (AtRun codec moments plan row) (installFinal codec sealed).run host
      (InstallsLog codec (plan row.workflowInstanceId) sealed host) := by
  obtain ⟨⟨_, _, planned⟩, _⟩ := atRun.progress
  have same : LogStreamState.acceptedRecordDigest codec.contentDigest
      codec.recordsText sealed.acceptedRecords = sealed.recordDigest :=
    planned.digests sealed isSealed
  unfold installFinal
  rw [if_neg (not_not_intro same)]
  apply Steady.try
  apply (steady_installFinalFile atRun isSealed .log).mono
  intro logResult _ atRunLog logInstalls
  obtain ⟨logRefiled, others, logEnds⟩ := logInstalls
  cases logResult with
  | error =>
    obtain ⟨_, sameLog, fewer⟩ := logEnds
    exact ⟨logRefiled, fun paired => paired.of_failedLog others sameLog, fewer⟩
  | ok =>
    obtain ⟨logInstalled, count⟩ := logEnds
    apply Steady.try
    apply (steady_installFinalFile atRunLog isSealed .exit).mono
    intro result _ atRunExit installs
    obtain ⟨exitRefiled, exitOthers, ends⟩ := installs
    have refiled := logRefiled.trans exitRefiled
    cases result with
    | error =>
      obtain ⟨there, _, fewer⟩ := ends
      refine ⟨refiled, ?_, Nat.lt_of_lt_of_le fewer count⟩
      -- A temporary exit file is there, so the files were not paired.
      intro paired
      rw [others _ (by simp) (by simp)] at there
      exact absurd (paired sealed.stream).1 there
    | ok =>
      obtain ⟨installed, exitCount⟩ := ends
      refine ⟨atRunExit, refiled, ?_, rfl, ?_, Nat.le_trans exitCount count⟩
      · intro paired
        exact paired.of_installed others exitOthers installed
      intro part
      cases part with
      | log => exact exitRefiled.keeps sealed .log logInstalled
      | exit => exact installed

omit isSealed

/-- How the installation of several final Logs ends. -/
def InstallsAll (codec : LiteCodec) (plan : RunPlan) (seals : List LogSeal)
    (host : Machine) (result : Except LiteError (List FinalLogReference))
    (after : Machine) : Prop :=
  Refiled codec plan host after ∧ (Paired host → Paired after) ∧
    match result with
    | .ok references =>
      references = seals.map (finalLogReference codec) ∧
        (∀ sealed ∈ seals, ∀ part, FinalInstalled codec sealed part after) ∧
        after.count plan.temporaries ≤ host.count plan.temporaries
    | .error _ => after.count plan.temporaries < host.count plan.temporaries

theorem steady_installStreams (seals : List LogSeal)
    (areSeals : ∀ sealed ∈ seals, sealed ∈ (plan row.workflowInstanceId).seals) :
    Steady (device codec) (AtRun codec moments plan row)
      (installStreams codec (seals.map LogSeal.stream)).run host
      (InstallsAll codec (plan row.workflowInstanceId) seals host) := by
  induction seals generalizing host with
  | nil => exact ⟨atRun, .refl _ host, id, rfl, by simp, Nat.le_refl _⟩
  | cons sealed _ ih =>
    have isSealed := areSeals sealed (.head _)
    apply Steady.try
    apply (steady_sealJournal atRun isSealed).mono
    intro _ _ atRunSeal isEnd
    obtain ⟨sealRefiled, sealPaired, isOk, sealCount⟩ := isEnd
    rw [isOk]
    apply Steady.try
    apply (steady_installFinal atRunSeal isSealed).mono
    intro logResult _ atRunLog logInstalls
    obtain ⟨logRefiled, logPaired, logEnds⟩ := logInstalls
    have firstRefiled := sealRefiled.trans logRefiled
    have firstPaired := logPaired ∘ sealPaired
    cases logResult with
    | error => exact ⟨firstRefiled, firstPaired, Nat.lt_of_lt_of_le logEnds sealCount⟩
    | ok =>
      obtain ⟨reference, logInstalled, logCount⟩ := logEnds
      have firstCount := Nat.le_trans logCount sealCount
      apply Steady.try
      apply (ih atRunLog fun other ne =>
        areSeals other (.tail _ ne)).mono
      intro restResult _ atRunRest restInstalls
      obtain ⟨restRefiled, restPaired, restEnds⟩ := restInstalls
      have refiled := firstRefiled.trans restRefiled
      cases restResult with
      | error =>
        exact ⟨refiled, restPaired ∘ firstPaired, Nat.lt_of_lt_of_le restEnds firstCount⟩
      | ok =>
        obtain ⟨areReferences, restInstalled, restCount⟩ := restEnds
        refine ⟨atRunRest, refiled, restPaired ∘ firstPaired, ?_, ?_,
          Nat.le_trans restCount firstCount⟩
        · rw [reference, areReferences, List.map_cons]
        · refine List.forall_mem_cons.mpr ⟨?_, restInstalled⟩
          intro part
          exact restRefiled.keeps sealed part (logInstalled part)

end Tickr.Lite
