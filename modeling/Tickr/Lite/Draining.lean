import Tickr.Lite.Installing

/-!
# Draining to the end

Every pass that finds work finishes a run or takes away a temporary file that a
stop has left, so finitely many passes drain every staged run.
-/

namespace Tickr.Lite

open Concurrent Crash Table Function
open LogStream LocalLog LocalScope

variable {codec : LiteCodec} {moments : Int → Prop} {plan : DrainPlan} {row : StagingRow}
  {host after : Machine} {now : Int} {post : Except LiteError Unit → Machine → Prop}
  {inv : Machine → Prop} {sealed : LogSeal}

/-- The drain is at a run whose archive is committed. -/
structure AtComplete (codec : LiteCodec) (moments : Int → Prop)
    (plan : DrainPlan) (row : StagingRow) (host : Machine) :
    Prop where
  draining : Draining codec moments plan host
  member : row ∈ host.staging
  isComplete : row.state = .complete ((plan row.workflowInstanceId).completion codec)

variable (atRun : AtComplete codec moments plan row host)
include atRun

theorem AtComplete.progress :
    (∃ payload, row.payload = some payload ∧
      Planned codec host.pickup row.workflowInstanceId payload
        row.payloadDigest (plan row.workflowInstanceId)) ∧
      CompleteRun codec (plan row.workflowInstanceId) row.workflowInstanceId host := by
  have progress := atRun.draining.progress row atRun.member
  unfold RunProgress at progress
  rw [atRun.isComplete] at progress
  exact ⟨progress.1, progress.2.2⟩

theorem AtComplete.update
    (touches : Touches plan row.workflowInstanceId host after)
    (same : after.staging = host.staging)
    (keyed : Keyed ScopeRow.scopeId after.scopes.scopes)
    (complete : CompleteRun codec (plan row.workflowInstanceId) row.workflowInstanceId after) :
    AtComplete codec moments plan row after := by
  refine ⟨?_, same ▸ atRun.member, atRun.isComplete⟩
  apply atRun.draining.refreshed atRun.member touches same keyed
  unfold RunProgress
  rw [atRun.isComplete, touches.pickup]
  exact ⟨atRun.progress.1, rfl, complete⟩

omit atRun

variable (keyed : Keyed ScopeRow.scopeId host.scopes.scopes) {run : Uuid}
  {snapshot : ScopeSnapshot}
include keyed

theorem steady_snapshotOf {post : Except LiteError ScopeSnapshot → Machine → Prop}
    (ready : ScopeReady codec moments run snapshot host.scopes)
    (moment : moments now) (holds : inv host)
    (snaps : ∀ scopes, ScopeSealed codec run snapshot scopes →
      SameScopes run host.scopes scopes →
      Keyed ScopeRow.scopeId scopes.scopes →
      inv { host with scopes } ∧
        post (.ok snapshot) { host with scopes }) :
    Steady (device codec) inv (snapshotOf run now).run host post := by
  obtain ⟨answer, scopes, isAnswer, answers, isSealed, same, stillKeyed⟩ :=
    snapshotForRun_ready keyed ready moment
  obtain ⟨kept, ended⟩ := snaps scopes isSealed same stillKeyed
  have ran : (device codec).perform (.snapshotForRun run now) host =
      (.ok answer, { host with scopes }) := by
    simp only [device, LiteOp.perform, isAnswer]
  apply Steady.request holds (fun _ => False.elim) ran kept
  rcases answers with rfl | rfl
  · exact ended
  · exact ended

theorem steady_cleanupScope
    (isSealed : ScopeSealed codec run snapshot host.scopes) (holds : inv host)
    (cleans : ∀ scopes, ScopeCleaned codec run snapshot scopes →
      SameScopes run host.scopes scopes →
      Keyed ScopeRow.scopeId scopes.scopes →
      inv { host with scopes } ∧ post (.ok ()) { host with scopes }) :
    Steady (device codec) inv (cleanupScope snapshot.scopeId).run host post := by
  obtain ⟨answer, scopes, isAnswer, answers, cleaned, same, stillKeyed⟩ :=
    cleanupTickrCtxScope_sealed keyed isSealed
  obtain ⟨kept, ended⟩ := cleans scopes cleaned same stillKeyed
  have ran : (device codec).perform (.cleanupScope snapshot.scopeId)
      host = (.ok answer, { host with scopes }) := by
    simp only [device, LiteOp.perform, isAnswer]
  apply Steady.request holds (fun _ => False.elim) ran kept
  rcases answers with rfl | rfl
  · exact ended
  · exact ended

omit keyed

variable {name : FileName}

theorem steady_readRequired {post : Except LiteError Bytes → Machine → Prop}
    (there : host.files name = some bytes) (holds : inv host)
    (ended : post (.ok bytes) host) :
    Steady (device codec) inv (readRequiredFile name).run host post := by
  have ran : (device codec).perform (.read name) host = (some bytes, host) := by
    simp only [device, LiteOp.perform, there]
    rfl
  exact .request holds (fun _ => False.elim) ran holds ended

variable (readBack : FinalsReadBack codec sealed)
include readBack

variable (same : codec.contentDigest (codec.recordsText sealed.acceptedRecords) = sealed.recordDigest)

include same in
theorem checkFinalLog_ok :
    checkFinalLog codec (finalLogReference codec sealed)
      (finalBytes codec sealed .log) = .ok () := by
  unfold checkFinalLog
  rw [readBack.1]
  simp [finalLogReference, finalLogDocument, same]

theorem checkFinalExit_ok :
    checkFinalExit codec (finalLogReference codec sealed)
      (finalBytes codec sealed .exit) = .ok () := by
  unfold checkFinalExit
  rw [readBack.2]
  simp [finalLogReference, finalLogExitMetadata]

include same in
theorem steady_verifyFinal
    (installed : ∀ part, FinalInstalled codec sealed part host)
    (holds : inv host) (ended : post (.ok ()) host) :
    Steady (device codec) inv (verifyFinal codec (finalLogReference codec sealed)).run host
      post := by
  apply Steady.try
  apply steady_readRequired (installed .log).1 holds
  apply Steady.try
  rw [checkFinalLog_ok readBack same]
  apply Steady.check holds
  apply Steady.try
  apply steady_readRequired (installed .exit).1 holds
  simp only [checkFinalExit_ok readBack]
  exact .check holds ended

omit readBack

theorem steady_verifyAll (seals : List LogSeal)
    (readBack : ∀ sealed ∈ seals, FinalsReadBack codec sealed)
    (same : ∀ sealed ∈ seals, codec.contentDigest
      (codec.recordsText sealed.acceptedRecords) = sealed.recordDigest)
    (installed : ∀ sealed ∈ seals, ∀ part, FinalInstalled codec sealed part host)
    (holds : inv host) (ended : post (.ok ()) host) :
    Steady (device codec) inv (verifyAll codec (seals.map (finalLogReference codec))).run host
      post := by
  induction seals with
  | nil => exact .check holds ended
  | cons sealed _ ih =>
    apply Steady.try
    apply steady_verifyFinal (readBack sealed (.head _))
      (same sealed (.head _))
      (installed sealed (.head _)) holds
    exact ih (fun other ne => readBack other (.tail _ ne))
      (fun other ne => same other (.tail _ ne))
      (fun other ne => installed other (.tail _ ne))

variable (atRun : AtComplete codec moments plan row host)

include atRun in
theorem AtComplete.remove_journal (isSealed : sealed ∈ (plan row.workflowInstanceId).seals) :
    AtComplete codec moments plan row (host.remove (.journal sealed.stream)) := by
  obtain ⟨_, complete⟩ := atRun.progress
  refine atRun.update (touches_files rfl ?_) rfl atRun.draining.scopes_keyed
    ⟨complete.scope, ?_, complete.archived⟩
  · intro _ beyond
    exact update_of_ne (ne_of_outside isSealed rfl beyond) _ _
  · intro other ne part
    have installed := complete.finals other ne part
    simp only [FinalInstalled, Machine.remove] at installed ⊢
    rw [update_of_ne (by simp), update_of_ne (by simp)]
    exact installed

/-- Journals of the run are gone, and nothing else has changed. -/
structure Purges (plan : RunPlan) (host after : Machine) : Prop where
  onlyFiles : after = { host with files := after.files }
  confined : ∀ name, (∀ sealed ∈ plan.seals, name.stream ≠ sealed.stream) →
    after.files name = host.files name
  onlyJournals : ∀ name, (∀ stream, name ≠ .journal stream) → after.files name = host.files name
  gone : ∀ name, after.files name = host.files name ∨ after.files name = none

theorem Purges.refl (plan : RunPlan) (host : Machine) :
    Purges plan host host := ⟨rfl, fun _ _ => rfl, fun _ _ => rfl, fun _ => .inl rfl⟩

theorem Purges.trans {plan : RunPlan}
    (first : Purges plan host after) (second : Purges plan after last) :
    Purges plan host last := by
  constructor
  · rw [second.onlyFiles, first.onlyFiles]
  · intro name beyond
    exact (second.confined name beyond).trans (first.confined name beyond)
  · intro name journal
    exact (second.onlyJournals name journal).trans (first.onlyJournals name journal)
  · intro name
    rcases second.gone name with same | isGone
    · rw [same]
      exact first.gone name
    · exact .inr isGone

theorem purges_remove {plan : RunPlan} (host : Machine) (isSealed : sealed ∈ plan.seals) :
    Purges plan host (host.remove (.journal sealed.stream)) := by
  refine ⟨rfl, ?_, ?_, ?_⟩
  · intro _ beyond
    exact update_of_ne (ne_of_outside isSealed rfl beyond) _ _
  · intro _ notJournal
    exact update_of_ne (notJournal _) _ _
  · intro other
    by_cases isName : other = .journal sealed.stream
    · right
      rw [isName]
      exact update_self _ _ _
    · exact .inl (update_of_ne isName _ _)

include atRun

theorem steady_purgeStaged (isSealed : sealed ∈ (plan row.workflowInstanceId).seals) :
    Steady (device codec) (AtComplete codec moments plan row)
      (purgeStaged codec (finalLogReference codec sealed)).run host
      fun result after => result = .ok () ∧ Purges (plan row.workflowInstanceId) host after ∧
        after.files (.journal sealed.stream) = none := by
  obtain ⟨⟨_, _, planned⟩, complete⟩ := atRun.progress
  apply Steady.try
  apply steady_verifyFinal (planned.readBack sealed isSealed)
    (planned.digests sealed isSealed) (complete.finals sealed isSealed) atRun
  apply Steady.try
  apply steady_readFile atRun
  have same : (finalLogReference codec sealed).stream =
      sealed.stream := rfl
  rw [same]
  cases there : host.files (.journal sealed.stream) with
  | none => exact ⟨atRun, rfl, .refl _ host, there⟩
  | some =>
    have ran : (device codec).perform (.removeJournal sealed.stream)
        host = (.ok (), host.remove (.journal sealed.stream)) := by
      simp only [device, LiteOp.perform, removeFile, there]
      rfl
    apply Steady.request atRun (fun _ => False.elim) ran (atRun.remove_journal isSealed)
    exact ⟨rfl, purges_remove host isSealed, update_self _ _ _⟩

theorem steady_purgeAll (seals : List LogSeal)
    (areSeals : ∀ sealed ∈ seals, sealed ∈ (plan row.workflowInstanceId).seals) :
    Steady (device codec) (AtComplete codec moments plan row)
      (purgeAll codec (seals.map (finalLogReference codec))).run host
      fun result after => result = .ok () ∧ Purges (plan row.workflowInstanceId) host after ∧
        ∀ sealed ∈ seals, after.files (.journal sealed.stream) = none := by
  induction seals generalizing host with
  | nil => exact ⟨atRun, rfl, .refl _ host, by simp⟩
  | cons sealed _ ih =>
    apply Steady.try
    apply (steady_purgeStaged atRun (areSeals sealed (.head _))).mono
    intro _ _ atFirst ends
    obtain ⟨isOk, firstPurges, firstGone⟩ := ends
    rw [isOk]
    apply (ih atFirst fun other ne =>
      areSeals other (.tail _ ne)).mono
    intro _ _ _ restEnds
    obtain ⟨restOk, purges, restGone⟩ := restEnds
    refine ⟨restOk, firstPurges.trans purges, List.forall_mem_cons.mpr ⟨?_, restGone⟩⟩
    rcases purges.gone (.journal sealed.stream) with same | isGone
    · rw [same]
      exact firstGone
    · exact isGone

omit atRun

/-- What a run still costs: one pass, and one more for each temporary file. -/
def weight (plan : DrainPlan) (host : Machine) (row : StagingRow) : Nat :=
  if row.state.isUnfinished then
    1 + host.count (plan row.workflowInstanceId).temporaries
  else 0

def remaining (plan : DrainPlan) (host : Machine) : Nat :=
  (host.staging.map (weight plan host)).sum

def Finished (host : Machine) : Prop := ∀ row ∈ host.staging, row.state.isUnfinished = false

theorem mem_seals_of_temporary {plan : RunPlan} (mem : name ∈ plan.temporaries) :
    ∃ sealed ∈ plan.seals, name.stream = sealed.stream := by
  obtain ⟨sealed, isSealed, isName⟩ := List.mem_flatMap.mp mem
  refine ⟨sealed, isSealed, ?_⟩
  simp only [List.mem_cons, List.not_mem_nil, or_false] at isName
  rcases isName with log | exit
  · rw [log]
    rfl
  · rw [exit]
    rfl

variable (draining : Draining codec moments plan host) (mem : row ∈ host.staging)
  (touches : Touches plan row.workflowInstanceId host after)
include draining mem touches

theorem weight_frame {other : StagingRow} (member : other ∈ host.staging)
    (ne : other.workflowInstanceId ≠ row.workflowInstanceId) :
    weight plan after other = weight plan host other := by
  have sameCount : after.count (plan other.workflowInstanceId).temporaries =
      host.count (plan other.workflowInstanceId).temporaries := by
    apply List.countP_congr
    intro name isName
    obtain ⟨sealed, isSealed, same⟩ := mem_seals_of_temporary isName
    rw [touches.files name]
    intro own isOwn
    rw [same]
    exact draining.apart other member row mem ne sealed isSealed own isOwn
  unfold weight
  rw [sameCount]

/-- A pass that makes its own run lighter leaves less to do. -/
theorem remaining_lt
    (lighter : ∀ changed ∈ after.staging, changed.workflowInstanceId = row.workflowInstanceId →
      weight plan after changed < weight plan host row) :
    remaining plan after < remaining plan host := by
  obtain ⟨change, keeps, isAfter⟩ := touches.staging
  unfold remaining
  rw [isAfter, updateWhere, List.map_map]
  have own : ∀ stored ∈ host.staging, stored.workflowInstanceId = row.workflowInstanceId →
      weight plan after (change stored) < weight plan host stored := by
    intro _ kept same
    have isRow := draining.staging_keyed.eq kept mem same
    rw [isRow]
    apply lighter
    · rw [isAfter]
      exact mem_updateWhere_of mem (by simp)
    · exact keeps row
  apply List.sum_lt_sum
  · intro stored kept
    by_cases same : stored.workflowInstanceId = row.workflowInstanceId
    · simp only [comp, same]
      exact Nat.le_of_lt (own stored kept same)
    · simp only [comp, same]
      exact Nat.le_of_eq (weight_frame draining mem touches kept same)
  · refine ⟨row, mem, ?_⟩
    simp only [comp]
    exact own row mem rfl

omit touches mem draining

variable {change : StagingRow → StagingRow} {selects : StagingRow → Bool}

theorem eq_of_updateWhere (keyed : Keyed StagingRow.workflowInstanceId host.staging)
    (mem : row ∈ host.staging) (changes : changed ∈ updateWhere selects change host.staging)
    (sameRun : changed.workflowInstanceId = row.workflowInstanceId) (picked : selects row = true)
    (keeps : ∀ row, (change row).workflowInstanceId = row.workflowInstanceId) :
    changed = change row := by
  obtain ⟨old, isOld, isRow⟩ := mem_updateWhere.mp changes
  have oldRun : old.workflowInstanceId = row.workflowInstanceId := by
    rw [← sameRun, ← isRow]
    by_cases oldSelected : selects old = true
    · rw [if_pos oldSelected, keeps]
    · rw [if_neg oldSelected]
  have same := keyed.eq isOld mem oldRun
  rw [same, if_pos picked] at isRow
  exact isRow.symm

/-- The end of a pass that drained its run. -/
def Drains (plan : DrainPlan) (row : StagingRow) (host : Machine)
    (result : Except LiteError Unit) (after : Machine) : Prop :=
  result = .ok () ∧ Touches plan row.workflowInstanceId host after ∧
    (Paired host → Paired after) ∧
    ∀ changed ∈ after.staging, changed.workflowInstanceId = row.workflowInstanceId →
      changed.state.isUnfinished = false

/-- The row of a run whose staged payload is purged. -/
def purgedRow (completion : Completion) (row : StagingRow) : StagingRow :=
  { row with
    state := .purged completion
    payload := none }

include atRun

theorem steady_purgeStaging
    (cleaned : ScopeCleaned codec row.workflowInstanceId
      (plan row.workflowInstanceId).snapshot host.scopes)
    (journals : ∀ sealed ∈ (plan row.workflowInstanceId).seals,
      host.files (.journal sealed.stream) = none) :
    Steady (device codec) (Draining codec moments plan)
      (purgeStaging row.workflowInstanceId).run host
      (Drains plan row host) := by
  obtain ⟨_, complete⟩ := atRun.progress
  have keyed := atRun.draining.staging_keyed
  obtain ⟨after, isAfter⟩ : ∃ after, after = { host with
      staging := updateWhere (fun kept => kept.workflowInstanceId = row.workflowInstanceId)
        (purgedRow ((plan row.workflowInstanceId).completion codec)) host.staging } := ⟨_, rfl⟩
  have ran : (device codec).perform (.purgeCompleted row.workflowInstanceId) host =
      (.purged, after) := by
    simp only [device, LiteOp.perform, purgeCompleted, keyed.find atRun.member, atRun.isComplete,
      isAfter]
    rfl
  have own : ∀ changed ∈ after.staging, changed.workflowInstanceId = row.workflowInstanceId →
      changed = purgedRow ((plan row.workflowInstanceId).completion codec) row := by
    intro _ changes same
    rw [isAfter] at changes
    exact eq_of_updateWhere keyed atRun.member changes same (decide_eq_true rfl) fun _ => rfl
  have touches : Touches plan row.workflowInstanceId host after := by
    rw [isAfter]
    exact ⟨rfl, ⟨purgedRow _, fun _ => rfl, rfl⟩, .refl _ _, fun _ _ => rfl, fun _ _ => rfl⟩
  apply Steady.request atRun.draining (fun _ => False.elim) ran
  · apply atRun.draining.touched atRun.member touches
    · rw [isAfter]
      exact atRun.draining.scopes_keyed
    · intro changed changes same
      rw [own changed changes same, isAfter]
      exact ⟨rfl, rfl, cleaned, complete.finals, journals, complete.archived⟩
  · refine ⟨rfl, touches, ?_, ?_⟩
    · rw [isAfter]
      exact id
    · intro changed changes same
      rw [own changed changes same]
      rfl

theorem steady_finishCleanup
    (moment : moments now) (bytes : row.payload = some payload) :
    Steady (device codec) (Draining codec moments plan)
      (finishCleanup codec row.workflowInstanceId payload row.payloadDigest
        ((plan row.workflowInstanceId).completion codec) now).run host
      (Drains plan row host) := by
  obtain ⟨⟨_, same, planned⟩, complete⟩ := atRun.progress
  rw [bytes] at same
  rw [← Option.some.inj same] at planned
  obtain ⟨_, _, decoded, valid, _⟩ := planned.decodes
  have sameStreams : ((plan row.workflowInstanceId).completion
      codec).finalLogReferences.map FinalLogReference.stream =
        (plan row.workflowInstanceId).streams := by
    unfold RunPlan.completion completionOf RunPlan.streams
    rw [List.map_map]
    rfl
  apply Steady.try
  rw [decoded]
  apply Steady.check atRun.draining
  apply Steady.try
  rw [sameStreams, valid]
  apply Steady.check atRun.draining
  apply Steady.try
  apply steady_snapshotOf atRun.draining.scopes_keyed complete.scope.ready moment atRun.draining
  intro scopes isSealed sameScopes keyed
  have snapshotTouches : Touches plan row.workflowInstanceId host
      { host with scopes } := touches_scopes sameScopes
  have snap := atRun.update snapshotTouches rfl keyed
    ⟨isSealed, complete.finals, complete.archived⟩
  refine ⟨snap.draining, ?_⟩
  obtain ⟨_, snapshotComplete⟩ := snap.progress
  apply Steady.try
  have isScope : checkScope codec ((plan row.workflowInstanceId).completion codec)
      (plan row.workflowInstanceId).snapshot = .ok () := by
    unfold checkScope
    rw [planned.entries]
    simp [RunPlan.completion, completionOf, Except.map, Except.mapError]
  rw [isScope]
  apply Steady.check snap.draining
  apply Steady.try
  apply steady_verifyAll (plan row.workflowInstanceId).seals planned.readBack
    planned.digests snapshotComplete.finals snap.draining
  apply Steady.try
  apply steady_cleanupScope snap.draining.scopes_keyed isSealed snap.draining
  intro cleanScopes cleaned cleanSame cleanKeyed
  have clean : Touches plan row.workflowInstanceId { host with scopes }
      { host with scopes := cleanScopes } := touches_scopes cleanSame
  have atClean := snap.update clean rfl cleanKeyed
    ⟨cleaned.isSealed, snapshotComplete.finals, snapshotComplete.archived⟩
  refine ⟨atClean.draining, ?_⟩
  apply Steady.try
  apply ((steady_purgeAll atClean (plan row.workflowInstanceId).seals
    fun _ isSealed => isSealed).relax fun _ holds => holds.draining).mono
  intro _ purged _ ends
  obtain ⟨atPurged, isOk, purges, journals⟩ := ends
  rw [isOk]
  have touches := (snapshotTouches.trans clean).trans
    (touches_files purges.onlyFiles purges.confined)
  have stillCleaned : ScopeCleaned codec row.workflowInstanceId
      (plan row.workflowInstanceId).snapshot purged.scopes := by
    rw [purges.onlyFiles]
    exact cleaned
  apply (steady_purgeStaging atPurged stillCleaned journals).mono
  intro _ _ _ drains
  obtain ⟨drained, lastTouches, lastPaired, ended⟩ := drains
  refine ⟨drained, touches.trans lastTouches, ?_, ended⟩
  intro paired
  exact lastPaired (paired.of_journals purges.onlyJournals)

omit atRun

/-- The row of a run whose archive is committed. -/
def completeRow (completion : Completion) (row : StagingRow) : StagingRow :=
  { row with state := .complete completion }

theorem restages_of_selects (staging : List StagingRow)
    (ofRun : ∀ row, selects row = true → row.workflowInstanceId = run)
    (keeps : ∀ row, (change row).workflowInstanceId = row.workflowInstanceId) :
    Restages run staging (updateWhere selects change staging) := by
  refine ⟨fun row => if selects row then change row else row, ?_, ?_⟩
  · intro row
    by_cases picked : selects row = true
    · simp only [picked, if_true, keeps]
    · simp only [picked, Bool.false_eq_true, if_false]
  · apply List.map_congr_left
    intro row _
    by_cases picked : selects row = true
    · simp [ofRun row picked]
    · simp [picked]

theorem archivesOf_append {staging : List StagingRow} (unarchived : host.archivesOf run = [])
    (ofRun : entry.workflowInstanceId = run) :
    Machine.archivesOf { host with
        archives := host.archives ++ [entry]
        staging := staging } run = [entry] := by
  unfold Machine.archivesOf at unarchived ⊢
  rw [List.filter_append, unarchived]
  simp [ofRun]

theorem steady_archiveRun (atRun : AtRun codec moments plan row host)
    (isSealed : ScopeSealed codec row.workflowInstanceId
      (plan row.workflowInstanceId).snapshot host.scopes)
    (installed : ∀ sealed ∈ (plan row.workflowInstanceId).seals, ∀ part,
      FinalInstalled codec sealed part host) :
    Steady (device codec) (Draining codec moments plan)
      (archiveRun ((plan row.workflowInstanceId).entry codec
        row.workflowInstanceId) row.payloadDigest).run host
      fun result after => result = .ok () ∧ Touches plan row.workflowInstanceId host after ∧
        after.files = host.files ∧
        AtComplete codec moments plan
          (completeRow ((plan row.workflowInstanceId).completion codec) row)
          after := by
  obtain ⟨planned, staged⟩ := atRun.progress
  have keyed := atRun.draining.staging_keyed
  have ofRun : ∀ kept : StagingRow,
      (kept.workflowInstanceId = row.workflowInstanceId &&
        kept.payloadDigest = row.payloadDigest && kept.state = .staged) = true →
        kept.workflowInstanceId = row.workflowInstanceId := by
    intro _ picked
    simp only [Bool.and_eq_true, decide_eq_true_eq] at picked
    exact picked.1.1
  have picked : (row.workflowInstanceId = row.workflowInstanceId &&
      row.payloadDigest = row.payloadDigest && row.state = .staged) = true := by
    simp [atRun.isStaged]
  have one := affected_eq_one keyed ofRun atRun.member picked
  obtain ⟨after, isAfter⟩ : ∃ after, after = { host with
      archives := host.archives ++
        [(plan row.workflowInstanceId).entry codec row.workflowInstanceId]
      staging := updateWhere (fun kept =>
          kept.workflowInstanceId = row.workflowInstanceId &&
            kept.payloadDigest = row.payloadDigest && kept.state = StagingState.staged)
        (completeRow ((plan row.workflowInstanceId).completion codec)) host.staging } :=
    ⟨_, rfl⟩
  have ran : (device codec).perform
      (.archive ((plan row.workflowInstanceId).entry codec row.workflowInstanceId)
        row.payloadDigest) host = (.ok (), after) := by
    simp only [device, LiteOp.perform, archiveStaged, RunPlan.entry, one, isAfter]
    rfl
  have touches : Touches plan row.workflowInstanceId host after := by
    rw [isAfter]
    refine ⟨rfl, restages_of_selects host.staging ofRun fun _ => rfl,
      .refl _ _, ?_, fun _ _ => rfl⟩
    intro _ ne
    simp [Machine.archivesOf, RunPlan.entry, ne.symm]
  have draining : Draining codec moments plan after := by
    apply atRun.draining.touched atRun.member touches
    · rw [isAfter]
      exact atRun.draining.scopes_keyed
    · intro _ changes same
      rw [isAfter] at changes ⊢
      rw [eq_of_updateWhere keyed atRun.member changes same picked fun _ => rfl]
      refine ⟨planned, rfl, isSealed, installed, ?_⟩
      exact archivesOf_append staged.unarchived rfl
  apply Steady.request atRun.draining (fun _ => False.elim) ran draining
  rw [isAfter] at touches draining ⊢
  exact ⟨rfl, touches, rfl, draining, mem_updateWhere_of atRun.member picked, rfl⟩

/-- How a pass over a run ends: the run is drained, or a temporary file is
gone. -/
def PassEnds (plan : DrainPlan) (row : StagingRow) (host : Machine)
    (result : Except LiteError Unit) (after : Machine) : Prop :=
  Drains plan row host result after ∨
    (∃ error, result = .error error) ∧ Touches plan row.workflowInstanceId host after ∧
      (Paired host → Paired after) ∧
      after.staging = host.staging ∧
      after.count (plan row.workflowInstanceId).temporaries <
        host.count (plan row.workflowInstanceId).temporaries

theorem steady_drainStaged (atRun : AtRun codec moments plan row host)
    (moment : moments now) (bytes : row.payload = some payload) :
    Steady (device codec) (Draining codec moments plan)
      (drainStaged codec row.workflowInstanceId payload row.payloadDigest
        now).run host (PassEnds plan row host) := by
  obtain ⟨⟨_, same, planned⟩, staged⟩ := atRun.progress
  rw [bytes] at same
  rw [← Option.some.inj same] at planned
  obtain ⟨_, _, decoded, valid, shipped, archivable⟩ := planned.decodes
  apply Steady.try
  rw [decoded]
  apply Steady.check atRun.draining
  apply Steady.try
  have ran : (device codec).perform
      (.streamsForRun row.workflowInstanceId) host =
        (.ok (plan row.workflowInstanceId).streams, host) := by
    simp only [device, LiteOp.perform, planned.streams]
  apply Steady.request atRun.draining (fun _ => False.elim) ran atRun.draining
  apply Steady.try
  rw [valid]
  apply Steady.check atRun.draining
  apply Steady.try
  apply steady_snapshotOf atRun.draining.scopes_keyed staged.scope moment atRun.draining
  intro scopes isSealed sameScopes keyed
  have early : Touches plan row.workflowInstanceId host { host with scopes } :=
    touches_scopes sameScopes
  have snap := atRun.update early rfl keyed
    ⟨isSealed.ready, staged.journals, staged.finals, staged.unarchived⟩
  refine ⟨snap.draining, ?_⟩
  apply Steady.try
  rw [planned.entries]
  apply Steady.check snap.draining
  apply Steady.try
  apply ((steady_installStreams snap
    (plan row.workflowInstanceId).seals fun _ isSealed => isSealed).relax
      fun _ holds => holds.draining).mono
  intro result installs _ ends
  obtain ⟨atInstalled, refiled, stillPaired, ends⟩ := ends
  have touches := early.trans (touches_files refiled.onlyFiles refiled.confined)
  cases result with
  | error error =>
    refine .inr ⟨⟨error, rfl⟩, touches, stillPaired, ?_, ends⟩
    rw [refiled.onlyFiles]
  | ok =>
    obtain ⟨references, installed, _⟩ := ends
    have stillSealed : ScopeSealed codec row.workflowInstanceId
        (plan row.workflowInstanceId).snapshot installs.scopes := by
      rw [refiled.onlyFiles]
      exact isSealed
    apply Steady.try
    rw [shipped]
    apply Steady.check atInstalled.draining
    apply Steady.try
    rw [archivable]
    apply Steady.check atInstalled.draining
    apply Steady.try
    rw [references]
    apply (steady_archiveRun atInstalled stillSealed installed).mono
    intro _ _ _ archives
    obtain ⟨isOk, archive, files, complete⟩ := archives
    rw [isOk]
    apply (steady_finishCleanup complete moment bytes).mono
    intro _ _ _ drains
    obtain ⟨drained, lastTouches, lastPaired, ended⟩ := drains
    refine .inl ⟨drained, (touches.trans archive).trans lastTouches, ?_, ended⟩
    intro paired
    apply lastPaired
    exact (stillPaired paired).of_journals fun _ _ => by rw [files]

include draining

theorem selectForDrain_cases :
    (selectForDrain codec host.staging = .ok none ∧ Finished host) ∨
      ∃ row ∈ host.staging, ∃ payload, row.payload = some payload ∧
        ((row.state = .staged ∧
            selectForDrain codec host.staging =
              .ok (some (.staged row.workflowInstanceId payload row.payloadDigest))) ∨
          row.state = .complete ((plan row.workflowInstanceId).completion codec) ∧
            selectForDrain codec host.staging =
              .ok (some (.complete row.workflowInstanceId payload row.payloadDigest
                ((plan row.workflowInstanceId).completion codec)))) := by
  have members : ∀ row, row ∈ unfinishedRows codec host.staging ↔
      row ∈ host.staging ∧ row.state.isUnfinished = true := by
    intro _
    unfold unfinishedRows
    rw [List.mem_insertionSort, List.mem_filter]
  unfold selectForDrain
  cases isHead : (unfinishedRows codec host.staging).head? with
  | none =>
    left
    refine ⟨rfl, ?_⟩
    intro row mem
    rw [List.head?_eq_none_iff] at isHead
    by_contra isUnfinished
    have member := (members row).mpr ⟨mem, by simpa using isUnfinished⟩
    rw [isHead] at member
    exact absurd member List.not_mem_nil
  | some row =>
    right
    obtain ⟨mem, isUnfinished⟩ := (members row).mp (List.mem_of_mem_head? isHead)
    have progress := draining.progress row mem
    unfold RunProgress at progress
    refine ⟨row, mem, ?_⟩
    split at progress
    · rename_i stages
      obtain ⟨⟨payload, bytes, _⟩, _⟩ := progress
      refine ⟨payload, bytes, .inl ⟨stages, ?_⟩⟩
      simp only [bytes, stages]
    · rename_i completion whole
      obtain ⟨⟨payload, bytes, _⟩, completes, _⟩ := progress
      rw [completes] at whole
      refine ⟨payload, bytes, .inr ⟨whole, ?_⟩⟩
      simp only [bytes, whole]
    · rename_i completion purged
      rw [purged] at isUnfinished
      cases isUnfinished

include mem in
/-- A pass that drains its run, or loses a temporary file of it, leaves less
to do. -/
theorem remaining_lt_of_passEnds (isUnfinished : row.state.isUnfinished = true)
    {result : Except LiteError Unit} (ends : PassEnds plan row host result after) :
    remaining plan after < remaining plan host := by
  rcases ends with ⟨_, touches, _, drained⟩ | ⟨_, touches, _, sameStaging, _⟩
  · apply remaining_lt draining mem touches
    intro changed changes same
    have ended := drained changed changes same
    have above : 0 < weight plan host row := by
      rw [weight, if_pos isUnfinished]
      omega
    unfold weight at above ⊢
    rw [ended]
    exact above
  · apply remaining_lt draining mem touches
    intro _ changes same
    rw [sameStaging] at changes
    have isRow := draining.staging_keyed.eq changes mem same
    rw [isRow]
    unfold weight
    rw [if_pos isUnfinished, if_pos isUnfinished]
    omega

omit draining

/-- How one pass of the drain ends: there was nothing left to do, or there is
less to do. -/
def NextEnds (plan : DrainPlan) (host : Machine)
    (result : Except LiteError Bool) (after : Machine) : Prop :=
  (result = .ok false ∧ after = host ∧ Finished host) ∨
    result ≠ .ok false ∧ ¬ Finished host ∧ remaining plan after < remaining plan host ∧
      (Paired host → Paired after)

include mem

theorem not_finished (isUnfinished : row.state.isUnfinished = true) : ¬ Finished host := by
  intro ended
  rw [ended row mem] at isUnfinished
  cases isUnfinished

include draining

theorem Steady.drained (isUnfinished : row.state.isUnfinished = true)
    (steady : Steady (device codec) (Draining codec moments plan) program.run
      host (PassEnds plan row host)) :
    Steady (device codec) (Draining codec moments plan) (do
        program
        Program.check (.ok true) : Lite Bool).run host
      (NextEnds plan host) := by
  apply Steady.try
  apply steady.mono
  intro result after holds ends
  have fewer := remaining_lt_of_passEnds draining mem isUnfinished ends
  have undone := not_finished mem isUnfinished
  have paired : Paired host → Paired after := by
    rcases ends with ⟨_, _, paired, _⟩ | ⟨_, _, paired, _⟩
    · exact paired
    · exact paired
  cases result with
  | ok =>
    apply Steady.check holds
    exact .inr ⟨by simp, undone, fewer, paired⟩
  | error => exact .inr ⟨by simp, undone, fewer, paired⟩

omit mem

theorem steady_drainNext (moment : moments now) :
    Steady (device codec) (Draining codec moments plan)
      (drainNext codec now).run host (NextEnds plan host) := by
  apply Steady.try
  apply Steady.request draining (fun _ => False.elim) rfl draining
  simp only [device, LiteOp.perform]
  rcases selectForDrain_cases draining with
    ⟨isNone, ended⟩ | ⟨_, mem, _, bytes, picked⟩
  · rw [isNone]
    apply Steady.check draining
    exact .inl ⟨rfl, rfl, ended⟩
  rcases picked with ⟨staged, picked⟩ | ⟨whole, picked⟩
  · rw [picked]
    apply Steady.drained draining mem (by rw [staged]; rfl)
    exact steady_drainStaged ⟨draining, mem, staged⟩ moment bytes
  · rw [picked]
    apply Steady.drained draining mem (by rw [whole]; rfl)
    apply (steady_finishCleanup ⟨draining, mem, whole⟩ moment bytes).mono
    intro _ _ _ drains
    exact .inl drains

omit draining

end Tickr.Lite
