import Tickr.Lite.Sources

/-!
# How far a staged run has come

The seals of a run's journals and the snapshot of its scope are its plan.
Wherever the process may stop, each staged run is at one of three stages, and
what it shows of the plan is right.
-/

namespace Tickr.Lite

open Table
open LogStream LocalLog LocalScope LocalPickup

/-- What the archive of a run is to hold. -/
structure RunPlan where
  snapshot : ScopeSnapshot
  entries : Bytes
  seals : List LogSeal

def RunPlan.streams (plan : RunPlan) : List LogStreamIdentity := plan.seals.map LogSeal.stream

def RunPlan.completion (codec : LiteCodec) (plan : RunPlan) : Completion :=
  completionOf plan.snapshot (plan.seals.map (finalLogReference codec))

def RunPlan.entry (codec : LiteCodec) (run : Uuid) (plan : RunPlan) : ArchiveEntry :=
  { workflowInstanceId := run
    ctxEnvelope := plan.entries
    completion := plan.completion codec }

/-- The texts of a seal's documents are read as the documents. -/
def FinalsReadBack (codec : LiteCodec) (sealed : LogSeal) : Prop :=
  codec.decodeLog (finalBytes codec sealed .log) = some (finalLogDocument sealed) ∧
    codec.decodeExit (finalBytes codec sealed .exit) = some (finalLogExitMetadata sealed)

structure Planned (codec : LiteCodec) (pickup : PickupStore) (run : Uuid)
    (payload : Bytes) (payloadDigest : String) (plan : RunPlan) : Prop where
  decodes : ∃ envelope projection,
    decodeStaged codec run payload payloadDigest = .ok (envelope, projection) ∧
      validateStreams codec projection plan.streams = .ok () ∧
      checkShippedAt codec envelope = .ok () ∧
      validateProjection codec projection = .ok ()
  streams : logStreams codec
      (fun row => row.workflowInstanceId = some (codec.uuidText run)) pickup =
    .ok plan.streams
  entries : codec.archiveEntries plan.snapshot = .ok plan.entries
  digests : ∀ sealed ∈ plan.seals,
    codec.contentDigest (codec.recordsText sealed.acceptedRecords) = sealed.recordDigest
  sealFrames : ∀ sealed ∈ plan.seals, SealFrame codec sealed
  readBack : ∀ sealed ∈ plan.seals, FinalsReadBack codec sealed

theorem nodup_of_validateStreams (valid : validateStreams codec projection streams = .ok ()) :
    (streams.map LogStreamIdentity.taskInstanceId).Nodup := by
  unfold validateStreams at valid
  split at valid
  · cases valid
  rename_i tasks _
  simp only at valid
  split at valid
  · rename_i matching
    simp only [Bool.and_eq_true, List.all_eq_true, decide_eq_true_eq, List.mem_dedup] at matching
    obtain ⟨⟨expected, actual⟩, length⟩ := matching
    have sameTasks : (streams.map
        LogStreamIdentity.taskInstanceId).toFinset = tasks.toFinset := by
      ext task
      rw [List.mem_toFinset, List.mem_toFinset]
      exact ⟨actual task, expected task⟩
    have same := congrArg Finset.card sameTasks
    rw [List.card_toFinset, List.card_toFinset, length,
      ← List.length_map LogStreamIdentity.taskInstanceId] at same
    have dedup := (List.dedup_sublist _).eq_of_length same
    rw [← dedup]
    exact List.nodup_dedup _
  · cases valid

theorem Planned.eq_of_stream
    (planned : Planned codec pickup run payload payloadDigest plan) (isLeft : left ∈ plan.seals)
    (isRight : right ∈ plan.seals) (same : left.stream = right.stream) :
    left = right := by
  obtain ⟨_, _, _, valid, _⟩ := planned.decodes
  have nodup := nodup_of_validateStreams valid
  unfold RunPlan.streams at nodup
  rw [List.map_map] at nodup
  exact List.inj_on_of_nodup_map nodup isLeft isRight
    (congrArg LogStreamIdentity.taskInstanceId same)

variable (codec : LiteCodec) (moments : Int → Prop)

def FinalInstalled (sealed : LogSeal) (part : FinalPart) (host : Machine) : Prop :=
  host.files (.final sealed.stream part) = some (finalBytes codec sealed part) ∧
    host.files (.temporary sealed.stream part) = none

/-- A final file is not there yet, whatever its temporary one holds, or it is
installed. -/
def FinalReady (sealed : LogSeal) (part : FinalPart) (host : Machine) : Prop :=
  host.files (.final sealed.stream part) = none ∨ FinalInstalled codec sealed part host

def Machine.archivesOf (host : Machine) (run : Uuid) : List ArchiveEntry :=
  host.archives.filter fun entry => entry.workflowInstanceId = run

/-- A run that waits for its archive.  What its journals must be good for is
left open. -/
structure StagedRun (usable : LogSeal → Bytes → Prop) (plan : RunPlan)
    (run : Uuid) (host : Machine) : Prop where
  scope : ScopeReady codec moments run plan.snapshot host.scopes
  journals : ∀ sealed ∈ plan.seals,
    ∃ file, host.files (.journal sealed.stream) = some file ∧ usable sealed file
  finals : ∀ sealed ∈ plan.seals, ∀ part, FinalReady codec sealed part host
  unarchived : host.archivesOf run = []

structure CompleteRun (plan : RunPlan) (run : Uuid) (host : Machine) : Prop where
  scope : ScopeSealed codec run plan.snapshot host.scopes
  finals : ∀ sealed ∈ plan.seals, ∀ part, FinalInstalled codec sealed part host
  archived : host.archivesOf run = [plan.entry codec run]

/-- A drained run: archived once as planned, its scope cleaned, its final Logs
installed and its journals gone. -/
structure DrainedRun (plan : RunPlan) (run : Uuid) (host : Machine) : Prop where
  scope : ScopeCleaned codec run plan.snapshot host.scopes
  finals : ∀ sealed ∈ plan.seals, ∀ part, FinalInstalled codec sealed part host
  journals : ∀ sealed ∈ plan.seals, host.files (.journal sealed.stream) = none
  archived : host.archivesOf run = [plan.entry codec run]

def RunProgress (usable : LogSeal → Bytes → Prop) (plan : RunPlan)
    (row : StagingRow) (host : Machine) : Prop :=
  match row.state with
  | .staged =>
    (∃ payload, row.payload = some payload ∧
      Planned codec host.pickup row.workflowInstanceId payload row.payloadDigest plan) ∧
      StagedRun codec moments usable plan row.workflowInstanceId host
  | .complete completion =>
    (∃ payload, row.payload = some payload ∧
      Planned codec host.pickup row.workflowInstanceId payload row.payloadDigest plan) ∧
      completion = plan.completion codec ∧
      CompleteRun codec plan row.workflowInstanceId host
  | .purged completion =>
    row.payload = none ∧ completion = plan.completion codec ∧
      DrainedRun codec plan row.workflowInstanceId host

structure Stages (usable : LogSeal → Bytes → Prop) (plan : Uuid → RunPlan)
    (host : Machine) : Prop where
  staging_keyed : Keyed StagingRow.workflowInstanceId host.staging
  scopes_keyed : Keyed ScopeRow.scopeId host.scopes.scopes
  apart : ∀ first ∈ host.staging, ∀ second ∈ host.staging,
    first.workflowInstanceId ≠ second.workflowInstanceId →
    ∀ left ∈ (plan first.workflowInstanceId).seals,
      ∀ right ∈ (plan second.workflowInstanceId).seals, left.stream ≠ right.stream
  progress : ∀ row ∈ host.staging,
    RunProgress codec moments usable (plan row.workflowInstanceId) row host

/-- The plans of the staged runs, and the files that belong to none of them. -/
structure DrainPlan where
  runs : Uuid → RunPlan
  others : FileName → Option Bytes

instance : CoeFun DrainPlan fun _ => Uuid → RunPlan := ⟨DrainPlan.runs⟩

def FileName.stream : FileName → LogStreamIdentity
  | .journal stream => stream
  | .final stream _ => stream
  | .temporary stream _ => stream

/-- Every staged run is at a stage of its plan with journals that can be sealed,
and nothing else is touched. -/
structure Draining (plan : DrainPlan) (host : Machine) : Prop
    extends Stages codec moments (Sealable codec) plan.runs host where
  elsewhere : ∀ name,
    (∀ row ∈ host.staging, ∀ sealed ∈ (plan row.workflowInstanceId).seals,
      name.stream ≠ sealed.stream) →
    host.files name = plan.others name

variable {codec : LiteCodec} {moments : Int → Prop} {plan : DrainPlan}
  {run : Uuid} {row : StagingRow} {host after : Machine}

/-- The row of a run changed in place. -/
def Restages (run : Uuid) (before after : List StagingRow) : Prop :=
  ∃ change : StagingRow → StagingRow,
    (∀ row, (change row).workflowInstanceId = row.workflowInstanceId) ∧
      after = updateWhere (fun row => row.workflowInstanceId = run) change before

theorem Restages.refl (run : Uuid) (staging : List StagingRow) : Restages run staging staging := by
  refine ⟨id, fun _ => rfl, ?_⟩
  simp [updateWhere]

theorem Restages.trans (early : Restages run first second) (late : Restages run second third) :
    Restages run first third := by
  obtain ⟨prior, keeps, isSecond⟩ := early
  obtain ⟨later, keepsLate, isThird⟩ := late
  refine ⟨later ∘ prior, ?_, ?_⟩
  · intro row
    exact (keepsLate (prior row)).trans (keeps row)
  rw [isThird, isSecond]
  unfold updateWhere
  rw [List.map_map]
  apply List.map_congr_left
  intro row _
  by_cases isRun : row.workflowInstanceId = run
  · simp [isRun, keeps row]
  · simp [isRun]

theorem Restages.runs {before after : List StagingRow} (restages : Restages run before after) :
    after.map StagingRow.workflowInstanceId = before.map StagingRow.workflowInstanceId := by
  obtain ⟨_, keeps, isAfter⟩ := restages
  rw [isAfter]
  exact map_updateWhere keeps

theorem Restages.mem {before after : List StagingRow}
    (restages : Restages run before after) (mem : row ∈ after)
    (other : row.workflowInstanceId ≠ run) : row ∈ before := by
  obtain ⟨_, keeps, isAfter⟩ := restages
  rw [isAfter] at mem
  obtain ⟨old, isOld, isRow⟩ := mem_updateWhere.mp mem
  by_cases isRun : old.workflowInstanceId = run
  · simp only [isRun, decide_true, if_true] at isRow
    rw [← isRow, keeps] at other
    exact absurd isRun other
  · simp only [isRun] at isRow
    rw [← isRow]
    exact isOld

/-- What belongs to a run may change, and nothing else. -/
structure Touches (plan : DrainPlan) (run : Uuid) (host after : Machine) : Prop where
  pickup : after.pickup = host.pickup
  staging : Restages run host.staging after.staging
  scopes : SameScopes run host.scopes after.scopes
  archives : ∀ other, other ≠ run → after.archivesOf other = host.archivesOf other
  files : ∀ name, (∀ sealed ∈ (plan run).seals,
    name.stream ≠ sealed.stream) → after.files name = host.files name

theorem Touches.trans (early : Touches plan run host after)
    (late : Touches plan run after last) :
    Touches plan run host last := by
  refine ⟨late.pickup.trans early.pickup, early.staging.trans late.staging,
    early.scopes.trans late.scopes, ?_, ?_⟩
  · intro other ne
    exact (late.archives other ne).trans (early.archives other ne)
  · intro name beyond
    exact (late.files name beyond).trans (early.files name beyond)

theorem touches_scopes (same : SameScopes run host.scopes scopes) :
    Touches plan run host { host with scopes } :=
  ⟨rfl, .refl _ _, same, fun _ _ => rfl, fun _ _ => rfl⟩

theorem touches_files (onlyFiles : after = { host with files := after.files })
    (confined : ∀ name, (∀ sealed ∈ (plan run).seals, name.stream ≠ sealed.stream) →
      after.files name = host.files name) : Touches plan run host after := by
  rw [onlyFiles]
  exact ⟨rfl, .refl _ _, .refl _ _, fun _ _ => rfl, confined⟩

theorem FinalInstalled.frame (installed : FinalInstalled codec sealed part host)
    (files : ∀ name, name.stream = sealed.stream → after.files name = host.files name) :
    FinalInstalled codec sealed part after := by
  unfold FinalInstalled at installed ⊢
  rw [files (.final sealed.stream part) rfl, files (.temporary sealed.stream part) rfl]
  exact installed

theorem RunProgress.frame (progress : RunProgress codec moments usable other row host)
    (ne : row.workflowInstanceId ≠ run) (pickup : after.pickup = host.pickup)
    (scopes : SameScopes run host.scopes after.scopes)
    (archives : after.archivesOf row.workflowInstanceId = host.archivesOf row.workflowInstanceId)
    (files : ∀ sealed ∈ other.seals, ∀ name,
      name.stream = sealed.stream → after.files name = host.files name) :
    RunProgress codec moments usable other row after := by
  unfold RunProgress at progress ⊢
  rw [pickup]
  split at progress
  · obtain ⟨planned, staged⟩ := progress
    refine ⟨planned, scopes.ready ne staged.scope, ?_, ?_, ?_⟩
    · intro sealed mem
      rw [files sealed mem (.journal sealed.stream) rfl]
      exact staged.journals sealed mem
    · intro sealed mem part
      rcases staged.finals sealed mem part with absent | installed
      · left
        rw [files sealed mem (.final sealed.stream part) rfl]
        exact absent
      · exact .inr (installed.frame (files sealed mem))
    · rw [archives]
      exact staged.unarchived
  · obtain ⟨planned, ends, complete⟩ := progress
    refine ⟨planned, ends, scopes.sealed ne complete.scope, ?_, ?_⟩
    · intro sealed mem part
      exact (complete.finals sealed mem part).frame (files sealed mem)
    · rw [archives]
      exact complete.archived
  · obtain ⟨payload, ends, drained⟩ := progress
    refine ⟨payload, ends, scopes.cleaned ne drained.scope, ?_, ?_, ?_⟩
    · intro sealed mem part
      exact (drained.finals sealed mem part).frame (files sealed mem)
    · intro sealed mem
      rw [files sealed mem (.journal sealed.stream) rfl]
      exact drained.journals sealed mem
    · rw [archives]
      exact drained.archived

theorem Draining.touched (draining : Draining codec moments plan host)
    (mem : row ∈ host.staging) (touches : Touches plan row.workflowInstanceId host after)
    (keyed : Keyed ScopeRow.scopeId after.scopes.scopes)
    (own : ∀ changed ∈ after.staging, changed.workflowInstanceId = row.workflowInstanceId →
      RunProgress codec moments (Sealable codec) (plan row.workflowInstanceId) changed after) :
    Draining codec moments plan after := by
  have isRun : ∀ changed ∈ after.staging, ∃ held ∈ host.staging,
      held.workflowInstanceId = changed.workflowInstanceId :=
    fun changed changes => exists_mem_of_map_eq touches.staging.runs changes
  refine ⟨⟨?_, keyed, ?_, ?_⟩, ?_⟩
  · unfold Keyed
    rw [touches.staging.runs]
    exact draining.staging_keyed
  · intro first isFirst second isSecond other
    obtain ⟨oldFirst, wasFirst, sameFirst⟩ := isRun first isFirst
    obtain ⟨oldSecond, wasSecond, sameSecond⟩ := isRun second isSecond
    rw [← sameFirst, ← sameSecond] at other ⊢
    exact draining.apart oldFirst wasFirst oldSecond wasSecond other
  · intro changed changes
    by_cases isOwn : changed.workflowInstanceId = row.workflowInstanceId
    · rw [isOwn]
      exact own changed changes isOwn
    have wasThere := touches.staging.mem changes isOwn
    apply (draining.progress changed wasThere).frame isOwn touches.pickup
      touches.scopes (touches.archives _ isOwn)
    intro sealed isSealed _ same
    apply touches.files
    intro own ownSeal
    rw [same]
    exact draining.apart changed wasThere row mem isOwn sealed isSealed own ownSeal
  · intro name beyond
    have there : ∀ held ∈ host.staging, ∃ changed ∈ after.staging,
        changed.workflowInstanceId = held.workflowInstanceId :=
      fun held kept =>
        exists_mem_of_map_eq touches.staging.runs.symm kept
    have wasOutside : ∀ held ∈ host.staging,
        ∀ sealed ∈ (plan held.workflowInstanceId).seals, name.stream ≠ sealed.stream := by
      intro held kept
      obtain ⟨changed, changes, sameRun⟩ := there held kept
      rw [← sameRun]
      exact beyond changed changes
    rw [touches.files name (wasOutside row mem)]
    exact draining.elsewhere name wasOutside

theorem Draining.refreshed (draining : Draining codec moments plan host)
    (mem : row ∈ host.staging) (touches : Touches plan row.workflowInstanceId host after)
    (same : after.staging = host.staging)
    (keyed : Keyed ScopeRow.scopeId after.scopes.scopes)
    (progress : RunProgress codec moments (Sealable codec) (plan row.workflowInstanceId) row after) :
    Draining codec moments plan after := by
  apply draining.touched mem touches keyed
  intro _ changes sameRun
  rw [same] at changes
  rw [draining.staging_keyed.eq changes mem sameRun]
  exact progress

end Tickr.Lite
