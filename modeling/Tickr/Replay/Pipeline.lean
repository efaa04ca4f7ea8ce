import Tickr.Replay.Repository

/-!
# The replay pipeline

A request is validated against the archive, committed as a row and driven: the
Trigger is relayed, the scope rehydrated, the born-Stall released and the row
settled.  A later pass rebuilds a failed drive from the row and the archive.
Minting, planning and gating are parameters of the deployment.
-/

namespace Tickr.Replay

open Concurrent KeyValue Program
open LogStream (Uuid)

inductive ReplayReject where
  | rootUnfireable (root : Uuid)
  | noFailedNodes
  | versionUnresolvable

/-- The runs from which a replayed run descends, with their archives. -/
abbrev Ancestors := List (Uuid × ReplaySource)

/-- An archive and the pure transforms of the pipeline over it. -/
structure Deployment where
  archive : Uuid → Option ReplaySource
  replayInstanceId : Uuid → Uuid → Uuid
  defaultResumeFrom : Json → List Uuid
  seedGraph : Json → List Uuid → Except ReplayReject (Json × List Uuid × List Uuid)
  seedSha256 : ReplaySeed → String
  parentHydrationGate : ReplaySource → Ancestors → Except Uuid Unit
  planCarried : ReplaySource → Ancestors → List Uuid → List CarriedKey

inductive ReplayError where
  | rootUnfireable (root : Uuid)
  | noFailedNodes
  | parentNeverHydrated (nearestHydratedAncestor : Uuid)
  | shadowUndeclared (key : String)
  | shadowTaskProduced (key : String)
  | shadowSchemaUnresolvable (version : Int)
  | persist (error : RepositoryError)
  | archive (message : String)

inductive ReplayIngress where
  | accepted (replayInstanceId : Uuid) (doomed : List Uuid)
  | deduplicated (replayInstanceId : Uuid)
  | versionUnresolvable (replayInstanceId : Uuid)

structure ReplayRequest where
  sourceInstanceId : Uuid
  resumeFrom : List Uuid
  (name idempotencyKey : Option String)
  inputs : List (String × Json)

abbrev ReplayProgram (ε α : Type) := ExceptT ε (Program ReplayOp ReplayOp.Reply) α

/-- A call whose failure is passed on. -/
def call (op : ReplayOp) : ReplayProgram RepositoryError op.Result := request op id

/-- A call whose failure is one of persistence. -/
def persist (op : ReplayOp) : ReplayProgram ReplayError op.Result :=
  mapError .persist (call op)

/-- Fireability is validated and the seeded graph built in one transform. -/
def mintReplaySeed (setup : Deployment) (sourceInstanceId : Uuid)
    (graph tasks : Json) (workflowVersion : Int) (resumeFrom : List Uuid)
    (signalId : Uuid) : Except ReplayReject (ReplaySeed × List Uuid) :=
  let frontier := if resumeFrom = [] then setup.defaultResumeFrom graph else resumeFrom
  match setup.seedGraph graph frontier with
  | .ok (seededGraph, preGrounded, doomed) =>
    .ok (⟨setup.replayInstanceId sourceInstanceId signalId, preGrounded,
      seededGraph, tasks, workflowVersion⟩, doomed)
  | .error reject => .error reject

def mapSeedReject : ReplayReject → ReplayError
  | .rootUnfireable root => .rootUnfireable root
  | .noFailedNodes => .noFailedNodes
  | .versionUnresolvable => .archive "archived graph unexpectedly absent at mint"

def buildTriggerSignal (seed : ReplaySeed) (workflowId : Uuid)
    (decision : ReplayDecision) : ReplayTrigger where
  signalId := decision.signalId
  workflowId := workflowId
  sourceInstanceId := decision.sourceInstanceId
  resumeFrom := decision.resumeFrom
  name := decision.name
  replay := seed

/-- The classification of one input against the pinned definition. -/
def shadowWrite (definition : PinnedDefinition) (signalId : Uuid)
    (input : String × Json) : Except ReplayError CarriedKey :=
  if input.1 ∈ definition.captures then
    .ok ⟨input.1, .shadow input.2 signalId⟩
  else if input.1 ∈ definition.taskOutputs then
    .error (.shadowTaskProduced input.1)
  else .error (.shadowUndeclared input.1)

def buildShadowWrites (definition : Option PinnedDefinition)
    (workflowVersion : Int) (inputs : List (String × Json)) (signalId : Uuid) :
    Except ReplayError (List CarriedKey × List String) :=
  if inputs = [] then .ok ([], [])
  else
    match definition with
    | none => .error (.shadowSchemaUnresolvable workflowVersion)
    | some definition =>
      match inputs.mapM (shadowWrite definition signalId) with
      | .ok writes =>
        .ok (writes.insertionSort fun left right => left.name ≤ right.name,
          (writes.map CarriedKey.name).insertionSort (· ≤ ·))
      | .error fault => .error fault

/-- The walk stops after one more than this many generations. -/
def maxChainDepth : Nat := 4096

/-- The ancestors that an archive holds, as the walk finds them. -/
def ancestorsFrom (archive : Uuid → Option ReplaySource) :
    Nat → Option Uuid → Ancestors → Ancestors
  | _, none, found => found
  | 0, some _, found => found
  | fuel + 1, some parentId, found =>
    if found.any fun ancestor => ancestor.1 == parentId then found
    else
      match archive parentId with
      | none => found
      | some parent =>
        ancestorsFrom archive fuel parent.replaySource (found ++ [(parentId, parent)])

def gatherFrom : Nat → Option Uuid → Ancestors → ReplayProgram RepositoryError Ancestors
  | _, none, found => pure found
  | 0, some _, found => pure found
  | fuel + 1, some parentId, found =>
    if found.any fun ancestor => ancestor.1 == parentId then pure found
    else do
      match ← call (.replaySource parentId) with
      | none => pure found
      | some parent => gatherFrom fuel parent.replaySource (found ++ [(parentId, parent)])

def gatherAncestors (source : ReplaySource) :
    ReplayProgram RepositoryError Ancestors := gatherFrom (maxChainDepth + 1) source.replaySource []

/-- The two ways a plan is executed: key by key over NATS, or in one local
transaction whose outcome is not inspected. -/
inductive Formation where
  | nats
  | lite

structure RehydrationPlan where
  (carried shadowed : List CarriedKey)
  replaySignalId : Uuid

def hydrationSentinelKey : String := "tickr_replay/hydrated"

def RehydrationPlan.sentinel (plan : RehydrationPlan) : CarriedKey :=
  ⟨hydrationSentinelKey, .sentinel plan.replaySignalId (plan.carried.map CarriedKey.name)⟩

/-- The writes of a plan in order; the sentinel is the last. -/
def RehydrationPlan.entries (plan : RehydrationPlan) : List CarriedKey :=
  plan.carried ++ plan.shadowed ++ [plan.sentinel]

def putAll (run : Uuid) : List CarriedKey → ReplayProgram RepositoryError Unit
  | [] => pure ()
  | entry :: rest => do
      call (.put run entry)
      putAll run rest

def rehydrate (formation : Formation) (run : Uuid) (plan : RehydrationPlan) :
    ReplayProgram RepositoryError Unit :=
  match formation with
  | .nats => do
      call .openBucket
      putAll run plan.entries
  | .lite => do
      let _ ← call (.createScope run plan.entries)
      pure ()

structure DriveInputs where
  trigger : ReplayTrigger
  plan : RehydrationPlan
  replayInstanceId : Uuid
  bornStalled : Bool

/-- The release of a born-Stall, for an instance that has one. -/
def releaseStall (inputs : DriveInputs) : ReplayProgram RepositoryError Unit :=
  if inputs.bornStalled then call (.send (.resume inputs.replayInstanceId))
  else pure ()

def performDriveEffects (formation : Formation) (inputs : DriveInputs) :
    ReplayProgram RepositoryError Unit := do
  call (.send (.trigger inputs.trigger))
  if inputs.bornStalled ∨ inputs.plan.shadowed ≠ [] then do
    rehydrate formation inputs.replayInstanceId inputs.plan
    releaseStall inputs
  else
    releaseStall inputs

inductive DriveError where
  | repository (error : RepositoryError)
  | refused (message : String)

/-- The checks of a loaded row against what the archive mints again. -/
def checkDecision (setup : Deployment) (decision : ReplayDecision)
    (source : ReplaySource) (shadows : List CarriedKey) :
    Except DriveError ReplaySeed :=
  if decision.replayInstanceId ≠
      setup.replayInstanceId decision.sourceInstanceId decision.signalId then
    .error (.refused "replay identity mismatch")
  else
    match source.graph with
    | none => .error (.refused "archived projection carries no graph")
    | some graph =>
      match mintReplaySeed setup decision.sourceInstanceId graph
          source.tasks source.workflowVersion decision.resumeFrom
          decision.signalId with
      | .error _ => .error (.refused "seed re-mint rejected")
      | .ok (seed, _) =>
        if decision.preGrounded ≠ seed.preGrounded then
          .error (.refused "pre-grounded decision disagrees with its persisted frontier")
        else if decision.seedSha256 ≠ some (setup.seedSha256 seed) then
          .error (.refused "seed integrity witness mismatch")
        else if shadows ≠ [] ∧ shadows.map CarriedKey.name ≠ decision.shadowedKeys then
          .error (.refused "shadow audit disagrees with the initial drive")
        else .ok seed

def buildDriveInputs (setup : Deployment) (decision : ReplayDecision)
    (source : ReplaySource) (shadows : List CarriedKey) :
    ReplayProgram DriveError DriveInputs := do
  let seed ← check (checkDecision setup decision source shadows)
  let ancestors ← mapError .repository (gatherAncestors source)
  pure
    { trigger := buildTriggerSignal seed source.workflowId decision
      plan :=
        { carried := setup.planCarried source ancestors
            decision.preGrounded
          shadowed := shadows
          replaySignalId := decision.signalId }
      replayInstanceId := decision.replayInstanceId
      bornStalled := decision.preGrounded ≠ [] }

inductive LoadOutcome where
  | ready (decision : ReplayDecision) (source : ReplaySource)
  | sourceUnavailable
  | alreadySettled (status : ReplayLifecycleStatus)
  | absent

variable (replayInstanceId : Uuid)

def loadReplayDrive :
    ReplayProgram RepositoryError LoadOutcome := do
  call (.touch replayInstanceId)
  match ← call (.lifecycle replayInstanceId) with
  | none => pure .absent
  | some row =>
    if row.status ≠ .materializing then pure (.alreadySettled row.status)
    else do
      match ← call (.replaySource row.decision.sourceInstanceId) with
      | some source => pure (.ready row.decision source)
      | none => pure .sourceUnavailable

inductive Settlement where
  | released
  | alreadySettled (status : ReplayLifecycleStatus)
  | absent
  | leaseLost

def classifySettlement : Option ReplayLifecycleRow → Settlement
  | some row => .alreadySettled row.status
  | none => .absent

def settleReplayReleased :
    ReplayProgram RepositoryError Settlement := do
  match ← call (.release replayInstanceId) with
  | true => pure .released
  | false => do
      let row ← call (.lifecycle replayInstanceId)
      pure (classifySettlement row)

def settleLeasedReplayReleased (lease : Lease) :
    ReplayProgram RepositoryError Settlement := do
  match ← call (.releaseLeased replayInstanceId lease) with
  | true => pure .released
  | false => do
      let row ← call (.lifecycle replayInstanceId)
      pure (if row.map ReplayLifecycleRow.status = some .materializing then
        .leaseLost else classifySettlement row)

def settledDrive : Settlement → Except DriveError Unit
  | .released => .ok ()
  | .alreadySettled .released => .ok ()
  | .alreadySettled _ => .error (.refused "settled during drive")
  | .absent => .error (.refused "disappeared before settlement")
  | .leaseLost => .ok ()

/-- The effects of a loaded drive, and its settlement. -/
def driveLoaded (setup : Deployment) (formation : Formation)
    (settle : ReplayProgram RepositoryError Settlement)
    (decision : ReplayDecision) (source : ReplaySource)
    (shadows : List CarriedKey) : ReplayProgram DriveError Unit := do
  let inputs ← buildDriveInputs setup decision source shadows
  mapError .repository (performDriveEffects formation inputs)
  let settlement ← mapError .repository settle
  check (settledDrive settlement)

/-- One attempt to drive a row, with the settlement of its caller. -/
def driveWith (setup : Deployment) (formation : Formation)
    (settle : ReplayProgram RepositoryError Settlement)
    (replayInstanceId : Uuid) (shadows : List CarriedKey) :
    ReplayProgram DriveError Unit := do
  match ← mapError .repository (loadReplayDrive replayInstanceId) with
  | .ready decision source => driveLoaded setup formation settle decision source shadows
  | .sourceUnavailable => throw (.refused "archive blob is unavailable")
  | .alreadySettled .released => pure ()
  | .alreadySettled _ => throw (.refused "already settled")
  | .absent => throw (.refused "no durable lifecycle row")

def driveReplay (setup : Deployment) (formation : Formation)
    (replayInstanceId : Uuid) (shadows : List CarriedKey) :
    ReplayProgram DriveError Unit :=
  driveWith setup formation (settleReplayReleased replayInstanceId) replayInstanceId shadows

def driveLeasedReplay (setup : Deployment) (leased : LeasedReplay) :
    ReplayProgram DriveError Unit :=
  driveWith setup .lite
    (settleLeasedReplayReleased leased.row.decision.replayInstanceId leased.lease)
    leased.row.decision.replayInstanceId []

def ingressForExisting (row : ReplayLifecycleRow) : ReplayIngress :=
  if row.status = .versionUnresolvable then
    .versionUnresolvable row.decision.replayInstanceId
  else .deduplicated row.decision.replayInstanceId

variable (setup : Deployment)

/-- A source without an archive parks its replay at once. -/
def parkReplay (request : ReplayRequest)
    (signalId : Uuid) : ReplayProgram ReplayError ReplayIngress := do
  let replayId := setup.replayInstanceId request.sourceInstanceId signalId
  let decision : ReplayDecision :=
    { replayInstanceId := replayId
      sourceInstanceId := request.sourceInstanceId
      signalId := signalId
      idempotencyKey := request.idempotencyKey
      resumeFrom := []
      preGrounded := []
      name := request.name
      seedSha256 := none
      shadowedKeys := [] }
  match ← persist (.insertReplayLifecycle ⟨decision, .versionUnresolvable⟩) with
  | .inserted => pure (.versionUnresolvable replayId)
  | .existing row => pure (ingressForExisting row)

/-- Commit an accepted replay and drive it for the first time. -/
def commitReplay (formation : Formation) (decision : ReplayDecision) (doomed : List Uuid)
    (shadows : List CarriedKey) : ReplayProgram ReplayError ReplayIngress := do
  match ← persist (.insertReplayLifecycle ⟨decision, .materializing⟩) with
  | .existing row => pure (ingressForExisting row)
  | .inserted => do
      let _ ← attempt (driveReplay setup formation decision.replayInstanceId shadows)
      pure (.accepted decision.replayInstanceId doomed)

def acceptReplay (formation : Formation)
    (request : ReplayRequest) (signalId : Uuid) (source : ReplaySource)
    (graph : Json) : ReplayProgram ReplayError ReplayIngress := do
  let frontier := if request.resumeFrom = [] then
    setup.defaultResumeFrom graph else request.resumeFrom
  let minted ← check ((mintReplaySeed setup
    request.sourceInstanceId graph source.tasks source.workflowVersion frontier
    signalId).mapError mapSeedReject)
  let ancestors ← mapError .persist (gatherAncestors source)
  check ((setup.parentHydrationGate source ancestors).mapError .parentNeverHydrated)
  let shadows ← check (buildShadowWrites source.pinnedDefinition
    source.workflowVersion request.inputs signalId)
  commitReplay setup formation
    { replayInstanceId := setup.replayInstanceId request.sourceInstanceId signalId
      sourceInstanceId := request.sourceInstanceId
      signalId := signalId
      idempotencyKey := request.idempotencyKey
      resumeFrom := frontier
      preGrounded := minted.1.preGrounded
      name := request.name
      seedSha256 := some (setup.seedSha256 minted.1)
      shadowedKeys := shadows.2 }
    minted.2 shadows.1

/-- A request whose key, if any, is not taken. -/
def processFresh (formation : Formation) (request : ReplayRequest) (signalId : Uuid) :
    ReplayProgram ReplayError ReplayIngress := do
  match ← persist (.replaySource request.sourceInstanceId) with
  | none => parkReplay setup request signalId
  | some source =>
    match source.graph with
    | none => throw (.archive "archived projection carries no graph")
    | some graph => acceptReplay setup formation request signalId source graph

def processReplay (formation : Formation)
    (request : ReplayRequest) : ReplayProgram ReplayError ReplayIngress := do
  let signalId ← persist .newUuid
  match request.idempotencyKey with
  | none => processFresh setup formation request signalId
  | some key => do
      match ← persist (.replayByIdempotency request.sourceInstanceId key) with
      | some row => pure (ingressForExisting row)
      | none => processFresh setup formation request signalId

/-- Drive each row once, going on after a failure. -/
def redriveRows (setup : Deployment) :
    List ReplayLifecycleRow → ReplayProgram RepositoryError Unit
  | [] => pure ()
  | row :: rest => do
      let _ ← attempt (driveReplay setup .nats row.decision.replayInstanceId [])
      redriveRows setup rest

/-- One pass of the re-drive loop; the pass at boot has no minimum age. -/
def redriveUnsettled (minAge : Int) :
    ReplayProgram RepositoryError Unit := do
  let rows ← call (.unsettledReplays minAge)
  redriveRows setup rows

def driveLeases (setup : Deployment) :
    List LeasedReplay → ReplayProgram RepositoryError Unit
  | [] => pure ()
  | leased :: rest => do
      match ← attempt (driveLeasedReplay setup leased) with
      | .ok _ => driveLeases setup rest
      | .error _ => do
          let _ ← call (.releaseReplayLease leased.row.decision.replayInstanceId leased.lease)
          driveLeases setup rest

def scanOnce (owner : String) (leaseDuration minAge : Int) (batchSize : Nat) :
    ReplayProgram RepositoryError Unit := do
  let leases ← call (.leaseReplays owner leaseDuration minAge batchSize)
  driveLeases setup leases

inductive Command where
  | replay (formation : Formation) (request : ReplayRequest)
  | redrive (minAge : Int)
  | scan (owner : String) (leaseDuration minAge : Int) (batchSize : Nat)
  | launch (run : Uuid)

def Command.isRequest : Command → Bool
  | .replay _ _ => true
  | _ => false

inductive Answer where
  | ingress (outcome : Except ReplayError ReplayIngress)
  | pass (outcome : Except RepositoryError Unit)

def Command.program :
    Command → Program ReplayOp ReplayOp.Reply Answer
  | .replay formation request => do
      let outcome ← (processReplay setup formation request).run
      pure (.ingress outcome)
  | .redrive minAge => do
      let outcome ← (redriveUnsettled setup minAge).run
      pure (.pass outcome)
  | .scan owner leaseDuration minAge batchSize => do
      let outcome ← (scanOnce setup owner leaseDuration minAge batchSize).run
      pure (.pass outcome)
  | .launch run => do
      let outcome ← (call (.launch run)).run
      pure (.pass outcome)

abbrev ReplayWorld := World State ReplayOp ReplayOp.Reply Answer

def start (jobs : Nat → Command) :
    ReplayWorld where
  state := .empty
  clients := fun peer => (jobs peer).program setup

end Tickr.Replay
