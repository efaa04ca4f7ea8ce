import Tickr.Pickup.Events

/-!
# A committed fence and the launches of its Task

A launch needs a pickup that was in the bucket before the fence, and the commit
scans the bucket after the fence is in it.  So the scan comes upon the pickup,
unless the bucket has more dispatches than it reads.
-/

namespace Tickr.Pickup

open Concurrent KeyValue
open Concurrent.Discipline

variable {wire : Wire} {shared : Shared} {request : CancelRequest} {sequence : Nat}

instance (wire : Wire) (request : CancelRequest) (sequence : Nat) :
    Decidable (IsPickupOf wire request sequence) :=
  match decoded : wire.decodeDispatch (wire.dispatches sequence) with
  | .error _ => isFalse fun isPickup => by
      obtain ⟨_, isTask, _⟩ := isPickup
      rw [decoded] at isTask
      cases isTask
  | .ok task => decidable_of_iff (task.cancelRequest = request) ⟨
      fun isRequest => ⟨task, decoded, isRequest⟩, fun isPickup => by
        obtain ⟨_, isOther, isRequest⟩ := isPickup
        rw [decoded] at isOther
        cases isOther
        exact isRequest⟩

theorem mem_dispatchKeys :
    sequence ∈ dispatchKeys keys ↔ .dispatch sequence ∈ keys := by
  unfold dispatchKeys
  rw [List.mem_filterMap]
  constructor
  · intro found
    obtain ⟨key, mem, isSequence⟩ := found
    cases key with
    | dispatch =>
      cases isSequence
      exact mem
    | cancellation | watchdogClock => cases isSequence
  · intro mem
    exact ⟨.dispatch sequence, mem, rfl⟩

theorem nodup_dispatchKeys (bucket : Bucket) : (dispatchKeys (liveKeys bucket)).Nodup := by
  apply List.Nodup.filterMap _ (nodup_liveKeys bucket)
  intro first second _ _ _
  cases first <;> cases second <;>
    simp_all [PickupKey.sequence?]

theorem Sound.valued_older (sound : Sound wire shared) (isOlder : older <:+ shared.bucket) :
    ∀ write ∈ older, write.key.IsKept → write.value.isSome = true := by
  intro write mem
  exact sound.valued write (isOlder.subset mem)

variable {scanned : Bucket}

theorem Stored.listed (kept : Stored scanned sequence record) (sound : Sound wire shared)
    (scans : scanned <:+ shared.bucket) :
    sequence ∈ dispatchKeys (liveKeys scanned) := by
  obtain ⟨_, isOlder, found⟩ := kept
  rw [mem_dispatchKeys, mem_liveKeys_iff]
  exact lookup_isSome_grown (sound.valued_older scans) trivial isOlder found

theorem older_of_unfenced (sound : Sound wire shared)
    (isOlder : older <:+ shared.bucket) (scans : scanned <:+ shared.bucket)
    (absent : lookup (.cancellation request) older = none)
    (there : lookup (.cancellation request) scanned = some (.fence fence)) :
    older <:+ scanned := by
  rcases List.suffix_or_suffix_of_suffix isOlder scans with
    before | after
  · exact before
  have stillThere : (lookup (.cancellation request) older).isSome = true :=
    lookup_isSome_grown (sound.valued_older isOlder) trivial after there
  rw [absent] at stillThere
  cases stillThere

/-- The scan has come upon every dispatch if there are no more than it
reads. -/
theorem mem_scanned (sound : Sound wire shared) (grown : scanned <:+ shared.bucket)
    (few : (dispatchKeys (liveKeys shared.bucket)).length ≤ cancellationScanLimit)
    (listed : sequence ∈ dispatchKeys (liveKeys scanned)) :
    sequence ∈ (dispatchKeys (liveKeys scanned)).take cancellationScanLimit := by
  have subset : dispatchKeys (liveKeys scanned) ⊆ dispatchKeys (liveKeys shared.bucket) := by
    intro _ listed
    rw [mem_dispatchKeys, mem_liveKeys_iff] at listed ⊢
    obtain ⟨_, found⟩ := Option.isSome_iff_exists.mp listed
    exact lookup_isSome_grown sound.valued trivial grown found
  have shorter := ((nodup_dispatchKeys scanned).subperm subset).length_le
  rw [List.take_of_length_le (by omega)]
  exact listed

/-- The fence names the dispatch, the generation and the owner of a launch. -/
def LocalCancellationFence.Names (fence : LocalCancellationFence) (launch : Launch) : Prop :=
  fence.dispatchKey = some launch.claim.dispatchKey ∧
    fence.pickupGeneration = some launch.claim.pickupGeneration ∧
    fence.owner = some launch.claim.owner

/-- What a commit leaves to chance: that the bucket has no more dispatches than
the scan reads, that the Task has one of them at most, and that a fence without
an owner is not bound to an owned pickup. -/
structure BindsCurrent (wire : Wire) (request : CancelRequest)
    (fence : LocalCancellationFence) (bucket : Bucket) : Prop where
  fewDispatches : (dispatchKeys (liveKeys bucket)).length ≤ cancellationScanLimit
  oneDispatch : ∀ first ∈ dispatchKeys (liveKeys bucket),
    ∀ second ∈ dispatchKeys (liveKeys bucket),
      IsPickupOf wire request first → IsPickupOf wire request second → first = second
  ownerIsNamed : ∀ sequence, fence.dispatchKey = some sequence →
    fence.owner = none → ∀ record,
      lookup (.dispatch sequence) bucket = some (.pickup record) → record.owner = ""

variable {committedIn later : Shared} {fence : LocalCancellationFence} {launch : Launch}

theorem Authorised.before_commit (authorised : Authorised wire later.bucket launch)
    (sound : Sound wire later) (grown : Grown committedIn later)
    (isRequested : launch.task.cancelRequest = request) (scans : scanned <:+ committedIn.bucket)
    (fenced : lookup (.cancellation request) scanned = some (.fence record)) :
    ∃ pickup, Stored scanned launch.claim.dispatchKey pickup ∧
      pickup.pickupGeneration = launch.claim.pickupGeneration ∧
      pickup.owner = launch.claim.owner := by
  obtain ⟨_, _, _, older, pickup, isOlder, found, same, sameOwner, unfenced⟩ := authorised
  rw [isRequested] at unfenced
  have before := older_of_unfenced sound isOlder (scans.trans grown.bucket) unfenced fenced
  exact ⟨pickup, ⟨older, before, found⟩, same, sameOwner⟩

theorem Authorised.isPickupOf (authorised : Authorised wire later.bucket launch)
    (isRequested : launch.task.cancelRequest = request) :
    IsPickupOf wire request launch.claim.dispatchKey := ⟨launch.task, authorised.2.1, isRequested⟩

variable (committed : Committed wire request fence committedIn.bucket)
  (soundThen : Sound wire committedIn) (sound : Sound wire later) (grown : Grown committedIn later)
  (current : BindsCurrent wire request fence committedIn.bucket)
  (authorised : Authorised wire later.bucket launch)
  (isRequested : launch.task.cancelRequest = request)
include committed soundThen sound grown current authorised isRequested

/-- A fence that names no pickup has none to name. -/
theorem Committed.bound : fence.dispatchKey.isSome = true := by
  by_contra unbound
  have isNone : fence.dispatchKey = none := by simpa using unbound
  obtain ⟨_, _, scans, fenced, found⟩ := committed.2 isNone
  obtain ⟨_, kept, _, _⟩ := authorised.before_commit sound grown isRequested scans fenced
  have isListed := kept.listed soundThen scans
  exact found _ (mem_scanned soundThen scans current.fewDispatches isListed)
    (authorised.isPickupOf isRequested)

theorem Committed.names : fence.Names launch := by
  have isBound := committed.bound soundThen sound grown current authorised isRequested
  obtain ⟨sequence, isSequence⟩ := Option.isSome_iff_exists.mp isBound
  obtain ⟨⟨record, ⟨scanned, scans, fenced⟩, sameKey, sameGeneration,
    sameOwner⟩, _⟩ := committed
  obtain ⟨_, launchedStored, launchedGeneration, launchedOwner⟩ :=
    authorised.before_commit sound grown isRequested scans fenced
  have launchedThen := launchedStored.grown scans
  -- the fence as it is now is bound as it was when it was returned
  obtain ⟨last, isLast, follows⟩ := (FenceStored.current soundThen ⟨scanned, scans, fenced⟩ :)
  have lastSound := soundThen.cells _ _ isLast
  have recordBound : record.dispatchKey.isSome = true := by
    rw [← sameKey]
    exact isBound
  obtain ⟨lastKey, lastGeneration, lastOwner⟩ := follows.bound recordBound
  have lastSequence : last.dispatchKey = some sequence := by rw [lastKey, ← sameKey, isSequence]
  obtain ⟨_, gen, older, pickup, task, isOlder, found,
    decodes, isRequest, generationIs, ownerIs⟩ := lastSound.bound sequence lastSequence
  have kept : Stored committedIn.bucket sequence pickup := ⟨older, isOlder, found⟩
  have dispatch : sequence = launch.claim.dispatchKey := by
    apply current.oneDispatch
    · exact kept.listed soundThen (List.suffix_refl _)
    · exact launchedThen.listed soundThen (List.suffix_refl _)
    · exact ⟨task, decodes, isRequest⟩
    · exact authorised.isPickupOf isRequested
  subst dispatch
  obtain ⟨now, isNow, nowFollows⟩ := kept.current soundThen
  obtain ⟨_, isSame, sameFollows⟩ := launchedThen.current soundThen
  rw [isNow] at isSame
  cases isSame
  refine ⟨isSequence, ?_, ?_⟩
  · rw [sameGeneration, ← lastGeneration, gen, generationIs,
      ← nowFollows.pickupGeneration, sameFollows.pickupGeneration,
      launchedGeneration]
  · have owns : fence.owner = last.owner := by rw [sameOwner, lastOwner]
    have nowOwner : now.owner = launch.claim.owner := sameFollows.owner.trans launchedOwner
    rcases ownerIs with isOwnerless | owned
    · have ownerless : fence.owner = none := by rw [owns, isOwnerless]
      have unnamed := current.ownerIsNamed _ isSequence ownerless now isNow
      rw [nowOwner] at unnamed
      exact (authorised.2.2.1 unnamed).elim
    · rw [owns, owned, ← nowFollows.owner, nowOwner]

omit committed soundThen sound grown current authorised isRequested

def returnedFence (world : PickupWorld) (peer : Nat) : Option LocalCancellationFence :=
  match world.clients peer with
  | .done (.ok (.committed _ fence)) => some fence
  | _ => none

def sampleFence : LocalCancellationFence :=
  { acknowledgementIdentity := sampleTask.cancelRequest
    request := sampleTask.cancelRequest
    dispatchKey := some 1
    pickupGeneration := some 1
    owner := some "A"
    ownerNotified := false
    livenessDeadlineMs := some 10
    terminalOutcome := none }

/-- The fence is committed while the handler is about to start the process. -/
def fencedRun : List (Nat × PickupChoice) := (launchSteps 0).take 25 ++ steps 2 8 true

/-- A second handler of the dispatch has found no record before the first one
created it.  It comes upon the fence, takes the existing record for one that
was cancelled before any claim, and binds the fence without an owner. -/
def ownerlessRun : List (Nat × PickupChoice) :=
  steps 3 1 true ++ (launchSteps 0).take 25 ++ steps 2 2 true ++ steps 3 4 true ++ steps 2 5 true

/-- One handler of the Task and the commit of its fence, among handlers of
poison dispatches. -/
def crowdedParties : Nat → PickupClient
  | 0 => .deliver sampleExecutor ⟨1, false⟩ 3
  | 1 => .commit sampleTask.cancelRequest
  | other => .deliver sampleExecutor ⟨other, false⟩ 3

/-- The poison dispatches are rejected first, the pickup is claimed, and the
commit reads the keys in the order of their writes. -/
def crowdedRun : List (Nat × PickupChoice) :=
  (List.range cancellationScanLimit).flatMap (fun other => steps (other + 2) 2 true) ++
    (launchSteps 0).take 25 ++ steps 1 260 true

/-- The commit has returned a fence without an owner when no process runs, and
the first handler starts one of the Task afterwards. -/
def StartsUnfenced (parties : Nat → PickupClient) (committer : Nat)
    (turns : List (Nat × PickupChoice)) : Prop :=
  let world := (startWorld sampleWire parties).run system
  (returnedFence (world turns) committer).map LocalCancellationFence.owner = some none ∧
    (world turns).state.launched = [] ∧
    (world (turns ++ steps 0 1 true)).state.launched.map (fun launch => launch.task.cancelRequest) =
      [sampleTask.cancelRequest]

instance (parties : Nat → PickupClient) (committer : Nat) (turns : List (Nat × PickupChoice)) :
    Decidable (StartsUnfenced parties committer turns) := inferInstanceAs (Decidable (_ ∧ _ ∧ _))

end Tickr.Pickup
