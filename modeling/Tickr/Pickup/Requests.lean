import Tickr.Pickup.Changes

/-!
# Single steps of the parties

One lemma for each call to the shared state: which change it makes, and what
its answer shows about the bucket, then and later.
-/

namespace Tickr.Pickup

open Concurrent KeyValue Discipline

variable {wire : Wire} {peer : Nat} {state : Shared} {what : String} {sequence : Nat}

/-- Safety of a party's program that may fail with any error. -/
abbrev PickupSafe {α ε : Type} (wire : Wire) (peer : Nat)
    (post : α → Shared → Prop) (program : ExceptT ε PickupProgram α)
    (state : Shared) : Prop := SafeTry system (pickups wire) peer post program state

/-- At some time between `start` and `now`, this was the newest entry of the
key. -/
def Found (wire : Wire) (start : Shared) (key : PickupKey)
    (found : Option (Entry PickupValue)) (now : Shared) : Prop :=
  ∃ past, Grown start past ∧ Sound wire past ∧ Grown past now ∧ entry key past.bucket = found

def pickupEntry (loaded : TaskPickupRecord × Nat × Int) : Entry PickupValue :=
  ⟨loaded.2.1, some (.pickup loaded.1)⟩

def fenceEntry (loaded : TaskCancellationRecord × Nat) : Entry PickupValue :=
  ⟨loaded.2, some (.fence loaded.1)⟩

theorem Found.later {start now later : Shared}
    (hit : Found wire start key found now) (grown : Grown now later) :
    Found wire start key found later := by
  obtain ⟨past, since, sound, until_, entry⟩ := hit
  exact ⟨past, since, sound, until_.trans grown, entry⟩

theorem grown_of_rely (rely : (pickups wire).Rely peer before after) : Grown before after :=
  grown_of_evolves rely.evolves

theorem perform_kv (op : KvOp PickupKey PickupValue) (choice : PickupChoice) (shared : Shared) :
    system.perform peer (.kv op) choice shared =
      (((KeyValue.perform peer op choice.delivery shared.bucket).1, choice.timeMs),
        { shared with
          bucket := (KeyValue.perform peer op choice.delivery shared.bucket).2 }) :=
  rfl

theorem perform_entry_unchanged (key : PickupKey) (choice : PickupChoice) (shared : Shared) :
    (system.perform peer (.kv (.entry key)) choice shared).2 = shared := by
  have same := (@KeyValue.perform_entry PickupKey PickupValue _ key peer
    choice.delivery shared.bucket).1
  rw [perform_kv, same]

theorem bucketEntry_safe (what : String) (key : PickupKey) :
    PickupSafe wire peer (fun found later => Found wire state key (found.map Prod.fst) later)
      (bucketEntry wire what key) state := by
  refine .request ?_
  intro before rely sound _ choice
  have unchanged := @perform_entry_unchanged peer key choice before
  have answers := (@KeyValue.perform_entry PickupKey PickupValue _ key peer
    choice.delivery before.bucket).2
  constructor
  · rw [unchanged]
    exact .nothing
  intro _ answered _ onward _
  rw [unchanged] at onward
  refine ⟨before, grown_of_rely rely, sound, grown_of_rely onward, ?_⟩
  split at answered
  · rename_i found hit
    cases answered
    rw [← answers found hit]
    cases found <;> rfl
  · cases answered

theorem loadPickup_safe (what : String) (sequence : Nat) :
    PickupSafe wire peer (fun found later =>
        Found wire state (.dispatch sequence) (found.map pickupEntry) later)
      (loadPickup wire what sequence) state := by
  apply SafeExcept.andThen (bucketEntry_safe what _)
  intro _ _ _ hit
  split
  · exact .pure fun final rely _ =>
      hit.later (grown_of_rely rely)
  · exact .pure fun _ rely _ =>
      hit.later (grown_of_rely rely)
  · exact SafeTry.throw

theorem loadFence_safe (what : String) (request : CancelRequest) :
    PickupSafe wire peer (fun found later =>
        Found wire state (.cancellation request) (found.map fenceEntry) later)
      (loadFence wire what request) state := by
  apply SafeExcept.andThen (bucketEntry_safe what _)
  intro _ _ _ hit
  split
  · exact .pure fun final rely _ =>
      hit.later (grown_of_rely rely)
  · exact .pure fun _ rely _ =>
      hit.later (grown_of_rely rely)
  · exact SafeTry.throw

theorem bucketKeys_safe (what : String) :
    PickupSafe wire peer
      (fun keys later => ∃ past, Grown state past ∧ Sound wire past ∧
        Grown past later ∧ keys = liveKeys past.bucket) (bucketKeys wire what) state := by
  refine .request ?_
  intro before rely sound _ choice
  obtain ⟨same, answers⟩ := @KeyValue.perform_keys PickupKey PickupValue _
    peer choice.delivery before.bucket
  have unchanged : (system.perform peer (.kv .keys) choice before).2 = before := by
    rw [perform_kv, same]
  constructor
  · rw [unchanged]
    exact .nothing
  intro _ answered _ onward _
  rw [unchanged] at onward
  refine ⟨before, grown_of_rely rely, sound, grown_of_rely onward, ?_⟩
  split at answered
  · rename_i found hit
    cases answered
    exact answers _ hit
  · cases answered

/-- The party has moved the record of a dispatch from `old` to `new`. -/
def Wrote (wire : Wire) (peer : Nat) (sequence : Nat)
    (old new : TaskPickupRecord) (now : Shared) : Prop :=
  ∃ past, Sound wire past ∧ lookup (.dispatch sequence) past.bucket = some (.pickup old) ∧
    ⟨peer, .dispatch sequence, some (.pickup new)⟩ :: past.bucket <:+ now.bucket

theorem Advance.mono (advance : Advance before old new)
    (implies : ∀ kind, before kind → after kind) : Advance after old new := by
  cases advance with
  | assigned staged => exact .assigned (implies _ staged)
  | rearmed deadline arm assigns => exact .rearmed deadline arm assigns
  | overdue deadline => exact .overdue deadline
  | completed => exact .completed
  | started event => exact .started event
  | settled elected isOpen exited pending => exact .settled elected isOpen exited pending
  | enqueued elected elects => exact .enqueued elected elects

variable {old new : TaskCancellationRecord}

theorem FenceAdvance.mono (advance : FenceAdvance before old new)
    (implies : ∀ sequence gen owner,
      before sequence gen owner → after sequence gen owner) :
    FenceAdvance after old new := by
  cases advance with
  | bound sequence gen owner unbound allowed =>
    exact .bound sequence gen owner unbound (implies sequence gen owner allowed)
  | notified => exact .notified
  | settled reconciliation ack => exact .settled reconciliation ack
  | enqueued => exact .enqueued

theorem updatePickup_safe {old new : TaskPickupRecord}
    (isRead : ReadAt state.bucket sequence old revision)
    (advance : Advance (fun kind => Staged state ⟨sequence, kind⟩) old new) :
    PickupSafe wire peer (fun _ later => Wrote wire peer sequence old new later)
      (bucketUpdate wire what (.dispatch sequence) (.pickup new) revision)
      state := by
  refine .request ?_
  intro before rely sound _ choice
  have grown := grown_of_rely rely
  rw [perform_kv]
  rcases @KeyValue.perform_update _ _ _ (.dispatch sequence)
      (.pickup new) peer choice.delivery before.bucket revision with
    ⟨unchanged, refused⟩ | ⟨⟨made, same⟩, _⟩
  · rw [unchanged]
    refine ⟨.nothing, ?_⟩
    intro _ answered
    split at answered
    · next now arrives => exact (refused now arrives).elim
    · cases answered
  · obtain ⟨_, isOlder, entry⟩ := isRead
    have current := lookup_of_unchanged (isOlder.trans grown.bucket) entry same
    rw [made]
    refine ⟨.advanced sequence old new current
      (advance.mono fun _ isStaged => grown.staged _ isStaged), ?_⟩
    intro _ _ _ onward _
    exact ⟨before, sound, current, (grown_of_rely onward).bucket⟩

variable {record : TaskPickupRecord}

theorem createPickup_safe (fresh : FreshRecord wire sequence record) :
    PickupSafe wire peer
      (fun _ later => createdBy sequence later.bucket = some peer ∧
        ∃ older, older <:+ later.bucket ∧ lookup (.dispatch sequence) older = some (.pickup record))
      (bucketCreate wire what (.dispatch sequence) (.pickup record)) state := by
  refine .request ?_
  intro before _ sound _ choice
  rw [perform_kv]
  rcases @KeyValue.perform_create _ _ _ (.dispatch sequence)
      (.pickup record) peer choice.delivery before.bucket with
    ⟨unchanged, refused⟩ | ⟨made, absent⟩
  · rw [unchanged]
    refine ⟨.nothing, ?_⟩
    intro _ answered
    split at answered
    · next now arrives => exact (refused now arrives).elim
    · cases answered
  · rw [made]
    refine ⟨.created sequence record absent fresh, ?_⟩
    intro _ _ _ onward _
    have grown := (grown_of_rely onward).bucket
    exact ⟨oldest_grown grown
      (createdBy_cons (sound.not_written absent)), _, grown, lookup_cons_same rfl⟩

def FenceStored (bucket : Bucket) (request : CancelRequest)
    (record : TaskCancellationRecord) : Prop :=
  ∃ older, older <:+ bucket ∧ lookup (.cancellation request) older = some (.fence record)

variable {request : CancelRequest}

theorem FenceStored.grown {record : TaskCancellationRecord}
    (kept : FenceStored bucket request record) (grown : bucket <:+ later) :
    FenceStored later request record := by
  obtain ⟨older, isOlder, found⟩ := kept
  exact ⟨older, isOlder.trans grown, found⟩

theorem updateFence_safe (found : ∃ start, Found wire start (.cancellation request)
      (some (fenceEntry (old, revision))) state)
    (advance : FenceAdvance (Binds wire request state.bucket) old new) :
    PickupSafe wire peer (fun _ later => FenceStored later.bucket request new)
      (bucketUpdate wire what (.cancellation request) (.fence new) revision)
      state := by
  refine .request ?_
  intro before rely _ _ choice
  have grown := grown_of_rely rely
  rw [perform_kv]
  rcases @KeyValue.perform_update _ _ _ (.cancellation request)
      (.fence new) peer choice.delivery before.bucket revision with
    ⟨unchanged, refused⟩ | ⟨⟨made, same⟩, _⟩
  · rw [unchanged]
    refine ⟨.nothing, ?_⟩
    intro _ answered
    split at answered
    · next now arrives => exact (refused now arrives).elim
    · cases answered
  · obtain ⟨_, _, _, _, until_, entry⟩ := found
    have current := lookup_of_unchanged (until_.trans grown).bucket entry same
    rw [made]
    refine ⟨.refenced request old new current
      (advance.mono fun _ _ _ allowed => allowed.grown grown.bucket), ?_⟩
    intro _ _ _ onward _
    exact ⟨_, (grown_of_rely onward).bucket, lookup_cons_same rfl⟩

theorem createFence_safe (request : CancelRequest) :
    PickupSafe wire peer
      (fun _ later => FenceStored later.bucket request (newFence request request))
      (bucketCreate wire what (.cancellation request)
        (.fence (newFence request request))) state := by
  refine .request ?_
  intro before _ _ _ choice
  rw [perform_kv]
  rcases @KeyValue.perform_create _ _ _ (.cancellation request)
      (.fence (newFence request request)) peer choice.delivery
      before.bucket with
    ⟨unchanged, refused⟩ | ⟨made, absent⟩
  · rw [unchanged]
    refine ⟨.nothing, ?_⟩
    intro _ answered
    split at answered
    · next now arrives => exact (refused now arrives).elim
    · cases answered
  · rw [made]
    refine ⟨.fenced request absent, ?_⟩
    intro _ _ _ onward _
    exact ⟨_, (grown_of_rely onward).bucket, lookup_cons_same rfl⟩

theorem stageEvent_safe
    (isRead : ReadAt state.bucket sequence record basis) (ground : Grounded record kind) :
    PickupSafe wire peer (fun _ later => Staged later ⟨sequence, kind⟩)
      (stageEvent sequence kind event basis) state := by
  refine .request ?_
  intro before rely sound _ choice
  have read : ReadAt before.bucket sequence record basis := by
    obtain ⟨older, isOlder, entry⟩ := isRead
    exact ⟨older, isOlder.trans (grown_of_rely rely).bucket, entry⟩
  have ran : system.perform peer
      (.stage ⟨sequence, kind⟩ ⟨event, basis⟩) choice before =
        ((JetStream.perform peer (.publish ⟨sequence, kind⟩ ⟨event, basis⟩)
            choice.arrival before.events).1,
          { before with
            events := (JetStream.perform peer
              (.publish ⟨sequence, kind⟩ ⟨event, basis⟩) choice.arrival
              before.events).2 }) := rfl
  rw [ran]
  rcases @JetStream.perform_publish EventIdentity StagedEvent _ peer
      choice.arrival before.events ⟨sequence, kind⟩ ⟨event, basis⟩ with
    appended | ⟨unchanged, remembered⟩
  · rw [appended]
    refine ⟨.staged sequence kind ⟨event, basis⟩ record read ground, ?_⟩
    intro _ _ _ onward _
    apply (grown_of_rely onward).staged
    exact ⟨⟨_, ⟨sequence, kind⟩, ⟨event, basis⟩⟩, List.mem_append_right _ (.head _), rfl⟩
  · rw [unchanged]
    refine ⟨.nothing, ?_⟩
    intro _ answered _ onward _
    apply (grown_of_rely onward).staged
    apply sound.remembered
    apply remembered
    cases reply : (JetStream.perform peer
        (.publish ⟨sequence, kind⟩ ⟨event, basis⟩) choice.arrival
        before.events).1 with
    | ok => rfl
    | error =>
      rw [reply] at answered
      cases answered

/-- An operation that leaves the shared state as it is. -/
def Quiet (op : PickupOp) : Prop :=
  ∀ peer choice shared, (system.perform peer op choice shared).2 = shared

variable {α ε : Type} {op : PickupOp}

theorem request_safe (quiet : Quiet op) :
    PickupSafe wire peer Any (Program.request op interpret) state := by
  refine .request ?_
  intro _ _ _ _ _
  refine ⟨?_, fun _ _ _ _ _ => trivial⟩
  rw [quiet]
  exact .nothing

theorem ask_safe {α : Type} {read : op.Reply → α} (quiet : Quiet op) :
    PickupSafe wire peer Any (ask op read) state := request_safe quiet

theorem require_safe (effect : Effect) (failure : String) :
    PickupSafe wire peer Any (require effect failure) state := request_safe fun _ _ _ => rfl

/-- A program without a condition on its result. -/
theorem pure_safe (value : α) :
    PickupSafe wire peer Any (pure value : ExceptT ε PickupProgram α) state :=
  .pure fun _ _ _ => trivial

/-- Whether a program fails is looked at, but nothing is asked of it. -/
theorem attempt_safe {α ε ε' : Type} {post : α → Shared → Prop}
    {program : ExceptT ε PickupProgram α} (safe : PickupSafe wire peer post program state) :
    PickupSafe wire peer (fun result later => ∀ value, result = .ok value → post value later)
      (Program.attempt program : ExceptT ε' PickupProgram (Except ε α))
      state := (SafeExcept.attempt safe).weaken fun _ _ _ now => now.1

theorem mapError_safe {α ε ε' : Type} {post : α → Shared → Prop}
    {program : ExceptT ε PickupProgram α} {rename : ε → ε'}
    (safe : PickupSafe wire peer post program state) :
    PickupSafe wire peer post (Program.mapError rename program) state :=
  .mapError safe fun _ _ => trivial

theorem PickupSafe.forget
    {program : ExceptT ε PickupProgram α} (safe : PickupSafe wire peer post program state) :
    PickupSafe wire peer Any program state := .weaken safe fun _ _ _ _ => trivial

end Tickr.Pickup
