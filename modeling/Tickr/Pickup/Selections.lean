import Tickr.Crash
import Tickr.Pickup.Elections

/-!
# What the selections of due pickups and pending fences find

A selection lists the keys of the bucket and reads records until one qualifies,
at most a fixed number of them.
-/

namespace Tickr.Pickup

open Concurrent KeyValue Crash

/-- One client alone with the bucket, whose calls are all answered. -/
def quiet : Device Shared PickupOp PickupOp.Reply := alone system {}

/-- Every pickup and fence that was ever written is still a record. -/
structure Typed (bucket : Bucket) : Prop where
  pickup : ∀ sequence found, entry (.dispatch sequence) bucket = some found →
    ∃ record, found.value = some (.pickup record)
  fence : ∀ request found, entry (.cancellation request) bucket = some found →
    ∃ record, found.value = some (.fence record)

def Due (bucket : Bucket) (nowMs : Int) (sequence : Nat) (record : TaskPickupRecord) : Prop :=
  lookup (.dispatch sequence) bucket = some (.pickup record) ∧ record.livenessIsDue nowMs = true

def Pending (bucket : Bucket) (request : CancelRequest) (record : TaskCancellationRecord) : Prop :=
  lookup (.cancellation request) bucket = some (.fence record) ∧ record.reconciliation = none

def Selects {α : Type} (selection : PickupM (Option α)) (shared : Shared) : Prop :=
  ∃ item, (run quiet selection.run shared).1 = .ok (some item)

/-- The program answers an item of this kind, or nothing once it has seen all. -/
def Finds {α : Type} (program : PickupM (Option α)) (shared : Shared) (kind : α → Prop)
    (all : Prop) : Prop :=
  ∃ found, run quiet program.run shared = (.ok found, shared) ∧
    ((∃ item, found = some item ∧ kind item) ∨ found = none ∧ all)

theorem Finds.also {α : Type} {program : PickupM (Option α)} {kind : α → Prop}
    {all more : Prop} (finds : Finds program shared kind all) (implies : all → more) :
    Finds program shared kind more := by
  obtain ⟨found, ran, answer⟩ := finds
  exact ⟨found, ran, answer.imp_right (.imp_right implies)⟩

variable {wire : Wire} {shared : Shared} {nowMs : Int} {owner : String}

theorem run_bucketEntry (what : String) (key : PickupKey) :
    run quiet (bucketEntry wire what key).run shared =
      (.ok ((entry key shared.bucket).map fun entry => (entry, 0)), shared) := rfl

variable (typed : Typed shared.bucket)
include typed

theorem run_loadPickup (what : String) (sequence : Nat) :
    ∃ loaded, run quiet (loadPickup wire what sequence).run shared = (.ok loaded, shared) ∧
      lookup (.dispatch sequence) shared.bucket = loaded.map fun found => .pickup found.1 := by
  rw [loadPickup, run_andThen (run_bucketEntry what _), lookup]
  cases found : entry (.dispatch sequence) shared.bucket with
  | none => exact ⟨none, rfl, rfl⟩
  | some entry =>
    obtain ⟨record, isRecord⟩ := typed.pickup sequence entry found
    obtain ⟨revision, _⟩ := entry
    subst isRecord
    exact ⟨some (record, revision, 0), rfl, rfl⟩

theorem run_loadFence (what : String) (request : CancelRequest) :
    ∃ loaded, run quiet (loadFence wire what request).run shared = (.ok loaded, shared) ∧
      lookup (.cancellation request) shared.bucket = loaded.map fun found => .fence found.1 := by
  rw [loadFence, run_andThen (run_bucketEntry what _), lookup]
  cases found : entry (.cancellation request) shared.bucket with
  | none => exact ⟨none, rfl, rfl⟩
  | some entry =>
    obtain ⟨record, isRecord⟩ := typed.fence request entry found
    obtain ⟨revision, _⟩ := entry
    subst isRecord
    exact ⟨some (record, revision), rfl, rfl⟩

/-- The fence that is answered for a record has the record's owner. -/
theorem run_localFence (record : TaskCancellationRecord) :
    ∃ fence, run quiet (localFence wire record).run shared = (.ok fence, shared) ∧
      fence.owner = record.owner := by
  cases isBound : record.dispatchKey with
  | none =>
    have unbound : run quiet (fencedPickup wire record).run shared = (.ok none, shared) := by
      rw [fencedPickup, isBound]
      rfl
    exact ⟨_, run_andThen unbound, rfl⟩
  | some sequence =>
    obtain ⟨loaded, loads, _⟩ := @run_loadPickup wire _ typed "cancellation pickup" sequence
    have bound : run quiet (fencedPickup wire record).run shared =
        (.ok (loaded.map Prod.fst), shared) := by
      rw [fencedPickup, isBound]
      refine (run_andThen loads).trans ?_
      cases loaded <;> rfl
    exact ⟨_, run_andThen bound, rfl⟩

omit typed in
/-- A scan that reads some of the keys, `left` of them at most, and stops at the
first good one. -/
theorem finds_scan {α : Type} {scan : List PickupKey → Nat → PickupM (Option α)}
    {reads : PickupKey → Bool} {good : PickupKey → Prop} {kind : α → Prop}
    (stops : ∀ keys left, keys = [] ∨ left = 0 →
      run quiet (scan keys left).run shared = (.ok none, shared))
    (skips : ∀ key rest left, reads key = false →
      ¬ good key ∧ scan (key :: rest) (left + 1) = scan rest (left + 1))
    (takes : ∀ key rest left, reads key = true →
      (∃ item, run quiet (scan (key :: rest) (left + 1)).run shared = (.ok (some item), shared) ∧
        kind item) ∨
      ¬ good key ∧ run quiet (scan (key :: rest) (left + 1)).run shared =
        run quiet (scan rest left).run shared)
    (keys : List PickupKey) (left : Nat) (enough : keys.countP reads ≤ left) :
    Finds (scan keys left) shared kind (∀ key ∈ keys, ¬ good key) := by
  induction keys generalizing left with
  | nil => exact ⟨none, stops _ _ (.inl rfl), .inr ⟨rfl, by simp⟩⟩
  | cons key rest ih =>
    cases left with
    | zero =>
      have unread := List.countP_eq_zero.mp (Nat.le_zero.mp enough)
      refine ⟨none, stops _ _ (.inr rfl), .inr ⟨rfl, fun key mem => ?_⟩⟩
      exact (skips key [] 0 (by simpa using unread key mem)).1
    | succ left =>
      cases isRead : reads key with
      | false =>
        obtain ⟨bad, skipped⟩ := skips key rest left isRead
        rw [skipped]
        exact (ih (left + 1) (by simpa [isRead] using enough)).also fun absent =>
          List.forall_mem_cons.mpr ⟨bad, absent⟩
      | true =>
        rcases takes key rest left isRead with ⟨item, ran, isKind⟩ | ⟨bad, skipped⟩
        · exact ⟨_, ran, .inl ⟨item, rfl, isKind⟩⟩
        · rw [Finds, skipped]
          exact (ih left (by simpa [isRead] using enough)).also fun absent =>
            List.forall_mem_cons.mpr ⟨bad, absent⟩

theorem finds_scanDue : ∀ keys left, keys.countP (· matches .dispatch _) ≤ left →
    Finds (scanDue wire nowMs keys left) shared
      (fun _ => ∃ sequence record, Due shared.bucket nowMs sequence record)
      (∀ key ∈ keys, ¬ ∃ sequence record, key = .dispatch sequence ∧
        Due shared.bucket nowMs sequence record) := by
  refine finds_scan ?_ ?_ ?_
  · rintro (_ | _) (_ | _) stops <;> first | rfl | simp at stops
  · intro key _ _ other
    cases key with
    | dispatch => cases other
    | cancellation | watchdogClock => exact ⟨by simp, by rw [scanDue]; all_goals nofun⟩
  · intro key _ _ isRead
    cases key with
    | cancellation | watchdogClock => cases isRead
    | dispatch sequence =>
      obtain ⟨loaded, loads, isLoaded⟩ := @run_loadPickup wire _ typed "pickup outcome" sequence
      rw [scanDue, run_andThen loads]
      cases loaded with
      | none => exact .inr ⟨by simp [Due, isLoaded], rfl⟩
      | some loaded =>
        dsimp only
        by_cases due : loaded.1.livenessIsDue nowMs = true
        · rw [if_pos due]
          exact .inl ⟨_, rfl, sequence, _, isLoaded, due⟩
        · rw [if_neg due]
          exact .inr ⟨by simp [Due, isLoaded, due], rfl⟩

theorem finds_scanUnresolved : ∀ keys left, keys.countP (· matches .cancellation _) ≤ left →
    Finds (scanUnresolved wire keys left) shared
      (fun fence => ∃ request record, Pending shared.bucket request record ∧
        fence.owner = record.owner)
      (∀ key ∈ keys, ¬ ∃ request record, key = .cancellation request ∧
        Pending shared.bucket request record) := by
  refine finds_scan ?_ ?_ ?_
  · rintro (_ | _) (_ | _) stops <;> first | rfl | simp at stops
  · intro key _ _ other
    cases key with
    | cancellation => cases other
    | dispatch | watchdogClock => exact ⟨by simp, by rw [scanUnresolved]; all_goals nofun⟩
  · intro key _ _ isRead
    cases key with
    | dispatch | watchdogClock => cases isRead
    | cancellation request =>
      obtain ⟨loaded, loads, isLoaded⟩ := @run_loadFence wire _ typed "cancellation fence" request
      rw [scanUnresolved, run_andThen loads]
      cases loaded with
      | none => exact .inr ⟨by simp [Pending, isLoaded], rfl⟩
      | some loaded =>
        dsimp only
        by_cases pending : loaded.1.reconciliation.isNone = true
        · obtain ⟨fence, answers, owned⟩ := @run_localFence wire _ typed loaded.1
          rw [if_pos pending, run_andThen answers]
          exact .inl ⟨fence, rfl, request, _,
            ⟨isLoaded, Option.isNone_iff_eq_none.mp pending⟩, owned⟩
        · rw [if_neg pending]
          exact .inr ⟨by simp_all [Pending], rfl⟩

omit typed

/-- Unreconciled fences, each bound to an owner, newest first. -/
def sampleFences (fences : List (CancelRequest × String)) : Shared :=
  { Shared.empty with
    bucket := fences.map fun fence =>
      ⟨0, .cancellation fence.1,
        some (.fence { newFence fence.1 fence.1 with owner := some fence.2 })⟩ }

end Tickr.Pickup
