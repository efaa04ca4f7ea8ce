import Mathlib.Data.List.Infix
import Tickr.Concurrent

/-!
# A revisioned key-value store

The store is the log of its writes, newest first, and a write's revision is its
position in the log.  `create` and `update` are compare-and-set on the newest
revision of their key.  Clients cannot read which client made a write.
-/

namespace Tickr.KeyValue

open Concurrent

/-- One write; without a value it is a delete marker. -/
structure Write (κ α : Type) where
  author : Nat
  key : κ
  value : Option α
  deriving DecidableEq

abbrev Log (κ α : Type) := List (Write κ α)

/-- The newest write of a key, as a client reads it. -/
structure Entry (α : Type) where
  revision : Nat
  value : Option α

inductive KvError where
  | unavailable
  | wrongRevision

/-- How a call is delivered: applied and answered, not applied at all, or
applied while its answer is lost. -/
inductive Delivery where
  | applied
  | refused
  | replyLost
  deriving DecidableEq

inductive KvOp (κ α : Type) where
  | entry (key : κ)
  | keys
  | create (key : κ) (value : α)
  | update (key : κ) (value : α) (revision : Nat)
  | put (key : κ) (value : α)
  | delete (key : κ)
  deriving DecidableEq

@[reducible]
def KvOp.Result {κ α : Type} : KvOp κ α → Type
  | .entry _ => Option (Entry α)
  | .keys => List κ
  | .create _ _ => Nat
  | .update _ _ _ => Nat
  | .put _ _ => Nat
  | .delete _ => Unit

@[reducible]
def KvOp.Reply {κ α : Type} (op : KvOp κ α) : Type := Except KvError op.Result

variable {κ α : Type} [DecidableEq κ]

def entry (key : κ) : Log κ α → Option (Entry α)
  | [] => none
  | write :: older =>
    if write.key = key then some ⟨older.length + 1, write.value⟩
    else entry key older

/-- The revision a conditional write of the key must name. -/
def revisionOf (key : κ) (log : Log κ α) : Nat := ((entry key log).map Entry.revision).getD 0

/-- The value stored under a key, if it was not deleted. -/
def lookup (key : κ) (log : Log κ α) : Option α := (entry key log).bind Entry.value

/-- The keys that have a value, in the order of their newest writes. -/
def liveKeys : Log κ α → List κ
  | [] => []
  | write :: older =>
    let others := (liveKeys older).filter (· ≠ write.key)
    if write.value.isSome then others ++ [write.key] else others

/-- The effect of a call that reaches the store. -/
def answer (peer : Nat) (op : KvOp κ α) (log : Log κ α) : op.Reply × Log κ α :=
  match op with
  | .entry key => (.ok (entry key log), log)
  | .keys => (.ok (liveKeys log), log)
  | .create key value =>
    if (lookup key log).isNone then
      (.ok (log.length + 1), ⟨peer, key, some value⟩ :: log)
    else (.error .wrongRevision, log)
  | .update key value revision =>
    if revisionOf key log = revision then
      (.ok (log.length + 1), ⟨peer, key, some value⟩ :: log)
    else (.error .wrongRevision, log)
  | .put key value => (.ok (log.length + 1), ⟨peer, key, some value⟩ :: log)
  | .delete key => (.ok (), ⟨peer, key, none⟩ :: log)

def perform (peer : Nat) (op : KvOp κ α) (delivery : Delivery)
    (log : Log κ α) : op.Reply × Log κ α :=
  match delivery with
  | .applied => answer peer op log
  | .refused => (.error .unavailable, log)
  | .replyLost => (.error .unavailable, (answer peer op log).2)

def system : System (Log κ α) (KvOp κ α) Delivery KvOp.Reply where
  perform := perform

variable {κ α : Type} [DecidableEq κ] {key other : κ}
  {log later : Log κ α} {write : Write κ α} {found : Entry α}

theorem entry_cons_same (same : write.key = key) :
    entry key (write :: log) = some ⟨log.length + 1, write.value⟩ := by
  rw [entry, if_pos same]

theorem entry_cons_other (ne : write.key ≠ key) :
    entry key (write :: log) = entry key log := by
  rw [entry, if_neg ne]

theorem lookup_cons_same (same : write.key = key) : lookup key (write :: log) = write.value := by
  rw [lookup, entry_cons_same same]
  rfl

theorem lookup_cons_other (ne : write.key ≠ key) :
    lookup key (write :: log) = lookup key log := by
  rw [lookup, entry_cons_other ne]
  rfl

theorem revisionOf_cons_same (same : write.key = key) :
    revisionOf key (write :: log) = log.length + 1 := by
  rw [revisionOf, entry_cons_same same]
  rfl

theorem revisionOf_cons_other (ne : write.key ≠ key) :
    revisionOf key (write :: log) = revisionOf key log := by
  rw [revisionOf, entry_cons_other ne]
  rfl

theorem revisionOf_eq (read : entry key log = some found) :
    revisionOf key log = found.revision := by
  rw [revisionOf, read]
  rfl

theorem lookup_eq (read : entry key log = some found) : lookup key log = found.value := by
  rw [lookup, read]
  rfl

theorem revisionOf_le_length (key : κ) (log : Log κ α) : revisionOf key log ≤ log.length := by
  induction log with
  | nil => exact Nat.le_refl 0
  | cons write =>
    by_cases same : write.key = key
    · rw [revisionOf_cons_same same]
      exact Nat.le_refl _
    · rw [revisionOf_cons_other same, List.length_cons]
      omega

/-- A key keeps its entry for as long as its revision stays the same. -/
theorem entry_eq_of_revisionOf_eq (grown : log <:+ later)
    (same : revisionOf key later ≤ log.length) :
    entry key later = entry key log := by
  obtain ⟨newer, rfl⟩ := grown
  induction newer with
  | nil => rfl
  | cons write _ ih =>
    rw [List.cons_append] at same ⊢
    by_cases wrote : write.key = key
    · rw [revisionOf_cons_same wrote, List.length_append] at same
      omega
    · rw [revisionOf_cons_other wrote] at same
      rw [entry_cons_other wrote]
      exact ih same

/-- A key's revision never returns to an older one. -/
theorem revisionOf_eq_of_grown (grown : log <:+ later) {revision : Nat}
    (wrote : revision ≤ log.length) (same : revisionOf key later = revision) :
    revisionOf key log = revision := by
  have sameEntry : entry key later = entry key log := entry_eq_of_revisionOf_eq grown (by omega)
  rw [revisionOf, ← sameEntry]
  exact same

/-- What was read at a revision is still there while the key has that
revision. -/
theorem lookup_of_unchanged (grown : log <:+ later) (read : entry key log = some found)
    (same : revisionOf key later = found.revision) :
    lookup key later = found.value := by
  have wrote : found.revision ≤ log.length := by
    rw [← revisionOf_eq read]
    exact revisionOf_le_length key log
  exact lookup_eq ((entry_eq_of_revisionOf_eq grown (by omega)).trans read)

/-- The value read under a key is the one of its newest write. -/
theorem lookup_of_find? (newest : log.find? (fun write => write.key = key) = some write) :
    lookup key log = write.value := by
  induction log with
  | nil => cases newest
  | cons head _ ih =>
    by_cases same : head.key = key
    · rw [List.find?_cons_of_pos (by simpa using same)] at newest
      cases newest
      exact lookup_cons_same same
    · rw [List.find?_cons_of_neg (by simpa using same)] at newest
      rw [lookup_cons_other same]
      exact ih newest

theorem mem_liveKeys_iff : key ∈ liveKeys log ↔ (lookup key log).isSome := by
  induction log with
  | nil => simp [liveKeys, lookup, entry]
  | cons write _ ih =>
    by_cases same : write.key = key
    · rw [lookup_cons_same same, liveKeys]
      cases held : write.value with
      | none | some => simp [same]
    · rw [lookup_cons_other same, ← ih, liveKeys]
      have ne : key ≠ write.key := .symm same
      cases held : write.value with
      | none | some => simp [ne]

theorem nodup_liveKeys (log : Log κ α) : (liveKeys log).Nodup := by
  induction log with
  | nil => exact List.nodup_nil
  | cons write older ih =>
    rw [liveKeys]
    have others : ((liveKeys older).filter (· ≠ write.key)).Nodup := ih.filter _
    cases write.value with
    | none =>
      exact others
    | some =>
      refine List.nodup_append.mpr ⟨others, List.nodup_cons.mpr ⟨by simp, List.nodup_nil⟩, ?_⟩
      intro _ mem _ last equal
      rw [List.mem_singleton] at last
      subst last
      simp [equal] at mem

variable {κ α β : Type} {select : Write κ α → Option β} {log later : Log κ α} {write : Write κ α}

/-- What is read off the oldest write that has it. -/
def oldest (select : Write κ α → Option β) : Log κ α → Option β
  | [] => none
  | write :: older => (oldest select older).or (select write)

/-- The past does not change. -/
theorem oldest_grown (grown : log <:+ later) {found : β}
    (isOldest : oldest select log = some found) :
    oldest select later = some found := by
  obtain ⟨newer, rfl⟩ := grown
  induction newer with
  | nil => exact isOldest
  | cons _ _ ih =>
    rw [List.cons_append, oldest, ih]
    rfl

theorem oldest_eq_none (silent : ∀ write ∈ log, select write = none) :
    oldest select log = none := by
  induction log with
  | nil => rfl
  | cons write older ih =>
    have olderSilent : oldest select older = none := by
      apply ih
      intro prior mem
      exact silent prior (.tail write mem)
    rw [oldest, olderSilent, silent write List.mem_cons_self]
    rfl

theorem oldest_cons_of_none (none : oldest select log = none) :
    oldest select (write :: log) = select write := by
  rw [oldest, none]
  rfl

theorem oldest_cons_skip (skipped : select write = none) :
    oldest select (write :: log) = oldest select log := by
  rw [oldest, skipped, Option.or_none]

variable {κ α : Type} [DecidableEq κ] {kept : κ → Prop}
  {rel : κ → α → α → Prop} {log : Log κ α} {write : Write κ α}

/-- The kept keys are never deleted, and their values only move forward along a
relation. -/
def Forward (kept : κ → Prop) (rel : κ → α → α → Prop) (log : Log κ α) : Prop :=
  ∀ older key old, kept key → older <:+ log → lookup key older = some old →
    ∃ new, lookup key log = some new ∧ rel key old new

theorem Forward.cons (forward : Forward kept rel log) (reflexive : ∀ key value, rel key value value)
    (transitive : ∀ key first second third, rel key first second →
      rel key second third → rel key first third)
    (moves : kept write.key → ∀ old, lookup write.key log = some old →
      ∃ new, write.value = some new ∧ rel write.key old new) :
    Forward kept rel (write :: log) := by
  intro older key old keeps isOlder found
  rcases List.suffix_cons_iff.mp isOlder with rfl | isOlder
  · exact ⟨old, found, reflexive key old⟩
  obtain ⟨current, now, moved⟩ := forward older key old keeps isOlder found
  by_cases wrote : write.key = key
  · subst wrote
    obtain ⟨new, valued, movesOn⟩ := moves keeps current now
    refine ⟨new, ?_, transitive _ old current new moved movesOn⟩
    rw [lookup_cons_same rfl]
    exact valued
  · refine ⟨current, ?_, moved⟩
    rw [lookup_cons_other wrote]
    exact now

/-- A kept key without a value was never written. -/
theorem not_written_of_lookup_eq_none {key : κ}
    (valued : ∀ write ∈ log, kept write.key → write.value.isSome = true)
    (keeps : kept key) (absent : lookup key log = none) :
    ∀ write ∈ log, write.key ≠ key := by
  induction log with
  | nil =>
    intro _ mem
    cases mem
  | cons head _ ih =>
    by_cases wrote : head.key = key
    · rw [lookup_cons_same wrote] at absent
      have hasValue : head.value.isSome = true := by
        apply valued head (.head _)
        rw [wrote]
        exact keeps
      rw [absent] at hasValue
      cases hasValue
    · rw [lookup_cons_other wrote] at absent
      intro _ mem
      rcases List.mem_cons.mp mem with rfl | isOlder
      · exact wrote
      apply ih
      · intro prior isEarlier
        exact valued prior (.tail head isEarlier)
      · exact absent
      · exact isOlder

theorem mem_of_lookup_eq_some {key : κ} {value : α} (found : lookup key log = some value) :
    ∃ write ∈ log, write.key = key ∧ write.value = some value := by
  induction log with
  | nil => cases found
  | cons head _ ih =>
    by_cases wrote : head.key = key
    · rw [lookup_cons_same wrote] at found
      exact ⟨head, .head _, wrote, found⟩
    · rw [lookup_cons_other wrote] at found
      obtain ⟨write, mem, isWrite⟩ := ih found
      exact ⟨write, .tail head mem, isWrite⟩

/-- A key that is never deleted keeps having a value. -/
theorem lookup_isSome_grown {key : κ} {value : α} {older : Log κ α}
    (valued : ∀ write ∈ log, kept write.key → write.value.isSome = true)
    (keeps : kept key) (grown : older <:+ log) (found : lookup key older = some value) :
    (lookup key log).isSome = true := by
  by_contra isNone
  have absent : lookup key log = none := by simpa using isNone
  obtain ⟨write, mem, isKey, _⟩ := mem_of_lookup_eq_some found
  exact not_written_of_lookup_eq_none valued keeps absent write (grown.subset mem) isKey

variable {κ α : Type} [DecidableEq κ] {key : κ} {value : α} {peer : Nat}
  {delivery : Delivery} {log : Log κ α}

/-- A read changes nothing, and if it is answered, shows the log as it is. -/
theorem perform_entry :
    (perform peer (.entry key) delivery log).2 = log ∧
      ∀ found, (perform peer (.entry key) delivery log).1 = .ok found →
        found = entry key log := by
  cases delivery with
  | applied =>
    refine ⟨rfl, ?_⟩
    rintro _ ⟨⟩
    rfl
  | refused | replyLost => exact ⟨rfl, fun _ answered => by cases answered⟩

theorem perform_keys :
    (perform peer (.keys : KvOp κ α) delivery log).2 = log ∧
      ∀ found,
        (perform peer (.keys : KvOp κ α) delivery log).1 = .ok found → found = liveKeys log := by
  cases delivery with
  | applied =>
    refine ⟨rfl, ?_⟩
    rintro _ ⟨⟩
    rfl
  | refused | replyLost => exact ⟨rfl, fun _ answered => by cases answered⟩

/-- What a call that may write does: nothing, or one write made under the
call's own test; an answered success is a write. -/
structure Writes (peer : Nat) (key : κ) (value : Option α) (test : Prop)
    (log after : Log κ α) : Prop where
  made : after = ⟨peer, key, value⟩ :: log
  passed : test

theorem answer_update {revision : Nat} :
    (Writes peer key (some value) (revisionOf key log = revision) log
        (answer peer (.update key value revision) log).2 ∧
      (answer peer (.update key value revision) log).1 = .ok (log.length + 1)) ∨
    ((answer peer (.update key value revision) log).2 = log ∧
      (answer peer (.update key value revision) log).1 = .error .wrongRevision) := by
  by_cases same : revisionOf key log = revision
  · have took : answer peer (.update key value revision) log =
        (.ok (log.length + 1), ⟨peer, key, some value⟩ :: log) := if_pos same
    rw [took]
    exact .inl ⟨⟨rfl, same⟩, rfl⟩
  · have denied : answer peer (.update key value revision) log =
        (.error .wrongRevision, log) := if_neg same
    rw [denied]
    exact .inr ⟨rfl, rfl⟩

theorem answer_create :
    (Writes peer key (some value) (lookup key log = none) log
        (answer peer (.create key value) log).2 ∧
      (answer peer (.create key value) log).1 = .ok (log.length + 1)) ∨
    ((answer peer (.create key value) log).2 = log ∧
      (answer peer (.create key value) log).1 = .error .wrongRevision) := by
  by_cases absent : (lookup key log).isNone = true
  · have took : answer peer (.create key value) log =
        (.ok (log.length + 1), ⟨peer, key, some value⟩ :: log) := if_pos absent
    rw [took]
    exact .inl ⟨⟨rfl, Option.isNone_iff_eq_none.mp absent⟩, rfl⟩
  · have denied : answer peer (.create key value) log =
        (.error .wrongRevision, log) := if_neg absent
    rw [denied]
    exact .inr ⟨rfl, rfl⟩

theorem perform_refused {op : KvOp κ α} (unchanged : (answer peer op log).2 = log)
    (fails : ∀ reached, (answer peer op log).1 ≠ .ok reached) :
    (perform peer op delivery log).2 = log ∧
      ∀ reached, (perform peer op delivery log).1 ≠ .ok reached := by
  cases delivery with
  | applied => exact ⟨unchanged, fails⟩
  | refused => exact ⟨rfl, fun _ equal => by cases equal⟩
  | replyLost => exact ⟨unchanged, fun _ equal => by cases equal⟩

theorem perform_update {revision : Nat} :
    ((perform peer (.update key value revision) delivery log).2 = log ∧
      ∀ now, (perform peer (.update key value revision) delivery log).1 ≠ .ok now) ∨
    (Writes peer key (some value) (revisionOf key log = revision) log
        (perform peer (.update key value revision) delivery log).2 ∧
      ∀ now,
        (perform peer (.update key value revision) delivery log).1 = .ok now →
          now = log.length + 1) := by
  rcases @answer_update κ α _ key value peer log revision with
    ⟨writes, answered⟩ | ⟨unchanged, answered⟩
  · cases delivery with
    | applied =>
      refine .inr ⟨writes, ?_⟩
      intro _ equal
      exact Except.ok.inj (equal.symm.trans answered)
    | refused => exact .inl ⟨rfl, fun _ equal => by cases equal⟩
    | replyLost => exact .inr ⟨writes, fun _ equal => by cases equal⟩
  · exact .inl (perform_refused unchanged (by simp [answered]))

theorem perform_create :
    ((perform peer (.create key value) delivery log).2 = log ∧
      ∀ now, (perform peer (.create key value) delivery log).1 ≠ .ok now) ∨
    Writes peer key (some value) (lookup key log = none) log
      (perform peer (.create key value) delivery log).2 := by
  rcases @answer_create κ α _ key value peer log with ⟨writes, _⟩ | ⟨unchanged, answered⟩
  · cases delivery with
    | applied | replyLost => exact .inr writes
    | refused => exact .inl ⟨rfl, fun _ equal => by cases equal⟩
  · exact .inl (perform_refused unchanged (by simp [answered]))

theorem perform_put :
    (perform peer (.put key value) delivery log).2 = log ∨
    (perform peer (.put key value) delivery log).2 = ⟨peer, key, some value⟩ :: log := by
  cases delivery with
  | applied | replyLost => exact .inr rfl
  | refused => exact .inl rfl

theorem perform_delete :
    (perform peer (.delete key : KvOp κ α) delivery log).2 = log ∨
    (perform peer (.delete key : KvOp κ α) delivery log).2 = ⟨peer, key, none⟩ :: log := by
  cases delivery with
  | applied | replyLost => exact .inr rfl
  | refused => exact .inl rfl

/-- The write a call makes when it takes effect. -/
def KvOp.Writes (op : KvOp κ α) (key : κ) (value : Option α) : Prop :=
  match op with
  | .entry _ | .keys => False
  | .create written stored => key = written ∧ value = some stored
  | .update written stored _ => key = written ∧ value = some stored
  | .put written stored => key = written ∧ value = some stored
  | .delete written => key = written ∧ value = none

/-- Whatever the call and its delivery: nothing changes, or the client makes
the one write that the call is for. -/
theorem perform_cases (op : KvOp κ α) :
    (perform peer op delivery log).2 = log ∨
      ∃ key value, op.Writes key value ∧
        (perform peer op delivery log).2 = ⟨peer, key, value⟩ :: log := by
  cases op with
  | entry => exact .inl perform_entry.1
  | keys => exact .inl perform_keys.1
  | create key value =>
    rcases @perform_create κ α _ key value peer delivery log with ⟨still, _⟩ | ⟨made, _⟩
    · exact .inl still
    · exact .inr ⟨key, some value, ⟨rfl, rfl⟩, made⟩
  | update key value revision =>
    rcases @perform_update κ α _ key value peer delivery log revision with
      ⟨still, _⟩ | ⟨⟨made, _⟩, _⟩
    · exact .inl still
    · exact .inr ⟨key, some value, ⟨rfl, rfl⟩, made⟩
  | put key value =>
    rcases @perform_put κ α _ key value peer delivery log with
      still | made
    · exact .inl still
    · exact .inr ⟨key, some value, ⟨rfl, rfl⟩, made⟩
  | delete key =>
    rcases @perform_delete κ α _ key peer delivery log with
      still | made
    · exact .inl still
    · exact .inr ⟨key, none, ⟨rfl, rfl⟩, made⟩

/-- A put that is answered as made is in the log. -/
theorem perform_put_of_ok {revision : Nat}
    (answered : (perform peer (.put key value) delivery log).1 = .ok revision) :
    (perform peer (.put key value) delivery log).2 = ⟨peer, key, some value⟩ :: log := by
  cases delivery with
  | applied => rfl
  | refused | replyLost => cases answered

end Tickr.KeyValue
