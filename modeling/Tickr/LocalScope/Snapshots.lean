import Tickr.LocalScope.Store
import Tickr.Scope.Operations

/-!
# The bytes of a scope snapshot

The decoder accepts exactly what the encoder writes, and the two stores write the
same bytes.
-/

namespace Tickr.LocalScope

open LogStream (Uuid Bytes)

def readSnapshotLength : Bytes → Except String (Nat × Bytes)
  | first :: second :: third :: fourth :: rest =>
    .ok (first.toNat * 2 ^ 24 + second.toNat * 2 ^ 16 + third.toNat * 2 ^ 8 + fourth.toNat, rest)
  | _ => .error "scope snapshot is truncated"

/-- What the offset has not passed yet stands for the offset. -/
def readSnapshotBytes (bytes : Bytes) : Except String (Bytes × Bytes) := do
  let (length, rest) ← readSnapshotLength bytes
  if rest.length < length then .error "scope snapshot is truncated"
  else .ok (rest.take length, rest.drop length)

def fromUtf8 (bytes : Bytes) : Except String String :=
  match String.fromUTF8? ⟨bytes.toArray⟩ with
  | some text => .ok text
  | none => .error "scope snapshot contains a non-UTF-8 key"

def readSnapshotValues : Nat → Bytes → Except String (List ScopeValue × Bytes)
  | 0, bytes => .ok ([], bytes)
  | count + 1, bytes => do
    let (keyBytes, afterKey) ← readSnapshotBytes bytes
    let key ← fromUtf8 keyBytes
    let (envelope, afterEnvelope) ← readSnapshotBytes afterKey
    let (values, rest) ← readSnapshotValues count afterEnvelope
    .ok (⟨key, envelope⟩ :: values, rest)

def decodeTickrCtxScopeSnapshot (codec : ScopeCodec) (snapshot : ScopeSnapshot) :
    Except String (List ScopeValue) := do
  if !snapshotMagic.isPrefixOf snapshot.bytes ||
      codec.contentDigest snapshot.bytes != snapshot.digest then
    .error "scope snapshot format or digest is invalid"
  else
    let (count, bytes) ← readSnapshotLength (snapshot.bytes.drop snapshotMagic.length)
    if count ≠ snapshot.rowCount then
      .error "scope snapshot row count does not match its metadata"
    else
      let (values, rest) ← readSnapshotValues count bytes
      if rest ≠ [] ∨ envelopeBytes values ≠ snapshot.valueBytes then
        .error "scope snapshot payload or byte count does not match its metadata"
      else .ok values

/-- The lengths that the encoder writes fit in its four bytes. -/
def ScopeValue.Short (value : ScopeValue) : Prop :=
  (utf8 value.key).length < 2 ^ 32 ∧ value.envelope.length < 2 ^ 32

def ScopeValue.bytes (value : ScopeValue) : Bytes :=
  lengthPrefixed (utf8 value.key) ++ lengthPrefixed value.envelope

variable {bytes rest : Bytes} {values : List ScopeValue}

theorem bind_ok {ε α β : Type} {first : Except ε α} {rest : α → Except ε β}
    {value : α} {result : β} (isFirst : first = .ok value) (isRest : rest value = .ok result) :
    first >>= rest = .ok result := by
  rw [isFirst]
  exact isRest

theorem readSnapshotLength_iff : readSnapshotLength bytes = .ok (length, rest) ↔
    length < 2 ^ 32 ∧ bytes = bigEndian length ++ rest := by
  constructor
  · intro reads
    match bytes, reads with
    | first :: second :: third :: fourth :: others, reads =>
      obtain ⟨_, rfl⟩ := Prod.mk.inj (Except.ok.inj reads)
      have bounds := And.intro first.toNat_lt (And.intro second.toNat_lt
        (And.intro third.toNat_lt fourth.toNat_lt))
      refine ⟨by omega, ?_⟩
      simp only [bigEndian, List.cons_append, List.nil_append, List.cons.injEq, and_true,
        ← UInt8.toNat_inj, UInt8.toNat_ofNat', Nat.toUInt8]
      omega
  · rintro ⟨_, rfl⟩
    simp only [bigEndian, List.cons_append, List.nil_append, readSnapshotLength, Nat.toUInt8,
      UInt8.toNat_ofNat', Except.ok.injEq, Prod.mk.injEq, and_true]
    omega

theorem readSnapshotBytes_iff : readSnapshotBytes bytes = .ok (value, rest) ↔
    value.length < 2 ^ 32 ∧ bytes = lengthPrefixed value ++ rest := by
  rw [lengthPrefixed, List.append_assoc]
  constructor
  · intro reads
    obtain ⟨⟨length, others⟩, isLength, taken⟩ := Rust.bind_eq_ok reads
    obtain ⟨fits, rfl⟩ := readSnapshotLength_iff.mp isLength
    by_cases short : others.length < length
    · simp [short] at taken
    · simp only [if_neg short, Except.ok.injEq, Prod.mk.injEq] at taken
      obtain ⟨rfl, rfl⟩ := taken
      have whole : (others.take length).length = length := by
        rw [List.length_take]
        omega
      rw [whole, List.take_append_drop]
      exact ⟨fits, rfl⟩
  · rintro ⟨fits, rfl⟩
    rw [readSnapshotBytes, readSnapshotLength_iff.mpr ⟨fits, rfl⟩]
    simp [bind, Except.bind]

theorem fromUtf8_iff : fromUtf8 bytes = .ok text ↔ utf8 text = bytes := by
  have encoded : utf8 text = bytes ↔ text.toByteArray = ⟨bytes.toArray⟩ := by
    rw [← String.utf8Encode_toList, List.utf8Encode, utf8]
    simp [ByteArray.ext_iff, List.data_toByteArray]
  rw [fromUtf8, encoded, String.fromUTF8?]
  by_cases valid : ByteArray.IsValidUTF8 ⟨bytes.toArray⟩
  · rw [dif_pos valid]
    rw [Except.ok.injEq, ← String.toByteArray_inj]
    exact eq_comm
  · rw [dif_neg valid]
    refine iff_of_false nofun fun same => valid ?_
    rw [← same]
    exact text.isValidUTF8

/-- Induction on the count: one value is read off the front. -/
theorem readSnapshotValues_iff : readSnapshotValues count bytes = .ok (values, rest) ↔
    values.length = count ∧ (∀ value ∈ values, value.Short) ∧
      bytes = values.flatMap ScopeValue.bytes ++ rest := by
  induction count generalizing bytes values with
  | zero =>
    rw [readSnapshotValues, List.length_eq_zero_iff, Except.ok.injEq, Prod.mk.injEq]
    constructor
    · rintro ⟨rfl, rfl⟩
      simp
    · rintro ⟨rfl, _, rfl⟩
      simp
  | succ _ ih =>
    constructor
    · intro reads
      obtain ⟨⟨_, _⟩, isKey, reads⟩ := Rust.bind_eq_ok reads
      obtain ⟨_, isText, reads⟩ := Rust.bind_eq_ok reads
      obtain ⟨⟨_, _⟩, isEnvelope, reads⟩ := Rust.bind_eq_ok reads
      obtain ⟨⟨_, _⟩, isOthers, reads⟩ := Rust.bind_eq_ok reads
      cases reads
      obtain ⟨shortKey, rfl⟩ := readSnapshotBytes_iff.mp isKey
      obtain ⟨shortEnvelope, rfl⟩ := readSnapshotBytes_iff.mp isEnvelope
      obtain ⟨rfl, short, rfl⟩ := ih.mp isOthers
      have text := fromUtf8_iff.mp isText
      subst text
      refine ⟨rfl, List.forall_mem_cons.mpr ⟨⟨shortKey, shortEnvelope⟩, short⟩, ?_⟩
      simp only [List.flatMap_cons, ScopeValue.bytes, List.append_assoc]
    · rintro ⟨isCount, short, rfl⟩
      cases values with
      | nil => cases isCount
      | cons =>
        obtain ⟨⟨shortKey, shortEnvelope⟩, shortOthers⟩ := List.forall_mem_cons.mp short
        have isOthers := ih.mpr ⟨Nat.succ.inj isCount, shortOthers, rfl⟩
        rw [readSnapshotValues, List.flatMap_cons, ScopeValue.bytes, List.append_assoc,
          List.append_assoc]
        refine bind_ok (readSnapshotBytes_iff.mpr ⟨shortKey, rfl⟩) ?_
        refine bind_ok (fromUtf8_iff.mpr rfl) ?_
        refine bind_ok (readSnapshotBytes_iff.mpr ⟨shortEnvelope, rfl⟩) ?_
        exact bind_ok isOthers rfl

variable {codec : ScopeCodec} {snapshot : ScopeSnapshot}

theorem encodeSnapshot_eq (values : List ScopeValue) : encodeSnapshot values =
    snapshotMagic ++ (bigEndian values.length ++ values.flatMap ScopeValue.bytes) := by
  unfold encodeSnapshot
  rw [List.append_assoc]
  congr 2

theorem decode_iff : decodeTickrCtxScopeSnapshot codec snapshot = .ok values ↔
    snapshot.bytes = encodeSnapshot values ∧ snapshot.rowCount = values.length ∧
      snapshot.valueBytes = envelopeBytes values ∧
      codec.contentDigest snapshot.bytes = snapshot.digest ∧
      values.length < 2 ^ 32 ∧ ∀ value ∈ values, value.Short := by
  rw [decodeTickrCtxScopeSnapshot, encodeSnapshot_eq]
  generalize snapshotMagic = magic
  constructor
  · intro decodes
    by_cases refused : !magic.isPrefixOf snapshot.bytes ||
        codec.contentDigest snapshot.bytes != snapshot.digest
    · rw [if_pos refused] at decodes
      cases decodes
    rw [if_neg refused] at decodes
    simp only [Bool.or_eq_true, Bool.not_eq_true', bne_iff_ne, not_or, not_not,
      Bool.not_eq_false, List.isPrefixOf_iff_prefix] at refused
    obtain ⟨⟨_, isBody⟩, digest⟩ := refused
    obtain ⟨⟨count, _⟩, isCount, decodes⟩ := Rust.bind_eq_ok decodes
    dsimp only at decodes
    by_cases rows : count ≠ snapshot.rowCount
    · rw [if_pos rows] at decodes
      cases decodes
    rw [if_neg rows] at decodes
    obtain ⟨⟨read, rest⟩, isRead, decodes⟩ := Rust.bind_eq_ok decodes
    by_cases ended : rest ≠ [] ∨ envelopeBytes read ≠ snapshot.valueBytes
    · rw [if_pos ended] at decodes
      cases decodes
    rw [if_neg ended] at decodes
    cases decodes
    simp only [not_or, not_not] at ended
    obtain ⟨rfl, total⟩ := ended
    rw [← isBody, List.drop_left] at isCount
    obtain ⟨fits, rfl⟩ := readSnapshotLength_iff.mp isCount
    obtain ⟨rfl, short, rfl⟩ := readSnapshotValues_iff.mp isRead
    rw [List.append_nil] at isBody
    exact ⟨isBody.symm, (not_not.mp rows).symm, total.symm, digest, fits, short⟩
  · rintro ⟨isBytes, rows, total, digest, few, short⟩
    have marked : magic.isPrefixOf snapshot.bytes = true := by
      rw [isBytes, List.isPrefixOf_iff_prefix]
      exact List.prefix_append _ _
    rw [if_neg (by simp [marked, digest])]
    refine bind_ok (readSnapshotLength_iff.mpr ⟨few, by rw [isBytes, List.drop_left]⟩) ?_
    dsimp only
    rw [if_neg (by simp [rows])]
    refine bind_ok (readSnapshotValues_iff.mpr ⟨rfl, short, (List.append_nil _).symm⟩) ?_
    rw [if_neg (by simp [total])]

/-- The limits of a scope; a key is as long as its length field allows. -/
def WithinLimits (values : List ScopeValue) : Prop :=
  values.length ≤ maxScopeRows ∧ envelopeBytes values ≤ maxScopeBytes ∧
    ∀ value ∈ values, (utf8 value.key).length < 2 ^ 32

theorem WithinLimits.short (limits : WithinLimits values) :
    values.length < 2 ^ 32 ∧ ∀ value ∈ values, value.Short := by
  obtain ⟨rows, total, keys⟩ := limits
  rw [maxScopeRows] at rows
  rw [maxScopeBytes] at total
  refine ⟨by omega, fun value mem => ⟨keys value mem, ?_⟩⟩
  have part : value.envelope.length ≤ envelopeBytes values :=
    List.single_le_sum (by simp) _ (List.mem_map_of_mem mem)
  omega

def natsValue (entry : Scope.NatsScopeEntry) : ScopeValue := ⟨entry.key, entry.envelope⟩

theorem snapshotBytes_eq (entries : List Scope.NatsScopeEntry) :
    Scope.snapshotBytes entries = encodeSnapshot (entries.map natsValue) := by
  unfold Scope.snapshotBytes encodeSnapshot
  rw [List.flatMap_map, List.length_map]
  congr 2

/-- Both stores order the entries by their keys, which are distinct. -/
theorem sortEntries_eq {entries : List Scope.NatsScopeEntry}
    (distinct : (values.map ScopeValue.key).Nodup) (same : values.Perm (entries.map natsValue)) :
    (Scope.sortEntries entries).map natsValue = sortValues values := by
  have ours : (sortValues values).Perm values := List.perm_insertionSort _ _
  have theirs : ((Scope.sortEntries entries).map natsValue).Perm (entries.map natsValue) :=
    (List.perm_insertionSort _ _).map _
  have oursSorted : (sortValues values).Pairwise fun left right => left.key ≤ right.key :=
    List.pairwise_insertionSort _ _
  have theirsSorted : ((Scope.sortEntries entries).map natsValue).Pairwise
      fun left right => left.key ≤ right.key :=
    List.pairwise_map.mpr (List.pairwise_insertionSort _ _)
  refine (theirs.trans (same.symm.trans ours.symm)).eq_of_pairwise ?_ theirsSorted oursSorted
  intro _ _ isLeft isRight before after
  have keys := le_antisymm before after
  exact List.inj_on_of_nodup_map distinct ((theirs.trans same.symm).mem_iff.mp isLeft)
    (ours.mem_iff.mp isRight) keys

end Tickr.LocalScope
