import Tickr.Json
import Tickr.LogStream.State

/-!
# Planning the re-hydration of a replay

The plan sorts the entries of the source run's archived scope by who wrote them.
A task's value is attributed to a node through the replay provenance, which may
be cyclic or lead to a run that is not at hand.
-/

namespace Tickr.Rehydration

open LogStream (Uuid Bytes)

inductive Producer where
  | task (taskId taskName : String)
  | signal (signalId : Uuid)
  | system (component : String)

structure Library where
  envelopeProducer : Json → Option Producer
  parseUuid : String → Option Uuid
  sha256Hex : String → String

structure ArchivedCtxEntry where
  key : String
  envelope : Json
  envelopeBytes : Bytes

structure ArchivedTaskInstanceRow where
  (id nodeId : Uuid)

structure ArchivedRun where
  instanceId : Uuid
  replaySource : Option Uuid
  taskInstances : List ArchivedTaskInstanceRow
  ctxDump : List ArchivedCtxEntry

structure CarriedKey where
  name : String
  bytes : Bytes

structure RehydrationPlan where
  (carried shadowed : List CarriedKey)
  flaggedAbsent : List String
  carriedCount : Nat
  keyListSha256 : String
  replaySignalId : Uuid

def ctxGraphKey : String := "tickr_graph"

def replayKeyStart : String := "tickr_replay/"

def maxChainDepth : Nat := 4096

def keyName (fullKey : String) : String :=
  match fullKey.toList.dropWhile (· ≠ '/') with
  | [] => fullKey
  | _ :: name => String.ofList name

def isReserved (name : String) : Bool :=
  name == ctxGraphKey || replayKeyStart.toList.isPrefixOf name.toList

/-- The last row of a task instance is the one the map keeps. -/
def tiToNodeForRun (run : ArchivedRun) : Uuid → Option Uuid :=
  run.taskInstances.foldl (fun map row => Function.update map row.id (some row.nodeId))
    fun _ => none

section Resolution

variable (ancestors : Uuid → Option ArchivedRun)

/-- One generation's rows resolve what they know of the batch. -/
def learn (run : ArchivedRun) (unresolved : List Uuid) (resolved : Uuid → Option Uuid) :
    Uuid → Option Uuid :=
  fun ti => if ti ∈ unresolved then (tiToNodeForRun run ti).or (resolved ti) else resolved ti

/-- The loop over the generations: `left` more of them may be consulted. -/
def resolveFrom : Nat → Option ArchivedRun → List Uuid → (Uuid → Option Uuid) →
    Uuid → Option Uuid
  | _, none, _, resolved => resolved
  | 0, some run, unresolved, resolved => learn run unresolved resolved
  | left + 1, some run, unresolved, resolved =>
    if unresolved.isEmpty then resolved
    else
      resolveFrom left (run.replaySource.bind ancestors)
        (unresolved.filter fun ti => (tiToNodeForRun run ti).isNone)
        (learn run unresolved resolved)

def resolveProducers (source : ArchivedRun) (unresolved : List Uuid) : Uuid → Option Uuid :=
  resolveFrom ancestors maxChainDepth (some source) unresolved fun _ => none

/-- The runs of the provenance from `current` on, `left` links deep. -/
def provenance : Nat → Option ArchivedRun → List ArchivedRun
  | _, none => []
  | 0, some run => [run]
  | left + 1, some run => run :: provenance left (run.replaySource.bind ancestors)

/-- The node that the nearest generation knowing the task instance names. -/
def nearestNode (source : ArchivedRun) (ti : Uuid) : Option Uuid :=
  (provenance ancestors maxChainDepth (some source)).findSome? (tiToNodeForRun · ti)

variable {ancestors}

theorem resolveFrom_resolved :
    ∀ (left : Nat) (current : Option ArchivedRun) {unresolved : List Uuid}
      (resolved : Uuid → Option Uuid), ti ∉ unresolved →
      resolveFrom ancestors left current unresolved resolved ti = resolved ti
  | _, none, _, _, _ => by rw [resolveFrom]
  | 0, some _, _, _, absent => by rw [resolveFrom, learn, if_neg absent]
  | left + 1, some run, unresolved, _, absent => by
      have stays : ti ∉ unresolved.filter fun ti => (tiToNodeForRun run ti).isNone := by
        simp [absent]
      rw [resolveFrom]
      split
      · rfl
      · rw [resolveFrom_resolved left _ _ stays, learn, if_neg absent]

/-- Induction on the generations left: an instance leaves the batch at the first
generation that knows it, and no other instance of the batch has a say in that. -/
theorem resolveFrom_batch :
    ∀ (left : Nat) (current : Option ArchivedRun) {unresolved : List Uuid}
      {resolved : Uuid → Option Uuid}, ti ∈ unresolved → resolved ti = none →
      resolveFrom ancestors left current unresolved resolved ti =
        (provenance ancestors left current).findSome? (tiToNodeForRun · ti)
  | _, none, _, _, _, unknown => by simpa [resolveFrom, provenance] using unknown
  | 0, some run, _, _, mem, unknown => by
      rw [resolveFrom, learn, if_pos mem, unknown, provenance]
      cases known : tiToNodeForRun run ti <;> simp [known]
  | left + 1, some run, unresolved, _, mem, unknown => by
      have nonempty := List.ne_nil_of_mem mem
      rw [resolveFrom, provenance, List.findSome?_cons, if_neg (by simp [nonempty])]
      cases known : tiToNodeForRun run ti with
      | none =>
          have waiting : ti ∈ unresolved.filter fun ti => (tiToNodeForRun run ti).isNone := by
            simp [mem, known]
          exact resolveFrom_batch left _ waiting (by simp [learn, known, unknown])
      | some =>
          rw [resolveFrom_resolved left _ _ (by simp [known])]
          simp [learn, mem, known]

theorem resolveProducers_batch (mem : ti ∈ batch) :
    resolveProducers ancestors source batch ti = nearestNode ancestors source ti :=
  resolveFrom_batch maxChainDepth _ mem rfl

end Resolution

section Planning

variable (library : Library)

def producerOf (entry : ArchivedCtxEntry) : Option Producer :=
  library.envelopeProducer entry.envelope

/-- The task instance that the producer of a task's entry names. -/
def producerId (entry : ArchivedCtxEntry) : Option Uuid :=
  match producerOf library entry with
  | some (.task taskId _) => library.parseUuid taskId
  | _ => none

inductive EntryClass where
  | reserved
  | carried
  | absent
  | signalOwned
  | flagged
  deriving DecidableEq

/-- The branch of the planning loop that an entry takes. -/
def classOf (resolved : Uuid → Option Uuid) (preGrounded : List Uuid)
    (entry : ArchivedCtxEntry) : EntryClass :=
  if isReserved (keyName entry.key) then .reserved
  else
    match producerOf library entry with
    | some (.task _ _) =>
      match (producerId library entry).bind resolved with
      | some node => if node ∈ preGrounded then .carried else .absent
      | none => .flagged
    | some (.signal _) => .signalOwned
    | some (.system _) => .flagged
    | none => .flagged

def carry (entry : ArchivedCtxEntry) : CarriedKey := ⟨keyName entry.key, entry.envelopeBytes⟩

def planEntry (resolved : Uuid → Option Uuid) (preGrounded : List Uuid)
    (plan : List CarriedKey × List String) (entry : ArchivedCtxEntry) :
    List CarriedKey × List String :=
  match classOf library resolved preGrounded entry with
  | .carried => (plan.1 ++ [carry entry], plan.2)
  | .flagged => (plan.1, plan.2 ++ [keyName entry.key])
  | .reserved | .absent | .signalOwned => plan

def producerIds (entries : List ArchivedCtxEntry) : List Uuid :=
  (entries.filter fun entry => !isReserved (keyName entry.key)).filterMap (producerId library)

def sha256OfNames (names : List String) : String :=
  library.sha256Hex ("\n".intercalate names)

variable (source : ArchivedRun) (ancestors : Uuid → Option ArchivedRun) (preGrounded : List Uuid)

def planRehydration (replaySignalId : Uuid) : RehydrationPlan :=
  let resolved := resolveProducers ancestors source (producerIds library source.ctxDump)
  let (planned, flagged) := source.ctxDump.foldl (planEntry library resolved preGrounded) ([], [])
  let carried := planned.insertionSort fun left right => left.name ≤ right.name
  { carried, shadowed := [], flaggedAbsent := flagged.insertionSort (· ≤ ·)
    carriedCount := carried.length
    keyListSha256 := sha256OfNames library (carried.map CarriedKey.name), replaySignalId }

/-- The entry was written by a task that the provenance attributes to `node`. -/
def WrittenAt (entry : ArchivedCtxEntry) (node : Uuid) : Prop :=
  (producerId library entry).bind (nearestNode ancestors source) = some node

/-- What it is for an entry of the source's scope to be in a class. -/
def InClass (entry : ArchivedCtxEntry) : EntryClass → Prop
  | .reserved => isReserved (keyName entry.key)
  | .carried => ¬isReserved (keyName entry.key) ∧
      ∃ node ∈ preGrounded, WrittenAt library source ancestors entry node
  | .absent => ¬isReserved (keyName entry.key) ∧
      ∃ node ∉ preGrounded, WrittenAt library source ancestors entry node
  | .signalOwned => ¬isReserved (keyName entry.key) ∧
      ∃ signalId, producerOf library entry = some (.signal signalId)
  | .flagged => ¬isReserved (keyName entry.key) ∧
      (∀ signalId, producerOf library entry ≠ some (.signal signalId)) ∧
      ∀ node, ¬WrittenAt library source ancestors entry node

variable {library source ancestors preGrounded} {entry : ArchivedCtxEntry}

theorem inClass_iff :
    InClass library source ancestors preGrounded entry kind ↔
      kind = classOf library (nearestNode ancestors source) preGrounded entry := by
  unfold classOf
  by_cases kept : isReserved (keyName entry.key)
  · cases kind <;> simp [InClass, kept]
  · cases producer : producerOf library entry with
    | none => cases kind <;> simp [InClass, WrittenAt, kept, producer, producerId]
    | some wrote =>
        cases wrote with
        | signal => cases kind <;> simp [InClass, WrittenAt, kept, producer, producerId]
        | system => cases kind <;> simp [InClass, WrittenAt, kept, producer, producerId]
        | task =>
            cases known : (producerId library entry).bind (nearestNode ancestors source) with
            | none => cases kind <;> simp [InClass, WrittenAt, kept, producer, known]
            | some node =>
                by_cases ground : node ∈ preGrounded <;> cases kind <;>
                  simp [InClass, WrittenAt, kept, producer, known, ground]

/-- The plan's two lists, entry by entry. -/
theorem planEntry_foldl {entries : List ArchivedCtxEntry} :
    entries.foldl (planEntry library resolved preGrounded) plan =
      (plan.1 ++ (entries.filter (classOf library resolved preGrounded · = .carried)).map carry,
        plan.2 ++ (entries.filter (classOf library resolved preGrounded · = .flagged)).map
          (keyName ·.key)) := by
  induction entries generalizing plan with
  | nil => simp
  | cons entry _ induction =>
      rw [List.foldl_cons, induction, planEntry]
      cases kind : classOf library resolved preGrounded entry <;> simp [kind]

/-- The batch holds every task instance that the second pass asks for. -/
theorem classOf_batch (mem : entry ∈ source.ctxDump) :
    classOf library (resolveProducers ancestors source (producerIds library source.ctxDump))
        preGrounded entry =
      classOf library (nearestNode ancestors source) preGrounded entry := by
  unfold classOf
  split
  · rfl
  · rename_i kept
    cases named : producerId library entry with
    | none => rfl
    | some ti =>
        have asked : ti ∈ producerIds library source.ctxDump :=
          List.mem_filterMap.mpr ⟨entry, by simp [mem, kept], named⟩
        simp only [Option.bind_some, resolveProducers_batch asked]

instance : Std.Total fun left right : CarriedKey => left.name ≤ right.name :=
  ⟨fun left right => le_total left.name right.name⟩

instance : IsTrans CarriedKey fun left right => left.name ≤ right.name :=
  ⟨fun _ _ _ => le_trans⟩

variable (library source ancestors preGrounded)

/-- Every entry is in one class; the carried ones are listed by name with their
archived bytes, the flagged ones by name; and the batch that resolves the
producers answers for each of them as a walk of the provenance for it alone. -/
theorem rehydration_planned (replaySignalId : Uuid) :
    let plan := planRehydration library source ancestors preGrounded replaySignalId
    ∃ kindOf : ArchivedCtxEntry → EntryClass,
      (∀ entry kind, InClass library source ancestors preGrounded entry kind ↔
        kind = kindOf entry) ∧
      plan.carried.Perm ((source.ctxDump.filter (kindOf · = .carried)).map carry) ∧
      plan.carried.Pairwise (fun left right => left.name ≤ right.name) ∧
      plan.flaggedAbsent.Perm ((source.ctxDump.filter (kindOf · = .flagged)).map (keyName ·.key)) ∧
      plan.flaggedAbsent.Pairwise (· ≤ ·) ∧
      ∀ batch, ∀ ti ∈ batch,
        resolveProducers ancestors source batch ti = nearestNode ancestors source ti ∧
        resolveProducers ancestors source [ti] ti = nearestNode ancestors source ti := by
  have batched : ∀ kind, source.ctxDump.filter (classOf library (resolveProducers ancestors source
      (producerIds library source.ctxDump)) preGrounded · = kind) = source.ctxDump.filter
        (classOf library (nearestNode ancestors source) preGrounded · = kind) := fun _ =>
    List.filter_congr fun _ mem => by rw [classOf_batch mem]
  simp only [planRehydration, planEntry_foldl, batched, List.nil_append]
  exact ⟨classOf library (nearestNode ancestors source) preGrounded, fun _ _ => inClass_iff,
    List.perm_insertionSort _ _, List.pairwise_insertionSort _ _,
    List.perm_insertionSort _ _, List.pairwise_insertionSort _ _,
    fun _ ti mem =>
      ⟨resolveProducers_batch mem, resolveProducers_batch (List.mem_singleton_self ti)⟩⟩

end Planning

section Chaining

def hydrationSentinelKey : String := replayKeyStart ++ "hydrated"

def hasSentinel (ctxDump : List ArchivedCtxEntry) : Bool :=
  ctxDump.any fun entry => keyName entry.key == hydrationSentinelKey

/-- An origin run needs no sentinel. -/
def isHydrationComplete (run : ArchivedRun) : Bool :=
  run.replaySource.isNone || hasSentinel run.ctxDump

variable (ancestors : Uuid → Option ArchivedRun) (source : ArchivedRun)

/-- The ancestor that the loop over the provenance names, with `left` more
ancestors to consult after this one. -/
def nearestHydratedAncestor : Nat → Option Uuid → Uuid
  | _, none => source.instanceId
  | left, some parentId =>
    match ancestors parentId with
    -- the run is not at hand: the caller cannot chain past it
    | none => parentId
    | some ancestor =>
      if isHydrationComplete ancestor then parentId
      else
        match left with
        | 0 => source.instanceId
        | left + 1 => nearestHydratedAncestor left ancestor.replaySource

/-- The error is `ParentNeverHydrated` with the ancestor it names. -/
def parentHydrationGate : Except Uuid Unit :=
  if isHydrationComplete source then .ok ()
  else .error (nearestHydratedAncestor ancestors source maxChainDepth source.replaySource)

/-- The runs that the provenance leads to, up to an origin, all at hand. -/
def IsChain : Option Uuid → List (Uuid × ArchivedRun) → Prop
  | none, [] => True
  | some parentId, (id, run) :: farther =>
    parentId = id ∧ ancestors id = some run ∧ IsChain run.replaySource farther
  | _, _ => False

/-- The nearest complete run of the chain is named, or no run among the first
`depth` is complete and the source itself is named in place of an ancestor. -/
def NamesNearest (chain : List (Uuid × ArchivedRun)) (depth : Nat) (named : Uuid) : Prop :=
  (∃ nearer run farther, chain = nearer ++ (named, run) :: farther ∧
    isHydrationComplete run = true ∧ ∀ other ∈ nearer, isHydrationComplete other.2 = false) ∨
  named = source.instanceId ∧ ∀ other ∈ chain.take depth, isHydrationComplete other.2 = false

variable {ancestors source}

/-- Induction on the chain: an incomplete run is one more of the nearer ones. -/
theorem nearestHydratedAncestor_names (left : Nat) {chain : List (Uuid × ArchivedRun)}
    (isChain : IsChain ancestors parent chain) :
    NamesNearest source chain (left + 1) (nearestHydratedAncestor ancestors source left parent) := by
  induction chain generalizing parent left with
  | nil =>
      cases parent with
      | none => exact .inr ⟨by rw [nearestHydratedAncestor], by simp⟩
      | some => exact isChain.elim
  | cons link farther ih =>
      cases parent with
      | none => exact isChain.elim
      | some =>
          obtain ⟨rfl, atHand, rest⟩ := isChain
          rw [nearestHydratedAncestor.eq_def]
          simp only [atHand]
          cases complete : isHydrationComplete link.2 with
          | true => exact .inl ⟨[], link.2, farther, rfl, complete, by simp⟩
          | false =>
              cases left with
              | zero => exact .inr ⟨rfl, by simpa using complete⟩
              | succ left =>
                  rcases ih left rest with ⟨nearer, run, others, parts, isRun, before⟩ | nowhere
                  · refine .inl ⟨link :: nearer, run, others, by rw [parts]; rfl, isRun, ?_⟩
                    exact List.forall_mem_cons.mpr ⟨complete, before⟩
                  · refine .inr ⟨nowhere.1, ?_⟩
                    exact List.forall_mem_cons.mpr ⟨complete, nowhere.2⟩

variable (ancestors source)

/-- The gate passes exactly the runs that are hydration-complete, whatever the
provenance; where the provenance is at hand up to an origin, it names the nearest
complete run, unless none within the depth limit is complete. -/
theorem hydration_gate :
    (parentHydrationGate ancestors source = .ok () ↔ isHydrationComplete source = true) ∧
    ∀ chain named, IsChain ancestors source.replaySource chain →
      parentHydrationGate ancestors source = .error named →
        NamesNearest source chain (maxChainDepth + 1) named := by
  rw [parentHydrationGate]
  cases complete : isHydrationComplete source with
  | true => simp
  | false =>
      refine ⟨by simp, ?_⟩
      rintro _ _ isChain ⟨⟩
      exact nearestHydratedAncestor_names maxChainDepth isChain

theorem hydration_gate_sample :
    NamesNearest ⟨2, some 1, [], []⟩ [(1, ⟨1, none, [], []⟩)] (maxChainDepth + 1) 1 :=
  (hydration_gate (fun _ => some ⟨1, none, [], []⟩) ⟨2, some 1, [], []⟩).2 _ 1
    ⟨rfl, rfl, trivial⟩ rfl

end Chaining

end Tickr.Rehydration
