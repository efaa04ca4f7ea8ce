import Tickr.LogStream.State
import Tickr.Table

/-!
# The latest run of a workflow

The archive repository offers one terminal run of each workflow, which the
resolver merges with the live instances. The two rank runs differently.
-/

namespace Tickr.LatestRun

open LogStream (Uuid)
open Table

structure RunCandidate where
  workflowId : Uuid
  instanceId : String
  state : String
  scheduledAt : Option Int
deriving DecidableEq

/-- A row of the archive, its id as text: the order of ids is the same. -/
structure ArchivedRun extends RunCandidate where
  archivedAt : Int

def isFutureArmed (state : String) : Bool := state == "PendingSchedule" || state == "Scheduled"

def isTerminal (state : String) : Bool := state == "Completed" || state == "Failed"

def atLeastAsRecent (a b : RunCandidate) : Bool :=
  match a.scheduledAt, b.scheduledAt with
  | some x, some y => x > y || (x = y && a.instanceId ≥ b.instanceId)
  | some _, none => true
  | none, some _ => false
  | none, none => a.instanceId ≥ b.instanceId

def insert (held : List RunCandidate) (c : RunCandidate) : List RunCandidate :=
  upsert (·.instanceId = c.instanceId) (fun _ => c) c held

/-- Archived runs are inserted last, so they win over live ones of the same id. -/
def byInstance (archive live : List RunCandidate) : List RunCandidate :=
  archive.foldl insert (live.foldl insert [])

def reduce (ids : List Uuid) (best : Uuid → Option RunCandidate) (c : RunCandidate) :
    Uuid → Option RunCandidate :=
  if c.workflowId ∉ ids ∨ isFutureArmed c.state then best
  else if ∃ existing ∈ best c.workflowId, ¬ atLeastAsRecent c existing then best
  else Function.update best c.workflowId (some c)

/-- The merge, where `order` is the order a hash map is visited in. -/
def resolveCandidates (order : List RunCandidate → List RunCandidate) (ids : List Uuid)
    (archive live : List RunCandidate) (w : Uuid) : Option (Option RunCandidate) :=
  match (order (byInstance archive live)).foldl (reduce ids) (fun _ => none) w with
  | some c => some (some c)
  | none => if w ∈ ids then some none else none

/-- The schedule time, an absent one before every other. -/
def RunCandidate.due (c : RunCandidate) : WithBot Int := c.scheduledAt.elim ⊥ WithBot.some

/-- The repository's order within a workflow. -/
def ArchivedRun.rank (row : ArchivedRun) : WithBot Int ×ₗ Int ×ₗ String :=
  toLex (row.due, toLex (row.archivedAt, row.instanceId))

/-- The first terminal row of each workflow. -/
def latestRuns (rows : List ArchivedRun) : List ArchivedRun :=
  rows.filter fun row => isTerminal row.state ∧ ∀ other ∈ rows, isTerminal other.state →
    other.workflowId = row.workflowId → other.rank ≤ row.rank

def candidates (rows : List ArchivedRun) : List RunCandidate := rows.map (·.toRunCandidate)

/-! ## What the answer should be -/

def RunCandidate.recency (c : RunCandidate) : WithBot Int ×ₗ String :=
  toLex (c.due, c.instanceId)

/-- An archived run stands for its live copy. -/
def Runs (archive live : List RunCandidate) (c : RunCandidate) : Prop :=
  c ∈ archive ∨ c ∈ live ∧ ∀ row ∈ archive, row.instanceId ≠ c.instanceId

def Fired (runs : RunCandidate → Prop) (w : Uuid) (c : RunCandidate) : Prop :=
  runs c ∧ c.workflowId = w ∧ isFutureArmed c.state = false

/-- The most recent fired run of a workflow, if one fired. -/
def IsLatest (runs : RunCandidate → Prop) (w : Uuid) (latest : Option RunCandidate) : Prop :=
  (∀ run ∈ latest, Fired runs w run) ∧
    ∀ c, Fired runs w c → ∃ run ∈ latest, c.recency ≤ run.recency

def Agree (list : List RunCandidate) : Prop :=
  ∀ a ∈ list, ∀ b ∈ list, a.instanceId = b.instanceId → a = b

/-- An id names one run and a live copy has the workflow and the schedule time of
its archived run. Archived runs are terminal, and of two with one schedule time
the one archived later has the greater id. -/
structure Consistent (rows : List ArchivedRun) (live : List RunCandidate) : Prop where
  archived : Agree (candidates rows)
  listed : Agree live
  copies : ∀ row ∈ rows, ∀ c ∈ live, c.instanceId = row.instanceId →
    c.workflowId = row.workflowId ∧ c.scheduledAt = row.scheduledAt
  terminal : ∀ row ∈ rows, isTerminal row.state = true
  ties : ∀ a ∈ rows, ∀ b ∈ rows, a.workflowId = b.workflowId → a.due = b.due →
    a.archivedAt < b.archivedAt → a.instanceId ≤ b.instanceId

/-! ## The merge -/

variable {a b c : RunCandidate} {w : Uuid} {ids : List Uuid} {latest : Option RunCandidate}
  {archive live entries held : List RunCandidate} {rows : List ArchivedRun}

theorem atLeastAsRecent_iff : atLeastAsRecent a b = true ↔ b.recency ≤ a.recency := by
  unfold atLeastAsRecent RunCandidate.recency
  rw [Prod.Lex.toLex_le_toLex]
  cases left : a.scheduledAt with
  | none => cases right : b.scheduledAt <;> simp [RunCandidate.due, left, right]
  | some x =>
    cases right : b.scheduledAt with
    | none => simp [RunCandidate.due, left, right]
    | some y => simp [RunCandidate.due, left, right, @eq_comm _ x y]

theorem instanceId_eq (equal : a.recency = b.recency) : a.instanceId = b.instanceId :=
  congrArg (fun key => (ofLex key).2) equal

theorem mem_foldl_insert (agree : Agree entries) :
    c ∈ entries.foldl insert held ↔
      c ∈ entries ∨ c ∈ held ∧ ∀ entry ∈ entries, entry.instanceId ≠ c.instanceId := by
  induction entries generalizing held with
  | nil => simp
  | cons _ _ ih =>
    rw [List.foldl_cons, ih fun a mem b also => agree a (.tail _ mem) b (.tail _ also), insert,
      mem_upsert fun _ _ => rfl]
    grind [Agree]

/-- One round of the loop. -/
theorem reduce_isLatest (asked : w ∈ ids) (newest : IsLatest (· ∈ seen) w (best w)) :
    IsLatest (· ∈ seen ++ [c]) w (reduce ids best c w) := by
  have fires : ∀ other, Fired (· ∈ seen ++ [c]) w other ↔ Fired (· ∈ seen) w other ∨
      other = c ∧ c.workflowId = w ∧ isFutureArmed c.state = false := by
    intro _
    simp only [Fired, mem_append_row]
    grind
  by_cases counts : c.workflowId = w ∧ isFutureArmed c.state = false
  · obtain ⟨rfl, fired⟩ := counts
    simp only [fired, and_true] at fires
    rw [reduce, if_neg (by simp [asked, fired])]
    split
    next beaten =>
      obtain ⟨old, held, recent⟩ := beaten
      refine ⟨fun run mem => (fires run).mpr (.inl (newest.1 run mem)), ?_⟩
      intro other isFired
      rcases (fires other).mp isFired with prior | rfl
      · exact newest.2 other prior
      · exact ⟨old, held, le_of_not_ge (mt atLeastAsRecent_iff.mpr recent)⟩
    next unbeaten =>
      rw [Function.update_self]
      refine ⟨by rintro _ ⟨⟩; exact (fires c).mpr (.inr rfl), ?_⟩
      intro other isFired
      rcases (fires other).mp isFired with prior | rfl
      · obtain ⟨run, held, recent⟩ := newest.2 other prior
        have newer := atLeastAsRecent_iff.mp (not_not.mp fun older => unbeaten ⟨run, held, older⟩)
        exact ⟨c, rfl, recent.trans newer⟩
      · exact ⟨other, rfl, le_rfl⟩
  · simp only [counts, and_false, or_false] at fires
    have kept : reduce ids best c w = best w := by
      unfold reduce
      split_ifs with skipped
      · rfl
      · rfl
      · exact Function.update_of_ne (by grind) ..
    simpa only [kept, IsLatest, fires]

theorem foldl_isLatest (asked : w ∈ ids) (visited : List RunCandidate) :
    IsLatest (· ∈ visited) w (visited.foldl (reduce ids) (fun _ => none) w) := by
  induction visited using List.reverseRecOn with
  | nil => simp [IsLatest, Fired]
  | append_singleton _ _ ih =>
    rw [List.foldl_append]
    exact reduce_isLatest asked ih

theorem resolveCandidates_isLatest (filed : Agree archive) (listed : Agree live)
    (order : List RunCandidate → List RunCandidate) (visits : ∀ list, (order list).Perm list)
    (asked : w ∈ ids) :
    ∃ latest, resolveCandidates order ids archive live w = some latest ∧
      IsLatest (Runs archive live) w latest := by
  have visited : ∀ c, c ∈ order (byInstance archive live) ↔ Runs archive live c := by
    intro _
    rw [(visits _).mem_iff, byInstance, mem_foldl_insert filed, mem_foldl_insert listed]
    simp [Runs]
  have newest := foldl_isLatest asked (order (byInstance archive live))
  simp only [IsLatest, Fired, visited] at newest
  refine ⟨_, ?_, newest⟩
  unfold resolveCandidates
  cases (order (byInstance archive live)).foldl (reduce ids) (fun _ => none) w <;> simp [asked]

/-- A run is known by its id, so at most one is the latest. -/
theorem IsLatest.mem (filed : Agree archive) (listed : Agree live)
    (newest : IsLatest (Runs archive live) w latest)
    (also : IsLatest (Runs archive live) w other) (held : c ∈ latest) : c ∈ other := by
  have fired := newest.1 c held
  obtain ⟨run, ne, below⟩ := also.2 c fired
  obtain ⟨_, isAgain, above⟩ := newest.2 run (also.1 run ne)
  obtain rfl := Option.mem_unique held isAgain
  have equal := instanceId_eq (below.antisymm above)
  have same : c = run := by
    rcases fired.1 with first | ⟨first, fresh⟩ <;>
      rcases (also.1 run ne).1 with second | ⟨second, unnamed⟩
    · exact filed c first run second equal
    · exact absurd equal (unnamed c first)
    · exact absurd equal.symm (fresh run second)
    · exact listed c first run second equal
  rwa [same]

/-! ## The selected runs -/

variable (consistent : Consistent rows live)
include consistent

/-- The repository's order of a workflow's runs agrees with the merge's. -/
theorem Consistent.recency_le (mem : row ∈ rows) (also : other ∈ rows)
    (same : other.workflowId = row.workflowId) (ranked : other.rank ≤ row.rank) :
    other.recency ≤ row.recency := by
  rw [RunCandidate.recency, RunCandidate.recency, Prod.Lex.toLex_le_toLex]
  rcases Prod.Lex.toLex_le_toLex.mp ranked with prior | ⟨due, ranked⟩
  · exact .inl prior
  · refine .inr ⟨due, ?_⟩
    rcases Prod.Lex.toLex_le_toLex.mp ranked with prior | ⟨_, ordered⟩
    · exact consistent.ties other also row mem same due prior
    · exact ordered

/-- The repository selects a run of every workflow that has one. -/
theorem Consistent.exists_selected (mem : row ∈ rows) :
    ∃ picked ∈ candidates (latestRuns rows), picked.workflowId = row.workflowId ∧
      isFutureArmed picked.state = false ∧ row.recency ≤ picked.recency := by
  let same := rows.filter (·.workflowId = row.workflowId)
  have isSame : row ∈ same := List.mem_filter.mpr ⟨mem, by simp⟩
  cases top : same.argmax ArchivedRun.rank with
  | none => exact absurd (List.argmax_eq_none.mp top) (List.ne_nil_of_mem isSame)
  | some picked =>
    obtain ⟨also, flow⟩ := List.mem_filter.mp (List.argmax_mem top)
    rw [decide_eq_true_eq] at flow
    have terminal := consistent.terminal picked also
    have first : ∀ other ∈ rows, isTerminal other.state → other.workflowId = picked.workflowId →
        other.rank ≤ picked.rank := by
      intro other isRow _ owner
      exact List.le_of_mem_argmax (List.mem_filter.mpr ⟨isRow, by simp [owner, flow]⟩) top
    have isSelected : picked ∈ latestRuns rows :=
      List.mem_filter.mpr ⟨also, decide_eq_true ⟨terminal, first⟩⟩
    have fired : isFutureArmed picked.state = false := by
      simp only [isTerminal, Bool.or_eq_true, beq_iff_eq] at terminal
      rcases terminal with is | is <;> rw [is] <;> rfl
    have recent := consistent.recency_le also mem flow.symm (List.le_of_mem_argmax isSame top)
    exact ⟨_, List.mem_map_of_mem isSelected, flow, fired, recent⟩

omit consistent in
theorem candidates_latestRuns (mem : c ∈ candidates (latestRuns rows)) : c ∈ candidates rows :=
  List.map_subset _ (List.filter_subset_self _) mem

/-- The latest of the selected and the live runs is the latest of all. -/
theorem selected_isLatest
    (newest : IsLatest (Runs (candidates (latestRuns rows)) live) w latest) :
    IsLatest (Runs (candidates rows) live) w latest := by
  constructor
  · intro run held
    obtain ⟨isRun, flow, fired⟩ := newest.1 run held
    refine ⟨?_, flow, fired⟩
    rcases isRun with filed | ⟨listed, fresh⟩
    · exact .inl (candidates_latestRuns filed)
    · refine .inr ⟨listed, ?_⟩
      -- A live copy is as recent as its archived run, so that run is the selected one.
      intro _ isCopied equal
      obtain ⟨row, mem, rfl⟩ := List.mem_map.mp isCopied
      obtain ⟨picked, also, same, starts, recent⟩ := consistent.exists_selected mem
      obtain ⟨owner, scheduled⟩ := consistent.copies row mem run listed equal.symm
      have copy : run.recency = row.recency := by
        simp [RunCandidate.recency, RunCandidate.due, scheduled, equal]
      obtain ⟨_, isAgain, below⟩ := newest.2 picked
        ⟨.inl also, same.trans (owner.symm.trans flow), starts⟩
      obtain rfl := Option.mem_unique held isAgain
      exact fresh picked also (instanceId_eq (below.antisymm (copy.trans_le recent)))
  · intro c ⟨isRun, flow, fired⟩
    rcases isRun with filed | ⟨listed, fresh⟩
    · obtain ⟨_, mem, rfl⟩ := List.mem_map.mp filed
      obtain ⟨picked, also, same, starts, recent⟩ := consistent.exists_selected mem
      obtain ⟨run, held, below⟩ := newest.2 picked ⟨.inl also, same.trans flow, starts⟩
      exact ⟨run, held, recent.trans below⟩
    · have unselected : ∀ row ∈ candidates (latestRuns rows), row.instanceId ≠ c.instanceId := by
        intro row mem
        exact fresh row (candidates_latestRuns mem)
      exact newest.2 c ⟨.inr ⟨listed, unselected⟩, flow, fired⟩

omit consistent

def finished (id : String) (archivedAt : Int) : ArchivedRun :=
  ⟨⟨1, id, "Completed", some 10⟩, archivedAt⟩

end Tickr.LatestRun
