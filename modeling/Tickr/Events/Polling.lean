import Tickr.Json
import Tickr.LogStream.State
import Tickr.Script

/-!
# Polling the event log

Pull cycles number the events they project, and a client polls for those above
the highest number it has seen, the newest first and at most 200 at a time.
-/

namespace Tickr.Events

open LogStream (Uuid)
open Script

structure Event where
  id : Uuid
  payload : Json

structure Row where
  seq : Nat
  event : Event

inductive EventFilter where
  | all
  | workflowInstance (id : String)
  | taskInstance (id : String)

/-- Some member of the payload names the instance. -/
def names (key id : String) : Json → Bool
  | .object members => members.any fun member =>
      match member.2 with
      | .object fields => fields.any fun field => field.1 == key && field.2.same (.string id)
      | _ => false
  | _ => false

def EventFilter.admits (event : Event) : EventFilter → Bool
  | .all => true
  | .workflowInstance id => names "workflow_instance_id" id event.payload
  | .taskInstance id => names "task_instance_id" id event.payload

/-- The projection and one client of the event log.  `first` is the highest
number at its first load, `answered` what it was given. -/
structure State where
  rows : List Row := []
  sequence : Nat := 0
  cursor : WithBot Nat := ⊥
  first : Option Nat := none
  answered : List Row := []

def eventsBatchLimit : Nat := 200

def highest (rows : List Row) : WithBot Nat := (rows.map Row.seq).maximum

def insertEvent (projected : List Row × Nat) (event : Event) : List Row × Nat :=
  if projected.1.any (·.event.id = event.id) then projected
  else (projected.1 ++ [⟨projected.2, event⟩], projected.2 + 1)

def insertEventPage (events : List Event) (state : State) : State :=
  let next := max ((highest state.rows).unbotD 0) state.sequence + 1
  let projected := events.foldl insertEvent (state.rows, next)
  { state with
    rows := projected.1
    sequence := max state.sequence ((highest projected.1).unbotD 0) }

/-- The matching rows above the cursor. -/
def State.newer (state : State) (filter : EventFilter) : List Row :=
  state.rows.filter fun row => filter.admits row.event && state.cursor < row.seq

def State.events (state : State) (filter : EventFilter) : List Row :=
  ((state.newer filter).insertionSort fun left right => right.seq ≤ left.seq).take eventsBatchLimit

inductive Op where
  | pull (page : List Event)
  | poll

/-- The first poll is the first load. -/
def perform (filter : EventFilter) (op : Op) (state : State) : Unit × State :=
  ((), match op with
    | .pull page => insertEventPage page state
    | .poll =>
      let answer := state.events filter
      { state with
        cursor := max state.cursor (highest answer)
        first := state.first.or (some ((highest state.rows).unbotD 0))
        answered := answer ++ state.answered })

/-- No poll after the first load finds more than a batch. -/
def Fits (filter : EventFilter) (op : Op) (state : State) : Prop :=
  match op with
  | .pull _ => True
  | .poll => state.first.isSome → (state.newer filter).length ≤ eventsBatchLimit

theorem le_highest (mem : row ∈ rows) :
    (row.seq : WithBot Nat) ≤ highest rows :=
  List.le_maximum_of_mem' (List.mem_map_of_mem mem)

theorem mem_newer {state : State} :
    row ∈ state.newer filter ↔
      row ∈ state.rows ∧ filter.admits row.event ∧ state.cursor < row.seq := by
  simp [State.newer]

theorem mem_newer_of_answered {state : State}
    (mem : row ∈ state.events filter) : row ∈ state.newer filter :=
  (List.mem_insertionSort _).mp (List.mem_of_mem_take mem)

/-- What inserting a page keeps, from the rows and the number it starts with. -/
structure Projects (start after : List Row × Nat) : Prop where
  distinct : (after.1.map (·.event.id)).Nodup
  kept : start.1 ⊆ after.1
  added : ∀ row ∈ after.1, row ∈ start.1 ∨ start.2 ≤ row.seq
  onwards : start.2 ≤ after.2

theorem Projects.insert (shows : Projects start after)
    (event : Event) : Projects start (insertEvent after event) := by
  unfold insertEvent
  split_ifs with known
  · exact shows
  have fresh : ∀ row ∈ after.1, row.event.id ≠ event.id := by
    simpa using known
  constructor
  · simpa [List.nodup_append, shows.distinct] using fresh
  · exact fun _ mem => List.mem_append_left _ (shows.kept mem)
  · exact List.forall_mem_append.mpr ⟨shows.added, by simp [shows.onwards]⟩
  · exact shows.onwards.trans (Nat.le_succ _)

/-- What holds of every state: each event is projected once, and the client was
given none above its cursor and none twice. -/
structure Orderly (state : State) : Prop where
  distinct : (state.rows.map (·.event.id)).Nodup
  cursor : state.cursor ≤ highest state.rows
  known : state.answered ⊆ state.rows
  seen : ∀ row ∈ state.answered, row.seq ≤ state.cursor
  once : state.answered.Nodup

theorem Orderly.page (tidy : Orderly state) (page : List Event) :
    (((insertEventPage page state).rows.map (·.event.id)).Nodup ∧
      state.rows ⊆ (insertEventPage page state).rows) ∧
      ∀ row ∈ (insertEventPage page state).rows, row ∈ state.rows ∨ state.cursor < row.seq := by
  let next := max ((highest state.rows).unbotD 0) state.sequence + 1
  have shows : Projects (state.rows, next) (page.foldl insertEvent (state.rows, next)) :=
    List.foldlRecOn page insertEvent
      ⟨tidy.distinct, fun _ mem => mem, fun _ => .inl, le_rfl⟩
      fun _ shows event _ => shows.insert event
  refine ⟨⟨shows.distinct, shows.kept⟩, fun row mem => ?_⟩
  have above : state.cursor < next := by
    have bound : (highest state.rows).unbotD 0 < next := Nat.lt_succ_of_le (le_max_left _ _)
    exact (tidy.cursor.trans (WithBot.le_coe_unbotD _ 0)).trans_lt (WithBot.coe_lt_coe.mpr bound)
  exact (shows.added row mem).imp_right fun least =>
    above.trans_le (WithBot.coe_le_coe.mpr least)

theorem highest_mono (within : rows ⊆ others) :
    highest rows ≤ highest others := by
  refine List.maximum_le_of_forall_le fun _ mem => ?_
  obtain ⟨_, inside, rfl⟩ := List.mem_map.mp mem
  exact le_highest (within inside)

theorem Orderly.step {state : State} (filter : EventFilter) (op : Op)
    (tidy : Orderly state) : Orderly (perform filter op state).2 := by
  cases op with
  | pull page =>
      obtain ⟨⟨distinct, kept⟩, _⟩ := tidy.page page
      exact ⟨distinct, tidy.cursor.trans (highest_mono kept),
        List.Subset.trans tidy.known kept, tidy.seen, tidy.once⟩
  | poll =>
      have within : state.events filter ⊆ state.rows := fun _ mem =>
        (mem_newer.mp (mem_newer_of_answered mem)).1
      constructor
      · exact tidy.distinct
      · exact max_le tidy.cursor (highest_mono within)
      · exact List.append_subset.mpr ⟨within, tidy.known⟩
      · exact List.forall_mem_append.mpr
          ⟨fun _ mem => (le_highest mem).trans (le_max_right _ _),
            fun row mem => (tidy.seen row mem).trans (le_max_left _ _)⟩
      · have rows := tidy.distinct.of_map
        have answer : (state.events filter).Nodup :=
          (((List.perm_insertionSort _ _).nodup_iff.mpr (rows.filter _))).sublist
            (List.take_sublist _ _)
        refine answer.append tidy.once fun row mem old => ?_
        have above := (mem_newer.mp (mem_newer_of_answered mem)).2.2
        exact absurd (tidy.seen row old) (not_le_of_gt above)

/-- Every matching event numbered after the first load was answered, or lies
above the cursor still. -/
def State.Caught (filter : EventFilter) (state : State) : Prop :=
  ∀ row ∈ state.rows, filter.admits row.event → ∀ first ∈ state.first, first < row.seq →
    row ∈ state.answered ∨ state.cursor < row.seq

theorem Orderly.caught {state : State} (tidy : Orderly state)
    (caught : state.Caught filter) (fits : Fits filter op state) :
    (perform filter op state).2.Caught filter := by
  intro row mem admitted first isFirst later
  cases op with
  | pull page =>
      rcases (tidy.page page).2 row mem with old | new
      · exact caught row old admitted first isFirst later
      · exact .inr new
  | poll =>
      cases loaded : state.first with
      | none =>
          obtain rfl : (highest state.rows).unbotD 0 = first := by
            simpa [perform, loaded] using isFirst
          have bounded := (le_highest mem).trans (WithBot.le_coe_unbotD _ 0)
          exact absurd later (not_lt_of_ge (WithBot.coe_le_coe.mp bounded))
      | some =>
          have same : first ∈ state.first := by
            simpa [perform, loaded] using isFirst
          refine .inl (List.mem_append.mpr ?_)
          refine (caught row mem admitted first same later).symm.imp_left fun above => ?_
          have whole : ((state.newer filter).insertionSort fun left right =>
              right.seq ≤ left.seq).length ≤ eventsBatchLimit :=
            (List.length_insertionSort _ _).trans_le (fits (by simp [loaded]))
          rw [State.events, List.take_of_length_le whole]
          exact (List.mem_insertionSort _).mpr (mem_newer.mpr ⟨mem, admitted, above⟩)

def State.Sound (filter : EventFilter) (state : State) : Prop :=
  Orderly state ∧ state.Caught filter

/-- Where no poll finds more than a batch, none skips an event; and no run of
pulls and polls answers an event twice. -/
theorem polls_skip_nothing (filter : EventFilter) (ops : List Op)
    (meets : Meets (perform filter) (Fits filter) ops {}) :
    (run (perform filter) ops {}).Caught filter ∧
      ∀ others : List Op,
        ((run (perform filter) others {}).answered.map (·.event.id)).Nodup := by
  have start : Orderly {} := ⟨.nil, le_rfl, fun _ => id, by simp, .nil⟩
  have sound : (run (perform filter) ops {}).Sound filter :=
    run_keeps (fun op _ fits sound => ⟨sound.1.step filter op, sound.1.caught sound.2 fits⟩) meets
      ⟨start, by simp [State.Caught]⟩
  refine ⟨sound.2, fun others => ?_⟩
  have tidy : Orderly (run (perform filter) others {}) :=
    run_keeps (fun op _ _ tidy => tidy.step filter op) (meets_true others _) start
  exact tidy.once.map_on fun row mem other member' same =>
    List.inj_on_of_nodup_map tidy.distinct (tidy.known mem) (tidy.known member') same

def page (ids : List Nat) : Op := .pull (ids.map fun id => ⟨id, .null⟩)

theorem polls_skip_nothing_sample :
    (run (perform .all) [page [4], .poll, page [4, 7], .poll] {}).Caught .all ∧
      (run (perform .all) [page [4], .poll, page [4, 7], .poll] {}).answered.length = 2 :=
  ⟨(polls_skip_nothing .all [page [4], .poll, page [4, 7], .poll]
    ⟨trivial, fun _ => by decide, trivial, fun _ => by decide, trivial⟩).1, by decide⟩

/-- A pull of 201 events between two polls: the first of them is neither
answered nor above the cursor. -/
theorem skipped_below_batch :
    ¬ (run (perform .all) [.poll, page (List.range 201), .poll] {}).Caught .all := by
  intro caught
  let after := run (perform .all) [.poll, page (List.range 201), .poll] {}
  have skipped : after.rows.any (·.seq = 1) ∧ after.first = some 0 ∧
      1 ∉ after.answered.map Row.seq ∧ ¬ after.cursor < (1 : Nat) := by decide +kernel
  obtain ⟨projected, loaded, lacks, passed⟩ := skipped
  obtain ⟨row, mem, numbered⟩ := List.any_eq_true.mp projected
  have first : row.seq = 1 := of_decide_eq_true numbered
  rcases caught row mem rfl 0 loaded (by omega) with answered | above
  · exact lacks (first ▸ List.mem_map_of_mem answered)
  · exact passed (first ▸ above)

end Tickr.Events
