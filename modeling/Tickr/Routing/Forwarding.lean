import Tickr.Routing.Relay

/-!
# What a forwarded completion carries

As long as a published name is written by its instance only, in the bucket that
the relay opens, and the specification of a completing task can be read, every
completion that is sent on carries the last value of each declared name.
-/

namespace Tickr.Routing

open Concurrent Concurrent.Discipline KeyValue
open SafeExcept (andThen andDone)
open LogStream (Uuid)
open Rust (BTreeMap getElem?_insert_of_ne)

variable {before after : State} {taskInstanceId : Uuid} {event enriched : TaskEvent}

def publishedValue : Option Stored → Option Json
  | some (.envelope value (.task _ _)) => some value
  | _ => none

/-- The value that a write publishes for an instance under a name of a run, in
whichever namespace. -/
def publishes (taskInstanceId runId : Uuid) (name : String)
    (write : Write ScopeKey Stored) : Option Json :=
  if write.author = taskInstanceId ∧ write.key.owner = runId ∧ write.key.name = name then
    publishedValue write.value
  else none

def lastPublished (taskInstanceId runId : Uuid) (name : String) (log : ScopeLog) : Option Json :=
  log.findSome? (publishes taskInstanceId runId name)

def TaskEvent.SameTask (event other : TaskEvent) : Prop :=
  event.taskInstanceId = other.taskInstanceId ∧
    event.taskId = other.taskId ∧ event.workflowInstanceId = other.workflowInstanceId

/-- A completion carries, under every declared name that its instance
published, the last value published. -/
def TaskEvent.Carries (event : TaskEvent) (state : State) : Prop :=
  match event.kind with
  | .completed stamped _ =>
    ∃ declared, state.taskSpecification event.taskId = some declared ∧
      ∀ name value, Declares declared name →
        lastPublished event.taskInstanceId event.workflowInstanceId name state.scope = some value →
          (stamped[name]?).bind RoutingValue.json = some value
  | _ => True

/-- A completion or a failure of the same task was sent on. -/
def State.Forwarded (state : State) (event : TaskEvent) : Prop :=
  ∃ sent ∈ state.sent, sent.SameTask event ∧ (sent.kind.isCompleted = true ∨ sent.kind = .failed)

def State.Completed (state : State) (taskInstanceId : Uuid) : Prop :=
  ∃ event ∈ state.events, event.taskInstanceId = taskInstanceId ∧ event.kind.isCompleted = true

/-- A published value names its author and lies where the relay reads. -/
def Stamped : Write ScopeKey Stored → Prop
  | ⟨author, key, some (.envelope _ (.task producer _))⟩ =>
    producer = author ∧ key.ns = defaultCtxNamespace
  | _ => True

/-- A write of a name keeps to what its publisher may expect: a task publishes
as itself, and once a name is published nothing else touches it. -/
def OwnWrite (write : Write ScopeKey Stored) (older : ScopeLog) : Prop :=
  Stamped write ∧
    ∀ earlier ∈ older, earlier.key = write.key →
      (publishedValue earlier.value).isSome = true →
        earlier.author = write.author ∧ (publishedValue write.value).isSome = true

/-- Published names are kept by their publishers, and no completion is sent on
because its declared names could not be read. -/
def NamesKept (peer : Nat) (op : RelayOp) (state : State) : Prop :=
  match op with
  | .scope (.put key value) => OwnWrite ⟨peer, key, some value⟩ state.scope
  | .scope (.delete key) => OwnWrite ⟨peer, key, none⟩ state.scope
  | .log line => line ≠ .forwardingUnenriched
  | _ => True

instance (write : Write ScopeKey Stored) : Decidable (Stamped write) := by
  unfold Stamped
  split <;> infer_instance

instance (write : Write ScopeKey Stored) (older : ScopeLog) : Decidable (OwnWrite write older) :=
  inferInstanceAs (Decidable (_ ∧ _))

instance (peer : Nat) (op : RelayOp) (state : State) : Decidable (NamesKept peer op state) := by
  unfold NamesKept
  split <;> infer_instance

variable {runId : Uuid} {name : String} {log : ScopeLog}
  {write : Write ScopeKey Stored} {value : Json}

def OwnLog : ScopeLog → Prop
  | [] => True
  | write :: older => OwnWrite write older ∧ OwnLog older

theorem lastPublished_cons_other (ne : write.author ≠ taskInstanceId) :
    lastPublished taskInstanceId runId name (write :: log) =
      lastPublished taskInstanceId runId name log := by
  have silent : publishes taskInstanceId runId name write = none := by simp [publishes, ne]
  simp [lastPublished, silent]

theorem publishes_eq_some (shown : publishes taskInstanceId runId name write = some value) :
    write.author = taskInstanceId ∧ write.key.owner = runId ∧
      write.key.name = name ∧
        ∃ producer taskName, write.value = some (.envelope value (.task producer taskName)) := by
  rw [publishes] at shown
  by_cases own : write.author = taskInstanceId ∧ write.key.owner = runId ∧ write.key.name = name
  · rw [if_pos own] at shown
    refine ⟨own.1, own.2.1, own.2.2, ?_⟩
    cases kept : write.value with
    | none =>
      rw [kept] at shown
      cases shown
    | some content =>
      rw [kept] at shown
      cases content with
      | unreadable => cases shown
      | envelope _ producer =>
        cases producer with
        | task producer taskName =>
          cases shown
          exact ⟨producer, taskName, rfl⟩
        | signal | system => cases shown
  · rw [if_neg own] at shown
    cases shown

theorem OwnLog.stamped (own : OwnLog log) (mem : write ∈ log) : Stamped write := by
  induction log with
  | nil => cases mem
  | cons _ _ ih =>
    rcases List.mem_cons.mp mem with rfl | older
    · exact own.1.1
    · exact ih own.2 older

theorem Stamped.published (stamped : Stamped write)
    (kept : write.value = some (.envelope value (.task producer taskName))) :
    producer = write.author ∧ write.key.ns = defaultCtxNamespace := by
  obtain ⟨_, _, _⟩ := write
  cases kept
  exact stamped

theorem OwnLog.lookup (own : OwnLog log)
    (last : lastPublished taskInstanceId runId name log = some value) :
    ∃ taskName,
      KeyValue.lookup ⟨defaultCtxNamespace, runId, name⟩ log =
        some (.envelope value (.task taskInstanceId taskName)) := by
  induction log with
  | nil => cases last
  | cons write _ ih =>
    obtain ⟨⟨stamped, kept⟩, olderOwn⟩ := own
    cases published : publishes taskInstanceId runId name write with
    | some =>
      rw [lastPublished, List.findSome?_cons, published] at last
      cases last
      obtain ⟨author, owner, isName, _, taskName, held⟩ := publishes_eq_some published
      obtain ⟨isProducer, default⟩ := stamped.published held
      have isKey : write.key = ⟨defaultCtxNamespace, runId, name⟩ := by
        rw [← default, ← owner, ← isName]
      refine ⟨taskName, ?_⟩
      rw [lookup_cons_same isKey, held, isProducer, author]
    | none =>
      rw [lastPublished, List.findSome?_cons, published] at last
      obtain ⟨taskName, found⟩ := ih olderOwn last
      refine ⟨taskName, ?_⟩
      -- a newer write of the name would be the same instance's
      by_cases wrote : write.key = ⟨defaultCtxNamespace, runId, name⟩
      · obtain ⟨prior, mem, isKey, held⟩ := mem_of_lookup_eq_some found
        have author := ((olderOwn.stamped mem).published held).1
        have wasPublished : (publishedValue prior.value).isSome = true := by
          rw [held]
          rfl
        obtain ⟨same, isPublished⟩ :=
          kept prior mem (isKey.trans wrote.symm) wasPublished
        have silent : publishedValue write.value = none := by
          rw [publishes, if_pos] at published
          · exact published
          · exact ⟨(author.trans same).symm, by rw [wrote], by rw [wrote]⟩
        rw [silent] at isPublished
        cases isPublished
      · rw [lookup_cons_other wrote]
        exact found

/-- What one step of a client may do. -/
inductive Step (peer : Nat) : State → State → Prop
  | still (state : State) : Step peer state state
  | write (state : State) (key : ScopeKey) (value : Option Stored)
      (own : OwnWrite ⟨peer, key, value⟩ state.scope)
      (running : ¬ state.Completed peer) :
      Step peer state { state with scope := ⟨peer, key, value⟩ :: state.scope }
  | register (state : State) (taskId : Uuid) (declared : List RoutingVarDecl)
      (absent : state.taskSpecification taskId = none) :
      Step peer state { state with taskSpecs := state.taskSpecs ++ [(taskId, declared)] }
  | emit (state : State) (event : TaskEvent) (own : event.taskInstanceId = peer) :
      Step peer state { state with events := state.events ++ [event] }
  | send (state : State) (event : TaskEvent) (carries : event.Carries state)
      (reported : event.kind.isCompleted = true → state.Completed event.taskInstanceId) :
      Step peer state { state with sent := state.sent ++ [event] }
  | complete (state : State) (position : Nat) (event : TaskEvent)
      (found : state.events[position]? = some event)
      (forwarded : event.kind.isCompleted = true → state.Forwarded event) :
      Step peer state { state with completed := state.completed ++ [position] }

/-- What every step keeps: events and specifications stay, and what a completed
instance has published does not change. -/
structure Grows (before after : State) : Prop where
  events : before.events <+: after.events
  specs : ∀ taskId declared,
    before.taskSpecification taskId = some declared → after.taskSpecification taskId = some declared
  sent : ∀ event ∈ before.sent, event ∈ after.sent
  published : ∀ taskInstanceId, before.Completed taskInstanceId →
    ∀ runId name,
      lastPublished taskInstanceId runId name after.scope =
        lastPublished taskInstanceId runId name before.scope

theorem Grows.refl (state : State) : Grows state state where
  events := List.prefix_rfl
  specs := fun _ _ found => found
  sent := fun _ mem => mem
  published := fun _ _ _ _ => rfl

theorem Grows.completed (grows : Grows before after) (completed : before.Completed taskInstanceId) :
    after.Completed taskInstanceId := by
  obtain ⟨event, mem, ends⟩ := completed
  exact ⟨event, grows.events.subset mem, ends⟩

/-- If the event is a completion, its instance has reported it. -/
abbrev State.Reports (state : State) (event : TaskEvent) : Prop :=
  event.kind.isCompleted = true → state.Completed event.taskInstanceId

theorem Grows.reports (grows : Grows before after) (reported : before.Reports event) :
    after.Reports event := grows.completed ∘ reported

theorem Grows.trans (grows : Grows first second) (growsOn : Grows second third) : Grows first third where
  events := grows.events.trans growsOn.events
  specs := fun taskId declared found =>
    growsOn.specs taskId declared (grows.specs taskId declared found)
  sent := fun event mem => growsOn.sent event (grows.sent event mem)
  published := by
    intro taskInstanceId completed runId name
    rw [growsOn.published taskInstanceId (grows.completed completed)]
    exact grows.published taskInstanceId completed runId name

theorem Grows.forwarded (grows : Grows before after) (forwarded : before.Forwarded event) :
    after.Forwarded event := by
  obtain ⟨sent, mem, reports⟩ := forwarded
  exact ⟨sent, grows.sent sent mem, reports⟩

theorem Grows.carries (grows : Grows before after) (carries : event.Carries before)
    (reported : before.Reports event) : event.Carries after := by
  cases isKind : event.kind with
  | completed =>
    simp only [TaskEvent.Carries, isKind] at carries ⊢
    obtain ⟨declared, specified, stamps⟩ := carries
    have completed := reported (by rw [isKind]; rfl)
    refine ⟨declared, grows.specs _ _ specified, ?_⟩
    intro name value declares last
    rw [grows.published _ completed] at last
    exact stamps name value declares last
  | _ => simp only [TaskEvent.Carries, isKind]

variable {state : State}

theorem taskSpecification_append {taskId other : Uuid} {declared found : List RoutingVarDecl}
    (specified : state.taskSpecification taskId = some found) :
    ({ state with taskSpecs := state.taskSpecs ++ [(other, declared)] } :
      State).taskSpecification taskId = some found := by
  rw [State.taskSpecification] at specified ⊢
  obtain ⟨_, isRow, hit⟩ := Option.map_eq_some_iff.mp specified
  rw [List.find?_append, isRow]
  exact congrArg some hit

variable {peer : Nat}

theorem Step.grows (step : Step peer before after) : Grows before after := by
  cases step with
  | still => exact .refl before
  | write _ _ _ running =>
    refine { Grows.refl before with published := ?_ }
    intro _ completed _ _
    apply lastPublished_cons_other
    rintro rfl
    exact running completed
  | register =>
    refine { Grows.refl before with specs := ?_ }
    intro _ _ specified
    exact taskSpecification_append specified
  | emit => exact { Grows.refl before with events := List.prefix_append _ _ }
  | send =>
    exact { Grows.refl before with
      sent := fun _ mem => List.mem_append_left _ mem }
  | complete => exact { Grows.refl before with }

/-- What holds in every state reached. -/
structure Sound (state : State) : Prop where
  own : OwnLog state.scope
  carries : ∀ event ∈ state.sent, event.Carries state
  reported : ∀ event ∈ state.sent, event.kind.isCompleted = true →
    state.Completed event.taskInstanceId
  settled : ∀ position ∈ state.completed,
    ∃ event, state.events[position]? = some event ∧
      (event.kind.isCompleted = true → state.Forwarded event)

theorem sound_empty : Sound State.empty where
  own := trivial
  carries := by
    intro _ mem
    cases mem
  reported := by
    intro _ mem
    cases mem
  settled := by
    intro _ mem
    cases mem

variable {position : Nat}

theorem Grows.getElem?_events (grows : Grows before after)
    (found : before.events[position]? = some event) :
    after.events[position]? = some event := by
  obtain ⟨_, added⟩ := grows.events
  have inside : position < before.events.length := (List.getElem?_eq_some_iff.mp found).1
  rw [← added, List.getElem?_append_left inside]
  exact found

abbrev State.Settled (state : State) (position : Nat) : Prop :=
  ∃ event, state.events[position]? = some event ∧
    (event.kind.isCompleted = true → state.Forwarded event)

theorem Grows.settled (grows : Grows before after) (settled : before.Settled position) :
    after.Settled position := by
  obtain ⟨event, found, forwarded⟩ := settled
  exact ⟨event, grows.getElem?_events found,
    fun ends => grows.forwarded (forwarded ends)⟩

theorem Sound.step (sound : Sound before) (step : Step peer before after) : Sound after := by
  have grows := step.grows
  have taken : ∀ event ∈ before.sent, event.Carries after := by
    intro event mem
    exact grows.carries (sound.carries event mem) (sound.reported event mem)
  have reported : ∀ event ∈ before.sent, after.Reports event := by
    intro event mem
    exact grows.reports (sound.reported event mem)
  have settled : ∀ position ∈ before.completed, after.Settled position := by
    intro position mem
    exact grows.settled (sound.settled position mem)
  cases step with
  | still => exact sound
  | write _ _ own => exact ⟨⟨own, sound.own⟩, taken, reported, settled⟩
  | register | emit => exact ⟨sound.own, taken, reported, settled⟩
  | send _ carries isReported =>
    refine ⟨sound.own, List.forall_mem_append.mpr ⟨taken, List.forall_mem_singleton.mpr ?_⟩,
      List.forall_mem_append.mpr ⟨reported, List.forall_mem_singleton.mpr ?_⟩, settled⟩
    · exact grows.carries carries isReported
    · exact grows.reports isReported
  | complete _ event found forwarded =>
    refine ⟨sound.own, taken, reported,
      List.forall_mem_append.mpr ⟨settled, List.forall_mem_singleton.mpr ?_⟩⟩
    exact grows.settled ⟨event, found, forwarded⟩

/-- The clients of the relay, under the condition that published names are
kept. -/
def discipline : Discipline State RelayOp where
  guarantee := Step
  invariant := Sound
  condition := NamesKept
  keeps := fun _ _ _ step sound => sound.step step

theorem grows_of_evolves (evolves : discipline.Evolves before after) : Grows before after :=
  evolves.keeps (Grows.refl before) fun _ _ _ promised grows => grows.trans (Step.grows promised)

theorem grows_of_rely (rely : discipline.Rely peer before after) : Grows before after :=
  grows_of_evolves rely.evolves

/-- Only the instance itself reports its completion. -/
theorem running_of_rely (rely : discipline.Rely peer before after)
    (running : ¬ before.Completed peer) : ¬ after.Completed peer := by
  induction rely with
  | refl => exact running
  | tail _ step ih =>
    obtain ⟨_, ne, promised⟩ := step
    cases promised with
    | emit _ own =>
      rintro ⟨found, mem, isOwn, ends⟩
      rcases List.mem_append.mp mem with older | new
      · exact ih ⟨found, older, isOwn, ends⟩
      · rw [List.mem_singleton.mp new] at isOwn
        exact ne (own.symm.trans isOwn)
    | _ => exact ih

variable {ε α : Type}

/-- Safety of a relay program, whatever error it ends with. -/
abbrev Keeps (peer : Nat) (post : α → State → Prop)
    (program : RelayProgram ε α) (state : State) : Prop :=
  SafeTry system discipline peer post program state

/-- What a call does and what its reply shows, if the others cannot undo
it. -/
theorem ask_keeps (step : ∀ before, discipline.Rely peer state before → Sound before →
      NamesKept peer op before → ∀ turn,
        Step peer before (perform peer op turn before).2 ∧
          post (perform peer op turn before).1 (perform peer op turn before).2)
    (lasts : ∀ reply before after, discipline.Rely peer before after →
      post reply before → post reply after) :
    Keeps peer post (ask op : RelayProgram ε op.Reply) state := by
  refine .request ?_
  intro before rely sound meets turn
  obtain ⟨promised, shown⟩ := step before rely sound meets turn
  refine ⟨promised, ?_⟩
  intro _ answered _ onward _
  cases answered
  exact lasts _ _ _ onward shown

theorem ask_reads {op : RelayOp} {post : op.Reply → State → Prop}
    (same : ∀ turn before, (perform peer op turn before).2 = before)
    (shows : ∀ before, Grows state before → Sound before →
      NamesKept peer op before → ∀ turn, post (perform peer op turn before).1 before)
    (lasts : ∀ reply before after, Grows before after → post reply before → post reply after) :
    Keeps peer post (ask op : RelayProgram ε op.Reply) state := by
  refine ask_keeps ?_ fun reply before after rely =>
    lasts reply before after (grows_of_rely rely)
  intro before rely sound meets turn
  rw [same turn before]
  exact ⟨.still before, shows before (grows_of_rely rely) sound meets turn⟩

theorem ask_log :
    Keeps peer (fun _ _ => line ≠ .forwardingUnenriched)
      (ask (.log line) : RelayProgram ε _) state :=
  ask_reads (fun _ _ => rfl) (fun _ _ _ meets _ => meets) fun _ _ _ _ holds => holds

theorem ask_retry : Keeps peer Any (ask (.retry position) : RelayProgram ε _) state := by
  refine ask_reads ?_ (fun _ _ _ _ _ => trivial) fun _ _ _ _ holds => holds
  intro turn _
  simp only [perform]
  cases turn.delivery <;> rfl

theorem step_change (step : Step peer before changed) :
    Step peer before (change delivery before changed).2 := by
  cases delivery with
  | applied => exact step
  | refused => exact .still before
  | replyLost => exact step

variable {key : ScopeKey}

theorem ask_write {value : Option Stored} (writes : ∀ delivery log,
      (KeyValue.perform peer op delivery log).2 = log ∨
        (KeyValue.perform peer op delivery log).2 = ⟨peer, key, value⟩ :: log)
    (kept : ∀ before, NamesKept peer (.scope op) before →
      OwnWrite ⟨peer, key, value⟩ before.scope) (running : ¬ state.Completed peer) :
    Keeps peer (fun _ later => ¬ later.Completed peer)
      (ask (.scope op) : RelayProgram ε _) state := by
  refine ask_keeps ?_ fun _ _ _ rely held => running_of_rely rely held
  intro before rely _ meets turn
  have stillRunning := running_of_rely rely running
  have own := kept before meets
  simp only [perform]
  rcases writes (if KvOp.isRead op then .applied else turn.delivery)
      before.scope with same | wrote
  · rw [same]
    exact ⟨.still before, stillRunning⟩
  · rw [wrote]
    exact ⟨.write before key value own stillRunning, stillRunning⟩

variable (running : ¬ state.Completed peer)
include running

theorem ask_put {value : Stored} :
    Keeps peer (fun _ later => ¬ later.Completed peer)
      (ask (.scope (.put key value)) : RelayProgram ε _) state :=
  ask_write (fun _ _ => perform_put) (fun _ meets => meets) running

theorem ask_delete :
    Keeps peer (fun _ later => ¬ later.Completed peer)
      (ask (.scope (.delete key)) : RelayProgram ε _) state :=
  ask_write (fun _ _ => perform_delete) (fun _ meets => meets) running

omit running

theorem ask_emit (own : event.taskInstanceId = peer) :
    Keeps peer Any (ask (.emit event) : RelayProgram ε _) state := by
  refine ask_keeps ?_ fun _ _ _ _ holds => holds
  intro before _ _ _ _
  exact ⟨step_change (.emit before event own), trivial⟩

theorem ask_emit_running (own : event.taskInstanceId = peer)
    (other : event.kind.isCompleted = false) (running : ¬ state.Completed peer) :
    Keeps peer (fun _ later => ¬ later.Completed peer)
      (ask (.emit event) : RelayProgram ε _) state := by
  refine ask_keeps ?_ fun _ _ _ rely held => running_of_rely rely held
  intro before rely _ _ turn
  have stillRunning := running_of_rely rely running
  have emitted : ¬ ({ before with events := before.events ++ [event] } :
      State).Completed peer := by
    rintro ⟨found, mem, isOwn, completion⟩
    rcases List.mem_append.mp mem with older | new
    · exact stillRunning ⟨found, older, isOwn, completion⟩
    · rw [List.mem_singleton.mp new, other] at completion
      cases completion
  refine ⟨step_change (.emit before event own), ?_⟩
  simp only [perform]
  cases turn.delivery with
  | applied => exact emitted
  | refused => exact stillRunning
  | replyLost => exact emitted

include running

theorem capture_keeps {scope : Scope} :
    Keeps peer (fun _ later => ¬ later.Completed peer) (scope.capture args) state := by
  rw [Scope.capture]
  split
  · exact .pure fun _ rely _ => running_of_rely rely running
  split
  · exact .pure fun _ rely _ => running_of_rely rely running
  apply andThen (ask_put running)
  intro reply _ _ held
  cases reply with
  | ok | error => exact .pure fun _ rely _ => running_of_rely rely held

variable {calls : List CtxCall}

theorem runProcess_keeps :
    Keeps peer (fun _ later => ¬ later.Completed peer)
      (runProcess environment calls) state := by
  induction calls generalizing state with
  | nil => exact .pure fun _ rely _ => running_of_rely rely running
  | cons call _ ih =>
    have first : Keeps peer (fun _ later => ¬ later.Completed peer)
        (call.run environment) state := by
      cases call with
      | capture => exact capture_keeps running
      | rm =>
        apply andThen (ask_delete running)
        intro reply _ _ held
        cases reply with
        | ok | error => exact .pure fun _ rely _ => running_of_rely rely held
    apply andThen first
    intro _ _ _ held
    exact ih held

omit running

theorem loadDeclaredSpecs_keeps :
    Keeps peer (fun declared later => later.taskSpecification taskId = some declared)
      (loadDeclaredSpecs taskId) state := by
  have asked : Keeps peer
      (fun reply later => ∀ found, reply = .ok (some found) →
        later.taskSpecification taskId = some found)
      (ask (.taskSpecification taskId) : RelayProgram EnrichmentError _)
      state := by
    refine ask_reads ?_ ?_ ?_
    · intro turn _
      simp only [perform]
      cases turn.delivery <;> rfl
    · intro _ _ _ _ turn _ answered
      simp only [perform] at answered
      cases isDelivery : turn.delivery with
      | applied =>
        rw [isDelivery] at answered
        exact Except.ok.inj answered
      | refused | replyLost =>
        rw [isDelivery] at answered
        cases answered
    · intro _ _ _ grows held found answered
      exact grows.specs _ _ (held found answered)
  apply andThen asked
  intro reply _ _ held
  cases reply with
  | error => exact SafeTry.throw
  | ok answer =>
    cases answer with
    | none => exact SafeTry.throw
    | some specs =>
      refine .pure ?_
      intro _ rely _
      exact (grows_of_rely rely).specs _ _ (held specs rfl)

/-- The bag holds what the instance published, under the names chosen. -/
def Bagged (taskInstanceId runId : Uuid) (names : String → Prop)
    (bag : BTreeMap String Json) (state : State) : Prop :=
  ∀ name value, names name →
    lastPublished taskInstanceId runId name state.scope = some value → bag[name]? = some value

variable {names : String → Prop}

theorem Bagged.grows (bagged : Bagged taskInstanceId runId names bag before)
    (completed : before.Completed taskInstanceId) (grows : Grows before after) :
    Bagged taskInstanceId runId names bag after := by
  intro name value chosen last
  rw [grows.published _ completed] at last
  exact bagged name value chosen last

theorem Bagged.add (sound : Sound before)
    (bagged : Bagged taskInstanceId runId names bag before) (name : String) :
    Bagged taskInstanceId runId (fun other => other = name ∨ names other)
      (addOutput taskInstanceId name bag
        (.ok (entry ⟨defaultCtxNamespace, runId, name⟩ before.scope)))
      before := by
  intro other value chosen last
  by_cases same : other = name
  · subst same
    obtain ⟨_, held⟩ := sound.own.lookup last
    obtain ⟨found, isEntry, valued⟩ := Option.bind_eq_some_iff.mp held
    obtain ⟨_, _⟩ := found
    cases valued
    rw [isEntry]
    simp [addOutput]
  · have chosenBefore : names other := chosen.resolve_left same
    have kept := bagged other value chosenBefore last
    rw [addOutput.eq_def]
    split
    · split
      · rw [getElem?_insert_of_ne _ _ (Ne.symm same)]
        exact kept
      · exact kept
    · exact kept

theorem ask_entry (shows : ∀ before, Grows state before → Sound before →
      post (.ok (entry key before.scope)) before)
    (lasts : ∀ reply before after, Grows before after → post reply before → post reply after) :
    Keeps peer post (ask (.scope (.entry key)) : RelayProgram ε _) state :=
  @ask_reads state peer ε (.scope (.entry key)) post (fun _ _ => rfl)
    (fun before grows sound _ _ => shows before grows sound) lasts

theorem collectOutputs_keeps {keys : List ScopeKey} {bag : BTreeMap String Json}
    (ofRun : ∀ key ∈ keys, key.ns = defaultCtxNamespace ∧ key.owner = runId)
    (completed : state.Completed taskInstanceId)
    (bagged : Bagged taskInstanceId runId names bag state) :
    Keeps peer
      (fun collected later => Bagged taskInstanceId runId
        (fun name => names name ∨ ∃ key ∈ keys, key.name = name) collected
        later) (collectOutputs taskInstanceId keys bag) state := by
  induction keys generalizing state names bag with
  | nil =>
    refine .pure ?_
    intro _ rely _ name value chosen last
    have chosenBefore : names name := by simpa using chosen
    exact bagged.grows completed (grows_of_rely rely) name value chosenBefore last
  | cons key rest ih =>
    obtain ⟨default, run⟩ := ofRun key (.head _)
    have isKey : key = ⟨defaultCtxNamespace, runId, key.name⟩ := by rw [← default, ← run]
    have read : Keeps peer
        (fun reply later => later.Completed taskInstanceId ∧
          Bagged taskInstanceId runId (fun name => name = key.name ∨ names name)
            (addOutput taskInstanceId key.name bag reply) later)
        (ask (.scope (.entry key)) : RelayProgram EnrichmentError _)
        state := by
      refine ask_entry ?_ ?_
      · intro _ grows sound
        refine ⟨grows.completed completed, ?_⟩
        have added := (bagged.grows completed grows).add sound key.name
        rw [← isKey] at added
        exact added
      · rintro _ _ _ grows ⟨held, holds⟩
        exact ⟨grows.completed held, holds.grows held grows⟩
    apply andThen read
    rintro _ _ _ ⟨held, holds⟩
    have rest := ih (fun other mem => ofRun other (.tail key mem)) held holds
    apply rest.weaken
    intro _ _ _ baggedAll name value chosen last
    refine baggedAll name value ?_ last
    rcases chosen with chosen | ⟨other, mem, isName⟩
    · exact .inl (.inr chosen)
    · rcases List.mem_cons.mp mem with rfl | isRest
      · exact .inl (.inl isName.symm)
      · exact .inr ⟨other, isRest, isName⟩

theorem readEmittedOutputs_keeps (completed : state.Completed taskInstanceId) :
    Keeps peer (fun emitted later => Bagged taskInstanceId runId (fun _ => True) emitted later)
      (readEmittedOutputs runId taskInstanceId) state := by
  have listed : Keeps peer
      (fun reply later => later.Completed taskInstanceId ∧
        ∀ keys, reply = .ok keys → ∀ name value,
          lastPublished taskInstanceId runId name later.scope = some value →
            (⟨defaultCtxNamespace, runId, name⟩ : ScopeKey) ∈ keys)
      (ask (.scope .keys) : RelayProgram EnrichmentError _) state := by
    refine ask_reads (fun _ _ => rfl) ?_ ?_
    · intro before grows sound _ _
      refine ⟨grows.completed completed, ?_⟩
      intro keys answered _ _ last
      have isKeys : liveKeys before.scope = keys := Except.ok.inj answered
      obtain ⟨_, stored⟩ := sound.own.lookup last
      rw [← isKeys, mem_liveKeys_iff, stored]
      rfl
    · rintro _ _ _ grows ⟨held, holds⟩
      refine ⟨grows.completed held, ?_⟩
      intro keys answered name value last
      rw [grows.published _ held] at last
      exact holds keys answered name value last
  apply andThen listed
  rintro reply later _ ⟨held, holds⟩
  cases reply with
  | error => exact SafeTry.throw
  | ok keys =>
    have collected := @collectOutputs_keeps taskInstanceId runId later peer (fun _ => False)
      (keys.filter fun key =>
        key.ns == defaultCtxNamespace && key.owner == runId) ∅ (by simp)
      held (by
        intro _ _ never
        cases never)
    apply collected.frame.weaken
    rintro _ _ _ ⟨bagged, evolves⟩ name value _ last
    refine bagged name value ?_ last
    rw [(grows_of_evolves evolves).published _ held] at last
    have isListed := holds keys rfl name value last
    exact .inr ⟨_, List.mem_filter.mpr ⟨isListed, by simp⟩, rfl⟩

/-- An event made from another one on its way through the relay. -/
structure Enriched (event enriched : TaskEvent) (state : State) : Prop where
  sameTask : enriched.SameTask event
  carries : enriched.Carries state
  completion : enriched.kind.isCompleted = event.kind.isCompleted

theorem Enriched.grows (held : Enriched event enriched before)
    (reported : before.Reports event) (grows : Grows before after) :
    Enriched event enriched after where
  sameTask := held.sameTask
  carries := by
    apply grows.carries held.carries
    intro completes
    rw [held.sameTask.1]
    exact reported (held.completion.symm.trans completes)
  completion := held.completion

theorem enriched_self_of_other (other : event.kind.isCompleted = false) :
    Enriched event event state := by
  refine ⟨⟨rfl, rfl, rfl⟩, ?_, rfl⟩
  cases isKind : event.kind with
  | completed =>
    rw [isKind] at other
    cases other
  | _ => simp only [TaskEvent.Carries, isKind]

theorem enrichCompletedTaskEvent_keeps (reported : state.Reports event) :
    Keeps peer (Enriched event) (enrichCompletedTaskEvent event) state := by
  rw [enrichCompletedTaskEvent.eq_def]
  split
  · rename_i stamped patch isKind
    have ends : event.kind.isCompleted = true := by
      rw [isKind]
      rfl
    apply andThen loadDeclaredSpecs_keeps
    intro declared _ evolves specified
    have completed := (grows_of_evolves evolves).completed (reported ends)
    split
    · rename_i empty
      subst empty
      refine .pure ?_
      intro _ rely _
      refine ⟨⟨rfl, rfl, rfl⟩, ?_, rfl⟩
      simp only [TaskEvent.Carries, isKind]
      refine ⟨[], (grows_of_rely rely).specs _ _ specified, ?_⟩
      rintro _ _ ⟨_, mem, _⟩
      cases mem
    · apply andThen (readEmittedOutputs_keeps completed)
      intro emitted _ reads bagged
      have completedRead := (grows_of_evolves reads).completed completed
      have specifiedRead := (grows_of_evolves reads).specs _ _ specified
      cases stamps : stampRoutingVariables declared emitted with
      | error => exact SafeTry.throw
      | ok =>
        refine .pure ?_
        intro _ rely _
        refine ⟨⟨rfl, rfl, rfl⟩, ?_, by rw [isKind]; rfl⟩
        have grows := grows_of_rely rely
        refine ⟨declared, grows.specs _ _ specifiedRead, ?_⟩
        intro name value declares last
        have inBag := (bagged.grows completedRead grows) name value trivial last
        exact stampRoutingVariables_carries stamps inBag declares
  · rename_i other
    refine .pure ?_
    intro _ _ _
    apply enriched_self_of_other
    cases isKind : event.kind with
    | completed stamped patch => exact absurd isKind (other stamped patch)
    | _ => rfl

/-- A read whose answer does not matter. -/
theorem ask_entry_any : Keeps peer Any (ask (.scope (.entry key)) : RelayProgram ε _) state :=
  ask_entry (fun _ _ _ => trivial) fun _ _ _ _ holds => holds

theorem readSelfPatchOutput_keeps :
    Keeps peer Any (readSelfPatchOutput runId taskInstanceId) state := by
  apply andThen ask_entry_any
  intro _ _ _ _
  split <;> exact .done

theorem Enriched.marked {patch mark : Option (Uuid × Uuid)} (held : Enriched event enriched state)
    (isKind : enriched.kind = .completed stamped patch) :
    Enriched event { enriched with kind := .completed stamped mark } state where
  sameTask := held.sameTask
  carries := by
    have carries := held.carries
    simp only [TaskEvent.Carries, isKind] at carries
    exact carries
  completion := by
    rw [← held.completion, isKind]
    rfl

theorem markSelfPatch_keeps (held : Enriched event enriched state)
    (reported : state.Reports event) :
    Keeps peer (Enriched event) (markSelfPatch parses enriched) state := by
  rw [markSelfPatch.eq_def]
  split
  · rename_i stamped selfPatch kind
    apply andThen readSelfPatchOutput_keeps
    intro document _ evolves _
    have grows := grows_of_evolves evolves
    have heldRead := held.grows reported grows
    have reportedRead := grows.reports reported
    cases document with
    | none =>
      exact .pure fun _ rely _ =>
        heldRead.grows reportedRead (grows_of_rely rely)
    | some =>
      dsimp only
      split
      · exact .pure fun _ rely _ =>
          (heldRead.marked kind).grows reportedRead (grows_of_rely rely)
      apply andThen ask_log
      intro _ _ evolvesLog _
      have growsLog := grows_of_evolves evolvesLog
      exact .pure fun _ rely _ =>
        heldRead.grows reportedRead (growsLog.trans (grows_of_rely rely))
  · exact .pure fun _ rely _ =>
      held.grows reported (grows_of_rely rely)

/-- What the relay sends on for an event. -/
structure Projected (event sent : TaskEvent) (state : State) : Prop where
  sameTask : sent.SameTask event
  carries : sent.Carries state
  reported : sent.kind.isCompleted = true → state.Completed sent.taskInstanceId
  settles : event.kind.isCompleted = true → sent.kind.isCompleted = true ∨ sent.kind = .failed

theorem Projected.grows (held : Projected event sent before) (grows : Grows before after) :
    Projected event sent after where
  sameTask := held.sameTask
  carries := grows.carries held.carries held.reported
  reported := grows.reports held.reported
  settles := held.settles

theorem Enriched.projected (held : Enriched event enriched state)
    (reported : state.Reports event) :
    Projected event enriched state where
  sameTask := held.sameTask
  carries := held.carries
  reported := by
    intro completes
    rw [held.sameTask.1]
    exact reported (held.completion.symm.trans completes)
  settles := fun completes => .inl (held.completion.trans completes)

theorem projected_failed :
    Projected event { event with kind := .failed } state where
  sameTask := ⟨rfl, rfl, rfl⟩
  carries := trivial
  reported := by
    intro ends
    cases ends
  settles := fun _ => .inr rfl

theorem project_keeps (reported : state.Reports event) :
    Keeps peer
      (fun projection later => ∀ sent, projection = .forward sent → Projected event sent later)
      (project parses event) state := by
  apply andThen (.attempt (enrichCompletedTaskEvent_keeps reported))
  rintro result _ evolves ⟨works, _⟩
  have reportedNow := (grows_of_evolves evolves).reports reported
  cases result with
  | ok enriched =>
    have held := works enriched rfl
    apply andThen (markSelfPatch_keeps held reportedNow)
    intro _ _ evolvesMarked heldMarked
    have growsMarked := grows_of_evolves evolvesMarked
    refine .pure ?_
    rintro _ rely _ _ ⟨⟩
    exact (heldMarked.projected (growsMarked.reports reportedNow)).grows (grows_of_rely rely)
  | error fault =>
    cases fault with
    | lookupIntegrity =>
      apply andThen ask_log
      intro _ _ _ _
      refine .pure ?_
      rintro _ _ _ _ ⟨⟩
    | splitStageDrop =>
      apply andThen ask_log
      intro _ _ _ _
      refine .pure ?_
      rintro _ _ _ _ ⟨⟩
      exact projected_failed
    | forwardable =>
      apply andThen ask_log
      intro _ _ _ other
      exact absurd rfl other

variable {parses : Json → Bool}

theorem ask_send (held : Projected event sent state) :
    Keeps peer
      (fun reply later => reply = .ok () → event.kind.isCompleted = true → later.Forwarded event)
      (ask (.send sent) : RelayProgram ε _) state := by
  refine ask_keeps ?_ ?_
  · intro before rely _ _ turn
    have heldNow := held.grows (grows_of_rely rely)
    have step : Step peer before { before with sent := before.sent ++ [sent] } :=
      .send before sent heldNow.carries heldNow.reported
    simp only [perform]
    cases turn.delivery with
    | applied =>
      refine ⟨step, ?_⟩
      intro _ completion
      exact ⟨sent, List.mem_append_right _ (.head _),
        heldNow.sameTask, heldNow.settles completion⟩
    | refused | replyLost =>
      refine ⟨.still before, ?_⟩
      intro answered
      cases answered
  · intro _ _ _ rely forwarded answered completion
    exact (grows_of_rely rely).forwarded (forwarded answered completion)

theorem ask_complete (found : state.events[position]? = some event)
    (forwarded : event.kind.isCompleted = true → state.Forwarded event) :
    Keeps peer Any (ask (.complete position) : RelayProgram ε _) state := by
  refine ask_keeps ?_ fun _ _ _ _ holds => holds
  intro before rely _ _ _
  have grows := grows_of_rely rely
  obtain ⟨current, now, isForwarded⟩ := grows.settled ⟨event, found, forwarded⟩
  exact ⟨step_change (.complete before position current now isForwarded), trivial⟩

theorem drainDelivery_keeps (found : state.events[position]? = some event) :
    Keeps peer Any (drainDelivery parses position event) state := by
  have reported : state.Reports event := by
    intro ends
    exact ⟨event, List.mem_of_getElem? found, rfl, ends⟩
  apply andThen (project_keeps reported)
  intro projection _ evolves shows
  have foundNow := (grows_of_evolves evolves).getElem?_events found
  cases projection with
  | retry =>
    exact andDone ask_retry
  | forward sent =>
    apply andThen (ask_send (shows sent rfl))
    intro reply _ evolvesSent forwards
    have foundLater := (grows_of_evolves evolvesSent).getElem?_events foundNow
    cases reply with
    | ok =>
      exact andDone (ask_complete foundLater (forwards rfl))
    | error =>
      exact andDone ask_retry

theorem ask_next :
    Keeps peer
      (fun reply later => ∀ position event, reply = some (position, event) →
        later.events[position]? = some event) (ask .next : RelayProgram ε _) state := by
  refine ask_reads (fun _ _ => rfl) ?_ ?_
  · intro before _ _ _ turn _ _ answered
    obtain ⟨_, isPending, answer⟩ := Option.map_eq_some_iff.mp answered
    cases answer
    rw [State.pending] at isPending
    by_cases done : turn.position ∈ before.completed
    · rw [if_pos done] at isPending
      cases isPending
    · rw [if_neg done] at isPending
      exact isPending
  · intro _ _ _ grows held position event answered
    exact grows.getElem?_events (held position event answered)

theorem drainTaskEventSource_keeps :
    Keeps peer Any (drainTaskEventSource parses pulls) state := by
  induction pulls generalizing state with
  | zero => exact .done
  | succ _ ih =>
    apply andThen ask_next
    intro reply _ _ held
    cases reply with
    | none => exact ih
    | some delivery =>
      obtain ⟨position, event⟩ := delivery
      apply andThen (drainDelivery_keeps (held position event rfl))
      intro goesOn _ _ _
      cases goesOn with
      | true => exact ih
      | false => exact .done

theorem register_keeps :
    Keeps peer Any (ask (.registerSpec taskId declared) : RelayProgram Empty _) state := by
  refine ask_keeps ?_ fun _ _ _ _ holds => holds
  intro before _ _ _ _
  refine ⟨?_, trivial⟩
  simp only [perform]
  by_cases there : (before.taskSpecification taskId).isSome = true
  · rw [if_pos there]
    exact .still before
  · rw [if_neg there]
    exact step_change (.register before taskId declared
      (Option.not_isSome_iff_eq_none.mp there))

theorem program_keeps (peer : Nat) (command : Command) (running : ¬ state.Completed peer) :
    Keeps peer Any (command.program parses peer) state := by
  cases command with
  | task =>
    refine andThen (ask_emit_running rfl rfl running) ?_
    intro _ _ _ held
    refine andThen (ask_emit_running rfl rfl held) ?_
    intro _ _ _ held
    apply andThen (runProcess_keeps held)
    intro _ _ _ _
    exact andDone (ask_emit rfl)
  | drain => exact drainTaskEventSource_keeps
  | register =>
    exact andDone register_keeps
  | write _ value =>
    cases value with
    | some =>
      exact andDone (ask_put running)
    | none =>
      exact andDone (ask_delete running)

/-- Along every run that keeps published names, each completion sent on carries
the last value of every declared name that its instance published, and each
completion event is still pending unless a completion or a failure was sent on
for it. -/
theorem forwarded_completions_carry (parses : Json → Bool)
    (jobs : Nat → Command) (turns : List (Nat × Turn))
    (kept : (start parses jobs).RunMeets system NamesKept turns) :
    let reached := ((start parses jobs).run system turns).state
    (∀ event ∈ reached.sent, event.Carries reached) ∧
      ∀ position event, reached.events[position]? = some event →
        event.kind.isCompleted = true →
          reached.pending position = some event ∨ reached.Forwarded event := by
  intro reached
  have atFirst : AllSafe system discipline (fun _ _ _ => True) (start parses jobs) := by
    refine ⟨sound_empty, ?_⟩
    intro peer
    have running : ¬ State.empty.Completed peer := by
      rintro ⟨_, mem, _⟩
      cases mem
    exact (program_keeps peer (jobs peer) running sound_empty).weaken fun _ _ _ _ => trivial
  have sound : Sound reached := (atFirst.run kept).1.1
  refine ⟨sound.carries, ?_⟩
  intro position _ found ends
  by_cases done : position ∈ reached.completed
  · obtain ⟨_, settles, forwarded⟩ := sound.settled position done
    rw [found] at settles
    cases settles
    exact .inr (forwarded ends)
  · refine .inl ?_
    rw [State.pending, if_neg done]
    exact found

/-- The variable of a completion, if it is stamped. -/
def EventKind.variable (kind : EventKind) (name : String) : Option RoutingValue :=
  match kind with
  | .completed stamped _ => stamped[name]?
  | _ => none

def noOverrides : ScopeArgs := ⟨none, none, none⟩

def captureFlag (value : Bool) (allowUndeclared : Bool) : CtxCall :=
  .capture noOverrides ⟨"flag", .bool value, allowUndeclared, 180⟩

/-- Task 7 of run 9 publishes the routing variable that it declares; another
task of the run publishes the same name. -/
def sampleCommands : Nat → Command
  | 0 => .register 7 [⟨"flag", some "bool"⟩]
  | 1 => .task "default" ⟨7, 9, "decide", ["flag"]⟩ [captureFlag true false] .completed
  | 2 => .drain 1
  | 3 => .task "default" ⟨8, 9, "other", []⟩ [captureFlag false false] .completed
  | _ => .drain 0

def turnsOf (peer count : Nat) : List (Nat × Turn) := List.replicate count (peer, ⟨.applied, 0⟩)

/-- Instance 1 runs, then its completion is drained. -/
def drainedTurns : List (Nat × Turn) :=
  turnsOf 0 1 ++ turnsOf 1 4 ++ [(2, ⟨.applied, 2⟩)] ++ turnsOf 2 6

/-- Instance 3 publishes the name before the completion is drained. -/
def overwrittenTurns : List (Nat × Turn) :=
  turnsOf 0 1 ++ turnsOf 1 4 ++ turnsOf 3 3 ++ [(2, ⟨.applied, 2⟩)] ++ turnsOf 2 6

theorem forwarded_completions_carry_flag :
    (start (fun _ => false) sampleCommands).RunMeets system NamesKept drainedTurns ∧
      (∃ event ∈ ((start (fun _ => false) sampleCommands).run system drainedTurns).state.sent,
        event.kind.variable "flag" = some (.boolValue true)) ∧
      ∀ event ∈ ((start (fun _ => false) sampleCommands).run system drainedTurns).state.sent,
        event.Carries ((start (fun _ => false) sampleCommands).run system drainedTurns).state := by
  have kept : (start (fun _ => false) sampleCommands).RunMeets system NamesKept drainedTurns := by
    decide +kernel
  refine ⟨kept, by decide +kernel, ?_⟩
  exact (forwarded_completions_carry (fun _ => false) sampleCommands drainedTurns kept).1

/-- The declared variable was published and its instance completed, but the
completion is sent on without it and is not kept for redelivery. -/
theorem completion_forwarded_without_variable :
    let reached := ((start (fun _ => false) sampleCommands).run system overwrittenTurns).state
    reached.taskSpecification 7 = some [⟨"flag", some "bool"⟩] ∧
      lastPublished 1 9 "flag" reached.scope = some (.bool true) ∧
      reached.pending 2 = none ∧
      ∃ event ∈ reached.sent, event.taskInstanceId = 1 ∧ event.taskId = 7 ∧
        event.workflowInstanceId = 9 ∧ event.kind.isCompleted = true ∧
          event.kind.variable "flag" = none := by
  decide +kernel

end Tickr.Routing
