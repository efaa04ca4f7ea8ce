import Tickr.CompactionStaging.Single
import Tickr.Contract

/-!
# Staging agrees on one payload

The digest of a payload is recorded after its bytes were staged, and the bytes
are deleted after that.  So along every run in which no bytes are created after
a completion, all acknowledged payloads of an identity are the same.
-/

namespace Tickr.CompactionStaging

open LogStream (Bytes)
open KeyValue Concurrent Discipline

variable (codec : StagingCodec)

def contract : Contract stagingSystem where
  legit _ := Legit codec
  condition := StagedInTime
  step := Step codec
  sound := Sound codec
  steps _ op turn _ _ legit inTime := perform_step op turn legit inTime
  keeps _ _ _ step sound := sound.step step

variable {codec} {peer : Nat} {state later : StagingState}

theorem grows_of_evolves (evolves : (contract codec).discipline.Evolves state later) :
    Grows state later :=
  evolves.keeps (Grows.refl _) fun _ _ _ step grows => grows.trans (Step.grows step)

theorem grows_of_rely (rely : (contract codec).discipline.Rely peer state later) :
    Grows state later := grows_of_evolves rely.evolves

variable {codec : StagingCodec}

theorem connect_keeps (state : StagingState) : (contract codec).Keeps peer Any connect state := by
  apply Contract.call_free
  intro _ _ _
  trivial

/-- What is read was held, unless it is a delete marker. -/
theorem readStageValue_keeps (key : StageKey) (state : StagingState) :
    (contract codec).Keeps peer
      (fun found later => ∀ bytes, found = some bytes → bytes ≠ [] → Held key bytes later)
      (readStageValue key) state := by
  apply Contract.call_keeps
  · intro _ _ _
    trivial
  intro before turn _ _ _ _ hit _ rely _ bytes isBytes nonempty
  apply (grows_of_rely rely).held
  have answered := ok_of_mapError hit
  obtain ⟨unchanged, entryOf⟩ := @perform_entry _ Bytes _ key peer turn.delivery before.store
  simp only [stagingSystem, perform] at answered ⊢
  rw [unchanged]
  cases reply : (KeyValue.perform peer (.entry key) turn.delivery before.store).1 with
  | error =>
    rw [reply] at answered
    cases answered
  | ok entry =>
    rw [reply] at answered
    have isEntry := entryOf entry reply
    cases answered
    cases entry with
    | none => cases isBytes
    | some entry =>
      have isValue : entryBytes entry = bytes := Option.some.inj isBytes
      have isLookup : lookup key before.store = entry.value := lookup_eq isEntry.symm
      apply mem_of_lookup_eq_some
      rw [isLookup]
      cases valued : entry.value with
      | none =>
        rw [entryBytes, valued] at isValue
        exact absurd isValue.symm nonempty
      | some =>
        rw [entryBytes, valued] at isValue
        rw [← isValue]
        rfl

variable {key : StageKey}

theorem expect_keeps (nonempty : value ≠ [])
    (held : ∀ bytes, some old = some bytes → bytes ≠ [] → Held key bytes state) :
    (contract codec).Keeps peer (fun _ later => Held key value later)
      (if old = value then pure () else throw message : StagingM Unit)
      state := by
  by_cases same : old = value
  · rw [if_pos same]
    refine .pure ?_
    intro _ rely _
    apply (grows_of_rely rely).held
    exact held value (by rw [same]) nonempty
  · rw [if_neg same]
    exact .throw

theorem completed_keeps (held : ∀ bytes, some old = some bytes → bytes ≠ [] →
      Held ⟨.complete, identity⟩ bytes state) :
    (contract codec).Keeps peer (fun _ later => Held ⟨.payload, identity⟩ payload later)
      (if old = codec.digest payload then pure () else throw message :
        StagingM Unit) state := by
  apply (expect_keeps (codec.digest_ne_nil payload) held).weaken
  intro _ _ sound whole
  exact Sound.held_payload sound whole

/-- A value that was created, or found when it could not be, was held. -/
theorem confirmStageValue_keeps (key : StageKey) (nonempty : value ≠ []) (state : StagingState) :
    (contract codec).Keeps peer (fun _ later => Held key value later)
      (confirmStageValue key value) state := by
  apply (readStageValue_keeps key state).andThen
  intro found _ _ held
  cases found with
  | none => exact SafeTry.throw
  | some => exact expect_keeps nonempty held

theorem createStageValue_keeps (nonempty : value ≠ [])
    (legit : ∀ later, Grows state later → Legit codec (.store (.create key value)) later) :
    (contract codec).Keeps peer (fun _ later => Held key value later)
      (createStageValue key value) state := by
  have created : (contract codec).Keeps peer (fun _ later => Held key value later)
      (Program.request (.store (.create key value)) id :
        ExceptT KvError (Program StagingOp StagingOp.Reply) Nat) state := by
    apply Contract.call_keeps
    · intro before rely _
      exact legit before (grows_of_rely rely)
    intro before turn revision _ _ _ isRevision _ rely _
    apply (grows_of_rely rely).held
    rcases @perform_create _ _ _ key value peer turn.delivery before.store
      with ⟨_, failed⟩ | writes
    · exact absurd isRevision (failed revision)
    · simp only [stagingSystem, perform]
      rw [writes.made]
      exact ⟨_, .head _, rfl, rfl⟩
  apply (SafeExcept.attempt created).andThen
  intro reply later _ answered
  cases reply with
  | ok revision =>
    refine .pure ?_
    intro _ rely _
    exact (grows_of_rely rely).held _ _ (answered.1 revision rfl)
  | error => exact confirmStageValue_keeps key nonempty later

variable {identity : String} {payload : Bytes}

theorem validateStagedPayload_keeps (nonempty : payload ≠ []) (state : StagingState) :
    (contract codec).Keeps peer (fun _ later => Held ⟨.payload, identity⟩ payload later)
      (validateStagedPayload codec identity payload) state := by
  apply (readStageValue_keeps ⟨.complete, identity⟩ state).andThen
  intro completed first _ complete
  cases completed with
  | some => exact completed_keeps complete
  | none =>
    apply (readStageValue_keeps ⟨.payload, identity⟩ first).andThen
    intro staged _ _ held
    cases staged with
    | none => exact SafeTry.throw
    | some => exact expect_keeps nonempty held

theorem cleanStageKey_keeps
    (legit : ∀ later, Grows state later → Legit codec (.store (.delete key)) later) :
    (contract codec).Keeps peer Any (cleanStageKey key) state := by
  apply (readStageValue_keeps key state).andThen
  intro found _ evolves _
  cases found with
  | none =>
    exact .done
  | some =>
    apply Contract.call_free
    intro before rely _
    exact legit before ((grows_of_evolves evolves).trans (grows_of_rely rely))

theorem completeCompactionStaging_keeps (nonempty : payload ≠ []) (state : StagingState) :
    (contract codec).Keeps peer Any (completeCompactionStaging codec identity payload) state := by
  apply (connect_keeps state).andThen
  intro _ first _ _
  apply (validateStagedPayload_keeps nonempty first).andThen
  intro _ second _ staged
  have noted : (contract codec).Keeps peer (fun _ later =>
        Held ⟨.complete, identity⟩ (codec.digest payload) later)
      (createStageValue ⟨.complete, identity⟩ (codec.digest payload))
      second := by
    apply createStageValue_keeps (codec.digest_ne_nil payload)
    intro _ grows _
    exact ⟨payload, grows.held _ _ staged, rfl⟩
  apply noted.andThen
  intro _ third evolves complete
  have ended : Finished codec identity payload third :=
    ⟨(grows_of_evolves evolves).held _ _ staged, complete⟩
  have cleaned : (contract codec).Keeps peer Any (cleanStageKey ⟨.payload, identity⟩) third := by
    apply cleanStageKey_keeps
    intro _ grows
    refine ⟨by simp, ?_⟩
    intro _
    exact ⟨payload, ended.grown grows⟩
  apply cleaned.andThen
  intro _ _ _ _
  apply cleanStageKey_keeps
  intro _ _
  exact ⟨by simp, by simp⟩

theorem drainJob_keeps (nonempty : payload ≠ []) (state : StagingState) :
    (contract codec).Keeps peer Any (drainJob codec identity payload) state := by
  apply (connect_keeps state).andThen
  intro _ first _ _
  apply (validateStagedPayload_keeps nonempty first).andThen
  intro _ second _ _
  have filed : (contract codec).Keeps peer Any
      (call (.archive payload) "archival failed" id) second := by
    apply Contract.call_free
    intro _ _ _
    trivial
  apply filed.andThen
  intro _ third _ _
  apply (completeCompactionStaging_keeps nonempty third).andThen
  intro _ _ _ _
  apply Contract.call_free
  intro _ _ _
  trivial

theorem payload_ne_nil_of_job {picked : Bool}
    (found : jobIdentity codec picked payload = some identity) :
    payload ≠ [] := by
  intro nil
  rw [nil] at found
  cases picked with
  | true =>
    have absent : jobIdentity codec true [] = none := codec.identity_nil
    rw [absent] at found
    cases found
  | false =>
    have absent : jobIdentity codec false [] = none := codec.projection_nil
    rw [absent] at found
    cases found

theorem drain_keeps (picked : Bool) (state : StagingState) :
    (contract codec).Keeps peer Any (drain codec picked) state := by
  have received : (contract codec).Keeps peer Any (tell .receive) state := by
    apply Contract.call_free
    intro _ _ _
    trivial
  apply received.andThen
  intro job later _ _
  cases job with
  | none =>
    exact .done
  | some payload =>
    dsimp only
    cases found : jobIdentity codec picked payload with
    | none => exact SafeTry.throw
    | some => exact drainJob_keeps (payload_ne_nil_of_job found) later

theorem stageBytes_keeps (nonempty : payload ≠ []) (state : StagingState) :
    (contract codec).Keeps peer (fun _ later => Held ⟨.payload, identity⟩ payload later)
      (stageBytes identity payload) state := by
  apply (readStageValue_keeps ⟨.payload, identity⟩ state).andThen
  intro staged _ _ held
  cases staged with
  | none =>
    apply createStageValue_keeps nonempty
    intro _ _ whole
    cases whole
  | some => exact expect_keeps nonempty held

theorem queueJob_keeps (state : StagingState) :
    (contract codec).Keeps peer Any (queueJob codec identity payload) state := by
  apply (readStageValue_keeps ⟨.queued, identity⟩ state).andThen
  intro queued first _ _
  cases queued with
  | some digest =>
    dsimp only
    by_cases same : digest = codec.digest payload
    · rw [if_pos same]
      exact .done
    · rw [if_neg same]
      exact SafeTry.throw
  | none =>
    have shown : (contract codec).Keeps peer Any
        (call (.publish payload) "publishing Compaction job to work queue" id) first := by
      apply Contract.call_free
      intro _ _ _
      trivial
    apply shown.andThen
    intro _ second _ _
    have noted : (contract codec).Keeps peer (fun _ later =>
          Held ⟨.queued, identity⟩ (codec.digest payload) later)
        (createStageValue ⟨.queued, identity⟩ (codec.digest payload))
        second := by
      apply createStageValue_keeps (codec.digest_ne_nil payload)
      intro _ _ whole
      cases whole
    apply noted.weaken
    intro _ _ _ _
    trivial

theorem stageUnder_keeps (nonempty : payload ≠ []) (state : StagingState) :
    (contract codec).Keeps peer (fun _ later => Held ⟨.payload, identity⟩ payload later)
      (stageUnder codec identity payload) state := by
  apply (connect_keeps state).andThen
  intro _ first _ _
  apply (readStageValue_keeps ⟨.complete, identity⟩ first).andThen
  intro completed second _ complete
  cases completed with
  | some => exact completed_keeps complete
  | none =>
    apply (stageBytes_keeps nonempty second).andThen
    intro _ third _ held
    apply (queueJob_keeps third).frame.weaken
    intro _ _ _ now
    exact (grows_of_evolves now.2).held _ _ held

theorem stageCompactionPayload_keeps (state : StagingState) :
    (contract codec).Keeps peer Any (stageCompactionPayload codec payload) state := by
  rw [stageCompactionPayload]
  cases found : codec.compactionIdentity payload with
  | none => exact .throw
  | some identity =>
    have nonempty : payload ≠ [] := @payload_ne_nil_of_job codec identity payload true found
    apply (stageUnder_keeps nonempty state).andThen
    intro _ _ _ held
    apply Contract.call_free
    intro _ rely _
    exact (grows_of_rely rely).held _ _ held

theorem program_keeps (command : Command) (state : StagingState) :
    (contract codec).Keeps peer Any (command.program codec) state := by
  cases command with
  | stage => exact stageCompactionPayload_keeps state
  | drain picked => exact drain_keeps picked state
  | idle =>
    exact .done

variable (codec : StagingCodec) (jobs : Nat → Command)

/-- In every run in which no bytes of an identity are created after it is
complete, all acknowledged payloads of an identity are the same, and it is
stored or its digest recorded as complete. -/
theorem one_payload_acknowledged (turns : List (Nat × Turn))
    (inTime : (start codec jobs .empty).RunMeets stagingSystem StagedInTime turns) :
    let final := ((start codec jobs .empty).run stagingSystem turns).state
    (∀ first second identity payload other,
      (first, .acknowledged identity payload) ∈ final.history →
        (second, .acknowledged identity other) ∈ final.history → payload = other) ∧
    ∀ peer identity payload,
      (peer, .acknowledged identity payload) ∈ final.history →
        lookup ⟨.payload, identity⟩ final.store = some payload ∨
          lookup ⟨.complete, identity⟩ final.store = some (codec.digest payload) := by
  intro final
  have sound : Sound codec final :=
    @Contract.sound_run _ _ _ _ _ _ _ (contract codec) _
      (fun peer => (jobs peer).program codec) sound_empty
      (fun peer => program_keeps (jobs peer) .empty) _ inTime
  constructor
  · intro first second identity payload other isFirst isSecond
    exact sound.unique identity payload other (sound.acknowledged first identity payload isFirst)
      (sound.acknowledged second identity other isSecond)
  · intro peer identity payload acknowledged
    have held := sound.acknowledged peer identity payload acknowledged
    rcases sound.stored identity payload held with stored | complete
    · exact .inl stored
    · exact .inr (sound.lookup_complete complete)

/-- A payload names its workflow instance by its first byte. -/
def sampleIdentity : Bytes → Option String
  | [] => none
  | _ :: _ => some "run"

def sampleCodec : StagingCodec where
  compactionIdentity := sampleIdentity
  projectionId := sampleIdentity
  digest payload := 1 :: payload
  collisionFree := List.cons_injective
  digest_ne_nil := by simp
  identity_nil := rfl
  projection_nil := rfl

/-- Two producers stage different payloads of one run, two more stage the
first one again, and two drains take the first job. -/
def sampleCommands : Nat → Command
  | 0 => .stage [1]
  | 1 => .stage [2]
  | 2 => .drain true
  | 3 => .stage [1]
  | 4 => .drain true
  | _ => .idle

def taking (peer calls : Nat) (job : Nat) : List (Nat × Turn) :=
  List.replicate calls (peer, ⟨.applied, false, job⟩)

/-- A staging, the drain of its job, and the same staging again. -/
def orderly : List (Nat × Turn) := taking 0 9 0 ++ taking 2 15 0 ++ taking 3 9 0

theorem one_payload_acknowledged_sample :
    let final := ((start sampleCodec sampleCommands .empty).run stagingSystem orderly).state
    (0, .acknowledged "run" [1]) ∈ final.history ∧ (2, .drained "run" [1]) ∈ final.history ∧
      (3, .acknowledged "run" [1]) ∈ final.history ∧
      (lookup ⟨.payload, "run"⟩ final.store = some [1] ∨
        lookup ⟨.complete, "run"⟩ final.store = some (sampleCodec.digest [1])) := by
  intro final
  have kept := one_payload_acknowledged sampleCodec sampleCommands orderly (by decide +kernel)
  have acknowledged : (0, .acknowledged "run" [1]) ∈ final.history := by decide +kernel
  have drained : (2, .drained "run" [1]) ∈ final.history := by decide +kernel
  have again : (3, .acknowledged "run" [1]) ∈ final.history := by decide +kernel
  exact ⟨acknowledged, drained, again, kept.2 0 "run" [1] acknowledged⟩

/-- The second producer reads both keys before the first one stages; the first
payload is completed and deleted; the second producer creates its own.  Both
are acknowledged, and the drain of the first job, delivered again, deletes the
second payload. -/
theorem two_payloads_acknowledged :
    let turns := taking 1 3 0 ++ taking 0 6 0 ++ taking 2 15 0 ++
      taking 1 5 0 ++ taking 3 4 0 ++ taking 4 15 1
    let final := ((start sampleCodec sampleCommands .empty).run stagingSystem turns).state
    (1, .acknowledged "run" [2]) ∈ final.history ∧ (3, .acknowledged "run" [1]) ∈ final.history ∧
      lookup ⟨.payload, "run"⟩ final.store = none ∧
      lookup ⟨.complete, "run"⟩ final.store = some [1, 1] := by
  refine ⟨?_, ?_, ?_, ?_⟩
  · decide +kernel
  · decide +kernel
  · decide +kernel
  · decide +kernel

end Tickr.CompactionStaging
