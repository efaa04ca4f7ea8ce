import Tickr.Signals.Promises

/-!
# Claiming the cache and writing captures

A cache outcome that says duplicate is a row that was read under the command's
own key; captures whose write is answered are in the log of the working set.
-/

namespace Tickr.Signals

open LogStream (Uuid)
open KeyValue Concurrent Discipline
open SafeExcept (andThen)

variable {setup : Deployment} {jobs : Nat → Command}
  {concern : Concern setup jobs} {peer : Nat} {state : SignalState}

theorem cachedRow_safe (key : String) :
    SafeSignal concern peer
      (fun row later => ∃ write ∈ later.cache, write.key = key ∧ write.value = some row)
      (cachedRow key) state := by
  apply request_safe
  · intro _ _ _
    trivial
  · intro before turn _ _ _ _ answered
    have read := @perform_entry _ _ _ key peer turn.delivery before.cache
    simp only [perform] at answered ⊢
    rw [read.1]
    cases reply : (KeyValue.perform peer (.entry key) turn.delivery before.cache).1 with
    | error =>
      rw [reply] at answered
      cases answered
    | ok found =>
      have isEntry := read.2 found reply
      rw [reply, isEntry] at answered
      cases stored : (entry key before.cache).bind Entry.value with
      | none =>
        simp only [stored] at answered
        cases answered
      | some =>
        simp only [stored] at answered
        cases answered
        exact mem_of_lookup_eq_some stored
  · intro _ _ _ rely written
    obtain ⟨write, mem, rest⟩ := written
    exact ⟨write, (grows_of_rely rely).cache.subset mem, rest⟩

theorem checkOrInsert_safe {hash : Digest}
    (claim : (jobs peer).cacheClaim = some (key, ⟨fresh, hash⟩)) :
    SafeSignal concern peer
      (fun outcome later => ∀ first,
        outcome = .deduplicatedSameHash first → Cached jobs peer first later)
      (checkOrInsert key fresh hash) state := by
  refine andThen (.attempt (request_free fun _ => claim)) ?_
  intro made _ _ _
  cases made with
  | ok =>
    refine .pure ?_
    intro _ _ _ _ isDuplicate
    cases isDuplicate
  | error =>
    apply SafeExcept.andPure (cachedRow_safe key)
    intro row _ _ wrote _ isDuplicate
    obtain ⟨write, mem, isKey, isRow⟩ := wrote
    by_cases same : row.inputSha256 = hash
    · rw [if_pos same] at isDuplicate
      cases isDuplicate
      refine ⟨key, _, write, claim, mem, isKey, ?_⟩
      rw [isRow, ← same]
    · rw [if_neg same] at isDuplicate
      cases isDuplicate

/-- A duplicate is reported only on the strength of a row in the cache. -/
theorem consultCache_safe {hash : Digest} (claim : kept = true ∨ (jobs peer).cacheClaim =
      idempotencyKey.map fun key => (key, ⟨fresh, hash⟩)) :
    SafeSignal concern peer
      (fun outcome later => ∀ first,
        outcome = .deduplicatedSameHash first → Cached jobs peer first later)
      (consultCache workingSet kept idempotencyKey fresh hash) state := by
  unfold consultCache
  split
  · rename_i key
    have claims : (jobs peer).cacheClaim = some (key, ⟨fresh, hash⟩) := by
      rcases claim with isReserved | claims
      · cases isReserved
      · exact claims
    apply andThen (request_free fun _ => by trivial)
    intro _ _ _ _
    exact checkOrInsert_safe claims
  · refine .pure ?_
    intro _ _ _ _ isDuplicate
    cases isDuplicate

/-- The captures have been written for a signal. -/
def Stored (workingSet : WorkingSet) (signalId : Uuid)
    (captures : List NamedEnvelope) (state : SignalState) : Prop :=
  ∀ capture ∈ captures, ∃ write ∈ state.workingSet,
    write.key = captureKey workingSet signalId capture.name ∧ write.value = some capture.envelope

variable {workingSet : WorkingSet} {signalId : Uuid} {captures : List NamedEnvelope}

/-- What was extracted and stored is what the receiver is to find. -/
theorem Stored.written (kept : Stored workingSet signalId captures state)
    (taken : extractCaptures paths payload signalId source now declarations = .ok captures) :
    Written (expected paths workingSet signalId payload declarations) state := by
  intro _ mem
  rw [expected, demands_of_extractCaptures taken, List.map_map, List.mem_map] at mem
  obtain ⟨capture, isCapture, isExpectation⟩ := mem
  subst isExpectation
  obtain ⟨write, isWrite, isKey, value⟩ := kept capture isCapture
  exact ⟨write, isWrite, isKey, capture.envelope, value, rfl⟩

theorem stored_nil : Stored workingSet signalId [] state := by
  intro _ mem
  cases mem

/-- A put that is answered is in the log. -/
theorem put_safe {ε : Type} (key : CaptureKey) (envelope : Envelope) (failure : ε) :
    SafeSignal concern peer
      (fun _ later => ∃ write ∈ later.workingSet, write.key = key ∧ write.value = some envelope)
      (Program.request (.workingSet (.put key envelope))
        (fun reply => reply.mapError fun _ => failure) : SignalM ε Nat)
      state := by
  apply request_safe
  · intro _ _ _
    trivial
  · intro _ _ _ _ _ _ answered
    have ok := ok_of_mapError answered
    have made := perform_put_of_ok ok
    refine ⟨⟨peer, key, some envelope⟩, ?_, rfl, rfl⟩
    simp only [perform, made]
    exact .head _
  · intro _ _ _ rely written
    obtain ⟨write, mem, rest⟩ := written
    exact ⟨write, (grows_of_rely rely).workingSet.subset mem, rest⟩

theorem putCaptures_safe (signalId : Uuid) (captures : List NamedEnvelope) :
    SafeSignal concern peer (fun _ later => Stored .nats signalId captures later)
      (putCaptures signalId captures) state := by
  induction captures generalizing state with
  | nil =>
    refine .pure ?_
    intro _ _ _
    exact stored_nil
  | cons capture rest ih =>
    apply andThen (put_safe (signalId, capture.name) capture.envelope "nats kv put failed")
    intro _ _ _ wrote
    apply ih.frame.weaken
    intro _ _ _ now
    refine List.forall_mem_cons.mpr ⟨?_, now.1⟩
    obtain ⟨write, isWrite, rest⟩ := wrote
    exact ⟨write, (grows_of_evolves now.2).workingSet.subset isWrite, rest⟩

theorem writeCapturesToNats_safe (signalId : Uuid) (captures : List NamedEnvelope) :
    SafeSignal concern peer (fun _ later => Stored .nats signalId captures later)
      (writeCapturesToNats signalId captures) state := by
  unfold writeCapturesToNats
  by_cases isEmpty : captures.isEmpty = true
  · rw [List.isEmpty_iff.mp isEmpty]
    refine .pure ?_
    intro _ _ _
    exact stored_nil
  · rw [if_neg isEmpty]
    apply andThen (request_free fun _ => by trivial)
    intro _ _ _ _
    exact putCaptures_safe signalId captures

variable {request : ScopeRequest} {outcome : ScopeOutcome}

theorem applied_createScope (sound : Sound setup jobs state)
    (answered : (state.createScope peer request).1 = .ok outcome)
    (done : outcome = .created ∨ outcome = .idempotent) :
    Applied request (state.createScope peer request).2 := by
  unfold SignalState.createScope at answered ⊢
  split at answered
  · cases answered
  rename_i distinct
  rw [if_neg distinct]
  split at answered
  · rename_i made found
    cases answered
    by_cases same : made = request
    · subst same
      exact sound.scopesWritten made (List.mem_of_find?_eq_some found)
    · rw [if_neg same] at done
      rcases done with never | never <;> cases never
  · split at answered
    · cases answered
      rcases done with never | never <;> cases never
    rename_i new
    rw [if_neg new]
    split at answered
    · cases answered
    · rename_i unclaimed
      rw [if_neg unclaimed]
      exact applied_writeValues request

theorem applied_writeScope (sound : Sound setup jobs state)
    (answered : (state.writeScope peer request).1 = .ok outcome)
    (done : outcome = .applied ∨ outcome = .idempotent) :
    Applied request (state.writeScope peer request).2 := by
  unfold SignalState.writeScope at answered ⊢
  split at answered
  · cases answered
  rename_i distinct
  rw [if_neg distinct]
  split at answered
  · cases answered
    rcases done with never | never <;> cases never
  rename_i there
  rw [if_neg there]
  split at answered
  · rename_i made found
    cases answered
    by_cases same : made = request
    · subst same
      exact sound.claimsWritten made (List.mem_of_find?_eq_some found)
    · rw [if_neg same] at done
      rcases done with never | never <;>
        cases never
  · exact applied_writeValues request

theorem Applied.stored (ran : Applied (scopeRequest signalId owner captures) state) :
    Stored .scopeStore signalId captures state := by
  intro capture mem
  have value : (sanitizeSegment capture.name, capture.envelope) ∈
      (scopeRequest signalId owner captures).values := by
    apply (List.perm_insertionSort _ _).mem_iff.mpr
    exact List.mem_map.mpr ⟨capture, mem, rfl⟩
  exact ran _ value

theorem writeToScope_safe (request : ScopeRequest) :
    SafeSignal concern peer (fun _ later => Applied request later)
      (writeToScope request) state := by
  have written : SafeSignal concern peer (fun outcome later =>
        outcome = .applied ∨ outcome = .idempotent → Applied request later)
      (.request (.writeScope request) fun reply =>
        reply.mapError fun _ => "write Event-variable captures") state := by
    apply request_safe
    · intro _ _ _
      trivial
    · intro _ _ _ _ holds _ answered done
      have delivered := deliver_of_ok (ok_of_mapError answered)
      simp only [perform]
      rw [delivered.2]
      exact applied_writeScope holds.1 delivered.1 done
    · intro _ _ _ rely now done
      exact (now done).grown (grows_of_rely rely)
  apply andThen written
  intro outcome _ _ now
  by_cases done : outcome = .applied ∨ outcome = .idempotent
  · rw [if_pos done]
    refine .pure ?_
    intro _ rely _
    exact (now done).grown (grows_of_rely rely)
  · rw [if_neg done]
    exact SafeTry.throw

theorem writeEventCaptures_safe (signalId owner : Uuid) (captures : List NamedEnvelope) :
    SafeSignal concern peer (fun _ later => Stored .scopeStore signalId captures later)
      (writeEventCaptures signalId owner captures) state := by
  unfold writeEventCaptures
  by_cases isEmpty : captures.isEmpty = true
  · rw [List.isEmpty_iff.mp isEmpty]
    refine .pure ?_
    intro _ _ _
    exact stored_nil
  rw [if_neg isEmpty]
  have created : SafeSignal concern peer (fun outcome later =>
        outcome = .created ∨ outcome = .idempotent →
          Applied (scopeRequest signalId owner captures) later)
      (.request (.createScope (scopeRequest signalId owner captures))
        fun reply => reply.mapError fun _ =>
          "create Event-variable capture scope") state := by
    apply request_safe
    · intro _ _ _
      trivial
    · intro _ _ _ _ holds _ answered done
      have delivered := deliver_of_ok (ok_of_mapError answered)
      simp only [perform]
      rw [delivered.2]
      exact applied_createScope holds.1 delivered.1 done
    · intro _ _ _ rely now done
      exact (now done).grown (grows_of_rely rely)
  apply andThen created
  intro outcome _ _ now
  by_cases done : outcome = .created ∨ outcome = .idempotent
  · rw [if_pos done]
    refine .pure ?_
    intro _ rely _
    exact ((now done).grown (grows_of_rely rely)).stored
  rw [if_neg done]
  by_cases collides : outcome = .collision signalId
  · rw [if_pos collides]
    apply (writeToScope_safe _).weaken
    intro _ _ _ applied
    exact applied.stored
  · rw [if_neg collides]
    exact SafeTry.throw

theorem writeCaptures_safe (workingSet : WorkingSet)
    (signalId owner : Uuid) (captures : List NamedEnvelope) :
    SafeSignal concern peer
      (fun _ later => workingSet = .absent ∨ Stored workingSet signalId captures later)
      (writeCaptures workingSet signalId owner captures) state := by
  cases workingSet with
  | nats =>
    apply (writeCapturesToNats_safe signalId captures).weaken
    intro _ _ _ kept
    exact .inr kept
  | scopeStore =>
    apply (writeEventCaptures_safe signalId owner captures).weaken
    intro _ _ _ kept
    exact .inr kept
  | absent =>
    refine .pure ?_
    intro _ _ _
    exact .inl rfl

end Tickr.Signals
