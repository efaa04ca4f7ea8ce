import Tickr.LiteCaptures.Launch
import Tickr.Signals.Translating

/-!
# Commands that archive nothing

Without a working set, wakeups and cancellations neither write captures to the
archive nor relay a manual trigger.
-/

namespace Tickr.LiteCaptures

open LogStream (Uuid)
open Concurrent
open Signals

/-- A call that archives nothing, deletes nothing from the archive and relays
no manual trigger. -/
def Plain : SignalOp → Prop
  | .send sending => manualSignal sending = none
  | .forward _ => False
  | .sql (.insertCaptures _ _ _ _) => False
  | .sql (.deleteExpired _ _) => False
  | _ => True

theorem consultCache_plain (reserved : Bool) (key : Option String) (fresh : Uuid) (hash : Digest) :
    (consultCache .absent reserved key fresh hash).run.All Plain := by
  cases reserved with
  | true => trivial
  | false =>
    cases key with
    | none => trivial
    | some => trivial

theorem respond_plain (answer : Answer) : (respond answer).run.All Plain :=
  (Program.all_request trivial).andDone

variable {fan : FanOut} (direct : fan.reserved = false)
include direct

theorem send_plain (other : manualSignal sending = none) :
    (fan.send sending).run.All Plain := by
  rw [FanOut.send, if_neg (by simp [direct])]
  exact Program.all_request other

theorem passOver_plain (warning : Warning)
    (context : String) : (fan.passOver warning context).run.All Plain := by
  rw [FanOut.passOver, if_neg (by simp [direct])]
  exact Program.all_request trivial

variable (isAbsent : fan.workingSet = .absent)
include isAbsent

theorem fanOutSubscribers_plain (entries : List Subscription) :
    (fan.fanOutSubscribers entries).run.All Plain := by
  refine fan.fanOutSubscribers_all (fun _ => ?_) entries
  apply fan.fanOutSubscriber_all (passOver_plain direct) _ (send_plain direct rfl)
  rw [FanOut.persistSubscriberCaptures, if_pos isAbsent]
  trivial

theorem fanOutGates_plain (gates : List Gate) : (fan.fanOutGates gates).run.All Plain := by
  refine fan.fanOutGates_all (fun _ => ?_) gates
  apply fan.fanOutGate_all (passOver_plain direct) _ (send_plain direct rfl) trivial
  rw [FanOut.writeGateCaptures, if_pos isAbsent]
  trivial

omit isAbsent

theorem audit_plain (matched : Nat) : (fan.audit matched).run.All Plain := by
  apply Program.All.andThen (Program.all_request trivial)
  intro audited
  cases audited with
  | ok => trivial
  | error => exact passOver_plain direct _ _

include isAbsent in
theorem translate_plain : fan.translate.run.All Plain := by
  apply Program.All.ask trivial
  intro entries
  apply Program.All.ask trivial
  intro gates
  split
  · trivial
  apply (fanOutSubscribers_plain direct isAbsent entries).andThen
  intro matched
  apply (fanOutGates_plain direct isAbsent gates).andThen
  intro _
  exact (audit_plain direct matched).andDone

omit direct

theorem dispatchWakeup_plain (lite : Lite) (request : WakeupRequest) (fresh : Uuid) :
    (dispatchWakeup lite.deployment request fresh).run.All Plain := by
  apply Program.All.andThen
  · apply Program.All.attempt
    apply Program.All.andThen (consultCache_plain _ _ _ _)
    intro outcome
    cases outcome with
    | fresh =>
      apply Program.All.andThen (translate_plain rfl rfl)
      intro _
      trivial
    | deduplicatedSameHash | conflictDifferentHash => trivial
  · intro processed
    match processed with
    | .error _ => exact respond_plain _
    | .ok (.deduplicated _) => exact respond_plain _
    | .ok (.conflict _ _ _) => exact respond_plain _
    | .ok (.fresh _ _ _) => exact respond_plain _

theorem sendCancel_plain (request : CancelRequest) (signalId : Uuid) :
    (sendCancel request signalId).run.All Plain := Program.all_request rfl

theorem awaitByTag_plain (signalId : Uuid) (reads : Nat) :
    (awaitByTagMaterialization signalId reads).run.All Plain := by
  induction reads with
  | zero => trivial
  | succ _ ih =>
    apply Program.All.andThen
    · apply Program.All.ask trivial
      intro found
      cases found with
      | none => trivial
      | some =>
        dsimp only
        split
        · trivial
        · split
          · trivial
          · trivial
    · intro found
      cases found with
      | some => trivial
      | none =>
        apply Program.All.ask trivial
        intro _
        split
        · trivial
        · exact ih

theorem processPreparedCancel_plain (request : CancelRequest) (signalId : Uuid) (reads : Nat) :
    (processPreparedCancel request signalId reads).run.All Plain := by
  rw [processPreparedCancel]
  split
  · apply Program.All.andThen
    · apply Program.All.ask trivial
      intro _
      split
      · trivial
      · trivial
    · intro _
      apply (sendCancel_plain request signalId).andThen
      intro _
      exact (awaitByTag_plain signalId reads).andDone
  · apply (sendCancel_plain request signalId).andThen
    intro _
    apply Program.All.andThen (Program.all_request trivial)
    intro audited
    cases audited with
    | ok => trivial
    | error =>
      exact (Program.all_request trivial).andDone

theorem dispatchCancel_plain (lite : Lite) (request : CancelRequest) (fresh : Uuid) (reads : Nat) :
    (dispatchCancel lite.deployment request fresh reads).run.All Plain := by
  apply Program.All.andThen
  · apply Program.All.attempt
    apply Program.All.andThen
    · apply Program.All.mapError
      exact consultCache_plain _ _ _ _
    · intro outcome
      cases outcome with
      | fresh => exact processPreparedCancel_plain request fresh reads
      | deduplicatedSameHash | conflictDifferentHash => trivial
  · intro processed
    cases processed with
    | ok | error => exact respond_plain _

end Tickr.LiteCaptures
