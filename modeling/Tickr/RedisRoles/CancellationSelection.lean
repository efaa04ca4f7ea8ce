import Tickr.RedisRoles.TaskCancellation

/-!
# The selections of the Redis task cancellations

Each selection reads one page of a hash, takes its first entry that qualifies
and loads that fence.  No entry ever leaves these hashes.
-/

namespace Tickr.RedisRoles.TaskCancellation

open Pickup (AttemptOutcome Bytes)
open Script

inductive Failure where
  | invalidOperation | accounting | staleGeneration

structure Fence where
  (acknowledgementIdentity taskKey : String)
  binding : Binding
  ownerNotified : Bool
  terminalOutcome : Option AttemptOutcome
  deriving DecidableEq

/-- The dispatch role's side of a fence, and the checks of texts. -/
structure Peer where
  (validIdentity parsesTaskKey : String → Bool)
  cancellationBinding : String → Option (String × Binding × Option AttemptOutcome)

def load (peer : Peer) (state : State) (identity : String) : Except Failure (Option Fence) :=
  let row := state.rows identity
  if !peer.validIdentity identity then .error .invalidOperation
  else match row.taskKey with
    | none => .ok none
    | some taskKey =>
      if !peer.parsesTaskKey taskKey then .error .accounting
      else match peer.cancellationBinding identity with
        | none => .error .accounting
        | some (boundKey, binding, terminal) =>
          if boundKey ≠ taskKey ∨ binding ≠ row.binding then .error .staleGeneration
          else .ok (some ⟨identity, taskKey, row.binding, row.notified, terminal.or row.terminal⟩)

/-- The page is one of the owners recorded for notification. -/
def selectOwnerNotification (peer : Peer) (state : State) (page : List String) (owner : String) :
    Except Failure (Option Fence) :=
  if !peer.validIdentity owner then .error .invalidOperation
  else (page.find? fun identity => (state.rows identity).binding.owner = owner).elim (.ok none)
    (load peer state)

/-- The page is one of the request digests. -/
def selectUnresolvedCancellation (peer : Peer) (state : State) (page : List String) :
    Except Failure (Option Fence) :=
  (page.find? fun identity => (state.rows identity).acknowledgement.isNone).elim (.ok none)
    (load peer state)

/-- The page is one of the acknowledgements. -/
def selectPendingAcknowledgement (peer : Peer) (state : State) (page : List String) :
    Except Failure (Option (Fence × Bytes)) :=
  (page.find? fun identity => !(state.rows identity).forwarded).elim (.ok none) fun identity =>
    match load peer state identity with
    | .error failure => .error failure
    | .ok none => .error .accounting
    | .ok (some fence) => .ok ((state.rows identity).acknowledgement.map (fence, ·))

namespace State

abbrev Committed (state : State) (identity : String) : Prop := (state.rows identity).taskKey.isSome

abbrev Settled (state : State) (identity : String) : Prop :=
  (state.rows identity).acknowledgement.isSome

abbrev Unsettled (state : State) (identity : String) : Prop :=
  state.Committed identity ∧ ¬state.Settled identity

abbrev BoundTo (state : State) (owner identity : String) : Prop :=
  (state.rows identity).binding.owner = owner

end State

/-- The selection answers an item exactly if there is one of the wanted kind,
and the item is of that kind. -/
def Finds {Item : Type} (answer : Except Failure (Option Item)) (key : Item → String)
    (kind : String → Prop) : Prop :=
  (∀ item, answer = .ok (some item) → kind (key item)) ∧
    ((∃ identity, kind identity) → ∃ item, answer = .ok (some item))

/-- The page names every identity of its hash. -/
def Whole (page : List String) (present : String → Prop) : Prop :=
  ∀ identity, identity ∈ page ↔ present identity

/-- The dispatch role holds the binding of every fence. -/
def Peer.Agrees (peer : Peer) (state : State) : Prop :=
  ∀ identity taskKey, (state.rows identity).taskKey = some taskKey →
    peer.validIdentity identity ∧ peer.parsesTaskKey taskKey ∧
    ∃ terminal, peer.cancellationBinding identity =
      some (taskKey, (state.rows identity).binding, terminal)

variable {peer : Peer} {state : State} {identity owner : String} {page : List String}

theorem Peer.Agrees.load (agrees : peer.Agrees state) (commits : state.Committed identity) :
    ∃ fence, load peer state identity = .ok (some fence) ∧
      fence.acknowledgementIdentity = identity := by
  obtain ⟨taskKey, held⟩ := Option.isSome_iff_exists.mp commits
  obtain ⟨valid, parses, _, bound⟩ := agrees identity taskKey held
  simp [TaskCancellation.load, valid, held, parses, bound]

theorem find_finds {Item : Type} {load : String → Except Failure (Option Item)}
    {key : Item → String} (onPage : ∀ identity, kind identity ↔ identity ∈ page ∧ wanted identity)
    (loads : ∀ identity, kind identity →
      ∃ item, load identity = .ok (some item) ∧ key item = identity) :
    Finds ((page.find? wanted).elim (.ok none) load) key kind := by
  cases found : page.find? wanted with
  | none =>
      refine ⟨by simp, ?_⟩
      rintro ⟨identity, isKind⟩
      obtain ⟨mem, qualifies⟩ := (onPage identity).mp isKind
      exact absurd qualifies (List.find?_eq_none.mp found identity mem)
  | some first =>
      have isKind := (onPage first).mpr ⟨List.mem_of_find?_eq_some found, List.find?_some found⟩
      obtain ⟨item, loaded, named⟩ := loads first isKind
      simp only [Finds, Option.elim_some, loaded]
      refine ⟨?_, fun _ => ⟨item, rfl⟩⟩
      rintro _ ⟨⟩
      rwa [named]

def samplePeer : Peer where
  validIdentity := fun identity => identity ≠ ""
  parsesTaskKey := fun _ => true
  cancellationBinding := fun identity => some (identity, { owner := "e" }, none)

def ownedCall (identity : String) (operation : Operation) : Call :=
  { sampleCall identity operation with binding := { owner := "e" } }

end Tickr.RedisRoles.TaskCancellation
