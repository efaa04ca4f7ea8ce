import Tickr.Pickup.Records
import Tickr.Script

/-!
# The Redis command bus

One script admits a request under its correlation, lets a conductor claim it
under a lease, commits its reply and removes it.  A request past its deadline is
answered with the expiry rejection.
-/

namespace Tickr.RedisRoles.CommandBus

open Pickup (Bytes)
open Script

inductive Phase where
  | pending
  | processing (owner : String) (till : Nat)
  | replied (response : Bytes) (digest : String) (cleanupAt : Nat)

structure Correlation where
  requestDigest : String
  (deadline requestBytes reservedReplyBytes streamId : Nat)
  phase : Phase

/-- A correlation, and the entries of the request stream that carry its id. -/
structure Row where
  correlation : Option Correlation := none
  entries : List Nat := []

inductive Operation where
  | admission (live : Bool) (deadline : Nat) (payload : Bytes) (digest : String) (retrying : Bool)
  | claim (streamId : Nat) (owner : String)
  | reply (streamId : Nat) (owner : String) (response : Bytes) (digest : String)
  | cleanup (delivered : Bool)

structure Call where
  now : Nat
  correlationId : String
  operation : Operation

/-- Used bytes, request, correlation and reply records, and reply reservations. -/
abbrev Quota := Int × Int × Int × Int × Int

structure State where
  rows : String → Row := fun _ => {}
  nextId : Nat := 0
  quota : Quota := 0

structure Config where
  (maxPayloadBytes maxRecords hardBytes leaseMs retentionMs : Nat)
  expiredReply : Bytes
  expiredDigest : String

inductive Status where
  | unavailable | expired | admitted | duplicate | fenced | missing | conflict | replied | busy
  | process | replayed | cleaned | active | retained
  deriving DecidableEq

abbrev Reply := Status × Option Nat

def correlationAccountedBytes : Nat := 256

/-- The reply replaces the request and its reservation. -/
def commitReply (config : Config) (now : Nat) (status : Status) (response : Bytes) (digest : String)
    (row : Row) (correlation : Correlation) : Reply × Row × Quota :=
  ((status, none), {
    correlation := some
      { correlation with phase := .replied response digest (now + config.retentionMs) }
    entries := row.entries.erase correlation.streamId },
    (response.length - correlation.requestBytes - correlation.reservedReplyBytes, -1, 0, 1, -1))

/-- The script: the status, the row that it leaves and what it adds to the
counters. -/
def transition (config : Config) (call : Call) (nextId : Nat) (row : Row) (quota : Quota) :
    Reply × Row × Quota :=
  let kept (status : Status) (detail : Option Nat := none) : Reply × Row × Quota :=
    ((status, detail), row, 0)
  let expire := commitReply config call.now .expired config.expiredReply config.expiredDigest row
  match call.operation, row.correlation with
  | .admission live deadline payload digest retrying, prior =>
    let admitted := payload.length + config.maxPayloadBytes + correlationAccountedBytes
    if live = false then kept .unavailable
    else if deadline ≤ call.now then kept .expired
    else match prior with
      | some prior =>
        if retrying ∧ prior.requestDigest = digest then kept .admitted prior.streamId
        else kept .duplicate
      | none =>
        if config.hardBytes < quota.1 + admitted ∨
            config.maxRecords < quota.2.1 + quota.2.2.1 + quota.2.2.2.1 + quota.2.2.2.2 + 3 then
          kept .fenced
        else
          ((.admitted, some nextId), {
            correlation := some
              ⟨digest, deadline, payload.length, config.maxPayloadBytes, nextId, .pending⟩
            entries := nextId :: row.entries }, (admitted, 1, 1, 0, 1))
  | .claim .., none | .reply .., none => kept .missing
  | .cleanup _, none => kept .cleaned
  | .claim streamId owner, some stored =>
    let claimed := { stored with phase := .processing owner (call.now + config.leaseMs) }
    let process : Reply × Row × Quota :=
      ((.process, none), { row with correlation := some claimed }, 0)
    if stored.streamId ≠ streamId then kept .conflict
    else match stored.phase with
      | .replied .. => ((.replied, none), { row with entries := row.entries.erase streamId }, 0)
      | .pending => if stored.deadline ≤ call.now then expire stored else process
      | .processing holder till =>
        if stored.deadline ≤ call.now then expire stored
        else if call.now < till ∧ holder ≠ owner then kept .busy
        else process
  | .reply streamId owner response digest, some stored =>
    match stored.phase with
    | .replied _ prior _ => kept (if prior = digest then .replayed else .conflict)
    | .pending => kept .conflict
    | .processing holder _ =>
      if holder ≠ owner ∨ stored.streamId ≠ streamId then kept .conflict
      else commitReply config call.now .replied response digest row stored
  | .cleanup delivered, some stored =>
    match stored.phase with
    | .pending => if stored.deadline ≤ call.now then expire stored else kept .active
    | .processing _ till =>
      if stored.deadline ≤ call.now ∧ till ≤ call.now then expire stored else kept .active
    | .replied response _ cleanupAt =>
      if delivered = false ∧ call.now < cleanupAt then kept .retained
      else ((.cleaned, none), { entries := row.entries.erase stored.streamId },
        (-response.length - correlationAccountedBytes, 0, -1, -1, 0))

def perform (config : Config) (call : Call) (state : State) : Reply × State :=
  let ran := transition config call state.nextId (state.rows call.correlationId) state.quota
  (ran.1, {
    rows := Function.update state.rows call.correlationId ran.2.1
    nextId := state.nextId + 1
    quota := state.quota + ran.2.2 })

/-- What a correlation is charged for, and the entries that it is live under. -/
def Correlation.charge (correlation : Correlation) : Quota × List Nat :=
  match correlation.phase with
  | .replied response .. => ((response.length + correlationAccountedBytes, 0, 1, 1, 0), [])
  | _ => ((correlation.requestBytes + correlation.reservedReplyBytes + correlationAccountedBytes,
      1, 1, 0, 1), [correlation.streamId])

def Row.charge (row : Row) : Quota := row.correlation.elim 0 (·.charge.1)

def Phase.reply : Phase → Option (Bytes × String)
  | .replied response digest _ => some (response, digest)
  | _ => none

def Row.reply (row : Row) : Option (Bytes × String) := row.correlation.bind (·.phase.reply)

structure Row.Lawful (config : Config) (row : Row) : Prop where
  entries : row.entries = row.correlation.elim [] (·.charge.2)
  reserved : ∀ stored, row.correlation = some stored →
    stored.reservedReplyBytes = config.maxPayloadBytes

/-- Every response is within the admitted payload size. -/
def Call.Fits (config : Config) (call : Call) : Prop :=
  match call.operation with
  | .reply _ _ response _ => response.length ≤ config.maxPayloadBytes
  | _ => config.expiredReply.length ≤ config.maxPayloadBytes

/-- A lawful row is left lawful, with the difference added to the counters; a
reply stays until the correlation is removed. -/
structure Row.Step (config : Config) (row : Row) (quota : Quota) (ran : Reply × Row × Quota) :
    Prop where
  lawful : ran.2.1.Lawful config
  balanced : ran.2.1.charge = row.charge + ran.2.2
  bounded : ran.2.2.1 ≤ 0 ∨ quota.1 + ran.2.2.1 ≤ config.hardBytes
  replied : ∀ reply, row.reply = some reply →
    ran.2.1.reply = some reply ∨ ran.2.1.correlation = none

variable {config : Config} {row : Row} {quota : Quota} {stored : Correlation}

theorem commitReply_step (lawful : row.Lawful config) (kept : row.correlation = some stored)
    (isOpen : stored.phase.reply = none) (fits : response.length ≤ config.maxPayloadBytes) :
    row.Step config quota (commitReply config now status response digest row stored) := by
  have reserved := lawful.reserved stored kept
  have entries := lawful.entries
  obtain ⟨_, _, _, _, _, phase⟩ := stored
  refine ⟨⟨?_, ?_⟩, ?_, .inl ?_, ?_⟩
  · cases phase <;> simp_all [commitReply, Correlation.charge]
  · simp_all [commitReply]
  · cases phase <;> simp_all [commitReply, Correlation.charge, Phase.reply, Row.charge] <;> omega
  · simp_all [commitReply]
    omega
  · simp_all [Row.reply]

theorem claimed_step {owner : String} {till : Nat}
    (lawful : row.Lawful config) (kept : row.correlation = some stored)
    (isOpen : stored.phase.reply = none) : row.Step config quota (reply,
      { row with correlation := some { stored with phase := .processing owner till } }, 0) := by
  have entries := lawful.entries
  refine ⟨⟨?_, by simp [lawful.reserved stored kept]⟩, ?_, .inl le_rfl, ?_⟩
  · cases isPhase : stored.phase <;> simp_all [Correlation.charge, Phase.reply]
  · cases isPhase : stored.phase <;> simp_all [Row.charge, Correlation.charge, Phase.reply]
  · simp_all [Row.reply]

theorem transition_step (call : Call) (nextId : Nat) (quota : Quota) (lawful : row.Lawful config)
    (fits : call.Fits config) :
    row.Step config quota (transition config call nextId row quota) := by
  have same (reply : Reply) : row.Step config quota (reply, row, 0) :=
    ⟨lawful, (add_zero _).symm, .inl le_rfl, fun _ h => .inl h⟩
  obtain ⟨_, _, operation⟩ := call
  have entries := lawful.entries
  cases isRow : row.correlation with
  | none =>
    cases operation <;> simp only [transition, isRow] <;> try exact same _
    split_ifs with _ _ full <;> try exact same _
    rw [not_or, not_lt] at full
    refine ⟨⟨?_, by simp⟩, ?_, .inr full.1, by simp [Row.reply, isRow]⟩
    · simp [entries, isRow, Correlation.charge]
    · simp [Row.charge, isRow, Correlation.charge]
  | some stored =>
    cases isPhase : stored.phase with
    | pending | processing =>
      have isOpen : stored.phase.reply = none := by rw [isPhase]; rfl
      cases operation <;> simp only [transition, isRow, isPhase] <;> try split_ifs
      all_goals first
        | exact same _
        | exact commitReply_step lawful isRow isOpen fits
        | exact claimed_step lawful isRow isOpen
    | replied =>
      have entry : row.entries = [] := by simp [entries, isRow, Correlation.charge, isPhase]
      cases operation <;> simp only [transition, isRow, isPhase] <;> try split_ifs
      all_goals try exact same _
      · have still id : { row with entries := row.entries.erase id } = row := by
          rw [entry, List.erase_nil, ← entry]
        rw [isRow] at still
        rw [still]
        exact same _
      · refine ⟨⟨by simp [entry], by simp⟩, ?_, .inl ?_, by simp⟩
        · simp [Row.charge, isRow, Correlation.charge, isPhase]
          rfl
        · simp only
          omega

structure Sound (config : Config) (state : State) : Prop where
  lawful : ∀ id, (state.rows id).Lawful config
  exact : Exact Row.charge state.rows state.quota
  bounded : state.quota.1 ≤ config.hardBytes

theorem Sound.perform (sound : Sound config state) (call : Call)
    (fits : call.Fits config) : Sound config (perform config call state).2 ∧
      ∀ id reply, (state.rows id).reply = some reply →
        ((perform config call state).2.rows id).reply = some reply ∨
          ((perform config call state).2.rows id).correlation = none := by
  obtain ⟨lawful, balanced, _, replied⟩ :=
    transition_step call state.nextId state.quota (sound.lawful call.correlationId) fits
  have within := sound.bounded
  refine ⟨⟨?_, sound.exact.update balanced, ?_⟩, ?_⟩
  · exact (Function.forall_update_iff _ fun _ => Row.Lawful config).mpr
      ⟨lawful, fun id _ => sound.lawful id⟩
  · simp only [CommandBus.perform, Prod.fst_add]
    omega
  · exact (Function.forall_update_iff _ fun id (row : Row) => ∀ reply,
      (state.rows id).reply = some reply → row.reply = some reply ∨ row.correlation = none).mpr
      ⟨replied, fun _ _ _ held => .inl held⟩

/-- The deadline of the correlation has not been reached. -/
def Row.timely (now : Nat) (row : Row) : Bool := row.correlation.any (now < ·.deadline)

/-- A conductor processes the request under a lease that has not expired. -/
def Row.leased (now : Nat) (row : Row) : Bool :=
  row.correlation.any fun stored => match stored.phase with
    | .processing _ till => now < till
    | _ => false

def Operation.isClaim : Operation → Bool
  | .claim .. => true
  | _ => false

/-- The expiry rejection is written as the reply. -/
abbrev Expires (config : Config) (call : Call) (state : State) : Prop :=
  (perform config call state).1.1 = .expired ∧
    ((perform config call state).2.rows call.correlationId).reply.isSome

theorem perform_answer (config : Config) (call : Call) (state : State) :
    ((perform config call state).1.1 = .process →
      (state.rows call.correlationId).timely call.now) ∧
    ((state.rows call.correlationId).leased call.now → Expires config call state →
      call.operation.isClaim ∧ ¬ (state.rows call.correlationId).timely call.now) := by
  obtain ⟨_, id, operation⟩ := call
  simp only [perform, Row.timely, Row.leased, Row.reply, Expires]
  generalize state.rows id = row
  cases isRow : row.correlation with
  | none =>
    cases operation <;> simp [transition, isRow]
    split_ifs <;> simp
  | some stored =>
    cases operation <;> cases isPhase : stored.phase <;>
      simp [transition, isRow, isPhase, commitReply, Operation.isClaim, Phase.reply] <;>
      split_ifs <;> simp_all

/-- A claim past the deadline finds no lease that has not expired. -/
abbrev Unleased (call : Call) (state : State) : Prop :=
  call.operation.isClaim → (state.rows call.correlationId).leased call.now →
    (state.rows call.correlationId).timely call.now

theorem expiry_spares_leases (config : Config) (calls : List Call)
    (meets : Meets (perform config) Unleased calls {}) :
    Meets (perform config) (fun call state => (state.rows call.correlationId).leased call.now →
      ¬ Expires config call state) calls {} := by
  refine meets.mono fun call state unleased leased expires => ?_
  have late := (perform_answer config call state).2 leased expires
  exact late.2 (unleased late.1 leased)

def sampleConfig : Config := ⟨4, 9, 999, 5, 5, [0], "expired"⟩

def sampleAdmit : Call := ⟨1, "a", .admission true 3 [1] "request" false⟩

def sampleClaim : Call := ⟨2, "a", .claim 0 "first"⟩

theorem expiry_spares_leases_sample :
    let state := run (perform sampleConfig) [sampleAdmit, sampleClaim] {}
    let call : Call := ⟨2, "a", .claim 0 "second"⟩
    (state.rows "a").leased 2 ∧ ¬ Expires sampleConfig call state :=
  ⟨by decide, (expiry_spares_leases sampleConfig [sampleAdmit, sampleClaim,
    ⟨2, "a", .claim 0 "second"⟩] (by decide)).2.2.1 (by decide)⟩

/-- The second conductor writes the expiry while the first one is at work. -/
theorem expiry_over_lease :
    let state := run (perform sampleConfig) [sampleAdmit, sampleClaim] {}
    let call : Call := ⟨3, "a", .claim 0 "second"⟩
    (state.rows "a").leased 3 ∧ Expires sampleConfig call state := by
  decide

end Tickr.RedisRoles.CommandBus
