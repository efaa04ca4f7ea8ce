import Tickr.Rust

/-!
# The capacity of a Redis formation

A profile bounds what each role may store and demands a reserve.  The server is
held against it at admission, and again in every pass of the capability monitor.
-/

namespace Tickr.RedisRoles.Capacity

open Rust

inductive CoordinationRole where
  | commandBus | taskDispatch | taskEvents | taskCancellation | compactionStaging | lifecycleWork
  | logStaging | scopeStore | ingressIdempotencyStore | livenessWatchdog | signalAppliedNotifier
  | executorFleetStatus | eventIngress
  deriving DecidableEq

def allCoordinationRoles : List CoordinationRole :=
  [.commandBus, .taskDispatch, .taskEvents, .taskCancellation, .compactionStaging, .lifecycleWork,
    .logStaging, .scopeStore, .ingressIdempotencyStore, .livenessWatchdog, .signalAppliedNotifier,
    .executorFleetStatus, .eventIngress]

def kib : Nat := 1024

def mib : Nat := 1024 * kib

/-- The total of a measurement: protocol records, pending deliveries, AOF
progress and reconstruction in MiB, and scripts in KiB. -/
def measured (records pending scripts aof restart : Nat) : Nat :=
  (records + pending + aof + restart) * mib + scripts * kib

/-- The measured total of a role, and its default capacity in MiB. -/
def calibration : CoordinationRole → Nat × Nat
  | .commandBus => (measured 10 1 128 1 1, 16)
  | .taskDispatch | .taskEvents => (measured 56 4 256 2 2, 80)
  | .ingressIdempotencyStore | .eventIngress => (measured 56 4 256 2 2, 80)
  | .taskCancellation => (measured 28 2 128 1 1, 40)
  | .compactionStaging | .logStaging | .scopeStore => (measured 256 16 256 8 8, 320)
  | .lifecycleWork | .signalAppliedNotifier => ((512 + 256 + 128 + 512 + 512) * kib, 4)
  | .livenessWatchdog => (measured 32 2 256 1 1, 48)
  | .executorFleetStatus => ((2048 + 512 + 128 + 512 + 512) * kib, 8)

def minimumBytes (role : CoordinationRole) : Nat := ((calibration role).1 + (mib - 1)) / mib * mib

/-- The default, which is the maximum too. -/
def maximumBytes (role : CoordinationRole) : Nat := (calibration role).2 * mib

inductive CapacityFailure where
  | unboundedCapacity | evictionPolicy | capacityMismatch | missingRoleLimit | duplicateRoleLimit
  | roleLimitOutsideBounds | insufficientReserve | capacityOverflow

structure RoleCapacityLimit where
  role : CoordinationRole
  memoryBytes : UInt64

structure CapacityProfile where
  (configuredCapacityBytes requiredReserveBytes : UInt64)
  roleCapacityBytes : CoordinationRole → UInt64
  roleCapacitySumBytes : UInt64

/-- Note the limit of a role that has none yet. -/
def noteLimit (seen : CoordinationRole → Option UInt64) (limit : RoleCapacityLimit) :
    Except CapacityFailure (CoordinationRole → Option UInt64) :=
  if (seen limit.role).isSome then .error .duplicateRoleLimit
  else if minimumBytes limit.role ≤ limit.memoryBytes.toNat ∧
      limit.memoryBytes.toNat ≤ maximumBytes limit.role then
    .ok (Function.update seen limit.role (some limit.memoryBytes))
  else .error .roleLimitOutsideBounds

def sumBytes (bytes : CoordinationRole → UInt64) : List CoordinationRole → UInt64 → Option UInt64
  | [], sum => some sum
  | role :: rest, sum => (checkedAdd sum (bytes role)).bind (sumBytes bytes rest)

def requiredReserve (capacity : UInt64) : UInt64 := max (8 * 1024 * 1024) (capacity / 20)

def admission (capacity : UInt64) (limits : List RoleCapacityLimit) :
    Except CapacityFailure CapacityProfile :=
  if capacity = 0 then .error .unboundedCapacity
  else match limits.foldlM noteLimit fun _ => none with
    | .error failure => .error failure
    | .ok seen =>
      if allCoordinationRoles.any fun role => (seen role).isNone then .error .missingRoleLimit
      else match sumBytes (fun role => (seen role).getD 0) allCoordinationRoles 0 with
        | none => .error .capacityOverflow
        | some sum => match checkedAdd sum (requiredReserve capacity) with
          | none => .error .capacityOverflow
          | some committed =>
            if capacity < committed then .error .insufficientReserve
            else .ok ⟨capacity, requiredReserve capacity, fun role => (seen role).getD 0, sum⟩

def defaultLimits : List RoleCapacityLimit :=
  allCoordinationRoles.map fun role => ⟨role, .ofNat (maximumBytes role)⟩

def defaultCandidate (capacity : UInt64) : Except CapacityFailure CapacityProfile :=
  admission capacity defaultLimits

variable (profile : CapacityProfile) (maxmemory : UInt64) (policy : String) (used : UInt64)

def CapacityProfile.validateServer : Except CapacityFailure Unit :=
  if maxmemory = 0 then .error .unboundedCapacity
  else if policy ≠ "noeviction" then .error .evictionPolicy
  else if maxmemory ≠ profile.configuredCapacityBytes then .error .capacityMismatch
  else match (checkedAdd used profile.roleCapacitySumBytes).bind
      (checkedAdd · profile.requiredReserveBytes) with
    | none => .error .capacityOverflow
    | some required => if maxmemory < required then .error .insufficientReserve else .ok ()

variable {profile maxmemory policy used}

theorem validateServer_eq_ok (admitted : profile.validateServer maxmemory policy used = .ok ())
    (room : later.toNat + profile.roleCapacitySumBytes.toNat + profile.requiredReserveBytes.toNat ≤
      maxmemory.toNat) : profile.validateServer maxmemory policy later = .ok () := by
  have bounded := toNat_lt_size maxmemory
  unfold CapacityProfile.validateServer at admitted ⊢
  split_ifs at admitted ⊢
  cases added : checkedAdd later profile.roleCapacitySumBytes with
  | none =>
    have overflows := checkedAdd_eq_none_iff.mp added
    omega
  | some sum =>
    have isSum := checkedAdd_eq_some_iff.mp added
    cases commits : checkedAdd sum profile.requiredReserveBytes with
    | none =>
      have overflows := checkedAdd_eq_none_iff.mp commits
      omega
    | some required =>
      have isRequired := checkedAdd_eq_some_iff.mp commits
      have fits : ¬ maxmemory < required := by
        rw [UInt64.lt_iff_toNat_lt]
        omega
      simp only [Option.bind_some, commits, if_neg fits]

theorem sumBytes_eq_some (added : sumBytes bytes roles start = some sum) :
    sum.toNat = start.toNat + (roles.map fun role => (bytes role).toNat).sum := by
  induction roles generalizing start with
  | nil =>
    cases added
    rfl
  | cons _ _ ih =>
    obtain ⟨_, isNext, rested⟩ := Option.bind_eq_some_iff.mp added
    have stepped := checkedAdd_eq_some_iff.mp isNext
    rw [ih rested, List.map_cons, List.sum_cons]
    omega

theorem sum_of_admission (took : admission capacity limits = .ok profile) :
    profile.roleCapacitySumBytes.toNat =
      (allCoordinationRoles.map fun role => (profile.roleCapacityBytes role).toNat).sum := by
  unfold admission at took
  repeat' split at took
  all_goals try cases took
  rename_i added _ _ _ _
  simpa using sumBytes_eq_some added

def sampleCapacity : UInt64 := 3000 * 1024 * 1024

end Tickr.RedisRoles.Capacity
