import Mathlib.Data.List.Sort
import Tickr.Script

/-!
# Admission to an all-NATS formation

A component that starts compares the installed formation identity with its own.
Where it finds none, and no message or value either, it installs its own.
-/

namespace Tickr.AllNats

open Script

def streamNames : List String :=
  ["TICKR_ALL_NATS_V2_TASK_DISPATCH", "TICKR_ALL_NATS_V2_TASK_EVENTS",
    "TICKR_ALL_NATS_V2_TASK_CANCELLATION", "TICKR_ALL_NATS_V2_TASK_CANCELLATION_ACKS",
    "TICKR_ALL_NATS_V2_COMPACTION_STAGING", "TICKR_ALL_NATS_V2_LOG_STAGING",
    "TICKR_ALL_NATS_V2_EVENT_INGRESS"]

def formationIdentityBucket : String := "TICKR_ALL_NATS_V2_FORMATION"

def defaultScopeBucket : String := "TICKR_ALL_NATS_V2_SCOPE_default"

/-- The buckets that are looked at, in the order of a `BTreeSet`. -/
def freshBuckets (scopeBucket : String) : List String :=
  let buckets := [scopeBucket, defaultScopeBucket, "TICKR_ALL_NATS_V2_INGRESS_IDEMPOTENCY",
    "TICKR_ALL_NATS_V2_LIVENESS_WATCHDOG", "TICKR_ALL_NATS_V2_TASK_PICKUP_HANDOFF",
    "TICKR_ALL_NATS_V2_EXECUTOR_FLEET_STATUS", "TICKR_ALL_NATS_V2_COMPACTION_IDENTITIES"]
  (buckets.dedup.insertionSort (· ≤ ·)).erase formationIdentityBucket

def formationIdentity (scopeBucket : String) : String :=
  "tickr.all-nats.hardened-protocol-set/v2;scope=" ++ scopeBucket

def identityIsMissing : String :=
  "fresh all-NATS state is nonempty but formation identity is missing"

def identityMismatches : String :=
  "all-NATS formation identity does not match admitted protocol set"

def identityMismatchesConcurrently : String :=
  "all-NATS formation identity was concurrently installed with a mismatch"

/-- The next request of `admit_identity`, or how it ended.  A component looks for
state that is not fresh before it has the identity bucket, and again after it. -/
inductive Stage where
  | opening
  | looking (hasBucket : Bool) (left : List String)
  | reading | creating | rereading
  | admitted
  | refused (message : String)
  | stopped
  deriving DecidableEq

/-- The server, with the number of messages or values under each name, and the
components; a component that starts again is another one. -/
structure Formation where
  hasBucket : Bool := false
  identity : Option String := none
  held : String → Nat := fun _ => 0
  stages : Nat → Stage := fun _ => .opening

inductive Op where
  | advance (component : Nat)
  | stop (component : Nat)
  | work (component : Nat) (name : String) (count : Nat)

variable (scopeBuckets : Nat → String) (fair : Prop) (formation : Formation) (component : Nat)

def Formation.goesTo (stage : Stage) : Formation :=
  { formation with stages := Function.update formation.stages component stage }

/-- The next step of `admit_identity`. -/
def Formation.admitIdentity : Formation :=
  let expected := formationIdentity (scopeBuckets component)
  let names := streamNames ++ freshBuckets (scopeBuckets component)
  match formation.stages component with
  | .opening => formation.goesTo component
      (if formation.hasBucket then .reading else .looking false names)
  | .looking hasBucket (name :: left) => formation.goesTo component
      (if 0 < formation.held name then .refused identityIsMissing else .looking hasBucket left)
  | .looking false [] => { formation with hasBucket := true }.goesTo component .reading
  | .reading => formation.goesTo component (match formation.identity with
      | some actual => if actual = expected then .admitted else .refused identityMismatches
      | none => .looking true names)
  -- the status of the identity bucket counts the identity
  | .looking true [] => formation.goesTo component
      (if formation.identity.isSome then .refused identityIsMissing else .creating)
  | .creating =>
    if formation.identity.isSome then formation.goesTo component .rereading
    else { formation with identity := some expected }.goesTo component .admitted
  | .rereading => formation.goesTo component
      (if formation.identity = some expected then .admitted
        else .refused identityMismatchesConcurrently)
  | .admitted | .refused _ | .stopped => formation

def perform (op : Op) (formation : Formation) : Unit × Formation :=
  ((), match op with
    | .advance component => formation.admitIdentity scopeBuckets component
    | .stop component => formation.goesTo component .stopped
    | .work component name count =>
      if formation.stages component = .admitted then
        { formation with held := Function.update formation.held name count }
      else formation)

/-- A component that still looks for state that is not fresh finds no identity
installed. -/
def Undisturbed : Op → Formation → Prop
  | .advance component, formation =>
    match formation.stages component with
    | .looking false [] => True
    | .looking _ _ => formation.identity = none
    | _ => True
  | _, _ => True

instance (op : Op) (formation : Formation) : Decidable (Undisturbed op formation) := by
  unfold Undisturbed
  split
  · split <;> infer_instance
  · infer_instance

/-- What the stage of a component says about the installed identity, of a
refusal only in fair runs. -/
def Stage.Fits (expected : String) (identity : Option String) : Stage → Prop
  | .admitted => identity = some expected
  | .rereading => identity ≠ none
  | .refused _ => fair → ∃ other ∈ identity, other ≠ expected
  | _ => True

structure Sound : Prop where
  fresh : formation.identity = none → ∀ name, formation.held name = 0
  owned : ∀ identity ∈ formation.identity,
    ∃ component, identity = formationIdentity (scopeBuckets component)
  fits : ∀ component, (formation.stages component).Fits fair
    (formationIdentity (scopeBuckets component)) formation.identity

variable {scopeBuckets fair formation component} (sound : Sound scopeBuckets fair formation)
include sound

theorem Sound.goesTo
    (fits : stage.Fits fair (formationIdentity (scopeBuckets component)) formation.identity) :
    Sound scopeBuckets fair (formation.goesTo component stage) := by
  refine ⟨sound.fresh, sound.owned, fun other => ?_⟩
  by_cases same : other = component
  · subst same
    simpa [Formation.goesTo] using fits
  · simpa [Formation.goesTo, same] using sound.fits other

theorem Sound.install (lacks : formation.identity = none) :
    Sound scopeBuckets fair
      { formation with identity := some (formationIdentity (scopeBuckets component)) } := by
  refine ⟨nofun, ?_, fun other => ?_⟩
  · rintro _ ⟨⟩
    exact ⟨component, rfl⟩
  have fits := sound.fits other
  cases stage : formation.stages other <;> simp_all [Stage.Fits]

theorem Sound.admitIdentity (calm : fair → Undisturbed (.advance component) formation) :
    Sound scopeBuckets fair (formation.admitIdentity scopeBuckets component) := by
  unfold Formation.admitIdentity
  split <;> rename_i stage
  all_goals
    dsimp only
    simp only [Undisturbed, stage] at calm
  · split_ifs <;> exact sound.goesTo trivial
  · split_ifs with occupied
    · refine sound.goesTo fun isFair => ?_
      exact absurd (sound.fresh (calm isFair) _) occupied.ne'
    · exact sound.goesTo trivial
  · have opened : Sound scopeBuckets fair { formation with hasBucket := true } :=
      ⟨sound.fresh, sound.owned, sound.fits⟩
    exact opened.goesTo trivial
  · split <;> rename_i identity
    · split_ifs with same
      · exact sound.goesTo (identity.trans (congrArg some same))
      · exact sound.goesTo fun _ => ⟨_, identity, same⟩
    · exact sound.goesTo trivial
  · split_ifs with installed
    · refine sound.goesTo fun isFair => ?_
      simp [calm isFair] at installed
    · exact sound.goesTo trivial
  · split_ifs with installed
    · exact sound.goesTo (Option.isSome_iff_ne_none.mp installed)
    · exact (sound.install (Option.not_isSome_iff_eq_none.mp installed)).goesTo rfl
  · split_ifs with same
    · exact sound.goesTo same
    refine sound.goesTo fun _ => ?_
    have fits := sound.fits component
    rw [stage] at fits
    obtain ⟨other, ne⟩ := Option.ne_none_iff_exists'.mp fits
    exact ⟨other, ne, fun own => same (ne.trans (congrArg some own))⟩
  all_goals exact sound

theorem Sound.perform (calm : fair → Undisturbed op formation) :
    Sound scopeBuckets fair (AllNats.perform scopeBuckets op formation).2 := by
  cases op with
  | advance => exact sound.admitIdentity calm
  | stop => exact sound.goesTo trivial
  | work component =>
    simp only [AllNats.perform]
    split_ifs with admitted
    · have fits := sound.fits component
      rw [admitted] at fits
      refine ⟨fun lacks => ?_, sound.owned, sound.fits⟩
      exact absurd (lacks.symm.trans fits) nofun
    · exact sound

omit sound

theorem sound_run {ops : List Op}
    (calm : Meets (perform scopeBuckets) (fun op formation => fair → Undisturbed op formation)
      ops {}) :
    Sound scopeBuckets fair (run (perform scopeBuckets) ops {}) :=
  run_keeps (fun _ _ calm sound => sound.perform calm) calm
    ⟨fun _ _ => rfl, by simp, fun _ => trivial⟩

theorem identity_perform (installed : formation.identity = some identity) :
    (perform scopeBuckets op formation).2.identity = some identity := by
  cases op with
  | advance =>
    simp only [perform, Formation.admitIdentity]
    split <;> simp [Formation.goesTo, installed]
  | stop => exact installed
  | work =>
    simp only [perform]
    split_ifs <;> exact installed

/-- An installed identity stays, and the components that are admitted have it.
Where no identity is installed while a component looks for state that is not
fresh, no component is refused that has the installed identity, nor any
component while all of them have one identity. -/
theorem formation_identity_agreement (scopeBuckets : Nat → String) (ops later : List Op) :
    let formation := run (perform scopeBuckets) ops {}
    (∀ identity, formation.identity = some identity →
      (run (perform scopeBuckets) later formation).identity = some identity) ∧
    (∀ component, formation.stages component = .admitted →
      formation.identity = some (formationIdentity (scopeBuckets component))) ∧
    (Meets (perform scopeBuckets) Undisturbed ops {} →
      ∀ component message, formation.stages component = .refused message →
        formation.identity ≠ some (formationIdentity (scopeBuckets component)) ∧
        ∃ other, formationIdentity (scopeBuckets other) ≠
          formationIdentity (scopeBuckets component)) := by
  refine ⟨fun identity installed => ?_, fun component isAdmitted => ?_,
    fun calm component message isRefused => ?_⟩
  · have stays : ∀ op formation, True → formation.identity = some identity →
        (perform scopeBuckets op formation).2.identity = some identity :=
      fun _ _ _ installed => identity_perform installed
    exact run_keeps stays (meets_true later _) installed
  · have sound : Sound scopeBuckets False _ :=
      sound_run ((meets_true ops _).mono fun _ _ _ => False.elim)
    have fits := sound.fits component
    rwa [isAdmitted] at fits
  · have sound : Sound scopeBuckets True _ := sound_run (calm.mono fun _ _ holds _ => holds)
    have fits := sound.fits component
    rw [isRefused] at fits
    obtain ⟨installed, isInstalled, ne⟩ := fits trivial
    obtain ⟨owner, owns⟩ := sound.owned installed isInstalled
    refine ⟨fun same => ne ?_, owner, owns ▸ ne⟩
    exact Option.some.inj (isInstalled.symm.trans same)

/-- A component alone installs its identity; one of another scope is refused. -/
theorem refusal_of_another_scope :
    let scopeBuckets := fun component =>
      if component = 0 then defaultScopeBucket else "TICKR_ALL_NATS_V2_SCOPE_other"
    let formation := run (perform scopeBuckets)
      (.replicate 36 (.advance 0) ++ .replicate 2 (.advance 1)) {}
    formation.identity ≠ some (formationIdentity (scopeBuckets 1)) :=
  ((formation_identity_agreement _ _ []).2.2 (by decide +kernel) 1 identityMismatches
    (by decide +kernel)).1

/-- Between the second component's finding no bucket and its first look, the
first is admitted and dispatches a task. -/
theorem refusal_with_installed_identity :
    let formation := run (perform fun _ => defaultScopeBucket)
      (.advance 1 :: List.replicate 36 (.advance 0) ++
        [.work 0 "TICKR_ALL_NATS_V2_TASK_DISPATCH" 1, .advance 1]) {}
    formation.identity = some (formationIdentity defaultScopeBucket) ∧
      formation.stages 1 = .refused identityIsMissing := by
  decide +kernel

end Tickr.AllNats
