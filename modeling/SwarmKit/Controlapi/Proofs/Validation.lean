import SwarmKit.Controlapi.Validation
import SwarmKit.Lib.Checked

/-
What the checks of a service spec accept (`Validation.lean`).

# Durations

`DurationFromProto` gives a duration's exact nanoseconds when the
duration is well formed and they fit an int64, and an error otherwise
(`durationFromProto_eq_ok`): its two tests after the fact, of the
quotient and of the sign, catch every wrap (`Checked.mul_div_eq_iff`,
`Checked.add_sign_eq_iff`).

# The checks

Each check passes exactly when its part of the spec is valid, a
property stated without the loop or the order of the checks: the keys
of a list are distinct (`Text.scan_nil_eq_none_iff`), every duration
fits, every count is below `2 ^ 63`. `validateServiceSpec` accepts
exactly the valid specs (`validateServiceSpec_eq_ok`).

A replica count from `2 ^ 63` on, which the `uint64` holds, is refused
by the cast to `int64` (`Mode.Valid`).

# Refusals

Every refusal has code InvalidArgument, but two kinds
(`validateServiceSpec_refusal`): that of an attachment runtime,
Unimplemented, and the error of `DurationFromProto` or of
`constraint.Parse`, which the checks return as it is, so that a client
sees a malformed duration or constraint with code Unknown.
-/

namespace SwarmKit.Controlapi.Validation

open Checked

-- ======================= durations

/-- The nanoseconds a duration stands for. -/
def Duration.total (d : Duration) : Int := d.seconds.toInt * 1000000000 + d.nanos.toInt

/-- What `validateDuration` asks of a duration: both parts in range, and
their signs agreeing. -/
structure Duration.Wellformed (d : Duration) : Prop where
  seconds_ge : -315576000000 ≤ d.seconds.toInt
  seconds_le : d.seconds.toInt ≤ 315576000000
  nanos_gt : -1000000000 < d.nanos.toInt
  nanos_lt : d.nanos.toInt < 1000000000
  neg : d.seconds.toInt < 0 → d.nanos.toInt ≤ 0
  pos : 0 < d.seconds.toInt → 0 ≤ d.nanos.toInt

theorem validateDuration_eq_ok {d : Duration} : validateDuration d = .ok () ↔ d.Wellformed := by
  have hs : (d.seconds < minSeconds ∨ d.seconds > maxSeconds) ↔
      ¬ (-315576000000 ≤ d.seconds.toInt ∧ d.seconds.toInt ≤ 315576000000) := by
    simp only [Int64.lt_iff_toInt_lt, gt_iff_lt, minSeconds, maxSeconds]
    have : (-(315576000000 : Int64)).toInt = -315576000000 := by decide
    have h2 : (315576000000 : Int64).toInt = 315576000000 := by decide
    rw [this, h2]
    omega
  have hn : (d.nanos ≤ -1000000000 ∨ d.nanos ≥ 1000000000) ↔
      ¬ (-1000000000 < d.nanos.toInt ∧ d.nanos.toInt < 1000000000) := by
    simp only [Int32.le_iff_toInt_le, ge_iff_le]
    have : (-(1000000000 : Int32)).toInt = -1000000000 := by decide
    have h2 : (1000000000 : Int32).toInt = 1000000000 := by decide
    rw [this, h2]
    omega
  have hsign : ((d.seconds < 0 ∧ d.nanos > 0) ∨ (d.seconds > 0 ∧ d.nanos < 0)) ↔
      ¬ ((d.seconds.toInt < 0 → d.nanos.toInt ≤ 0) ∧ (0 < d.seconds.toInt → 0 ≤ d.nanos.toInt)) := by
    simp only [Int64.lt_iff_toInt_lt, Int32.lt_iff_toInt_lt, gt_iff_lt, Int64.toInt_zero, Int32.toInt_zero]
    omega
  unfold validateDuration
  by_cases h1 : d.seconds < minSeconds ∨ d.seconds > maxSeconds
  · rw [if_pos h1]
    exact ⟨(nomatch ·), fun hw => absurd ⟨hw.seconds_ge, hw.seconds_le⟩ (hs.mp h1)⟩
  rw [if_neg h1]
  by_cases h2 : d.nanos ≤ -1000000000 ∨ d.nanos ≥ 1000000000
  · rw [if_pos h2]
    exact ⟨(nomatch ·), fun hw => absurd ⟨hw.nanos_gt, hw.nanos_lt⟩ (hn.mp h2)⟩
  rw [if_neg h2]
  by_cases h3 : (d.seconds < 0 ∧ d.nanos > 0) ∨ (d.seconds > 0 ∧ d.nanos < 0)
  · rw [if_pos h3]
    exact ⟨(nomatch ·), fun hw => absurd ⟨hw.neg, hw.pos⟩ (hsign.mp h3)⟩
  rw [if_neg h3]
  obtain ⟨hs1, hs2⟩ := not_not.mp (mt hs.mpr h1)
  obtain ⟨hn1, hn2⟩ := not_not.mp (mt hn.mpr h2)
  obtain ⟨hneg, hpos⟩ := not_not.mp (mt hsign.mpr h3)
  exact ⟨fun _ => ⟨hs1, hs2, hn1, hn2, hneg, hpos⟩, fun _ => rfl⟩

theorem second_toInt : second.toInt = 1000000000 := by decide

/-- `DurationFromProto` returns a duration's exact nanoseconds, and
refuses exactly the durations that are not well formed or whose
nanoseconds an int64 does not hold. -/
theorem durationFromProto_eq_ok {d : Duration} {x : Int64} :
    durationFromProto d = .ok x ↔ d.Wellformed ∧ x.toInt = d.total := by
  unfold durationFromProto
  rcases hv : validateDuration d with e | ⟨⟩
  · have : ¬ d.Wellformed := fun hw => by rw [validateDuration_eq_ok.mpr hw] at hv; cases hv
    exact ⟨(nomatch ·), fun h => absurd h.1 this⟩
  have hw : d.Wellformed := validateDuration_eq_ok.mp hv
  have := hw.neg
  have := hw.pos
  have := hw.nanos_gt
  have := hw.nanos_lt
  rw [Lts.ok_bind]
  have hmul := mul_div_eq_iff (a := d.seconds) (b := second) (by rw [second_toInt]; decide)
  rw [second_toInt] at hmul
  by_cases hin : InRange (d.seconds.toInt * 1000000000)
  swap
  · -- the seconds alone do not fit: neither does the sum, of their sign
    rw [if_pos (mt hmul.mp hin)]
    refine ⟨(nomatch ·), fun ⟨_, hx⟩ => absurd ?_ hin⟩
    obtain ⟨h1, h2⟩ := toInt_inRange x
    rw [hx, Duration.total] at h1 h2
    constructor <;> omega
  rw [if_neg (not_not.mpr (hmul.mpr hin))]
  have hd : (d.seconds * second).toInt = d.seconds.toInt * 1000000000 := by
    rw [toInt_mul_of_inRange (by rwa [second_toInt]), second_toInt]
  by_cases hn : d.nanos = 0
  · rw [if_neg (not_not.mpr hn)]
    have hn' : d.nanos.toInt = 0 := by rw [hn]; rfl
    rw [Except.ok.injEq, ← Int64.toInt_inj, hd, Duration.total, hn']
    exact ⟨fun h => ⟨hw, by omega⟩, fun h => by omega⟩
  rw [if_pos hn]
  dsimp only
  have hn' : d.nanos.toInt ≠ 0 := fun h => hn (Int32.toInt_inj.mp h)
  have hsum := add_sign_eq_iff (a := d.seconds * second) (n := d.nanos.toInt64)
    (by rw [hd, Int32.toInt_toInt64]; omega) (by rw [hd, Int32.toInt_toInt64]; omega)
  have hdec : decide (d.nanos.toInt64 < 0) = decide (d.nanos < 0) := by
    simp only [Int64.lt_iff_toInt_lt, Int32.lt_iff_toInt_lt, Int32.toInt_toInt64, Int64.toInt_zero,
      Int32.toInt_zero]
  rw [hd, Int32.toInt_toInt64, hdec] at hsum
  by_cases hin2 : InRange (d.seconds.toInt * 1000000000 + d.nanos.toInt)
  · rw [if_neg (not_not.mpr (hsum.mpr hin2))]
    have hv : (d.seconds * second + d.nanos.toInt64).toInt = d.total := by
      rw [toInt_add_of_inRange (by rwa [hd, Int32.toInt_toInt64]), hd, Int32.toInt_toInt64]
      rfl
    rw [Except.ok.injEq, ← Int64.toInt_inj, hv]
    exact ⟨fun h => ⟨hw, h.symm⟩, fun h => h.2.symm⟩
  · rw [if_pos (mt hsum.mp hin2)]
    refine ⟨(nomatch ·), fun ⟨_, hx⟩ => absurd ?_ hin2⟩
    have := toInt_inRange x
    rwa [hx] at this

/-- A duration `DurationFromProto` takes: well formed, with nanoseconds an
int64 holds. -/
def Duration.Fits (d : Duration) : Prop := d.Wellformed ∧ InRange d.total

/-- What `DurationFromProto` does with a duration: its exact nanoseconds
when it fits, an error when it does not. -/
theorem durationFromProto_cases (d : Duration) :
    (d.Fits ∧ ∃ x, durationFromProto d = .ok x ∧ x.toInt = d.total) ∨
      (¬ d.Fits ∧ ∃ e, durationFromProto d = .error e) := by
  rcases h : durationFromProto d with e | x
  · refine .inr ⟨fun ⟨hw, hr⟩ => ?_, e, rfl⟩
    have hx := durationFromProto_eq_ok.mpr ⟨hw, Int64.toInt_ofInt_of_le hr.1 hr.2⟩
    rw [h] at hx
    cases hx
  · obtain ⟨hw, hx⟩ := durationFromProto_eq_ok.mp h
    exact .inl ⟨⟨hw, hx ▸ toInt_inRange x⟩, x, rfl, hx⟩

/-- A duration a restart policy or an update config may hold. -/
def NonNegativeDuration (d : Option Duration) : Prop := ∀ p ∈ d, p.Fits ∧ 0 ≤ p.total

/-- A duration a health config may hold. -/
def HealthDuration (d : Option Duration) : Prop := ∀ p ∈ d, p.Fits ∧ (p.total = 0 ∨ 1000000 ≤ p.total)

theorem nonNegative_eq_ok {d : Option Duration} {msg : String} :
    nonNegative d msg = .ok () ↔ NonNegativeDuration d := by
  cases d with
  | none => simp [nonNegative, NonNegativeDuration]
  | some p =>
    simp only [nonNegative, NonNegativeDuration, Option.mem_def, Option.some.injEq, forall_eq']
    rcases durationFromProto_cases p with ⟨hf, x, hx, hv⟩ | ⟨hf, e, he⟩
    · rw [hx]
      dsimp only
      by_cases hneg : x < 0
      · rw [if_pos hneg]
        rw [Int64.lt_iff_toInt_lt, hv, Int64.toInt_zero] at hneg
        exact ⟨(nomatch ·), fun h => absurd h.2 (by omega)⟩
      · rw [if_neg hneg]
        rw [Int64.lt_iff_toInt_lt, hv, Int64.toInt_zero] at hneg
        exact ⟨fun _ => ⟨hf, by omega⟩, fun _ => rfl⟩
    · rw [he]
      dsimp only
      exact ⟨(nomatch ·), fun h => absurd h.1 hf⟩

theorem minimumDuration_toInt : minimumDuration.toInt = 1000000 := by decide

theorem zeroOrAtLeastMinimum_eq_ok {d : Option Duration} {field : String} :
    zeroOrAtLeastMinimum d field = .ok () ↔ HealthDuration d := by
  cases d with
  | none => simp [zeroOrAtLeastMinimum, HealthDuration]
  | some p =>
    simp only [zeroOrAtLeastMinimum, HealthDuration, Option.mem_def, Option.some.injEq, forall_eq']
    rcases durationFromProto_cases p with ⟨hf, x, hx, hv⟩ | ⟨hf, e, he⟩
    · rw [hx]
      dsimp only
      have hiff : (x ≠ 0 ∧ x < minimumDuration) ↔ ¬ (p.total = 0 ∨ 1000000 ≤ p.total) := by
        rw [Int64.lt_iff_toInt_lt, minimumDuration_toInt, ne_eq, ← Int64.toInt_inj, hv, Int64.toInt_zero]
        omega
      by_cases hshort : x ≠ 0 ∧ x < minimumDuration
      · rw [if_pos hshort]
        exact ⟨(nomatch ·), fun h => absurd h.2 (hiff.mp hshort)⟩
      · rw [if_neg hshort]
        exact ⟨fun _ => ⟨hf, not_not.mp (mt hiff.mpr hshort)⟩, fun _ => rfl⟩
    · rw [he]
      dsimp only
      exact ⟨(nomatch ·), fun h => absurd h.1 hf⟩

-- ======================= resources

/-- What `validateResources` asks of resources: CPUs and memory each zero
or at least its minimum. Nothing is asked of the generic resources. -/
def Resources.Valid (r : Resources) : Prop :=
  (r.nanoCPUs.toInt = 0 ∨ 1000000 ≤ r.nanoCPUs.toInt) ∧
    (r.memoryBytes.toInt = 0 ∨ 4194304 ≤ r.memoryBytes.toInt)

theorem validateResources_eq_ok {env : Env} {r : Option Resources} :
    validateResources env r = .ok () ↔ ∀ x ∈ r, x.Valid := by
  cases r with
  | none => simp [validateResources]
  | some r =>
    simp only [validateResources, Option.mem_def, Option.some.injEq, forall_eq', Resources.Valid]
    have hcpu : (r.nanoCPUs ≠ 0 ∧ r.nanoCPUs < 1000000) ↔
        ¬ (r.nanoCPUs.toInt = 0 ∨ 1000000 ≤ r.nanoCPUs.toInt) := by
      have : (1000000 : Int64).toInt = 1000000 := by decide
      rw [Int64.lt_iff_toInt_lt, this, ne_eq, ← Int64.toInt_inj, Int64.toInt_zero]
      omega
    have hmem : (r.memoryBytes ≠ 0 ∧ r.memoryBytes < 4 * 1024 * 1024) ↔
        ¬ (r.memoryBytes.toInt = 0 ∨ 4194304 ≤ r.memoryBytes.toInt) := by
      have : (4 * 1024 * 1024 : Int64).toInt = 4194304 := by decide
      rw [Int64.lt_iff_toInt_lt, this, ne_eq, ← Int64.toInt_inj, Int64.toInt_zero]
      omega
    by_cases h1 : r.nanoCPUs ≠ 0 ∧ r.nanoCPUs < 1000000
    · rw [if_pos h1]
      exact ⟨(nomatch ·), fun h => absurd h.1 (hcpu.mp h1)⟩
    rw [if_neg h1]
    by_cases h2 : r.memoryBytes ≠ 0 ∧ r.memoryBytes < 4 * 1024 * 1024
    · rw [if_pos h2]
      exact ⟨(nomatch ·), fun h => absurd h.2 (hmem.mp h2)⟩
    rw [if_neg h2]
    -- both branches of the generic resources' check pass
    have hok : (if (!Api.GenericResource.validateTask r.generic) = true then Except.ok ()
        else (Except.ok () : Except Status Unit)) = .ok () := by split <;> rfl
    rw [hok]
    exact ⟨fun _ => ⟨not_not.mp (mt hcpu.mpr h1), not_not.mp (mt hmem.mpr h2)⟩, fun _ => rfl⟩

theorem validateResourceRequirements_eq_ok {env : Env} {r : Option ResourceRequirements} :
    validateResourceRequirements env r = .ok () ↔
      ∀ x ∈ r, (∀ l ∈ x.limits, l.Valid) ∧ ∀ l ∈ x.reservations, l.Valid := by
  cases r with
  | none => simp [validateResourceRequirements]
  | some r =>
    simp only [validateResourceRequirements, Lts.seq_eq_ok, validateResources_eq_ok, Option.mem_def,
      Option.some.injEq, forall_eq']

theorem validateRestartPolicy_eq_ok {rp : Option RestartPolicy} :
    validateRestartPolicy rp = .ok () ↔
      ∀ x ∈ rp, NonNegativeDuration x.delay ∧ NonNegativeDuration x.window := by
  cases rp with
  | none => simp [validateRestartPolicy]
  | some rp =>
    simp only [validateRestartPolicy, Lts.seq_eq_ok, nonNegative_eq_ok, Option.mem_def,
      Option.some.injEq, forall_eq']

theorem validatePlacement_eq_ok {p : Option Placement} :
    validatePlacement p = .ok () ↔ ∀ x ∈ p, ∃ cs, SwarmKit.Placement.parse x.constraints = .ok cs := by
  cases p with
  | none => simp [validatePlacement]
  | some p =>
    simp only [validatePlacement, Option.mem_def, Option.some.injEq, forall_eq']
    cases SwarmKit.Placement.parse p.constraints with
    | error e => exact ⟨(nomatch ·), fun ⟨_, h⟩ => nomatch h⟩
    | ok cs => exact ⟨fun _ => ⟨cs, rfl⟩, fun _ => rfl⟩

-- ====================== references

/-- The name of a reference's file target. -/
def Reference.fileName (r : Reference) : Option String :=
  match r.target with
  | some (.file name) => some name
  | _ => none

/-- What the loop asks of each reference: an ID, a name, and a target,
which when a file has a name. -/
def Reference.Wellformed (r : Reference) : Prop :=
  r.id ≠ "" ∧ r.name ≠ "" ∧ r.target.isSome ∧ r.target ≠ some (.file "")

/-- What the loop over references asks: each well formed, and no two file
targets of one name. -/
structure RefsValid (refs : List Reference) : Prop where
  wellformed : ∀ r ∈ refs, r.Wellformed
  distinct : (refs.filterMap Reference.fileName).Nodup

theorem refCheck_eq_none {kind : String} {r : Reference} : refCheck kind r = none ↔ r.Wellformed := by
  unfold refCheck Reference.Wellformed
  by_cases hid : r.id = "" ∨ r.name = ""
  · rw [if_pos hid]
    simp only [reduceCtorEq, false_iff]
    tauto
  rw [if_neg hid]
  rw [not_or] at hid
  rcases ht : r.target with _ | ⟨name⟩ | _
  · simp
  · by_cases hn : name = ""
    · subst hn
      simp
    · simp [hid, hn]
  · simp [hid]

theorem keys_refKey (refs : List Reference) :
    Text.keys refKey refs = refs.filterMap Reference.fileName := by
  rw [Text.keys, List.map_filterMap]
  congr 1
  funext r
  unfold refKey Reference.fileName
  rcases r.target with _ | _ | _ <;> rfl

theorem checkRefs_eq_none {kind : String} {refs : List Reference} :
    checkRefs kind refs = none ↔ RefsValid refs := by
  rw [checkRefs, Text.scan_nil_eq_none_iff, keys_refKey]
  simp only [refCheck_eq_none]
  exact ⟨fun ⟨h1, h2⟩ => ⟨h1, h2⟩, fun ⟨h1, h2⟩ => ⟨h1, h2⟩⟩

theorem refuse_eq_ok {o : Option Status} : refuse o = .ok () ↔ o = none := by
  cases o <;> simp [refuse]

/-- A credential spec names no config, or one of the references with a
runtime target. -/
def ContainerSpec.CredSpecFound (c : ContainerSpec) : Prop :=
  c.credSpecConfig = "" ∨ ∃ r ∈ c.configs, r.target = some .runtime ∧ r.id = c.credSpecConfig

theorem validateSecretRefsSpec_eq_ok {ts : TaskSpec} :
    validateSecretRefsSpec ts = .ok () ↔ ∀ c, ts.runtime = some (.container c) → RefsValid c.secrets := by
  unfold validateSecretRefsSpec
  split
  · next c h => simp [h, refuse_eq_ok, checkRefs_eq_none]
  · next h => simp only [true_iff]; intro c hc; exact absurd hc (h c)

theorem credSpecConfigFound_iff {c : ContainerSpec} :
    (c.configs.any fun r => r.target == some .runtime && r.id == c.credSpecConfig) = true ↔
      ∃ r ∈ c.configs, r.target = some .runtime ∧ r.id = c.credSpecConfig := by
  simp

theorem validateConfigRefsSpec_eq_ok {ts : TaskSpec} :
    validateConfigRefsSpec ts = .ok () ↔
      ∀ c, ts.runtime = some (.container c) → RefsValid c.configs ∧ c.CredSpecFound := by
  unfold validateConfigRefsSpec
  split
  · next c h =>
    simp only [h, Option.some.injEq, RuntimeSpec.container.injEq, forall_eq']
    rcases hc : checkRefs "config" c.configs with _ | e
    · dsimp only
      have hv := checkRefs_eq_none.mp hc
      rw [ContainerSpec.CredSpecFound, ← credSpecConfigFound_iff]
      by_cases hf : c.credSpecConfig ≠ "" ∧
          (!c.configs.any fun r => r.target == some .runtime && r.id == c.credSpecConfig) = true
      · rw [if_pos hf]
        simp only [Bool.not_eq_eq_eq_not] at hf
        simp [hf.1, hf.2]
      · rw [if_neg hf]
        simp only [not_and, Bool.not_eq_eq_eq_not] at hf
        refine ⟨fun _ => ⟨hv, ?_⟩, fun _ => rfl⟩
        by_cases h0 : c.credSpecConfig = ""
        · exact .inl h0
        · exact .inr (by simpa using hf h0)
    · dsimp only
      have hv : ¬ RefsValid c.configs := fun h => by rw [checkRefs_eq_none.mpr h] at hc; cases hc
      exact ⟨(nomatch ·), fun h => absurd h.1 hv⟩
  · next h => simp only [true_iff]; intro c hc; exact absurd hc (h c)

-- ====================== containers

theorem validateMounts_eq_ok {mounts : List Mount} :
    validateMounts mounts = .ok () ↔ (mounts.map (·.target)).Nodup := by
  rw [validateMounts, refuse_eq_ok, Text.scan_nil_eq_none_iff]
  have hkeys : Text.keys (fun m : Mount => some (m.target, ())) mounts = mounts.map (·.target) := by
    simp [Text.keys]
  simp [hkeys]

/-- What `validateHealthCheck` asks of a health config. -/
structure HealthConfig.Valid (hc : HealthConfig) : Prop where
  interval : HealthDuration hc.interval
  timeout : HealthDuration hc.timeout
  startPeriod : HealthDuration hc.startPeriod
  retries : 0 ≤ hc.retries.toInt

theorem validateHealthCheck_eq_ok {hc : Option HealthConfig} :
    validateHealthCheck hc = .ok () ↔ ∀ x ∈ hc, x.Valid := by
  cases hc with
  | none => simp [validateHealthCheck]
  | some hc =>
    simp only [validateHealthCheck, Lts.seq_eq_ok, zeroOrAtLeastMinimum_eq_ok, Option.mem_def,
      Option.some.injEq, forall_eq']
    have hr : (if hc.retries < 0 then
        Except.error (⟨.invalidArgument, "ContainerSpec: Retries in HealthConfig cannot be negative"⟩ : Status)
        else Except.ok ()) = .ok () ↔ 0 ≤ hc.retries.toInt := by
      by_cases hneg : hc.retries < 0
      · rw [if_pos hneg]
        rw [Int32.lt_iff_toInt_lt, Int32.toInt_zero] at hneg
        exact ⟨(nomatch ·), fun h => by omega⟩
      · rw [if_neg hneg]
        rw [Int32.lt_iff_toInt_lt, Int32.toInt_zero] at hneg
        exact ⟨fun _ => by omega, fun _ => rfl⟩
    rw [hr]
    exact ⟨fun ⟨h1, h2, h3, h4⟩ => ⟨h1, h2, h3, h4⟩, fun ⟨h1, h2, h3, h4⟩ => ⟨h1, h2, h3, h4⟩⟩

theorem validateImage_eq_ok {env : Env} {image : String} :
    validateImage env image = .ok () ↔ image ≠ "" ∧ env.parseNormalizedNamed image = true := by
  unfold validateImage
  by_cases h0 : image = ""
  · simp [h0]
  · cases env.parseNormalizedNamed image <;> simp [h0]

/-- What `validateContainerSpec` asks of the container spec once its
templates are expanded. -/
structure ContainerSpec.Checked (env : Env) (c : ContainerSpec) : Prop where
  image : c.image ≠ "" ∧ env.parseNormalizedNamed c.image = true
  mounts : (c.mounts.map (·.target)).Nodup
  health : ∀ hc ∈ c.healthcheck, hc.Valid

theorem validateContainerSpec_eq_ok {env : Env} {c : ContainerSpec} :
    validateContainerSpec env c = .ok () ↔ ∃ c', env.expand c = .ok c' ∧ c'.Checked env := by
  unfold validateContainerSpec
  cases env.expand c with
  | error e => exact ⟨(nomatch ·), fun ⟨_, h, _⟩ => nomatch h⟩
  | ok c' =>
    simp only [Lts.seq_eq_ok, validateImage_eq_ok, validateMounts_eq_ok, validateHealthCheck_eq_ok,
      Except.ok.injEq, exists_eq_left']
    exact ⟨fun ⟨h1, h2, h3⟩ => ⟨h1, h2, h3⟩, fun ⟨h1, h2, h3⟩ => ⟨h1, h2, h3⟩⟩

/-- What `validateGenericRuntimeSpec` asks of a generic runtime. -/
structure GenericRuntimeSpec.Valid (g : GenericRuntimeSpec) : Prop where
  kind : 3 ≤ g.kind.utf8ByteSize
  not_reserved : toLower g.kind ∉ reservedNames
  payload : ∃ p, g.payload = some p ∧ p.typeUrl ≠ "" ∧ p.value ≠ []

theorem validateGenericRuntimeSpec_eq_ok {env : Env} {g : GenericRuntimeSpec} :
    validateGenericRuntimeSpec env g = .ok () ↔ g.Valid := by
  unfold validateGenericRuntimeSpec
  by_cases hk : g.kind.utf8ByteSize < 3
  · rw [if_pos hk]
    exact ⟨(nomatch ·), fun h => absurd h.kind (by omega)⟩
  rw [if_neg hk]
  have hres : (reservedNames.any fun n => toLower g.kind == n) = true ↔ toLower g.kind ∈ reservedNames := by
    simp
  by_cases hr : (reservedNames.any fun n => toLower g.kind == n) = true
  · rw [if_pos hr]
    exact ⟨(nomatch ·), fun h => absurd (hres.mp hr) h.not_reserved⟩
  rw [if_neg hr]
  have hvalid : ∀ p, g.payload = some p → p.typeUrl ≠ "" → p.value ≠ [] → g.Valid :=
    fun p hp ht hv => ⟨by omega, mt hres.mpr hr, p, hp, ht, hv⟩
  rcases hp : g.payload with _ | p
  · exact ⟨(nomatch ·), fun h => by obtain ⟨p, hp', -⟩ := h.payload; rw [hp] at hp'; cases hp'⟩
  dsimp only
  by_cases ht : p.typeUrl = ""
  · rw [if_pos ht]
    refine ⟨(nomatch ·), fun h => ?_⟩
    obtain ⟨p', hp', ht', -⟩ := h.payload
    rw [hp, Option.some.injEq] at hp'
    exact (ht' (hp' ▸ ht)).elim
  rw [if_neg ht]
  by_cases hv : p.value = []
  · rw [if_pos hv]
    refine ⟨(nomatch ·), fun h => ?_⟩
    obtain ⟨p', hp', -, hv'⟩ := h.payload
    rw [hp, Option.some.injEq] at hp'
    exact (hv' (hp' ▸ hv)).elim
  rw [if_neg hv]
  exact ⟨fun _ => hvalid p hp ht hv, fun _ => rfl⟩

-- ====================== task specs

/-- What `validateTaskSpec` asks of a runtime: a container spec with
valid secret and config references that passes its checks, or a valid
generic runtime. -/
def RuntimeSpec.Valid (env : Env) : RuntimeSpec → Prop
  | .container c =>
    RefsValid c.secrets ∧ (RefsValid c.configs ∧ c.CredSpecFound) ∧ ∃ c', env.expand c = .ok c' ∧ c'.Checked env
  | .generic g => g.Valid
  | .attachment => False

/-- What `validateTaskSpec` asks of a task spec. -/
structure TaskSpec.Valid (env : Env) (ts : TaskSpec) : Prop where
  resources : ∀ r ∈ ts.resources, (∀ l ∈ r.limits, l.Valid) ∧ ∀ l ∈ r.reservations, l.Valid
  restart : ∀ rp ∈ ts.restart, NonNegativeDuration rp.delay ∧ NonNegativeDuration rp.window
  placement : ∀ p ∈ ts.placement, ∃ cs, SwarmKit.Placement.parse p.constraints = .ok cs
  runtime : ∃ rt, ts.runtime = some rt ∧ rt.Valid env

theorem validateRuntime_eq_ok {env : Env} {ts : TaskSpec} :
    (validateSecretRefsSpec ts = .ok () ∧ validateConfigRefsSpec ts = .ok () ∧
      validateRuntime env ts.runtime = .ok ()) ↔ ∃ rt, ts.runtime = some rt ∧ rt.Valid env := by
  rw [validateSecretRefsSpec_eq_ok, validateConfigRefsSpec_eq_ok]
  rcases ts.runtime with _ | _ | c | g
  · simp [validateRuntime]
  · simp [validateRuntime, RuntimeSpec.Valid]
  · simp [validateRuntime, RuntimeSpec.Valid, validateContainerSpec_eq_ok]
  · simp [validateRuntime, RuntimeSpec.Valid, validateGenericRuntimeSpec_eq_ok]

theorem validateTaskSpec_eq_ok {env : Env} {ts : TaskSpec} :
    validateTaskSpec env ts = .ok () ↔ ts.Valid env := by
  unfold validateTaskSpec
  simp only [Lts.seq_eq_ok, validateResourceRequirements_eq_ok, validateRestartPolicy_eq_ok,
    validatePlacement_eq_ok]
  rw [validateRuntime_eq_ok]
  exact ⟨fun ⟨h1, h2, h3, h4⟩ => ⟨h1, h2, h3, h4⟩, fun ⟨h1, h2, h3, h4⟩ => ⟨h1, h2, h3, h4⟩⟩

-- ============ the rest of the spec

theorem validateAnnotations_eq_ok {m : Annotations} :
    validateAnnotations m = .ok () ↔
      m.name ≠ "" ∧ isValidDNSName m.name = true ∧ m.name.utf8ByteSize ≤ 63 := by
  unfold validateAnnotations
  by_cases h0 : m.name = ""
  · simp [h0]
  rw [if_neg h0]
  by_cases hd : isValidDNSName m.name = true
  · rw [if_neg (by simp [hd])]
    by_cases hl : m.name.utf8ByteSize > 63
    · rw [if_pos hl]
      exact ⟨(nomatch ·), fun h => absurd h.2.2 (by omega)⟩
    · rw [if_neg hl]
      exact ⟨fun _ => ⟨h0, hd, by omega⟩, fun _ => rfl⟩
  · rw [if_pos (by simp [hd])]
    exact ⟨(nomatch ·), fun h => absurd h.2.1 hd⟩

/-- What `validateMode` asks of a mode: its counts below `2 ^ 63`. -/
def Mode.Valid : Mode → Prop
  | .replicated replicas => replicas.toNat < 2 ^ 63
  | .replicatedJob maxConcurrent totalCompletions => maxConcurrent.toNat < 2 ^ 63 ∧ totalCompletions.toNat < 2 ^ 63
  | .global | .globalJob => True

theorem validateMode_eq_ok {s : ServiceSpec} : validateMode s = .ok () ↔ ∃ m, s.mode = some m ∧ m.Valid := by
  unfold validateMode
  rcases s.mode with _ | replicas | _ | ⟨maxConcurrent, totalCompletions⟩ | _
  · simp
  · simp only [toInt64_neg_iff, Option.some.injEq, exists_eq_left', Mode.Valid]
    split
    · exact ⟨(nomatch ·), fun h => by omega⟩
    · exact ⟨fun _ => by omega, fun _ => rfl⟩
  · simp [Mode.Valid]
  · simp only [toInt64_neg_iff, Option.some.injEq, exists_eq_left', Mode.Valid]
    split
    · exact ⟨(nomatch ·), fun h => by omega⟩
    split
    · exact ⟨(nomatch ·), fun h => by omega⟩
    · exact ⟨fun _ => by omega, fun _ => rfl⟩
  · simp [Mode.Valid]

/-- A failure ratio the update check takes: NaN, or a finite value from 0
to 1. -/
def Float32Value.NotOutside : Float32Value → Prop
  | .nan => True
  | .finite x => 0 ≤ x ∧ x ≤ 1
  | .negInf | .posInf => False

theorem ratio_ok_iff (v : Float32Value) : (v.lt 0 || v.gt 1) = false ↔ v.NotOutside := by
  cases v with
  | nan => simp [Float32Value.lt, Float32Value.gt, Float32Value.NotOutside]
  | negInf => simp [Float32Value.lt, Float32Value.gt, Float32Value.NotOutside]
  | posInf => simp [Float32Value.lt, Float32Value.gt, Float32Value.NotOutside]
  | finite x => simp [Float32Value.lt, Float32Value.gt, Float32Value.NotOutside, Rat.not_lt]

/-- What `validateUpdate` asks of an update config. -/
structure UpdateConfig.Valid (uc : UpdateConfig) : Prop where
  delay : 0 ≤ uc.delay.toInt
  monitor : NonNegativeDuration uc.monitor
  ratio : uc.maxFailureRatio.NotOutside

theorem validateUpdate_eq_ok {uc : Option UpdateConfig} : validateUpdate uc = .ok () ↔ ∀ x ∈ uc, x.Valid := by
  cases uc with
  | none => simp [validateUpdate]
  | some uc =>
    simp only [validateUpdate, Option.mem_def, Option.some.injEq, forall_eq']
    by_cases hd : uc.delay < 0
    · rw [if_pos hd]
      rw [Int64.lt_iff_toInt_lt, Int64.toInt_zero] at hd
      exact ⟨(nomatch ·), fun h => absurd h.delay (by omega)⟩
    rw [if_neg hd]
    rw [Int64.lt_iff_toInt_lt, Int64.toInt_zero] at hd
    rw [Lts.seq_eq_ok, nonNegative_eq_ok]
    have hratio := ratio_ok_iff uc.maxFailureRatio
    by_cases hr : (uc.maxFailureRatio.lt 0 || uc.maxFailureRatio.gt 1) = true
    · rw [if_pos hr]
      refine ⟨fun ⟨_, h⟩ => (nomatch h), fun h => ?_⟩
      have := hratio.mpr h.ratio
      rw [hr] at this
      cases this
    · rw [if_neg hr]
      exact ⟨fun ⟨hm, _⟩ => ⟨by omega, hm, hratio.mp (by simpa using hr)⟩, fun h => ⟨h.monitor, rfl⟩⟩

/-- What `validateEndpointSpec` asks of an endpoint spec: under DNS round
robin no port is published in ingress mode, and no two ports publish
one number with one protocol (port 0 publishes none). -/
structure EndpointSpec.Valid (ep : EndpointSpec) : Prop where
  dnsrr : ep.mode = .dnsrr → ∀ p ∈ ep.ports, p.publishMode = .host
  distinct : ((ep.ports.filter (·.publishedPort ≠ 0)).map PortConfig.key).Nodup

theorem portCheck_eq_none {mode : ResolutionMode} {p : PortConfig} :
    portCheck mode p = none ↔ (mode = .dnsrr → p.publishMode = .host) := by
  unfold portCheck
  cases mode <;> cases hp : p.publishMode <;> simp

theorem keys_portKey (ports : List PortConfig) :
    Text.keys portKey ports = (ports.filter (·.publishedPort ≠ 0)).map PortConfig.key := by
  induction ports with
  | nil => rfl
  | cons p ports ih =>
    by_cases h0 : p.publishedPort = 0
    · rw [Text.keys_cons_of_none (by simp [portKey, h0]), ih, List.filter_cons_of_neg (by simp [h0])]
    · have hk : portKey p = some (p.key, ()) := by simp [portKey, h0]
      rw [Text.keys_cons_of_some hk, ih, List.filter_cons_of_pos (by simp [h0]), List.map_cons]

theorem validateEndpointSpec_eq_ok {ep : Option EndpointSpec} :
    validateEndpointSpec ep = .ok () ↔ ∀ x ∈ ep, x.Valid := by
  cases ep with
  | none => simp [validateEndpointSpec]
  | some ep =>
    simp only [validateEndpointSpec, refuse_eq_ok, Text.scan_nil_eq_none_iff, keys_portKey,
      portCheck_eq_none, Option.mem_def, Option.some.injEq, forall_eq']
    constructor
    · rintro ⟨hmode, hkeys⟩
      exact ⟨fun hd p hp => hmode p hp hd, hkeys⟩
    · intro h
      exact ⟨fun p hp hd => h.dnsrr hd p hp, h.distinct⟩

theorem validateJob_eq_ok {spec : ServiceSpec} : validateJob spec = .ok () ↔ spec.update = none := by
  unfold validateJob
  cases spec.update <;> simp

-- ================== the whole spec

/-- What `validateServiceSpec` asks of a service spec. -/
structure ServiceSpec.Valid (env : Env) (spec : ServiceSpec) : Prop where
  name : spec.annotations.name ≠ "" ∧ isValidDNSName spec.annotations.name = true ∧
    spec.annotations.name.utf8ByteSize ≤ 63
  task : spec.task.Valid env
  mode : ∃ m, spec.mode = some m ∧ m.Valid
  job : isJobSpec spec = true → spec.update = none
  update : isJobSpec spec = false → ∀ uc ∈ spec.update, uc.Valid
  endpoint : ∀ ep ∈ spec.endpoint, ep.Valid

/-- `validateServiceSpec` accepts exactly the valid specs. -/
theorem validateServiceSpec_eq_ok {env : Env} {spec : ServiceSpec} :
    validateServiceSpec env (some spec) = .ok () ↔ spec.Valid env := by
  simp only [validateServiceSpec, Lts.seq_eq_ok, validateAnnotations_eq_ok, validateTaskSpec_eq_ok,
    validateMode_eq_ok]
  -- the endpoint check follows either branch of the job test
  cases hj : isJobSpec spec
  · simp only [Bool.false_eq_true, if_false, Lts.seq_eq_ok, validateUpdate_eq_ok, validateEndpointSpec_eq_ok]
    refine ⟨fun ⟨h1, h2, h3, h4, h5⟩ => ⟨h1, h2, h3, fun h => ?_, fun _ => h4, h5⟩,
      fun h => ⟨h.name, h.task, h.mode, h.update hj, h.endpoint⟩⟩
    rw [hj] at h
    cases h
  · simp only [if_true, Lts.seq_eq_ok, validateJob_eq_ok, validateEndpointSpec_eq_ok]
    refine ⟨fun ⟨h1, h2, h3, h4, h5⟩ => ⟨h1, h2, h3, fun _ => h4, fun h => ?_, h5⟩,
      fun h => ⟨h.name, h.task, h.mode, h.job hj, h.endpoint⟩⟩
    rw [hj] at h
    cases h

-- ======================== refusals

/-- The refusals of the checks: a status with code InvalidArgument; the
refusal of an attachment runtime, with code Unimplemented; or a plain
error of `DurationFromProto` or of `constraint.Parse`, which reaches the
client with code Unknown. -/
inductive Refusal : Status → Prop
  | invalidArgument (message : String) : Refusal ⟨.invalidArgument, message⟩
  | unimplemented : Refusal ⟨.unimplemented, "RuntimeSpec: unimplemented runtime in service spec"⟩
  | duration {d : Duration} {text : String} : durationFromProto d = .error text → Refusal (plain text)
  | placement {constraints : List String} {text : String} :
      SwarmKit.Placement.parse constraints = .error text → Refusal (plain text)

theorem nonNegative_refusal {d : Option Duration} {msg : String} {e : Status}
    (h : nonNegative d msg = .error e) : Refusal e := by
  unfold nonNegative at h
  rcases d with _ | p
  · cases h
  dsimp only at h
  rcases hp : durationFromProto p with text | x
  · rw [hp] at h
    cases h
    exact .duration hp
  · rw [hp] at h
    dsimp only at h
    split at h
    · cases h
      exact .invalidArgument _
    · cases h

theorem zeroOrAtLeastMinimum_refusal {d : Option Duration} {field : String} {e : Status}
    (h : zeroOrAtLeastMinimum d field = .error e) : Refusal e := by
  unfold zeroOrAtLeastMinimum at h
  rcases d with _ | p
  · cases h
  dsimp only at h
  rcases hp : durationFromProto p with text | x
  · rw [hp] at h
    cases h
    exact .duration hp
  · rw [hp] at h
    dsimp only at h
    split at h
    · cases h
      exact .invalidArgument _
    · cases h

theorem validateResources_refusal {env : Env} {r : Option Resources} {e : Status}
    (h : validateResources env r = .error e) : Refusal e := by
  unfold validateResources at h
  repeat' split at h
  all_goals first | (cases h; done) | (cases h; exact .invalidArgument _)

theorem validateResourceRequirements_refusal {env : Env} {r : Option ResourceRequirements} {e : Status}
    (h : validateResourceRequirements env r = .error e) : Refusal e := by
  rcases r with _ | r
  · cases h
  rcases Lts.seq_eq_error h with h | h <;> exact validateResources_refusal h

theorem validateRestartPolicy_refusal {rp : Option RestartPolicy} {e : Status}
    (h : validateRestartPolicy rp = .error e) : Refusal e := by
  rcases rp with _ | rp
  · cases h
  rcases Lts.seq_eq_error h with h | h <;> exact nonNegative_refusal h

theorem validatePlacement_refusal {p : Option Placement} {e : Status}
    (h : validatePlacement p = .error e) : Refusal e := by
  rcases p with _ | p
  · cases h
  unfold validatePlacement at h
  dsimp only at h
  rcases hp : SwarmKit.Placement.parse p.constraints with text | cs
  · rw [hp] at h
    cases h
    exact .placement hp
  · rw [hp] at h
    cases h

theorem eq_some_of_refuse {o : Option Status} {e : Status} (h : refuse o = .error e) : o = some e := by
  cases o with
  | none => cases h
  | some e' =>
    cases h
    rfl

theorem checkRefs_refusal {kind : String} {refs : List Reference} {e : Status}
    (h : checkRefs kind refs = some e) : Refusal e := by
  obtain ⟨r, -, hc | ⟨prev, rfl⟩⟩ := Text.scan_eq_some h
  · unfold refCheck at hc
    repeat' split at hc
    all_goals first | (cases hc; done) | (cases hc; exact .invalidArgument _)
  · exact .invalidArgument _

theorem validateSecretRefsSpec_refusal {ts : TaskSpec} {e : Status}
    (h : validateSecretRefsSpec ts = .error e) : Refusal e := by
  unfold validateSecretRefsSpec at h
  split at h
  · exact checkRefs_refusal (eq_some_of_refuse h)
  · cases h

theorem validateConfigRefsSpec_refusal {ts : TaskSpec} {e : Status}
    (h : validateConfigRefsSpec ts = .error e) : Refusal e := by
  unfold validateConfigRefsSpec at h
  split at h
  · next c _ =>
    rcases hc : checkRefs "config" c.configs with _ | e'
    · rw [hc] at h
      dsimp only at h
      split at h
      · cases h
        exact .invalidArgument _
      · cases h
    · rw [hc] at h
      cases h
      exact checkRefs_refusal hc
  · cases h

theorem validateImage_refusal {env : Env} {image : String} {e : Status}
    (h : validateImage env image = .error e) : Refusal e := by
  unfold validateImage at h
  repeat' split at h
  all_goals first | (cases h; done) | (cases h; exact .invalidArgument _)

theorem validateMounts_refusal {mounts : List Mount} {e : Status}
    (h : validateMounts mounts = .error e) : Refusal e := by
  obtain ⟨m, -, hc | ⟨prev, rfl⟩⟩ := Text.scan_eq_some (eq_some_of_refuse h)
  · cases hc
  · exact .invalidArgument _

theorem validateHealthCheck_refusal {hc : Option HealthConfig} {e : Status}
    (h : validateHealthCheck hc = .error e) : Refusal e := by
  rcases hc with _ | hc
  · cases h
  rcases Lts.seq_eq_error h with h | h
  · exact zeroOrAtLeastMinimum_refusal h
  rcases Lts.seq_eq_error h with h | h
  · exact zeroOrAtLeastMinimum_refusal h
  rcases Lts.seq_eq_error h with h | h
  · exact zeroOrAtLeastMinimum_refusal h
  split at h
  · cases h
    exact .invalidArgument _
  · cases h

theorem validateContainerSpec_refusal {env : Env} {c : ContainerSpec} {e : Status}
    (h : validateContainerSpec env c = .error e) : Refusal e := by
  unfold validateContainerSpec at h
  split at h
  · cases h
    exact .invalidArgument _
  rcases Lts.seq_eq_error h with h | h
  · exact validateImage_refusal h
  rcases Lts.seq_eq_error h with h | h
  · exact validateMounts_refusal h
  · exact validateHealthCheck_refusal h

theorem validateGenericRuntimeSpec_refusal {env : Env} {g : GenericRuntimeSpec} {e : Status}
    (h : validateGenericRuntimeSpec env g = .error e) : Refusal e := by
  unfold validateGenericRuntimeSpec at h
  repeat' split at h
  all_goals first | (cases h; done) | (cases h; exact .invalidArgument _)

theorem validateRuntime_refusal {env : Env} {rt : Option RuntimeSpec} {e : Status}
    (h : validateRuntime env rt = .error e) : Refusal e := by
  rcases rt with _ | _ | c | g
  · cases h
    exact .invalidArgument _
  · cases h
    exact .unimplemented
  · exact validateContainerSpec_refusal h
  · exact validateGenericRuntimeSpec_refusal h

theorem validateTaskSpec_refusal {env : Env} {ts : TaskSpec} {e : Status}
    (h : validateTaskSpec env ts = .error e) : Refusal e := by
  unfold validateTaskSpec at h
  rcases Lts.seq_eq_error h with h | h
  · exact validateResourceRequirements_refusal h
  rcases Lts.seq_eq_error h with h | h
  · exact validateRestartPolicy_refusal h
  rcases Lts.seq_eq_error h with h | h
  · exact validatePlacement_refusal h
  rcases Lts.seq_eq_error h with h | h
  · exact validateSecretRefsSpec_refusal h
  rcases Lts.seq_eq_error h with h | h
  · exact validateConfigRefsSpec_refusal h
  · exact validateRuntime_refusal h

theorem validateAnnotations_refusal {m : Annotations} {e : Status}
    (h : validateAnnotations m = .error e) : Refusal e := by
  unfold validateAnnotations at h
  repeat' split at h
  all_goals first | (cases h; done) | (cases h; exact .invalidArgument _)

theorem validateMode_refusal {s : ServiceSpec} {e : Status} (h : validateMode s = .error e) : Refusal e := by
  unfold validateMode at h
  repeat' split at h
  all_goals first | (cases h; done) | (cases h; exact .invalidArgument _)

theorem validateUpdate_refusal {uc : Option UpdateConfig} {e : Status}
    (h : validateUpdate uc = .error e) : Refusal e := by
  rcases uc with _ | uc
  · cases h
  unfold validateUpdate at h
  dsimp only at h
  split at h
  · cases h
    exact .invalidArgument _
  rcases Lts.seq_eq_error h with h | h
  · exact nonNegative_refusal h
  split at h
  · cases h
    exact .invalidArgument _
  · cases h

theorem validateEndpointSpec_refusal {ep : Option EndpointSpec} {e : Status}
    (h : validateEndpointSpec ep = .error e) : Refusal e := by
  rcases ep with _ | ep
  · cases h
  obtain ⟨p, -, hc | ⟨prev, rfl⟩⟩ := Text.scan_eq_some (eq_some_of_refuse h)
  · unfold portCheck at hc
    split at hc
    · cases hc
      exact .invalidArgument _
    · cases hc
  · exact .invalidArgument _

theorem validateJob_refusal {spec : ServiceSpec} {e : Status} (h : validateJob spec = .error e) : Refusal e := by
  unfold validateJob at h
  split at h
  · cases h
    exact .invalidArgument _
  · cases h

/-- Every refusal of a service spec has code InvalidArgument, but that of
an attachment runtime, Unimplemented, and the text of an error of
`DurationFromProto` or `constraint.Parse`, returned as it is and so
reaching the client with code Unknown. -/
theorem validateServiceSpec_refusal {env : Env} {spec : Option ServiceSpec} {e : Status}
    (h : validateServiceSpec env spec = .error e) : Refusal e := by
  rcases spec with _ | spec
  · cases h
    exact .invalidArgument _
  rcases Lts.seq_eq_error h with h | h
  · exact validateAnnotations_refusal h
  rcases Lts.seq_eq_error h with h | h
  · exact validateTaskSpec_refusal h
  rcases Lts.seq_eq_error h with h | h
  · exact validateMode_refusal h
  -- the endpoint check follows either branch of the job test
  split at h
  · rcases Lts.seq_eq_error h with h | h
    · exact validateJob_refusal h
    · exact validateEndpointSpec_refusal h
  · rcases Lts.seq_eq_error h with h | h
    · exact validateUpdate_refusal h
    · exact validateEndpointSpec_refusal h

/-- A restart delay whose two parts disagree in sign is refused with the
text of `DurationFromProto`, and so with code Unknown. -/
theorem validateServiceSpec_refusal_delay :
    validateServiceSpec ⟨Except.ok, fun _ => true, id, fun _ => ""⟩
        (some ⟨⟨"web", []⟩, ⟨none, some ⟨some ⟨1, -1⟩, none⟩, none, none⟩, some .global, none, none⟩) =
      .error (plain "duration: &types.Duration\x7bSeconds: 1,\nNanos: -1,\n\x7d: seconds and nanos have different signs") ∧
    Refusal (plain "duration: &types.Duration\x7bSeconds: 1,\nNanos: -1,\n\x7d: seconds and nanos have different signs") := by
  refine ⟨?h, validateServiceSpec_refusal ?h⟩
  decide

end SwarmKit.Controlapi.Validation
