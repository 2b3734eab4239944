import PodRunner.Manifest

/-!
# What a Pod says about its workload

A Pod can be built unless the deadline is negative. It holds everything that its workload holds, so workloads with
the same Pod differ at most in how they leave something out: a deadline of zero or of a day is as good as none, and
so is the account of the owner.
-/

namespace PodRunner

namespace Environment

variable {name value : String}

theorem get?_eq_some_iff {environment : Environment} :
    environment.get? name = some value ↔ (name, value) ∈ environment.entries := by
  obtain ⟨entries, hascending⟩ := environment
  show (entries.find? fun entry => entry.1 == name).map (·.2) = some value ↔ _
  induction entries with
  | nil => simp
  | cons entry rest ih =>
    obtain ⟨hfirst, hrest⟩ := List.pairwise_cons.1 hascending
    by_cases hname : entry.1 = name
    · have hlater : (name, value) ∉ rest := by
        intro hmem
        have hbefore := hfirst _ hmem
        rw [hname] at hbefore
        exact Before.irrefl name hbefore
      simp [hname, hlater, Prod.ext_iff, eq_comm]
    · have hother : (name, value) ≠ entry := fun heq => hname (congrArg Prod.fst heq).symm
      simp [hname, hother, ih hrest]

end Environment

namespace ResourceLimits

theorem mem_entries_iff {limits : ResourceLimits} {name quantity : String} :
    (name, quantity) ∈ limits.entries ↔
      limits.cpu = some quantity ∧ name = "cpu" ∨ limits.memory = some quantity ∧ name = "memory" := by
  simp [entries, eq_comm]

theorem entries_inj {a b : ResourceLimits} (h : a.entries = b.entries) : a = b := by
  have hmem : ∀ entry, entry ∈ a.entries ↔ entry ∈ b.entries := fun entry => by rw [h]
  have hcpu : a.cpu = b.cpu := by
    apply Option.ext
    intro quantity
    simpa [mem_entries_iff] using hmem ("cpu", quantity)
  have hmemory : a.memory = b.memory := by
    apply Option.ext
    intro quantity
    simpa [mem_entries_iff] using hmem ("memory", quantity)
  show ResourceLimits.mk a.cpu a.memory = ⟨b.cpu, b.memory⟩
  rw [hcpu, hmemory]

end ResourceLimits

namespace Workload

/-- The limit on the life of its Pod in seconds, where none and zero are a day. -/
def lifetime (workload : Workload) : Int := (workload.activeDeadlineSeconds.filter (· ≠ 0)).getD 86400

def account (workload : Workload) (owner : Owner) : Option String :=
  workload.serviceAccountName.or owner.serviceAccountName

/-- The workloads are the same to a Pod of this owner, which is not told how a deadline or an account is left
out. -/
structure Agrees (a b : Workload) (owner : Owner) : Prop where
  image_eq : a.image = b.image
  environment_eq : a.environment = b.environment
  containerPort_eq : a.containerPort = b.containerPort
  resources_eq : a.resources = b.resources
  lifetime_eq : a.lifetime = b.lifetime
  account_eq : a.account owner = b.account owner

end Workload

namespace Manifest

variable {workload other : Workload} {owner : Owner}

def pod (workload : Workload) (owner : Owner) : Pod where
  metadata := metadata owner
  spec := some {
    containers := [container workload]
    serviceAccountName := workload.account owner
    restartPolicy := some "Never"
    activeDeadlineSeconds := some workload.lifetime }
  status := none
  document := none

theorem deadlineSeconds_eq_error_iff {deadline : Option Int} {e : Error} :
    deadlineSeconds deadline = .error e ↔ ∃ secs, deadline = some secs ∧ secs < 0 ∧ e = negativeDeadline secs := by
  cases deadline with
  | none => simp [deadlineSeconds]
  | some secs =>
    rcases Int.lt_trichotomy secs 0 with hneg | rfl | hpos
    · simp [deadlineSeconds, Int.ne_of_lt hneg, hneg, eq_comm]
    · simp [deadlineSeconds]
    · simp [deadlineSeconds, Int.ne_of_gt hpos, Int.not_lt.2 (Int.le_of_lt hpos)]

theorem deadlineSeconds_of_nonneg {deadline : Option Int} (h : ∀ secs, deadline = some secs → 0 ≤ secs) :
    deadlineSeconds deadline = .ok ((deadline.filter (· ≠ 0)).getD 86400) := by
  cases deadline with
  | none => rfl
  | some secs =>
    have hnonneg := h secs rfl
    by_cases hzero : secs = 0
    · simp [deadlineSeconds, hzero, defaultDeadlineSeconds, Option.filter_some]
    · simp [deadlineSeconds, hzero, Int.not_lt.2 hnonneg, Option.filter_some]

theorem build_eq_error_iff {e : Error} : build workload owner = .error e ↔
    ∃ secs, workload.activeDeadlineSeconds = some secs ∧ secs < 0 ∧ e = negativeDeadline secs := by
  rw [← deadlineSeconds_eq_error_iff, build]
  split <;> simp [*]

theorem build_of_nonneg (h : ∀ secs, workload.activeDeadlineSeconds = some secs → 0 ≤ secs) :
    build workload owner = .ok (pod workload owner) := by
  have haccount : serviceAccountName workload owner = workload.account owner := Option.orElse_eq_or
  rw [build, deadlineSeconds_of_nonneg h, haccount]
  rfl

theorem build_eq_ok_iff {built : Pod} : build workload owner = .ok built ↔
    (∀ secs, workload.activeDeadlineSeconds = some secs → 0 ≤ secs) ∧ built = pod workload owner := by
  constructor
  · intro h
    have hnonneg : ∀ secs, workload.activeDeadlineSeconds = some secs → 0 ≤ secs := by
      intro secs hdeadline
      apply Int.not_lt.1
      intro hneg
      rw [build_eq_error_iff.2 ⟨secs, hdeadline, hneg, rfl⟩] at h
      cases h
    rw [build_of_nonneg hnonneg] at h
    exact ⟨hnonneg, (Except.ok.inj h).symm⟩
  · rintro ⟨hnonneg, rfl⟩
    exact build_of_nonneg hnonneg

theorem lifetime_eq (h : ∀ secs, workload.activeDeadlineSeconds = some secs → 0 ≤ secs) :
    workload.lifetime = (workload.activeDeadlineSeconds.filter (0 < ·)).getD 86400 := by
  unfold Workload.lifetime
  cases hdeadline : workload.activeDeadlineSeconds with
  | none => rfl
  | some secs =>
    have hpos : secs ≠ 0 ↔ 0 < secs := ⟨fun hne => by have := h secs hdeadline; omega, Int.ne_of_gt⟩
    simp only [Option.filter_some, hpos]

theorem lifetime_pos (h : ∀ secs, workload.activeDeadlineSeconds = some secs → 0 ≤ secs) :
    1 ≤ workload.lifetime := by
  rw [lifetime_eq h]
  cases workload.activeDeadlineSeconds with
  | none => decide
  | some secs =>
    by_cases hpos : 0 < secs
    · rw [Option.filter_some_pos (by simpa using hpos), Option.getD_some]
      omega
    · simp [Option.filter_some, hpos]

/-! ### Nothing is lost -/

theorem resources_eq_none_iff {limits : ResourceLimits} :
    resources limits = none ↔ limits.cpu = none ∧ limits.memory = none := by
  simp [resources, ResourceLimits.isEmpty]

theorem resources_eq_some {limits : ResourceLimits} {requirements : ResourceRequirements}
    (h : resources limits = some requirements) : requirements.limits = some limits.entries := by
  unfold resources at h
  split at h
  · cases h
  · rw [← Option.some.inj h]

theorem resources_inj {a b : ResourceLimits} (h : resources a = resources b) : a = b := by
  cases hb : resources b with
  | none =>
    obtain ⟨hcpu, hmemory⟩ := resources_eq_none_iff.1 (h.trans hb)
    obtain ⟨hcpu', hmemory'⟩ := resources_eq_none_iff.1 hb
    show ResourceLimits.mk a.cpu a.memory = ⟨b.cpu, b.memory⟩
    rw [hcpu, hmemory, hcpu', hmemory']
  | some requirements =>
    have hentries := (resources_eq_some (h.trans hb)).symm.trans (resources_eq_some hb)
    exact ResourceLimits.entries_inj (Option.some.inj hentries)

theorem pod_eq_iff : pod workload owner = pod other owner ↔ workload.Agrees other owner := by
  have hentry : ∀ x y : String × String, EnvVar.mk x.1 (some x.2) = ⟨y.1, some y.2⟩ → x = y := by
    intro x y h
    obtain ⟨hname, hvalue⟩ := EnvVar.mk.inj h
    exact Prod.ext hname (Option.some.inj hvalue)
  constructor
  · intro h
    simp only [pod, container, Pod.mk.injEq, Option.some.injEq, PodSpec.mk.injEq, List.cons.injEq,
      Container.mk.injEq, ContainerPort.mk.injEq, List.map_inj_right hentry, Int.natCast_inj, UInt16.toNat_inj,
      true_and, and_true] at h
    obtain ⟨⟨himage, hentries, hport, hresources⟩, haccount, hlifetime⟩ := h
    exact ⟨himage, Environment.ext_entries hentries, hport, resources_inj hresources, hlifetime, haccount⟩
  · rintro ⟨himage, henvironment, hport, hresources, hlifetime, haccount⟩
    simp only [pod, container, himage, henvironment, hport, hresources, hlifetime, haccount]

/-- The variables are those of the environment, each once and in ascending order of their names. -/
structure Lists (environment : Environment) (env : List EnvVar) : Prop where
  ascending : env.Pairwise fun a b => Environment.Before a.name b.name
  mem_iff : ∀ entry, entry ∈ env ↔
    ∃ value, entry.value = some value ∧ environment.get? entry.name = some value

/-- The requirements are the limits that are set, each once, and missing if none is. -/
structure Restricts (limits : ResourceLimits) (requirements : Option ResourceRequirements) : Prop where
  eq_none_iff : requirements = none ↔ limits.cpu = none ∧ limits.memory = none
  limits_of_some : ∀ given, requirements = some given → ∃ entries, given.limits = some entries ∧
    (entries.map Prod.fst).Nodup ∧ ∀ name quantity, (name, quantity) ∈ entries ↔
      limits.cpu = some quantity ∧ name = "cpu" ∨ limits.memory = some quantity ∧ name = "memory"

/-- What a Pod holds of its workload and its owner. -/
structure Carries (workload : Workload) (owner : Owner) (built : Pod) : Prop where
  lifetime : ∃ secs, built.spec.bind (·.activeDeadlineSeconds) = some secs ∧ 1 ≤ secs
  container : ∃ container env, built.spec.map (·.containers) = some [container] ∧
    container.env = some env ∧ Lists workload.environment env ∧
    Restricts workload.resources container.resources
  owner_eq : built.metadata.ownerReferences = some [⟨owner.apiVersion, owner.kind, owner.name, owner.uid⟩]
  name_eq : built.metadata.name = none

theorem lists_env (environment : Environment) :
    Lists environment (environment.entries.map fun entry => ⟨entry.1, some entry.2⟩) := by
  constructor
  case ascending => exact List.pairwise_map.2 environment.ascending
  case mem_iff =>
    intro entry
    rw [List.mem_map]
    constructor
    · rintro ⟨⟨name, value⟩, hmem, rfl⟩
      exact ⟨value, rfl, Environment.get?_eq_some_iff.2 hmem⟩
    · rintro ⟨value, hvalue, hget⟩
      refine ⟨(entry.name, value), Environment.get?_eq_some_iff.1 hget, ?_⟩
      rw [← hvalue]

theorem restricts_resources (limits : ResourceLimits) : Restricts limits (resources limits) := by
  constructor
  case eq_none_iff => exact resources_eq_none_iff
  case limits_of_some =>
    intro given h
    refine ⟨limits.entries, resources_eq_some h, ?_, fun name quantity => ResourceLimits.mem_entries_iff⟩
    cases hcpu : limits.cpu <;> cases hmemory : limits.memory <;> simp [ResourceLimits.entries, hcpu, hmemory]

/-- A Pod is built unless the deadline is negative, and holds all that its workload does: other workloads of the
owner have the same Pod only if they agree up to the two fallbacks. -/
theorem build_lossless (workload : Workload) (owner : Owner) :
    (∀ e, build workload owner = .error e ↔ ∃ secs, workload.activeDeadlineSeconds = some secs ∧ secs < 0 ∧
        e = .invalidConfig s!"active_deadline_seconds should be > 0. Got {secs}") ∧
      ((∃ built, build workload owner = .ok built) ↔
        ∀ secs, workload.activeDeadlineSeconds = some secs → 0 ≤ secs) ∧
      (∀ built, build workload owner = .ok built → Carries workload owner built) ∧
      ∀ built other built', build workload owner = .ok built → build other owner = .ok built' →
        (built = built' ↔ workload.Agrees other owner) := by
  refine ⟨fun e => build_eq_error_iff, ?_, ?_, ?_⟩
  · constructor
    · rintro ⟨built, h⟩
      exact (build_eq_ok_iff.1 h).1
    · intro hnonneg
      exact ⟨_, build_of_nonneg hnonneg⟩
  · intro built h
    obtain ⟨hnonneg, rfl⟩ := build_eq_ok_iff.1 h
    constructor
    case lifetime => exact ⟨workload.lifetime, rfl, lifetime_pos hnonneg⟩
    case container => exact ⟨Manifest.container workload, _, rfl, rfl, lists_env _, restricts_resources _⟩
    case owner_eq => rfl
    case name_eq => rfl
  · intro built other built' h h'
    obtain ⟨_, rfl⟩ := build_eq_ok_iff.1 h
    obtain ⟨_, rfl⟩ := build_eq_ok_iff.1 h'
    exact pod_eq_iff

end Manifest

end PodRunner
