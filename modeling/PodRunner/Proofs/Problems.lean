import PodRunner.Proofs.Overflow

/-!
# The problem of a draft

A draft is valid if its numbers keep certain inequalities between whole numbers, which are stated here without
durations and without floating point. If it is not, the problem that is reported belongs to the first section that
has one, and does not depend on the sections after it.
-/

namespace PodRunner.Draft

open Binary64

theorem mapError_eq_error_iff {α : Type} {checked : Except Problem α} {e : Error} :
    checked.mapError Problem.toError = .error e ↔
      ∃ problem, checked = .error problem ∧ e = .invalidConfig problem.message := by
  cases checked <;> simp [Except.mapError, Problem.toError, eq_comm]

/-! ### Polling -/

namespace Polling

variable {draft : Polling} {problem : Problem}

def interval (draft : Polling) : Nat := (draft.intervalSecs.getD 5).toNat

def timeout (draft : Polling) : Nat := (draft.timeoutSecs.getD 3).toNat

structure Sound (draft : Polling) : Prop where
  timeout_pos : 0 < draft.timeout
  timeout_lt : draft.timeout < draft.interval

inductive Faulty (draft : Polling) : Problem → Prop where
  | noInterval (hinterval : draft.interval = 0) : Faulty draft .noInterval
  | timeout (hinterval : 0 < draft.interval) (htimeout : draft.timeout = 0 ∨ draft.interval ≤ draft.timeout) :
      Faulty draft (.timeoutOutOfRange draft.interval draft.timeout)

theorem exists_ok_iff : (∃ polling, draft.validate = .ok polling) ↔ draft.Sound := by
  constructor
  · rintro ⟨polling, h⟩
    obtain ⟨hinterval, htimeout, hpos, hlt⟩ := validate_eq_ok_iff.1 h
    rw [htimeout] at hpos hlt
    rw [hinterval] at hlt
    exact ⟨Duration.ofSecs_lt_ofSecs.1 hpos, Duration.ofSecs_lt_ofSecs.1 hlt⟩
  · rintro ⟨hpos, hlt⟩
    have hinterval : 0 < (Duration.ofSecs draft.interval).nanos :=
      Nat.mul_pos (Nat.lt_of_le_of_lt (Nat.zero_le _) hlt) (by decide)
    exact ⟨⟨.ofSecs draft.interval, .ofSecs draft.timeout, hinterval⟩, validate_eq_ok_iff.2
      ⟨rfl, rfl, Duration.ofSecs_lt_ofSecs.2 hpos, Duration.ofSecs_lt_ofSecs.2 hlt⟩⟩

theorem validate_eq_error_iff : draft.validate = .error problem ↔ draft.Faulty problem := by
  have hpos : 0 < (Duration.ofSecs draft.interval).nanos ↔ 0 < draft.interval := Duration.ofSecs_lt_ofSecs (a := 0)
  have hbetween :
      (Duration.zero < .ofSecs draft.timeout ∧ Duration.ofSecs draft.timeout < .ofSecs draft.interval) ↔
        0 < draft.timeout ∧ draft.timeout < draft.interval :=
    and_congr (Duration.ofSecs_lt_ofSecs (a := 0)) Duration.ofSecs_lt_ofSecs
  have hsecs : Problem.timeoutOutOfRange (Duration.ofSecs draft.interval).secs (Duration.ofSecs draft.timeout).secs =
      .timeoutOutOfRange draft.interval draft.timeout := by
    rw [Duration.secs_ofSecs, Duration.secs_ofSecs]
  constructor
  · intro h
    unfold validate at h
    dsimp only at h
    split at h
    · rename_i hinterval
      split at h
      · cases h
      · rename_i hfar
        have hapart := hbetween.not.1 hfar
        rw [← Except.error.inj h, Duration.secs_ofSecs, Duration.secs_ofSecs]
        exact .timeout (hpos.1 hinterval) (by omega)
    · rename_i hinterval
      rw [← Except.error.inj h]
      apply Faulty.noInterval
      have hnone := hpos.not.1 hinterval
      omega
  · intro h
    cases h with
    | noInterval hinterval => exact dif_neg (hpos.not.2 (by omega))
    | timeout hinterval htimeout =>
      have hfar := hbetween.not.2 (by omega)
      rw [← hsecs]
      exact (dif_pos (hpos.2 hinterval)).trans (if_neg hfar)

end Polling

/-! ### Cleanups -/

namespace Cleanup

variable {draft : Cleanup} {problem : Problem}

inductive Faulty (draft : Cleanup) : Problem → Prop where
  | noAttempts (hnone : draft.attemptCount = 0) : Faulty draft .noAttempts
  | pauses (hmany : 1 < draft.attemptCount)
      (hover : draft.first = 0 ∨ draft.cap < roundNat draft.first * 2 ^ (draft.attemptCount - 2)) :
      Faulty draft
        (.lastDelayOverCap draft.cap draft.backoff.lastDelay (draft.attemptCount - 1) draft.first)

theorem exists_ok_iff : (∃ b, draft.validate = .ok b) ↔ draft.Grows := by
  simp [validate_eq_ok_iff]

theorem validate_eq_error_iff : draft.validate = .error problem ↔ draft.Faulty problem := by
  have hproblem : Problem.lastDelayOverCap draft.backoff.maxDelay.secs draft.backoff.lastDelay draft.backoff.pauses
      draft.backoff.initialDelay.secs =
        .lastDelayOverCap draft.cap draft.backoff.lastDelay (draft.attemptCount - 1) draft.first := by
    have hmax : draft.backoff.maxDelay.secs = draft.cap := Duration.secs_ofSecs _
    have hinitial : draft.backoff.initialDelay.secs = draft.first := Duration.secs_ofSecs _
    rw [hmax, hinitial]
    rfl
  rw [validate]
  simp only [attempts_eq_zero_iff, overCap_iff, hproblem]
  constructor
  · intro h
    split at h
    · rename_i hnone
      exact Except.error.inj h ▸ .noAttempts hnone
    · split at h
      · rename_i hover
        exact Except.error.inj h ▸ .pauses hover.1 hover.2
      · cases h
  · intro h
    cases h with
    | noAttempts hnone => rw [if_pos hnone]
    | pauses hmany hover => rw [if_neg (by omega), if_pos ⟨hmany, hover⟩]

/-- A cleanup is accepted if there is one attempt, or if the last pause, computed in whole numbers from the rounded
first one, lies below the cap. What is compared with the cap is then that pause, and nothing has overflowed. -/
theorem validate_decides (draft : Cleanup) :
    let attempts := (draft.attempts.getD 5).toNat
    let initial := (draft.initialSecs.getD 1).toNat
    let cap := (draft.maxSecs.getD 10).toNat
    let grown := roundNat initial
    ((∀ r, Nearest initial r ↔ r = grown) ∧ (initial ≤ 2 ^ 53 → grown = initial)) ∧
      ((∃ b, draft.validate = .ok b) ↔
        1 ≤ attempts ∧ (attempts = 1 ∨ 0 < initial ∧ grown * 2 ^ (attempts - 2) ≤ cap)) ∧
      (∀ b, draft.validate = .ok b →
        b = ⟨draft.attempts.getD 5, .ofSecs initial, .ofSecs cap, .two⟩ ∧
          (1 < attempts → b.lastDelay = .ofSecs (grown * 2 ^ (attempts - 2)) ∧ attempts ≤ 65)) ∧
      ∀ e, draft.validate.mapError Problem.toError = .error e ↔
        ∃ problem, draft.Faulty problem ∧ e = .invalidConfig problem.message := by
  intro attempts initial cap grown
  have hnearest := roundNat_nearest initial
  refine ⟨⟨fun r => ⟨hnearest.unique, fun hr => hr ▸ hnearest⟩, ?_⟩, ?_, ?_, ?_⟩
  · exact fun hsmall => roundNat_of_fits (fits_of_le (by decide) hsmall)
  · rw [exists_ok_iff]
    constructor
    · rintro ⟨hpos, hlast⟩
      exact ⟨hpos, (Nat.eq_or_lt_of_le hpos).imp Eq.symm hlast⟩
    · rintro ⟨hpos, hlast⟩
      exact ⟨hpos, fun hmany => hlast.resolve_left (Nat.ne_of_gt hmany)⟩
  · intro b hvalid
    obtain ⟨rfl, hgrows⟩ := (validate_eq_ok_iff draft b).1 hvalid
    refine ⟨rfl, fun hmany => ⟨?_, hgrows.attemptCount_le⟩⟩
    obtain ⟨hfirst, hlast⟩ := hgrows.last_le hmany
    rw [lastDelay_eq hfirst, if_pos (Nat.lt_of_le_of_lt hlast draft.cap_lt)]
    rfl
  · intro e
    simp only [mapError_eq_error_iff, validate_eq_error_iff]

/-- The greatest cap counts as it is, although it rounds to the pause that it refuses. -/
example : validate ⟨some 66, some 1, some 18446744073709551615⟩ =
    .error (.lastDelayOverCap 18446744073709551615 .longest 65 1) := by
  decide +kernel

end Cleanup

/-! ### Whole drafts -/

/-- All sections are valid, where a missing one is as good as a blank one. -/
structure Sound (draft : Draft) : Prop where
  polling : (draft.polling.getD .blank).Sound
  cleanup : (draft.cleanup.getD .blank).Grows
  serving : ∀ serving, draft.serving = some serving → serving.modelName ≠ ""

/-- The problem of the first section that has one. -/
inductive Faulty (draft : Draft) : Problem → Prop where
  | polling {problem : Problem} (hfaulty : (draft.polling.getD .blank).Faulty problem) : Faulty draft problem
  | cleanup {problem : Problem} (hpolling : (draft.polling.getD .blank).Sound)
      (hfaulty : (draft.cleanup.getD .blank).Faulty problem) : Faulty draft problem
  | serving {serving : Serving} (hpolling : (draft.polling.getD .blank).Sound)
      (hcleanup : (draft.cleanup.getD .blank).Grows) (hserving : draft.serving = some serving)
      (hname : serving.modelName = "") : Faulty draft .noModelName

def account (draft : Draft) : Option String :=
  (draft.kubernetes.getD .blank).serviceAccountName.filter (· ≠ "")

theorem account_eq_config (draft : Draft) :
    (draft.kubernetes.getD .blank).config.serviceAccountName = draft.account := by
  have hempty : (fun name : String => !name.isEmpty) = fun name => decide (name ≠ "") := by
    funext name
    rw [decide_not, Bool.not_inj_iff, Bool.eq_iff_iff, decide_eq_true_iff, String.isEmpty_iff]
  rw [account, ← hempty, Kubernetes.config]

/-- The context holds what is written in the draft, and the default for what is not. -/
structure Fills (draft : Draft) (context : Context) : Prop where
  interval_eq : context.polling.interval = .ofSecs (draft.polling.getD .blank).interval
  timeout_eq : context.polling.timeout = .ofSecs (draft.polling.getD .blank).timeout
  attempts_eq : context.cleanup.attempts = (draft.cleanup.getD .blank).attempts.getD 5
  initialDelay_eq : context.cleanup.initialDelay =
    .ofSecs ((draft.cleanup.getD .blank).initialSecs.getD 1).toNat
  maxDelay_eq : context.cleanup.maxDelay = .ofSecs ((draft.cleanup.getD .blank).maxSecs.getD 10).toNat
  multiplier_eq : context.cleanup.multiplier = .two
  account_eq : context.kubernetes.serviceAccountName = draft.account
  deadline_eq : context.kubernetes.activeDeadlineSeconds = (draft.kubernetes.getD .blank).activeDeadlineSeconds
  serving_eq : context.serving = draft.serving.map fun serving =>
    ⟨serving.kind.getD "tensorflow_serving", serving.modelName, serving.tag.getD "latest"⟩

variable {draft : Draft} {context : Context} {problem : Problem}

theorem validate_eq_error_iff_faulty : draft.validate = .error problem ↔ draft.Faulty problem := by
  rw [validate_eq_error_iff, ← Polling.validate_getD_blank, ← Cleanup.validate_getD_blank]
  simp only [Polling.validate_eq_error_iff, Polling.exists_ok_iff, Cleanup.validate_eq_error_iff,
    Cleanup.exists_ok_iff, Serving.validate_eq_error_iff]
  constructor
  · rintro (hpolling | ⟨hpolling, hcleanup | ⟨hcleanup, serving, hserving, hname, rfl⟩⟩)
    · exact .polling hpolling
    · exact .cleanup hpolling hcleanup
    · exact .serving hpolling hcleanup hserving hname
  · intro h
    cases h with
    | polling hpolling => exact Or.inl hpolling
    | cleanup hpolling hcleanup => exact Or.inr ⟨hpolling, Or.inl hcleanup⟩
    | serving hpolling hcleanup hserving hname =>
      exact Or.inr ⟨hpolling, Or.inr ⟨hcleanup, _, hserving, hname, rfl⟩⟩

theorem serving_eq_ok_iff {serving : Option Serving} {config : Option ServingConfig} :
    serving.elim (.ok none) (fun serving => serving.validate.map some) = .ok config ↔
      (∀ given, serving = some given → given.modelName ≠ "") ∧ config = serving.map fun given =>
        ⟨given.kind.getD "tensorflow_serving", given.modelName, given.tag.getD "latest"⟩ := by
  cases serving with
  | none => exact ⟨fun h => ⟨nofun, (Except.ok.inj h).symm⟩, fun h => congrArg Except.ok h.2.symm⟩
  | some given =>
    rw [Option.elim_some, Option.map_some]
    cases hgiven : given.validate with
    | error problem =>
      obtain ⟨hname, _⟩ := Serving.validate_eq_error_iff.1 hgiven
      exact ⟨nofun, fun h => absurd hname (h.1 given rfl)⟩
    | ok checked =>
      obtain ⟨hname, rfl⟩ := Serving.validate_eq_ok_iff.1 hgiven
      constructor
      · intro h
        refine ⟨?_, (Except.ok.inj h).symm⟩
        rintro _ ⟨⟩
        exact hname
      · intro h
        exact congrArg Except.ok h.2.symm

theorem Fills.cleanup_eq (h : draft.Fills context) : context.cleanup = (draft.cleanup.getD .blank).backoff := by
  obtain ⟨polling, ⟨attempts, initialDelay, maxDelay, multiplier⟩, kubernetes, serving⟩ := context
  obtain rfl := h.attempts_eq
  obtain rfl := h.initialDelay_eq
  obtain rfl := h.maxDelay_eq
  obtain rfl := h.multiplier_eq
  rfl

theorem Fills.kubernetes_eq (h : draft.Fills context) :
    (draft.kubernetes.getD .blank).config = context.kubernetes := by
  obtain ⟨polling, cleanup, ⟨account, deadline⟩, serving⟩ := context
  obtain rfl := h.account_eq
  obtain rfl := h.deadline_eq
  rw [← account_eq_config]
  rfl

theorem validate_eq_ok_iff_fills : draft.validate = .ok context ↔ draft.Sound ∧ draft.Fills context := by
  rw [validate_eq_ok_iff, ← Polling.validate_getD_blank, ← Cleanup.validate_getD_blank,
    ← Kubernetes.config_getD_blank, serving_eq_ok_iff]
  constructor
  · rintro ⟨hpolling, hcleanup, hkubernetes, hnames, hserving⟩
    obtain ⟨hinterval, htimeout, _, _⟩ := Polling.validate_eq_ok_iff.1 hpolling
    obtain ⟨hbackoff, hgrows⟩ := (Cleanup.validate_eq_ok_iff _ _).1 hcleanup
    refine ⟨⟨Polling.exists_ok_iff.1 ⟨_, hpolling⟩, hgrows, hnames⟩, ?_⟩
    constructor
    case interval_eq => exact hinterval
    case timeout_eq => exact htimeout
    case account_eq => rw [← hkubernetes, account_eq_config]
    case deadline_eq => rw [← hkubernetes]; rfl
    case serving_eq => exact hserving
    all_goals
      rw [hbackoff]
      rfl
  · rintro ⟨⟨⟨hpos, hlt⟩, hgrows, hnames⟩, hfills⟩
    refine ⟨?_, (Cleanup.validate_eq_ok_iff _ _).2 ⟨hfills.cleanup_eq, hgrows⟩, hfills.kubernetes_eq, hnames,
      hfills.serving_eq⟩
    apply Polling.validate_eq_ok_iff.2
    rw [hfills.interval_eq, hfills.timeout_eq]
    exact ⟨rfl, rfl, Duration.ofSecs_lt_ofSecs.2 hpos, Duration.ofSecs_lt_ofSecs.2 hlt⟩

theorem exists_ok_iff : (∃ context, draft.validate = .ok context) ↔ draft.Sound := by
  constructor
  · rintro ⟨context, h⟩
    exact (validate_eq_ok_iff_fills.1 h).1
  · intro h
    obtain ⟨polling, hpolling⟩ := Polling.exists_ok_iff.2 h.polling
    obtain ⟨cleanup, hcleanup⟩ := Cleanup.exists_ok_iff.2 h.cleanup
    have hserving := serving_eq_ok_iff.2 ⟨h.serving, rfl⟩
    refine ⟨⟨polling, cleanup, _, _⟩, validate_eq_ok_iff.2 ⟨?_, ?_, rfl, hserving⟩⟩
    · rwa [← Polling.validate_getD_blank]
    · rwa [← Cleanup.validate_getD_blank]

/-- A draft is valid if its sections are, and its context then holds what is written in it. Otherwise the problem is
that of the first section that has one, in the order polling, cleanup, serving, whatever the other sections hold. -/
theorem validate_in_order (draft : Draft) :
    ((∃ context, draft.validate = .ok context) ↔ draft.Sound) ∧
      (∀ e, draft.validate.mapError Problem.toError = .error e ↔
        ∃ problem, draft.Faulty problem ∧ e = .invalidConfig problem.message) ∧
      (∀ context, draft.validate = .ok context ↔ draft.Sound ∧ draft.Fills context) ∧
      ∀ context, draft.validate = .ok context →
        Duration.zero < context.polling.timeout ∧ context.polling.timeout < context.polling.interval ∧
          1 ≤ context.cleanup.attempts.toNat ∧ context.cleanup.multiplier = .two := by
  refine ⟨exists_ok_iff, ?_, fun context => validate_eq_ok_iff_fills, ?_⟩
  · intro e
    simp only [mapError_eq_error_iff, validate_eq_error_iff_faulty]
  · intro context hvalid
    obtain ⟨⟨⟨hpos, hlt⟩, hgrows, _⟩, hfills⟩ := validate_eq_ok_iff_fills.1 hvalid
    rw [hfills.interval_eq, hfills.timeout_eq, hfills.attempts_eq]
    exact ⟨Duration.ofSecs_lt_ofSecs.2 hpos, Duration.ofSecs_lt_ofSecs.2 hlt, hgrows.attempts_pos,
      hfills.multiplier_eq⟩

/-- A short interval does not go with the default timeout, which hides what is wrong after it. -/
example : validate ⟨some ⟨some 2, none⟩, some ⟨some 0, none, none⟩, none, some ⟨none, "", none⟩⟩ =
    .error (.timeoutOutOfRange 2 3) := by
  decide +kernel

end PodRunner.Draft
