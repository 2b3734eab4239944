import PodRunner.Context.Draft

/-!
# What a validated context holds

A draft is valid if all its sections are, and its context holds what each of them is made into. Otherwise its problem
is that of one section, and those before it are valid. A missing section is as good as one in which nothing is
written.
-/

namespace PodRunner.Draft

theorem Polling.validate_eq_ok_iff {draft : Polling} {polling : PodRunner.Polling} :
    draft.validate = .ok polling ↔
      polling.interval = .ofSecs (draft.intervalSecs.getD defaultIntervalSecs).toNat ∧
        polling.timeout = .ofSecs (draft.timeoutSecs.getD defaultTimeoutSecs).toNat ∧
        Duration.zero < polling.timeout ∧ polling.timeout < polling.interval := by
  obtain ⟨interval, timeout, hpos⟩ := polling
  unfold validate
  constructor
  · intro h
    dsimp only at h
    split at h
    · split at h
      · rename_i hbetween
        cases h
        exact ⟨rfl, rfl, hbetween⟩
      · cases h
    · cases h
  · rintro ⟨rfl, rfl, hbetween⟩
    dsimp only at hpos hbetween ⊢
    rw [dif_pos hpos, if_pos hbetween]

theorem Serving.validate_eq_ok_iff {draft : Serving} {serving : ServingConfig} :
    draft.validate = .ok serving ↔ draft.modelName ≠ "" ∧
      serving = ⟨draft.kind.getD ServingBinary.tensorFlowServingKind, draft.modelName,
        draft.tag.getD defaultTag⟩ := by
  rw [validate, ne_eq, ← String.isEmpty_iff]
  split
  · simp [*]
  · simp [*, eq_comm]

theorem Serving.validate_eq_error_iff {draft : Serving} {problem : Problem} :
    draft.validate = .error problem ↔ draft.modelName = "" ∧ problem = .noModelName := by
  rw [validate, ← String.isEmpty_iff]
  split <;> simp [*, eq_comm]

theorem validate_eq_ok_iff {draft : Draft} {context : Context} :
    draft.validate = .ok context ↔
      draft.polling.elim (.ok .default) Polling.validate = .ok context.polling ∧
        draft.cleanup.elim (.ok .default) Cleanup.validate = .ok context.cleanup ∧
        draft.kubernetes.elim Kubernetes.defaultConfig Kubernetes.config = context.kubernetes ∧
        draft.serving.elim (.ok none) (fun serving => serving.validate.map some) = .ok context.serving := by
  obtain ⟨polling, cleanup, kubernetes, serving⟩ := context
  rw [validate]
  cases draft.polling.elim (.ok .default) Polling.validate with
  | error problem => simp [bind, Except.bind]
  | ok polling =>
    cases draft.cleanup.elim (.ok .default) Cleanup.validate with
    | error problem => simp [bind, Except.bind]
    | ok cleanup =>
      cases draft.serving with
      | none => simp [bind, Except.bind, pure, Except.pure]
      | some serving =>
        cases hserving : serving.validate with
        | error problem => simp [bind, Except.bind, hserving, Except.map]
        | ok serving => simp [bind, Except.bind, pure, Except.pure, hserving, Except.map]

/-- A section is looked at only if those before it are valid. -/
theorem validate_eq_error_iff {draft : Draft} {problem : Problem} :
    draft.validate = .error problem ↔
      draft.polling.elim (.ok .default) Polling.validate = .error problem ∨
        (∃ polling, draft.polling.elim (.ok .default) Polling.validate = .ok polling) ∧
          (draft.cleanup.elim (.ok .default) Cleanup.validate = .error problem ∨
            (∃ cleanup, draft.cleanup.elim (.ok .default) Cleanup.validate = .ok cleanup) ∧
              ∃ serving, draft.serving = some serving ∧ serving.validate = .error problem) := by
  rw [validate]
  cases draft.polling.elim (.ok .default) Polling.validate with
  | error first => simp [bind, Except.bind]
  | ok polling =>
    cases draft.cleanup.elim (.ok .default) Cleanup.validate with
    | error first => simp [bind, Except.bind]
    | ok cleanup =>
      cases draft.serving with
      | none => simp [bind, Except.bind, pure, Except.pure]
      | some serving =>
        cases hserving : serving.validate with
        | error first => simp [bind, Except.bind, hserving, Except.map]
        | ok serving => simp [bind, Except.bind, pure, Except.pure, hserving, Except.map]

/-! ### Missing sections -/

def Polling.blank : Polling := ⟨none, none⟩

theorem Polling.validate_getD_blank (polling : Option Polling) :
    (polling.getD .blank).validate = polling.elim (.ok .default) Polling.validate := by
  cases polling with
  | none =>
    have hblank : Polling.blank.validate = .ok .default :=
      validate_eq_ok_iff.2 ⟨by decide +kernel, by decide +kernel, by decide +kernel, by decide +kernel⟩
    exact hblank
  | some polling => rw [Option.getD_some, Option.elim_some]

def Kubernetes.blank : Kubernetes := ⟨none, none⟩

theorem Kubernetes.config_getD_blank (kubernetes : Option Kubernetes) :
    (kubernetes.getD .blank).config = kubernetes.elim defaultConfig config := by
  cases kubernetes <;> rfl

end PodRunner.Draft
