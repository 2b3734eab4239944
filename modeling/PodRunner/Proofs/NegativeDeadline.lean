import PodRunner.Proofs.Rejections
import PodRunner.Proofs.Submission

/-!
# Negative deadlines

A negative limit on the life of a Pod passes the validation of a context and is found only when the Pod is built.
That is soon enough: nothing that such a runner can be asked to do calls the orchestrator or sleeps. There is never
an instance, so there is nothing to wait for and nothing to stop, and a stop only changes the reason for which the
next start is refused.
-/

namespace PodRunner

theorem Draft.deadline_of_validate {draft : Draft} {kubernetes : Draft.Kubernetes} {context : Context}
    (hsection : draft.kubernetes = some kubernetes) (hvalid : draft.validate = .ok context) :
    context.kubernetes.activeDeadlineSeconds = kubernetes.activeDeadlineSeconds := by
  rw [(Draft.validate_eq_ok_iff_fills.1 hvalid).2.deadline_eq, hsection, Option.getD_some]

namespace Runner

/-- New runners with this limit in their workload, or in the draft that they come from. -/
inductive Limited (secs : Int) : Runner → Prop
  | given {workload : Workload} (owner : Owner) (hdeadline : workload.activeDeadlineSeconds = some secs) :
      Limited secs (new owner workload)
  | carried {draft : Draft} {kubernetes : Draft.Kubernetes} {context : Context} {source : OwnerSource}
      {modelPath : String} {s next : Session Orchestrator} {r : Runner}
      (hsection : draft.kubernetes = some kubernetes)
      (hdeadline : kubernetes.activeDeadlineSeconds = some secs) (hvalid : draft.validate = .ok context)
      (hbuilt : fromContext source context modelPath s = (.done r, next)) : Limited secs r

/-- What an operation answers while there can be no instance. -/
inductive Refuses (secs : Int) (stopped : Prop) : Operation → Outcome Answer → Prop
  | start (hbefore : ¬ stopped) : Refuses secs stopped .start (.failed (Manifest.negativeDeadline secs))
  | startStopped (hstopped : stopped) : Refuses secs stopped .start (.failed alreadyStarted)
  | wait (deadline : Time) : Refuses secs stopped (.wait deadline) (.failed notCreated)
  | stop : Refuses secs stopped .stop (.done (.stopped .nothingToStop))
  | pass (time : Duration) (outcome : Outcome Answer) : Refuses secs stopped (.pass time) outcome

/-- A runner that cannot get an instance, before its first stop or after it. -/
structure Barred (secs : Int) (r : Runner) : Prop where
  deadline_eq : r.workload.activeDeadlineSeconds = some secs
  instanceName_eq : r.instanceName = none
  state_eq : r.state = .unstarted ∨ r.state = .stopped

theorem Limited.unused {secs : Int} {r : Runner} (h : Limited secs r) : r.Unused := by
  cases h with
  | given owner _ => exact (Built.new owner _).unused
  | carried _ _ _ hbuilt => exact (Built.fromContext hbuilt).unused

theorem Limited.barred {secs : Int} {r : Runner} (h : Limited secs r) : r.Barred secs := by
  refine ⟨?_, h.unused.instanceName_eq, Or.inl h.unused.state_eq⟩
  cases h with
  | given owner hdeadline => exact hdeadline
  | carried hsection hdeadline hvalid hbuilt =>
    obtain ⟨owner, _, hassemble⟩ := fromContext_assembled hbuilt
    obtain ⟨_, _, workload, _, _, hworkload, rfl⟩ := assemble_ok hassemble
    obtain ⟨environment, _, rfl⟩ := ServingBinary.workload_ok hworkload
    exact (Draft.deadline_of_validate hsection hvalid).trans hdeadline

section Step

variable {secs : Int} {r : Runner}

theorem Barred.halted (h : r.Barred secs) : r.halted.Barred secs :=
  ⟨h.deadline_eq, h.instanceName_eq, Or.inr rfl⟩

/-- What is done to a runner without an instance concerns nobody else. -/
theorem Barred.perform (hneg : secs < 0) (h : r.Barred secs) (s : Session Orchestrator)
    (operation : Operation) :
    let performed := r.perform s operation
    performed.2.remote = s.remote ∧ performed.2.clock.sleeps = s.clock.sleeps ∧
      performed.1.2 = (if operation = .stop then r.halted else r) ∧
      Refuses secs (r.state = .stopped) operation performed.1.1 := by
  cases operation with
  | start =>
    rcases h.state_eq with hunstarted | hstopped
    · have hbuild : Manifest.build r.workload r.owner = .error (Manifest.negativeDeadline secs) :=
        Manifest.build_eq_error_iff.2 ⟨secs, h.deadline_eq, hneg, rfl⟩
      have hopen : r.state ≠ .stopped := by
        rw [hunstarted]
        decide
      rw [Runner.perform, start_of_unbuildable ⟨hunstarted, h.instanceName_eq⟩ hbuild]
      exact ⟨rfl, rfl, rfl, .start hopen⟩
    · have hstarted : ¬ r.IsStartable := by
        rintro ⟨hunstarted, _⟩
        cases hunstarted.symm.trans hstopped
      rw [Runner.perform, start_of_started hstarted]
      exact ⟨rfl, rfl, rfl, .startStopped hstopped⟩
  | wait deadline =>
    rw [Runner.perform, waitUntilRunning_unnamed h.instanceName_eq]
    exact ⟨rfl, rfl, rfl, .wait deadline⟩
  | stop =>
    rw [Runner.perform, stop_of_nameless h.instanceName_eq]
    exact ⟨rfl, rfl, rfl, .stop⟩
  | pass time =>
    have hremote := s.advance_remote time
    have hsleeps : (s.advance time).2.clock.sleeps = s.clock.sleeps := by
      simp only [Session.advance, Clock.advance]
      cases s.clock.now.later? (Clock.move time) <;> rfl
    rw [Runner.perform]
    split <;> rename_i hadvance <;> rw [hadvance] at hremote hsleeps
    · exact ⟨hremote, hsleeps, rfl, .pass time _⟩
    · exact ⟨hremote, hsleeps, rfl, .pass time _⟩

end Step

theorem Refuses.of_iff {secs : Int} {stopped other : Prop} {operation : Operation} {outcome : Outcome Answer}
    (h : Refuses secs stopped operation outcome) (hiff : stopped ↔ other) :
    Refuses secs other operation outcome := by
  rw [← propext hiff]
  exact h

theorem Barred.run {secs : Int} {r : Runner} (hneg : secs < 0) (h : r.Barred secs) (s : Session Orchestrator)
    (operations : List Operation) :
    let ended := (r.run s operations).2
    ended.remote = s.remote ∧ ended.clock.sleeps = s.clock.sleeps ∧
      ∀ earlier p later, r.history s operations = earlier ++ p :: later →
        Refuses secs (r.state = .stopped ∨ ∃ q ∈ earlier, q.operation = .stop) p.operation p.outcome := by
  dsimp only
  induction operations generalizing r s with
  | nil => exact ⟨rfl, rfl, fun earlier p later hsplit => absurd hsplit (by simp [history])⟩
  | cons operation rest ih =>
    obtain ⟨hremote, hsleeps, hafter, hfirst⟩ := h.perform hneg s operation
    rcases hperform : r.perform s operation with ⟨⟨outcome, after⟩, next⟩
    rw [hperform] at hremote hsleeps hafter hfirst
    dsimp only at hremote hsleeps hafter hfirst
    have hbarred : after.Barred secs := by
      rw [hafter]
      split
      · exact h.halted
      · exact h
    have hstopped : after.state = .stopped ↔ r.state = .stopped ∨ operation = .stop := by
      rw [hafter]
      split <;> rename_i hoperation <;> simp [hoperation, Runner.halted]
    obtain ⟨hlastRemote, hlastSleeps, hlater⟩ := ih hbarred next
    rw [run_cons hperform, history_cons hperform]
    refine ⟨?_, ?_, ?_⟩
    · split
      · exact hremote
      · exact hlastRemote.trans hremote
    · split
      · exact hsleeps
      · exact hlastSleeps.trans hsleeps
    · intro earlier p later hsplit
      cases earlier with
      | nil =>
        obtain ⟨rfl, -⟩ := List.cons.inj hsplit
        exact hfirst.of_iff (by simp)
      | cons q earlier =>
        obtain ⟨rfl, hrest⟩ := List.cons.inj hsplit
        split at hrest
        · exact absurd hrest (by simp)
        · refine (hlater earlier p later hrest).of_iff ?_
          rw [hstopped, or_assoc]
          simp

/-- A runner with a negative limit never calls the orchestrator and never sleeps, in whatever order it is started,
waited for and stopped. Its starts are refused for the limit before the first stop and for the stop after it, its
waits because there is no instance, and its stops find nothing to stop. -/
theorem negative_deadline_submits_nothing {secs : Int} (hneg : secs < 0) {built : Runner}
    (hlimited : Limited secs built) (s : Session Orchestrator) (operations : List Operation) :
    let ended := (built.run s operations).2
    ended.remote = s.remote ∧ ended.clock.sleeps = s.clock.sleeps ∧
      ∀ earlier p later, built.history s operations = earlier ++ p :: later →
        p.calls = [] ∧ Refuses secs (∃ q ∈ earlier, q.operation = .stop) p.operation p.outcome := by
  intro ended
  obtain ⟨hremote, hsleeps, hrefused⟩ := hlimited.barred.run hneg s operations
  refine ⟨hremote, hsleeps, fun earlier p later hsplit => ⟨?_, ?_⟩⟩
  · have hcalls := (built.run_eq_history s operations).2
    rw [hremote] at hcalls
    have hnone := List.append_right_eq_self.1 hcalls.symm
    rw [callsOf, List.flatMap_eq_nil_iff] at hnone
    exact hnone p (by rw [hsplit]; simp)
  · refine (hrefused earlier p later hsplit).of_iff ?_
    rw [hlimited.unused.state_eq]
    simp

end Runner

/-- A draft that validation accepts although its limit is negative. -/
def Draft.hopeless : Draft := { taxi with kubernetes := some ⟨none, some (-1)⟩ }

def Context.hopeless : Context := { taxi with kubernetes := ⟨none, some (-1)⟩ }

namespace Runner

def hopeless : Runner :=
  { taxi with workload := { taxi.workload with serviceAccountName := none, activeDeadlineSeconds := some (-1) } }

theorem hopeless_submits_nothing :
    let operations := [Operation.start, .wait .latest, .start, .stop, .start, .wait .latest, .stop]
    let ended := (hopeless.run obliging operations).2
    (-1 : Int) < 0 ∧ Draft.hopeless.validate = .ok .hopeless ∧ Limited (-1) hopeless ∧
      (hopeless.history obliging operations).map (·.outcome) =
        [.failed (Manifest.negativeDeadline (-1)), .failed notCreated, .failed (Manifest.negativeDeadline (-1)),
          .done (.stopped .nothingToStop), .failed alreadyStarted, .failed notCreated,
          .done (.stopped .nothingToStop)] ∧
      ended.remote = obliging.remote ∧ ended.clock.sleeps = [] ∧
      ∀ p ∈ hopeless.history obliging operations, p.calls = [] := by
  intro operations ended
  have hvalid : Draft.hopeless.validate = .ok .hopeless := by decide +kernel
  have hdone : (fromContext (.known (.ok specimen.owner)) .hopeless
      "gs://bucket/serving/chicago-taxi/7//" obliging).1 = .done hopeless := by decide +kernel
  have hlimited : Limited (-1) hopeless := .carried rfl rfl hvalid (Prod.ext hdone rfl)
  have houtcomes : (hopeless.history obliging operations).map (·.outcome) =
      [.failed (Manifest.negativeDeadline (-1)), .failed notCreated, .failed (Manifest.negativeDeadline (-1)),
        .done (.stopped .nothingToStop), .failed alreadyStarted, .failed notCreated,
        .done (.stopped .nothingToStop)] := by decide +kernel
  obtain ⟨hremote, hsleeps, hrefused⟩ :=
    negative_deadline_submits_nothing (by decide) hlimited obliging operations
  refine ⟨by decide, hvalid, hlimited, houtcomes, hremote, hsleeps, fun p hp => ?_⟩
  obtain ⟨earlier, later, hsplit⟩ := List.append_of_mem hp
  exact (hrefused earlier p later hsplit).1

end Runner

end PodRunner
