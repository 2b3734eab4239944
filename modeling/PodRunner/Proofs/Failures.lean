import PodRunner.Proofs.Rejections
import PodRunner.Proofs.Renewal

/-!
# What an error leaves behind

A start that fails leaves the runner as it was. A wait that fails leaves it as it was or with another state, which
says how the wait failed. So a runner that could not be started has nothing in it from the attempts, and whatever
is asked of it next goes the way it goes for a runner that nothing has been done with.
-/

namespace PodRunner.Runner

section Step

variable {r after : Runner} {operation : Operation} {outcome : Outcome Answer} {calls : List Call}

theorem Step.start_failed {e : Error} (h : Step r .start (.failed e) after calls) : after = r := by
  cases h <;> rfl

theorem Step.stop_unfailed (h : Step r .stop outcome after calls) (e : Error) : outcome ≠ .failed e := by
  cases h with
  | @stopped disposed _ hnever _ =>
    cases disposed with
    | failed e => exact absurd rfl (hnever e)
    | _ => nofun

inductive WaitFailure (r : Runner) : Error → Runner → Prop
  | rejected (text : String) (hrejected : ∀ name, ¬ r.Awaits name) : WaitFailure r (.invalidState text) r
  | exceeded (text : String) : WaitFailure r (.deadlineExceeded text) { r with state := .timedOut }
  | aborted (phase : Phase) : WaitFailure r (.jobAborted phase) { r with state := .aborted }

/-- What a wait refuses: there is no instance, or it is known to have ended, or nobody wants to know any more. -/
def RefusesWait (r : Runner) : Prop := (∀ name, ¬ r.Awaits name) ∧ (r.instanceName = none ∨ r.state ≠ .running)

theorem Step.wait_refused_iff {deadline : Time} (h : Step r (.wait deadline) outcome after calls) :
    (∃ text, outcome = .failed (.invalidState text)) ↔ r.RefusesWait := by
  cases h with
  | waitRejected hrejected hrunning => exact iff_of_true ⟨_, rfl⟩ ⟨hrejected, hrunning⟩
  | waitedBefore hnamed hrunning =>
    refine iff_of_false (fun ⟨_, h⟩ => by cases h) ?_
    rintro ⟨_, hnone | hother⟩
    · rw [hnone] at hnamed
      cases hnamed
    · exact hother hrunning
  | waited hawaits hpolled =>
    refine iff_of_false ?_ fun hrefuses => hrefuses.1 _ hawaits
    rintro ⟨text, hfailed⟩
    cases hpolled.waitEnd <;> cases hfailed

theorem WaitEnd.failure {name : String} {gets : List Call} {outcome : Outcome Unit} {e : Error}
    (h : WaitEnd r name gets outcome after) (hfailed : outcome = .failed e) : WaitFailure r e after := by
  cases h with
  | running address => cases hfailed
  | aborted phase =>
    cases hfailed
    exact .aborted phase
  | timedOut text =>
    cases hfailed
    exact .exceeded text
  | broke _ _ => cases hfailed

theorem Step.wait_failed {deadline : Time} {e : Error} (h : Step r (.wait deadline) outcome after calls)
    (hfailed : outcome = .failed e) : WaitFailure r e after := by
  cases h with
  | waitRejected hrejected _ =>
    cases hfailed
    exact .rejected _ hrejected
  | waitedBefore _ _ => cases hfailed
  | @waited _ _ _ outcome _ _ hpolled =>
    cases outcome with
    | failed e =>
      cases hfailed
      exact hpolled.waitEnd.failure rfl
    | _ => cases hfailed

end Step

/-- What the ways in which an operation can fail leave of the runner and of the session. -/
structure Framed (r : Runner) (s : Session Orchestrator) : Prop where
  start_guarded : ¬ r.IsStartable → r.start s = ((.failed alreadyStarted, r), s.marked .start)
  start_unbuildable : ∀ e, r.IsStartable → Manifest.build r.workload r.owner = .error e →
    (∃ secs, e = Manifest.negativeDeadline secs) ∧ r.start s = ((.failed e, r), s.marked .start)
  start_failed : ∀ e, (r.start s).1.1 = .failed e → (r.start s).1.2 = r
  wait_guarded : ∀ deadline, r.RefusesWait →
    ∃ text, r.waitUntilRunning deadline s = ((.failed (.invalidState text), r), s.marked .waitUntilRunning)
  wait_guarded_only : ∀ deadline text, (r.waitUntilRunning deadline s).1.1 = .failed (.invalidState text) →
    r.RefusesWait
  wait_failed : ∀ deadline e, (r.waitUntilRunning deadline s).1.1 = .failed e →
    WaitFailure r e (r.waitUntilRunning deadline s).1.2
  stop_never_fails : ∀ e, (r.stop s).1.1 ≠ .failed e

theorem framed (r : Runner) (s : Session Orchestrator) : Framed r s := by
  have hwait : ∀ deadline e, (r.waitUntilRunning deadline s).1.1 = .failed e →
      WaitFailure r e (r.waitUntilRunning deadline s).1.2 := by
    intro deadline e hfailed
    obtain ⟨made, _, hstep⟩ := r.await_step deadline (s.log (.entered .waitUntilRunning))
    refine hstep.wait_failed ?_
    have hawait : (r.await deadline (s.log (.entered .waitUntilRunning))).1.1 = .failed e := hfailed
    rw [hawait]
    rfl
  have hrefused : ∀ deadline, (∃ text, (r.waitUntilRunning deadline s).1.1 = .failed (.invalidState text)) ↔
      r.RefusesWait := by
    intro deadline
    obtain ⟨made, _, hstep⟩ := r.await_step deadline (s.log (.entered .waitUntilRunning))
    rw [← hstep.wait_refused_iff]
    have hawait : (r.waitUntilRunning deadline s).1.1 =
        (r.await deadline (s.log (.entered .waitUntilRunning))).1.1 := rfl
    rw [hawait]
    cases (r.await deadline (s.log (.entered .waitUntilRunning))).1.1 <;> simp [Outcome.map]
  constructor
  case start_guarded => exact fun hstarted => start_of_started hstarted s
  case start_unbuildable =>
    exact fun e hstartable hbuild => ⟨build_error hbuild, start_of_unbuildable hstartable hbuild s⟩
  case start_failed =>
    intro e hfailed
    obtain ⟨made, _, hstep⟩ := r.submit_step (s.log (.entered .start))
    have hsubmit : (r.submit (s.log (.entered .start))).1.1 = .failed e := hfailed
    rw [hsubmit] at hstep
    exact hstep.start_failed
  case wait_guarded =>
    intro deadline hrefuses
    obtain ⟨text, hfailed⟩ := (hrefused deadline).2 hrefuses
    obtain ⟨outcome, hsettled⟩ := waitUntilRunning_of_settled hrefuses.1
    rw [hsettled] at hfailed
    cases hfailed
    exact ⟨text, hsettled deadline s⟩
  case wait_guarded_only => exact fun deadline text hfailed => (hrefused deadline).1 ⟨text, hfailed⟩
  case wait_failed => exact hwait
  case stop_never_fails =>
    intro e hfailed
    obtain ⟨made, _, hstep⟩ := r.dispose_step (s.log (.entered .stop))
    have hdispose : (r.dispose (s.log (.entered .stop))).1 = .failed e := hfailed
    exact hstep.stop_unfailed e (congrArg (Outcome.map Answer.stopped) hdispose)

/-! ### Attempts that come to nothing -/

/-- No instance has come of the operation, and the runner has not been stopped by it. -/
structure Performed.Futile (p : Performed) : Prop where
  not_stop : p.operation ≠ .stop
  unbroken : p.outcome.isBroken = false
  not_started : p.operation = .start → ∃ e, p.outcome = .failed e

theorem Step.eq_of_futile {r after : Runner} {operation : Operation} {outcome : Outcome Answer}
    {calls : List Call} (h : Step r operation outcome after calls) (hr : r.IsStartable)
    (hstop : operation ≠ .stop) (hstart : operation = .start → ∃ e, outcome = .failed e) : after = r := by
  cases h with
  | created _ _ _ =>
    obtain ⟨e, hfailed⟩ := hstart rfl
    cases hfailed
  | waited hawaits _ => exact absurd (hawaits.1.symm.trans hr.2) nofun
  | stopped _ _ => exact absurd rfl hstop
  | _ => rfl

theorem Path.leave_of_futile {r : Runner} {performed : List Performed} (h : Path r performed)
    (hr : r.IsStartable) (hfutile : ∀ p ∈ performed, p.Futile) : r.leave performed = r := by
  induction h with
  | nil r => rfl
  | cons hstep _ _ ih =>
    have hidle := hfutile _ List.mem_cons_self
    have hfirst := hstep.eq_of_futile hr hidle.not_stop hidle.not_started
    rw [hfirst] at ih
    rw [leave, hfirst]
    exact ih hr fun p hp => hfutile p (List.mem_cons_of_mem _ hp)

theorem Unused.isStartable {r : Runner} (h : r.Unused) : r.IsStartable := ⟨h.state_eq, h.instanceName_eq⟩

/-- Whatever a runner has been through, an error leaves no more in it than the state that tells of the error, and
a runner that no attempt could start goes on as one that was never asked to start: the same history, and the same
session behind the one that it already has. -/
theorem failures_leave_nothing {built : Runner} (hbuilt : Built built) (s : Session Orchestrator) :
    (∀ operations next, Framed (built.run s operations).1 next) ∧
      ∀ earlier, (∀ p ∈ built.history s earlier, p.Futile) →
        let tried := built.run s earlier
        tried.1 = built ∧ ∀ later,
          let fresh := built.run tried.2.renewed later
          built.history s (earlier ++ later) =
              built.history s earlier ++ built.history tried.2.renewed later ∧
            built.run s (earlier ++ later) = (fresh.1, fresh.2.after tried.2) := by
  refine ⟨fun operations next => framed _ next, ?_⟩
  intro earlier hfutile tried
  have hunchanged : (built.run s earlier).1 = built :=
    (built.run_eq_history s earlier).1.trans
      ((built.history_path s earlier).leave_of_futile hbuilt.unused.isStartable hfutile)
  refine ⟨hunchanged, ?_⟩
  intro later fresh
  obtain ⟨hrun, hhistory⟩ := run_append (fun p hp => (hfutile p hp).unbroken) later
  obtain ⟨hfresh, hnew⟩ := built.run_renewed tried.2 later
  rw [hrun, hhistory, hunchanged]
  exact ⟨congrArg (built.history s earlier ++ ·) hnew, hfresh⟩

/-- An orchestrator that refuses the first two creations and grants everything after them. -/
def reluctant : Session Orchestrator :=
  let script : Script :=
    ⟨fun k => .prompt (if k < 2 then .error (.network "refused") else .ok ⟨"modelserver-1", "team", none⟩),
      fun _ => .prompt (.ok ⟨.running, some "10.0.0.7"⟩), fun _ => .prompt (.ok ())⟩
  .starting .epoch (.scripted script fun _ => .prompt (.error (.internal "unused")))

/-- After two starts that failed the third one succeeds as a first one would. -/
theorem reluctant_leaves_nothing :
    let earlier := [Operation.start, .wait .latest, .start]
    let later := [Operation.start, .wait .latest]
    let tried := specimen.run reluctant earlier
    Built specimen ∧ (∀ p ∈ specimen.history reluctant earlier, p.Futile) ∧
      (reluctant.callsSince tried.2).length = 2 ∧ tried.1 = specimen ∧
      (specimen.run tried.2.renewed later).1.endpoint = some "10.0.0.7:8500" ∧
      (specimen.run reluctant (earlier ++ later)).1.endpoint = some "10.0.0.7:8500" := by
  intro earlier later tried
  have hbuilt : Built specimen := .new _ _
  have hhistory : specimen.history reluctant earlier =
      [⟨.start, .failed (.network "refused"), specimen, _⟩, ⟨.wait .latest, .failed notCreated, specimen, _⟩,
        ⟨.start, .failed (.network "refused"), specimen, _⟩] := rfl
  have hfutile : ∀ p ∈ specimen.history reluctant earlier, p.Futile := by
    rw [hhistory]
    intro p hp
    rcases List.mem_cons.1 hp with rfl | hp
    · exact ⟨nofun, rfl, fun _ => ⟨_, rfl⟩⟩
    rcases List.mem_cons.1 hp with rfl | hp
    · exact ⟨nofun, rfl, nofun⟩
    · rw [List.mem_singleton.1 hp]
      exact ⟨nofun, rfl, fun _ => ⟨_, rfl⟩⟩
  have hcalls : (reluctant.callsSince tried.2).length = 2 := by decide +kernel
  obtain ⟨htried, hlater⟩ := (failures_leave_nothing hbuilt reluctant).2 earlier hfutile
  have hfresh : (specimen.run tried.2.renewed later).1.endpoint = some "10.0.0.7:8500" := by decide +kernel
  refine ⟨hbuilt, hfutile, hcalls, htried, hfresh, ?_⟩
  rw [(hlater later).2]
  exact hfresh

end PodRunner.Runner
