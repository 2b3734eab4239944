import PodRunner.Proofs.Stopping
import PodRunner.Proofs.Waiting
import PodRunner.Runner.Run

/-!
# The transitions of a runner

What an operation can do to a runner, together with the calls that it makes: one rule for each way in which an
operation ends. The rules mention neither the clock nor the log, so everything that is said about the life of a
runner and about its calls is said about the rules. `perform_step` is the only place where the operations
themselves are taken apart.
-/

namespace PodRunner.Runner

/-- Nothing has been tried yet that could have made an instance. -/
def IsStartable (r : Runner) : Prop := r.state = .unstarted ∧ r.instanceName = none

def Awaits (r : Runner) (name : String) : Prop :=
  r.instanceName = some name ∧ (r.state = .pending ∨ r.state = .timedOut)

inductive Step (r : Runner) : Operation → Outcome Answer → Runner → List Call → Prop
  | startRejected (hstarted : ¬ r.IsStartable) : Step r .start (.failed alreadyStarted) r []
  | unbuildable {e : Error} (hstartable : r.IsStartable)
      (hbuild : Manifest.build r.workload r.owner = .error e) : Step r .start (.failed e) r []
  | notCreated {pod : Pod} {reply : Reply Instance} {e : Error} (hstartable : r.IsStartable)
      (hbuild : Manifest.build r.workload r.owner = .ok pod) (hreply : reply.result = .error e) :
      Step r .start (.failed e) r [.create r.ns pod reply]
  | creationBroke {pod : Pod} {reply : Reply Instance} {fault : Fault} (hstartable : r.IsStartable)
      (hbuild : Manifest.build r.workload r.owner = .ok pod) :
      Step r .start (.broken fault) r [.create r.ns pod reply]
  | created {pod : Pod} {reply : Reply Instance} {server : Instance} (hstartable : r.IsStartable)
      (hbuild : Manifest.build r.workload r.owner = .ok pod) (hreply : reply.result = .ok server) :
      Step r .start (.done .finished) { r with instanceName := some server.name, state := .pending }
        [.create r.ns pod reply]
  | waitRejected {deadline : Time} {text : String} (hrejected : ∀ name, ¬ r.Awaits name)
      (hrunning : r.instanceName = none ∨ r.state ≠ .running) :
      Step r (.wait deadline) (.failed (.invalidState text)) r []
  | waitedBefore {deadline : Time} (hnamed : r.instanceName.isSome = true) (hrunning : r.state = .running) :
      Step r (.wait deadline) (.done .finished) r []
  | waited {name : String} {deadline : Time} {gets : List Call} {outcome : Outcome Unit} {after : Runner}
      (hawaits : r.Awaits name) (hpolled : Polled r name deadline gets outcome after) :
      Step r (.wait deadline) (outcome.map fun _ => .finished) after gets
  | stopped {outcome : Outcome StopOutcome} {deletes : List Call} (hnever : ∀ e, outcome ≠ .failed e)
      (hdeletes : ∀ call ∈ deletes, ∃ name reply,
        r.instanceName = some name ∧ call = .delete name r.ns reply) :
      Step r .stop (outcome.map .stopped) r.halted deletes
  | passed {time : Duration} {outcome : Outcome Answer} : Step r (.pass time) outcome r []

/-! ### Every operation takes a step -/

theorem isStartable_iff {r : Runner} :
    r.IsStartable ↔ ¬ (r.state ≠ .unstarted ∨ r.instanceName.isSome = true) := by
  rw [IsStartable, not_or, Decidable.not_not, Option.not_isSome_iff_eq_none]

theorem submit_step (r : Runner) (s : Session Orchestrator) :
    ∃ made, (r.submit s).2.remote.calls = s.remote.calls ++ made ∧
      Step r .start ((r.submit s).1.1.map fun _ => .finished) (r.submit s).1.2 made := by
  by_cases hguard : r.state ≠ .unstarted ∨ r.instanceName.isSome
  · have hstarted : ¬ r.IsStartable := mt isStartable_iff.1 (not_not_intro hguard)
    rw [submit, if_pos hguard]
    exact ⟨[], (List.append_nil _).symm, .startRejected hstarted⟩
  · have hstartable : r.IsStartable := isStartable_iff.2 hguard
    rw [submit, if_neg hguard]
    cases hbuild : Manifest.build r.workload r.owner with
    | error e => exact ⟨[], (List.append_nil _).symm, .unbuildable hstartable hbuild⟩
    | ok pod =>
      dsimp only
      obtain ⟨houtcome, hremote, _⟩ := s.createInstance_spec r.ns pod
      have hcalls := s.remote.create_calls r.ns pod
      rw [← hremote] at hcalls
      have hresult := s.receive_outcome (s.remote.create r.ns pod).1
      rw [← houtcome] at hresult
      cases hcreate : s.createInstance r.ns pod with
      | mk outcome next =>
        rw [hcreate] at hcalls hresult
        dsimp only at hcalls hresult
        refine ⟨[.create r.ns pod (s.remote.create r.ns pod).1], ?_⟩
        cases hreply : (s.remote.create r.ns pod).1.result with
        | ok server =>
          rw [hreply] at hresult
          rcases hresult with rfl | ⟨fault, rfl⟩
          · exact ⟨hcalls, .created hstartable hbuild hreply⟩
          · exact ⟨hcalls, .creationBroke hstartable hbuild⟩
        | error e =>
          rw [hreply] at hresult
          rcases hresult with rfl | ⟨fault, rfl⟩
          · exact ⟨hcalls, .notCreated hstartable hbuild hreply⟩
          · exact ⟨hcalls, .creationBroke hstartable hbuild⟩

theorem await_step (r : Runner) (deadline : Time) (s : Session Orchestrator) :
    ∃ made, (r.await deadline s).2.remote.calls = s.remote.calls ++ made ∧
      Step r (.wait deadline) ((r.await deadline s).1.1.map fun _ => .finished)
        (r.await deadline s).1.2 made := by
  unfold await
  split
  · rename_i hname
    refine ⟨[], (List.append_nil _).symm, .waitRejected ?_ (Or.inl hname)⟩
    rintro name ⟨hsome, _⟩
    rw [hname] at hsome
    cases hsome
  · rename_i name hname hstate
    exact ⟨[], (List.append_nil _).symm, .waitedBefore (by rw [hname]; rfl) hstate⟩
  · rename_i name hname hstate
    obtain ⟨gets, hcalls, hpolled⟩ := r.pollUntil_polled name deadline s
    exact ⟨gets, hcalls, .waited ⟨hname, Or.inl hstate⟩ hpolled⟩
  · rename_i name hname hstate
    obtain ⟨gets, hcalls, hpolled⟩ := r.pollUntil_polled name deadline s
    exact ⟨gets, hcalls, .waited ⟨hname, Or.inr hstate⟩ hpolled⟩
  · rename_i name hname hrunning hpending htimedOut
    refine ⟨[], (List.append_nil _).symm, .waitRejected ?_ (Or.inr hrunning)⟩
    rintro _ ⟨_, hstate | hstate⟩
    · exact hpending hstate
    · exact htimedOut hstate

theorem dispose_step (r : Runner) (s : Session Orchestrator) :
    ∃ made, (r.dispose s).2.remote.calls = s.remote.calls ++ made ∧
      Step r .stop ((r.dispose s).1.map .stopped) r.halted made := by
  unfold dispose
  split
  · have hnever : ∀ e, Outcome.done StopOutcome.nothingToStop ≠ .failed e := nofun
    exact ⟨[], (List.append_nil _).symm, .stopped hnever fun _ h => absurd h List.not_mem_nil⟩
  · rename_i name hname
    obtain ⟨deletes, hcalls, hdeletes⟩ := r.cleanUp_deletes name s
    refine ⟨deletes, hcalls, .stopped (r.cleanUp_never_fails name s) ?_⟩
    intro call hcall
    obtain ⟨reply, hreply⟩ := hdeletes call hcall
    exact ⟨name, reply, hname, hreply⟩

/-- Every operation takes a step, whatever the replies are. -/
theorem perform_step (r : Runner) (s : Session Orchestrator) (operation : Operation) :
    ∃ made, (r.perform s operation).2.remote.calls = s.remote.calls ++ made ∧
      Step r operation (r.perform s operation).1.1 (r.perform s operation).1.2 made := by
  cases operation with
  | start => exact r.submit_step (s.log (.entered .start))
  | wait deadline => exact r.await_step deadline (s.log (.entered .waitUntilRunning))
  | stop => exact r.dispose_step (s.log (.entered .stop))
  | pass time =>
    have hremote := s.advance_remote time
    rw [perform]
    split <;> rename_i heq <;> rw [heq] at hremote
    · exact ⟨[], (congrArg Orchestrator.calls hremote).trans (List.append_nil _).symm, .passed⟩
    · exact ⟨[], (congrArg Orchestrator.calls hremote).trans (List.append_nil _).symm, .passed⟩

end PodRunner.Runner
