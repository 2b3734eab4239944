import PodRunner.Proofs.Transitions

/-!
# Histories

A run as the list of the operations that were performed, each with the runner that it left and the calls that it
made. A history is a path of transitions, so a property of runners that every transition keeps holds all along
it, and what is true of the calls of one transition is true of all calls.
-/

namespace PodRunner.Runner

structure Performed where
  operation : Operation
  outcome : Outcome Answer
  runner : Runner
  calls : List Call

/-- The operations of a run, up to the first one that breaks. -/
def history (r : Runner) (s : Session Orchestrator) : List Operation → List Performed
  | [] => []
  | operation :: rest =>
    let ((outcome, after), next) := r.perform s operation
    ⟨operation, outcome, after, s.callsSince next⟩ ::
      if outcome.isBroken then [] else after.history next rest

def callsOf (performed : List Performed) : List Call := performed.flatMap (·.calls)

@[simp] theorem callsOf_cons (p : Performed) (rest : List Performed) :
    callsOf (p :: rest) = p.calls ++ callsOf rest :=
  List.flatMap_cons

def leave (r : Runner) : List Performed → Runner
  | [] => r
  | p :: rest => leave p.runner rest

/-- Transitions one after the other. Nothing comes after one that breaks. -/
inductive Path : Runner → List Performed → Prop
  | nil (r : Runner) : Path r []
  | cons {r : Runner} {p : Performed} {rest : List Performed}
      (hstep : Step r p.operation p.outcome p.runner p.calls)
      (hlast : p.outcome.isBroken = true → rest = []) (hrest : Path p.runner rest) : Path r (p :: rest)

section Unfolding

variable {r after : Runner} {s next : Session Orchestrator} {operation : Operation} {outcome : Outcome Answer}
  (hperform : r.perform s operation = ((outcome, after), next)) (rest : List Operation)

include hperform

theorem history_cons :
    r.history s (operation :: rest) =
      ⟨operation, outcome, after, s.callsSince next⟩ ::
        if outcome.isBroken then [] else after.history next rest := by
  rw [history, hperform]

theorem run_cons :
    r.run s (operation :: rest) = if outcome.isBroken then (after, next) else after.run next rest := by
  rw [run, hperform]
  cases outcome <;> rfl

end Unfolding

theorem history_path (r : Runner) (s : Session Orchestrator) (operations : List Operation) :
    Path r (r.history s operations) := by
  induction operations generalizing r s with
  | nil => exact .nil r
  | cons operation rest ih =>
    obtain ⟨made, hcalls, hstep⟩ := r.perform_step s operation
    rw [← Session.callsSince_of_append hcalls] at hstep
    rcases hperform : r.perform s operation with ⟨⟨outcome, after⟩, next⟩
    rw [hperform] at hstep
    rw [history_cons hperform]
    refine .cons hstep (fun hbroken => if_pos hbroken) ?_
    split
    · exact .nil after
    · exact ih after next

/-- A history leads where the run leads, and has the calls of the run. -/
theorem run_eq_history (r : Runner) (s : Session Orchestrator) (operations : List Operation) :
    (r.run s operations).1 = r.leave (r.history s operations) ∧
      (r.run s operations).2.remote.calls = s.remote.calls ++ callsOf (r.history s operations) := by
  induction operations generalizing r s with
  | nil => exact ⟨rfl, (List.append_nil _).symm⟩
  | cons operation rest ih =>
    obtain ⟨made, hcalls, _⟩ := r.perform_step s operation
    have hsince := Session.callsSince_of_append hcalls
    rcases hperform : r.perform s operation with ⟨⟨outcome, after⟩, next⟩
    rw [hperform] at hcalls hsince
    rw [run_cons hperform, history_cons hperform, hsince]
    split
    · refine ⟨rfl, ?_⟩
      rw [hcalls, callsOf_cons]
      exact congrArg (s.remote.calls ++ ·) (List.append_nil made).symm
    · obtain ⟨hleads, hrest⟩ := ih after next
      refine ⟨hleads, ?_⟩
      rw [hrest, hcalls, callsOf_cons, List.append_assoc]

theorem run_append {r : Runner} {s : Session Orchestrator} {earlier : List Operation}
    (hunbroken : ∀ p ∈ r.history s earlier, p.outcome.isBroken = false) (later : List Operation) :
    r.run s (earlier ++ later) = (r.run s earlier).1.run (r.run s earlier).2 later ∧
      r.history s (earlier ++ later) =
        r.history s earlier ++ (r.run s earlier).1.history (r.run s earlier).2 later := by
  induction earlier generalizing r s with
  | nil => exact ⟨rfl, rfl⟩
  | cons operation rest ih =>
    rcases hperform : r.perform s operation with ⟨⟨outcome, after⟩, next⟩
    rw [history_cons hperform] at hunbroken
    have hfirst : outcome.isBroken = false := hunbroken _ List.mem_cons_self
    have hopen : ¬ outcome.isBroken = true := by
      rw [hfirst]
      nofun
    rw [if_neg hopen] at hunbroken
    obtain ⟨hrun, hhistory⟩ := ih fun p hp => hunbroken p (List.mem_cons_of_mem _ hp)
    rw [List.cons_append, run_cons hperform, run_cons hperform, history_cons hperform,
      history_cons hperform, if_neg hopen, if_neg hopen, if_neg hopen, if_neg hopen, hrun, hhistory]
    exact ⟨rfl, rfl⟩

/-! ### What transitions keep -/

theorem Path.all_calls {I : Runner → Prop} {Q : Call → Prop}
    (hkeeps : ∀ {r operation outcome after calls}, I r → Step r operation outcome after calls → I after)
    (hcalls : ∀ {r operation outcome after calls}, I r → Step r operation outcome after calls →
      ∀ call ∈ calls, Q call)
    {r : Runner} {performed : List Performed} (h : Path r performed) (hr : I r) :
    ∀ call ∈ callsOf performed, Q call := by
  induction h with
  | nil r => exact fun _ hcall => absurd hcall List.not_mem_nil
  | cons hstep _ _ ih =>
    intro call hcall
    rw [callsOf_cons] at hcall
    rcases List.mem_append.1 hcall with hcall | hcall
    · exact hcalls hr hstep call hcall
    · exact ih (hkeeps hr hstep) call hcall

/-- What the transitions of some operations keep, a run of such operations keeps. -/
theorem run_keeps {I : Runner → Prop} {P : Operation → Prop}
    (hkeeps : ∀ {r operation outcome after calls}, P operation → I r →
      Step r operation outcome after calls → I after)
    {r : Runner} (hr : I r) (s : Session Orchestrator) {operations : List Operation}
    (hallowed : ∀ operation ∈ operations, P operation) : I (r.run s operations).1 := by
  induction operations generalizing r s with
  | nil => exact hr
  | cons operation rest ih =>
    obtain ⟨made, _, hstep⟩ := r.perform_step s operation
    have hnext := hkeeps (hallowed operation List.mem_cons_self) hr hstep
    rcases hperform : r.perform s operation with ⟨⟨outcome, after⟩, next⟩
    rw [hperform] at hnext
    rw [run_cons hperform]
    split
    · exact hnext
    · exact ih hnext next fun later hlater => hallowed later (List.mem_cons_of_mem operation hlater)

theorem Path.split {r : Runner} {earlier later : List Performed} {p : Performed}
    (h : Path r (earlier ++ p :: later)) :
    ∃ before, Step before p.operation p.outcome p.runner p.calls ∧ Path p.runner later := by
  induction earlier generalizing r with
  | nil =>
    cases h with
    | cons hstep _ hrest => exact ⟨r, hstep, hrest⟩
  | cons first earlier ih =>
    cases h with
    | cons _ _ hrest => exact ih hrest

end PodRunner.Runner
