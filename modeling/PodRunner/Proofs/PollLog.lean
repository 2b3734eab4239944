import PodRunner.Proofs.WaitResult

/-!
# What a wait writes to the log

A round writes one event, which says what was made of the reply. The replies are the ones to come at the beginning
of the wait, in their order. Only a reply that leaves the calendar is not told of, and the wait breaks on it.
-/

namespace PodRunner.Runner

/-- The queries of a wait, its events and its outcome, for an orchestrator that is asked from the beginning of the
wait on and the time at the end of it. -/
inductive Told (r : Runner) (name : String) (deadline finish : Time) :
    Orchestrator → List Call → List Event → Outcome Unit → Prop
  | expired {o : Orchestrator} (hpast : ¬ finish < deadline) :
      Told r name deadline finish o [] [] (.failed (notRunningBefore name deadline))
  | ended {o : Orchestrator} (asked : Time) {outcome : Outcome Unit} {after : Runner}
      (hended : r.conclude (r.reading name (o.answer name r.ns 0)) = some (outcome, after)) :
      Told r name deadline finish o [.get name r.ns asked (o.answer name r.ns 0)]
        [r.report name (r.reading name (o.answer name r.ns 0))] outcome
  | broke {o : Orchestrator} {asked : Time} (hoverruns : r.Overruns asked (o.answer name r.ns 0)) :
      Told r name deadline finish o [.get name r.ns asked (o.answer name r.ns 0)] [] (.broken .timeOutOfRange)
  | next {o : Orchestrator} {asked : Time} {gets : List Call} {events : List Event} {outcome : Outcome Unit}
      (hopen : r.conclude (r.reading name (o.answer name r.ns 0)) = none)
      (hrest : Told r name deadline finish (o.query name r.ns asked).2 gets events outcome) :
      Told r name deadline finish o (.get name r.ns asked (o.answer name r.ns 0) :: gets)
        (r.report name (r.reading name (o.answer name r.ns 0)) :: events) outcome

theorem Trail.told {r after : Runner} {name : String} {deadline now finish : Time} {o : Orchestrator}
    {gets : List Call} {slept : List Duration} {events : List Event} {outcome : Outcome Unit}
    (h : Trail r name deadline o now gets slept events outcome after finish) :
    Told r name deadline finish o gets events outcome := by
  induction h with
  | expired hpast => exact .expired hpast
  | @ended _ now _ _ _ _ _ hended => exact .ended now hended
  | broke _ hoverruns => exact .broke hoverruns
  | next _ _ hopen _ ih => exact .next hopen ih

theorem pollUntil_told (r : Runner) (name : String) (deadline : Time) (s : Session Orchestrator) :
    let waited := r.pollUntil name deadline s
    ∃ gets events, waited.2.remote.calls = s.remote.calls ++ gets ∧ waited.2.events = s.events ++ events ∧
      Told r name deadline waited.2.clock.now s.remote gets events waited.1.1 := by
  obtain ⟨gets, _, events, hcalls, _, hevents, htrail⟩ := r.pollUntil_trail name deadline s
  exact ⟨gets, events, hcalls, hevents, htrail.told⟩

theorem waitUntilRunning_told {r : Runner} {name : String} (hawaits : r.Awaits name) (deadline : Time)
    (s : Session Orchestrator) :
    let waited := r.waitUntilRunning deadline s
    ∃ gets events, waited.2.remote.calls = s.remote.calls ++ gets ∧
      waited.2.events = s.events ++ .entered .waitUntilRunning :: events ++ [.left .waitUntilRunning] ∧
      Told r name deadline waited.2.clock.now s.remote gets events waited.1.1 := by
  intro waited
  have hwaited : waited = s.traced .waitUntilRunning (r.pollUntil name deadline) :=
    waitUntilRunning_eq hawaits deadline s
  obtain ⟨gets, events, hcalls, hevents, htold⟩ :=
    r.pollUntil_told name deadline (s.log (.entered .waitUntilRunning))
  rw [hwaited]
  refine ⟨gets, events, hcalls, ?_, htold⟩
  rw [Session.traced, Session.log_events, hevents, Session.log_events, List.append_assoc s.events]
  rfl

section Told

variable {r : Runner} {name : String} {deadline finish : Time} {o : Orchestrator}
  {gets : List Call} {events : List Event} {outcome : Outcome Unit}

/-- What becomes of one query of a wait. Where its reply does not settle the matter there is another one after it,
or the deadline has come. -/
theorem Told.get (h : Told r name deadline finish o gets events outcome) {k : Nat} (hk : k < gets.length) :
    let reply := o.answer name r.ns k
    ∃ asked, gets[k]? = some (.get name r.ns asked reply) ∧
      (r.Overruns asked reply ∧ outcome = .broken .timeOutOfRange ∧ k + 1 = gets.length ∨
        events[k]? = some (r.report name (r.reading name reply)) ∧
          (r.conclude (r.reading name reply) = none →
            k + 1 < gets.length ∨
              outcome = .failed (notRunningBefore name deadline) ∧ ¬ finish < deadline)) := by
  induction h generalizing k with
  | expired _ => exact absurd hk (Nat.not_lt_zero k)
  | ended asked hended =>
    obtain rfl : k = 0 := Nat.lt_one_iff.1 hk
    refine ⟨asked, rfl, Or.inr ⟨rfl, fun hopen => ?_⟩⟩
    rw [hended] at hopen
    cases hopen
  | @broke _ asked hoverruns =>
    obtain rfl : k = 0 := Nat.lt_one_iff.1 hk
    exact ⟨asked, rfl, Or.inl ⟨hoverruns, rfl, rfl⟩⟩
  | @next o asked gets _ _ _ hrest ih =>
    cases k with
    | zero =>
      refine ⟨asked, rfl, Or.inr ⟨rfl, fun _ => ?_⟩⟩
      cases hrest with
      | expired hpast => exact Or.inr ⟨rfl, hpast⟩
      | _ => exact Or.inl (by simp)
    | succ k =>
      have hless : k < gets.length := Nat.lt_of_succ_lt_succ hk
      obtain ⟨later, hcall, hbecomes⟩ := ih hless
      rw [Orchestrator.answer_query] at hcall hbecomes
      refine ⟨later, hcall, ?_⟩
      simp only [List.length_cons, Nat.add_lt_add_iff_right, Nat.add_right_cancel_iff, List.getElem?_cons_succ]
      exact hbecomes

end Told

end PodRunner.Runner
