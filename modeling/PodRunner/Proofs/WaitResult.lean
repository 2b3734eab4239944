import Mathlib.Data.Rat.Floor
import PodRunner.Proofs.Invariant

/-!
# The result of a wait

Where replies let no time pass, the rounds of a wait begin one interval after the other. The first reply that
settles anything ends the wait if its round begins before the deadline. If there is none, the wait asks in every
round that begins before the deadline, sleeps exactly up to it and gives up. `Rounds` is the loop invariant: it
ties the clock, the sleeps, the queries and the replies still to come to the number of rounds.
-/

namespace PodRunner.Runner

/-! ### Replies that settle the matter -/

/-- How a wait ends with a reply that arrives in time and settles the matter, and the runner after it. -/
inductive Decides (r : Runner) (reply : Reply InstanceStatus) : Outcome Unit → Runner → Prop
  | running {address : String} (hintime : reply.delay ≤ r.polling.timeout)
      (hresult : reply.result = .ok ⟨.running, some address⟩) :
      Decides r reply (.done ()) { r with endpoint := some (r.endpointAt address), state := .running }
  | exited {phase : Phase} {address : Option String} (hintime : reply.delay ≤ r.polling.timeout)
      (hresult : reply.result = .ok ⟨phase, address⟩) (hphase : phase = .succeeded ∨ phase = .failed) :
      Decides r reply (.failed (.jobAborted phase)) { r with state := .aborted }

def Decisive (r : Runner) (reply : Reply InstanceStatus) : Prop :=
  ∃ outcome after, Decides r reply outcome after

theorem conclude_ofStatus {r : Runner} {status : InstanceStatus} {outcome : Outcome Unit} {after : Runner}
    {reply : Reply InstanceStatus} (hintime : reply.delay ≤ r.polling.timeout)
    (hresult : reply.result = .ok status)
    (h : r.conclude (.ofStatus status) = some (outcome, after)) : Decides r reply outcome after := by
  obtain ⟨phase, address⟩ := status
  unfold Observation.ofStatus at h
  split at h
  · rename_i hrunning haddress
    cases hrunning
    cases haddress
    cases h
    exact .running hintime hresult
  · split at h
    · rename_i hterminal
      cases h
      exact .exited hintime hresult (Phase.isTerminal_iff.1 hterminal)
    · cases h

theorem decides_iff {r : Runner} {reply : Reply InstanceStatus} {outcome : Outcome Unit} {after : Runner}
    (name : String) :
    Decides r reply outcome after ↔ r.conclude (r.reading name reply) = some (outcome, after) := by
  constructor
  · intro h
    cases h with
    | running hintime hresult =>
      have hlate : ¬ r.polling.timeout < reply.delay := Nat.not_lt.2 hintime
      rw [reading, if_neg hlate, hresult]
      rfl
    | exited hintime hresult hphase =>
      have hlate : ¬ r.polling.timeout < reply.delay := Nat.not_lt.2 hintime
      rw [reading, if_neg hlate, hresult]
      rcases hphase with rfl | rfl <;> rfl
  · intro h
    unfold reading at h
    split at h
    · cases h
    · rename_i hintime
      split at h
      · rename_i status hresult
        exact conclude_ofStatus (Nat.not_lt.1 hintime) hresult h
      · cases h

theorem conclude_eq_none {r : Runner} {reply : Reply InstanceStatus} (h : ¬ Decisive r reply)
    (name : String) : r.conclude (r.reading name reply) = none := by
  rw [Option.eq_none_iff_forall_ne_some]
  rintro ⟨outcome, after⟩ hended
  exact h ⟨outcome, after, (decides_iff name).2 hended⟩

/-! ### Rounds -/

def queries (r : Runner) (name : String) (s : Session Orchestrator) (rounds : Nat) : List Call :=
  (List.range rounds).map fun k =>
    .get name r.ns (s.clock.now.after (k * r.polling.interval.nanos)) (s.remote.answer name r.ns k)

theorem queries_succ (r : Runner) (name : String) (s : Session Orchestrator) (rounds : Nat) :
    r.queries name s (rounds + 1) = r.queries name s rounds ++
      [.get name r.ns (s.clock.now.after (rounds * r.polling.interval.nanos))
        (s.remote.answer name r.ns rounds)] := by
  rw [queries, List.range_succ, List.map_append]
  rfl

/-- A later session, after rounds that settled nothing and were slept through in full. -/
structure Rounds (r : Runner) (name : String) (s : Session Orchestrator) (rounds : Nat)
    (t : Session Orchestrator) : Prop where
  now_eq : t.clock.now = s.clock.now.after (rounds * r.polling.interval.nanos)
  sleeps_eq : t.clock.sleeps = s.clock.sleeps ++ List.replicate rounds r.polling.interval
  calls_eq : t.remote.calls = s.remote.calls ++ r.queries name s rounds
  answer_eq : ∀ k, t.remote.answer name r.ns k = s.remote.answer name r.ns (rounds + k)

theorem Rounds.zero (r : Runner) (name : String) (s : Session Orchestrator) : Rounds r name s 0 s where
  now_eq := by rw [Nat.zero_mul, Time.after_zero]
  sleeps_eq := (List.append_nil _).symm
  calls_eq := (List.append_nil _).symm
  answer_eq k := by rw [Nat.zero_add]

section Still

variable {r : Runner} {name : String} {s t : Session Orchestrator} {deadline : Time} {n : Nat}

theorem poll_still (hstill : Clock.move (r.passing (t.remote.answer name r.ns 0)) = 0) :
    ∃ polled, r.poll name t = (r.conclude (r.reading name (t.remote.answer name r.ns 0)), polled) ∧
      polled.clock = t.clock ∧ polled.remote = (t.remote.query name r.ns t.clock.now).2 := by
  let asked : Session Orchestrator := { t with remote := (t.remote.query name r.ns t.clock.now).2 }
  have hasked : t.queryInstance name r.ns = (t.remote.answer name r.ns 0, asked) := by
    rw [← t.remote.query_reply name r.ns t.clock.now]
    rfl
  have htaken : asked.advance (r.passing (t.remote.answer name r.ns 0)) = (.ok (), asked) := by
    simp only [Session.advance, Clock.advance, hstill, Time.later?_zero]
  exact ⟨_, poll_ok hasked htaken, rfl, rfl⟩

theorem Rounds.poll (h : Rounds r name s n t)
    (hstill : Clock.move (r.passing (s.remote.answer name r.ns n)) = 0) :
    ∃ polled, r.poll name t = (r.conclude (r.reading name (s.remote.answer name r.ns n)), polled) ∧
      polled.clock = t.clock ∧
      polled.remote.calls = s.remote.calls ++ r.queries name s (n + 1) ∧
      ∀ k, polled.remote.answer name r.ns k = s.remote.answer name r.ns (n + 1 + k) := by
  have hfirst : t.remote.answer name r.ns 0 = s.remote.answer name r.ns n := h.answer_eq 0
  rw [← hfirst] at hstill
  obtain ⟨polled, hpoll, hclock, hremote⟩ := poll_still hstill
  refine ⟨polled, ?_, hclock, ?_, ?_⟩
  · rw [hpoll, hfirst]
  · rw [hremote, t.remote.query_calls, t.remote.query_reply, hfirst, h.calls_eq, h.now_eq, queries_succ,
      List.append_assoc]
  · intro k
    rw [hremote, t.remote.answer_query, h.answer_eq, Nat.add_assoc, Nat.add_comm 1 k]

theorem Rounds.undecided (h : Rounds r name s n t)
    (hstill : Clock.move (r.passing (s.remote.answer name r.ns n)) = 0)
    (hopen : ¬ Decisive r (s.remote.answer name r.ns n)) (hbefore : t.clock.now < deadline) :
    ∃ u, r.pollUntil name deadline t = r.pollUntil name deadline u ∧
      u.clock.now = t.clock.now.after (r.pause t.clock.now deadline).nanos ∧
      u.clock.sleeps = t.clock.sleeps ++ [r.pause t.clock.now deadline] ∧
      u.remote.calls = s.remote.calls ++ r.queries name s (n + 1) ∧
      ∀ k, u.remote.answer name r.ns k = s.remote.answer name r.ns (n + 1 + k) := by
  obtain ⟨polled, hpoll, hclock, hcalls, hanswer⟩ := h.poll hstill
  rw [conclude_eq_none hopen name] at hpoll
  refine ⟨r.rested deadline polled, pollUntil_next hbefore hpoll, ?_, ?_, hcalls, hanswer⟩
  · rw [rested, hclock]
  · rw [rested, hclock]

theorem pause_eq_interval {now : Time} (h : now.nanos + r.polling.interval.nanos ≤ deadline.nanos) :
    r.pause now deadline = r.polling.interval := by
  have hle : r.polling.interval.nanos ≤ (Time.remaining now deadline).nanos := by
    show _ ≤ (deadline.nanos - now.nanos).toNat
    omega
  exact congrArg Duration.mk (Nat.min_eq_left hle)

theorem Rounds.next (h : Rounds r name s n t)
    (hstill : Clock.move (r.passing (s.remote.answer name r.ns n)) = 0)
    (hopen : ¬ Decisive r (s.remote.answer name r.ns n))
    (hfits : s.clock.now.nanos + ((n + 1) * r.polling.interval.nanos : Nat) ≤ deadline.nanos) :
    ∃ u, r.pollUntil name deadline t = r.pollUntil name deadline u ∧ Rounds r name s (n + 1) u := by
  have hpos := r.polling.interval_pos
  rw [Nat.succ_mul] at hfits
  have hnow : t.clock.now.nanos = s.clock.now.nanos + (n * r.polling.interval.nanos : Nat) := by
    rw [h.now_eq]
    exact Time.nanos_after (u := deadline) (by omega)
  have hbefore : t.clock.now < deadline := Time.lt_def.2 (by omega)
  have hpause : r.pause t.clock.now deadline = r.polling.interval := pause_eq_interval (by omega)
  obtain ⟨u, hpolls, hlater, hsleeps, hcalls, hanswer⟩ := h.undecided hstill hopen hbefore
  rw [hpause] at hlater hsleeps
  refine ⟨u, hpolls, ?_, ?_, hcalls, hanswer⟩
  · rw [hlater, h.now_eq, Time.after_after hfits, Nat.succ_mul]
  · rw [hsleeps, h.sleeps_eq, List.append_assoc, List.replicate_succ']

/-- As long as nothing is settled, every round that ends by the deadline takes exactly one interval. -/
theorem rounds_undecided (hstill : ∀ k, Clock.move (r.passing (s.remote.answer name r.ns k)) = 0)
    (hopen : ∀ k < n, ¬ Decisive r (s.remote.answer name r.ns k))
    (hfits : s.clock.now.nanos + (n * r.polling.interval.nanos : Nat) ≤ deadline.nanos) :
    ∃ t, r.pollUntil name deadline s = r.pollUntil name deadline t ∧ Rounds r name s n t := by
  induction n with
  | zero => exact ⟨s, rfl, .zero r name s⟩
  | succ n ih =>
    have hearlier := hfits
    rw [Nat.succ_mul] at hearlier
    obtain ⟨t, hpolls, hrounds⟩ := ih (fun k hk => hopen k (by omega)) (by omega)
    obtain ⟨u, hnext, hmore⟩ := hrounds.next (hstill n) (hopen n (by omega)) hfits
    exact ⟨u, hpolls.trans hnext, hmore⟩

/-- A reply that settles the matter before the deadline ends the wait in its round. -/
theorem pollUntil_decided (hstill : ∀ k, Clock.move (r.passing (s.remote.answer name r.ns k)) = 0)
    (hopen : ∀ k < n, ¬ Decisive r (s.remote.answer name r.ns k))
    (hdecisive : Decisive r (s.remote.answer name r.ns n))
    (hbefore : s.clock.now.nanos + (n * r.polling.interval.nanos : Nat) < deadline.nanos) :
    let waited := r.pollUntil name deadline s
    Decides r (s.remote.answer name r.ns n) waited.1.1 waited.1.2 ∧
      waited.2.remote.calls = s.remote.calls ++ r.queries name s (n + 1) ∧
      waited.2.clock.sleeps = s.clock.sleeps ++ List.replicate n r.polling.interval ∧
      waited.2.clock.now.nanos = s.clock.now.nanos + (n * r.polling.interval.nanos : Nat) := by
  intro waited
  obtain ⟨t, hpolls, hrounds⟩ := rounds_undecided hstill hopen (Int.le_of_lt hbefore)
  have hnow : t.clock.now.nanos = s.clock.now.nanos + (n * r.polling.interval.nanos : Nat) := by
    rw [hrounds.now_eq]
    exact Time.nanos_after (Int.le_of_lt hbefore)
  obtain ⟨polled, hpoll, hclock, hcalls, _⟩ := hrounds.poll (hstill n)
  obtain ⟨outcome, after, hdecides⟩ := hdecisive
  rw [(decides_iff name).1 hdecides] at hpoll
  have htime : t.clock.now < deadline := Time.lt_def.2 (by omega)
  have hwaited : waited = ((outcome, after), polled) := hpolls.trans (pollUntil_ended htime hpoll)
  rw [hwaited]
  refine ⟨hdecides, hcalls, ?_, ?_⟩
  · rw [hclock, hrounds.sleeps_eq]
  · rw [hclock, hnow]

/-- How many rounds begin before the deadline, the first of them at `start`. -/
def roundsBefore (r : Runner) (start deadline : Time) : Nat :=
  ⌈((deadline.nanos - start.nanos : Int) : ℚ) / (r.polling.interval.nanos : ℚ)⌉₊

theorem lt_roundsBefore {start : Time} {k : Nat} :
    k < r.roundsBefore start deadline ↔
      start.nanos + (k * r.polling.interval.nanos : Nat) < deadline.nanos := by
  have hpos : (0 : ℚ) < r.polling.interval.nanos := Nat.cast_pos.2 r.polling.interval_pos
  have hcast : (k : ℚ) * r.polling.interval.nanos = ((k * r.polling.interval.nanos : Nat) : Int) := by
    push_cast
    rfl
  rw [roundsBefore, Nat.lt_ceil, lt_div_iff₀ hpos, hcast, Int.cast_lt]
  omega

theorem pause_eq_rest {now : Time} (hbefore : now.nanos ≤ deadline.nanos)
    (hlast : deadline.nanos ≤ now.nanos + r.polling.interval.nanos) :
    ((r.pause now deadline).nanos : Int) = deadline.nanos - now.nanos := by
  show ((min r.polling.interval.nanos (deadline.nanos - now.nanos).toNat : Nat) : Int) = _
  omega

/-- The last round before the deadline sleeps for what is left and reaches the deadline exactly. -/
theorem Rounds.expires (h : Rounds r name s n t)
    (hstill : Clock.move (r.passing (s.remote.answer name r.ns n)) = 0)
    (hopen : ¬ Decisive r (s.remote.answer name r.ns n))
    (hbefore : s.clock.now.nanos + (n * r.polling.interval.nanos : Nat) < deadline.nanos)
    (hlast : deadline.nanos ≤ s.clock.now.nanos + ((n + 1) * r.polling.interval.nanos : Nat)) :
    ∃ ended, r.pollUntil name deadline t =
        ((.failed (notRunningBefore name deadline), { r with state := .timedOut }), ended) ∧
      ended.remote.calls = s.remote.calls ++ r.queries name s (n + 1) ∧
      (∃ last : Duration,
        ended.clock.sleeps = s.clock.sleeps ++ (List.replicate n r.polling.interval ++ [last]) ∧
          (last.nanos : Int) =
            deadline.nanos - s.clock.now.nanos - (n * r.polling.interval.nanos : Nat)) ∧
      ended.clock.now.nanos = deadline.nanos := by
  rw [Nat.succ_mul] at hlast
  have hnow : t.clock.now.nanos = s.clock.now.nanos + (n * r.polling.interval.nanos : Nat) := by
    rw [h.now_eq]
    exact Time.nanos_after (Int.le_of_lt hbefore)
  have htime : t.clock.now < deadline := Time.lt_def.2 (by omega)
  have hrest : ((r.pause t.clock.now deadline).nanos : Int) = deadline.nanos - t.clock.now.nanos :=
    pause_eq_rest (by omega) (by omega)
  obtain ⟨ended, hpolls, hlater, hsleeps, hcalls, _⟩ := h.undecided hstill hopen htime
  have hend : ended.clock.now.nanos = deadline.nanos := by
    rw [hlater, nanos_after_pause, hrest]
    omega
  have hpast : ¬ ended.clock.now < deadline := by
    rw [Time.lt_def, hend]
    exact Int.lt_irrefl _
  refine ⟨ended, hpolls.trans (pollUntil_past hpast), hcalls, ?_, hend⟩
  refine ⟨r.pause t.clock.now deadline, ?_, ?_⟩
  · rw [hsleeps, h.sleeps_eq, List.append_assoc]
  · rw [hrest, hnow]
    omega

/-- Where nothing is settled before the deadline, the wait ends at it, or at once if it has passed. -/
theorem pollUntil_expired (hstill : ∀ k, Clock.move (r.passing (s.remote.answer name r.ns k)) = 0)
    (hopen : ∀ k < r.roundsBefore s.clock.now deadline, ¬ Decisive r (s.remote.answer name r.ns k)) :
    let waited := r.pollUntil name deadline s
    let rounds := r.roundsBefore s.clock.now deadline
    waited.1 = (.failed (notRunningBefore name deadline), { r with state := .timedOut }) ∧
      waited.2.remote.calls = s.remote.calls ++ r.queries name s rounds ∧
      (∃ slept, waited.2.clock.sleeps = s.clock.sleeps ++ slept ∧ slept.length = rounds ∧
        ∀ full, rounds = full + 1 → ∃ last : Duration,
          slept = List.replicate full r.polling.interval ++ [last] ∧
            (last.nanos : Int) =
              deadline.nanos - s.clock.now.nanos - (full * r.polling.interval.nanos : Nat)) ∧
      waited.2.clock.now.nanos = max s.clock.now.nanos deadline.nanos := by
  intro waited rounds
  cases hrounds : rounds with
  | zero =>
    have hnone : ¬ 0 < rounds := by omega
    have hpast := mt lt_roundsBefore.2 hnone
    rw [Nat.zero_mul] at hpast
    have hwaited : waited = ((.failed (notRunningBefore name deadline), { r with state := .timedOut }), s) :=
      pollUntil_past (mt Time.lt_def.1 (by omega))
    rw [hwaited]
    refine ⟨rfl, (List.append_nil _).symm, ⟨[], (List.append_nil _).symm, rfl, nofun⟩, ?_⟩
    show s.clock.now.nanos = _
    omega
  | succ full =>
    have hbefore := lt_roundsBefore.1 (show full < rounds by omega)
    have hlast := mt lt_roundsBefore.2 (show ¬ full + 1 < rounds by omega)
    obtain ⟨t, hpolls, hfull⟩ :=
      rounds_undecided (n := full) hstill (fun k hk => hopen k (by omega)) (Int.le_of_lt hbefore)
    obtain ⟨ended, hexpires, hcalls, ⟨last, hsleeps, hleft⟩, hend⟩ :=
      hfull.expires (hstill full) (hopen full (by omega)) hbefore (Int.not_lt.1 hlast)
    have hwaited := hpolls.trans hexpires
    change waited = _ at hwaited
    rw [hwaited]
    refine ⟨rfl, hcalls, ⟨_, hsleeps, ?_, ?_⟩, ?_⟩
    · rw [List.length_append, List.length_replicate]
      rfl
    · intro others hothers
      obtain rfl : full = others := by omega
      exact ⟨last, rfl, hleft⟩
    · rw [hend]
      omega

end Still

/-! ### The whole wait -/

/-- The reply with this number is the first one that settles the matter. -/
def FirstDecisive (r : Runner) (name : String) (s : Session Orchestrator) (n : Nat) : Prop :=
  Decisive r (s.remote.answer name r.ns n) ∧ ∀ k < n, ¬ Decisive r (s.remote.answer name r.ns k)

theorem undecided_before {r : Runner} {name : String} {s : Session Orchestrator} {deadline : Time}
    (hfirst : ∀ n, FirstDecisive r name s n →
      deadline.nanos ≤ s.clock.now.nanos + (n * r.polling.interval.nanos : Nat)) (k : Nat) :
    k < r.roundsBefore s.clock.now deadline → ¬ Decisive r (s.remote.answer name r.ns k) := by
  induction k using Nat.strongRecOn with
  | ind k ih =>
    intro hbefore hdecisive
    have hlate := hfirst k ⟨hdecisive, fun j hj => ih j hj (hj.trans hbefore)⟩
    exact absurd (lt_roundsBefore.1 hbefore) (Int.not_lt.2 hlate)

theorem waitUntilRunning_eq {r : Runner} {name : String} (h : r.Awaits name) (deadline : Time)
    (s : Session Orchestrator) :
    r.waitUntilRunning deadline s = s.traced .waitUntilRunning (r.pollUntil name deadline) := by
  have hawait : r.await deadline = r.pollUntil name deadline := by
    funext t
    obtain ⟨hname, hstate⟩ := h
    rw [await, hname]
    rcases hstate with hstate | hstate <;> rw [hstate]
  rw [waitUntilRunning, hawait]

/-- The result of a wait, from the replies that are to come. Only a reply that is taken could move the clock,
and none does. A runner in one of these states has a name (`Consistent.awaits`). Neither the clock nor the deadline
shows a leap second. -/
theorem waitUntilRunning_result {r : Runner} {name : String} (hname : r.instanceName = some name)
    (hstate : r.state = .pending ∨ r.state = .timedOut) (deadline : Time) (s : Session Orchestrator)
    (hstill : ∀ k, Clock.move (r.passing (s.remote.answer name r.ns k)) = 0) :
    let waited := r.waitUntilRunning deadline s
    let start := s.clock.now.nanos
    let interval := r.polling.interval
    let rounds := r.roundsBefore s.clock.now deadline
    (∀ n, FirstDecisive r name s n → start + (n * interval.nanos : Nat) < deadline.nanos →
      Decides r (s.remote.answer name r.ns n) waited.1.1 waited.1.2 ∧
        waited.2.remote.calls = s.remote.calls ++ r.queries name s (n + 1) ∧
        waited.2.clock.sleeps = s.clock.sleeps ++ List.replicate n interval ∧
        waited.2.clock.now.nanos = start + (n * interval.nanos : Nat)) ∧
      ((∀ n, FirstDecisive r name s n → deadline.nanos ≤ start + (n * interval.nanos : Nat)) →
        waited.1 = (.failed (notRunningBefore name deadline), { r with state := .timedOut }) ∧
          waited.2.remote.calls = s.remote.calls ++ r.queries name s rounds ∧
          (∃ slept, waited.2.clock.sleeps = s.clock.sleeps ++ slept ∧ slept.length = rounds ∧
            ∀ full, rounds = full + 1 → ∃ last : Duration,
              slept = List.replicate full interval ++ [last] ∧
                (last.nanos : Int) = deadline.nanos - start - (full * interval.nanos : Nat)) ∧
          waited.2.clock.now.nanos = max start deadline.nanos) := by
  intro waited start interval rounds
  have hwaited : waited = s.traced .waitUntilRunning (r.pollUntil name deadline) :=
    waitUntilRunning_eq ⟨hname, hstate⟩ deadline s
  rw [hwaited]
  constructor
  · intro n hfirst hbefore
    exact pollUntil_decided (s := s.log (.entered .waitUntilRunning)) hstill hfirst.2 hfirst.1 hbefore
  · intro hfirst
    exact pollUntil_expired (s := s.log (.entered .waitUntilRunning)) hstill (undecided_before hfirst)

def slow : Session Orchestrator :=
  granting fun k => [⟨.pending, none⟩, ⟨.pending, none⟩].getD k ⟨.running, some "10.0.0.7"⟩

/-- With an interval of five seconds the third round begins after ten of them, which is before a deadline at
twelve but not before one at eight. -/
theorem slow_wait_result :
    let waiting : Runner := { specimen with instanceName := some "modelserver-1", state := .pending }
    let twelve : Time := ⟨12000000000, by decide, by decide⟩
    let eight : Time := ⟨8000000000, by decide, by decide⟩
    (∀ k, Clock.move (waiting.passing (slow.remote.answer "modelserver-1" waiting.ns k)) = 0) ∧
      (waiting.waitUntilRunning twelve slow).2.clock.sleeps = [.ofSecs 5, .ofSecs 5] ∧
      (waiting.waitUntilRunning twelve slow).2.clock.now.nanos = 10000000000 ∧
      (waiting.waitUntilRunning eight slow).1.2.state = .timedOut ∧
      (waiting.waitUntilRunning eight slow).2.clock.now.nanos = 8000000000 := by
  intro waiting twelve eight
  have hanswer : ∀ k, slow.remote.answer "modelserver-1" waiting.ns k =
      .prompt (.ok ([⟨.pending, none⟩, ⟨.pending, none⟩].getD k ⟨.running, some "10.0.0.7"⟩)) := by
    intro k
    rw [Orchestrator.answer_scripted _ rfl]
    exact congrArg (fun k => Reply.prompt (.ok (List.getD _ k _))) (Nat.zero_add k)
  have hstill : ∀ k, Clock.move (waiting.passing (slow.remote.answer "modelserver-1" waiting.ns k)) = 0 := by
    intro k
    rw [hanswer k]
    rfl
  have hopen : ∀ k < 2, ¬ Decisive waiting (slow.remote.answer "modelserver-1" waiting.ns k) := by
    rintro k hk ⟨outcome, after, hdecides⟩
    rw [hanswer k] at hdecides
    have hended := (decides_iff "modelserver-1").1 hdecides
    match k, hk with
    | 0, _ => cases hended
    | 1, _ => cases hended
  have hthird : FirstDecisive waiting "modelserver-1" slow 2 := by
    refine ⟨⟨_, _, @Decides.running waiting _ "10.0.0.7" ?_ ?_⟩, hopen⟩
    · rw [hanswer 2]
      decide
    · rw [hanswer 2]
      rfl
  have hresult := fun deadline =>
    waitUntilRunning_result (r := waiting) rfl (Or.inl rfl) deadline slow hstill
  obtain ⟨_, _, hsleeps, hlater⟩ := (hresult twelve).1 2 hthird (by decide)
  have hearly : ∀ n, FirstDecisive waiting "modelserver-1" slow n →
      eight.nanos ≤ slow.clock.now.nanos + (n * waiting.polling.interval.nanos : Nat) := by
    intro n hfirst
    have hn : 2 ≤ n := Nat.not_lt.1 fun hn => hopen n hn hfirst.1
    show (8000000000 : Int) ≤ 0 + (n * 5000000000 : Nat)
    omega
  obtain ⟨hended, _, _, hend⟩ := (hresult eight).2 hearly
  refine ⟨hstill, hsleeps, hlater.trans (by decide), ?_, hend⟩
  rw [hended]

end PodRunner.Runner
