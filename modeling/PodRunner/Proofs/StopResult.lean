import Mathlib.Algebra.GroupWithZero.Nat
import PodRunner.Proofs.Lifecycle
import PodRunner.Proofs.RetryResult

/-!
# The result of a stop

A stop deletes the instance until a reply says that it is gone, with a pause of the backoff after every other
reply but the last one it may ask for. The replies to come are the course that its attempts take, so what it does is
what trying again does with such a course.
-/

namespace PodRunner

def Event.asksForCleanup : Event → Bool
  | abandoned _ _ _ => true
  | _ => false

namespace Session

variable {σ α : Type}

def manualCleanups (s : Session σ) : List Event := s.events.filter Event.asksForCleanup

theorem manualCleanups_log (s : Session σ) (event : Event) :
    (s.log event).manualCleanups = s.manualCleanups ++ [event].filter Event.asksForCleanup :=
  List.filter_append ..

end Session

namespace Runner

/-! ### One attempt -/

/-- What an attempt makes of its reply. -/
def verdict (reply : Reply Unit) : Outcome StopOutcome :=
  match reply.result with
  | .ok () => .done .deleted
  | .error (.notFound _) => .done .alreadyGone
  | .error e => .failed e

/-- The instance is gone, through this attempt or without it. -/
inductive Settles (reply : Reply Unit) : StopOutcome → Prop
  | deleted (hresult : reply.result = .ok ()) : Settles reply .deleted
  | alreadyGone {what : String} (hresult : reply.result = .error (.notFound what)) :
      Settles reply .alreadyGone

theorem Settles.verdict_eq {reply : Reply Unit} {outcome : StopOutcome} (h : Settles reply outcome) :
    verdict reply = .done outcome := by
  cases h with
  | deleted hresult => rw [verdict, hresult]
  | alreadyGone hresult => rw [verdict, hresult]

theorem verdict_of_unsettled {reply : Reply Unit} (h : ∀ outcome, ¬ Settles reply outcome) :
    ∃ e, reply.result = .error e ∧ verdict reply = .failed e := by
  unfold verdict
  split
  · rename_i hresult
    exact absurd (.deleted hresult) (h _)
  · rename_i hresult
    exact absurd (.alreadyGone hresult) (h _)
  · rename_i e _ hresult
    exact ⟨e, hresult, rfl⟩

end Runner

/-! ### The attempts of a stop -/

namespace Orchestrator

variable (o : Orchestrator) (name ns : String)

def deletions (attempts : Nat) : List Call :=
  (List.range attempts).map fun k => .delete name ns (o.removal name ns k)

def replyTime (attempts : Nat) : Nat :=
  ((List.range attempts).map fun k => Clock.move (o.removal name ns k).advance).sum

theorem deletions_succ (n : Nat) :
    o.deletions name ns (n + 1) = o.deletions name ns n ++ [.delete name ns (o.removal name ns n)] := by
  rw [deletions, List.range_succ, List.map_append]
  rfl

theorem replyTime_succ (n : Nat) :
    o.replyTime name ns (n + 1) = o.replyTime name ns n + Clock.move (o.removal name ns n).advance := by
  rw [replyTime, List.range_succ, List.map_append, List.sum_append]
  exact congrArg (o.replyTime name ns n + ·) (Nat.add_zero _)

def afterDeletions : Nat → Orchestrator
  | 0 => o
  | k + 1 => ((afterDeletions k).delete name ns).2

theorem afterDeletions_removal (n k : Nat) :
    (o.afterDeletions name ns n).removal name ns k = o.removal name ns (n + k) := by
  induction n generalizing k with
  | zero => rw [Nat.zero_add, afterDeletions]
  | succ n ih =>
    have hlater : (o.afterDeletions name ns (n + 1)).removal name ns k =
        (o.afterDeletions name ns n).removal name ns (k + 1) := rfl
    rw [hlater, ih, Nat.add_right_comm, Nat.add_assoc]

theorem afterDeletions_calls (n : Nat) :
    (o.afterDeletions name ns n).calls = o.calls ++ o.deletions name ns n := by
  induction n with
  | zero => exact (List.append_nil _).symm
  | succ n ih =>
    have hreply : ((o.afterDeletions name ns n).delete name ns).1 = o.removal name ns n :=
      o.afterDeletions_removal name ns n 0
    rw [afterDeletions, delete_calls, hreply, ih, deletions_succ, List.append_assoc]

end Orchestrator

namespace Runner

def pauseTime (delays : List Duration) : Nat := (delays.map Clock.move).sum

def deleting (ns name : String) (o : Orchestrator) : Retry.Course Orchestrator StopOutcome where
  result k := verdict (o.removal name ns k)
  time k := Clock.move (o.removal name ns k).advance
  writes k :=
    .deleting ns name ::
      ((if (o.afterDeletions name ns k).isKubernetes then [.entered .deleteInstance, .left .deleteInstance] else []) ++
        if verdict (o.removal name ns k) = .done .alreadyGone then [.alreadyGone ns name] else [])
  remote := o.afterDeletions name ns

theorem deleteOnce_takes (ns name : String) (o : Orchestrator) :
    Retry.Takes (deleteOnce ns name) (deleting ns name o) := by
  intro k s hs htime
  have hremote : s.remote = o.afterDeletions name ns k := hs
  have hreply : (s.remote.delete name ns).1 = o.removal name ns k := by
    rw [hremote]
    exact o.afterDeletions_removal name ns k 0
  have hlater : s.clock.now.later? (Clock.move (o.removal name ns k).advance) = some (s.clock.now.after _) :=
    Time.later?_eq_after (Time.later?_isSome_of_le (u := .latest) htime)
  obtain ⟨houtcome, hafter, hclock⟩ := (s.log (.deleting ns name)).deleteInstance_spec name ns
  have hevents := (s.log (.deleting ns name)).deleteInstance_events name ns
  have hreceived : (s.log (.deleting ns name)).receive (o.removal name ns k) = _ := Session.receive_ok hlater
  rw [Session.log_remote, hreply, hreceived] at houtcome hclock
  rw [Session.log_remote, hremote] at hafter hevents
  rcases hdeleted : (s.log (.deleting ns name)).deleteInstance name ns with ⟨outcome, clock, events, remote⟩
  rw [hdeleted] at houtcome hafter hclock hevents
  dsimp only at houtcome hafter hclock hevents
  subst houtcome hafter hclock
  have hwritten : s.events ++ (deleting ns name o).writes k =
      events ++ if verdict (o.removal name ns k) = .done .alreadyGone then [.alreadyGone ns name] else [] := by
    rw [hevents]
    by_cases hkubernetes : (o.afterDeletions name ns k).isKubernetes <;> simp [deleting, hkubernetes]
  rw [deleteOnce, hdeleted, hwritten]
  cases hresult : (o.removal name ns k).result with
  | ok done => simp [deleting, verdict, hresult, Outcome.ofExcept, Orchestrator.afterDeletions]
  | error e =>
    cases e <;> simp [deleting, verdict, hresult, Outcome.ofExcept, Orchestrator.afterDeletions, Session.log]

theorem replyTime_add_elapsed (ns name : String) (o : Orchestrator) (k : Nat) (delays : List Duration) :
    o.replyTime name ns k + (deleting ns name o).elapsed k delays =
      o.replyTime name ns (k + delays.length) + pauseTime delays := by
  induction delays generalizing k with
  | nil => rfl
  | cons delay delays ih =>
    have hothers := ih (k + 1)
    have hpause : pauseTime (delay :: delays) = Clock.move delay + pauseTime delays := by
      rw [pauseTime, List.map_cons, List.sum_cons]
      rfl
    have htime : (deleting ns name o).time k = Clock.move (o.removal name ns k).advance := rfl
    rw [o.replyTime_succ] at hothers
    rw [Retry.Course.elapsed_cons, List.length_cons, hpause, htime, ← Nat.add_assoc k, Nat.add_right_comm k]
    omega

section Quiet

variable (ns name : String) (o : Orchestrator)

theorem filter_writes (k : Nat) : ((deleting ns name o).writes k).filter Event.asksForCleanup = [] := by
  simp only [deleting]
  split <;> split <;> rfl

theorem filter_announced (operation : String) (attempts : Nat) (errors : Nat → Error) (k : Nat)
    (delays : List Duration) :
    ((deleting ns name o).announced operation attempts errors k delays).filter Event.asksForCleanup = [] := by
  induction delays generalizing k with
  | nil => rfl
  | cons delay delays ih =>
    rw [Retry.Course.announced_cons, List.filter_append, List.filter_append, filter_writes, ih]
    rfl

end Quiet

/-! ### The whole stop -/

/-- How many attempts a stop has: a backoff without attempts counts as one. -/
def budget (r : Runner) : Nat := max r.cleanup.attempts.toNat 1

theorem budget_eq (r : Runner) : r.budget = r.cleanup.pauses + 1 := r.cleanup.limit_eq

/-- The pauses between so many attempts can be computed, and the clock stays in the calendar meanwhile. -/
structure Room (r : Runner) (name : String) (s : Session Orchestrator) (attempts : Nat) : Prop where
  paced : (r.cleanup.pace.delays (attempts - 1)).2 = none
  timed : s.clock.now.nanos + (s.remote.replyTime name r.ns attempts +
    pauseTime (r.cleanup.pace.delays (attempts - 1)).1 : Nat) ≤ Time.latestNanos

/-- A stop that makes these attempts, sleeps between them and asks somebody for these deletions. -/
structure Stops (r : Runner) (s : Session Orchestrator) (outcome : StopOutcome) (deletions : List Call)
    (slept : List Duration) (cleanups : List Event) : Prop where
  outcome_eq : (r.stop s).1.1 = .done outcome
  calls_eq : (r.stop s).2.remote.calls = s.remote.calls ++ deletions
  sleeps_eq : (r.stop s).2.clock.sleeps = s.clock.sleeps ++ slept
  cleanups_eq : (r.stop s).2.manualCleanups = s.manualCleanups ++ cleanups

section Stop

variable {r : Runner} {name : String} {s t : Session Orchestrator} {n : Nat} {outcome : StopOutcome}

theorem stops_of_dispose {deletions : List Call} {slept : List Duration} {cleanups : List Event}
    (hdisposed : r.dispose (s.log (.entered .stop)) = (.done outcome, t))
    (hcalls : t.remote.calls = s.remote.calls ++ deletions) (hsleeps : t.clock.sleeps = s.clock.sleeps ++ slept)
    (hcleanups : t.manualCleanups = s.manualCleanups ++ cleanups) :
    r.Stops s outcome deletions slept cleanups := by
  have hstop : r.stop s = ((.done outcome, r.halted), t.log (.left .stop)) := by
    rw [stop, Session.traced, hdisposed]
  constructor <;> rw [hstop]
  · exact hcalls
  · exact hsleeps
  · rw [Session.manualCleanups_log, hcleanups]
    exact List.append_nil _

theorem stops_nothing (hname : r.instanceName = none) (s : Session Orchestrator) :
    r.Stops s .nothingToStop [] [] [] := by
  refine stops_of_dispose (t := (s.log (.entered .stop)).log .nothingToStop) ?_ (List.append_nil _).symm
    (List.append_nil _).symm ?_
  · rw [dispose, hname]
  · rw [Session.manualCleanups_log, Session.manualCleanups_log]
    exact List.append_nil _

theorem Room.leeway (h : Room r name s (n + 1)) :
    Retry.Leeway r.cleanup (deleting r.ns name s.remote) (s.log (.entered .stop)) n := by
  have hpaced : (r.cleanup.pace.delays n).2 = none := h.paced
  refine ⟨hpaced, ?_⟩
  have htimed := h.timed
  have hall := replyTime_add_elapsed r.ns name s.remote 0 (r.cleanup.pace.delays n).1
  have hnone : s.remote.replyTime name r.ns 0 = 0 := rfl
  have hlast : (deleting r.ns name s.remote).time n = Clock.move (s.remote.removal name r.ns n).advance := rfl
  rw [Backoff.Pace.length_delays hpaced, Nat.zero_add] at hall
  rw [s.remote.replyTime_succ, Nat.add_sub_cancel] at htimed
  rw [Session.log_clock]
  omega

/-- The attempts of a stop up to one of them, with the pace that the later ones continue with. -/
theorem run_tried (hn : n < r.budget)
    (hopen : ∀ k < n, ∀ outcome, ¬ Settles (s.remote.removal name r.ns k) outcome)
    (hroom : Room r name s (n + 1)) :
    ∃ later t u,
      Retry.run r.cleanup deletion (deleteOnce r.ns name) (s.log (.entered .stop)) =
        Retry.attemptFrom Backoff.Pace.next deletion r.cleanup.attempts.toNat (deleteOnce r.ns name)
          (r.cleanup.pauses - n) (n + 1) later t ∧
      (∀ m, (later.delays m).2 = (r.cleanup.pace.delays (n + m)).2) ∧
      deleteOnce r.ns name t = (verdict (s.remote.removal name r.ns n), u) ∧
      u.clock.sleeps = s.clock.sleeps ++ r.cleanup.delays.1.take n ∧
      (r.cleanup.delays.1.take n).length = n ∧
      u.remote.calls = s.remote.calls ++ s.remote.deletions name r.ns (n + 1) ∧
      u.manualCleanups = s.manualCleanups := by
  have hunsettled : ∀ k < n, ∃ e, (deleting r.ns name s.remote).result k = .failed e := by
    intro k hk
    obtain ⟨e, _, hverdict⟩ := verdict_of_unsettled (hopen k hk)
    exact ⟨e, hverdict⟩
  obtain ⟨errors, hfailed⟩ := Retry.Course.exists_errors hunsettled
  obtain ⟨later, t, u, hrun, hpauses, hlast, hended⟩ := Retry.run_of_failures (s := s.log (.entered .stop))
    (deleteOnce_takes r.ns name s.remote) rfl deletion hn hfailed hroom.leeway
  refine ⟨later, t, u, hrun, hpauses, hlast, hended.sleeps_eq, hended.length_eq, ?_, ?_⟩
  · rw [hended.remote_eq]
    exact s.remote.afterDeletions_calls name r.ns (n + 1)
  · rw [Session.manualCleanups, hended.events_eq, List.filter_append, List.filter_append, List.filter_append,
      filter_announced, filter_writes]
    simp [Session.manualCleanups, Event.asksForCleanup]

/-- The first reply that settles the matter ends the stop. -/
theorem stops_settled (hname : r.instanceName = some name) (hn : n < r.budget)
    (hsettles : Settles (s.remote.removal name r.ns n) outcome)
    (hopen : ∀ k < n, ∀ outcome, ¬ Settles (s.remote.removal name r.ns k) outcome)
    (hroom : Room r name s (n + 1)) :
    r.Stops s outcome (s.remote.deletions name r.ns (n + 1)) (r.cleanup.delays.1.take n) [] ∧
      (r.cleanup.delays.1.take n).length = n := by
  obtain ⟨later, t, u, hrun, _, hlast, hsleeps, hlength, hcalls, hcleanups⟩ := run_tried hn hopen hroom
  rw [hsettles.verdict_eq] at hlast
  refine ⟨stops_of_dispose (t := u) ?_ hcalls hsleeps (hcleanups.trans (List.append_nil _).symm), hlength⟩
  simp only [dispose, hname, cleanUp, hrun, Retry.attemptFrom_done _ _ later hlast]

/-- A stop that is not settled within its attempts asks somebody to delete the instance. -/
theorem stops_abandoned (hname : r.instanceName = some name)
    (hopen : ∀ k < r.budget, ∀ outcome, ¬ Settles (s.remote.removal name r.ns k) outcome)
    (hroom : Room r name s r.budget) :
    ∃ e, (s.remote.removal name r.ns (r.budget - 1)).result = .error e ∧
      r.Stops s .abandoned (s.remote.deletions name r.ns r.budget) r.cleanup.delays.1
        [.abandoned r.ns name e] ∧
      r.cleanup.delays.1.length = r.budget - 1 := by
  rw [budget_eq] at hopen hroom ⊢
  rw [Nat.add_sub_cancel]
  obtain ⟨later, t, u, hrun, _, hlast, hsleeps, hlength, hcalls, hcleanups⟩ :=
    run_tried (n := r.cleanup.pauses) (by rw [budget_eq]; omega) (fun k hk => hopen k (by omega)) hroom
  obtain ⟨e, hresult, hverdict⟩ := verdict_of_unsettled (hopen r.cleanup.pauses (by omega))
  rw [hverdict] at hlast
  have hdelays : r.cleanup.delays.1.take r.cleanup.pauses = r.cleanup.delays.1 := by
    have hpaced : (r.cleanup.pace.delays r.cleanup.pauses).2 = none := hroom.paced
    refine List.take_of_length_le (Nat.le_of_eq ?_)
    exact Backoff.Pace.length_delays hpaced
  rw [hdelays] at hsleeps hlength
  rw [Nat.sub_self] at hrun
  refine ⟨e, hresult, stops_of_dispose (t := (u.log (.gaveUp deletion (r.cleanup.pauses + 1)
    r.cleanup.attempts.toNat e)).log (.abandoned r.ns name e)) ?_ hcalls hsleeps ?_, hlength⟩
  · simp only [dispose, hname, cleanUp, hrun, Retry.attemptFrom_gaveUp _ later hlast]
  · rw [Session.manualCleanups_log, Session.manualCleanups_log, hcleanups]
    exact congrArg (· ++ [Event.abandoned r.ns name e]) (List.append_nil _)

end Stop

/-- A stop looks neither at the endpoint nor at the state, so a stopped runner is stopped like any other. -/
theorem stop_halted (r : Runner) (s : Session Orchestrator) :
    r.halted.stop s = r.stop s := rfl

end Runner

/-- The warning about an instance that is left behind contains the command that removes it. -/
theorem Event.message_abandoned (ns name : String) (e : Error) :
    ∃ before after, (Event.abandoned ns name e).message = before ++ Event.cleanupCommand ns name ++ after :=
  ⟨_, _, rfl⟩

namespace Runner

/-- What a stop does, whatever the runner has been through. It has nothing to do if no instance was created.
Otherwise it deletes until a reply settles the matter, at most as often as its budget allows, and sleeps the
first pauses of the backoff in between; a stop that runs out of its budget asks once for the deletion by hand.
It leaves the runner stopped under the same name, and the next stop begins anew. -/
theorem stop_result {built : Runner} (hbuilt : Built built) (past : Session Orchestrator)
    (operations : List Operation) (s : Session Orchestrator) :
    let reached := (built.run past operations).1
    let performed := built.history past operations
    let stopped := (reached.stop s).1.2
    ((∀ server, ¬ Created performed server) → reached.Stops s .nothingToStop [] [] []) ∧
      (∀ server, Created performed server →
        let reply := s.remote.removal server.name reached.ns
        (∀ k outcome, k < reached.budget → Settles (reply k) outcome →
          (∀ j < k, ∀ other, ¬ Settles (reply j) other) → Room reached server.name s (k + 1) →
            reached.Stops s outcome (s.remote.deletions server.name reached.ns (k + 1))
                (reached.cleanup.delays.1.take k) [] ∧
              (reached.cleanup.delays.1.take k).length = k) ∧
          ((∀ k < reached.budget, ∀ outcome, ¬ Settles (reply k) outcome) →
            Room reached server.name s reached.budget →
              ∃ e, (reply (reached.budget - 1)).result = .error e ∧
                reached.Stops s .abandoned (s.remote.deletions server.name reached.ns reached.budget)
                  reached.cleanup.delays.1 [.abandoned reached.ns server.name e] ∧
                reached.cleanup.delays.1.length = reached.budget - 1 ∧
                ∃ before after, (Event.abandoned reached.ns server.name e).message =
                  before ++ Event.cleanupCommand reached.ns server.name ++ after)) ∧
      (stopped.state = .stopped ∧ stopped.endpoint = none ∧ stopped.instanceName = reached.instanceName) ∧
      ∀ later, (stopped.stop later).1.2 = stopped ∧ stopped.stop later = reached.stop later := by
  intro reached performed stopped
  refine ⟨?_, ?_, ⟨rfl, rfl, rfl⟩, fun later => ⟨rfl, reached.stop_halted later⟩⟩
  · intro hnever
    refine stops_nothing ?_ s
    cases hname : reached.instanceName with
    | none => rfl
    | some name =>
      obtain ⟨server, hcreated, _⟩ := (run_name_iff hbuilt.unused past operations name).1 hname
      exact absurd hcreated (hnever server)
  · intro server hcreated reply
    have hname : reached.instanceName = some server.name :=
      (run_name_iff hbuilt.unused past operations server.name).2 ⟨server, hcreated, rfl⟩
    refine ⟨?_, ?_⟩
    · intro k outcome hk hsettles hopen hroom
      exact stops_settled hname hk hsettles hopen hroom
    · intro hopen hroom
      obtain ⟨e, hresult, hstops, hlength⟩ := stops_abandoned hname hopen hroom
      exact ⟨e, hresult, hstops, hlength, Event.message_abandoned _ _ e⟩

def refusing (refusals : Nat) : Session Orchestrator :=
  let script : Script :=
    ⟨fun _ => .prompt (.error (.internal "unused")), fun _ => .prompt (.error (.internal "unused")),
      fun k => .prompt (.error (if k < refusals then .network "refused" else .notFound "modelserver-1"))⟩
  .starting .epoch (.scripted script fun _ => .prompt (.error (.internal "unused")))

theorem refusing_removal (refusals : Nat) (name ns : String) (k : Nat) :
    (refusing refusals).remote.removal name ns k =
      .prompt (.error (if k < refusals then .network "refused" else .notFound "modelserver-1")) := by
  rw [Orchestrator.removal_scripted (refusing refusals).remote rfl, Orchestrator.deleted, refusing,
    Session.starting]
  exact congrArg (fun k => Reply.prompt (.error (if k < refusals then .network "refused" else _)))
    (Nat.zero_add k)

theorem refusing_unsettled {refusals k : Nat} (hk : k < refusals) (name ns : String) (outcome : StopOutcome) :
    ¬ Settles ((refusing refusals).remote.removal name ns k) outcome := by
  rw [refusing_removal, if_pos hk]
  intro h
  cases h with
  | deleted hresult => cases hresult
  | alreadyGone hresult => cases hresult

/-- After one refusal the instance is gone, after nine it is left behind. -/
theorem refusing_stop_result :
    let started := (specimen.run obliging [.start]).1
    (refusing 1).remote.removal "modelserver-1" "team" 0 = .prompt (.error (.network "refused")) ∧
      started.Stops (refusing 1) .alreadyGone ((refusing 1).remote.deletions "modelserver-1" "team" 2)
        [.ofSecs 1] [] ∧
      ∃ e, started.Stops (refusing 9) .abandoned ((refusing 9).remote.deletions "modelserver-1" "team" 5)
        [.ofSecs 1, .ofSecs 2, .ofSecs 4, .ofSecs 8] [.abandoned "team" "modelserver-1" e] := by
  intro started
  have hbuilt : Built specimen := .new _ _
  have hdelays : started.cleanup.delays.1 = [.ofSecs 1, .ofSecs 2, .ofSecs 4, .ofSecs 8] := by decide +kernel
  have hnamed : started.instanceName = some "modelserver-1" := by decide +kernel
  obtain ⟨server, hcreated, hserver⟩ := (run_name_iff hbuilt.unused obliging [.start] _).1 hnamed
  obtain ⟨_, hsoon, _⟩ := stop_result hbuilt obliging [.start] (refusing 1)
  obtain ⟨_, hlate, _⟩ := stop_result hbuilt obliging [.start] (refusing 9)
  obtain ⟨hsettled, _⟩ := hsoon server hcreated
  obtain ⟨_, habandoned⟩ := hlate server hcreated
  rw [hserver] at hsettled habandoned
  refine ⟨refusing_removal 1 _ _ 0, ?_, ?_⟩
  · have hgone : Settles ((refusing 1).remote.removal "modelserver-1" started.ns 1) .alreadyGone :=
      .alreadyGone (congrArg Reply.result (refusing_removal 1 _ _ 1))
    obtain ⟨hstops, _⟩ := hsettled 1 .alreadyGone (by decide +kernel) hgone
      (fun j hj => refusing_unsettled hj _ _) ⟨by decide +kernel, by decide +kernel⟩
    change started.Stops (refusing 1) .alreadyGone _ (started.cleanup.delays.1.take 1) [] at hstops
    rw [hdelays] at hstops
    exact hstops
  · have hbudget : started.budget ≤ 9 := by decide +kernel
    obtain ⟨e, _, hstops, _⟩ := habandoned
      (fun k hk => refusing_unsettled (Nat.lt_of_lt_of_le hk hbudget) _ _)
      ⟨by decide +kernel, by decide +kernel⟩
    change started.Stops (refusing 9) .abandoned (_ : List Call) started.cleanup.delays.1 _ at hstops
    rw [hdelays] at hstops
    exact ⟨e, hstops⟩

end Runner

end PodRunner
