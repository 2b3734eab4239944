import Mathlib.Algebra.GroupWithZero.Nat
import PodRunner.Proofs.Calls
import PodRunner.Proofs.Retrying

/-!
# The result of trying again

An operation that is tried again and again is known by its course: what each run gives, by how much it moves the
clock, what it writes to the log, and what becomes of the remote side. Trying again adds a warning and a pause of the
backoff after every failed run but the last one it may make, and nothing else. `through` is the session after some
failed runs, which the loop reaches attempt by attempt.
-/

namespace PodRunner

namespace Backoff

/-- How often an operation is run at most: a backoff without attempts counts as one. -/
def limit (b : Backoff) : Nat := max b.attempts.toNat 1

theorem limit_eq (b : Backoff) : b.limit = b.pauses + 1 := by
  rw [limit, pauses]
  omega

theorem limit_lt_size (b : Backoff) : b.limit < UInt32.size :=
  Nat.max_lt.2 ⟨b.attempts.toNat_lt, by decide⟩

end Backoff

namespace Retry

variable {σ α : Type}

/-- The runs of an operation, counted from zero. -/
structure Course (σ α : Type) where
  result : Nat → Outcome α
  /-- By how many nanoseconds a run moves the clock. -/
  time : Nat → Nat
  writes : Nat → List Event
  /-- The remote side before a run. -/
  remote : Nat → σ

/-- The operation takes this course as long as the clock stays in the calendar. -/
def Takes (operation : Session σ → Outcome α × Session σ) (c : Course σ α) : Prop :=
  ∀ k s, s.remote = c.remote k → s.clock.now.nanos + (c.time k : Nat) ≤ Time.latestNanos →
    operation s = (c.result k,
      ⟨⟨s.clock.now.after (c.time k), s.clock.sleeps⟩, s.events ++ c.writes k, c.remote (k + 1)⟩)

namespace Course

variable (c : Course σ α) (name : String) (attempts : Nat) (errors : Nat → Error)

def paused (k : Nat) (delay : Duration) (s : Session σ) : Session σ where
  clock := ⟨s.clock.now.after (c.time k + Clock.move delay), s.clock.sleeps ++ [delay]⟩
  events := s.events ++ (c.writes k ++ [.retrying name (k + 1) attempts delay (errors k)])
  remote := c.remote (k + 1)

/-- The session after failed runs with these pauses behind them, from one run on. -/
def through : Nat → List Duration → Session σ → Session σ
  | _, [], s => s
  | k, delay :: delays, s => through (k + 1) delays (c.paused name attempts errors k delay s)

def elapsed (k : Nat) (delays : List Duration) : Nat :=
  ((delays.zipIdx k).map fun (delay, k) => c.time k + Clock.move delay).sum

def announced (k : Nat) (delays : List Duration) : List Event :=
  (delays.zipIdx k).flatMap fun (delay, k) => c.writes k ++ [.retrying name (k + 1) attempts delay (errors k)]

/-- A session after some failed runs with these pauses behind them, one more run and what is logged at the end. -/
structure Ended (s : Session σ) (failures : Nat) (slept : List Duration) (closing : List Event) (t : Session σ) :
    Prop where
  remote_eq : t.remote = c.remote (failures + 1)
  sleeps_eq : t.clock.sleeps = s.clock.sleeps ++ slept
  length_eq : slept.length = failures
  events_eq : t.events =
    s.events ++ c.announced name attempts errors 0 slept ++ c.writes failures ++ closing

theorem elapsed_cons (k : Nat) (delay : Duration) (delays : List Duration) :
    c.elapsed k (delay :: delays) = c.time k + Clock.move delay + c.elapsed (k + 1) delays := by
  rw [elapsed, List.zipIdx_cons, List.map_cons, List.sum_cons]
  rfl

theorem announced_cons (k : Nat) (delay : Duration) (delays : List Duration) :
    c.announced name attempts errors k (delay :: delays) =
      c.writes k ++ [.retrying name (k + 1) attempts delay (errors k)] ++
        c.announced name attempts errors (k + 1) delays := by
  rw [announced, List.zipIdx_cons, List.flatMap_cons]
  rfl

variable {c name attempts errors} {k n : Nat} {delays : List Duration} {s : Session σ}

theorem exists_errors (h : ∀ j < n, ∃ e, c.result j = .failed e) :
    ∃ errors : Nat → Error, ∀ j < n, c.result j = .failed (errors j) := by
  classical
  refine ⟨fun j => if hj : ∃ e, c.result j = .failed e then hj.choose else .internal "", fun j hj => ?_⟩
  dsimp only
  rw [dif_pos (h j hj)]
  exact (h j hj).choose_spec

theorem through_sleeps :
    (c.through name attempts errors k delays s).clock.sleeps = s.clock.sleeps ++ delays := by
  induction delays generalizing k s with
  | nil => exact (List.append_nil _).symm
  | cons delay delays ih =>
    rw [through, ih]
    exact List.append_assoc _ [delay] delays

theorem through_events :
    (c.through name attempts errors k delays s).events =
      s.events ++ c.announced name attempts errors k delays := by
  induction delays generalizing k s with
  | nil => exact (List.append_nil _).symm
  | cons delay delays ih =>
    rw [through, ih, announced_cons]
    exact List.append_assoc _ _ _

theorem through_remote (hs : s.remote = c.remote k) :
    (c.through name attempts errors k delays s).remote = c.remote (k + delays.length) := by
  induction delays generalizing k s with
  | nil => exact hs
  | cons delay delays ih =>
    rw [through, ih rfl, List.length_cons, Nat.add_right_comm]
    rfl

theorem through_now (htime : s.clock.now.nanos + (c.elapsed k delays : Nat) ≤ Time.latestNanos) :
    (c.through name attempts errors k delays s).clock.now.nanos =
      s.clock.now.nanos + (c.elapsed k delays : Nat) := by
  induction delays generalizing k s with
  | nil => exact (Int.add_zero _).symm
  | cons delay delays ih =>
    rw [elapsed_cons] at htime ⊢
    have hnow : (c.paused name attempts errors k delay s).clock.now.nanos =
        s.clock.now.nanos + (c.time k + Clock.move delay : Nat) :=
      Time.nanos_after (u := .latest) (by show _ ≤ Time.latestNanos; omega)
    rw [through, ih (by rw [hnow]; omega), hnow]
    omega

end Course

section Loop

variable {operation : Session σ → Outcome α × Session σ} {c : Course σ α} {errors : Nat → Error} {name : String}
  {attempts k n : Nat} {pace later : Backoff.Pace} {delay : Duration} {s : Session σ}

theorem Takes.again (h : Takes operation c) (hs : s.remote = c.remote k)
    (hfailed : c.result k = .failed (errors k)) (hnext : pace.next = .ok (delay, later))
    (htime : s.clock.now.nanos + (c.time k + Clock.move delay : Nat) ≤ Time.latestNanos) (pauses : Nat) :
    attemptFrom Backoff.Pace.next name attempts operation (pauses + 1) (k + 1) pace s =
      attemptFrom Backoff.Pace.next name attempts operation pauses (k + 2) later
        (c.paused name attempts errors k delay s) := by
  have hrun := h k s hs (by omega)
  rw [hfailed] at hrun
  have hroom : s.clock.now.nanos + (c.time k + Clock.move delay : Nat) ≤ Time.latest.nanos := htime
  have hran : (s.clock.now.after (c.time k)).nanos = s.clock.now.nanos + (c.time k : Nat) :=
    Time.nanos_after (u := .latest) (by omega)
  have hlater : (s.clock.now.after (c.time k)).later? (Clock.move delay) =
      some (s.clock.now.after (c.time k + Clock.move delay)) := by
    rw [← Time.after_after hroom]
    exact Time.later?_eq_after (Time.later?_isSome_of_le (u := .latest) (by omega))
  rw [attemptFrom_again pauses (k + 1) hrun hnext (Session.sleep_of_later hlater), Course.paused, Session.log,
    List.append_assoc]

/-- As long as runs fail, pauses are handed out and the clock stays in the calendar, more runs follow. -/
theorem Takes.go_through (h : Takes operation c) (name : String) (attempts : Nat) (hs : s.remote = c.remote k)
    (hfailed : ∀ j < n, c.result (k + j) = .failed (errors (k + j))) (hpaced : (pace.delays n).2 = none)
    (htime : s.clock.now.nanos + (c.elapsed k (pace.delays n).1 : Nat) ≤ Time.latestNanos) :
    ∃ later, (∀ m, (later.delays m).2 = (pace.delays (n + m)).2) ∧ ∀ pauses,
      attemptFrom Backoff.Pace.next name attempts operation (n + pauses) (k + 1) pace s =
        attemptFrom Backoff.Pace.next name attempts operation pauses (k + n + 1) later
          (c.through name attempts errors k (pace.delays n).1 s) := by
  -- the first run is split off, because it gives the pace and the session that the others begin with
  induction n generalizing k pace s with
  | zero => exact ⟨pace, fun m => by rw [Nat.zero_add], fun pauses => by rw [Nat.zero_add]; rfl⟩
  | succ n ih =>
    obtain ⟨delay, later, hnext, hlater⟩ := Backoff.Pace.next_of_delays hpaced
    rw [Backoff.Pace.delays_succ_ok n hnext] at htime ⊢
    dsimp only at htime ⊢
    rw [c.elapsed_cons] at htime
    have hnow : (c.paused name attempts errors k delay s).clock.now.nanos =
        s.clock.now.nanos + (c.time k + Clock.move delay : Nat) :=
      Time.nanos_after (u := .latest) (by show _ ≤ Time.latestNanos; omega)
    obtain ⟨last, hpauses, hothers⟩ := ih (k := k + 1) (s := c.paused name attempts errors k delay s) rfl
      (fun j hj => by rw [Nat.add_right_comm]; exact hfailed (j + 1) (by omega)) hlater (by rw [hnow]; omega)
    refine ⟨last, fun m => ?_, fun pauses => ?_⟩
    · rw [Nat.add_right_comm, Backoff.Pace.delays_succ_fault (n + m) hnext, hpauses]
    · rw [Nat.add_right_comm n 1, h.again hs (hfailed 0 (by omega)) hnext (by omega), hothers, Course.through]
      congr 1
      omega

/-- The run after some failed ones is the operation in the session that they have led to. -/
theorem Takes.last_run (h : Takes operation c) (name : String) (attempts : Nat) (errors : Nat → Error)
    (hs : s.remote = c.remote 0) {delays : List Duration} (hlength : delays.length = n)
    (htime : s.clock.now.nanos + (c.elapsed 0 delays + c.time n : Nat) ≤ Time.latestNanos) :
    ∃ t, operation (c.through name attempts errors 0 delays s) = (c.result n, t) ∧
      c.Ended name attempts errors s n delays [] t := by
  have hnow : (c.through name attempts errors 0 delays s).clock.now.nanos = _ := Course.through_now (by omega)
  have hremote : (c.through name attempts errors 0 delays s).remote = c.remote n := by
    rw [Course.through_remote hs, hlength, Nat.zero_add]
  refine ⟨_, h n _ hremote (by rw [hnow]; omega), ⟨rfl, Course.through_sleeps, hlength, ?_⟩⟩
  rw [Course.through_events, List.append_nil]

end Loop

/-! ### The whole run -/

/-- The pauses behind so many failed runs can be computed, and the clock stays in the calendar up to the end of the
run after them. -/
structure Leeway (b : Backoff) (c : Course σ α) (s : Session σ) (failures : Nat) : Prop where
  paced : (b.pace.delays failures).2 = none
  timed : s.clock.now.nanos + (c.elapsed 0 (b.pace.delays failures).1 + c.time failures : Nat) ≤ Time.latestNanos

section Run

variable {operation : Session σ → Outcome α × Session σ} {c : Course σ α} {b : Backoff} {s : Session σ} {n : Nat}

/-- A run is the attempt after the failed ones, with the pauses that are left. The pace that they are left at has the
faults of the backoff before it. -/
theorem run_of_failures (h : Takes operation c) (hs : s.remote = c.remote 0) (name : String) {errors : Nat → Error}
    (hn : n < b.limit) (hfailed : ∀ j < n, c.result j = .failed (errors j)) (hleeway : Leeway b c s n) :
    ∃ later t u,
      run b name operation s =
        attemptFrom Backoff.Pace.next name b.attempts.toNat operation (b.pauses - n) (n + 1) later t ∧
      (∀ m, (later.delays m).2 = (b.pace.delays (n + m)).2) ∧
      operation t = (c.result n, u) ∧
      c.Ended name b.attempts.toNat errors s n (b.delays.1.take n) [] u := by
  rw [Backoff.limit_eq] at hn
  have htime := hleeway.timed
  obtain ⟨later, hpauses, hthrough⟩ := h.go_through name b.attempts.toNat hs
    (fun j hj => by rw [Nat.zero_add]; exact hfailed j hj) hleeway.paced (by omega)
  obtain ⟨u, hlast, hended⟩ := h.last_run name b.attempts.toNat errors hs
    (Backoff.Pace.length_delays hleeway.paced) htime
  have htaken : (b.pace.delays n).1 = b.delays.1.take n := Backoff.Pace.delays_eq_take (by omega) hleeway.paced
  rw [← htaken]
  refine ⟨later, _, u, ?_, hpauses, hlast, hended⟩
  rw [run, ← Nat.add_sub_cancel' (show n ≤ b.pauses by omega), hthrough (b.pauses - n), Nat.zero_add,
    Nat.add_sub_cancel' (show n ≤ b.pauses by omega)]

/-- Trying again follows the course of the operation: the first success is the result, and if there is none among the
runs that the backoff allows, the error of the last one is. The clock sleeps one pause of the backoff after every
failed run that is followed by another, and the log tells of each in order, with numbers that 32 bits hold. -/
theorem run_follows (h : Takes operation c) (hs : s.remote = c.remote 0) (b : Backoff) (name : String)
    (errors : Nat → Error) :
    let attempts := b.attempts.toNat
    (∀ k value, k < b.limit → c.result k = .done value → (∀ j < k, c.result j = .failed (errors j)) →
      Leeway b c s k → ∃ t, run b name operation s = (.done value, t) ∧
        c.Ended name attempts errors s k (b.delays.1.take k) [] t) ∧
    ((∀ j < b.limit, c.result j = .failed (errors j)) → Leeway b c s (b.limit - 1) →
      ∃ t, run b name operation s = (.failed (errors (b.limit - 1)), t) ∧
        c.Ended name attempts errors s (b.limit - 1) b.delays.1
          [.gaveUp name b.limit attempts (errors (b.limit - 1))] t) ∧
    b.limit < UInt32.size ∧
    (∀ k delay error, (Event.retrying name k attempts delay error).level = .warn ∧
      (Event.gaveUp name k attempts error).level = .debug) := by
  intro attempts
  refine ⟨?_, ?_, b.limit_lt_size, fun _ _ _ => ⟨rfl, rfl⟩⟩
  · intro k value hk hvalue hfailed hleeway
    obtain ⟨later, t, u, hrun, _, hlast, hended⟩ := run_of_failures h hs name hk hfailed hleeway
    rw [hvalue] at hlast
    exact ⟨u, hrun.trans (attemptFrom_done _ _ later hlast), hended⟩
  · intro hfailed hleeway
    have hlimit : b.limit = b.pauses + 1 := b.limit_eq
    obtain ⟨later, t, u, hrun, _, hlast, hended⟩ := run_of_failures h hs name (n := b.limit - 1) (by omega)
      (fun j hj => hfailed j (by omega)) hleeway
    have hpauses : b.pauses - (b.limit - 1) = 0 := by omega
    have hnumber : b.limit - 1 + 1 = b.limit := by omega
    rw [hpauses, hnumber] at hrun
    rw [hfailed (b.limit - 1) (by omega)] at hlast
    have hall : b.delays.1.take (b.limit - 1) = b.delays.1 := by
      refine List.take_of_length_le (Nat.le_of_eq ?_)
      rw [hlimit, Nat.add_sub_cancel] at hleeway ⊢
      exact Backoff.Pace.length_delays hleeway.paced
    rw [hall] at hended
    refine ⟨_, hrun.trans (attemptFrom_gaveUp _ later hlast), hended.remote_eq, hended.sleeps_eq,
      hended.length_eq, ?_⟩
    rw [Session.log_events, hended.events_eq, List.append_nil]

end Run

/-! ### Operations that count their runs -/

def counting (replies : Nat → Reply α) (s : Session Nat) : Outcome α × Session Nat :=
  { s with remote := s.remote + 1 }.receive (replies s.remote)

def Course.ofReplies (replies : Nat → Reply α) : Course Nat α where
  result k := .ofExcept (replies k).result
  time k := Clock.move (replies k).advance
  writes _ := []
  remote k := k

/-- Every sequence of results is the course of an operation. -/
theorem takes_counting (replies : Nat → Reply α) : Takes (counting replies) (.ofReplies replies) := by
  intro k s hs htime
  have hlater : s.clock.now.later? (Clock.move (replies k).advance) = some (s.clock.now.after _) :=
    Time.later?_eq_after (Time.later?_isSome_of_le (u := .latest) htime)
  have hcount : s.remote = k := hs
  rw [counting, hcount, Session.receive_ok (s := { s with remote := k + 1 }) hlater]
  exact congrArg (fun events => (Outcome.ofExcept (replies k).result, Session.mk _ events (k + 1)))
    (List.append_nil s.events).symm

def refusals (count k : Nat) : Reply Nat :=
  .prompt (if k < count then .error (.network "refused") else .ok k)

/-- Two refusals are outlasted by three attempts. A backoff without attempts gives up after the first. -/
theorem run_follows_refusals :
    (∃ patient, run ⟨3, .ofSecs 1, .ofSecs 10, .two⟩ "query" (counting (refusals 2)) (.starting .epoch 0) =
        (.done 2, patient) ∧
      patient.remote = 3 ∧ patient.clock.sleeps = [.ofSecs 1, .ofSecs 2]) ∧
    ∃ hasty, run ⟨0, .ofSecs 1, .ofSecs 10, .two⟩ "query" (counting (refusals 2)) (.starting .epoch 0) =
        (.failed (.network "refused"), hasty) ∧
      hasty.remote = 1 ∧ hasty.events = [.gaveUp "query" 1 0 (.network "refused")] := by
  have htakes : Takes (counting (refusals 2)) (.ofReplies (refusals 2)) := takes_counting (refusals 2)
  have hrefused : ∀ j < 2, Outcome.ofExcept (refusals 2 j).result = .failed (.network "refused") := by
    intro j hj
    rw [refusals, if_pos hj]
    rfl
  obtain ⟨hpatient, _⟩ := run_follows htakes (s := .starting .epoch 0) rfl
    ⟨3, .ofSecs 1, .ofSecs 10, .two⟩ "query" fun _ => .network "refused"
  obtain ⟨_, hhasty, _⟩ := run_follows htakes (s := .starting .epoch 0) rfl
    ⟨0, .ofSecs 1, .ofSecs 10, .two⟩ "query" fun _ => .network "refused"
  obtain ⟨patient, hdone, hended⟩ := hpatient 2 2 (by decide) rfl hrefused ⟨by decide +kernel, by decide +kernel⟩
  obtain ⟨hasty, hfailed, hgone⟩ := hhasty (fun j hj => hrefused j (Nat.lt_of_lt_of_le hj (by decide)))
    ⟨by decide +kernel, by decide +kernel⟩
  have hdelays : (Backoff.delays ⟨3, .ofSecs 1, .ofSecs 10, .two⟩).1.take 2 = [.ofSecs 1, .ofSecs 2] := by
    decide +kernel
  rw [hdelays] at hended
  exact ⟨⟨patient, hdone, hended.remote_eq, hended.sleeps_eq⟩, hasty, hfailed, hgone.remote_eq, hgone.events_eq⟩

end Retry

end PodRunner
