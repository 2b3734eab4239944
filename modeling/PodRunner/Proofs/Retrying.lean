import PodRunner.Retry

/-!
# Trying again, attempt by attempt

The pauses of a backoff are handed out one by one, and an attempt either ends the matter or is followed by the
next pause and the next attempt.
-/

namespace PodRunner

namespace Backoff.Pace

theorem delays_succ_error {pace : Pace} {fault : Fault} (n : Nat) (hnext : pace.next = .error fault) :
    pace.delays (n + 1) = ([], some fault) := by
  rw [delays, hnext, handOut]

theorem delays_succ_ok {pace later : Pace} {delay : Duration} (n : Nat)
    (hnext : pace.next = .ok (delay, later)) :
    pace.delays (n + 1) = (delay :: (later.delays n).1, (later.delays n).2) := by
  rw [delays, hnext, handOut]

/-- A draw that succeeds leaves the faults to the later ones. -/
theorem delays_succ_fault {pace later : Pace} {delay : Duration} (n : Nat)
    (hnext : pace.next = .ok (delay, later)) : (pace.delays (n + 1)).2 = (later.delays n).2 := by
  rw [delays_succ_ok n hnext]

theorem next_of_delays {pace : Pace} {n : Nat} (hpaced : (pace.delays (n + 1)).2 = none) :
    ∃ delay later, pace.next = .ok (delay, later) ∧ (later.delays n).2 = none := by
  cases hnext : pace.next with
  | error fault =>
    rw [delays_succ_error n hnext] at hpaced
    cases hpaced
  | ok drawn =>
    obtain ⟨delay, later⟩ := drawn
    exact ⟨delay, later, rfl, (delays_succ_fault n hnext).symm.trans hpaced⟩

theorem length_delays {pace : Pace} {n : Nat} (hpaced : (pace.delays n).2 = none) :
    (pace.delays n).1.length = n := by
  induction n generalizing pace with
  | zero => rfl
  | succ n ih =>
    obtain ⟨delay, later, hnext, hlater⟩ := next_of_delays hpaced
    rw [delays_succ_ok n hnext]
    exact congrArg (· + 1) (ih hlater)

theorem delays_eq_take {pace : Pace} {n m : Nat} (hle : n ≤ m) (hpaced : (pace.delays n).2 = none) :
    (pace.delays n).1 = (pace.delays m).1.take n := by
  induction n generalizing pace m with
  | zero => exact List.take_zero.symm
  | succ n ih =>
    obtain ⟨m, rfl⟩ : ∃ k, m = k + 1 := ⟨m - 1, by omega⟩
    obtain ⟨delay, later, hnext, hlater⟩ := next_of_delays hpaced
    rw [delays_succ_ok n hnext, delays_succ_ok m hnext]
    exact congrArg (delay :: ·) (ih (by omega) hlater)

end Backoff.Pace

namespace Retry

variable {σ α π : Type} {next : π → Except Fault (Duration × π)} {name : String} {attempts : Nat}
  {operation : Session σ → Outcome α × Session σ} {pace later : π} {s failed slept : Session σ}
  {error : Error}

theorem attemptFrom_again {delay : Duration} (pauses attempt : Nat)
    (hfailed : operation s = (.failed error, failed)) (hnext : next pace = .ok (delay, later))
    (hslept : (failed.log (.retrying name attempt attempts delay error)).sleep delay = (.ok (), slept)) :
    attemptFrom next name attempts operation (pauses + 1) attempt pace s =
      attemptFrom next name attempts operation pauses (attempt + 1) later slept := by
  simp only [attemptFrom, hfailed, pause, hnext, hslept]

theorem attemptFrom_broke {fault : Fault} (pauses attempt : Nat)
    (hfailed : operation s = (.failed error, failed)) (hnext : next pace = .error fault) :
    attemptFrom next name attempts operation (pauses + 1) attempt pace s = (.broken fault, failed) := by
  simp only [attemptFrom, hfailed, pause, hnext]

theorem attemptFrom_gaveUp (attempt : Nat) (pace : π) (hfailed : operation s = (.failed error, failed)) :
    attemptFrom next name attempts operation 0 attempt pace s =
      (.failed error, failed.log (.gaveUp name attempt attempts error)) := by
  simp only [attemptFrom, hfailed]

theorem attemptFrom_done {value : α} {ended : Session σ} (pauses attempt : Nat) (pace : π)
    (hdone : operation s = (.done value, ended)) :
    attemptFrom next name attempts operation pauses attempt pace s = (.done value, ended) := by
  cases pauses <;> simp only [attemptFrom, hdone]

end Retry

end PodRunner
