import PodRunner.Context.Draft
import PodRunner.Proofs.Retrying
import PodRunner.Proofs.Rounding

/-!
# The pauses of a cleanup

A cleanup that passes validation doubles its pauses, and does so exactly: the first pause is rounded once, when
it is doubled for the first time, and powers of two times a number that fits are computed without loss.
Validation compares the last of them with the cap, so the cap shortens none but the first.
-/

namespace PodRunner

open Binary64

/-! ### Durations of whole seconds -/

namespace Duration

theorem min_ofSecs (a b : Nat) : min (ofSecs a) (ofSecs b) = ofSecs (min a b) :=
  congrArg Duration.mk (Nat.mul_min_mul_right a b nanosPerSec)

theorem ofSecs_lt_ofSecs {a b : Nat} : ofSecs a < ofSecs b ↔ a < b := Nat.mul_lt_mul_right (by decide)

theorem ofSecs_lt_longest {n : Nat} (h : n < 2 ^ 64) : ofSecs n < longest := by
  simp only [lt_def, nanos_ofSecs, longest, nanosPerSec, UInt64.size]
  omega

def total (durations : List Duration) : Nat := (durations.map nanos).sum

theorem total_append_singleton (durations : List Duration) (d : Duration) :
    total (durations ++ [d]) = total durations + d.nanos := by
  rw [total, List.map_append, List.sum_append]
  exact congrArg (total durations + ·) (Nat.add_zero d.nanos)

end Duration

namespace Backoff

/-! ### Doubling -/

/-- Pauses that double from a number of seconds, with a cap in seconds. -/
def Pace.doubling (first cap : Nat) : Pace := ⟨.ofSecs first, .ofSecs cap, .two⟩

section Doubling

variable {first cap n : Nat}

theorem fits_double (first : Nat) : Fits 53 (roundNat first * 2) :=
  (roundNat_nearest first).fits.mul_two_pow 1

theorem roundNat_double (first : Nat) : roundNat (roundNat first * 2) = roundNat first * 2 :=
  roundNat_of_fits (fits_double first)

theorem double_mul_two_pow (first i : Nat) : roundNat first * 2 * 2 ^ i = roundNat first * 2 ^ (i + 1) := by
  rw [Nat.pow_succ', Nat.mul_assoc]

theorem Pace.grow?_doubling (hfirst : first < 2 ^ 64) (hcap : cap < 2 ^ 64) :
    (doubling first cap).grow? =
      if min (roundNat first * 2) (roundNat cap) < 2 ^ 64 then
        some (.ofSecs (min (roundNat first * 2) (roundNat cap)))
      else none := by
  have hdouble : whole (roundNat first) * two = whole (roundNat first * 2) := by
    have hle := roundNat_le_two_pow (Nat.le_of_lt hfirst)
    have hbound : 2 ^ 65 < 2 ^ wholeBits := Nat.pow_lt_pow_right (by decide) (by decide)
    have hlt : roundNat first * 2 < 2 ^ wholeBits := by omega
    exact (whole_mul (m := 2) (fits_double first)).trans (if_pos hlt)
  rw [grow?, doubling, Duration.toBinary64_ofSecs (Nat.le_of_lt hfirst),
    Duration.toBinary64_ofSecs (Nat.le_of_lt hcap), hdouble, least_whole, Duration.ofBinary64?_whole]

/-- What a draw gives: the first pause below the cap, unless the one after it cannot be computed. -/
theorem Pace.next_doubling (hfirst : first < 2 ^ 64) (hcap : cap < 2 ^ 64) :
    (doubling first cap).next =
      if min (roundNat first * 2) (roundNat cap) < 2 ^ 64 then
        .ok (.ofSecs (min first cap), doubling (min (roundNat first * 2) (roundNat cap)) cap)
      else .error .durationOutOfRange := by
  rw [next, grow?_doubling hfirst hcap]
  split
  · exact congrArg (fun delay => Except.ok (delay, _)) (Duration.min_ofSecs first cap)
  · rfl

/-- The seconds of each pause: only the first one may be cut. -/
def doubled (first cap : Nat) : Nat → Nat
  | 0 => min first cap
  | i + 1 => roundNat first * 2 ^ (i + 1)

def schedule (first cap count : Nat) : List Duration :=
  (List.range count).map fun i => .ofSecs (doubled first cap i)

theorem length_schedule (first cap count : Nat) : (schedule first cap count).length = count := by
  rw [schedule, List.length_map, List.length_range]

theorem get_schedule {count i : Nat} {d : Duration} (h : (schedule first cap count)[i]? = some d) :
    i < count ∧ d = .ofSecs (doubled first cap i) := by
  rw [schedule, List.getElem?_map, Option.map_eq_some_iff] at h
  obtain ⟨k, hk, rfl⟩ := h
  obtain ⟨hlt, rfl⟩ := List.getElem?_eq_some_iff.1 hk
  rw [List.length_range] at hlt
  rw [List.getElem_range]
  exact ⟨hlt, rfl⟩

/-- The pauses after the first one double as if they began with its rounded double. -/
theorem schedule_cons (hdouble : roundNat first * 2 ≤ cap) (count : Nat) :
    schedule first cap (count + 1) = .ofSecs (min first cap) :: schedule (roundNat first * 2) cap count := by
  have hlater : ∀ i, doubled first cap (i + 1) = doubled (roundNat first * 2) cap i := by
    intro i
    cases i with
    | zero => exact (Nat.min_eq_left hdouble).symm
    | succ i => rw [doubled, doubled, roundNat_double, double_mul_two_pow]
  rw [schedule, List.range_succ_eq_map, List.map_cons, List.map_map]
  refine congrArg _ (List.map_congr_left fun i _ => ?_)
  rw [← hlater]
  rfl

/-- The pauses as long as the cap does not cut the doubled ones. A last one that is too long to be computed takes
the one before it along. -/
theorem Pace.delays_doubling (hfirst : first < 2 ^ 64) (hcap : cap < 2 ^ 64)
    (hlast : roundNat first * 2 ^ n ≤ cap) :
    (doubling first cap).delays (n + 1) =
      if min (roundNat first * 2 ^ (n + 1)) (roundNat cap) < 2 ^ 64 then (schedule first cap (n + 1), none)
      else (schedule first cap n, some .durationOutOfRange) := by
  induction n generalizing first with
  | zero =>
    have hnext := next_doubling hfirst hcap
    have hone : schedule first cap (0 + 1) = [.ofSecs (min first cap)] := rfl
    have hnone : schedule first cap 0 = [] := rfl
    rw [hone, hnone, Nat.zero_add, Nat.pow_one]
    split <;> rename_i hsize
    · rw [if_pos hsize] at hnext
      rw [delays_succ_ok 0 hnext, delays]
    · rw [if_neg hsize] at hnext
      rw [delays_succ_error 0 hnext]
  | succ n ih =>
    -- the pace after the first draw begins with the rounded double, which is below the cap
    have hdouble : roundNat first * 2 ≤ cap :=
      Nat.le_trans (Nat.le_mul_of_pos_right _ (Nat.two_pow_pos n)) (double_mul_two_pow first n ▸ hlast)
    have hsecond : min (roundNat first * 2) (roundNat cap) = roundNat first * 2 :=
      Nat.min_eq_left ((roundNat_nearest cap).le_of_le (fits_double first) hdouble)
    have hnext := next_doubling hfirst hcap
    rw [hsecond, if_pos (by omega)] at hnext
    have hlater : roundNat (roundNat first * 2) * 2 ^ n ≤ cap := by
      rw [roundNat_double, double_mul_two_pow]
      exact hlast
    have hrest := ih (by omega) hlater
    rw [roundNat_double, double_mul_two_pow] at hrest
    rw [delays_succ_ok (n + 1) hnext, hrest, schedule_cons hdouble (n + 1), schedule_cons hdouble n]
    split <;> rfl

/-! ### Pauses below the cap -/

section Grown

variable (hpos : 0 < first) (hlast : roundNat first * 2 ^ n ≤ cap)

include hpos in
theorem doubled_lt {i j : Nat} (h : i < j) : doubled first cap i < doubled first cap j := by
  have hround := (roundNat_nearest first).lt_two_mul (Nat.ne_of_gt hpos)
  obtain ⟨j, rfl⟩ : ∃ k, j = k + 1 := ⟨j - 1, by omega⟩
  cases i with
  | zero =>
    have hmin : min first cap ≤ first := Nat.min_le_left first cap
    have hone : roundNat first * 2 ≤ roundNat first * 2 ^ (j + 1) :=
      Nat.mul_le_mul_left _ (Nat.le_self_pow (Nat.succ_ne_zero j) 2)
    show min first cap < roundNat first * 2 ^ (j + 1)
    omega
  | succ i => exact Nat.mul_lt_mul_of_pos_left (Nat.pow_lt_pow_right (by decide) h) (by omega)

include hlast in
theorem doubled_le {i : Nat} (h : i ≤ n) : doubled first cap i ≤ cap := by
  cases i with
  | zero => exact Nat.min_le_right first cap
  | succ i => exact Nat.le_trans (Nat.mul_le_mul_left _ (Nat.pow_le_pow_right (by decide) h)) hlast

include hpos in
theorem pairwise_schedule (count : Nat) : (schedule first cap count).Pairwise (· < ·) :=
  List.pairwise_map.2 (List.pairwise_lt_range.imp fun hlt => Duration.ofSecs_lt_ofSecs.2 (doubled_lt hpos hlt))

theorem total_schedule (first cap n : Nat) :
    Duration.total (schedule first cap (n + 1)) + (Duration.ofSecs (roundNat first * 2)).nanos =
      (Duration.ofSecs (min first cap + roundNat first * 2 ^ (n + 1))).nanos := by
  induction n with
  | zero =>
    have hfirst : Duration.total (schedule first cap 1) = (Duration.ofSecs (min first cap)).nanos :=
      Nat.add_zero _
    rw [hfirst, Nat.zero_add, Nat.pow_one]
    exact (Nat.add_mul ..).symm
  | succ n ih =>
    have hmore : schedule first cap (n + 1 + 1) =
        schedule first cap (n + 1) ++ [.ofSecs (roundNat first * 2 ^ (n + 1))] := by
      rw [schedule, List.range_succ, List.map_append]
      rfl
    rw [hmore, Duration.total_append_singleton, Nat.pow_succ (m := n + 1), ← Nat.mul_assoc]
    simp only [Duration.nanos_ofSecs, Duration.nanosPerSec] at ih ⊢
    omega

include hpos hlast in
theorem total_schedule_lt : Duration.total (schedule first cap (n + 1)) < 2 * (Duration.ofSecs cap).nanos := by
  have hround := (roundNat_nearest first).lt_two_mul (Nat.ne_of_gt hpos)
  have hmin : min first cap ≤ first := Nat.min_le_left first cap
  have htotal := total_schedule first cap n
  simp only [Duration.nanos_ofSecs, Duration.nanosPerSec, Nat.pow_succ, ← Nat.mul_assoc] at htotal ⊢
  omega

end Grown

end Doubling

end Backoff

namespace Draft.Cleanup

variable (draft : Draft.Cleanup)

/-! ### What validation lets through -/

/-- The number of attempts, the first pause and the greatest one in seconds, as written or by default. -/
def attemptCount : Nat := (draft.attempts.getD defaultAttempts).toNat

def first : Nat := (draft.initialSecs.getD defaultInitialSecs).toNat

def cap : Nat := (draft.maxSecs.getD defaultMaxSecs).toNat

theorem first_lt : draft.first < 2 ^ 64 := UInt64.toNat_lt _

theorem cap_lt : draft.cap < 2 ^ 64 := UInt64.toNat_lt _

theorem grown_pos {draft : Draft.Cleanup} (hfirst : 0 < draft.first) : 0 < roundNat draft.first := by
  have hlt := (roundNat_nearest draft.first).lt_two_mul (Nat.ne_of_gt hfirst)
  omega

theorem lastDelay_backoff {draft : Draft.Cleanup} (hfirst : 0 < draft.first) :
    let last := roundNat draft.first * 2 ^ min (draft.attemptCount - 2) Backoff.exponentBound
    draft.backoff.lastDelay = if last < 2 ^ 64 then .ofSecs last else .longest := by
  intro last
  have hfits := (roundNat_nearest draft.first).fits
  have hseconds : draft.backoff.initialDelay.toBinary64 = whole (roundNat draft.first) :=
    Duration.toBinary64_ofSecs (Nat.le_of_lt draft.first_lt)
  have hproduct : whole (roundNat draft.first) *
      two.power (min (draft.attemptCount - 2) Backoff.exponentBound) =
        if last < 2 ^ wholeBits then whole last else infinite false := by
    rw [two_power]
    exact whole_mul_twoPow hfits (Nat.ne_of_gt (grown_pos hfirst)) _
  have hbound : 2 ^ 64 < 2 ^ wholeBits := Nat.pow_lt_pow_right (by decide) (by decide)
  have hlast : draft.backoff.lastDelay = (Duration.ofBinary64?
      (if last < 2 ^ wholeBits then whole last else infinite false)).getD .longest := by
    rw [← hproduct, ← hseconds]
    rfl
  rw [hlast]
  by_cases hsmall : last < 2 ^ 64
  · rw [if_pos hsmall, if_pos (by omega), Duration.ofBinary64?_whole, if_pos hsmall]
    rfl
  · rw [if_neg hsmall]
    split
    · rw [Duration.ofBinary64?_whole, if_neg hsmall]
      rfl
    · rfl

/-- The bound on the exponent changes nothing: a power with a greater one is out of range in either case. -/
theorem lastDelay_eq {draft : Draft.Cleanup} (hfirst : 0 < draft.first) :
    let last := roundNat draft.first * 2 ^ (draft.attemptCount - 2)
    draft.backoff.lastDelay = if last < 2 ^ 64 then .ofSecs last else .longest := by
  intro last
  rw [lastDelay_backoff hfirst]
  by_cases hexponent : draft.attemptCount - 2 ≤ Backoff.exponentBound
  · rw [Nat.min_eq_left hexponent]
  · have hlarge : ∀ e, 64 ≤ e → ¬ roundNat draft.first * 2 ^ e < 2 ^ 64 := fun e he =>
      Nat.not_lt.2 (Nat.le_trans (Nat.pow_le_pow_right (by decide) he)
        (Nat.le_mul_of_pos_left _ (grown_pos hfirst)))
    have hbound : 64 ≤ Backoff.exponentBound := by decide
    rw [if_neg (hlarge _ (by omega)), if_neg (hlarge _ (by omega))]

theorem lastDelay_le_iff {draft : Draft.Cleanup} (hfirst : 0 < draft.first) :
    ¬ draft.backoff.maxDelay < draft.backoff.lastDelay ↔
      roundNat draft.first * 2 ^ (draft.attemptCount - 2) ≤ draft.cap := by
  have hcap := draft.cap_lt
  have hmax : draft.backoff.maxDelay = .ofSecs draft.cap := rfl
  rw [lastDelay_eq hfirst, hmax]
  split
  · rw [Duration.ofSecs_lt_ofSecs, Nat.not_lt]
  · have hlongest := Duration.ofSecs_lt_longest hcap
    simp only [hlongest, not_true_eq_false, false_iff]
    omega

/-- The pauses grow up to the last one, which the cap allows. -/
structure Grows : Prop where
  attempts_pos : 0 < draft.attemptCount
  last_le : 1 < draft.attemptCount →
    0 < draft.first ∧ roundNat draft.first * 2 ^ (draft.attemptCount - 2) ≤ draft.cap

theorem attempts_eq_zero_iff : draft.backoff.attempts = 0 ↔ draft.attemptCount = 0 :=
  ⟨congrArg UInt32.toNat, fun h => UInt32.toNat_inj.1 h⟩

theorem initialDelay_eq_zero_iff : draft.backoff.initialDelay = .zero ↔ draft.first = 0 := by
  show Duration.mk (draft.first * Duration.nanosPerSec) = ⟨0⟩ ↔ _
  rw [Duration.mk.injEq, Nat.mul_eq_zero]
  exact or_iff_left (by decide)

theorem overCap_iff :
    1 < draft.backoff.attempts ∧
        (draft.backoff.initialDelay = .zero ∨ draft.backoff.maxDelay < draft.backoff.lastDelay) ↔
      1 < draft.attemptCount ∧
        (draft.first = 0 ∨ draft.cap < roundNat draft.first * 2 ^ (draft.attemptCount - 2)) := by
  have hmany : 1 < draft.backoff.attempts ↔ 1 < draft.attemptCount := UInt32.lt_iff_toNat_lt
  rw [hmany, initialDelay_eq_zero_iff]
  apply and_congr_right
  intro _
  apply or_congr_right'
  intro hfirst
  rw [← Nat.not_le, ← lastDelay_le_iff (Nat.pos_of_ne_zero hfirst), not_not]

theorem grows_iff :
    draft.Grows ↔ draft.attemptCount ≠ 0 ∧ ¬ (1 < draft.attemptCount ∧
      (draft.first = 0 ∨ draft.cap < roundNat draft.first * 2 ^ (draft.attemptCount - 2))) := by
  constructor
  · rintro ⟨hpos, hlast⟩
    refine ⟨by omega, fun ⟨hmany, hover⟩ => ?_⟩
    have hgrown := hlast hmany
    omega
  · rintro ⟨hpos, hunder⟩
    exact ⟨by omega, fun hmany => by omega⟩

theorem validate_eq_ok_iff (b : Backoff) : draft.validate = .ok b ↔ b = draft.backoff ∧ draft.Grows := by
  rw [grows_iff]
  simp only [validate, attempts_eq_zero_iff, overCap_iff]
  split
  · rename_i hattempts
    exact ⟨nofun, fun h => absurd hattempts h.2.1⟩
  · rename_i hattempts
    split
    · rename_i hover
      exact ⟨nofun, fun h => absurd hover h.2.2⟩
    · rename_i hunder
      exact ⟨fun h => ⟨(Except.ok.inj h).symm, hattempts, hunder⟩, fun h => congrArg Except.ok h.1.symm⟩

/-! ### The pauses of an accepted cleanup -/

/-- Neither the double of the last pause nor the rounded cap is a duration. -/
def Overflows : Prop :=
  1 < draft.attemptCount ∧ 2 ^ 64 ≤ roundNat draft.first * 2 ^ (draft.attemptCount - 1) ∧
    2 ^ 64 - 1024 ≤ draft.cap

instance : Decidable draft.Overflows := inferInstanceAs (Decidable (_ ∧ _ ∧ _))

section Accepted

variable {draft : Draft.Cleanup}

/-- The last pause is asked for together with the one after it, which may be out of range. -/
theorem Grows.delays_eq (h : draft.Grows) :
    draft.backoff.delays =
      if draft.Overflows then
        (Backoff.schedule draft.first draft.cap (draft.attemptCount - 2), some .durationOutOfRange)
      else (Backoff.schedule draft.first draft.cap (draft.attemptCount - 1), none) := by
  have hpos := h.attempts_pos
  have hdelays : draft.backoff.delays =
      (Backoff.Pace.doubling draft.first draft.cap).delays (draft.attemptCount - 1) := rfl
  rw [hdelays]
  by_cases hmany : 1 < draft.attemptCount
  · obtain ⟨n, hn⟩ : ∃ n, draft.attemptCount = n + 2 := ⟨draft.attemptCount - 2, by omega⟩
    obtain ⟨_, hlast⟩ := h.last_le hmany
    have hcount : draft.attemptCount - 2 = n := by omega
    have hsize : draft.Overflows ↔
        ¬ min (roundNat draft.first * 2 ^ (n + 1)) (roundNat draft.cap) < 2 ^ 64 := by
      have hcap := two_pow_le_roundNat_iff draft.cap
      rw [Overflows, hn, Nat.add_sub_cancel (n + 1) 1]
      omega
    rw [hcount] at hlast ⊢
    rw [hn, Nat.add_sub_cancel (n + 1) 1, Backoff.Pace.delays_doubling draft.first_lt draft.cap_lt hlast]
    simp only [hsize, ite_not]
  · have hone : draft.attemptCount = 1 := by omega
    rw [hone, if_neg fun hover => hmany hover.1]
    rfl

theorem Grows.delays_of_not_overflows (h : draft.Grows) (hfits : ¬ draft.Overflows) :
    draft.backoff.delays.2 = none ∧ draft.backoff.delays.1.length = draft.attemptCount - 1 := by
  rw [h.delays_eq, if_neg hfits]
  exact ⟨rfl, Backoff.length_schedule _ _ _⟩

theorem Grows.delays_of_overflows (h : draft.Grows) (hover : draft.Overflows) :
    draft.backoff.delays.2 = some .durationOutOfRange ∧
      draft.backoff.delays.1.length = draft.attemptCount - 2 := by
  rw [h.delays_eq, if_pos hover]
  exact ⟨rfl, Backoff.length_schedule _ _ _⟩

/-- What is handed out is a part of the schedule, whether or not the last pause is lost. -/
theorem Grows.exists_schedule (h : draft.Grows) :
    ∃ count, count + 1 ≤ draft.attemptCount ∧
      draft.backoff.delays.1 = Backoff.schedule draft.first draft.cap count := by
  have hpos := h.attempts_pos
  rw [h.delays_eq]
  split
  · exact ⟨draft.attemptCount - 2, by omega, rfl⟩
  · exact ⟨draft.attemptCount - 1, by omega, rfl⟩

theorem Grows.get_delays (h : draft.Grows) {i : Nat} {d : Duration}
    (hd : draft.backoff.delays.1[i]? = some d) :
    i + 2 ≤ draft.attemptCount ∧ d = .ofSecs (Backoff.doubled draft.first draft.cap i) := by
  obtain ⟨count, hcount, hdelays⟩ := h.exists_schedule
  rw [hdelays] at hd
  obtain ⟨hlt, hpause⟩ := Backoff.get_schedule hd
  exact ⟨by omega, hpause⟩

theorem Grows.pairwise_delays (h : draft.Grows) : draft.backoff.delays.1.Pairwise (· < ·) := by
  obtain ⟨count, hcount, hdelays⟩ := h.exists_schedule
  rw [hdelays]
  cases count with
  | zero => exact .nil
  | succ n => exact Backoff.pairwise_schedule (h.last_le (by omega)).1 (n + 1)

theorem Grows.total_delays_lt (h : draft.Grows) (hmany : 1 < draft.attemptCount) :
    Duration.total draft.backoff.delays.1 < 2 * draft.backoff.maxDelay.nanos := by
  obtain ⟨count, hcount, hdelays⟩ := h.exists_schedule
  obtain ⟨hfirst, hlast⟩ := h.last_le hmany
  have hpower : roundNat draft.first * 2 ^ (count - 1) ≤ draft.cap :=
    Nat.le_trans (Nat.mul_le_mul_left _ (Nat.pow_le_pow_right (by decide) (by omega))) hlast
  rw [hdelays]
  cases count with
  | zero =>
    have hcap : 0 < draft.cap := Nat.lt_of_lt_of_le (Nat.mul_pos (grown_pos hfirst) (Nat.two_pow_pos _)) hlast
    exact Nat.mul_pos (by decide) (Nat.mul_pos hcap (by decide))
  | succ n => exact Backoff.total_schedule_lt hfirst hpower

/-- Every pause doubles the seconds of the one before it, so there cannot be more of them than bits. -/
theorem Grows.attemptCount_le (h : draft.Grows) : draft.attemptCount ≤ 65 := by
  by_cases hmany : 1 < draft.attemptCount
  · obtain ⟨hfirst, hlast⟩ := h.last_le hmany
    have hpower : 2 ^ (draft.attemptCount - 2) < 2 ^ 64 :=
      Nat.lt_of_le_of_lt (Nat.le_trans (Nat.le_mul_of_pos_left _ (grown_pos hfirst)) hlast) draft.cap_lt
    have hexponent := (Nat.pow_lt_pow_iff_right (by decide)).1 hpower
    omega
  · omega

/-- The last pause is the one that validation has computed, unless it is the first one and has been rounded. -/
theorem Grows.last_delay (h : draft.Grows) (hmany : 1 < draft.attemptCount) (hexact : draft.first ≤ 2 ^ 53)
    {d : Duration} (hd : draft.backoff.delays.1[draft.attemptCount - 2]? = some d) :
    d = draft.backoff.lastDelay := by
  obtain ⟨hfirst, hlast⟩ := h.last_le hmany
  obtain ⟨_, rfl⟩ := h.get_delays hd
  have hcap := draft.cap_lt
  rw [lastDelay_eq hfirst, if_pos (by omega)]
  refine congrArg Duration.ofSecs ?_
  generalize draft.attemptCount - 2 = n at hlast ⊢
  cases n with
  | zero =>
    have hround : roundNat draft.first = draft.first := roundNat_of_fits (fits_of_le (by decide) hexact)
    rw [hround, Nat.pow_zero, Nat.mul_one] at hlast ⊢
    exact Nat.min_eq_left hlast
  | succ n => rfl

/-- The pauses of a cleanup that passes validation. The first one may be cut by the cap; the others double its
rounded seconds without loss and lie below the cap. All are handed out but the last one, which may be lost. They
increase up to the pause that validation computed, there are at most 64 of them, and together they take less than
twice the cap. -/
theorem accepted_delays {b : Backoff} (hvalid : draft.validate = .ok b) :
    let grown := roundNat draft.first
    let handed := b.delays.1
    (b = draft.backoff ∧ (∀ r, Nearest draft.first r ↔ r = grown) ∧
        (draft.first ≤ 2 ^ 53 → grown = draft.first)) ∧
      (b.delays.2 = none ∧ handed.length = b.attempts.toNat - 1 ∨
        b.delays.2 = some .durationOutOfRange ∧ handed.length = b.attempts.toNat - 2) ∧
      (∀ d, handed[0]? = some d → d = min b.initialDelay b.maxDelay) ∧
      (∀ i d, handed[i + 1]? = some d → d = .ofSecs (grown * 2 ^ (i + 1)) ∧ grown * 2 ^ (i + 1) ≤ draft.cap) ∧
      handed.Pairwise (· < ·) ∧ (∀ d ∈ handed, d ≤ b.maxDelay) ∧
      (draft.first ≤ 2 ^ 53 → 1 < b.attempts.toNat →
        ∀ d, handed[b.attempts.toNat - 2]? = some d → d = b.lastDelay) ∧
      b.attempts.toNat ≤ 65 ∧
      (1 < b.attempts.toNat → Duration.total handed < 2 * b.maxDelay.nanos) := by
  obtain ⟨rfl, hgrows⟩ := (draft.validate_eq_ok_iff b).1 hvalid
  intro grown handed
  have hnearest := roundNat_nearest draft.first
  have hcapped : ∀ i d, handed[i]? = some d → Backoff.doubled draft.first draft.cap i ≤ draft.cap := by
    intro i d hd
    obtain ⟨hi, _⟩ := hgrows.get_delays hd
    exact Backoff.doubled_le (hgrows.last_le (by omega)).2 (by omega)
  refine ⟨⟨rfl, fun r => ⟨hnearest.unique, fun hr => hr ▸ hnearest⟩, ?_⟩, ?_, ?_, ?_,
    hgrows.pairwise_delays, ?_, ?_, hgrows.attemptCount_le, hgrows.total_delays_lt⟩
  · exact fun hsmall => hnearest.eq_self (fits_of_le (by decide) hsmall)
  · by_cases hover : draft.Overflows
    · exact Or.inr (hgrows.delays_of_overflows hover)
    · exact Or.inl (hgrows.delays_of_not_overflows hover)
  · intro d hd
    rw [(hgrows.get_delays hd).2]
    exact (Duration.min_ofSecs _ _).symm
  · intro i d hd
    exact ⟨(hgrows.get_delays hd).2, hcapped (i + 1) d hd⟩
  · intro d hd
    obtain ⟨i, hi⟩ := List.getElem?_of_mem hd
    rw [(hgrows.get_delays hi).2]
    exact Nat.mul_le_mul_right _ (hcapped i d hi)
  · intro hexact hmany d hd
    exact hgrows.last_delay hmany hexact hd

/-- The first pause has one second that the rounded double does not have. -/
theorem rounded_delays :
    let draft : Draft.Cleanup := ⟨some 3, some 9007199254740993, some 18014398509481984⟩
    draft.validate = .ok draft.backoff ∧
      draft.backoff.delays = ([.ofSecs (2 ^ 53 + 1), .ofSecs (2 ^ 53 * 2 ^ 1)], none) ∧
      draft.backoff.delays.1.Pairwise (· < ·) ∧
      Duration.total draft.backoff.delays.1 < 2 * draft.backoff.maxDelay.nanos := by
  intro draft
  have hvalid : draft.validate = .ok draft.backoff := by decide +kernel
  obtain ⟨_, _, _, _, hincreasing, _, _, _, hsum⟩ := accepted_delays hvalid
  exact ⟨hvalid, by decide +kernel, hincreasing, hsum (by decide)⟩

end Accepted

end Draft.Cleanup

end PodRunner
