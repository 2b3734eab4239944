import PodRunner.Proofs.Overflow

/-!
# Pauses that grow up to a cap

A backoff caps each pause before it multiplies it by the next factor, and multiplies in floating point. Where the
seconds of the first pause and of the cap and the multiplier are whole numbers of at most `2 ^ 53`, this gives the
closed formula: every pause is a power of the multiplier times the first one, cut at the cap. A product up to the cap
is exact, one above it is rounded to something that is not below the cap, and what has reached the cap cannot fall
below it by being multiplied.
-/

namespace PodRunner

namespace Binary64

/-- Rounding changes nothing below a cap that fits, and carries no number across it. -/
theorem min_roundNat (n : Nat) {cap : Nat} (hcap : cap ≤ 2 ^ 53) : min (roundNat n) cap = min n cap := by
  have hnearest := roundNat_nearest n
  have hfits : Fits 53 cap := fits_of_le (by decide) hcap
  rcases Nat.le_total n cap with hle | hge
  · have hexact : roundNat n = n := hnearest.eq_self (fits_of_le (by decide) (Nat.le_trans hle hcap))
    rw [hexact]
  · have habove : cap ≤ roundNat n := hnearest.le_of_le hfits hge
    rw [Nat.min_eq_right habove, Nat.min_eq_right hge]

theorem ofNat_of_le {n : Nat} (h : n ≤ 2 ^ 53) : ofNat n = whole n := by
  have hexact : roundNat n = n := roundNat_of_fits (fits_of_le (by decide) h)
  have hbound : 2 ^ 53 < 2 ^ wholeBits := Nat.pow_lt_pow_right (by decide) (by decide)
  rw [ofNat_eq n (by omega), hexact]

end Binary64

open Binary64

namespace Duration

theorem ofSecs_inj {a b : Nat} : ofSecs a = ofSecs b ↔ a = b := by
  rw [ofSecs, ofSecs, Duration.mk.injEq]
  exact Nat.mul_left_inj (by decide)

theorem toBinary64_of_le {n : Nat} (h : n ≤ 2 ^ 53) : (ofSecs n).toBinary64 = whole n := by
  have hexact : roundNat n = n := roundNat_of_fits (fits_of_le (by decide) h)
  rw [toBinary64_ofSecs (by omega), hexact]

end Duration

namespace Backoff

/-! ### Growing -/

/-- Pauses that grow by a whole factor from a number of seconds, with a cap in seconds. -/
def Pace.growing (first cap factor : Nat) : Pace := ⟨.ofSecs first, .ofSecs cap, whole factor⟩

section Growing

variable {first cap factor : Nat}

theorem Pace.grow?_growing (hfirst : first ≤ 2 ^ 53) (hcap : cap ≤ 2 ^ 53) (hfactor : factor ≤ 2 ^ 53) :
    (growing first cap factor).grow? = some (.ofSecs (min (first * factor) cap)) := by
  have hproduct : whole first * whole factor = whole (roundNat (first * factor)) := by
    have hle : first * factor ≤ 2 ^ 53 * 2 ^ 53 := Nat.mul_le_mul hfirst hfactor
    rw [← Nat.pow_add] at hle
    have hbound : 2 ^ (53 + 53) < 2 ^ wholeBits := Nat.pow_lt_pow_right (by decide) (by decide)
    rw [whole_mul_whole, if_pos (Nat.lt_of_le_of_lt (roundNat_le_two_pow hle) hbound)]
  rw [grow?, growing, Duration.toBinary64_of_le hfirst, Duration.toBinary64_of_le hcap, hproduct, least_whole,
    min_roundNat _ hcap, Duration.ofBinary64?_whole, if_pos (by omega)]

/-- A draw gives the first pause, capped, and goes on from the next one, which is capped already. -/
theorem Pace.next_growing (hfirst : first ≤ 2 ^ 53) (hcap : cap ≤ 2 ^ 53) (hfactor : factor ≤ 2 ^ 53) :
    (growing first cap factor).next =
      .ok (.ofSecs (min first cap), growing (min (first * factor) cap) cap factor) := by
  rw [next, grow?_growing hfirst hcap hfactor]
  exact congrArg (fun delay => Except.ok (delay, _)) (Duration.min_ofSecs first cap)

def grown (first cap factor i : Nat) : Nat := min (first * factor ^ i) cap

theorem grown_zero (first cap factor : Nat) : grown first cap factor 0 = min first cap := by
  rw [grown, Nat.pow_zero, Nat.mul_one]

/-- Capping a pause changes no later one. -/
theorem grown_min (hfactor : 0 < factor) (n i : Nat) : grown (min n cap) cap factor i = grown n cap factor i := by
  have hpos : 0 < factor ^ i := Nat.pow_pos hfactor
  rcases Nat.le_total n cap with hle | hge
  · rw [Nat.min_eq_left hle]
  · -- both products are at the cap or above it
    have hfull : cap ≤ cap * factor ^ i := Nat.le_mul_of_pos_right cap hpos
    have hmore : cap ≤ n * factor ^ i := Nat.le_trans hge (Nat.le_mul_of_pos_right n hpos)
    rw [grown, grown, Nat.min_eq_right hge, Nat.min_eq_right hfull, Nat.min_eq_right hmore]

theorem grown_succ (hfactor : 0 < factor) (i : Nat) :
    grown (min (first * factor) cap) cap factor i = grown first cap factor (i + 1) := by
  rw [grown_min hfactor, grown, grown, Nat.pow_succ', Nat.mul_assoc]

theorem grown_le_cap (i : Nat) : grown first cap factor i ≤ cap := Nat.min_le_right _ _

theorem grown_mono (hfactor : 0 < factor) {i j : Nat} (hij : i ≤ j) :
    grown first cap factor i ≤ grown first cap factor j := by
  have hpow : first * factor ^ i ≤ first * factor ^ j :=
    Nat.mul_le_mul_left first (Nat.pow_le_pow_right hfactor hij)
  rw [grown, grown]
  omega

theorem Pace.delays_growing (hfirst : first ≤ 2 ^ 53) (hcap : cap ≤ 2 ^ 53) (hpos : 0 < factor)
    (hfactor : factor ≤ 2 ^ 53) (n : Nat) :
    (growing first cap factor).delays n =
      ((List.range n).map fun i => .ofSecs (grown first cap factor i), none) := by
  induction n generalizing first with
  | zero => rfl
  | succ n ih =>
    have hnext := next_growing hfirst hcap hfactor
    have hbound : min (first * factor) cap ≤ 2 ^ 53 := Nat.le_trans (Nat.min_le_right _ _) hcap
    have hlater := ih hbound
    simp only [grown_succ hpos] at hlater
    rw [delays_succ_ok n hnext, hlater, List.range_succ_eq_map, List.map_cons, List.map_map, grown_zero]
    rfl

end Growing

/-! ### The closed formula -/

/-- A backoff over whole seconds hands out one pause less than it has attempts and then no more. They follow the
closed formula, so they never decrease, and once one is as long as the cap all later ones are. -/
theorem delays_capped {b : Backoff} {first cap factor : Nat} (hinitial : b.initialDelay = .ofSecs first)
    (hmax : b.maxDelay = .ofSecs cap) (hmultiplier : b.multiplier = .ofNat factor) (hfirst : first ≤ 2 ^ 53)
    (hcap : cap ≤ 2 ^ 53) (hpos : 1 ≤ factor) (hfactor : factor ≤ 2 ^ 53) :
    let handed := b.delays.1
    b.delays.2 = none ∧ handed.length = max b.attempts.toNat 1 - 1 ∧
      (∀ count, handed.length < count → b.draws count = handed.map .delay ++ [.exhausted]) ∧
      (∀ i < handed.length, handed[i]? = some (.ofSecs (min (first * factor ^ i) cap))) ∧
      handed.Pairwise (· ≤ ·) ∧
      ∀ (i j : Nat) d, i ≤ j → handed[i]? = some b.maxDelay → handed[j]? = some d → d = b.maxDelay := by
  intro handed
  have hpace : b.pace = .growing first cap factor := by
    rw [pace, hinitial, hmax, hmultiplier, ofNat_of_le hfactor]
    rfl
  have hdelays : b.delays = ((List.range b.pauses).map fun i => .ofSecs (grown first cap factor i), none) := by
    rw [delays, hpace, Pace.delays_growing hfirst hcap hpos hfactor]
  have hhanded : handed = (List.range b.pauses).map fun i => .ofSecs (grown first cap factor i) :=
    congrArg Prod.fst hdelays
  have hlength : handed.length = b.pauses := by
    rw [hhanded, List.length_map, List.length_range]
  have hget : ∀ i < handed.length, handed[i]? = some (.ofSecs (grown first cap factor i)) := by
    intro i hi
    rw [hlength] at hi
    rw [hhanded, List.getElem?_map, List.getElem?_range hi, Option.map_some]
  refine ⟨congrArg Prod.snd hdelays, ?_, ?_, hget, ?_, ?_⟩
  · rw [hlength, pauses]
    omega
  · intro count hcount
    rw [hlength] at hcount
    rw [b.draws_eq hcount, hdelays, Option.elim_none, ← hhanded]
  · rw [hhanded, List.pairwise_map]
    apply List.Pairwise.imp _ (List.pairwise_le_range (n := b.pauses))
    intro i j hij
    exact Nat.mul_le_mul_right _ (grown_mono hpos hij)
  · intro i j d hij hi hj
    have hj' : j < handed.length := (List.getElem?_eq_some_iff.1 hj).1
    have hreached : Duration.ofSecs (grown first cap factor i) = b.maxDelay := by
      rw [hget i (by omega)] at hi
      exact Option.some.inj hi
    rw [hget j hj'] at hj
    have hlate : grown first cap factor i ≤ grown first cap factor j := grown_mono hpos hij
    have hbelow : grown first cap factor j ≤ cap := grown_le_cap j
    rw [hmax, Duration.ofSecs_inj] at hreached
    rw [← Option.some.inj hj, hmax, Duration.ofSecs_inj]
    omega

/-- The second product is odd and has 104 bits, so it is rounded before it is cut. -/
theorem steep_delays :
    let b : Backoff := ⟨5, .ofSecs 3, .ofSecs (2 ^ 53), .ofNat (2 ^ 51 + 1)⟩
    b.delays.1.length = 4 ∧
      b.delays.1 = [.ofSecs 3, .ofSecs (3 * (2 ^ 51 + 1)), .ofSecs (2 ^ 53), .ofSecs (2 ^ 53)] ∧
      b.draws 9 = b.delays.1.map .delay ++ [.exhausted] ∧ b.delays.1.Pairwise (· ≤ ·) := by
  intro b
  have hinitial : b.initialDelay = .ofSecs 3 := rfl
  have hmax : b.maxDelay = .ofSecs (2 ^ 53) := rfl
  have hmultiplier : b.multiplier = .ofNat (2 ^ 51 + 1) := by dsimp only [b]
  obtain ⟨_, hlength, hdraws, _, hsorted, _⟩ :=
    delays_capped hinitial hmax hmultiplier (by omega) (by omega) (by omega) (by omega)
  have hfour : b.delays.1.length = 4 := hlength.trans (by decide)
  refine ⟨hfour, ?_, hdraws 9 (by omega), hsorted⟩
  decide +kernel

end Backoff

end PodRunner
