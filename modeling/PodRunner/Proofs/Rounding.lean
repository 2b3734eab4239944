import Mathlib.Data.Nat.Dist
import PodRunner.Binary64

/-!
# Rounding whole numbers

A whole number is rounded to the nearest of those with 53 significant bits. `Nearest` says what that means
without computing anything, and what has to be known about the rounding of numbers of seconds follows from it: it
changes no number that fits, it respects the order, and it never halves a number.
-/

namespace PodRunner

namespace Binary64

variable {bits n m r : Nat}

/-- The number has at most so many significant bits. -/
def Fits (bits n : Nat) : Prop :=
  ∃ significand exponent, significand < 2 ^ bits ∧ n = significand * 2 ^ exponent

theorem Fits.mul_two_pow (h : Fits bits n) (k : Nat) : Fits bits (n * 2 ^ k) := by
  obtain ⟨significand, exponent, hlt, rfl⟩ := h
  exact ⟨significand, exponent + k, hlt, by rw [Nat.pow_add, Nat.mul_assoc]⟩

theorem fits_two_pow (hbits : 0 < bits) (k : Nat) : Fits bits (2 ^ k) :=
  ⟨1, k, Nat.one_lt_two_pow (Nat.ne_of_gt hbits), (Nat.one_mul _).symm⟩

theorem fits_of_le (hbits : 0 < bits) (h : n ≤ 2 ^ bits) : Fits bits n := by
  rcases Nat.lt_or_eq_of_le h with hlt | rfl
  · exact ⟨n, 0, hlt, (Nat.mul_one n).symm⟩
  · exact fits_two_pow hbits bits

/-- Halfway between two neighbours with 52 significant bits there is a number with 53. -/
theorem fits_half {k : Nat} (hn : n < 2 ^ 52) (hk : 0 < k) :
    ∃ m, Fits 53 m ∧ n * 2 ^ k < m ∧ m < (n + 1) * 2 ^ k := by
  obtain ⟨k, rfl⟩ : ∃ j, k = j + 1 := ⟨k - 1, by omega⟩
  have hpos := Nat.two_pow_pos k
  refine ⟨(2 * n + 1) * 2 ^ k, (fits_of_le (by decide) (by omega)).mul_two_pow k, ?_, ?_⟩ <;>
    rw [Nat.pow_succ', ← Nat.mul_assoc] <;> exact Nat.mul_lt_mul_of_pos_right (by omega) hpos

theorem Fits.between {a b : Nat} (ha : Fits 52 a) (hb : Fits 52 b) (hlt : a + 1 < b) :
    ∃ m, Fits 53 m ∧ a < m ∧ m < b := by
  obtain ⟨s, e, hs, rfl⟩ := ha
  obtain ⟨t, f, ht, rfl⟩ := hb
  rcases Nat.le_total e f with hle | hle
  · obtain ⟨k, rfl⟩ := Nat.exists_eq_add_of_le hle
    have hgrid : (s + 1) * 2 ^ e ≤ t * 2 ^ (e + k) := by
      rw [Nat.pow_add, Nat.mul_comm (2 ^ e), ← Nat.mul_assoc] at hlt ⊢
      exact Nat.mul_le_mul_right _ (Nat.lt_of_mul_lt_mul_right (Nat.lt_of_succ_lt hlt))
    rcases Nat.eq_zero_or_pos e with rfl | he
    · exact ⟨s * 2 ^ 0 + 1, fits_of_le (by decide) (by omega), by omega, hlt⟩
    · obtain ⟨m, hm, hbelow, habove⟩ := fits_half hs he
      exact ⟨m, hm, hbelow, Nat.lt_of_lt_of_le habove hgrid⟩
  · obtain ⟨k, rfl⟩ := Nat.exists_eq_add_of_le hle
    have hgrid : s * 2 ^ (f + k) ≤ (t - 1) * 2 ^ f := by
      rw [Nat.pow_add, Nat.mul_comm (2 ^ f), ← Nat.mul_assoc] at hlt ⊢
      have hbelow : s * 2 ^ k < t := Nat.lt_of_mul_lt_mul_right (Nat.lt_of_succ_lt hlt)
      exact Nat.mul_le_mul_right _ (by omega)
    have ht' : t - 1 + 1 = t := by
      rcases Nat.eq_zero_or_pos t with rfl | hpos <;> omega
    rcases Nat.eq_zero_or_pos f with rfl | hf
    · exact ⟨t - 1, fits_of_le (by decide) (by omega), by omega, by omega⟩
    · obtain ⟨m, hm, hbelow, habove⟩ := fits_half (n := t - 1) (by omega) hf
      rw [ht'] at habove
      exact ⟨m, hm, Nat.lt_of_le_of_lt hgrid hbelow, habove⟩

/-- No number with 53 significant bits is closer to `n`, and its last bit is zero if another one is as close. -/
structure Nearest (n r : Nat) : Prop where
  fits : Fits 53 r
  dist_le : ∀ m, Fits 53 m → n.dist r ≤ n.dist m
  even : ∀ m, Fits 53 m → n.dist m = n.dist r → m ≠ r → Fits 52 r

namespace Nearest

theorem le_of_le (h : Nearest n r) (hm : Fits 53 m) (hle : m ≤ n) : m ≤ r := by
  have hdist := h.dist_le m hm
  unfold Nat.dist at hdist
  omega

theorem ge_of_ge (h : Nearest n r) (hm : Fits 53 m) (hle : n ≤ m) : r ≤ m := by
  have hdist := h.dist_le m hm
  unfold Nat.dist at hdist
  omega

theorem eq_self (h : Nearest n r) (hn : Fits 53 n) : r = n :=
  Nat.le_antisymm (h.ge_of_ge hn (Nat.le_refl n)) (h.le_of_le hn (Nat.le_refl n))

theorem lt_two_mul (h : Nearest n r) (hn : n ≠ 0) : n < 2 * r := by
  have hpower : 2 ^ n.log2 ≤ r := h.le_of_le (fits_two_pow (by decide) _) (Nat.log2_self_le hn)
  have hlt : n < 2 ^ (n.log2 + 1) := Nat.lt_log2_self
  rw [Nat.pow_succ] at hlt
  omega

theorem not_lt {t : Nat} (h : Nearest n r) (ht : Nearest n t) : ¬ r < t := by
  intro hlt
  have htie : n.dist t = n.dist r := Nat.le_antisymm (ht.dist_le r h.fits) (h.dist_le t ht.fits)
  have hr : Fits 52 r := h.even t ht.fits htie (Nat.ne_of_gt hlt)
  have ht' : Fits 52 t := ht.even r h.fits htie.symm (Nat.ne_of_lt hlt)
  unfold Nat.dist at htie
  obtain ⟨m, hm, hbelow, habove⟩ := hr.between ht' (by omega)
  have hdist := h.dist_le m hm
  unfold Nat.dist at hdist
  omega

theorem unique {t : Nat} (h : Nearest n r) (ht : Nearest n t) : t = r :=
  Nat.le_antisymm (Nat.le_of_not_lt (h.not_lt ht)) (Nat.le_of_not_lt (ht.not_lt h))

end Nearest

/-! ### The computation -/

/-- Rounding goes down or up, to the closer side, and to the even one if both are as close. -/
theorem roundDiv_cases (num den : Nat) :
    (roundDiv num den = num / den ∧ 2 * (num % den) ≤ den ∧
        (2 * (num % den) = den → num / den % 2 = 0)) ∨
      (roundDiv num den = num / den + 1 ∧ den ≤ 2 * (num % den) ∧
        (2 * (num % den) = den → (num / den + 1) % 2 = 0)) := by
  unfold roundDiv
  dsimp only
  split
  · exact Or.inl ⟨rfl, by omega, by omega⟩
  · split
    · exact Or.inr ⟨rfl, by omega, by omega⟩
    · split
      · exact Or.inl ⟨rfl, by omega, by omega⟩
      · exact Or.inr ⟨rfl, by omega, by omega⟩

theorem roundDiv_mul_right (num den : Nat) {scale : Nat} (hscale : 0 < scale) :
    roundDiv (num * scale) (den * scale) = roundDiv num den := by
  have hlt : ∀ a b : Nat, (2 * (a * scale) < b * scale) = (2 * a < b) := fun a b => by
    rw [← Nat.mul_assoc, Nat.mul_lt_mul_right hscale]
  have hgt : ∀ a b : Nat, (b * scale < 2 * (a * scale)) = (b < 2 * a) := fun a b => by
    rw [← Nat.mul_assoc, Nat.mul_lt_mul_right hscale]
  simp only [roundDiv, Nat.mul_div_mul_right _ _ hscale, Nat.mul_mod_mul_right, hlt, hgt]

def excess (n : Nat) : Nat := n.log2 - 52

theorem roundNat_eq (n : Nat) : roundNat n = roundDiv n (2 ^ excess n) * 2 ^ excess n := by
  rw [roundNat, roundBits, Nat.div_one, Nat.one_shiftLeft, Nat.shiftLeft_eq, excess]

theorem lt_of_excess (n : Nat) : n < 2 ^ 53 * 2 ^ excess n := by
  rw [← Nat.pow_add]
  exact Nat.lt_of_lt_of_le Nat.lt_log2_self (Nat.pow_le_pow_right (by decide) (by rw [excess]; omega))

theorem le_of_excess (h : 0 < excess n) : 2 ^ 52 * 2 ^ excess n ≤ n := by
  have hlog : 52 + excess n = n.log2 := by
    rw [excess] at h ⊢
    omega
  have hn : n ≠ 0 := by
    rintro rfl
    rw [Nat.log2_zero] at hlog
    omega
  rw [← Nat.pow_add, hlog]
  exact Nat.log2_self_le hn

/-- No number that fits lies strictly between two neighbours on the grid of `n`. -/
theorem Fits.le_or_ge (h : Fits 53 m) (n : Nat) :
    m ≤ n / 2 ^ excess n * 2 ^ excess n ∨ (n / 2 ^ excess n + 1) * 2 ^ excess n ≤ m := by
  obtain ⟨significand, exponent, hlt, rfl⟩ := h
  by_cases hfine : excess n ≤ exponent
  · -- a multiple of the grid is at or below a point of it, or at or above the next one
    obtain ⟨k, rfl⟩ := Nat.exists_eq_add_of_le hfine
    rw [Nat.add_comm, Nat.pow_add, ← Nat.mul_assoc]
    rcases Nat.lt_or_ge (n / 2 ^ excess n) (significand * 2 ^ k) with hbelow | habove
    · exact Or.inr (Nat.mul_le_mul_right _ hbelow)
    · exact Or.inl (Nat.mul_le_mul_right _ habove)
  · -- a number on a finer grid is smaller than all numbers with the last bit of `n`
    have hcoarse : 2 ^ exponent * 2 ≤ 2 ^ excess n := by
      rw [← Nat.pow_succ]
      exact Nat.pow_le_pow_right (by decide) (by omega)
    have hfirst : 2 ^ 52 ≤ n / 2 ^ excess n :=
      (Nat.le_div_iff_mul_le (Nat.two_pow_pos _)).2 (le_of_excess (by omega))
    refine Or.inl ?_
    calc significand * 2 ^ exponent ≤ 2 ^ 53 * 2 ^ exponent := Nat.mul_le_mul_right _ (Nat.le_of_lt hlt)
      _ = 2 ^ 52 * (2 ^ exponent * 2) := by omega
      _ ≤ n / 2 ^ excess n * 2 ^ excess n := Nat.mul_le_mul hfirst hcoarse

theorem fits_of_even {k : Nat} (hle : n ≤ 2 ^ 53) (heven : n % 2 = 0) : Fits 52 (n * 2 ^ k) := by
  have hhalf : Fits 52 (n / 2) := fits_of_le (by decide) (by omega)
  have hdouble : n / 2 * 2 ^ 1 = n := by omega
  rw [← hdouble]
  exact (hhalf.mul_two_pow 1).mul_two_pow k

/-- A neighbour on the grid of `n` that is at most half a step away, and even if it is half a step. -/
theorem nearest_of_close {k : Nat} (hk : k = n / 2 ^ excess n ∨ k = n / 2 ^ excess n + 1)
    (hclose : 2 * n.dist (k * 2 ^ excess n) ≤ 2 ^ excess n)
    (heven : 2 * n.dist (k * 2 ^ excess n) = 2 ^ excess n → k % 2 = 0) : Nearest n (k * 2 ^ excess n) := by
  have hquotient : n / 2 ^ excess n < 2 ^ 53 :=
    (Nat.div_lt_iff_lt_mul (Nat.two_pow_pos _)).2 (lt_of_excess n)
  have hsplit := Nat.div_add_mod' n (2 ^ excess n)
  have hrest := Nat.mod_lt n (Nat.two_pow_pos (excess n))
  have hnext := Nat.add_one_mul (n / 2 ^ excess n) (2 ^ excess n)
  unfold Nat.dist at hclose heven
  refine ⟨(fits_of_le (by decide) (by omega)).mul_two_pow _, ?_, ?_⟩
  · intro m hm
    have hgap := hm.le_or_ge n
    unfold Nat.dist
    rcases hk with rfl | rfl <;> omega
  · intro m hm hdist hne
    have hgap := hm.le_or_ge n
    unfold Nat.dist at hdist
    refine fits_of_even (by omega) (heven ?_)
    rcases hk with rfl | rfl <;> omega

theorem roundNat_nearest (n : Nat) : Nearest n (roundNat n) := by
  have hsplit := Nat.div_add_mod' n (2 ^ excess n)
  have hrest := Nat.mod_lt n (Nat.two_pow_pos (excess n))
  have hnext := Nat.add_one_mul (n / 2 ^ excess n) (2 ^ excess n)
  rw [roundNat_eq]
  rcases roundDiv_cases n (2 ^ excess n) with ⟨hdown, hclose, heven⟩ | ⟨hup, hclose, heven⟩
  · have hdist : n.dist (n / 2 ^ excess n * 2 ^ excess n) = n % 2 ^ excess n := by
      unfold Nat.dist
      omega
    rw [hdown]
    exact nearest_of_close (Or.inl rfl) (by rwa [hdist]) (by rwa [hdist])
  · have hdist : n.dist ((n / 2 ^ excess n + 1) * 2 ^ excess n) = 2 ^ excess n - n % 2 ^ excess n := by
      unfold Nat.dist
      omega
    rw [hup]
    exact nearest_of_close (Or.inr rfl) (by omega) (fun htie => heven (by omega))

theorem roundNat_of_fits (h : Fits 53 n) : roundNat n = n := (roundNat_nearest n).eq_self h

theorem roundNat_zero : roundNat 0 = 0 := roundNat_of_fits (fits_of_le (by decide) (by decide))

theorem roundNat_mul_two_pow (n k : Nat) : roundNat (n * 2 ^ k) = roundNat n * 2 ^ k := by
  -- a number that fits may gain excess bits, all of them zero; any other one gains exactly `k` of them
  by_cases hsmall : n ≤ 2 ^ 53
  · have hn : Fits 53 n := fits_of_le (by decide) hsmall
    rw [roundNat_of_fits hn, roundNat_of_fits (hn.mul_two_pow k)]
  · have hn : n ≠ 0 := by omega
    have hlog : (n * 2 ^ k).log2 = n.log2 + k := by
      refine (Nat.log2_eq_iff (Nat.mul_ne_zero hn (Nat.ne_of_gt (Nat.two_pow_pos k)))).2 ⟨?_, ?_⟩
      · rw [Nat.pow_add]
        exact Nat.mul_le_mul_right _ (Nat.log2_self_le hn)
      · rw [Nat.add_right_comm, Nat.pow_add]
        exact Nat.mul_lt_mul_of_pos_right Nat.lt_log2_self (Nat.two_pow_pos k)
    have hlarge : 53 ≤ n.log2 := (Nat.le_log2 hn).2 (by omega)
    have hexcess : excess (n * 2 ^ k) = excess n + k := by
      rw [excess, excess, hlog]
      omega
    rw [roundNat_eq, roundNat_eq, hexcess, Nat.pow_add, roundDiv_mul_right _ _ (Nat.two_pow_pos k),
      Nat.mul_assoc]

theorem roundBits_mul_right (n : Nat) {d : Nat} (hd : 0 < d) : roundBits (n * d) d = roundNat n := by
  rw [roundNat_eq, excess, roundBits, Nat.mul_div_cancel n hd, Nat.shiftLeft_eq, Nat.shiftLeft_eq,
    Nat.mul_comm d, roundDiv_mul_right _ _ hd]

/-! ### Whole numbers among the floating point numbers -/

def unitBits : Nat := 1074

/-- Whole numbers from this power of two on are infinite. -/
def wholeBits : Nat := 1024

theorem unitsPerOne_eq : unitsPerOne = 2 ^ unitBits := Nat.one_shiftLeft unitBits

theorem unitsPerOne_pos : 0 < unitsPerOne := by
  rw [unitsPerOne_eq]
  exact Nat.two_pow_pos unitBits

theorem overflow_eq : overflow = 2 ^ wholeBits * unitsPerOne := by
  rw [unitsPerOne_eq, ← Nat.pow_add]
  exact Nat.one_shiftLeft (wholeBits + unitBits)

def whole (n : Nat) : Binary64 := finite false (n * unitsPerOne)

/-- A computation whose exact result is a whole number gives that number rounded, unless it is too large. -/
theorem ofUnits_mul (n : Nat) {d : Nat} (hd : 0 < d) :
    ofUnits false (n * unitsPerOne * d) d =
      if roundNat n < 2 ^ wholeBits then whole (roundNat n) else infinite false := by
  have hunits : roundBits (n * unitsPerOne * d) d = roundNat n * unitsPerOne := by
    rw [roundBits_mul_right _ hd, unitsPerOne_eq, roundNat_mul_two_pow]
  have hbound : roundNat n * unitsPerOne < overflow ↔ roundNat n < 2 ^ wholeBits := by
    rw [overflow_eq, Nat.mul_lt_mul_right unitsPerOne_pos]
  simp only [ofUnits, hunits, hbound, whole]

theorem ofNat_eq (n : Nat) (h : roundNat n < 2 ^ wholeBits) : ofNat n = whole (roundNat n) := by
  have hexact := ofUnits_mul n Nat.one_pos
  rw [Nat.mul_one, if_pos h] at hexact
  rw [ofNat, ofRatio, hexact]

theorem ofRatio_zero {d : Nat} (hd : 0 < d) : ofRatio 0 d = whole 0 := by
  have hexact := ofUnits_mul 0 hd
  rw [roundNat_zero, if_pos (Nat.two_pow_pos _), Nat.zero_mul, Nat.zero_mul] at hexact
  rw [ofRatio, Nat.zero_mul, hexact]

theorem whole_add_zero (h : Fits 53 n) (hlt : n < 2 ^ wholeBits) : whole n + whole 0 = whole n := by
  have hexact := ofUnits_mul n Nat.one_pos
  rw [Nat.mul_one, roundNat_of_fits h, if_pos hlt] at hexact
  show add (whole n) (whole 0) = whole n
  rw [whole, whole, add, if_pos rfl, Nat.zero_mul, Nat.add_zero, hexact, whole]

/-- The product of whole numbers is their exact product, rounded. -/
theorem whole_mul_whole (n m : Nat) :
    whole n * whole m =
      if roundNat (n * m) < 2 ^ wholeBits then whole (roundNat (n * m)) else infinite false := by
  have hexact := ofUnits_mul (n * m) unitsPerOne_pos
  show mul (whole n) (whole m) = _
  rw [← hexact, whole, whole, mul, Nat.mul_mul_mul_comm, Nat.mul_assoc (n * m)]
  rfl

theorem whole_mul (hfits : Fits 53 (n * m)) :
    whole n * whole m = if n * m < 2 ^ wholeBits then whole (n * m) else infinite false := by
  rw [whole_mul_whole, roundNat_of_fits hfits]

theorem least_whole (n m : Nat) : least (whole n) (whole m) = whole (min n m) := by
  have hless : less (whole m) (whole n) = decide (m < n) := by
    rw [whole, whole, less]
    exact decide_eq_decide.2 (Nat.mul_lt_mul_right unitsPerOne_pos)
  show (if less (whole m) (whole n) then whole m else whole n) = whole (min n m)
  rw [hless]
  by_cases h : m < n
  · rw [if_pos (decide_eq_true h), Nat.min_eq_right (Nat.le_of_lt h)]
  · rw [if_neg (by simpa using h), Nat.min_eq_left (Nat.le_of_not_lt h)]

/-! ### Powers of two -/

/-- This power of two, which is infinite if it is too large. -/
def twoPow (exponent : Nat) : Binary64 :=
  if exponent < wholeBits then whole (2 ^ exponent) else infinite false

theorem whole_mul_infinite (hn : n ≠ 0) : whole n * infinite false = infinite false :=
  if_neg (Nat.mul_ne_zero hn (Nat.ne_of_gt unitsPerOne_pos))

theorem infinite_mul_whole (hn : n ≠ 0) : infinite false * whole n = infinite false :=
  if_neg (Nat.mul_ne_zero hn (Nat.ne_of_gt unitsPerOne_pos))

theorem whole_mul_twoPow (hfits : Fits 53 n) (hn : n ≠ 0) (exponent : Nat) :
    whole n * twoPow exponent =
      if n * 2 ^ exponent < 2 ^ wholeBits then whole (n * 2 ^ exponent) else infinite false := by
  unfold twoPow
  split
  · exact whole_mul (hfits.mul_two_pow exponent)
  · rename_i hlarge
    have hpower : 2 ^ wholeBits ≤ 2 ^ exponent := Nat.pow_le_pow_right (by decide) (Nat.le_of_not_lt hlarge)
    have hproduct : 2 ^ exponent ≤ n * 2 ^ exponent := Nat.le_mul_of_pos_left _ (Nat.pos_of_ne_zero hn)
    rw [whole_mul_infinite hn, if_neg (Nat.not_lt.2 (Nat.le_trans hpower hproduct))]

theorem twoPow_mul_twoPow (a b : Nat) : twoPow a * twoPow b = twoPow (a + b) := by
  by_cases ha : a < wholeBits
  · have hpower : 2 ^ (a + b) < 2 ^ wholeBits ↔ a + b < wholeBits := Nat.pow_lt_pow_iff_right (by decide)
    have hpow : twoPow a = whole (2 ^ a) := if_pos ha
    rw [hpow, whole_mul_twoPow (fits_two_pow (by decide) a) (Nat.ne_of_gt (Nat.two_pow_pos a))]
    simp only [← Nat.pow_add, hpower, twoPow]
  · have hpow : twoPow a = infinite false := if_neg ha
    have hsum : twoPow (a + b) = infinite false := if_neg (by omega)
    rw [hpow, hsum, twoPow]
    split
    · exact infinite_mul_whole (Nat.ne_of_gt (Nat.two_pow_pos b))
    · rfl

theorem powerFrom_twoPow (result base exponent : Nat) :
    powerFrom (twoPow result) (twoPow base) exponent = twoPow (result + base * exponent) := by
  -- a round uses the lowest bit of the exponent and goes on with the other ones
  induction exponent using Nat.strongRecOn generalizing result base with
  | ind exponent ih =>
    have hbits : result + base * exponent =
        result + base * (exponent % 2) + (base + base) * (exponent / 2) := by
      rw [Nat.add_assoc, ← Nat.two_mul, Nat.mul_comm 2, Nat.mul_assoc, ← Nat.mul_add, Nat.mod_add_div]
    have hnext : (if exponent % 2 = 1 then twoPow result * twoPow base else twoPow result) =
        twoPow (result + base * (exponent % 2)) := by
      rcases Nat.mod_two_eq_zero_or_one exponent with h | h <;> rw [h]
      · rfl
      · rw [if_pos rfl, twoPow_mul_twoPow, Nat.mul_one]
    rw [powerFrom]
    simp only [hnext]
    rw [hbits]
    split
    · rename_i hlast
      rw [hlast, Nat.mul_zero, Nat.add_zero]
    · rename_i hmore
      rw [twoPow_mul_twoPow]
      exact ih (exponent / 2) (by omega) _ _

theorem one_eq : one = twoPow 0 := by
  rw [twoPow, if_pos (by decide), whole, Nat.pow_zero, Nat.one_mul, one]

theorem two_eq : two = twoPow 1 := by
  rw [twoPow, if_pos (by decide), whole, Nat.pow_one, two]

theorem two_power (exponent : Nat) : two.power exponent = twoPow exponent := by
  rw [power, one_eq, two_eq, powerFrom_twoPow, Nat.zero_add, Nat.one_mul]

/-! ### Numbers of seconds -/

theorem roundNat_le_two_pow {k : Nat} (h : n ≤ 2 ^ k) : roundNat n ≤ 2 ^ k :=
  (roundNat_nearest n).ge_of_ge (fits_two_pow (by decide) k) h

/-- Only the last 1024 numbers below `2 ^ 64` are rounded up to it. -/
theorem two_pow_le_roundNat_iff (n : Nat) : 2 ^ 64 ≤ roundNat n ↔ 2 ^ 64 - 1024 ≤ n := by
  have hnearest := roundNat_nearest n
  have hbelow : Fits 53 (2 ^ 64 - 2 ^ 11) := ⟨2 ^ 53 - 1, 11, by decide, by decide⟩
  constructor
  · intro hle
    have hdist := hnearest.dist_le _ hbelow
    have hge := hnearest.ge_of_ge hbelow
    unfold Nat.dist at hdist
    omega
  · intro hle
    by_cases hlarge : 2 ^ 64 ≤ n
    · exact hnearest.le_of_le (fits_two_pow (by decide) 64) hlarge
    · have hlog : n.log2 = 63 := (Nat.log2_eq_iff (by omega)).2 (by omega)
      have hexcess : excess n = 11 := by rw [excess, hlog]
      rw [roundNat_eq, hexcess]
      -- rounding down would have to be a tie with an even quotient, and the quotient is `2 ^ 53 - 1`
      rcases roundDiv_cases n (2 ^ 11) with ⟨hdown, hclose, heven⟩ | ⟨hup, _, _⟩ <;> omega

end Binary64

namespace Duration

open Binary64

theorem toBinary64_ofSecs {n : Nat} (h : n ≤ 2 ^ 64) : (ofSecs n).toBinary64 = whole (roundNat n) := by
  have hlt : roundNat n < 2 ^ wholeBits :=
    Nat.lt_of_le_of_lt (roundNat_le_two_pow h) (Nat.pow_lt_pow_right (by decide) (by decide))
  rw [toBinary64, secs_ofSecs, subsecNanos_ofSecs, ofRatio_zero (by decide), ofNat_eq n hlt,
    whole_add_zero (roundNat_nearest n).fits hlt]

theorem ofBinary64?_whole (n : Nat) :
    ofBinary64? (whole n) = if n < 2 ^ 64 then some (ofSecs n) else none := by
  have hbound : n * unitsPerOne < UInt64.size * unitsPerOne ↔ n < 2 ^ 64 :=
    Nat.mul_lt_mul_right unitsPerOne_pos
  have hnanos : roundDiv (n * unitsPerOne * nanosPerSec) unitsPerOne = n * nanosPerSec := by
    have hone : roundDiv (n * nanosPerSec) 1 = n * nanosPerSec := by
      rcases roundDiv_cases (n * nanosPerSec) 1 with ⟨hdown, _, _⟩ | ⟨_, hup, _⟩ <;> omega
    have hexact := roundDiv_mul_right (n * nanosPerSec) 1 unitsPerOne_pos
    rw [Nat.one_mul, hone] at hexact
    rw [Nat.mul_right_comm, hexact]
  simp only [whole, ofBinary64?, Bool.false_and, Bool.false_eq_true, if_false, hbound, hnanos, ofSecs]

end Duration

end PodRunner
