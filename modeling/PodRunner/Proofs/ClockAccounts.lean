import Mathlib.Algebra.GroupWithZero.Nat
import PodRunner.Clock

/-!
# What a clock accounts for

A clock that is slept on and advanced shows where it started and, exactly to the nanosecond, how long all the durations
took together that are time differences; the other ones move nothing. The first use that would leave the calendar
fails and is the last one. It leaves the reading where it was, but if it is a sleep it has been written down. The uses
that return can be put in any order.
-/

namespace PodRunner

namespace Clock

namespace Use

def duration : Use → Duration
  | sleep d => d
  | advance d => d

def slept? : Use → Option Duration
  | sleep d => some d
  | advance _ => none

end Use

/-- The duration is a time difference: no more milliseconds than fit a signed word. -/
def Fits (d : Duration) : Prop := d.nanos ≤ (2 ^ 63 - 1) * 1000000

instance : DecidablePred Fits := fun d => inferInstanceAs (Decidable (d.nanos ≤ (2 ^ 63 - 1) * 1000000))

/-- How many nanoseconds the durations take together that are time differences. -/
def moved (uses : List Use) : Nat :=
  ((uses.filter fun use => Fits use.duration).map fun use => use.duration.nanos).sum

def slept (uses : List Use) : List Duration := uses.filterMap Use.slept?

theorem move_of_fits {d : Duration} (h : Fits d) : move d = d.nanos := if_pos h

theorem move_of_not_fits {d : Duration} (h : ¬ Fits d) : move d = 0 := if_neg h

section Uses

variable (use : Use) (uses : List Use)

theorem moved_cons : moved (use :: uses) = move use.duration + moved uses := by
  rw [moved]
  by_cases hfits : Fits use.duration
  · rw [List.filter_cons_of_pos (by simpa using hfits), List.map_cons, List.sum_cons, move_of_fits hfits]
    rfl
  · rw [List.filter_cons_of_neg (by simpa using hfits), move_of_not_fits hfits, Nat.zero_add]
    rfl

theorem moved_append (others : List Use) : moved (uses ++ others) = moved uses + moved others := by
  rw [moved, List.filter_append, List.map_append, List.sum_append]
  rfl

theorem moved_take_le {i j : Nat} (h : i ≤ j) : moved (uses.take i) ≤ moved (uses.take j) := by
  obtain ⟨k, rfl⟩ := Nat.exists_eq_add_of_le h
  rw [List.take_add, moved_append]
  exact Nat.le_add_right _ _

theorem moved_perm {uses others : List Use} (h : uses.Perm others) : moved uses = moved others := by
  apply List.Perm.sum_nat
  apply List.Perm.map
  exact h.filter _

theorem slept_cons : slept (use :: uses) = slept [use] ++ slept uses :=
  List.filterMap_append (l := [use])

end Uses

/-! ### One use -/

variable {c : Clock} {use : Use} {uses : List Use}

theorem ext_fields {a b : Clock} (hnow : a.now.nanos = b.now.nanos) (hsleeps : a.sleeps = b.sleeps) : a = b := by
  cases a
  cases b
  rw [Clock.mk.injEq]
  exact ⟨Time.ext_nanos hnow, hsleeps⟩

def noting (c : Clock) (use : Use) (now : Time) : Clock := ⟨now, c.sleeps ++ slept [use]⟩

theorem apply_eq (c : Clock) (use : Use) :
    c.apply use = (c.now.later? (move use.duration)).elim (.error .timeOutOfRange, c.noting use c.now)
      fun later => (.ok (), c.noting use later) := by
  cases use with
  | sleep d =>
    show c.sleep d = (c.now.later? (move d)).elim _ _
    rw [sleep, advance, record]
    cases c.now.later? (move d) <;> rfl
  | advance d =>
    have hnone : c.sleeps ++ slept [.advance d] = c.sleeps := List.append_nil _
    show c.advance d = (c.now.later? (move d)).elim _ _
    simp only [advance, noting, hnone]
    cases c.now.later? (move d) <;> rfl

theorem history_of_some {later : Time} (h : c.now.later? (move use.duration) = some later) :
    c.history (use :: uses) = (.ok (), c.noting use later) :: (c.noting use later).history uses := by
  rw [history, apply_eq, h]
  rfl

theorem history_of_none (h : c.now.later? (move use.duration) = none) :
    c.history (use :: uses) = [(.error .timeOutOfRange, c.noting use c.now)] := by
  rw [history, apply_eq, h]
  rfl

/-! ### Uses one after the other -/

/-- The reading that is due after so many uses. -/
def due (c : Clock) (uses : List Use) (i : Nat) : Int := c.now.nanos + (moved (uses.take i) : Nat)

theorem due_zero (c : Clock) (uses : List Use) : c.due uses 0 = c.now.nanos := Int.add_zero _

theorem due_mono (c : Clock) (uses : List Use) {i j : Nat} (h : i ≤ j) : c.due uses i ≤ c.due uses j := by
  have hmoved := moved_take_le uses h
  rw [due, due]
  omega

theorem due_one (c : Clock) (use : Use) (uses : List Use) :
    c.due (use :: uses) 1 = c.now.nanos + (move use.duration : Nat) := by
  rw [due, List.take_succ_cons, List.take_zero, moved_cons]
  rfl

theorem due_succ {later : Time} (h : c.now.later? (move use.duration) = some later) (i : Nat) :
    c.due (use :: uses) (i + 1) = (c.noting use later).due uses i := by
  have hlater : later.nanos = c.now.nanos + (move use.duration : Nat) := Time.later?_eq_some_iff.1 h
  rw [due, due, List.take_succ_cons, moved_cons]
  show _ = later.nanos + _
  omega

/-- A use that comes about has had all uses before it return. It returns itself, with the reading that is due, or that
would leave the calendar and the reading stays. -/
def Accounts (c : Clock) (uses : List Use) (i : Nat) (result : Except Fault Unit) (next : Clock) : Prop :=
  i < uses.length ∧ c.due uses i ≤ Time.latestNanos ∧ next.sleeps = c.sleeps ++ slept (uses.take (i + 1)) ∧
    (result = .ok () ∧ next.now.nanos = c.due uses (i + 1) ∨
      result = .error .timeOutOfRange ∧ Time.latestNanos < c.due uses (i + 1) ∧ next.now.nanos = c.due uses i)

theorem accounts_zero {result : Except Fault Unit} {next : Clock} :
    c.Accounts (use :: uses) 0 result next ↔ c.apply use = (result, next) := by
  have hstart := c.now.le_latest
  rw [apply_eq, Accounts, due_zero, due_one, List.take_succ_cons, List.take_zero]
  cases hlater : c.now.later? (move use.duration) with
  | some later =>
    have hnanos := Time.later?_eq_some_iff.1 hlater
    have hfits := later.le_latest
    constructor
    · intro ⟨_, _, hsleeps, hended⟩
      rcases hended with ⟨rfl, hnow⟩ | ⟨_, hover, _⟩
      · exact congrArg (Prod.mk _) (ext_fields (hnanos.trans hnow.symm) hsleeps.symm)
      · omega
    · intro h
      cases h
      exact ⟨Nat.succ_pos _, hstart, rfl, Or.inl ⟨rfl, hnanos⟩⟩
  | none =>
    have hover := Time.later?_eq_none_iff.1 hlater
    constructor
    · intro ⟨_, _, hsleeps, hended⟩
      rcases hended with ⟨_, hnow⟩ | ⟨rfl, _, hnow⟩
      · have hfits := next.now.le_latest
        omega
      · exact congrArg (Prod.mk _) (ext_fields hnow.symm hsleeps.symm)
    · intro h
      cases h
      exact ⟨Nat.succ_pos _, hstart, rfl, Or.inr ⟨rfl, hover, rfl⟩⟩

theorem accounts_succ {later : Time} (h : c.now.later? (move use.duration) = some later) {i : Nat}
    {result : Except Fault Unit} {next : Clock} :
    c.Accounts (use :: uses) (i + 1) result next ↔ (c.noting use later).Accounts uses i result next := by
  rw [Accounts, Accounts, due_succ h, due_succ h, List.length_cons, Nat.add_lt_add_iff_right,
    List.take_succ_cons, slept_cons, ← List.append_assoc]
  rfl

theorem history_zero (c : Clock) (use : Use) (uses : List Use) :
    (c.history (use :: uses))[0]? = some (c.apply use) := by
  cases hlater : c.now.later? (move use.duration) with
  | some later =>
    rw [history_of_some hlater, apply_eq, hlater]
    rfl
  | none =>
    rw [history_of_none hlater, apply_eq, hlater]
    rfl

theorem history_get (c : Clock) (uses : List Use) (i : Nat) (result : Except Fault Unit) (next : Clock) :
    (c.history uses)[i]? = some (result, next) ↔ c.Accounts uses i result next := by
  induction uses generalizing c i with
  | nil =>
    constructor
    · intro h
      cases h
    · intro h
      exact absurd h.1 (Nat.not_lt_zero i)
  | cons use rest ih =>
    cases i with
    | zero =>
      rw [history_zero, accounts_zero]
      exact Option.some_inj
    | succ i =>
      cases hlater : c.now.later? (move use.duration) with
      | some later => rw [history_of_some hlater, List.getElem?_cons_succ, ih, accounts_succ hlater]
      | none =>
        -- a history that ends with its first use has no later entry, since no later reading can be due
        have hover := Time.later?_eq_none_iff.1 hlater
        have hdue := c.due_mono (use :: rest) (show 1 ≤ i + 1 by omega)
        rw [due_one] at hdue
        rw [history_of_none hlater]
        constructor
        · intro h
          cases h
        · intro h
          have hin := h.2.1
          omega

/-! ### Readings -/

section Accounts

variable {i : Nat} {result : Except Fault Unit} {next : Clock}

theorem Accounts.due_le (h : c.Accounts uses i result next) : c.due uses i ≤ next.now.nanos := by
  have hmore := c.due_mono uses (Nat.le_succ i)
  rcases h.2.2.2 with ⟨_, hnow⟩ | ⟨_, _, hnow⟩
  · exact hnow ▸ hmore
  · exact Int.le_of_eq hnow.symm

theorem Accounts.le_due (h : c.Accounts uses i result next) : next.now.nanos ≤ c.due uses (i + 1) := by
  have hmore := c.due_mono uses (Nat.le_succ i)
  rcases h.2.2.2 with ⟨_, hnow⟩ | ⟨_, _, hnow⟩
  · exact Int.le_of_eq hnow
  · exact hnow ▸ hmore

end Accounts

theorem readings_pairwise (c : Clock) (uses : List Use) :
    (c.now :: (c.history uses).map (·.2.now)).Pairwise (· ≤ ·) := by
  rw [List.pairwise_cons, List.pairwise_map, List.pairwise_iff_getElem]
  constructor
  · intro t ht
    obtain ⟨x, hx, rfl⟩ := List.mem_map.1 ht
    obtain ⟨i, hi⟩ := List.getElem?_of_mem hx
    have haccounts := (c.history_get uses i x.1 x.2).1 hi
    have hdue := c.due_mono uses (Nat.zero_le i)
    rw [due_zero] at hdue
    exact Int.le_trans hdue haccounts.due_le
  · intro i j hi hj hij
    have hearlier := (c.history_get uses i _ _).1 (List.getElem?_eq_getElem hi)
    have hlater := (c.history_get uses j _ _).1 (List.getElem?_eq_getElem hj)
    exact Int.le_trans hearlier.le_due (Int.le_trans (c.due_mono uses hij) hlater.due_le)

def Returns (c : Clock) (uses : List Use) : Prop := ∀ x ∈ c.history uses, x.1 = .ok ()

def reading (c : Clock) (uses : List Use) : Time := (c.history uses).getLast?.elim c.now (·.2.now)

theorem reading_of_some {later : Time} (h : c.now.later? (move use.duration) = some later) :
    c.reading (use :: uses) = (c.noting use later).reading uses := by
  rw [reading, reading, history_of_some h, List.getLast?_cons]
  cases ((c.noting use later).history uses).getLast? <;> rfl

/-- Whether all uses return depends on the time that they take together. -/
theorem returns_iff (c : Clock) (uses : List Use) :
    c.Returns uses ↔ c.now.nanos + (moved uses : Nat) ≤ Time.latestNanos := by
  induction uses generalizing c with
  | nil =>
    have hstart := c.now.le_latest
    have hempty : moved [] = 0 := rfl
    constructor
    · intro _
      omega
    · intro _ x hx
      cases hx
  | cons use rest ih =>
    rw [Returns, moved_cons]
    cases hlater : c.now.later? (move use.duration) with
    | some later =>
      have hnanos := Time.later?_eq_some_iff.1 hlater
      have hrest := ih (c.noting use later)
      change _ ↔ later.nanos + _ ≤ _ at hrest
      rw [history_of_some hlater, List.forall_mem_cons, ← Returns, hrest]
      simp only [true_and]
      omega
    | none =>
      have hover := Time.later?_eq_none_iff.1 hlater
      rw [history_of_none hlater, List.forall_mem_singleton]
      constructor
      · intro h
        cases h
      · intro h
        omega

theorem reading_of_returns (h : c.Returns uses) :
    (c.reading uses).nanos = c.now.nanos + (moved uses : Nat) := by
  induction uses generalizing c with
  | nil => exact (Int.add_zero _).symm
  | cons use rest ih =>
    cases hlater : c.now.later? (move use.duration) with
    | some later =>
      have hnanos := Time.later?_eq_some_iff.1 hlater
      rw [Returns, history_of_some hlater, List.forall_mem_cons] at h
      have hrest := ih h.2
      change _ = later.nanos + _ at hrest
      rw [reading_of_some hlater, hrest, moved_cons]
      omega
    | none =>
      rw [Returns, history_of_none hlater, List.forall_mem_singleton] at h
      cases h

theorem returns_perm {others : List Use} (h : uses.Perm others) : c.Returns uses ↔ c.Returns others := by
  rw [returns_iff, returns_iff, moved_perm h]

theorem reading_perm {others : List Use} (h : uses.Perm others) (hreturns : c.Returns uses) :
    c.reading others = c.reading uses := by
  apply Time.ext_nanos
  rw [reading_of_returns hreturns, reading_of_returns ((returns_perm h).1 hreturns), moved_perm h]

/-- The whole account of a clock from its start. Up to the first use that fails, every use shows the start and the
exact time of the time differences so far, and has all sleeps so far written down; the one that fails has been written
down too, and its reading is the one before it. The reading never goes backwards, and the order of the uses matters
neither to whether they all return nor to what is shown when they have. -/
theorem history_accounts (start : Time) (uses : List Use) :
    let c := startingAt start
    let history := c.history uses
    let due := fun i => start.nanos + (moved (uses.take i) : Nat)
    (∀ i result clock, history[i]? = some (result, clock) ↔
      i < uses.length ∧ due i ≤ Time.latestNanos ∧ clock.sleeps = slept (uses.take (i + 1)) ∧
        (result = .ok () ∧ clock.now.nanos = due (i + 1) ∨
          result = .error .timeOutOfRange ∧ Time.latestNanos < due (i + 1) ∧ clock.now.nanos = due i)) ∧
      (start :: history.map (·.2.now)).Pairwise (· ≤ ·) ∧
      (c.Returns uses ↔ due uses.length ≤ Time.latestNanos) ∧
      (c.Returns uses → (c.reading uses).nanos = due uses.length) ∧
      ∀ others, uses.Perm others →
        (c.Returns uses ↔ c.Returns others) ∧ (c.Returns uses → c.reading others = c.reading uses) := by
  intro c history due
  have hall : due uses.length = c.now.nanos + (moved uses : Nat) := by
    show start.nanos + (moved (uses.take uses.length) : Nat) = _
    rw [List.take_length]
    rfl
  refine ⟨c.history_get uses, c.readings_pairwise uses, ?_, ?_, ?_⟩
  · rw [hall]
    exact c.returns_iff uses
  · intro hreturns
    rw [hall]
    exact reading_of_returns hreturns
  · intro others hperm
    exact ⟨returns_perm hperm, reading_perm hperm⟩

/-- The second use is too long to be a time difference, and the third one would leave the calendar. -/
example : ((startingAt Time.latest).history [.advance .zero, .sleep .longest, .sleep ⟨1⟩, .advance .zero]).map
    (fun x => (x.1.toBool, x.2.sleeps)) =
      [(true, []), (true, [.longest]), (false, [.longest, ⟨1⟩])] := by
  decide

end Clock

end PodRunner
