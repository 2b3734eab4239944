import Mathlib.Data.List.Basic
import PodRunner.LogFilter

/-!
# Rules against noise

Of the rules without fields the one with the longest target decides about an event, as long as the event's target
begins with it. So a rule that is added changes nothing for the events of other targets, and for its own it is
overruled by a longer one and overrules all others. The filter of the program is that of its environment with four
rules added, of which at most one is for an event.
-/

namespace PodRunner

namespace LogRule

variable {rule other : LogRule} {target : String}

def IsFor (rule : LogRule) (target : String) : Prop := rule.target.toList <+: target.toList

theorem covers_iff (hfields : rule.fields = []) : rule.covers target = true ↔ rule.IsFor target := by
  rw [covers, hfields, List.all_nil, Bool.and_true, List.isPrefixOf_iff_prefix]
  rfl

theorem isMoreSpecific_iff (hrule : rule.fields = []) (hother : other.fields = []) :
    rule.isMoreSpecific other = true ↔ other.target.length < rule.target.length := by
  simp [isMoreSpecific, hrule, hother]

theorem replaces_iff (hrule : rule.fields = []) (hother : other.fields = []) :
    rule.replaces other = true ↔ rule.target = other.target := by
  simp [replaces, hrule, hother]

theorem covers_of_replaces (h : rule.replaces other = true) : other.covers target = rule.covers target := by
  rw [replaces, Bool.and_eq_true, beq_iff_eq, beq_iff_eq] at h
  rw [covers, covers, h.1, h.2]

/-- Two rules for one target are told apart by their lengths. -/
theorem IsFor.target_eq (hrule : rule.IsFor target) (hother : other.IsFor target)
    (hlength : rule.target.length = other.target.length) : rule.target = other.target := by
  have hsame : rule.target.toList.length = other.target.toList.length := by
    simpa only [String.length_toList] using hlength
  have hbegins : rule.target.toList <+: other.target.toList :=
    List.prefix_of_prefix_length_le hrule hother (Nat.le_of_eq hsame)
  exact String.toList_inj.1 (hbegins.eq_of_length hsame)

end LogRule

namespace LogFilter

variable {f : LogFilter} {rule other best : LogRule} {rules : List LogRule} {target : String}

/-! ### The most specific rule -/

theorem mostSpecific_mem (h : mostSpecific rules = some best) : best ∈ rules := by
  induction rules generalizing best with
  | nil => cases h
  | cons first rest ih =>
    rw [mostSpecific] at h
    split at h
    · cases h
      exact List.mem_cons_self
    · rename_i found hfound
      split at h <;> cases h
      · exact List.mem_cons_self
      · exact List.mem_cons_of_mem _ (ih hfound)

theorem exists_mostSpecific (h : rule ∈ rules) : ∃ best, mostSpecific rules = some best := by
  cases rules with
  | nil => cases h
  | cons first rest =>
    rw [mostSpecific]
    split
    · exact ⟨_, rfl⟩
    · split <;> exact ⟨_, rfl⟩

theorem length_le_mostSpecific (hfields : ∀ rule ∈ rules, rule.fields = [])
    (h : mostSpecific rules = some best) (hmem : rule ∈ rules) :
    rule.target.length ≤ best.target.length := by
  induction rules generalizing best with
  | nil => cases hmem
  | cons first rest ih =>
    have hrest : ∀ rule ∈ rest, rule.fields = [] := fun rule hrule => hfields rule (List.mem_cons_of_mem _ hrule)
    rw [mostSpecific] at h
    cases hfound : mostSpecific rest with
    | none =>
      rw [hfound] at h
      cases h
      rcases List.mem_cons.1 hmem with rfl | hlater
      · exact Nat.le_refl _
      · obtain ⟨found, hsome⟩ := exists_mostSpecific hlater
        cases hfound.symm.trans hsome
    | some found =>
      rw [hfound] at h
      have hlater := ih hrest hfound
      have hspecific : first.isMoreSpecific found = true ↔ found.target.length < first.target.length :=
        LogRule.isMoreSpecific_iff (hfields first List.mem_cons_self) (hrest found (mostSpecific_mem hfound))
      dsimp only at h
      split at h <;> rename_i hmore <;> rw [hspecific] at hmore <;> cases h
      · rcases List.mem_cons.1 hmem with rfl | hin
        · exact Nat.le_refl _
        · exact Nat.le_trans (hlater hin) (Nat.le_of_lt hmore)
      · rcases List.mem_cons.1 hmem with rfl | hin
        · exact Nat.le_of_not_lt hmore
        · exact hlater hin

/-! ### Plain filters -/

/-- No rule asks for fields, and a target has one rule at most. -/
structure Plain (f : LogFilter) : Prop where
  fields_eq : ∀ rule ∈ f.rules, rule.fields = []
  unique : ∀ rule ∈ f.rules, ∀ other ∈ f.rules, rule.target = other.target → rule = other

/-- The rule is for the target, and no longer one is. -/
structure Decides (f : LogFilter) (target : String) (rule : LogRule) : Prop where
  mem : rule ∈ f.rules
  isFor : rule.IsFor target
  longest : ∀ other ∈ f.rules, other.IsFor target → other.target.length ≤ rule.target.length

theorem mem_add : other ∈ (f.add rule).rules ↔ other ∈ f.rules ∧ rule.replaces other = false ∨ other = rule := by
  simp [add]

namespace Plain

theorem silent : Plain silent := ⟨nofun, nofun⟩

theorem add (hf : f.Plain) (hrule : rule.fields = []) : (f.add rule).Plain := by
  have hkept : ∀ other ∈ f.rules, rule.replaces other = false → rule.target ≠ other.target := by
    intro other hother hreplaces htarget
    rw [(LogRule.replaces_iff hrule (hf.fields_eq other hother)).2 htarget] at hreplaces
    cases hreplaces
  constructor
  · intro other hother
    rcases mem_add.1 hother with ⟨hold, _⟩ | rfl
    · exact hf.fields_eq other hold
    · exact hrule
  · intro a ha b hb htarget
    rcases mem_add.1 ha with ⟨hold, hakept⟩ | rfl <;> rcases mem_add.1 hb with ⟨hold', hbkept⟩ | rfl
    · exact hf.unique a hold b hold' htarget
    · exact absurd htarget.symm (hkept a hold hakept)
    · exact absurd htarget (hkept b hold' hbkept)
    · rfl

theorem addAll (hf : f.Plain) (hrules : ∀ rule ∈ rules, rule.fields = []) : (f.addAll rules).Plain := by
  induction rules generalizing f with
  | nil => exact hf
  | cons rule rest ih =>
    rw [List.forall_mem_cons] at hrules
    exact ih (hf.add hrules.1) hrules.2

theorem mem_covering (hf : f.Plain) :
    rule ∈ f.rules.filter (·.covers target) ↔ rule ∈ f.rules ∧ rule.IsFor target := by
  rw [List.mem_filter]
  apply and_congr_right
  intro hrule
  exact LogRule.covers_iff (hf.fields_eq rule hrule)

theorem rule?_eq_some_iff (hf : f.Plain) : f.rule? target = some rule ↔ f.Decides target rule := by
  have hfields : ∀ other ∈ f.rules.filter (·.covers target), other.fields = [] := fun other hother =>
    hf.fields_eq other (hf.mem_covering.1 hother).1
  have hdecides : ∀ found, f.rule? target = some found → f.Decides target found := by
    intro found hfound
    obtain ⟨hmem, hfor⟩ := hf.mem_covering.1 (mostSpecific_mem hfound)
    refine ⟨hmem, hfor, fun other hother hisFor => ?_⟩
    exact length_le_mostSpecific hfields hfound (hf.mem_covering.2 ⟨hother, hisFor⟩)
  constructor
  · exact hdecides rule
  · intro h
    obtain ⟨found, hfound⟩ := exists_mostSpecific (hf.mem_covering.2 ⟨h.mem, h.isFor⟩)
    have hother := hdecides found hfound
    have hlength : found.target.length = rule.target.length :=
      Nat.le_antisymm (h.longest found hother.mem hother.isFor) (hother.longest rule h.mem h.isFor)
    have hsame : found = rule := hf.unique found hother.mem rule h.mem (hother.isFor.target_eq h.isFor hlength)
    rw [← hsame]
    exact hfound

theorem exists_decides (hf : f.Plain) (hmem : rule ∈ f.rules) (hfor : rule.IsFor target) :
    ∃ best, f.Decides target best := by
  obtain ⟨best, hbest⟩ := exists_mostSpecific (hf.mem_covering.2 ⟨hmem, hfor⟩)
  exact ⟨best, hf.rule?_eq_some_iff.1 hbest⟩

theorem exists_longer_iff (hf : f.Plain) (n : Nat) :
    (∃ best, f.rule? target = some best ∧ n < best.target.length) ↔
      ∃ rule ∈ f.rules, rule.IsFor target ∧ n < rule.target.length := by
  constructor
  · intro ⟨best, hbest, hlonger⟩
    have hdecides := hf.rule?_eq_some_iff.1 hbest
    exact ⟨best, hdecides.mem, hdecides.isFor, hlonger⟩
  · intro ⟨rule, hmem, hfor, hlonger⟩
    obtain ⟨best, hbest⟩ := hf.exists_decides hmem hfor
    exact ⟨best, hf.rule?_eq_some_iff.2 hbest, Nat.lt_of_lt_of_le hlonger (hbest.longest rule hmem hfor)⟩

/-! ### One more rule -/

/-- A longer rule goes on to decide. -/
theorem rule?_add_of_longer (hf : f.Plain) (hrule : rule.fields = [])
    (hlonger : ∃ best, f.rule? target = some best ∧ rule.target.length < best.target.length) :
    (f.add rule).rule? target = f.rule? target := by
  obtain ⟨best, hbest, hlength⟩ := hlonger
  have hdecides := hf.rule?_eq_some_iff.1 hbest
  have hkept : rule.replaces best = false := by
    rw [Bool.eq_false_iff, Ne, LogRule.replaces_iff hrule (hf.fields_eq best hdecides.mem)]
    intro htarget
    rw [htarget] at hlength
    exact Nat.lt_irrefl _ hlength
  rw [hbest, (hf.add hrule).rule?_eq_some_iff]
  refine ⟨mem_add.2 (Or.inl ⟨hdecides.mem, hkept⟩), hdecides.isFor, ?_⟩
  intro found hfound hisFor
  rcases mem_add.1 hfound with ⟨hold, _⟩ | rfl
  · exact hdecides.longest found hold hisFor
  · exact Nat.le_of_lt hlength

/-- Where no rule is longer, the new one decides. -/
theorem rule?_add_of_not_longer (hf : f.Plain) (hrule : rule.fields = []) (hfor : rule.IsFor target)
    (hlongest : ¬ ∃ best, f.rule? target = some best ∧ rule.target.length < best.target.length) :
    (f.add rule).rule? target = some rule := by
  rw [hf.exists_longer_iff] at hlongest
  rw [(hf.add hrule).rule?_eq_some_iff]
  refine ⟨mem_add.2 (Or.inr rfl), hfor, ?_⟩
  intro found hfound hisFor
  rcases mem_add.1 hfound with ⟨hold, _⟩ | rfl
  · apply Nat.le_of_not_lt
    intro hlonger
    exact hlongest ⟨found, hold, hisFor, hlonger⟩
  · exact Nat.le_refl _

theorem exists_target_add (hf : f.Plain) (hrule : rule.fields = []) (t : String) :
    (∃ other ∈ (f.add rule).rules, other.target = t) ↔
      (∃ other ∈ f.rules, other.target = t) ∨ rule.target = t := by
  constructor
  · intro ⟨other, hother, htarget⟩
    rcases mem_add.1 hother with ⟨hold, _⟩ | rfl
    · exact Or.inl ⟨other, hold, htarget⟩
    · exact Or.inr htarget
  · intro h
    by_cases hsame : rule.target = t
    · exact ⟨rule, mem_add.2 (Or.inr rfl), hsame⟩
    · obtain ⟨other, hold, htarget⟩ := h.resolve_right hsame
      have hkept : rule.replaces other = false := by
        rw [Bool.eq_false_iff, Ne, LogRule.replaces_iff hrule (hf.fields_eq other hold), htarget]
        exact hsame
      exact ⟨other, mem_add.2 (Or.inl ⟨hold, hkept⟩), htarget⟩

theorem exists_target_addAll (hf : f.Plain) (hrules : ∀ rule ∈ rules, rule.fields = []) (t : String) :
    (∃ other ∈ (f.addAll rules).rules, other.target = t) ↔
      (∃ other ∈ f.rules, other.target = t) ∨ ∃ rule ∈ rules, rule.target = t := by
  induction rules generalizing f with
  | nil =>
    show (∃ other ∈ f.rules, other.target = t) ↔ _
    simp
  | cons rule rest ih =>
    rw [List.forall_mem_cons] at hrules
    have hrest := ih (hf.add hrules.1) hrules.2
    rw [hf.exists_target_add hrules.1, or_assoc] at hrest
    simp only [List.mem_cons, exists_eq_or_imp]
    exact hrest

end Plain

theorem rule?_add_of_not_covers (h : rule.covers target = false) : (f.add rule).rule? target = f.rule? target := by
  have hkept : ∀ other ∈ f.rules, (other.covers target && !rule.replaces other) = other.covers target := by
    intro other _
    by_cases hreplaces : rule.replaces other = true
    · rw [LogRule.covers_of_replaces hreplaces, h, Bool.false_and]
    · rw [Bool.eq_false_iff.2 hreplaces, Bool.not_false, Bool.and_true]
  have hnone : [rule].filter (·.covers target) = [] := List.filter_cons_of_neg (by simp [h])
  rw [rule?, add, List.filter_append, List.filter_filter, List.filter_congr hkept, hnone, List.append_nil, rule?]

theorem rule?_addAll_of_not_covers (h : ∀ rule ∈ rules, rule.covers target = false) :
    (f.addAll rules).rule? target = f.rule? target := by
  induction rules generalizing f with
  | nil => rfl
  | cons rule rest ih =>
    rw [List.forall_mem_cons] at h
    exact (ih h.2).trans (rule?_add_of_not_covers h.1)

/-! ### Rules apart from each other -/

def Apart (a b : LogRule) : Prop :=
  ¬ a.target.toList <+: b.target.toList ∧ ¬ b.target.toList <+: a.target.toList

instance (a b : LogRule) : Decidable (Apart a b) := inferInstanceAs (Decidable (_ ∧ _))

theorem Apart.symm {a b : LogRule} (h : Apart a b) : Apart b a := ⟨h.2, h.1⟩

theorem Apart.not_covers (h : Apart rule other) (hother : other.fields = []) (hfor : rule.IsFor target) :
    other.covers target = false := by
  rw [Bool.eq_false_iff, Ne, LogRule.covers_iff hother]
  intro hisFor
  rcases List.prefix_or_prefix_of_prefix hfor hisFor with hbegins | hbegins
  · exact h.1 hbegins
  · exact h.2 hbegins

/-- Of rules apart from each other only the one for the target matters, and it overrules all that are not longer. -/
theorem Plain.rule?_addAll (hf : f.Plain) (hrules : ∀ rule ∈ rules, rule.fields = []) (hapart : rules.Pairwise Apart)
    (hmem : rule ∈ rules) (hfor : rule.IsFor target) :
    ((∃ best, f.rule? target = some best ∧ rule.target.length < best.target.length) →
      (f.addAll rules).rule? target = f.rule? target) ∧
      ((¬ ∃ best, f.rule? target = some best ∧ rule.target.length < best.target.length) →
        (f.addAll rules).rule? target = some rule) := by
  obtain ⟨before, after, rfl⟩ := List.append_of_mem hmem
  rw [List.forall_mem_append, List.forall_mem_cons] at hrules
  obtain ⟨hbefore, hrule, hafter⟩ := hrules
  rw [List.pairwise_append, List.pairwise_cons] at hapart
  obtain ⟨_, ⟨hlater, _⟩, hearlier⟩ := hapart
  have hfirst : (f.addAll before).rule? target = f.rule? target := by
    apply rule?_addAll_of_not_covers
    intro other hother
    exact (hearlier other hother rule List.mem_cons_self).symm.not_covers (hbefore other hother) hfor
  have hlast : (f.addAll (before ++ rule :: after)).rule? target = ((f.addAll before).add rule).rule? target := by
    have hsplit : f.addAll (before ++ rule :: after) = ((f.addAll before).add rule).addAll after :=
      List.foldl_append
    rw [hsplit]
    apply rule?_addAll_of_not_covers
    intro other hother
    exact (hlater other hother).not_covers (hafter other hother) hfor
  rw [← hfirst, hlast]
  constructor
  · exact (hf.addAll hbefore).rule?_add_of_longer hrule
  · exact (hf.addAll hbefore).rule?_add_of_not_longer hrule hfor

/-! ### What is written -/

theorem line?_congr {g : LogFilter} (h : f.rule? target = g.rule? target) (level : Level) (text : String) :
    f.line? target level text = g.line? target level text := by
  rw [line?, line?, allows, allows, h]

theorem line?_of_rule {t : String} {limit : Level} (h : f.rule? target = some (.ofTarget t (some limit)))
    (level : Level) (text : String) :
    f.line? target level text =
      if level.rank ≤ limit.rank then some s!"{level.name} {target}: {text}" else none := by
  have hallows : f.allows target level = decide (level.rank ≤ limit.rank) := by
    rw [allows, h]
    rfl
  simp only [line?, hallows, decide_eq_true_eq]

/-! ### Values without spans -/

def restraints : List (String × Level) :=
  [("h2", .error), ("hyper_util", .error), ("kube_client", .warn), ("tower", .error)]

theorem noise_eq : noise = restraints.map fun (t, limit) => .ofTarget t (some limit) := rfl

example : ["h2=error", "hyper_util=error", "kube_client=warn", "tower=error"].map Directive.read =
    noise.map fun rule => .done (.rule rule) := by
  decide +kernel

theorem noise_fields : ∀ rule ∈ noise, rule.fields = [] := by decide

theorem noise_apart : noise.Pairwise Apart := by decide

theorem mem_noise {t : String} {limit : Level} (h : (t, limit) ∈ restraints) : .ofTarget t (some limit) ∈ noise := by
  rw [noise_eq]
  exact List.mem_map.2 ⟨_, h, rfl⟩

def Begins (target t : String) : Prop := t.toList <+: target.toList

instance (target t : String) : Decidable (Begins target t) := inferInstanceAs (Decidable (t.toList <+: target.toList))

/-- What the valid directives are: levels, targets or both. Brackets stand in invalid ones only. -/
def Spanless (value : Option String) : Prop :=
  ∀ piece ∈ pieces (value.getD ""), '[' ∈ piece.toList → Directive.read piece = .failed Directive.invalid

instance (value : Option String) : Decidable (Spanless value) :=
  inferInstanceAs (Decidable (∀ piece ∈ pieces (value.getD ""), _))

def Names (value : Option String) (t : String) : Prop :=
  ∃ piece ∈ pieces (value.getD ""), ∃ limit, Directive.read piece = .done (.rule (.ofTarget t limit))

section Values

variable {value : Option String} {t : String}

theorem Spanless.read (h : Spanless value) {piece : String} {directive : Directive}
    (hpiece : piece ∈ pieces (value.getD "")) (hread : Directive.read piece = .done directive) :
    ∃ t limit, directive = .rule (.ofTarget t limit) := by
  apply Directive.read_of_no_bracket _ hread
  intro hbracket
  rw [h piece hpiece hbracket] at hread
  cases hread

/-- The rules are those of the directives, or that for everything if there are none. -/
theorem ofDirectives_plain {directives : List Directive}
    (h : ∀ directive ∈ directives, ∃ t limit, directive = .rule (.ofTarget t limit)) :
    (ofDirectives directives).Plain ∧ ∀ t ≠ "",
      (∃ rule ∈ (ofDirectives directives).rules, rule.target = t) ↔
        ∃ limit, .rule (.ofTarget t limit) ∈ directives := by
  by_cases hempty : directives = []
  · subst hempty
    constructor
    · exact ⟨by decide, by simp [ofDirectives]⟩
    · intro t ht
      simp [ofDirectives, LogRule.ofTarget, ht.symm]
  · obtain ⟨rules, hrules, hrule⟩ := ofDirectives_eq hempty
    have hshape : ∀ rule ∈ rules, ∃ t limit, rule = .ofTarget t limit := by
      intro rule hin
      obtain ⟨t, limit, hsame⟩ := h _ ((hrule rule).1 hin)
      exact ⟨t, limit, Directive.rule.inj hsame⟩
    have hfields : ∀ rule ∈ rules, rule.fields = [] := by
      intro rule hin
      obtain ⟨t, limit, rfl⟩ := hshape rule hin
      rfl
    rw [hrules]
    refine ⟨Plain.silent.addAll hfields, fun t _ => ?_⟩
    rw [Plain.silent.exists_target_addAll hfields]
    simp only [← hrule]
    constructor
    · intro h
      obtain ⟨rule, hin, htarget⟩ := h.resolve_left nofun
      obtain ⟨t', limit, rfl⟩ := hshape rule hin
      exact ⟨limit, htarget ▸ hin⟩
    · intro ⟨limit, hin⟩
      exact Or.inr ⟨_, hin, rfl⟩

theorem Spanless.ofVariable (h : Spanless value) (hf : LogFilter.ofVariable value = .ok f) :
    f.Plain ∧ ∀ t ≠ "", (∃ rule ∈ f.rules, rule.target = t) ↔ Names value t := by
  obtain ⟨directives, rfl, hmem⟩ := ofVariable_ok hf
  have hnames : ∀ t, Names value t ↔ ∃ limit, .rule (.ofTarget t limit) ∈ directives := by
    intro t
    simp only [hmem]
    constructor
    · intro ⟨piece, hpiece, limit, hread⟩
      exact ⟨limit, piece, hpiece, hread⟩
    · intro ⟨limit, piece, hpiece, hread⟩
      exact ⟨piece, hpiece, limit, hread⟩
  simp only [hnames]
  apply ofDirectives_plain
  intro directive hdirective
  obtain ⟨piece, hpiece, hread⟩ := (hmem directive).1 hdirective
  exact h.read hpiece hread

/-- A longer rule for the target comes from a longer directive that is valid. -/
theorem Spanless.exists_longer_iff (h : Spanless value) (hf : LogFilter.ofVariable value = .ok f) (n : Nat) :
    (∃ best, f.rule? target = some best ∧ n < best.target.length) ↔
      ∃ t, Names value t ∧ Begins target t ∧ n < t.length := by
  obtain ⟨hplain, hnames⟩ := h.ofVariable hf
  have hne : ∀ t : String, n < t.length → t ≠ "" := by
    rintro t hlonger rfl
    exact Nat.not_lt_zero n hlonger
  rw [hplain.exists_longer_iff]
  constructor
  · intro ⟨rule, hrule, hfor, hlonger⟩
    exact ⟨rule.target, (hnames _ (hne _ hlonger)).1 ⟨rule, hrule, rfl⟩, hfor, hlonger⟩
  · intro ⟨t, hnamed, hbegins, hlonger⟩
    obtain ⟨rule, hrule, rfl⟩ := (hnames t (hne t hlonger)).2 hnamed
    exact ⟨rule, hrule, hbegins, hlonger⟩

/-- The rules against noise restrain their own targets and no others. For an event of another target the value alone
decides. For one of their own it decides only if it has a longer directive for the target, and otherwise what is
written goes by the fixed limit, however much the value asks for. A directive for the very target is not longer. -/
theorem ofEnvironment_restrains (h : Spanless value) :
    (∀ fault, LogFilter.ofVariable value = .error fault → ofEnvironment value = .error fault) ∧
      ∀ f, LogFilter.ofVariable value = .ok f → ∃ restrained, ofEnvironment value = .ok restrained ∧ ∀ target,
        let asBefore := ∀ level text, restrained.line? target level text = f.line? target level text
        ((∀ t limit, (t, limit) ∈ restraints → ¬ Begins target t) → asBefore) ∧
          ∀ t limit, (t, limit) ∈ restraints → Begins target t →
            let overruled := ∃ longer, Names value longer ∧ Begins target longer ∧ t.length < longer.length
            let fixed := ∀ level text, restrained.line? target level text =
              if level.rank ≤ limit.rank then some s!"{level.name} {target}: {text}" else none
            (overruled → asBefore) ∧ (¬ overruled → fixed) ∧ (target = t → fixed) := by
  constructor
  · intro fault hfault
    rw [ofEnvironment, hfault]
    rfl
  · intro f hf
    have hplain := (h.ofVariable hf).1
    refine ⟨f.addAll noise, by rw [ofEnvironment, hf]; rfl, fun target => ?_⟩
    intro asBefore
    constructor
    · intro hnone level text
      apply line?_congr
      apply rule?_addAll_of_not_covers
      rw [noise_eq, List.forall_mem_map]
      intro (t, limit) hmem
      rw [Bool.eq_false_iff, Ne, LogRule.covers_iff rfl]
      exact hnone t limit hmem
    · intro t limit hmem hbegins overruled fixed
      obtain ⟨hold, hnew⟩ := hplain.rule?_addAll noise_fields noise_apart (mem_noise hmem) hbegins
      have hover : (∃ best, f.rule? target = some best ∧ t.length < best.target.length) ↔ overruled :=
        h.exists_longer_iff hf t.length
      have hfixed : ¬ overruled → fixed := by
        intro hnone
        apply line?_of_rule
        apply hnew
        intro hlonger
        exact hnone (hover.1 hlonger)
      refine ⟨?_, hfixed, ?_⟩
      · intro hoverruled level text
        apply line?_congr
        exact hold (hover.2 hoverruled)
      · intro hsame
        apply hfixed
        intro ⟨longer, _, hlongerBegins, hlonger⟩
        have hshort := hlongerBegins.length_le
        rw [hsame, String.length_toList, String.length_toList] at hshort
        exact Nat.not_lt_of_le hshort hlonger

end Values

/-- A value that asks for more from `h2` than that is given, and from `h2::x` by a longer directive. -/
def noisy : Option String := some "h2=trace,h2::x=debug,[x,tower_=off,,warn"

theorem noisy_restrained :
    Spanless noisy ∧ ∃ f restrained, ofVariable noisy = .ok f ∧ ofEnvironment noisy = .ok restrained ∧
      ∀ level text,
        restrained.line? "h2" level text =
          (if level.rank ≤ Level.error.rank then some (level.name ++ " " ++ "h2" ++ ": " ++ text) else none) ∧
        restrained.line? "h2::x::y" level text = f.line? "h2::x::y" level text ∧
        restrained.line? "kube" level text = f.line? "kube" level text := by
  have hspanless : Spanless noisy := by decide +kernel
  have hnamed : Names noisy "h2::x" := ⟨"h2::x=debug", by decide +kernel, some .debug, by decide +kernel⟩
  have hother : ∀ x ∈ restraints, ¬ Begins "kube" x.1 := by decide
  have hquiet : ("h2", Level.error) ∈ restraints := List.mem_cons_self
  obtain ⟨f, hf⟩ : ∃ f, ofVariable noisy = .ok f := by
    have hok : (ofVariable noisy).toBool = true := by decide +kernel
    cases hread : ofVariable noisy with
    | error fault =>
      rw [hread] at hok
      cases hok
    | ok f => exact ⟨f, rfl⟩
  obtain ⟨restrained, hrestrained, hdecides⟩ := (ofEnvironment_restrains hspanless).2 f hf
  refine ⟨hspanless, f, restrained, hf, hrestrained, fun level text => ⟨?_, ?_, ?_⟩⟩
  · exact ((hdecides "h2").2 "h2" .error hquiet (by decide)).2.2 rfl level text
  · apply ((hdecides "h2::x::y").2 "h2" .error hquiet (by decide)).1
    exact ⟨"h2::x", hnamed, by decide, by decide⟩
  · apply (hdecides "kube").1
    intro t limit hmem
    exact hother (t, limit) hmem

end LogFilter

end PodRunner
