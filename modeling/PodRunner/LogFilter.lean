import PodRunner.LogFilter.Directive

/-!
# Log filters

A filter says how much of the log is written. It holds rules, and of the rules for an event the most
specific one decides. Rules are written as directives in one line of text, with commas in between.
-/

namespace PodRunner

structure LogFilter where
  rules : List LogRule
deriving DecidableEq, Repr

namespace LogFilter

def silent : LogFilter := ⟨[]⟩

/-- A new rule replaces the one for the same events. -/
def add (f : LogFilter) (rule : LogRule) : LogFilter :=
  ⟨(f.rules.filter fun other => !rule.replaces other) ++ [rule]⟩

def addAll (f : LogFilter) (rules : List LogRule) : LogFilter := rules.foldl add f

/-- The most specific rule, if there are any rules. -/
def mostSpecific : List LogRule → Option LogRule
  | [] => none
  | rule :: rules =>
    match mostSpecific rules with
    | none => some rule
    | some other => if rule.isMoreSpecific other then some rule else some other

def rule? (f : LogFilter) (target : String) : Option LogRule :=
  mostSpecific (f.rules.filter (·.covers target))

def allows (f : LogFilter) (target : String) (level : Level) : Bool :=
  (f.rule? target).any (·.admits level)

def line? (f : LogFilter) (target : String) (level : Level) (text : String) : Option String :=
  if f.allows target level then some s!"{level.name} {target}: {text}" else none

/-- The texts between commas, without the empty ones. -/
def pieces (text : String) : List String :=
  ((text.toList.splitOn ',').map String.ofList).filter fun piece => !piece.isEmpty

/-- Where there are no directives at all, errors are written. -/
def ofDirectives (directives : List Directive) : LogFilter :=
  if directives.isEmpty then ⟨[.ofTarget "" (some .error)]⟩
  else
    silent.addAll (directives.filterMap fun directive => match directive with
      | .rule rule => some rule
      | .span => none)

def missing : Error := .invalidConfig "environment variable not found"

private def readAll : List String → Outcome (List Directive)
  | [] => .done []
  | text :: texts =>
    match Directive.read text with
    | .done directive => (readAll texts).map (directive :: ·)
    | .failed e => .failed e
    | .broken fault => .broken fault

/-- All directives but the invalid ones. -/
private def readValid : List String → Except Fault (List Directive)
  | [] => .ok []
  | text :: texts =>
    match Directive.read text with
    | .done directive => (readValid texts).map (directive :: ·)
    | .failed _ => readValid texts
    | .broken fault => .error fault

/-- The filter of a line of directives, which has to be there and hold none but valid ones. -/
def read (value : Option String) : Outcome LogFilter :=
  match value with
  | none => .failed missing
  | some text => (readAll (pieces text)).map ofDirectives

/-- The filter of a line of directives, or of no line, in which invalid directives are passed over. -/
def ofVariable (value : Option String) : Except Fault LogFilter :=
  (readValid (pieces (value.getD ""))).map ofDirectives

def noise : List LogRule :=
  [.ofTarget "h2" (some .error), .ofTarget "hyper_util" (some .error),
    .ofTarget "kube_client" (some .warn), .ofTarget "tower" (some .error)]

/-- The filter of the program: what its environment asks for, with noise kept out. -/
def ofEnvironment (value : Option String) : Except Fault LogFilter :=
  (ofVariable value).map (·.addAll noise)

theorem ofDirectives_eq {directives : List Directive} (h : directives ≠ []) :
    ∃ rules, ofDirectives directives = silent.addAll rules ∧ ∀ rule, rule ∈ rules ↔ .rule rule ∈ directives := by
  refine ⟨_, if_neg (by rwa [List.isEmpty_iff]), fun rule => ?_⟩
  rw [List.mem_filterMap]
  constructor
  · intro ⟨directive, hdirective, hsome⟩
    cases directive <;> cases hsome
    exact hdirective
  · intro hmem
    exact ⟨_, hmem, rfl⟩

private theorem mem_readValid {texts : List String} {directives : List Directive}
    (h : readValid texts = .ok directives) (directive : Directive) :
    directive ∈ directives ↔ ∃ text ∈ texts, Directive.read text = .done directive := by
  induction texts generalizing directives with
  | nil =>
    cases h
    simp
  | cons text texts ih =>
    simp only [List.mem_cons, exists_eq_or_imp] at ih ⊢
    cases hread : Directive.read text with
    | done first =>
      cases hrest : readValid texts with
      | error fault =>
        simp only [readValid, hread, hrest] at h
        cases h
      | ok others =>
        simp only [readValid, hread, hrest] at h
        cases h
        rw [List.mem_cons, ih hrest, Outcome.done.injEq]
        exact or_congr_left ⟨Eq.symm, Eq.symm⟩
    | failed e =>
      simp only [readValid, hread] at h
      rw [ih h]
      exact ⟨Or.inr, fun hfound => hfound.resolve_left nofun⟩
    | broken fault =>
      simp only [readValid, hread] at h
      cases h

/-- The directives between commas count where they are valid; what is not is passed over. -/
theorem ofVariable_ok {value : Option String} {f : LogFilter} (h : ofVariable value = .ok f) :
    ∃ directives, f = ofDirectives directives ∧ ∀ directive, directive ∈ directives ↔
      ∃ piece ∈ pieces (value.getD ""), Directive.read piece = .done directive := by
  cases hread : readValid (pieces (value.getD "")) with
  | error fault =>
    rw [ofVariable, hread] at h
    cases h
  | ok directives =>
    rw [ofVariable, hread] at h
    cases h
    exact ⟨directives, rfl, mem_readValid hread⟩

end LogFilter

end PodRunner
