import PodRunner.Binary64.Decimal
import PodRunner.LogFilter.Pattern
import PodRunner.LogFilter.Rule
import PodRunner.Outcome
import PodRunner.Text.Octets

/-!
# Directives of log filters

A directive is a level, a target, both with an equals sign in between, or one of these with a span in
brackets before the sign. A span may have a name and fields in braces, and a field may have a value. White
space at both ends is passed over when a directive is taken apart, but each part is cut out of the whole
text at the same number of octets, so that white space in front shifts all parts.
-/

namespace PodRunner

/-- One directive: a rule, or something about spans, which says nothing about events outside of them. -/
inductive Directive where
  | rule (rule : LogRule)
  | span
deriving DecidableEq, Repr

namespace Directive

inductive Problem where
  | invalid
  /-- A part would begin or end within a character. -/
  | cutInsideCharacter
deriving DecidableEq, Repr

private structure Draft where
  target : String
  /-- A span is named. -/
  spanNamed : Bool
  fields : List String
  /-- A field has a value. -/
  valued : Bool
  limit : Option Level

namespace Draft

private def empty : Draft := ⟨"", false, [], false, some .trace⟩

private def toDirective (draft : Draft) : Directive :=
  if draft.spanNamed || draft.valued then span else rule ⟨draft.target, draft.fields, draft.limit⟩

private def isValue (text : List Char) : Bool :=
  (Binary64.parse? (String.ofList text)).isSome || Pattern.isValid text

private def addField (draft : Draft) (text : List Char) : Except Problem Draft :=
  let name := text.takeWhile (· != '=')
  let fields := draft.fields ++ [String.ofList name]
  if text.isEmpty then .error .invalid
  else
    match text.drop name.length with
    | [] => .ok { draft with fields }
    | _ :: rest =>
      if isValue (rest.takeWhile (· != '=')) then .ok { draft with fields, valued := true }
      else .error .invalid

/-- Without a level there is no limit. -/
private def setLimit (draft : Draft) (text : List Char) : Except Problem Draft :=
  if text.isEmpty then .ok draft
  else
    match LogRule.readLimit? (String.ofList text) with
    | some limit => .ok { draft with limit }
    | none => .error .invalid

/-- A word that stands alone is a level if it names one, or else a target. -/
private def setWord (draft : Draft) (text : List Char) : Draft :=
  match LogRule.readLimit? (String.ofList text) with
  | some limit => { draft with limit }
  | none => { draft with target := String.ofList text }

end Draft

/-- What a place in a directive belongs to, with the number of octets in front of it. -/
private inductive Position where
  | beginning
  | word (start : Nat)
  | spanName (start : Nat)
  | field (start : Nat)
  | behindFields
  | behindSpan
  | level (start : Nat)
  | ending

private def cut (text : List Char) (first last : Nat) : Except Problem (List Char) :=
  match Text.slice? first last text with
  | some part => .ok part
  | none => .error .cutInsideCharacter

private def cutFrom (text : List Char) (first : Nat) : Except Problem (List Char) :=
  match Text.fromOctet? first text with
  | some part => .ok part
  | none => .error .cutInsideCharacter

private def canBegin (c : Char) : Bool :=
  c == '-' || c == ':' || c == '_' || Text.isAlphanumeric c

/-- Goes past one character, which is the one behind `place` octets. -/
private def step (text : List Char) (position : Position) (draft : Draft) (place : Nat) (c : Char) :
    Except Problem (Position × Draft) :=
  let next := place + 1
  match position, c with
  | .beginning, '[' => .ok (.spanName next, draft)
  | .beginning, c => if canBegin c then .ok (.word place, draft) else .error .invalid
  | .word start, '=' => do
    return (.level next, { draft with target := String.ofList (← cut text start place) })
  | .word start, '[' => do
    return (.spanName next, { draft with target := String.ofList (← cut text start place) })
  | .word start, ',' => do return (.ending, draft.setWord (← cutFrom text start))
  | .spanName start, ']' => do
    discard (cut text start place)
    return (.behindSpan, { draft with spanNamed := true })
  | .spanName start, '\x7b' => do
    return (.field next, { draft with spanNamed := !(← cut text start place).isEmpty })
  | .field start, '\x7d' => do return (.behindFields, ← draft.addField (← cut text start place))
  | .field start, ',' => do return (.field next, ← draft.addField (← cut text start place))
  | .behindFields, ']' => .ok (.behindSpan, draft)
  | .behindSpan, '=' => .ok (.level next, draft)
  | .level start, ',' => do return (.ending, ← draft.setLimit (← cut text start place))
  | .behindFields, _ | .behindSpan, _ | .ending, _ => .error .invalid
  | position, _ => .ok (position, draft)

private def finish (text : List Char) : Position → Draft → Except Problem Draft
  | .word start, draft => do return draft.setWord (← cutFrom text start)
  | .level start, draft => do draft.setLimit (← cutFrom text start)
  | .behindSpan, draft | .ending, draft => .ok draft
  | _, _ => .error .invalid

/-- The draft of what comes behind `place` octets. -/
private def readFrom (text : List Char) :
    Position → Draft → (place : Nat) → List Char → Except Problem Draft
  | position, draft, _, [] => finish text position draft
  | position, draft, place, c :: cs => do
    let (position, draft) ← step text position draft place c
    readFrom text position draft (place + c.utf8Size) cs

/-- The directive that a text writes. One comma may end it. -/
def parse (text : String) : Except Problem Directive :=
  (readFrom text.toList .beginning .empty 0 (Text.trim text.toList)).map Draft.toDirective

def invalid : Error := .invalidConfig "invalid filter directive"

def read (text : String) : Outcome Directive :=
  match parse text with
  | .ok directive => .done directive
  | .error .invalid => .failed invalid
  | .error .cutInsideCharacter => .broken .cutInsideCharacter

/-! ### Texts without brackets -/

private def Position.isOutside : Position → Bool
  | beginning | word _ | level _ | ending => true
  | _ => false

private def Draft.IsPlain (draft : Draft) : Prop :=
  draft.spanNamed = false ∧ draft.fields = [] ∧ draft.valued = false

private theorem Draft.IsPlain.toDirective {draft : Draft} (h : draft.IsPlain) :
    draft.toDirective = rule (.ofTarget draft.target draft.limit) := by
  obtain ⟨hspan, hfields, hvalued⟩ := h
  rw [Draft.toDirective, hspan, hvalued, hfields]
  rfl

private theorem Draft.IsPlain.setWord {draft : Draft} (h : draft.IsPlain) (text : List Char) :
    (draft.setWord text).IsPlain := by
  unfold Draft.setWord
  split <;> exact h

private theorem Draft.IsPlain.setLimit {draft next : Draft} (h : draft.IsPlain) {text : List Char}
    (hset : draft.setLimit text = .ok next) : next.IsPlain := by
  unfold Draft.setLimit at hset
  split at hset
  · cases hset
    exact h
  · split at hset <;> cases hset
    exact h

private theorem step_outside {text : List Char} {position next : Position} {draft after : Draft} {place : Nat}
    {c : Char} (hbracket : c ≠ '[') (hposition : position.isOutside = true) (hdraft : draft.IsPlain)
    (h : step text position draft place c = .ok (next, after)) :
    next.isOutside = true ∧ after.IsPlain := by
  cases position with
  | beginning =>
    have hstep : step text .beginning draft place c =
        if canBegin c then .ok (.word place, draft) else .error .invalid := by
      simp [step]
    rw [hstep] at h
    split at h <;> cases h
    exact ⟨rfl, hdraft⟩
  | word start =>
    by_cases hequals : c = '='
    · subst hequals
      cases hcut : cut text start place <;> simp only [step, hcut] at h <;> cases h
      exact ⟨rfl, hdraft⟩
    · by_cases hcomma : c = ','
      · subst hcomma
        cases hcut : cutFrom text start <;> simp only [step, hcut] at h <;> cases h
        exact ⟨rfl, hdraft.setWord _⟩
      · have hstep : step text (.word start) draft place c = .ok (.word start, draft) := by
          simp [step, hbracket, hequals, hcomma]
        cases hstep.symm.trans h
        exact ⟨rfl, hdraft⟩
  | level start =>
    by_cases hcomma : c = ','
    · subst hcomma
      cases hcut : cut text start place with
      | error e =>
        simp only [step, hcut] at h
        cases h
      | ok part =>
        cases hset : draft.setLimit part <;> simp only [step, hcut, bind, Except.bind, hset] at h <;> cases h
        exact ⟨rfl, hdraft.setLimit hset⟩
    · have hstep : step text (.level start) draft place c = .ok (.level start, draft) := by
        simp [step, hcomma]
      cases hstep.symm.trans h
      exact ⟨rfl, hdraft⟩
  | ending =>
    have hstep : step text .ending draft place c = .error .invalid := by
      simp [step]
    cases hstep.symm.trans h
  | _ => cases hposition

private theorem finish_plain {text : List Char} {position : Position} {draft after : Draft}
    (hposition : position.isOutside = true) (hdraft : draft.IsPlain)
    (h : finish text position draft = .ok after) : after.IsPlain := by
  cases position with
  | word start =>
    cases hcut : cutFrom text start <;> simp only [finish, hcut] at h <;> cases h
    exact hdraft.setWord _
  | level start =>
    cases hcut : cutFrom text start with
    | error e =>
      simp only [finish, hcut] at h
      cases h
    | ok part =>
      simp only [finish, hcut] at h
      exact hdraft.setLimit h
  | ending =>
    cases h
    exact hdraft
  | beginning => cases h
  | _ => cases hposition

private theorem readFrom_plain {text rest : List Char} {position : Position} {draft after : Draft} {place : Nat}
    (hbracket : '[' ∉ rest) (hposition : position.isOutside = true) (hdraft : draft.IsPlain)
    (h : readFrom text position draft place rest = .ok after) : after.IsPlain := by
  induction rest generalizing position draft place with
  | nil => exact finish_plain hposition hdraft h
  | cons c cs ih =>
    rw [List.mem_cons, not_or] at hbracket
    cases hstep : step text position draft place c with
    | error e =>
      simp only [readFrom, hstep] at h
      cases h
    | ok stepped =>
      obtain ⟨next, drafted⟩ := stepped
      simp only [readFrom, hstep] at h
      obtain ⟨houtside, hplain⟩ := step_outside (Ne.symm hbracket.1) hposition hdraft hstep
      exact ih hbracket.2 houtside hplain h

/-- Spans and fields stand in brackets, so a text without them is a level, a target or both. -/
theorem read_of_no_bracket {text : String} {directive : Directive} (hbracket : '[' ∉ text.toList)
    (h : read text = .done directive) : ∃ target limit, directive = rule (.ofTarget target limit) := by
  have htrimmed : '[' ∉ Text.trim text.toList := fun hmem => hbracket (Text.mem_of_mem_trim hmem)
  rw [read, parse] at h
  cases hread : readFrom text.toList .beginning .empty 0 (Text.trim text.toList) with
  | error problem =>
    rw [hread] at h
    cases problem <;> cases h
  | ok draft =>
    rw [hread] at h
    have hplain := readFrom_plain htrimmed rfl ⟨rfl, rfl, rfl⟩ hread
    exact ⟨draft.target, draft.limit, (Outcome.done.inj h).symm.trans hplain.toDirective⟩

end Directive

end PodRunner
