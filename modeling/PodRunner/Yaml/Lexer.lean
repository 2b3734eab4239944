import PodRunner.Yaml.Scalar.Block
import PodRunner.Yaml.Scalar.Plain
import PodRunner.Yaml.Scalar.Quoted
import PodRunner.Yaml.Token

/-!
# Reading tokens

Whether something is the key of a mapping shows only at the colon behind it. Every place where a key may begin
is remembered, and tokens from there on are held back until the colon comes, which puts a key token in front
of them, or until the place can no longer be a key because the line has ended or 1024 characters have gone by.
In a block mapping some places must be keys, and then the missing colon is an error.
-/

namespace PodRunner.Yaml

/-- A place where a key may begin: the number of its token, and whether it has to be a key. -/
structure KeyPlace where
  number : Nat
  mark : Mark
  required : Bool
deriving DecidableEq, Repr

structure Lexer where
  rest : List Char
  mark : Mark
  /-- Tokens that are read but not yet delivered. -/
  held : List Token
  /-- The number of tokens that are delivered. -/
  delivered : Nat
  /-- The least indentation of a line that continues the innermost block collection; zero outside of all. -/
  margin : Nat
  /-- The margins of the collections around the innermost one. -/
  outerMargins : List Nat
  /-- The last place for a key in the innermost flow collection. -/
  keyPlace : Option KeyPlace
  /-- The same for the collections around it; outside of flow collections there are none. -/
  outerKeyPlaces : List (Option KeyPlace)
  /-- A key may begin here. -/
  keyAllowed : Bool
  /-- The end of the text has been reached. -/
  finished : Bool

namespace Lexer

def ofCharacters (cs : List Char) : Lexer where
  rest := cs
  mark := .start
  held := []
  delivered := 0
  margin := 0
  outerMargins := []
  keyPlace := none
  outerKeyPlaces := []
  keyAllowed := true
  finished := false

def inFlow (lx : Lexer) : Bool := !lx.outerKeyPlaces.isEmpty

def hold (lx : Lexer) (token : Token) : Lexer :=
  { lx with held := lx.held ++ [token] }

def holdAt (lx : Lexer) (number : Nat) (token : Token) : Lexer :=
  let position := number - lx.delivered
  { lx with held := lx.held.take position ++ token :: lx.held.drop position }

def moveTo (lx : Lexer) (rest : List Char) : Lexer :=
  let read := lx.rest.take (lx.rest.length - rest.length)
  { lx with rest, mark := lx.mark.past read }

def skip (lx : Lexer) (count : Nat) : Lexer := lx.moveTo (lx.rest.drop count)

/-! ## Places for keys -/

private def isStale (mark : Mark) (place : KeyPlace) : Bool :=
  place.mark.line < mark.line || place.mark.column + 1024 < mark.column

private def refresh? (mark : Mark) (place : Option KeyPlace) : Option (Option KeyPlace) :=
  match place with
  | none => some none
  | some place =>
    if isStale mark place then (if place.required then none else some none) else some (some place)

/-- Gives up the places that can no longer be keys. -/
def dropStale? (lx : Lexer) : Option Lexer := do
  let keyPlace ← refresh? lx.mark lx.keyPlace
  let outerKeyPlaces ← lx.outerKeyPlaces.mapM (refresh? lx.mark)
  return { lx with keyPlace, outerKeyPlaces }

def dropKeyPlace? (lx : Lexer) : Option Lexer :=
  if lx.keyPlace.any (·.required) then none else some { lx with keyPlace := none }

/-- Remembers the present place, if a key may begin here. -/
def saveKeyPlace? (lx : Lexer) : Option Lexer :=
  if lx.keyAllowed then do
    let required := !lx.inFlow && lx.margin == lx.mark.column + 1
    let place : KeyPlace := ⟨lx.delivered + lx.held.length, lx.mark, required⟩
    return { (← lx.dropKeyPlace?) with keyPlace := some place }
  else some lx

/-! ## Indentation -/

/-- Begins a block collection if the column is deeper than the present one; its token is held at the end or in
front of a given one. -/
def indentTo (lx : Lexer) (column : Nat) (number : Option Nat) (token : Token) : Lexer :=
  if !lx.inFlow && lx.margin ≤ column then
    let lx := { lx with margin := column + 1, outerMargins := lx.margin :: lx.outerMargins }
    match number with
    | some number => lx.holdAt number token
    | none => lx.hold token
  else lx

private def outdentFrom (margin : Nat) : (outerMargins : List Nat) → Lexer → Lexer
  | [], lx => lx
  | outer :: outers, lx =>
    if margin < lx.margin then
      outdentFrom margin outers { lx.hold .blockEnd with margin := outer, outerMargins := outers }
    else lx

/-- Ends the block collections that are deeper than `margin`. -/
def outdentTo (lx : Lexer) (margin : Nat) : Lexer :=
  if lx.inFlow then lx else outdentFrom margin lx.outerMargins lx

/-! ## White space and comments -/

/-- Skips to the next token. A line break outside of flow collections makes room for a key; there, tabs are
no white space where a key may begin. -/
private def skipWhite (flow : Bool) :
    (lineStart commented allowed : Bool) → List Char → Bool × List Char
  | _, _, allowed, [] => (allowed, [])
  | lineStart, commented, allowed, c :: cs =>
    if isBreak c then skipWhite flow true false (allowed || !flow) cs
    else if commented || c == ' ' || (c == '\t' && (flow || !allowed)) ||
        (lineStart && c == byteOrderMark) then
      skipWhite flow false commented allowed cs
    else if c == '#' then skipWhite flow false true allowed cs
    else (allowed, c :: cs)

/-! ## Directives -/

private def readNumber? (cs : List Char) : Option (Nat × List Char) :=
  let digits := cs.takeWhile Text.isDigit
  if digits.length > 9 then none
  else (Text.readDigits? 10 digits).map fun n => (n, cs.dropWhile Text.isDigit)

private def readVersion? (cs : List Char) : Option (Token × List Char) := do
  let (major, rest) ← readNumber? (cs.dropWhile isBlank)
  match rest with
  | '.' :: rest =>
    let (minor, rest) ← readNumber? rest
    return (.version major minor, rest)
  | _ => none

private def readDirective? (cs : List Char) : Option (Token × List Char) := do
  let name := String.ofList (cs.takeWhile isWordChar)
  let rest := cs.dropWhile isWordChar
  if !atGap rest then none
  else
    let (token, rest) ← match name with
      | "YAML" => readVersion? rest
      | "TAG" => (Tag.readDirective? rest).map fun ((handle, beginning), rest) =>
        (.tagHandle handle beginning, rest)
      | _ => none
    return (token, ← Block.endLine? rest)

/-! ## Tokens -/

/-- Leaves all block collections, as directives and the marks of documents do. -/
private def leaveBlocks? (lx : Lexer) : Option Lexer := do
  return { (← (lx.outdentTo 0).dropKeyPlace?) with keyAllowed := false }

private def documentMark? (lx : Lexer) (token : Token) : Option Lexer := do
  return ((← lx.leaveBlocks?).skip 3).hold token

private def streamEnd? (lx : Lexer) : Option Lexer := do
  let mark := if lx.mark.column = 0 then lx.mark else ⟨lx.mark.line + 1, 0⟩
  let lx ← leaveBlocks? { lx with mark }
  return { lx.hold .streamEnd with finished := true }

private def flowStart? (lx : Lexer) (token : Token) : Option Lexer := do
  let lx ← lx.saveKeyPlace?
  let lx := { lx with
    outerKeyPlaces := lx.keyPlace :: lx.outerKeyPlaces
    keyPlace := none
    keyAllowed := true }
  return (lx.skip 1).hold token

private def flowEnd? (lx : Lexer) (token : Token) : Option Lexer := do
  let lx ← lx.dropKeyPlace?
  let lx := match lx.outerKeyPlaces with
    | [] => lx
    | place :: places => { lx with keyPlace := place, outerKeyPlaces := places }
  return (({ lx with keyAllowed := false } : Lexer).skip 1).hold token

private def flowEntry? (lx : Lexer) : Option Lexer := do
  let lx ← lx.dropKeyPlace?
  return (({ lx with keyAllowed := true } : Lexer).skip 1).hold .flowEntry

private def blockEntry? (lx : Lexer) : Option Lexer := do
  if !lx.inFlow && !lx.keyAllowed then none
  else
    let lx ← (lx.indentTo lx.mark.column none .blockSequenceStart).dropKeyPlace?
    return (({ lx with keyAllowed := true } : Lexer).skip 1).hold .blockEntry

private def key? (lx : Lexer) : Option Lexer := do
  if !lx.inFlow && !lx.keyAllowed then none
  else
    let lx ← (lx.indentTo lx.mark.column none .blockMappingStart).dropKeyPlace?
    return (({ lx with keyAllowed := !lx.inFlow } : Lexer).skip 1).hold .key

private def value? (lx : Lexer) : Option Lexer :=
  match lx.keyPlace with
  | some place =>
    let lx := (lx.holdAt place.number .key).indentTo place.mark.column (some place.number)
      .blockMappingStart
    some ((({ lx with keyPlace := none, keyAllowed := false } : Lexer).skip 1).hold .value)
  | none =>
    if !lx.inFlow && !lx.keyAllowed then none
    else
      let lx := lx.indentTo lx.mark.column none .blockMappingStart
      some ((({ lx with keyAllowed := !lx.inFlow } : Lexer).skip 1).hold .value)

private def endsName (cs : List Char) : Bool :=
  atGap cs || cs.head?.any fun c => "?:,]\x7d%@\x60".toList.contains c

private def name? (lx : Lexer) (token : List Char → Token) : Option Lexer := do
  let lx ← lx.saveKeyPlace?
  let cs := lx.rest.drop 1
  let name := cs.takeWhile isWordChar
  let rest := cs.dropWhile isWordChar
  if name.isEmpty || !endsName rest then none
  else return ({ lx with keyAllowed := false }.moveTo rest).hold (token name)

private def tag? (lx : Lexer) : Option Lexer := do
  let lx ← lx.saveKeyPlace?
  let (tag, rest) ← Tag.read? lx.inFlow lx.rest
  return ({ lx with keyAllowed := false }.moveTo rest).hold (.tag tag)

private def blockScalar? (lx : Lexer) (literal : Bool) : Option Lexer := do
  let lx ← lx.dropKeyPlace?
  let (text, rest) ← Block.read? literal lx.margin (lx.rest.drop 1)
  return ({ lx with keyAllowed := true }.moveTo rest).hold
    (.scalar (if literal then .literal else .folded) text)

private def quotedScalar? (lx : Lexer) (quote : Char) (style : Style) : Option Lexer := do
  let lx ← lx.saveKeyPlace?
  let (text, rest) ← Quoted.read? quote (lx.rest.drop 1)
  return ({ lx with keyAllowed := false }.moveTo rest).hold (.scalar style text)

private def plainScalar? (lx : Lexer) : Option Lexer := do
  let lx ← lx.saveKeyPlace?
  let result ← Plain.read? lx.inFlow lx.margin lx.rest
  return ({ lx with keyAllowed := result.broken }.moveTo result.rest).hold (.scalar .plain result.text)

private def directive? (lx : Lexer) : Option Lexer := do
  let lx ← lx.leaveBlocks?
  let (token, rest) ← readDirective? (lx.rest.drop 1)
  return (lx.moveTo rest).hold token

private def isIndicator (c : Char) : Bool :=
  "-?:,[]\x7b\x7d#&*!|>'\"%@\x60".toList.contains c

/-- A plain scalar may begin with a dash, question mark or colon that does not stand alone. -/
private def canBeginPlain (flow : Bool) (c : Char) (cs : List Char) : Bool :=
  (!isWhite c && !isIndicator c) || (c == '-' && !(cs.head?.any isBlank)) ||
    (!flow && (c == '?' || c == ':') && !atGap cs)

/-- Reads one more token, with the tokens that it brings along. -/
def read? (lx : Lexer) : Option Lexer := do
  let (keyAllowed, rest) := skipWhite lx.inFlow (lx.mark.column == 0) false lx.keyAllowed lx.rest
  let lx ← ({ lx with keyAllowed }.moveTo rest).dropStale?
  let lx := lx.outdentTo (lx.mark.column + 1)
  match lx.rest with
  | [] => lx.streamEnd?
  | c :: cs =>
    let lineStart := lx.mark.column = 0
    if lineStart ∧ c = '%' then lx.directive?
    else if lineStart ∧ c = '-' ∧ atDocumentMark lx.rest then lx.documentMark? .documentStart
    else if lineStart ∧ c = '.' ∧ atDocumentMark lx.rest then lx.documentMark? .documentEnd
    else
      match c with
      | '[' => lx.flowStart? .flowSequenceStart
      | '\x7b' => lx.flowStart? .flowMappingStart
      | ']' => lx.flowEnd? .flowSequenceEnd
      | '\x7d' => lx.flowEnd? .flowMappingEnd
      | ',' => lx.flowEntry?
      | '*' => lx.name? .aliasOf
      | '&' => lx.name? .anchor
      | '!' => lx.tag?
      | '\'' => lx.quotedScalar? '\'' .singleQuoted
      | '"' => lx.quotedScalar? '"' .doubleQuoted
      | _ =>
        if c = '-' ∧ atGap cs then lx.blockEntry?
        else if c = '?' ∧ (lx.inFlow ∨ atGap cs) then lx.key?
        else if c = ':' ∧ (lx.inFlow ∨ atGap cs) then lx.value?
        else if c = '|' ∧ !lx.inFlow then lx.blockScalar? true
        else if c = '>' ∧ !lx.inFlow then lx.blockScalar? false
        else if canBeginPlain lx.inFlow c cs then lx.plainScalar?
        else none

/-- A key may yet have to be put in front of the next token. -/
def isUndecided (lx : Lexer) : Bool :=
  (lx.keyPlace :: lx.outerKeyPlaces).any fun place => place.any fun place => place.number == lx.delivered

/-- The tokens from here on. They end with the end of the text, or earlier where the text is broken. -/
def tokens : (fuel : Nat) → Lexer → List Token
  | 0, _ => []
  | fuel + 1, lx =>
    match lx.held with
    | [] =>
      if lx.finished then []
      else
        match lx.read? with
        | none => []
        | some lx => tokens fuel lx
    | token :: later =>
      match lx.dropStale? with
      | none => []
      | some lx =>
        if lx.isUndecided && !lx.finished then
          match lx.read? with
          | none => []
          | some lx => tokens fuel lx
        else token :: tokens fuel { lx with held := later, delivered := lx.delivered + 1 }

end Lexer

/-- The tokens of a text. A text of `n` characters has fewer than `4 * (n + 1)` of them, and reading each
character's tokens takes one more step. -/
def Token.ofCharacters (cs : List Char) : List Token :=
  (Lexer.ofCharacters cs).tokens (8 * (cs.length + 2))

end PodRunner.Yaml
