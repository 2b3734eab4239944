import PodRunner.Text.Alphanumeric
import PodRunner.Text.Digits
import PodRunner.Text.White

/-!
# Patterns

Which texts are patterns that the values of fields can be compared with. A pattern stands between braces
and holds no closing brace, so an opening one that counts as such is an error. A pattern matches
characters, or octets where it says so, but never a part of a character. At boundaries of words it can
match octets only.
-/

namespace PodRunner.Pattern

private structure Mode where
  /-- White space and comments do not count. -/
  spaced : Bool
  /-- Characters are matched, and not octets. -/
  wide : Bool

/-- Text behind white space and comments, each of which begins with a number sign and ends with its line. -/
private def skipGaps : (comment : Bool) → List Char → List Char
  | _, [] => []
  | true, c :: cs => skipGaps (c != '\n') cs
  | false, c :: cs =>
    if Text.isWhite c then skipGaps false cs
    else if c == '#' then skipGaps true cs
    else c :: cs

private def Mode.skip (mode : Mode) (cs : List Char) : List Char :=
  if mode.spaced then skipGaps false cs else cs

/-- The character after the next one. Of a comment in between only the number sign is passed over. -/
private def Mode.second? (mode : Mode) (cs : List Char) : Option Char :=
  let rest := cs.drop 1
  if mode.spaced then
    match rest.dropWhile Text.isWhite with
    | '#' :: rest => (rest.dropWhile Text.isWhite).head?
    | rest => rest.head?
  else rest.head?

private inductive Atom where
  /-- One character, which may be written as one octet. -/
  | character (c : Char) (octet : Bool)
  /-- One of several characters; in octets this may mean parts of characters. -/
  | set (ascii : Bool)
  | wordBoundary
  /-- The beginning or the end of the text or of a line. -/
  | boundary

namespace Atom

private def stands (mode : Mode) : Atom → Bool
  | character c octet => mode.wide || !octet || c.toNat < 0x80
  | set ascii => mode.wide || ascii
  | wordBoundary => !mode.wide
  | boundary => true

private def standsInBrackets (mode : Mode) : Atom → Bool
  | character c _ => mode.wide || c.toNat < 0x80
  | set ascii => mode.wide || ascii
  | wordBoundary | boundary => false

end Atom

/-! ## Escapes -/

private def readHex? (mode : Mode) : (count value : Nat) → List Char → Option (Nat × List Char)
  | 0, value, cs => some (value, mode.skip cs)
  | count + 1, value, cs =>
    match mode.skip cs with
    | c :: cs => (Text.digitValue? c).bind fun digit => readHex? mode count (value * 16 + digit) cs
    | [] => none

private def readCodePoint? (mode : Mode) (octet : Bool) (digits : Nat) (cs : List Char) :
    Option (Atom × List Char) := do
  let (code, rest) ← readHex? mode digits 0 cs
  if code.isValidChar then return (.character (Char.ofNat code) octet, rest) else none

private def isCategory (c : Char) : Bool := "clmnpsz".toList.contains c.toLower

/-- The categories of characters have names of one letter or names in braces. -/
private def readCategory? (mode : Mode) (cs : List Char) : Option (Atom × List Char) :=
  match mode.skip cs with
  | c :: rest => if isCategory c then some (.set false, mode.skip rest) else none
  | [] => none

/-- A character that stands for itself behind a backslash: none that could ever mean something else. -/
private def isEscapable (c : Char) : Bool :=
  c.toNat < 0x80 && !c.isAlphanum && c != '<' && c != '>'

private def readEscape? (mode : Mode) : List Char → Option (Atom × List Char)
  | [] => none
  | c :: rest =>
    match c with
    | 'x' => readCodePoint? mode true 2 rest
    | 'u' => readCodePoint? mode false 4 rest
    | 'U' => readCodePoint? mode false 8 rest
    | 'p' | 'P' => readCategory? mode rest
    | 'd' | 's' | 'w' => some (.set true, rest)
    | 'D' | 'S' | 'W' => some (.set false, rest)
    | 'a' => some (.character '\x07' false, rest)
    | 't' => some (.character '\t' false, rest)
    | 'n' => some (.character '\n' false, rest)
    | 'v' => some (.character '\x0b' false, rest)
    | 'f' => some (.character '\x0c' false, rest)
    | 'r' => some (.character '\r' false, rest)
    | 'A' | 'z' => some (.boundary, rest)
    | 'b' | 'B' | '<' | '>' => some (.wordBoundary, rest)
    | c => if isEscapable c then some (.character c false, rest) else none

/-! ## Brackets

The depth of a set counts nested sets, sets with several items and operations on sets. -/

/-- A set as far as it is read: the depth of what stands before the last operation, and the number of items
behind it with their greatest depth. -/
private structure Items where
  before : Option Nat
  count : Nat
  depth : Nat

namespace Items

private def ofCount (count : Nat) : Items := ⟨none, count, 0⟩

private def add (items : Items) (depth : Nat) : Items :=
  { items with count := items.count + 1, depth := max items.depth depth }

private def total (items : Items) : Nat :=
  let last := if items.count ≤ 1 then items.depth else items.depth + 1
  match items.before with
  | none => last
  | some before => max before last + 1

private def operate (items : Items) : Items := ⟨some items.total, 0, 0⟩

end Items

private def classNames : List String :=
  ["alnum", "alpha", "ascii", "blank", "cntrl", "digit", "graph", "lower", "print", "punct", "space",
    "upper", "word", "xdigit"]

/-- A class by its name between colons, from behind its bracket on; whether it is the complement. -/
private def readClassName? : List Char → Option (Bool × List Char)
  | ':' :: cs =>
    let (negated, cs) := match cs with
      | '^' :: cs => (true, cs)
      | cs => (false, cs)
    match cs.dropWhile (· != ':') with
    | ':' :: ']' :: rest =>
      if classNames.contains (String.ofList (cs.takeWhile (· != ':'))) then some (negated, rest) else none
    | _ => none
  | _ => none

private def readDashes (mode : Mode) : (fuel : Nat) → List Char → Nat × List Char
  | fuel + 1, '-' :: cs =>
    let (count, rest) := readDashes mode fuel (mode.skip cs)
    (count + 1, rest)
  | _, cs => (0, cs)

/-- The beginning of a set from behind its bracket on: whether it is a complement, and the items that
would mean something else at a later place. -/
private def readOpening (mode : Mode) (cs : List Char) : Bool × Nat × List Char :=
  let (negated, cs) := match mode.skip cs with
    | '^' :: cs => (true, mode.skip cs)
    | cs => (false, cs)
  let (dashes, cs) := readDashes mode cs.length cs
  match dashes, cs with
  | 0, ']' :: cs => (negated, 1, cs)
  | _, _ => (negated, dashes, cs)

private def readItem? (mode : Mode) : List Char → Option (Atom × List Char)
  | '\\' :: cs => readEscape? mode cs
  | c :: cs => some (.character c false, cs)
  | [] => none

private def readRange? (mode : Mode) (cs : List Char) : Option (List Char) := do
  let (first, cs) ← readItem? mode cs
  let cs := mode.skip cs
  if !first.standsInBrackets mode then none
  else if cs.head? != some '-' || [some ']', some '-'].contains (mode.second? cs) then return cs
  else
    let (last, cs) ← readItem? mode (mode.skip (cs.drop 1))
    match first, last with
    | .character low _, .character high _ =>
      if last.standsInBrackets mode && low ≤ high then return cs else none
    | _, _ => none

private def readSet? (mode : Mode) : (fuel : Nat) → Items → List Char → Option (Nat × List Char)
  | 0, _, _ => none
  | fuel + 1, items, cs =>
    match mode.skip cs with
    | [] => none
    | ']' :: cs => some (items.total, cs)
    | '&' :: '&' :: cs | '-' :: '-' :: cs | '~' :: '~' :: cs => readSet? mode fuel items.operate cs
    | '[' :: cs =>
      match readClassName? cs with
      | some (negated, cs) =>
        if negated && !mode.wide then none else readSet? mode fuel (items.add 0) cs
      | none => do
        let (negated, count, cs) := readOpening mode cs
        let (depth, cs) ← readSet? mode fuel (.ofCount count) cs
        if negated && !mode.wide then none else readSet? mode fuel (items.add (depth + 1)) cs
    | cs => do readSet? mode fuel (items.add 0) (← readRange? mode cs)

/-! ## Groups -/

/-- Letters that change how a pattern is read or matched, and the dash in front of those that are taken
back; with the character behind them. -/
private def readFlags? : (read : List Char) → List Char → Option (List Char × Char × List Char)
  | _, [] => none
  | read, c :: cs =>
    if c == ':' || c == ')' then
      if read.head? == some '-' then none else some (read.reverse, c, cs)
    else if "imsURux-".toList.contains c && !read.contains c then readFlags? (c :: read) cs
    else none

private def Mode.set (mode : Mode) (flags : List Char) : Mode :=
  let state (flag : Char) (present : Bool) : Bool :=
    if (flags.takeWhile (· != '-')).contains flag then true
    else if flags.contains flag then false
    else present
  ⟨state 'x' mode.spaced, state 'u' mode.wide⟩

private def isName : List Char → Bool
  | [] => false
  | c :: cs =>
    (c == '_' || Text.isAlphabetic c) &&
      cs.all fun c => ['_', '.', '[', ']'].contains c || Text.isAlphanumeric c

private inductive Opening where
  | group (mode : Mode) (names : List (List Char))
  /-- No group, but another mode for the rest of the one around. -/
  | mode (mode : Mode)

private def readGroupName? (mode : Mode) (names : List (List Char)) (cs : List Char) :
    Option (Opening × List Char) :=
  let name := cs.takeWhile (· != '>')
  match cs.dropWhile (· != '>') with
  | _ :: rest =>
    if isName name && !names.contains name then some (.group mode (name :: names), rest) else none
  | [] => none

/-- The beginning of a group from behind its parenthesis on. There is no looking around. -/
private def readGroup? (mode : Mode) (names : List (List Char)) (cs : List Char) :
    Option (Opening × List Char) :=
  match mode.skip cs with
  | '?' :: '=' :: _ | '?' :: '!' :: _ | '?' :: '<' :: '=' :: _ | '?' :: '<' :: '!' :: _ => none
  | '?' :: 'P' :: '<' :: cs | '?' :: '<' :: cs => readGroupName? mode names cs
  | '?' :: cs =>
    match readFlags? [] cs with
    | some (flags, ':', cs) => some (.group (mode.set flags) names, cs)
    | some (flags, _, cs) => if flags.isEmpty then none else some (.mode (mode.set flags), cs)
    | none => none
  | cs => some (.group mode names, cs)

/-! ## Expressions -/

private structure Part where
  depth : Nat
  repeatable : Bool

private def greatest (depths : List Nat) : Nat := depths.foldl max 0

/-- The depth of a sequence, its last part first. A single part makes no sequence. -/
private def sequenceDepth : List Part → Nat
  | [] => 0
  | [part] => part.depth
  | parts => greatest (parts.map (·.depth)) + 1

/-- The depth of alternatives: the last one, and the depths of those before it. -/
private def depthOf (alternatives : List Nat) (parts : List Part) : Nat :=
  if alternatives.isEmpty then sequenceDepth parts
  else greatest (sequenceDepth parts :: alternatives) + 1

/-- An expression up to a closing parenthesis or the end, with its depth and all names of groups so far. -/
private def read? : (fuel : Nat) → Mode → (names : List (List Char)) → (alternatives : List Nat) →
    (parts : List Part) → List Char → Option (Nat × List (List Char) × List Char)
  | 0, _, _, _, _, _ => none
  | fuel + 1, mode, names, alternatives, parts, cs =>
    let continueWith (part : Part) (cs : List Char) :=
      read? fuel mode names alternatives (part :: parts) cs
    match mode.skip cs with
    | [] => some (depthOf alternatives parts, names, [])
    | ')' :: cs => some (depthOf alternatives parts, names, ')' :: cs)
    | '|' :: cs => read? fuel mode names (sequenceDepth parts :: alternatives) [] cs
    | '(' :: cs =>
      match readGroup? mode names cs with
      | none => none
      | some (.mode mode, cs) => read? fuel mode names alternatives (⟨0, false⟩ :: parts) cs
      | some (.group inner names, cs) =>
        match read? fuel inner names [] [] cs with
        | some (depth, names, ')' :: cs) =>
          read? fuel mode names alternatives (⟨depth + 1, true⟩ :: parts) cs
        | _ => none
    | '[' :: cs => do
      let (negated, count, cs) := readOpening mode cs
      let (depth, cs) ← readSet? mode (cs.length + 1) (.ofCount count) cs
      if negated && !mode.wide then none else continueWith ⟨depth + 1, true⟩ cs
    | '\\' :: cs => do
      let (atom, cs) ← readEscape? mode cs
      if atom.stands mode then continueWith ⟨0, true⟩ cs else none
    | '.' :: cs => if (Atom.set false).stands mode then continueWith ⟨0, true⟩ cs else none
    | '\x7b' :: _ => none
    | c :: cs =>
      if ['?', '*', '+'].contains c then
        match parts with
        | ⟨depth, true⟩ :: earlier =>
          let cs := if cs.head? == some '?' then cs.drop 1 else cs
          read? fuel mode names alternatives (⟨depth + 1, true⟩ :: earlier) cs
        | _ => none
      else continueWith ⟨0, true⟩ cs

/-- How deep groups, sets, repetitions, sequences and alternatives may lie in each other. -/
def greatestDepth : Nat := 250

def isValid (text : List Char) : Bool :=
  match read? (text.length + 1) ⟨false, true⟩ [] [] [] text with
  | some (depth, _, []) => depth ≤ greatestDepth
  | _ => false

end PodRunner.Pattern
