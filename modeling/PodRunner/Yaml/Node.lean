import PodRunner.Yaml.Lexer

/-!
# Nodes

The tree of a document. Anchors have numbers, and an alias holds the number of its anchor. A document whose
text is broken still has the tree of what stands before the break; from there on it is cut.
-/

namespace PodRunner.Yaml

inductive Node where
  | scalar (anchor : Option Nat) (tag : Option (List UInt8)) (style : Style) (text : List Char)
  | sequence (anchor : Option Nat) (items : List Node)
  | mapping (anchor : Option Nat) (entries : List (Node × Node))
  | aliasOf (target : Nat)
  | cut
deriving Repr

namespace Node

/-- The node where there is nothing in the text. -/
def empty : Node := scalar none none .plain []

mutual

def isWhole : Node → Bool
  | scalar _ _ _ _ => true
  | sequence _ items => allWhole items
  | mapping _ entries => allEntriesWhole entries
  | aliasOf _ => true
  | cut => false

private def allWhole : List Node → Bool
  | [] => true
  | item :: items => item.isWhole && allWhole items

private def allEntriesWhole : List (Node × Node) → Bool
  | [] => true
  | (key, value) :: entries => key.isWhole && value.isWhole && allEntriesWhole entries

end

mutual

/-- The anchored nodes in the order of their beginnings. -/
def anchored : Node → List (Nat × Node)
  | scalar anchor tag style text =>
    (anchor.map fun number => (number, scalar anchor tag style text)).toList
  | sequence anchor items =>
    (anchor.map fun number => (number, sequence anchor items)).toList ++ anchoredItems items
  | mapping anchor entries =>
    (anchor.map fun number => (number, mapping anchor entries)).toList ++ anchoredEntries entries
  | aliasOf _ => []
  | cut => []

private def anchoredItems : List Node → List (Nat × Node)
  | [] => []
  | item :: items => item.anchored ++ anchoredItems items

private def anchoredEntries : List (Node × Node) → List (Nat × Node)
  | [] => []
  | (key, value) :: entries => key.anchored ++ value.anchored ++ anchoredEntries entries

end

/-- The node that an alias stands for. Of several nodes with one number the last one counts. -/
def target (root : Node) (number : Nat) : Node :=
  match root.anchored.reverse.find? fun entry => entry.1 == number with
  | some (_, node) => node
  | none => cut

/-! ## Nodes from tokens -/

/-- The tokens to come and the anchors so far. -/
private structure Stream where
  tokens : List Token
  anchors : List (List Char × Nat)

namespace Stream

private def at? (s : Stream) (tokens : List Token) : Stream := { s with tokens }

/-- Gives an anchor the number of names in use. A name that is in use changes its number. -/
private def define (s : Stream) (name : Option (List Char)) : Option Nat × Stream :=
  match name with
  | none => (none, s)
  | some name =>
    let number := s.anchors.length
    let others := s.anchors.filter fun entry => entry.1 != name
    (some number, { s with anchors := (name, number) :: others })

end Stream

/-- What may stand in front of a node. -/
private structure Properties where
  anchor : Option (List Char)
  tag : Option Tag

private def readProperties : List Token → Properties × List Token
  | .anchor name :: .tag tag :: rest => (⟨some name, some tag⟩, rest)
  | .anchor name :: rest => (⟨some name, none⟩, rest)
  | .tag tag :: .anchor name :: rest => (⟨some name, some tag⟩, rest)
  | .tag tag :: rest => (⟨none, some tag⟩, rest)
  | rest => (⟨none, none⟩, rest)

/-- The whole tag; nothing within if there is none, and nothing at all if its handle is unknown. -/
private def wholeTag? (handles : List (List Char × List UInt8)) (tag : Option Tag) :
    Option (Option (List UInt8)) :=
  match tag with
  | none => some none
  | some tag => (tag.resolve? handles).map some

private abbrev Handles := List (List Char × List UInt8)

mutual

/-- One node. Where block collections cannot begin, their tokens are no node. A sequence without tokens of its
own around it is possible as a part of a block mapping. Without a stream behind it the node is cut. -/
private def read (handles : Handles) :
    (fuel : Nat) → (block indentless : Bool) → Stream → Node × Option Stream
  | 0, _, _, _ => (cut, none)
  | fuel + 1, block, indentless, s =>
    match s.tokens with
    | .aliasOf name :: rest =>
      match s.anchors.find? fun entry => entry.1 == name with
      | some (_, number) => (aliasOf number, some (s.at? rest))
      | none => (cut, none)
    | tokens =>
      let (properties, tokens) := readProperties tokens
      match wholeTag? handles properties.tag with
      | none => (cut, none)
      | some tag =>
        let (anchor, s) := s.define properties.anchor
        match tokens with
        | [] => (cut, none)
        | .scalar style text :: rest =>
          (scalar anchor tag style text, some (s.at? rest))
        | .flowSequenceStart :: rest =>
          let (items, s) := readFlowItems handles fuel true (s.at? rest)
          (sequence anchor items, s)
        | .flowMappingStart :: rest =>
          let (entries, s) := readFlowEntries handles fuel true (s.at? rest)
          (mapping anchor entries, s)
        | first :: rest =>
          if first = .blockEntry && indentless then
            let (items, s) := readIndentlessItems handles fuel (s.at? (first :: rest))
            (sequence anchor items, s)
          else if first = .blockSequenceStart && block then
            let (items, s) := readBlockItems handles fuel (s.at? rest)
            (sequence anchor items, s)
          else if first = .blockMappingStart && block then
            let (entries, s) := readBlockEntries handles fuel (s.at? rest)
            (mapping anchor entries, s)
          else if anchor.isSome || tag.isSome then
            (scalar anchor tag .plain [], some (s.at? (first :: rest)))
          else (cut, none)

private def readUnless (handles : Handles) :
    (fuel : Nat) → (ends : List Token) → (block indentless : Bool) → Stream → Node × Option Stream
  | 0, _, _, _, _ => (cut, none)
  | fuel + 1, ends, block, indentless, s =>
    match s.tokens with
    | [] => (cut, none)
    | token :: _ =>
      if ends.contains token then (empty, some s)
      else read handles fuel block indentless s

private def readBlockItems (handles : Handles) : (fuel : Nat) → Stream → List Node × Option Stream
  | 0, _ => ([cut], none)
  | fuel + 1, s =>
    match s.tokens with
    | .blockEntry :: rest =>
      match readUnless handles fuel [.blockEntry, .blockEnd] true false (s.at? rest) with
      | (item, none) => ([item], none)
      | (item, some s) =>
        let (items, s) := readBlockItems handles fuel s
        (item :: items, s)
    | .blockEnd :: rest => ([], some (s.at? rest))
    | _ => ([cut], none)

private def readIndentlessItems (handles : Handles) :
    (fuel : Nat) → Stream → List Node × Option Stream
  | 0, _ => ([cut], none)
  | fuel + 1, s =>
    match s.tokens with
    | .blockEntry :: rest =>
      match readUnless handles fuel [.blockEntry, .key, .value, .blockEnd] true false (s.at? rest) with
      | (item, none) => ([item], none)
      | (item, some s) =>
        let (items, s) := readIndentlessItems handles fuel s
        (item :: items, s)
    | [] => ([cut], none)
    | _ => ([], some s)

private def readBlockEntries (handles : Handles) :
    (fuel : Nat) → Stream → List (Node × Node) × Option Stream
  | 0, _ => ([(cut, cut)], none)
  | fuel + 1, s =>
    match s.tokens with
    | .key :: rest =>
      let ends := [Token.key, .value, .blockEnd]
      match readUnless handles fuel ends true true (s.at? rest) with
      | (key, none) => ([(key, cut)], none)
      | (key, some s) =>
        let (value, s) := match s.tokens with
          | .value :: rest => readUnless handles fuel ends true true (s.at? rest)
          | [] => (cut, none)
          | _ => (empty, some s)
        match s with
        | none => ([(key, value)], none)
        | some s =>
          let (entries, s) := readBlockEntries handles fuel s
          ((key, value) :: entries, s)
    | .blockEnd :: rest => ([], some (s.at? rest))
    | _ => ([(cut, cut)], none)

/-- The items of a flow sequence; one that is announced as a key is a mapping with one entry. -/
private def readFlowItems (handles : Handles) :
    (fuel : Nat) → (first : Bool) → Stream → List Node × Option Stream
  | 0, _, _ => ([cut], none)
  | fuel + 1, first, s =>
    let ends := [Token.value, .flowEntry, .flowSequenceEnd]
    let tokens? := match s.tokens with
      | .flowSequenceEnd :: _ => some s.tokens
      | .flowEntry :: rest => if first then some s.tokens else some rest
      | tokens => if first then some tokens else none
    match tokens? with
    | some (.flowSequenceEnd :: rest) => ([], some (s.at? rest))
    | some (.key :: rest) =>
      let (key, s) := match rest with
        | [] => (cut, none)
        | token :: later =>
          if ends.contains token then (empty, some (s.at? later))
          else read handles fuel false false (s.at? rest)
      match s with
      | none => ([mapping none [(key, cut)]], none)
      | some s =>
        let (value, s) := match s.tokens with
          | .value :: rest => readUnless handles fuel [.flowEntry, .flowSequenceEnd] false false (s.at? rest)
          | [] => (cut, none)
          | _ => (empty, some s)
        match s with
        | none => ([mapping none [(key, value)]], none)
        | some s =>
          let (items, s) := readFlowItems handles fuel false s
          (mapping none [(key, value)] :: items, s)
    | some tokens =>
      match read handles fuel false false (s.at? tokens) with
      | (item, none) => ([item], none)
      | (item, some s) =>
        let (items, s) := readFlowItems handles fuel false s
        (item :: items, s)
    | none => ([cut], none)

/-- The entries of a flow mapping; a node that is not announced as a key has the empty value. -/
private def readFlowEntries (handles : Handles) :
    (fuel : Nat) → (first : Bool) → Stream → List (Node × Node) × Option Stream
  | 0, _, _ => ([(cut, cut)], none)
  | fuel + 1, first, s =>
    let tokens? := match s.tokens with
      | .flowMappingEnd :: _ => some s.tokens
      | .flowEntry :: rest => if first then some s.tokens else some rest
      | tokens => if first then some tokens else none
    match tokens? with
    | some (.flowMappingEnd :: rest) => ([], some (s.at? rest))
    | some (.key :: rest) =>
      match readUnless handles fuel [.value, .flowEntry, .flowMappingEnd] false false (s.at? rest) with
      | (key, none) => ([(key, cut)], none)
      | (key, some s) =>
        let (value, s) := match s.tokens with
          | .value :: rest => readUnless handles fuel [.flowEntry, .flowMappingEnd] false false (s.at? rest)
          | [] => (cut, none)
          | _ => (empty, some s)
        match s with
        | none => ([(key, value)], none)
        | some s =>
          let (entries, s) := readFlowEntries handles fuel false s
          ((key, value) :: entries, s)
    | some tokens =>
      match read handles fuel false false (s.at? tokens) with
      | (key, none) => ([(key, cut)], none)
      | (key, some s) =>
        let (entries, s) := readFlowEntries handles fuel false s
        ((key, empty) :: entries, s)
    | none => ([(cut, cut)], none)

end

/-- The node at the beginning of some tokens and the tokens behind it, unless it is cut. -/
def ofTokens (handles : List (List Char × List UInt8)) (tokens : List Token) :
    Node × Option (List Token) :=
  let (node, stream) := read handles (4 * (tokens.length + 1)) true false ⟨tokens, []⟩
  (node, stream.map (·.tokens))

end Node

end PodRunner.Yaml
