import PodRunner.Yaml.Scalar

/-!
# Plain scalars

A plain scalar ends before a colon with white space behind it, before a comment, before a line that is
indented too little or marks a document, and in flow collections before their indicators.
-/

namespace PodRunner.Yaml.Plain

structure Result where
  text : List Char
  /-- The scalar is followed by a line break. -/
  broken : Bool
  rest : List Char

private def atEnd (flow : Bool) : List Char → Bool
  | ':' :: rest => atGap rest
  | c :: _ => flow && isFlowIndicator c
  | [] => true

/-- A colon right before an indicator of flow collections is an error. -/
private def atStrayColon (flow : Bool) : List Char → Bool
  | ':' :: c :: _ => flow && (c == '?' || isFlowIndicator c)
  | _ => false

private def ends (text : List Char) (gap : Option Gap) (rest : List Char) : Result :=
  ⟨text.reverse, gap.any Gap.isBroken, rest⟩

private def readFrom? (flow : Bool) (margin : Nat) :
    (text : List Char) → (gap : Option Gap) → List Char → Option Result
  | text, gap, [] => some (ends text gap [])
  | text, gap, c :: cs =>
    if isWhite c then
      match gap with
      | some (.breaks first more column) =>
        if c == '\t' && column < margin then none
        else readFrom? flow margin text (some (Gap.extend (.breaks first more column) c)) cs
      | some (.blanks blanks) => readFrom? flow margin text (some (Gap.extend (.blanks blanks) c)) cs
      | none => readFrom? flow margin text (some (Gap.extend (.blanks []) c)) cs
    else
      let outdented := match gap with
        | some (.breaks _ _ column) => !flow && column < margin
        | _ => false
      let marked := gap.any Gap.atLineStart && atDocumentMark (c :: cs)
      let commented := gap.isSome && c == '#'
      if outdented || marked || commented then some (ends text gap (c :: cs))
      else if atStrayColon flow (c :: cs) then none
      else if atEnd flow (c :: cs) then some (ends text gap (c :: cs))
      else
        let gapText := (gap.map Gap.folded).getD []
        readFrom? flow margin (c :: (gapText.reverse ++ text)) none cs

/-- Reads a plain scalar. Continuation lines have to be indented to `margin`, except in flow collections. -/
def read? (flow : Bool) (margin : Nat) (cs : List Char) : Option Result :=
  readFrom? flow margin [] none cs

end PodRunner.Yaml.Plain
