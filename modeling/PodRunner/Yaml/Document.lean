import PodRunner.Yaml.Node

/-!
# Documents

A text should hold one document. What comes in front of its content and behind it is checked here: directives,
the marks of its beginning and end, and that nothing follows.
-/

namespace PodRunner.Yaml

structure Document where
  /-- The content; none if the text holds no document at all. -/
  root : Option Node
  /-- The document ends properly and is the only one. -/
  complete : Bool

namespace Document

private def broken : Document := ⟨some .cut, false⟩

/-- The directives in front of a document: the handles that they define, and the tokens behind them. -/
private def readDirectives? : (versioned : Bool) → (handles : List (List Char × List UInt8)) →
    List Token → Option (List (List Char × List UInt8) × List Token)
  | versioned, handles, .version major minor :: rest =>
    if versioned || major != 1 || (minor != 1 && minor != 2) then none
    else readDirectives? true handles rest
  | versioned, handles, .tagHandle handle beginning :: rest =>
    if handles.any fun entry => entry.1 == handle then none
    else readDirectives? versioned (handles ++ [(handle, beginning)]) rest
  | _, handles, rest => some (handles ++ Tag.standardHandles, rest)

private def content (handles : List (List Char × List UInt8)) (tokens : List Token) :
    Node × Option (List Token) :=
  match tokens with
  | .version _ _ :: _ | .tagHandle _ _ :: _ | .documentStart :: _ | .documentEnd :: _ | .streamEnd :: _ =>
    (.empty, some tokens)
  | _ => Node.ofTokens handles tokens

/-- Nothing but marks of the end comes behind a document. -/
private def endsWith : List Token → Bool
  | [.streamEnd] => true
  | .documentEnd :: rest => endsWith rest
  | _ => false

private def close (read : Node × Option (List Token)) : Document :=
  ⟨some read.1, read.2.any endsWith⟩

def ofTokens (tokens : List Token) : Document :=
  match tokens with
  | [.streamEnd] => ⟨none, true⟩
  | .version _ _ :: _ | .tagHandle _ _ :: _ | .documentStart :: _ =>
    match readDirectives? false [] tokens with
    | some (handles, .documentStart :: rest) => close (content handles rest)
    | _ => broken
  | _ => close (Node.ofTokens Tag.standardHandles tokens)

def ofText (text : String) : Document :=
  match characters? text with
  | some cs => ofTokens (Token.ofCharacters cs)
  | none => broken

end Document

end PodRunner.Yaml
