import PodRunner.Json
import PodRunner.Time.Reader
import PodRunner.Word

/-!
# Shapes of JSON documents

Which fields a document may have and of what type each is. Fields that a shape does not know are passed
over, and nothing is asked of them. Everything else has to be sound, and not too deep. A document that has
been accepted is written again without what its shape does not know.
-/

namespace PodRunner.Json

/-- What a part of a record may lack. -/
inductive Presence where
  | required
  /-- It may be missing, but it is never null. -/
  | defaulted
  /-- It may be missing or null, but it is always written. -/
  | filled
  /-- It may be missing or null, and then it is not written. -/
  | optional
deriving DecidableEq, Repr

namespace Presence

def allowsNull : Presence → Bool
  | filled | optional => true
  | _ => false

end Presence

inductive Shape where
  | value
  | text
  | flag
  | integer (least greatest : Int)
  /-- An integer of 32 bits or a text. -/
  | integerOrText
  /-- The text of a point in time. -/
  | time
  | oneOf (texts : List String)
  /-- One of some names, as a text or as the only key of an object whose value is null. -/
  | variant (names : List String)
  | list (item : Shape)
  | table (entry : Shape)
  /-- Of a repeated part the last one counts. -/
  | record (parts : List (String × Presence × Shape))
  /-- No part is repeated. All may also stand in a list, in their order, and those at the end be left
  out. -/
  | fixedRecord (parts : List (String × Presence × Shape))

namespace Shape

def integer32 : Shape := integer Word.least32 Word.greatest32

def integer64 : Shape := integer Word.least64 Word.greatest64

def texts : Shape := table text

/-- A record of which some parts are always written. -/
def filled (always : List String) (parts : List (String × Shape)) : Shape :=
  record (parts.map fun (name, shape) =>
    (name, if always.contains name then .filled else .optional, shape))

def fields (parts : List (String × Shape)) : Shape := filled [] parts

def each (shape : Shape) (names : List String) : List (String × Shape) :=
  names.map fun name => (name, shape)

def ofTexts (always names : List String) : Shape := filled always (each text names)

/-- A part of a record, if the record knows it. -/
def part? (parts : List (String × Presence × Shape)) (key : String) : Option (Presence × Shape) :=
  (parts.find? fun part => part.1 == key).map (·.2)

private def occurrences (entries : List (String × Json)) (key : String) : Nat :=
  entries.countP fun entry => entry.1 == key

def arePresent (parts : List (String × Presence × Shape)) (entries : List (String × Json)) : Bool :=
  parts.all fun (name, presence, _) => presence != .required || occurrences entries name != 0

def areDistinct (parts : List (String × Presence × Shape)) (entries : List (String × Json)) : Bool :=
  parts.all fun (name, _) => occurrences entries name ≤ 1

/-! ## Acceptance -/

mutual

/-- The value has the shape, with arrays and objects no deeper in each other than there is room for. -/
def accepts (shape : Shape) (room : Nat) : Json → Bool
  | .null =>
    match shape with
    | value => true
    | _ => false
  | .bool _ =>
    match shape with
    | value | flag => true
    | _ => false
  | .integer n =>
    match shape with
    | value => true
    | integer least greatest => least ≤ n && n ≤ greatest
    | integerOrText => Word.least32 ≤ n && n ≤ Word.greatest32
    | _ => false
  | .real _ =>
    match shape with
    | value => true
    | _ => false
  | .string s =>
    match shape with
    | value | text | integerOrText => true
    | time => (Time.parse? s).isSome
    | oneOf texts => texts.contains s
    | variant names => names.contains s
    | _ => false
  | .array items =>
    match room, shape with
    | room, value => isSound room (.array items)
    | room + 1, list item => acceptsItems item room items
    | room + 1, fixedRecord parts => acceptsInOrder parts room items
    | _, _ => false
  | .object entries =>
    match room, shape with
    | room, value => isSound room (.object entries)
    | _ + 1, variant names =>
      match entries with
      | [(name, .null)] => names.contains name
      | _ => false
    | room + 1, table entry => acceptsEntries entry room entries
    | room + 1, record parts => arePresent parts entries && acceptsParts parts room entries
    | room + 1, fixedRecord parts =>
      arePresent parts entries && areDistinct parts entries && acceptsParts parts room entries
    | _, _ => false
  | .unsound => false

private def acceptsItems (item : Shape) (room : Nat) : List Json → Bool
  | [] => true
  | json :: rest => accepts item room json && acceptsItems item room rest

private def acceptsEntries (entry : Shape) (room : Nat) : List (String × Json) → Bool
  | [] => true
  | (_, json) :: rest => accepts entry room json && acceptsEntries entry room rest

private def acceptsParts (parts : List (String × Presence × Shape)) (room : Nat) :
    List (String × Json) → Bool
  | [] => true
  | (key, json) :: rest =>
    (match part? parts key with
      | none => true
      | some (presence, shape) => (json.isNull && presence.allowsNull) || accepts shape room json) &&
      acceptsParts parts room rest

private def acceptsInOrder (parts : List (String × Presence × Shape)) (room : Nat) : List Json → Bool
  | [] => parts.all fun (_, presence, _) => presence != .required
  | json :: rest =>
    match parts with
    | [] => false
    | (_, presence, shape) :: parts =>
      ((json.isNull && presence.allowsNull) || accepts shape room json) && acceptsInOrder parts room rest

end

/-! ## Writing -/

mutual

/-- What is written in the place of a value that is missing. -/
def blank : Shape → Json
  | value => .null
  | text | time => .string ""
  | flag => .bool false
  | integer _ _ | integerOrText => .integer 0
  | oneOf texts | variant texts => .string (texts.headD "")
  | list _ => .array []
  | table _ => .object []
  | record parts | fixedRecord parts => .object (blankParts [] parts)

/-- The parts that are always written, without those that are there. -/
private def blankParts (present : List String) : List (String × Presence × Shape) → List (String × Json)
  | [] => []
  | (name, presence, shape) :: parts =>
    let rest := blankParts present parts
    if presence = .optional || present.contains name then rest else (name, shape.blank) :: rest

end

mutual

/-- An accepted value without what the shape does not know, with everything that is always written. -/
def written (shape : Shape) : Json → Json
  | .string s =>
    match shape with
    | time => .string ((Time.parse? s).elim s Time.stamp)
    | _ => .string s
  | .array items =>
    match shape with
    | list item => .array (writtenItems item items)
    | _ => .array items
  | .object entries =>
    match shape with
    | record parts | fixedRecord parts =>
      let present := writtenParts parts entries
      .object (present ++ blankParts (present.map (·.1)) parts)
    | _ => .object entries
  | json => json

private def writtenItems (item : Shape) : List Json → List Json
  | [] => []
  | json :: rest => item.written json :: writtenItems item rest

/-- The last value of each part, unless it is null. -/
private def writtenParts (parts : List (String × Presence × Shape)) :
    List (String × Json) → List (String × Json)
  | [] => []
  | (key, json) :: entries =>
    let rest := writtenParts parts entries
    match part? parts key with
    | none => rest
    | some (_, shape) =>
      if occurrences entries key != 0 || json.isNull then rest else (key, shape.written json) :: rest

end

end Shape

end PodRunner.Json
