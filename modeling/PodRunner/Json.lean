import PodRunner.Binary64

/-!
# JSON values

Integers of 64 bits are kept exactly; every other number is a floating point number. The entries of an
object are kept in the order of the text, and where a key is repeated the last entry counts.
-/

namespace PodRunner

inductive Json where
  | null
  | bool (value : Bool)
  | integer (value : Int)
  | real (value : Binary64)
  | string (text : String)
  | array (items : List Json)
  | object (entries : List (String × Json))
  /-- Text in the form of a value that means none: a string with half of a pair of code units, a number
  beyond all floating point numbers, or an object with such a string for a key. -/
  | unsound
deriving Repr, Inhabited

namespace Json

/-- How many arrays and objects may lie in each other where a value is looked into. -/
def greatestDepth : Nat := 127

mutual

/-- All of the value is sound, with arrays and objects no deeper in each other than there is room for. -/
def isSound : (room : Nat) → Json → Bool
  | _, unsound => false
  | 0, array _ => false
  | 0, object _ => false
  | room + 1, array items => areSound room items
  | room + 1, object entries => areSoundEntries room entries
  | _, _ => true

private def areSound (room : Nat) : List Json → Bool
  | [] => true
  | item :: items => item.isSound room && areSound room items

private def areSoundEntries (room : Nat) : List (String × Json) → Bool
  | [] => true
  | (_, value) :: entries => value.isSound room && areSoundEntries room entries

end

def isNull : Json → Bool
  | null => true
  | _ => false

def get? (key : String) : Json → Option Json
  | object entries => (entries.reverse.find? fun entry => entry.1 == key).map (·.2)
  | _ => none

def text? : Json → Option String
  | string text => some text
  | _ => none

def integer? : Json → Option Int
  | integer value => some value
  | _ => none

def items? : Json → Option (List Json)
  | array items => some items
  | _ => none

def entries? : Json → Option (List (String × Json))
  | object entries => some entries
  | _ => none

def textAt? (key : String) (json : Json) : Option String :=
  (json.get? key).bind text?

def ofPresent (entries : List (String × Option Json)) : Json :=
  object (entries.filterMap fun entry => entry.2.map fun value => (entry.1, value))

end Json

end PodRunner
