/-!
# Text by octets

Places in a text counted in octets of its UTF-8 form. A place is between two characters or within one, and
within one there is nothing to cut.
-/

namespace PodRunner.Text

def fromOctet? : Nat → List Char → Option (List Char)
  | 0, cs => some cs
  | _ + 1, [] => none
  | place + 1, c :: cs =>
    if c.utf8Size ≤ place + 1 then fromOctet? (place + 1 - c.utf8Size) cs else none

def upToOctet? : Nat → List Char → Option (List Char)
  | 0, _ => some []
  | _ + 1, [] => none
  | place + 1, c :: cs =>
    if c.utf8Size ≤ place + 1 then (upToOctet? (place + 1 - c.utf8Size) cs).map (c :: ·) else none

/-- The text from one place up to a later one. -/
def slice? (first last : Nat) (cs : List Char) : Option (List Char) :=
  (upToOctet? last cs).bind (fromOctet? first)

end PodRunner.Text
