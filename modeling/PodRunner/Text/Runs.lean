/-!
# Sets of characters as runs

A set of code points is a list of run lengths: so many code points from zero up that are outside, then so
many that are inside, and so on in turn.
-/

namespace PodRunner.Text

def inRuns (code : Nat) : (inside : Bool) → List Nat → Bool
  | _, [] => false
  | inside, run :: runs => if code < run then inside else inRuns (code - run) (!inside) runs

end PodRunner.Text
