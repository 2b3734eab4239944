import PodRunner.Event
import PodRunner.Text.Digits

/-!
# Rules of log filters

A rule sets the limit for the events of some targets. Events have a text and no other fields, so a rule
that asks for fields is for all of those events or for none.
-/

namespace PodRunner

/-- The targets that begin with `target` are written at `limit` and at the more severe levels, or not at all.
The empty target is that of a rule for everything. -/
structure LogRule where
  target : String
  /-- The fields that an event has to have. -/
  fields : List String
  limit : Option Level
deriving DecidableEq, Repr

namespace LogRule

def ofTarget (target : String) (limit : Option Level) : LogRule := ⟨target, [], limit⟩

def eventField : String := "message"

def covers (rule : LogRule) (target : String) : Bool :=
  rule.target.toList.isPrefixOf target.toList && rule.fields.all (· == eventField)

def admits (rule : LogRule) (level : Level) : Bool :=
  rule.limit.any fun limit => level.rank ≤ limit.rank

/-- Rules for the same events; the later one of two counts. -/
def replaces (rule other : LogRule) : Bool :=
  rule.target == other.target && rule.fields == other.fields

/-- A longer target is more specific, and with targets of one length more fields are. -/
def isMoreSpecific (rule other : LogRule) : Bool :=
  other.target.length < rule.target.length ||
    (other.target.length == rule.target.length && other.fields.length < rule.fields.length)

/-- The limit that a text names by a word in any case or by its rank; `none` within is silence. -/
def readLimit? (text : String) : Option (Option Level) :=
  let digits := match text.toList with
    | '+' :: rest => rest
    | rest => rest
  let word := text.toList.map Char.toLower
  if Text.readDigits? 10 digits = some 0 ∨ word = "off".toList then some none
  else
    (Level.all.find? fun level =>
      Text.readDigits? 10 digits = some level.rank ∨ word = level.name.toList.map Char.toLower).map some

end LogRule

end PodRunner
