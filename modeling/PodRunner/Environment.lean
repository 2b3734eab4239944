/-!
# Environments

An environment maps names to values. Its entries are kept in ascending order of the names' UTF-8 bytes,
each name once, so two environments with the same entries are equal.
-/

namespace PodRunner

namespace Environment

/-- The order of names: by their bytes in UTF-8, from the left. -/
def Before (a b : String) : Prop := a.toUTF8.data.toList < b.toUTF8.data.toList

instance (a b : String) : Decidable (Before a b) :=
  inferInstanceAs (Decidable (a.toUTF8.data.toList < b.toUTF8.data.toList))

theorem Before.trans {a b c : String} (hab : Before a b) (hbc : Before b c) : Before a c :=
  List.lt_trans hab hbc

theorem Before.irrefl (a : String) : ¬ Before a a := List.lt_irrefl _

theorem eq_of_not_before {a b : String} (hab : ¬ Before a b) (hba : ¬ Before b a) : a = b := by
  have hbytes : a.toUTF8.data.toList = b.toUTF8.data.toList := List.le_antisymm hba hab
  exact String.toByteArray_inj.1 (ByteArray.ext (Array.ext' hbytes))

def Ascending (entries : List (String × String)) : Prop :=
  entries.Pairwise fun a b => Before a.1 b.1

/-- The entries with one of them set, in its place. -/
def put (name value : String) : List (String × String) → List (String × String)
  | [] => [(name, value)]
  | entry :: rest =>
    if Before name entry.1 then (name, value) :: entry :: rest
    else if Before entry.1 name then entry :: put name value rest
    else (name, value) :: rest

theorem mem_put {name value : String} {entries : List (String × String)} {x : String × String}
    (h : x ∈ put name value entries) : x = (name, value) ∨ x ∈ entries := by
  induction entries with
  | nil => simpa [put] using h
  | cons entry rest ih =>
    unfold put at h
    split at h
    · simpa using h
    · split at h
      · rcases List.mem_cons.1 h with rfl | h
        · simp
        · rcases ih h with h | h <;> simp [h]
      · rcases List.mem_cons.1 h with h | h <;> simp [h]

theorem ascending_put (name value : String) {entries : List (String × String)}
    (h : Ascending entries) : Ascending (put name value entries) := by
  induction entries with
  | nil => simp [put, Ascending]
  | cons entry rest ih =>
    obtain ⟨hentry, hrest⟩ := List.pairwise_cons.1 h
    unfold put
    split
    · rename_i hbefore
      refine List.pairwise_cons.2 ⟨?_, h⟩
      intro x hx
      rcases List.mem_cons.1 hx with rfl | hx
      · exact hbefore
      · exact hbefore.trans (hentry x hx)
    · rename_i hnot
      split
      · rename_i hafter
        refine List.pairwise_cons.2 ⟨?_, ih hrest⟩
        intro x hx
        rcases mem_put hx with rfl | hx
        · exact hafter
        · exact hentry x hx
      · rename_i hnotAfter
        have hname := eq_of_not_before hnot hnotAfter
        refine List.pairwise_cons.2 ⟨?_, hrest⟩
        intro x hx
        simpa [hname] using hentry x hx

end Environment

structure Environment where
  entries : List (String × String)
  ascending : Environment.Ascending entries
deriving DecidableEq

namespace Environment

def empty : Environment := ⟨[], List.Pairwise.nil⟩

def insert (env : Environment) (name value : String) : Environment :=
  ⟨put name value env.entries, ascending_put name value env.ascending⟩

/-- The entries in any order, where the last value of a repeated name counts. -/
def ofList (entries : List (String × String)) : Environment :=
  entries.foldl (fun env entry => env.insert entry.1 entry.2) empty

def get? (env : Environment) (name : String) : Option String :=
  (env.entries.find? fun entry => entry.1 == name).map (·.2)

theorem ext_entries {a b : Environment} (h : a.entries = b.entries) : a = b := by
  cases a
  cases b
  cases h
  rfl

end Environment

end PodRunner
