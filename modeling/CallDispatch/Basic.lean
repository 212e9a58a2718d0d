import CallDispatch.Text
import Std.Data.ExtTreeMap
import Std.Data.ExtTreeSet

namespace CallDispatch

/-- A finite map, listed in ascending order of its keys. -/
abbrev Table (κ α : Type) [Ord κ] := Std.ExtTreeMap κ α

/-- A finite set, listed in ascending order. -/
abbrev Roster (κ : Type) [Ord κ] := Std.ExtTreeSet κ

namespace Table
variable {κ α : Type} [Ord κ] [Std.TransOrd κ] [Std.LawfulEqOrd κ] [Inhabited α]

/-- Updates the entry of a key, which is the default value if the key had none. -/
def upsert (table : Table κ α) (key : κ) (update : α → α) : Table κ α :=
  table.alter key fun entry => some (update (entry.getD default))

theorem getElem?_upsert [DecidableEq κ] (table : Table κ α) (key other : κ) (update : α → α) :
    (table.upsert key update)[other]? =
      if key = other then some (update (table[key]?.getD default)) else table[other]? := by
  simp [upsert, Std.ExtTreeMap.getElem?_alter]

theorem mem_upsert (table : Table κ α) (key other : κ) (update : α → α) :
    other ∈ table.upsert key update ↔ key = other ∨ other ∈ table := by
  simp only [upsert, Std.ExtTreeMap.mem_alter, Std.LawfulEqCmp.compare_eq_iff_eq]
  by_cases h : key = other <;> simp [h]

end Table

namespace Roster
variable {κ : Type} [Ord κ] [Std.TransOrd κ]

/-- Adds a value, and tells whether it is new. -/
def enroll (roster : Roster κ) (value : κ) : Bool × Roster κ :=
  (!roster.contains value, roster.insert value)

def enrollAll (roster : Roster κ) (values : List κ) : Roster κ :=
  values.foldl (fun roster value => (roster.enroll value).2) roster

theorem contains_insert [Std.LawfulEqOrd κ] [DecidableEq κ] (roster : Roster κ)
    (value other : κ) :
    (roster.insert value).contains other = (decide (value = other) || roster.contains other) := by
  rw [Std.ExtTreeSet.contains_insert]
  by_cases h : value = other <;> simp [h]

end Roster

inductive Error
  | unknownField (text : String)
  | unknownOperator (text : String)
  | configuration (reason : String)
  | generic (reason : String)
deriving DecidableEq, Repr

def Error.message : Error → String
  | .unknownField text => "Unknown frame field: " ++ text
  | .unknownOperator text => "Not a fast-path operator: " ++ Text.quote text
  | .configuration reason => "Invalid configuration: " ++ reason
  | .generic reason => "Generic error: " ++ reason

/-- A report of a failure outside the library, with what had gone wrong beneath it. -/
structure Report where
  headline : String
  causes : List String := []

def Report.wrap (report : Report) (headline : String) : Report :=
  ⟨headline, report.headline :: report.causes⟩

def Error.ofReport (report : Report) : Error :=
  .generic report.headline


inductive MethodOrdinal
  | unnamed
  | equal
  | eql
  | hash
  | compare
deriving DecidableEq, Repr

namespace MethodOrdinal

def all : List MethodOrdinal :=
  [unnamed, equal, eql, hash, compare]

def index : MethodOrdinal → Nat
  | unnamed => 0
  | equal => 1
  | eql => 2
  | hash => 3
  | compare => 4

def names : List String :=
  ["", "==", "eql?", "hash", "<=>"]

def count : Nat := all.length

theorem index_lt (ordinal : MethodOrdinal) : ordinal.index < names.length := by
  cases ordinal <;> decide

def name (ordinal : MethodOrdinal) : String :=
  names.get ⟨ordinal.index, ordinal.index_lt⟩

end MethodOrdinal
end CallDispatch
