/-
Rows from objects: a mapping inside a row is spread over columns of its own, named `outer.inner`. The columns of nested
mappings come after the plain ones; a name that comes twice keeps its first place and its last value.
-/
import Harvest.Data.Basic

namespace Harvest.Table

/-- the name of a column inside a nested mapping -/
def joinName (outer inner : String) : String :=
  if outer == "" then inner else outer ++ "." ++ inner

mutual

/-- what is not a mapping, with its column name; `name` is the name of the whole -/
def leaves (name : String) : Data → List (String × Data)
  | .dict entries => leavesOf name entries
  | d => [(name, d)]

/-- the leaves of the entries of a mapping -/
def leavesOf (name : String) : List (String × Data) → List (String × Data)
  | [] => []
  | (k, d) :: es => leaves (joinName name k) d ++ leavesOf name es

end

def isMapping : Data → Bool
  | .dict _ => true
  | _ => false

/-- a row without mappings -/
def flatten (row : List (String × Data)) : List (String × Data) :=
  Entries.ofList ((row.filter fun e => !isMapping e.2) ++ leavesOf "" (row.filter fun e => isMapping e.2))

end Harvest.Table
