/-
Tables of mapped objects, one row each. Columns stand in order of their first appearance over the rows; a cell without a
value holds null. A column of numbers becomes one of floating-point numbers if it holds one or lacks a value somewhere; in
any other column the values stay what they are.
-/
import Harvest.Data.Object
import Harvest.Failure
import Harvest.Data.Display
import Harvest.Table.Flatten

namespace Harvest

open Harvest.Number

structure Table where
  columns : List String
  rows : List (List Data)
  deriving Inhabited

namespace Table

/-- the least integer above the signed words of 64 bits, and the least above the unsigned ones -/
def signedEnd : Int := twoPow 63

def unsignedEnd : Int := twoPow 64

/-- the value is a number, or there is none -/
def isNumberOrMissing : Option Data → Bool
  | none => true
  | some .null => true
  | some (.float _) => true
  | some (.int _) => true
  | some _ => false

/-- the integers of a column -/
def integersOf (column : List (Option Data)) : List Int :=
  column.filterMap fun
    | some (.int n) => some n
    | _ => none

/-- one type of words of 64 bits, with a sign or without, holds all integers -/
def fitsWords (ns : List Int) : Bool :=
  ns.all (fun n => -signedEnd ≤ n && n < signedEnd) || ns.all fun n => 0 ≤ n && n < unsignedEnd

/-- a column holds numbers only, up to missing values, and its integers fit words -/
def isNumeric (column : List (Option Data)) : Bool :=
  column.all isNumberOrMissing && fitsWords (integersOf column)

/-- a value that turns a column of numbers into floating-point numbers -/
def asksForFloat : Option Data → Bool
  | none => true
  | some .null => true
  | some (.float _) => true
  | _ => false

/-- the integers of a column become floating-point numbers -/
def becomesFloat (column : List (Option Data)) : Bool :=
  isNumeric column && column.any asksForFloat

/-- a cell of a column -/
def cell (asFloat : Bool) : Option Data → Data
  | none => .null
  | some (.int n) => if asFloat then .float (Binary64.ofInt n) else .int n
  | some (.float x) => if x.isNaN then .null else .float x
  | some d => d

/-- the names of all columns -/
def columnNames (rows : List (List (String × Data))) : List String :=
  (rows.flatMap Entries.keys).eraseDups

/-- a table of rows without mappings -/
def ofRows (rows : List (List (String × Data))) : Table :=
  let columns := columnNames rows
  let floats := columns.map fun name => becomesFloat (rows.map fun row => row.lookup name)
  ⟨columns, rows.map fun row => List.zipWith (fun name f => cell f (row.lookup name)) columns floats⟩

/-- the rows of objects -/
def rowsOf : List Data → Except Failure (List (List (String × Data)))
  | [] => .ok []
  | d :: rest =>
    match d.toRow with
    | .error e => .error e
    | .ok row => (rowsOf rest).map (flatten row :: ·)

/-- the table of mapped objects -/
def ofObjects (objects : List Data) : Except Failure Table :=
  (rowsOf objects).map ofRows

end Table

end Harvest
