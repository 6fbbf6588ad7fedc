/-
Tables as comma-separated values: a line of column names, and a line for each row. A field is quoted only where it must be;
a quote inside a quoted field is written twice.
-/
import Harvest.Data.Display
import Harvest.Table.Basic

namespace Harvest.Table

/-- a character that cannot stand in a field without quotes -/
def needsQuotes (c : Char) : Bool :=
  c == ',' || c == '"' || c == '\n'

def quoteField (cs : List Char) : List Char :=
  '"' :: cs.flatMap (fun c => if c == '"' then ['"', '"'] else [c]) ++ ['"']

def field (cs : List Char) : List Char :=
  if cs.any needsQuotes then quoteField cs else cs

/-- a line of fields; a single empty field is quoted, so that the line is not empty -/
def csvLine : List (List Char) → List Char
  | [[]] => quoteField [] ++ ['\n']
  | fields => [','].intercalate (fields.map field) ++ ['\n']

/-- the text of a cell; a missing value has none -/
def cellText : Data → List Char
  | .null => []
  | d => d.text.toList

def csv (t : Table) : List Char :=
  csvLine (t.columns.map String.toList) ++ t.rows.flatMap fun row => csvLine (row.map cellText)

/-- failed records with the reports of their failures -/
def ofFailures (failures : List (String × String)) : Table :=
  ⟨["record", "error"], failures.map fun f => [.str f.1, .str f.2]⟩

end Harvest.Table
