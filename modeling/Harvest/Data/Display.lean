/-
The displayed form of plain data: texts in quotes, lists in square brackets, mappings in braces, objects as their class
with `name=value` pairs. `text` is the same, but a text on its own stands without quotes.
-/
import Harvest.Data.Basic
import Harvest.Number.Decimal
import Harvest.Text.Quoted

namespace Harvest.Data

open Harvest.Text

/-- an integer in decimal digits -/
def intText (n : Int) : String :=
  (if n < 0 then "-" else "") ++ String.ofList (Nat.toDigits 10 n.natAbs)

mutual

def display : Data → String
  | null => "None"
  | bool true => "True"
  | bool false => "False"
  | int n => intText n
  | float x => x.text
  | str s => quoted s
  | bytes bs => quotedBytes bs
  | list items => "[" ++ ", ".intercalate (displayItems items) ++ "]"
  | dict entries => "\x7b" ++ ", ".intercalate (displayEntries entries) ++ "\x7d"
  | object cls properties => cls.name ++ "(" ++ ", ".intercalate (displayProperties properties) ++ ")"

def displayItems : List Data → List String
  | [] => []
  | x :: xs => display x :: displayItems xs

def displayEntries : List (String × Data) → List String
  | [] => []
  | (k, x) :: es => (quoted k ++ ": " ++ display x) :: displayEntries es

def displayProperties : List (String × Data) → List String
  | [] => []
  | (k, x) :: es => (k ++ "=" ++ display x) :: displayProperties es

end

/-- the displayed form, but a text stands for itself -/
def text : Data → String
  | str s => s
  | d => display d

/-- the name of the kind of data -/
def kindName : Data → String
  | null => "NoneType"
  | bool _ => "bool"
  | int _ => "int"
  | float _ => "float"
  | str _ => "str"
  | bytes _ => "bytes"
  | list _ => "list"
  | dict _ => "dict"
  | object cls _ => cls.name

end Harvest.Data
