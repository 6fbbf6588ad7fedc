/-
Tables as lines of JSON: an object for each row, with no spaces. What is missing, infinite or no number is null. Numbers
have at most ten decimals; very large and very small ones have ten significant digits and an exponent.
-/
import Harvest.Data.Display
import Harvest.Number.Decimal
import Harvest.Table.Basic
import Harvest.Text.Hex

namespace Harvest.Table

open Harvest.Number Harvest.Text

/-! ## Numbers -/

/-- the whole part and ten decimals of `num / den`. The decimals are rounded from the scaled fraction, itself rounded to a
floating-point number: more than a half up, and a half up to an even digit or from zero -/
def tenDecimals (num den : Nat) : Nat × Nat :=
  let whole := num / den
  match (Binary64.ofRatio false (num % den * tenPow 10) den).magnitude with
  | .finite m q =>
    let (scaled, unit) := Binary64.ratio m q
    let decimals := scaled / unit
    let rest := scaled % unit * 2
    let rounded :=
      if unit < rest || (rest == unit && (decimals == 0 || decimals % 2 == 1)) then decimals + 1 else decimals
    if tenPow 10 ≤ rounded then (whole + 1, 0) else (whole, rounded)
  | _ => (whole, 0)

/-- a fraction of `width` decimals without the zeros at its end -/
def decimalsText (width n : Nat) : List Char :=
  let ds := Nat.toDigits 10 n
  let padded := List.replicate (width - ds.length) '0' ++ ds
  (padded.reverse.dropWhile (· == '0')).reverse

/-- numbers beyond these bounds are written with an exponent -/
def largest : Binary64 := Binary64.ofDecimal false 1 16

def smallest : Binary64 := Binary64.ofDecimal false 1 (-15)

/-- a finite number that is `m * 2 ^ q` without its sign -/
def finiteText (x : Binary64) (m : Nat) (q : Int) : List Char :=
  let word := x.bits.toNat % Binary64.signBit
  let sign := if x.isNegative && m != 0 then ['-'] else []
  if largest.bits.toNat < word || (m != 0 && word < smallest.bits.toNat) then
    sign ++ exponentLayout.digits (Decimal.significant 10 m q)
  else
    let (whole, decimals) := tenDecimals (Binary64.ratio m q).1 (Binary64.ratio m q).2
    let part := if decimals == 0 then ['0'] else decimalsText 10 decimals
    sign ++ Nat.toDigits 10 whole ++ '.' :: part

def floatText (x : Binary64) : List Char :=
  match x.magnitude with
  | .finite m q => finiteText x m q
  | _ => "null".toList

/-! ## Values -/

/-- a character inside a string; a slash is escaped too -/
def lineChar (c : Char) : List Char :=
  if c == '"' then ['\\', '"']
  else if c == '\\' then ['\\', '\\']
  else if c == '/' then ['\\', '/']
  else if c == '\x08' then ['\\', 'b']
  else if c == '\x0c' then ['\\', 'f']
  else if c == '\n' then ['\\', 'n']
  else if c == '\r' then ['\\', 'r']
  else if c == '\t' then ['\\', 't']
  else if c.toNat < 0x20 then '\\' :: 'u' :: hexDigits 4 c.toNat
  else [c]

def lineString (cs : List Char) : List Char :=
  '"' :: cs.flatMap lineChar ++ ['"']

/-- parts between brackets -/
def bracketed (opening closing : Char) (parts : List (List Char)) : List Char :=
  opening :: [','].intercalate parts ++ [closing]

/-- the name of a property that is not shown -/
def isHidden (name : String) : Bool :=
  name.toList.head? == some '_'

/-- a property under this name stands in the place of a conversion; the object is then null -/
def lineConversion : String := "toDict"

/-- properties in alphabetical order of their names -/
def sortProperties (parts : List (String × List Char)) : List (String × List Char) :=
  parts.mergeSort fun a b => decide (a.1 ≤ b.1)

/-- entries with their values written -/
def entryTexts (parts : List (String × List Char)) : List (List Char) :=
  parts.map fun p => lineString p.1.toList ++ ':' :: p.2

mutual

/-- the text of a value; bytes are text in UTF-8 -/
def valueText : Data → Except Failure (List Char)
  | .null => .ok "null".toList
  | .bool b => .ok (if b then "true" else "false").toList
  | .int n => .ok (Data.intText n).toList
  | .float x => .ok (floatText x)
  | .str s => .ok (lineString s.toList)
  | .bytes bytes => ((Utf8.decode bytes).mapError .badText).map lineString
  | .list items => (itemTexts items).map (bracketed '[' ']')
  | .dict entries => (propertyTexts entries).map fun parts => bracketed '\x7b' '\x7d' (entryTexts parts)
  | .object _ properties =>
    if (properties.lookup lineConversion).isSome then .ok "null".toList
    else (shownTexts properties).map fun parts => bracketed '\x7b' '\x7d' (entryTexts (sortProperties parts))

def itemTexts : List Data → Except Failure (List (List Char))
  | [] => .ok []
  | d :: rest =>
    match valueText d with
    | .error e => .error e
    | .ok part => (itemTexts rest).map (part :: ·)

def propertyTexts : List (String × Data) → Except Failure (List (String × List Char))
  | [] => .ok []
  | (k, d) :: rest =>
    match valueText d with
    | .error e => .error e
    | .ok part => (propertyTexts rest).map ((k, part) :: ·)

/-- the texts of the properties that are not hidden -/
def shownTexts : List (String × Data) → Except Failure (List (String × List Char))
  | [] => .ok []
  | (k, d) :: rest =>
    if isHidden k then shownTexts rest
    else
      match valueText d with
      | .error e => .error e
      | .ok part => (shownTexts rest).map ((k, part) :: ·)

end

/-! ## Tables -/

/-- the name of a column in a line, which ends before a zero character -/
def lineName (column : String) : String :=
  String.ofList (column.toList.takeWhile (· != '\x00'))

/-- a row as an object -/
def lineOf (columns : List String) (row : List Data) : Except Failure (List Char) :=
  (propertyTexts ((columns.map lineName).zip row)).map fun parts => bracketed '\x7b' '\x7d' (entryTexts parts) ++ ['\n']

def linesOf (columns : List String) : List (List Data) → Except Failure (List Char)
  | [] => .ok []
  | row :: rest =>
    match lineOf columns row with
    | .error e => .error e
    | .ok line => (linesOf columns rest).map (line ++ ·)

/-- a line for each row; a table without columns is one empty line -/
def jsonLines (t : Table) : Except Failure (List Char) :=
  if t.columns.isEmpty then .ok ['\n'] else linesOf t.columns t.rows

end Harvest.Table
