/-
When two pieces of plain data are equal. Numbers are compared by what they stand for, whatever their kind: `1`, `1.0` and
`true` are equal. Lists are equal item by item, mappings and objects whatever the order of their entries. What is not a
number equals nothing, except that inside a list or a mapping the same word equals itself.
-/
import Harvest.Data.Basic

namespace Harvest.Data

open Harvest.Number

/-- the integer that a truth value or an integer stands for -/
def wholeNumber? : Data → Option Int
  | bool b => some b.toNat
  | int n => some n
  | _ => none

/-- equality of data other than lists, mappings and objects; `float` decides two floating-point numbers -/
def scalarSame (float : Binary64 → Binary64 → Bool) : Data → Data → Bool
  | null, null => true
  | str s, str t => s == t
  | bytes bs, bytes cs => bs == cs
  | .float x, .float y => float x y
  | .float x, b => x.toInt?.isSome && x.toInt? == wholeNumber? b
  | a, .float y => y.toInt?.isSome && wholeNumber? a == y.toInt?
  | a, b => (wholeNumber? a).isSome && wholeNumber? a == wholeNumber? b

mutual

/-- equality of items inside a list, a mapping or an object -/
def sameItem : Data → Data → Bool
  | list xs, list ys => sameItems xs ys
  | dict es, dict fs => es.length == fs.length && sameEntries es fs
  | object c ps, object d qs => c.bag && c == d && ps.length == qs.length && sameEntries ps qs
  | a, b => scalarSame (fun x y => x == y || x.numericEq y) a b

/-- equality item by item -/
def sameItems : List Data → List Data → Bool
  | [], [] => true
  | x :: xs, y :: ys => sameItem x y && sameItems xs ys
  | _, _ => false

/-- each entry has its equal under the same key -/
def sameEntries : List (String × Data) → List (String × Data) → Bool
  | [], _ => true
  | (k, x) :: es, fs =>
    (match fs.lookup k with
      | some y => sameItem x y
      | none => false) && sameEntries es fs

end

/-- equality of data -/
def same : Data → Data → Bool
  | .float x, .float y => x.numericEq y
  | a, b => sameItem a b

end Harvest.Data
