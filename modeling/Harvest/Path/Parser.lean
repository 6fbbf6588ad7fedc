/-
Reading a path expression, segment by segment. `readSegment?` cuts one segment off the front; a path is `$` followed by
segments only, and where none can be cut off, what is left over gives the position of the error.
-/
import Harvest.Path.Basic
import Harvest.Text.DecimalDigit

namespace Harvest.Path

open Harvest.Text

/-- a character of a name without quotes -/
def isNameChar (c : Char) : Bool :=
  c != '.' && c != '[' && c != ']' && c != '\'' && c != '"'

/-- the step of a name without quotes -/
def nameStep (name : List Char) : Step :=
  if name == ['*'] then .wildcard else .child (String.ofList name)

/-- the rest of a segment in quotes, after its opening quote -/
def readQuoted? (quote : Char) (cs : List Char) : Option (Step × List Char) :=
  match cs.dropWhile (· != quote) with
  | _ :: ']' :: rest => some (.child (String.ofList (cs.takeWhile (· != quote))), rest)
  | _ => none

/-- the rest of an index segment, after its sign -/
def readIndex? (negative : Bool) (cs : List Char) : Option (Step × List Char) :=
  match cs.takeWhile isDecimalDigit, cs.dropWhile isDecimalDigit with
  | c :: digits, ']' :: rest =>
    let size : Int := decimalValue (c :: digits)
    some (.index (if negative then -size else size), rest)
  | _, _ => none

/-- one segment at the front of an expression, and what follows it -/
def readSegment? : List Char → Option (Step × List Char)
  | '.' :: rest =>
    match rest.takeWhile isNameChar with
    | [] => none
    | name => some (nameStep name, rest.dropWhile isNameChar)
  | '[' :: '\'' :: rest => readQuoted? '\'' rest
  | '[' :: '"' :: rest => readQuoted? '"' rest
  | '[' :: '*' :: ']' :: rest => some (.each, rest)
  | '[' :: '-' :: rest => readIndex? true rest
  | '[' :: rest => readIndex? false rest
  | _ => none

/-- the segments of an expression, at most `fuel`; a failure is what no segment could be cut off -/
def readSegments : Nat → List Char → Except (List Char) (List Step)
  | _, [] => .ok []
  | 0, rest => .error rest
  | fuel + 1, rest =>
    match readSegment? rest with
    | none => .error rest
    | some (step, rest) =>
      match readSegments fuel rest with
      | .error e => .error e
      | .ok steps => .ok (step :: steps)

/-- an expression that may be a path: it starts with `$` -/
def isRooted (expression : String) : Bool :=
  expression.toList.head? == some '$'

/-- the path that an expression writes -/
def read (expression : String) : Except PathError Path :=
  match expression.toList with
  | '$' :: rest =>
    match readSegments rest.length rest with
    | .ok steps => .ok ⟨expression, steps⟩
    | .error left => .error (.unexpected expression (rest.length + 1 - left.length))
  | _ => .error (.notRooted expression)

end Harvest.Path
