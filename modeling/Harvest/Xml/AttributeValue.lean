/-
The value of an attribute from what is written between its quotes. White space becomes spaces, references become what they
stand for; the value of an attribute that was declared with a type other than plain text loses its outer spaces, and its
runs of spaces become one.
-/
import Harvest.Xml.Scan

namespace Harvest.Xml

/-- how a value is read -/
structure ValueRules where
  /-- the attribute holds plain text, as one without declaration does -/
  plainText : Bool
  /-- a reference to an entity without declaration is left out -/
  dropUnknown : Bool

/-- what is wrong with a value: a broken rule at a place in it, or an entity without declaration -/
inductive ValueFault where
  | broken (rule : Rule) (here : List Symbol)
  | unknownEntity

/-- a fault of a scanner inside a value -/
def ValueFault.ofHalt : Halt → ValueFault
  | .broken rule here => .broken rule here
  | _ => .unknownEntity

/-- the way the reader halts at a fault, where `after` follows the value and the value starts at `start` -/
def ValueFault.halt (after start : List Symbol) : ValueFault → Halt
  | .broken rule here => .broken rule (here ++ after)
  | .unknownEntity => .broken .knownEntity start

/-- a space after the reversed value read so far; it may be dropped -/
def pushSpace (rules : ValueRules) (done : List Char) : List Char :=
  if !rules.plainText && (done.isEmpty || done.head? == some ' ') then done else ' ' :: done

/-- the reversed value, after the reversed value read so far -/
def valueFrom (rules : ValueRules) : Nat → List Char → List Symbol → Except ValueFault (List Char)
  | 0, done, _ => .ok done
  | _ + 1, done, [] => .ok done
  | fuel + 1, done, s :: rest =>
    let here := s :: rest
    if s.char == '&' then
      match scanReference ⟨here, .token⟩ rest with
      | .error e => .error (.ofHalt e)
      | .ok (.numbered n, rest) =>
        match characterNumbered? n with
        | none => .error (.broken .characterNumber here)
        | some ' ' => valueFrom rules fuel (pushSpace rules done) rest
        | some image => valueFrom rules fuel (image :: done) rest
      | .ok (.named name, rest) =>
        match predefined.lookup name with
        | some image => valueFrom rules fuel (image :: done) rest
        | none => if rules.dropUnknown then valueFrom rules fuel done rest else .error .unknownEntity
    else if s.char == '<' then .error (.broken .token here)
    else if s.char == '\r' then
      match rest with
      | ⟨'\n', _⟩ :: rest => valueFrom rules fuel (pushSpace rules done) rest
      | rest => valueFrom rules fuel (pushSpace rules done) rest
    else if s.isSpace then valueFrom rules fuel (pushSpace rules done) rest
    else valueFrom rules fuel (s.char :: done) rest

/-- the value of an attribute that is written as `written` -/
def attributeValue (rules : ValueRules) (written : List Symbol) : Except ValueFault (List Char) :=
  match valueFrom rules (written.length + 1) [] written with
  | .error e => .error e
  | .ok done => .ok (if !rules.plainText && done.head? == some ' ' then done.tail else done).reverse

end Harvest.Xml
