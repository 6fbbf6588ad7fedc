/-
Literals that are lent. A mapping that takes the place of all properties of an object is copied, unless it is a literal of the
definition. That literal is lent: the object keeps its properties in it from then on, and so do the objects that the block makes
at other nodes and of other records. They are in the end what was set on any of them.

What a block does to its object at one node is a list of changes, and nothing that objects share decides about them. So an object
is settled afterwards, from the changes that its block made at all nodes, in order.
-/
import Harvest.Mapping.Assignment

namespace Harvest

/-- what a block does to the properties of its object -/
inductive Change where
  | sets (name : String) (d : Data)
  /-- a mapping takes the place of all properties -/
  | replaces (entries : List (String × Data))
  /-- the literal of the assignment with a number does, and is lent -/
  | borrows (number : Nat) (entries : List (String × Data))

namespace Change

def isWhole : Change → Bool
  | sets _ _ => false
  | replaces _ => true
  | borrows _ _ => true

/-- what changes set in the literal of the assignment with a number; `borrowed` says that it is lent before them -/
def intoLiteral (number : Nat) (borrowed : Bool) : List Change → List (String × Data)
  | [] => []
  | sets name d :: rest =>
    if borrowed then (name, d) :: intoLiteral number borrowed rest else intoLiteral number borrowed rest
  | replaces _ :: rest => intoLiteral number false rest
  | borrows other _ :: rest => intoLiteral number (other == number) rest

/-- the properties of an object after its changes, when its block has made all these changes at one node after the other -/
def settle (everywhere : List (List Change)) (properties : List (String × Data)) : List Change → List (String × Data)
  | [] => properties
  | sets name d :: rest => settle everywhere (Entries.put properties name d) rest
  | replaces entries :: rest => settle everywhere entries rest
  | borrows number entries :: rest =>
    if rest.any isWhole then settle everywhere [] rest
    else (everywhere.flatMap (intoLiteral number false)).foldl (fun es e => Entries.put es e.1 e.2) entries

end Change

/-- the object of a class at a node, when its block has been run at all these nodes; `changes` are those that it makes at one -/
def settledObject (cls : ObjectClass) (changes : Node → List Change) (everywhere : List Node) (here : Node) : Data :=
  .object cls (Change.settle (everywhere.map changes) [] (changes here))

/-- the items up to the first without a property, this one included -/
def throughFirst {α : Type} (goesOn : α → Bool) : List α → List α
  | [] => []
  | a :: rest => a :: if goesOn a then throughFirst goesOn rest else []

namespace Assignment

/-- a mapping is given as it is -/
def lends : Assignment Path → Bool
  | property _ (.literal (.dict _)) none _ => true
  | _ => false

/-- the assignments after this one are come to -/
def goesOn (cls : ObjectClass) (here : Node) (a : Assignment Path) : Bool :=
  ((a.evaluate "" here).bind fun value? => Run.ofExcept (assign cls [] a.name value?)).outcome.toOption.isSome

/-- the nodes that a body is run at for a node of the block around it -/
def bodyNodes (cls : ObjectClass) (path? : Option Path) (body : List (Assignment Path)) (here : Node) : List Node :=
  throughFirst (fun n => (applyAll "" n cls body []).outcome.toOption.isSome) (nestedContexts here path?)

/-- the change that an assignment makes with a value, if it has one; `number` is the assignment's -/
def change? (number : Nat) (a : Assignment Path) : Option Data → Option Change
  | none => none
  | some d =>
    if a.name == ObjectClass.propertiesSlot then
      match d with
      | .dict entries => some (if a.lends then .borrows number entries else .replaces entries)
      | _ => none
    else some (.sets a.name d)

mutual

/-- the value of an assignment at a node, with its objects settled; `everywhere` are the nodes that it is come to at -/
def settledValue (everywhere : List Node) (here : Node) : Assignment Path → Option Data
  | .property name source transform? many =>
    (propertyValue "" here name source transform? many).outcome.toOption.join
  | .nested _ cls path? many body =>
    let inside := everywhere.flatMap (bodyNodes cls path? body)
    unwrapItems many ((nestedContexts here path?).map fun n =>
      settledObject cls (fun n => changesFrom cls 0 inside n body) inside n)

/-- what a block does to its object at a node, up to the first assignment that fails; `number` is that of its first one -/
def changesFrom (cls : ObjectClass) (number : Nat) (everywhere : List Node) (here : Node) :
    List (Assignment Path) → List Change
  | [] => []
  | a :: rest =>
    if a.goesOn cls here then
      (a.change? number (settledValue everywhere here a)).toList ++
        changesFrom cls (number + 1) (everywhere.filter fun n => a.goesOn cls n) here rest
    else []

end

end Assignment

end Harvest
