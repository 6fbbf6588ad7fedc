/-
Expressions: chains of operations on an array of nodes, which starts as the context alone. The type of paths is a
parameter, so that an expression as it is written, with path expressions, and one whose paths have been read have one
syntax; `compile` leads from the first to the second.

`values` and `map` end an array: they give a plain list. Such a list can be put into an array again, by `concat` as an
operand and by `path`; its items can then do nothing that a node can do.
-/
import Harvest.Mapping.Predicate
import Harvest.Node.Resolve
import Harvest.Path.Parser

namespace Harvest

inductive Operation (π : Type) where
  /-- follow child names from every node -/
  | field (names : List String)
  /-- the results of several chains of child names, one after the other -/
  | fields (chains : List (List String))
  /-- follow a path from each node -/
  | path (p : π)
  | first
  | last
  | select (p : Predicate)
  | reject (p : Predicate)
  /-- keep nodes whose attribute has a value, or, if null is expected, any value -/
  | matchAttribute (name : String) (expected : Data)
  /-- append what an expression gives in the same context -/
  | concat (operand : List (Operation π))
  | values
  | map (f : NodeFunction)
  deriving Inhabited

abbrev Expression (π : Type) := List (Operation π)

/-! ## Reading the paths of an expression -/

mutual

def Operation.compile : Operation String → Except PathError (Operation Path)
  | .path text => (Path.read text).map .path
  | .concat operand => (Operation.compileAll operand).map .concat
  | .field names => .ok (.field names)
  | .fields chains => .ok (.fields chains)
  | .first => .ok .first
  | .last => .ok .last
  | .select p => .ok (.select p)
  | .reject p => .ok (.reject p)
  | .matchAttribute name expected => .ok (.matchAttribute name expected)
  | .values => .ok .values
  | .map f => .ok (.map f)

def Operation.compileAll : Expression String → Except PathError (Expression Path)
  | [] => .ok []
  | op :: rest =>
    match Operation.compile op with
    | .error e => .error e
    | .ok op => (Operation.compileAll rest).map (op :: ·)

end

/-! ## Arrays -/

/-- an item of an array: a node, or plain data -/
inductive Item where
  | node (n : Node)
  | plain (d : Data)
  deriving Inhabited

/-- the node of an item that must be able to act -/
def Item.asNode (act : Capability) : Item → Except Failure Node
  | node n => .ok n
  | plain d => .error (d.refusal act)

namespace Item

/-- the results of a function on all items, one after the other, up to the first one that fails -/
def collect {α : Type} (f : Item → Except Failure (List α)) : List Item → Except Failure (List α)
  | [] => .ok []
  | e :: rest =>
    match f e with
    | .error failure => .error failure
    | .ok found => (collect f rest).map (found ++ ·)

/-- the children of an item with a name -/
def children (name : String) (e : Item) : Except Failure (List Item) :=
  (e.asNode "get_child_nodes").map fun n => (n.children name).map node

/-- the children with the first name of the children with the names before it -/
def follow (items : List Item) : List String → Except Failure (List Item)
  | [] => .ok items
  | name :: rest =>
    match collect (children name) items with
    | .error e => .error e
    | .ok found => follow found rest

/-- the results of several chains of names, one after the other -/
def followAll (items : List Item) : List (List String) → Except Failure (List Item)
  | [] => .ok []
  | names :: rest =>
    match follow items names with
    | .error e => .error e
    | .ok found => (followAll items rest).map (found ++ ·)

/-- what a step asks of a node -/
def stepCapability : Step → Capability
  | .child _ => "get_child_nodes"
  | .wildcard => "children"
  | .each => "elements"
  | .index _ => "elements"

/-- what a path leads to from an item -/
def resolve (path : Path) : Item → Except Failure (List Item)
  | node n => .ok ((path.resolve n).map node)
  | plain d =>
    match path.steps with
    | [] => .ok [plain d]
    | step :: _ => .error (d.refusal (stepCapability step))

/-- the item itself, if its condition is the wanted one -/
def keep (p : Predicate) (wanted : Bool) (e : Item) : Except Failure (List Item) :=
  let holds := match e with
    | node n => p.holds n.content
    | plain d => p.holdsPlain d
  holds.map fun b => if b == wanted then [e] else []

/-- the item itself, if its attribute is the expected one, or any if null is expected -/
def keepAttribute (name : String) (expected : Data) (e : Item) : Except Failure (List Item) :=
  match e.asNode "attribute" with
  | .error failure => .error failure
  | .ok n => (n.attribute name).map fun v => if (if expected.isNull then !v.isNull else v.same expected) then [e] else []

/-- the value of an item -/
def value : Item → Except Failure Data
  | node n => n.value
  | plain d => d.property valueName

/-- what a function makes of an item -/
def apply (f : NodeFunction) : Item → Except Failure Data
  | node n => f.apply n.content
  | plain d => f.applyPlain d

def single {α : Type} (f : Item → Except Failure α) (e : Item) : Except Failure (List α) :=
  (f e).map ([·])

/-- the values of all items -/
def values (items : List Item) : Except Failure (List Data) :=
  collect (single value) items

end Item

/-- what an expression gives: an array, or plain data -/
inductive Resolved where
  | array (items : List Item)
  | plain (d : Data)
  deriving Inhabited

/-- the items of an array or of a plain list -/
def Resolved.items? : Resolved → Option (List Item)
  | array items => some items
  | plain (.list items) => some (items.map .plain)
  | plain _ => none

/-- an operation that only arrays have -/
def Resolved.onArray (capability : Capability) (f : List Item → Except Failure Resolved) : Resolved → Except Failure Resolved
  | array items => f items
  | plain d => .error (.noCapability d.kindName capability)

mutual

/-- what an operation makes of an intermediate result -/
def Operation.apply (context : Node) : Operation Path → Resolved → Except Failure Resolved
  | .field names, r => r.onArray "field" fun es => (Item.follow es names).map .array
  | .fields chains, r => r.onArray "fields" fun es => (Item.followAll es chains).map .array
  | .path p, r =>
    match r.items? with
    | some es => (Item.collect (Item.resolve p) es).map .array
    | none => .error .noItems
  | .first, r => r.onArray "first_value" fun es => .ok (.array (es.take 1))
  | .last, r => r.onArray "last_value" fun es => .ok (.array (es.drop (es.length - 1)))
  | .select p, r => r.onArray "select" fun es => (Item.collect (Item.keep p true) es).map .array
  | .reject p, r => r.onArray "reject" fun es => (Item.collect (Item.keep p false) es).map .array
  | .matchAttribute name expected, r =>
    r.onArray "match_attribute" fun es => (Item.collect (Item.keepAttribute name expected) es).map .array
  | .concat operand, r => r.onArray "concat" fun es =>
    match Operation.applyAll context operand (.array [.node context]) with
    | .error e => .error e
    | .ok other =>
      match other.items? with
      | some more => .ok (.array (es ++ more))
      | none => .error .noItems
  | .values, r => r.onArray "values" fun es => (Item.values es).map fun vs => .plain (.list vs)
  | .map f, r => r.onArray "map" fun es => (Item.collect (Item.single (Item.apply f)) es).map fun vs => .plain (.list vs)

/-- what a chain of operations makes of an intermediate result -/
def Operation.applyAll (context : Node) : Expression Path → Resolved → Except Failure Resolved
  | [], r => .ok r
  | op :: rest, r =>
    match Operation.apply context op r with
    | .error e => .error e
    | .ok r => Operation.applyAll context rest r

end

/-- what an expression gives in a context -/
def Operation.evaluate (ops : Expression Path) (context : Node) : Except Failure Resolved :=
  Operation.applyAll context ops (.array [.node context])

end Harvest
