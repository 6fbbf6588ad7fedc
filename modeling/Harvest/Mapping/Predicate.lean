/-
Conditions on nodes and functions of nodes, as expressions use them: any function of a node's content that may fail is one.
The named ones, those that descriptions of mappings know, fail only where a node lacks what is asked of it: attributes, or a
JSON form.

Plain data can stand where a node is expected. All that it can answer the named ones with is a property `value`.
-/
import Harvest.Data.Object
import Harvest.Node.Basic
import Harvest.Text.Cut

namespace Harvest

open Harvest.Text

/-- the values of nodes, up to the first one that fails -/
def Node.values : List Node → Except Failure (List Data)
  | [] => .ok []
  | n :: rest =>
    match n.value with
    | .error e => .error e
    | .ok v => (values rest).map (v :: ·)

/-- an attribute's value as data; null if the element lacks it -/
def Node.attribute (n : Node) (name : String) : Except Failure Data :=
  (n.attributeValue name).map fun
    | some s => .str s
    | none => .null

/-- the name that the value of a node goes under -/
def valueName : Capability := "value"

/-- a node with this content that stands alone -/
def Content.node (c : Content) : Node :=
  { document := 0, place := [], content := c }

/-- a condition on nodes, and on plain data in the place of a node -/
structure Predicate where
  holds : Content → Except Failure Bool
  holdsPlain : Data → Except Failure Bool

namespace Predicate

/-- data is a text with this part -/
def hasPart (part : String) : Data → Bool
  | .str s => isPart part.toList s.toList
  | _ => false

/-- the value goes through a test -/
def onValue (test : Data → Bool) : Predicate where
  holds c := c.node.value.map test
  holdsPlain d := (d.property valueName).map test

/-- a condition of nodes only; plain data refuses what a node must be able to do -/
def ofNodes (act : Capability) (holds : Content → Except Failure Bool) : Predicate where
  holds := holds
  holdsPlain d := .error (d.refusal act)

def valueIs (expected : Data) : Predicate :=
  onValue fun v => v.same expected

/-- the value is a text with this part -/
def contains (part : String) : Predicate :=
  onValue (hasPart part)

def hasValues : Predicate :=
  ofNodes "has_values" fun c => .ok c.node.hasValues

def hasChild (name : String) : Predicate :=
  ofNodes "get_child_nodes" fun c => .ok (!(c.node.children name).isEmpty)

/-- there is one child with this name, and its value is the expected one -/
def childIs (name : String) (expected : Data) : Predicate :=
  ofNodes "get_child_nodes" fun c =>
    (Node.values (c.node.children name)).map fun vs => (Data.list vs).same (.list [expected])

def attributeIs (name : String) (expected : Data) : Predicate :=
  ofNodes "attribute" fun c => (c.node.attribute name).map fun v => v.same expected

instance : Inhabited Predicate := ⟨hasValues⟩

end Predicate

/-- a function of nodes, and of plain data in the place of a node -/
structure NodeFunction where
  apply : Content → Except Failure Data
  applyPlain : Data → Except Failure Data

namespace NodeFunction

/-- a function of nodes only; plain data refuses what a node must be able to do -/
def ofNodes (act : Capability) (apply : Content → Except Failure Data) : NodeFunction where
  apply := apply
  applyPlain d := .error (d.refusal act)

def value : NodeFunction where
  apply c := c.node.value
  applyPlain d := d.property valueName

def children : NodeFunction :=
  ofNodes "children" fun c => .ok (.list (c.node.childNames.map .str))

def hasValues : NodeFunction :=
  ofNodes "has_values" fun c => .ok (.bool c.node.hasValues)

def attributeNamed (name : String) : NodeFunction :=
  ofNodes "attribute" fun c => c.node.attribute name

def attributes : NodeFunction :=
  ofNodes "attributes" fun c => c.node.attributeNames.map fun names => .list (names.map .str)

def count (name : String) : NodeFunction :=
  ofNodes "get_child_nodes" fun c => .ok (.int (c.node.children name).length)

def elements : NodeFunction :=
  ofNodes "elements" fun c => .ok (.int c.node.elements.length)

def childValues (name : String) : NodeFunction :=
  ofNodes "get_child_nodes" fun c => (Node.values (c.node.children name)).map .list

/-- null asks for nothing -/
def null : NodeFunction where
  apply _ := .ok .null
  applyPlain _ := .ok .null

instance : Inhabited NodeFunction := ⟨null⟩

end NodeFunction

end Harvest
