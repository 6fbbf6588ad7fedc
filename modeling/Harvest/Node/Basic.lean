/-
Nodes: one view of JSON trees and XML elements. A node is a part of a document with its place, the indices that lead to it
from the root. Nodes of XML documents are told apart by document and place, nodes of JSON documents by their content.

What is not a number equals nothing, not even itself, so a JSON node may differ from a node like it. Whether two nodes are
one and the same can be told by their marks, where nodes are marked.
-/
import Harvest.Data.Equality
import Harvest.Data.Tree
import Harvest.Failure
import Harvest.Json.Writer
import Harvest.Xml.Element
import Harvest.Xml.Namespaces

namespace Harvest

/-- the part of a document that a node stands for -/
inductive Content where
  | json (tree : Data)
  | xml (namespaces : Xml.Namespaces) (element : Xml.Element)
  deriving Inhabited

structure Node where
  document : Nat
  place : List Nat
  content : Content
  /-- what tells marked nodes apart; a node that a step has just found has none -/
  mark : Option Nat := none
  deriving Inhabited

namespace Node

/-- the node at a place below this one -/
def below (n : Node) (place : List Nat) (content : Content) : Node :=
  { document := n.document, place := n.place ++ place, content }

/-- the plain value: the text of an XML element, the JSON text of a mapping, any other JSON data itself -/
def value (n : Node) : Except Failure Data :=
  match n.content with
  | .xml _ element => .ok (.str element.value)
  | .json (.dict entries) =>
    match Json.write (.dict entries) with
    | .ok text => .ok (.str (String.ofList text))
    | .error part => .error (.notWritable part.kindName)
  | .json tree => .ok tree

/-- names of the children, each once, in order of first appearance -/
def childNames (n : Node) : List String :=
  match n.content with
  | .json tree => tree.childNames
  | .xml ns element => (element.children.map fun c => ns.shorten c.tag).eraseDups

def attributeNames (n : Node) : Except Failure (List String) :=
  match n.content with
  | .json _ => .error (.noAttributes none)
  | .xml ns element => .ok (element.attributes.map fun a => ns.shorten a.1)

/-- the value of an attribute, if the element has it -/
def attributeValue (n : Node) (name : String) : Except Failure (Option String) :=
  match n.content with
  | .json _ => .error (.noAttributes (some name))
  | .xml ns element => .ok (element.attributes.lookup (ns.expandAttribute name))

/-- the node itself holds a value, whatever its children hold -/
def hasValues (n : Node) : Bool :=
  match n.content with
  | .json tree => tree.hasValue
  | .xml _ element => element.hasText

/-- the children with a name, in document order -/
def children (n : Node) (name : String) : List Node :=
  match n.content with
  | .json tree => (tree.childrenNamed name).map fun c => n.below c.1 (.json c.2)
  | .xml ns element =>
    ((Data.numbered element.children).filter fun c => c.2.tag == ns.expandChild name).map fun c =>
      n.below [c.1] (.xml ns c.2)

/-- the elements of an array, or the node itself -/
def elements (n : Node) : List Node :=
  match n.content with
  | .json (.list items) => (Data.elements items).map fun e => n.below e.1 (.json e.2)
  | _ => [n]

/-- the nodes stand for one place of one document -/
def samePlace (m n : Node) : Bool :=
  m.document == n.document && m.place == n.place

/-- equality of nodes: the same content for JSON, the same element of the same document for XML -/
def same (m n : Node) : Bool :=
  match m.content, n.content with
  | .json a, .json b => a.same b || (m.samePlace n && !a.isFloat)
  | .xml _ _, .xml _ _ => m.samePlace n
  | _, _ => false

/-- the nodes are marked as one -/
def isMarkedAs (m n : Node) : Bool :=
  m.mark.isSome && m.mark == n.mark

/-- give numbers from `next` on to nodes without a mark; gives the number after them too -/
def markFrom (next : Nat) : List Node → Nat × List Node
  | [] => (next, [])
  | n :: rest =>
    let (marked, after) := if n.mark.isSome then (n, next) else ({ n with mark := some next }, next + 1)
    let (last, others) := markFrom after rest
    (last, marked :: others)

end Node

end Harvest
