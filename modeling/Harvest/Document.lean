/-
Opening a record: its content is read in a format, and a root path picks the node that mappings start from. Where the path
leads nowhere, a node without any value stands for the root.

`stamp` tells documents apart; nodes of XML documents are equal only within one document.
-/
import Harvest.Format
import Harvest.Json.Reader
import Harvest.Node.Resolve
import Harvest.Path.Parser
import Harvest.Record
import Harvest.Xml.Reader

namespace Harvest

open Harvest.Text

/-- an opened record -/
structure Document where
  format : Format
  /-- how reports name the record -/
  record : String
  root : Node
  deriving Inhabited

namespace Document

/-- decode JSON content: text and bytes are read, anything else is a decoded tree already -/
def decodeJson (content : Data) : Except Failure Data :=
  match content with
  | .str s =>
    match Json.read s with
    | .ok tree => .ok tree
    | .error e => .error (.badJson e)
  | .bytes bytes =>
    match Utf8.decode bytes with
    | .error m => .error (.badText m)
    | .ok cs =>
      match Json.read (String.ofList cs) with
      | .ok tree => .ok tree
      | .error e => .error (.badJson e)
  | tree => .ok tree

/-- decode XML content: text or bytes; elements that are read already are no data, and are not among it -/
def decodeXml (content : Data) : Except Failure Xml.Element :=
  let read? := match content with
    | .str s => some (Xml.readText s)
    | .bytes bytes => some (Xml.read bytes)
    | _ => none
  match read? with
  | none => .error (.notDocument content.kindName)
  | some (.ok root) => .ok root
  | some (.error e) => .error (.badXml e)

/-- the namespaces that an argument gives -/
def namespacesOf : Data → Except Failure Xml.Namespaces
  | .dict entries => .ok (Xml.Namespaces.ofEntries entries)
  | d => if d.isEmpty then .ok (Xml.Namespaces.ofEntries []) else .error (.notNamespaces d.kindName)

/-- the path that an argument gives -/
def rootPathOf : Data → Except Failure Path
  | .list items => .error (.notKey (Data.list items).kindName)
  | .dict entries => .error (.notKey (Data.dict entries).kindName)
  | .object cls properties => .error (.notKey (Data.object cls properties).kindName)
  | d =>
    match Path.read d.text with
    | .error e => .error (.badPath e)
    | .ok path => if d matches .str _ then .ok path else .error (.badPath (.notRooted d.text))

/-- the document node of a record's content; of the arguments only the namespaces count -/
def decode (stamp : Nat) (format : Format) (content : Data) (arguments : List Data) : Except Failure Node :=
  match format with
  | .json =>
    match decodeJson content with
    | .error e => .error e
    | .ok tree => .ok { document := stamp, place := [], content := .json tree }
  | .xml =>
    match decodeXml content with
    | .error e => .error e
    | .ok element =>
      match namespacesOf (arguments.getD 1 .null) with
      | .error e => .error e
      | .ok namespaces => .ok { document := stamp, place := [], content := .xml namespaces element }

/-- the node that stands for a root that is not there -/
def missingRoot (document : Node) : Node :=
  match document.content with
  | .json _ => { document with content := .json .null }
  | .xml namespaces _ => { document with content := .xml namespaces Xml.Element.missing }

/-- the first node that a root path leads to, or the node that stands for it -/
def selectRoot (path : Path) (document : Node) : Node :=
  (path.first? document).getD (missingRoot document)

/-- open a record; the arguments are a root path and, for XML, namespaces -/
def ofRecord (stamp : Nat) (format : Format) (record : Record) (arguments : List Data) : Except Failure Document :=
  if format.mostArguments < arguments.length then
    .error (.extraArguments (format.readerName ++ ".__init__") format.mostArguments arguments.length)
  else
    match record.content with
    | .error e => .error e
    | .ok content =>
      match decode stamp format content arguments with
      | .error e => .error e
      | .ok document =>
        match rootPathOf (arguments.headD (.str Path.root.expression)) with
        | .error e => .error e
        | .ok path => .ok ⟨format, record.name, selectRoot path document⟩

end Document

/-! ## Display -/

/-- the displayed form of a node -/
def Node.display (n : Node) : String :=
  match n.content with
  | .json tree => Format.json.nodeName ++ "(" ++ tree.display ++ ")"
  | .xml _ element => Format.xml.nodeName ++ "(<" ++ element.tag ++ ">)"

/-- the displayed form of an array of nodes -/
def displayNodes (nodes : List Node) : String :=
  "ValueArray([" ++ ", ".intercalate (nodes.map Node.display) ++ "])"

/-- the displayed form of an opened record -/
def Document.display (d : Document) : String :=
  d.format.readerName ++ "(record=" ++ d.record ++ ", root=" ++ d.root.display ++ ")"

end Harvest
