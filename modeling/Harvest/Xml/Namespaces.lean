/-
Namespace prefixes for reading names. `shorten` writes a name with the first prefix of its namespace; `expand` reads a name
written with a prefix. The prefix `xml` is always known, and the empty prefix stands for the namespace of child names
without a prefix, but never for attribute names.

A prefix can be given any data. Names are read by the text of that data, but only a text is the namespace of a name, so
names are never written with the prefix of other data.
-/
import Harvest.Data.Display
import Harvest.Text.Cut

namespace Harvest.Xml

open Harvest.Text

/-- the namespace of the prefix `xml` -/
def xmlNamespace : String := "http://www.w3.org/XML/1998/namespace"

/-- prefixes with their namespaces, each prefix once -/
structure Namespaces where
  entries : List (String × Data)
  deriving Inhabited

namespace Namespaces

/-- the given prefixes after `xml`; of a repeated prefix the last namespace counts, at the place of the first -/
def ofEntries (given : List (String × Data)) : Namespaces :=
  ⟨Entries.ofList (("xml", .str xmlNamespace) :: given)⟩

def find? (ns : Namespaces) (label : String) : Option Data :=
  ns.entries.lookup label

/-- the data is the namespace with this name -/
def isNamed (uri : String) : Data → Bool
  | .str s => s == uri
  | _ => false

/-- the full form of a name in a namespace -/
def qualified (uri name : String) : String :=
  "\x7b" ++ uri ++ "\x7d" ++ name

/-- the namespace and the local part of a full name; nothing for a name without namespace -/
def splitQualified? (name : String) : Option (String × String) :=
  match name.toList with
  | '\x7b' :: rest =>
    match cutFirst? '\x7d' rest with
    | some (uri, part) => some (String.ofList uri, String.ofList part)
    | none => some (String.ofList rest, "")
  | _ => none

/-- a full name written with the first prefix of its namespace; without one it is left as it is -/
def shorten (ns : Namespaces) (name : String) : String :=
  match splitQualified? name with
  | none => name
  | some (uri, part) =>
    match ns.entries.find? fun e => isNamed uri e.2 with
    | none => name
    | some e => if e.1 == "" then part else e.1 ++ ":" ++ part

/-- the full form of a name written with a known prefix -/
def expandPrefixed? (ns : Namespaces) (name : String) : Option String :=
  match cutFirst? ':' name.toList with
  | none => none
  | some (label, part) => (ns.find? (String.ofList label)).map fun uri => qualified uri.text (String.ofList part)

/-- the full name of an attribute -/
def expandAttribute (ns : Namespaces) (name : String) : String :=
  (ns.expandPrefixed? name).getD name

/-- the full name of a child; without a prefix it lies in the namespace of the empty prefix, if there is one -/
def expandChild (ns : Namespaces) (name : String) : String :=
  match ns.expandPrefixed? name with
  | some full => full
  | none =>
    if name.toList.contains ':' || name.toList.head? == some '\x7b' then name
    else
      match ns.find? "" with
      | none => name
      | some uri => if uri.isEmpty then name else qualified uri.text name

end Namespaces

end Harvest.Xml
