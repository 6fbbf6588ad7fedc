/-
Namespace declarations in force inside an element, and the full names they give to tags and attributes.
-/
import Harvest.Xml.Namespaces
import Harvest.Xml.Scan

namespace Harvest.Xml

open Harvest.Text

/-- prefixes with their namespaces, the innermost declaration first; the empty prefix stands for names without one -/
abbrev Scope := List (List Char × List Char)

namespace Scope

/-- the namespace of declarations themselves; nothing can be bound to it -/
def declarationNamespace : List Char := "http://www.w3.org/2000/xmlns/".toList

/-- only the prefix `xml` is bound -/
def initial : Scope := [("xml".toList, xmlNamespace.toList)]

/-- the namespace of a prefix; the empty namespace is none -/
def find? (scope : Scope) (label : List Char) : Option (List Char) :=
  match scope.lookup label with
  | some [] => none
  | found => found

/-- the prefix that an attribute of this name declares -/
def declared? (name : List Char) : Option (List Char) :=
  match name with
  | 'x' :: 'm' :: 'l' :: 'n' :: 's' :: [] => some []
  | 'x' :: 'm' :: 'l' :: 'n' :: 's' :: ':' :: label => some label
  | _ => none

/-- bind a prefix to a namespace, unless a rule forbids it -/
def bind (scope : Scope) (label uri : List Char) : Except Rule Scope :=
  let isXml := uri == xmlNamespace.toList
  if uri.isEmpty && !label.isEmpty then .error .keptPrefix
  else if label == "xmlns".toList then .error .xmlnsPrefix
  else if uri.contains '\x7d' then .error .grammar
  else if label == "xml".toList && !isXml then .error .xmlPrefix
  else if label != "xml".toList && isXml then .error .reservedNamespace
  else if uri == declarationNamespace then .error .reservedNamespace
  else .ok ((label, uri) :: scope)

/-- a name in a namespace, in full -/
def fullName (uri name : List Char) : List Char :=
  '\x7b' :: uri ++ '\x7d' :: name

/-- the full name of a tag -/
def tagName (scope : Scope) (name : List Char) : Except Rule (List Char) :=
  match cutFirst? ':' name with
  | some (label, part) =>
    match scope.find? label with
    | some uri => .ok (fullName uri part)
    | none => .error .boundPrefix
  | none =>
    match scope.find? [] with
    | some uri => .ok (fullName uri name)
    | none => .ok name

/-- the full names of attributes in order; two with a prefix must not have one full name -/
def attributeNames (scope : Scope) (seen : List (List Char)) :
    List (List Char × List Char) → Except Rule (List (List Char × List Char))
  | [] => .ok []
  | (name, value) :: rest =>
    match cutFirst? ':' name with
    | none => (attributeNames scope seen rest).map ((name, value) :: ·)
    | some (label, part) =>
      match scope.find? label with
      | none => .error .boundPrefix
      | some uri =>
        let full := fullName uri part
        if seen.contains full then .error .distinctAttributes
        else (attributeNames scope (full :: seen) rest).map ((full, value) :: ·)

end Scope

end Harvest.Xml
