/-
What a start tag means: its attributes with their values and full names, and the namespaces in force inside its element.
-/
import Harvest.Xml.AttributeValue
import Harvest.Xml.Doctype
import Harvest.Xml.Scope

namespace Harvest.Xml

/-- a start tag with everything in it resolved -/
structure StartTag where
  /-- the name as written, which the end tag repeats -/
  name : List Char
  tag : String
  attributes : List (String × String)
  scope : Scope

/-- attributes read so far, with the names already used in the tag -/
structure Collected where
  scope : Scope
  used : List (List Char)
  /-- in reverse order; declarations of namespaces are left out -/
  values : List (List Char × List Char)

namespace Collected

/-- take in an attribute; `here` is the tag's place -/
def add (c : Collected) (here : List Symbol) (name value : List Char) : Except Halt Collected :=
  match Scope.declared? name with
  | none => .ok ⟨c.scope, name :: c.used, (name, value) :: c.values⟩
  | some label =>
    match c.scope.bind label value with
    | .error rule => .error (.broken rule here)
    | .ok scope => .ok ⟨scope, name :: c.used, c.values⟩

/-- take in the attributes that are written in a tag -/
def addWritten (d : Doctype) (here : List Symbol) (element : List Char) (c : Collected) :
    List RawAttribute → Except Halt Collected
  | [] => .ok c
  | raw :: rest =>
    if c.used.contains raw.name then .error (.broken .distinctAttributes raw.nameHere)
    else
      let inside (s : Symbol) := s.char != raw.quote
      match attributeValue (d.valueRules element raw.name) (raw.valueHere.takeWhile inside) with
      | .error fault => .error (fault.halt (raw.valueHere.dropWhile inside) here)
      | .ok value =>
        match c.add here raw.name value with
        | .error e => .error e
        | .ok c => addWritten d here element c rest

/-- take in the declared attributes that are not written in a tag -/
def addDeclared (here : List Symbol) (c : Collected) : List AttributeRule → Except Halt Collected
  | [] => .ok c
  | r :: rest =>
    match r.value? with
    | none => addDeclared here c rest
    | some value =>
      if c.used.contains r.name then addDeclared here c rest
      else
        match c.add here r.name value with
        | .error e => .error e
        | .ok c => addDeclared here c rest

end Collected

/-- names and values as texts -/
def asTexts (pairs : List (List Char × List Char)) : List (String × String) :=
  pairs.map fun p => (String.ofList p.1, String.ofList p.2)

/-- resolve a start tag that stands at `here` -/
def StartTag.resolve (d : Doctype) (scope : Scope) (here : List Symbol) (name : List Char) (raws : List RawAttribute) :
    Except Halt StartTag :=
  match Collected.addWritten d here name ⟨scope, [], []⟩ raws with
  | .error e => .error e
  | .ok c =>
    match c.addDeclared here (d.rules.filter fun r => r.element == name) with
    | .error e => .error e
    | .ok c =>
      match c.scope.attributeNames [] c.values.reverse, c.scope.tagName name with
      | .error rule, _ => .error (.broken rule here)
      | .ok _, .error rule => .error (.broken rule here)
      | .ok attributes, .ok tag => .ok ⟨name, String.ofList tag, asTexts attributes, c.scope⟩

end Harvest.Xml
