/-
Formats of documents, by name.
-/
import Harvest.Failure

namespace Harvest

inductive Format where
  | json
  | xml
  deriving DecidableEq, Repr, Inhabited

namespace Format

def all : List Format := [json, xml]

def name : Format → String
  | json => "json"
  | xml => "xml"

/-- the names of all formats, in alphabetical order -/
def names : List String := all.map name

/-- the format with a name -/
def ofName (label : String) : Except Failure Format :=
  match all.find? fun f => f.name == label with
  | some f => .ok f
  | none => .error (.unknownFormat label names)

theorem ofName_name (f : Format) : ofName f.name = .ok f := by
  cases f <;> rfl

/-- the displayed name of a reader of documents -/
def readerName : Format → String
  | json => "JsonParser"
  | xml => "XmlParser"

/-- the displayed name of a node -/
def nodeName : Format → String
  | json => "JsonValue"
  | xml => "XmlValue"

/-- how many arguments a reader of documents takes: a root path, and for XML namespaces -/
def mostArguments : Format → Nat
  | json => 1
  | xml => 2

end Format

end Harvest
