/-
Definitions described by plain data, as a JSON document holds them: a list of mappings, each with its name and a block of
assignments. What a description leaves out, or gives in another kind than expected, is taken as empty.

Operations, predicates, functions and transforms are lists that start with their name.
-/
import Harvest.Mapping.Definition

namespace Harvest

/-- how the words of a description are understood -/
structure Vocabulary where
  /-- the data that a literal stands for -/
  value : Data → Data := id
  /-- the class with a name -/
  cls : String → ObjectClass := fun name => ⟨name, true⟩

namespace Vocabulary

/-! ## Parts of data -/

def text : Data → String
  | .str s => s
  | _ => ""

def text? : Data → Option String
  | .str s => some s
  | _ => none

def items : Data → List Data
  | .list ds => ds
  | _ => []

def items? : Data → Option (List Data)
  | .list ds => some ds
  | _ => none

/-- the value of a key; null where there is none -/
def key (entries : List (String × Data)) (name : String) : Data :=
  (entries.lookup name).getD .null

def isTrue : Data → Bool
  | .bool b => b
  | _ => false

/-! ## Words -/

def predicate (v : Vocabulary) (d : Data) : Predicate :=
  match items d with
  | [.str "value_is", expected] => .valueIs (v.value expected)
  | [.str "contains", part] => .contains (text part)
  | [.str "has_child", name] => .hasChild (text name)
  | [.str "child_is", name, expected] => .childIs (text name) (v.value expected)
  | [.str "attr_is", name, expected] => .attributeIs (text name) (v.value expected)
  | _ => .hasValues

def function (d : Data) : NodeFunction :=
  match items d with
  | [.str "value"] => .value
  | [.str "children"] => .children
  | [.str "has_values"] => .hasValues
  | [.str "attribute", name] => .attributeNamed (text name)
  | [.str "attributes"] => .attributes
  | [.str "count", name] => .count (text name)
  | [.str "elements"] => .elements
  | [.str "child_values", name] => .childValues (text name)
  | _ => .null

def transform (v : Vocabulary) (d : Data) : Transform :=
  match items d with
  | [.str "lower"] => .lower
  | [.str "upper"] => .upper
  | [.str "join", separator] => .join (text separator)
  | [.str "len"] => .length
  | [.str "wrap"] => .wrap
  | [.str "type"] => .kind
  | [.str "null"] => .null
  | [.str "const", d] => .const (v.value d)
  | [.str "fail"] => .fail
  | [.str "fail_if", d] => .failIf (v.value d)
  | _ => .unsupported

/-- a chain of names: one name, or a list of them -/
def chain : Data → List String
  | .str name => [name]
  | d => (items d).map text

mutual

def operation (v : Vocabulary) : Data → Operation String
  | .list (.str word :: arguments) =>
    match word with
    | "field" => .field (arguments.map text)
    | "fields" => .fields (arguments.map chain)
    | "path" => .path (text (arguments.headD .null))
    | "first_value" => .first
    | "last_value" => .last
    | "select" => .select (v.predicate (arguments.headD .null))
    | "reject" => .reject (v.predicate (arguments.headD .null))
    | "match_attribute" => .matchAttribute (text (arguments.headD .null)) (v.value (arguments.getD 1 .null))
    | "concat" => .concat (operand v arguments)
    | "map" => .map (function (arguments.headD .null))
    | _ => .values
  | _ => .values

/-- the expression that the first argument is -/
def operand (v : Vocabulary) : List Data → Expression String
  | .list ops :: _ => operations v ops
  | _ => []

def operations (v : Vocabulary) : List Data → Expression String
  | [] => []
  | d :: rest => operation v d :: operations v rest

end

/-! ## Assignments -/

def source (v : Vocabulary) (entries : List (String × Data)) : Source String :=
  match entries.lookup "literal", entries.lookup "expr", entries.lookup "compiled" with
  | some d, _, _ => .literal (v.value d)
  | _, some d, _ => .expression (v.operations (items d))
  | _, _, some p => .path (text p)
  | _, _, _ => .ofData (v.value (key entries "value"))

/-- the transform of a property, if it has one -/
def transform? (v : Vocabulary) (d : Data) : Option Transform :=
  match d with
  | .null => none
  | d => some (v.transform d)

mutual

def assignment (v : Vocabulary) : Data → Assignment String
  | .dict entries =>
    let name := text (key entries "name")
    let many := isTrue (key entries "many")
    if text (key entries "do") == "nested" then
      .nested name (v.cls ((text? (key entries "cls")).getD "Resource")) (text? (key entries "path")) many (block v entries)
    else .property name (v.source entries) (v.transform? (key entries "transform")) many
  | _ => .property "" (.literal .null) none false

/-- the block among entries -/
def block (v : Vocabulary) : List (String × Data) → List (Assignment String)
  | [] => []
  | (name, d) :: rest => if name == "block" then assignmentsIn v d else block v rest

def assignmentsIn (v : Vocabulary) : Data → List (Assignment String)
  | .list ds => assignments v ds
  | _ => []

def assignments (v : Vocabulary) : List Data → List (Assignment String)
  | [] => []
  | d :: rest => assignment v d :: assignments v rest

end

/-! ## Definitions -/

/-- the format with a name, where one is given -/
def format? (d : Data) : Except Failure (Option Format) :=
  match text? d with
  | none => .ok none
  | some name => (Format.ofName name).map some

/-- the class with a name, where one is given -/
def class? (v : Vocabulary) (d : Data) : Option ObjectClass :=
  (text? d).map v.cls

/-- the arguments of records, where they are given -/
def arguments? (v : Vocabulary) (d : Data) : Option (List Data) :=
  (items? d).map fun ds => ds.map v.value

def definition (v : Vocabulary) (entries : List (String × Data)) : Except Failure Definition :=
  (format? (key entries "parser")).map fun format? =>
    ⟨v.block entries, v.class? (key entries "cls"), format?, v.arguments? (key entries "parser_args")⟩

/-- what defaults become where a description of them says otherwise -/
def defaults (v : Vocabulary) (base : Defaults) (entries : List (String × Data)) : Except Failure Defaults :=
  (format? (key entries "parser")).map fun format? =>
    ⟨(v.class? (key entries "cls")).getD base.cls, format?.getD base.format,
      (v.arguments? (key entries "parser_args")).getD base.arguments⟩

/-- register a described mapping -/
def register (v : Vocabulary) (base : Defaults) (r : Registry) (entries : List (String × Data)) : Except Failure Registry :=
  match v.definition entries with
  | .error e => .error e
  | .ok d => (d.register base r (text (key entries "name"))).outcome.map Prod.fst

/-- register described mappings in order -/
def registerAll (v : Vocabulary) (base : Defaults) : Registry → List Data → Except Failure Registry
  | r, [] => .ok r
  | r, .dict entries :: rest => (v.register base r entries).bind fun r => registerAll v base r rest
  | r, _ :: rest => registerAll v base r rest

end Vocabulary

end Harvest
