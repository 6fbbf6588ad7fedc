/-
Assignments: what a mapping says about one property. A property gets its value from a source, or, if it is nested, objects
of its own, one for each node that its path leads to.

The type of paths is a parameter, as for expressions: `compile` reads the paths of an assignment that is written.
-/
import Harvest.Data.Object
import Harvest.Mapping.Operation
import Harvest.Mapping.Run

namespace Harvest

/-- where a value comes from -/
inductive Source (π : Type) where
  | path (p : π)
  | literal (d : Data)
  | expression (ops : Expression π)
  deriving Inhabited

/-- a text that starts as a path is one; any other data stands for itself -/
def Source.ofData : Data → Source String
  | .str s => if Path.isRooted s then .path s else .literal (.str s)
  | d => .literal d

inductive Assignment (π : Type) where
  | property (name : String) (source : Source π) (transform : Option Transform) (many : Bool)
  | nested (name : String) (cls : ObjectClass) (path : Option π) (many : Bool) (body : List (Assignment π))
  deriving Inhabited

def Assignment.name {π : Type} : Assignment π → String
  | property name _ _ _ => name
  | nested name _ _ _ _ => name

mutual

/-- all properties of an object are assigned at once, by the assignment or inside it at any depth -/
def Assignment.replacesAll {π : Type} : Assignment π → Bool
  | .property name _ _ _ => name == ObjectClass.propertiesSlot
  | .nested name _ _ _ body => name == ObjectClass.propertiesSlot || Assignment.anyReplacesAll body

def Assignment.anyReplacesAll {π : Type} : List (Assignment π) → Bool
  | [] => false
  | a :: rest => Assignment.replacesAll a || Assignment.anyReplacesAll rest

end

/-! ## Reading paths -/

def Source.compile : Source String → Except PathError (Source Path)
  | .path text => (Path.read text).map .path
  | .literal d => .ok (.literal d)
  | .expression ops => (Operation.compileAll ops).map .expression

/-- the path of a nested property, which may have none -/
def compilePath? : Option String → Except PathError (Option Path)
  | none => .ok none
  | some text => (Path.read text).map some

mutual

/-- the body of a nested property is read before its path -/
def Assignment.compile : Assignment String → Except PathError (Assignment Path)
  | .property name source transform many =>
    source.compile.map fun source => .property name source transform many
  | .nested name cls path? many body =>
    match Assignment.compileAll body with
    | .error e => .error e
    | .ok body => (compilePath? path?).map fun path? => .nested name cls path? many body

def Assignment.compileAll : List (Assignment String) → Except PathError (List (Assignment Path))
  | [] => .ok []
  | a :: rest =>
    match Assignment.compile a with
    | .error e => .error e
    | .ok a => (Assignment.compileAll rest).map (a :: ·)

end

/-! ## Values -/

/-- what a source gives in a context -/
def Source.evaluate (context : Node) : Source Path → Except Failure Resolved
  | .path p => .ok (.array ((p.resolve context).map .node))
  | .literal d => .ok (.plain d)
  | .expression ops => Operation.evaluate ops context

/-- one value stands alone unless many are asked for -/
def unwrapItems (many : Bool) (items : List Data) : Option Data :=
  match items with
  | [] => none
  | [d] => some (if many then .list [d] else d)
  | items => some (.list items)

/-- the plain value that a result stands for; an empty list stands for none, and null values of nodes do not count -/
def Resolved.unwrap (many : Bool) : Resolved → Except Failure (Option Data)
  | .plain (.list []) => .ok none
  | .plain (.list items) => .ok (some (.list items))
  | .plain d => .ok (some (if many then .list [d] else d))
  | .array items =>
    match Item.values items with
    | .error e => .error e
    | .ok values => .ok (unwrapItems many (values.filter (!·.isNull)))

/-! ## Applying assignments -/

/-- hand a value to a transform, if there is one -/
def transformed (transform? : Option Transform) (d : Data) : Run Data :=
  match transform? with
  | none => .done d
  | some t => ⟨[.called t d], t.apply d⟩

/-- the value of a property, if its source gives one in the context; `record` names the record -/
def Assignment.propertyValue (record : String) (context : Node) (name : String) (source : Source Path)
    (transform? : Option Transform) (many : Bool) : Run (Option Data) :=
  (Run.ofExcept (source.evaluate context)).bind fun resolved =>
    (Run.ofExcept (resolved.unwrap many)).bind fun
      | none => ⟨[.noValue name record], .ok none⟩
      | some d => (transformed transform? d).map some

/-- the nodes that a nested property is built from; without a path, the context alone -/
def nestedContexts (context : Node) : Option Path → List Node
  | none => [context]
  | some p => p.resolve context

/-- the value of a nested property with these objects -/
def nestedValue (record name : String) (many : Bool) (objects : List Data) : Run (Option Data) :=
  match objects with
  | [] => ⟨[.noNodes name record], .ok none⟩
  | objects => .done (unwrapItems many objects)

/-- set a property of an object of a class if there is a value for it -/
def assign (cls : ObjectClass) (properties : List (String × Data)) (name : String) :
    Option Data → Except Failure (List (String × Data))
  | none => .ok properties
  | some d => cls.set properties name d

mutual

/-- the value that an assignment gives to its property in a context, if there is one -/
def Assignment.evaluate (record : String) (context : Node) : Assignment Path → Run (Option Data)
  | .property name source transform? many => Assignment.propertyValue record context name source transform? many
  | .nested name cls path? many body =>
    (Run.each (fun n => (Assignment.applyAll record n cls body []).map (Data.object cls)) (nestedContexts context path?)).bind
      fun objects => nestedValue record name many objects

/-- the properties of an object of a class after assignments in order -/
def Assignment.applyAll (record : String) (context : Node) (cls : ObjectClass) :
    List (Assignment Path) → List (String × Data) → Run (List (String × Data))
  | [], properties => .done properties
  | a :: rest, properties =>
    (Assignment.evaluate record context a).bind fun value? =>
      (Run.ofExcept (assign cls properties a.name value?)).bind fun properties =>
        Assignment.applyAll record context cls rest properties

end

end Harvest
