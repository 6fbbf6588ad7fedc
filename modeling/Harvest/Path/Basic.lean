/-
Paths into a document. A path is a list of steps, kept with the expression it was read from:

  `$`              the node where the path starts
  `.name`          the children with a name
  `['name']`       the same, for any name without `'`
  `["name"]`       the same, for any name without `"`
  `.*`             every child
  `[*]`            every element of an array
  `[n]`            the element with the index `n`, from the end if it is negative
-/
namespace Harvest

inductive Step where
  | child (name : String)
  | wildcard
  | each
  | index (i : Int)
  deriving DecidableEq, Repr

structure Path where
  expression : String
  steps : List Step
  deriving DecidableEq, Repr

/-- the path that stays where it is -/
def Path.root : Path := ⟨"$", []⟩

/-- why an expression is no path; `position` counts the characters before the first one that belongs to no segment -/
inductive PathError where
  | notRooted (expression : String)
  | unexpected (expression : String) (position : Nat)
  deriving DecidableEq, Repr

def PathError.message : PathError → String
  | .notRooted expression => "Path '" ++ expression ++ "' must start with '$'"
  | .unexpected expression position =>
    "Invalid path '" ++ expression ++ "': unexpected input at position " ++ Nat.repr position

end Harvest
