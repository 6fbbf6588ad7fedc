/-
Arrays of nodes, and resolving a path: each step turns an array of nodes into the next one. Nothing here can fail.

Steps work on whole arrays, so a list of steps may be cut anywhere: resolving the parts in turn is resolving the whole.
-/
import Harvest.Node.Basic

namespace Harvest

/-- the item with an index, counted from the end if it is negative -/
def pick? {α : Type} (items : List α) (i : Int) : Option α :=
  if 0 ≤ i then items[i.toNat]?
  else if (-i).toNat ≤ items.length then items[items.length - (-i).toNat]?
  else none

theorem mem_of_pick? {α : Type} {items : List α} {i : Int} {x : α} (h : pick? items i = some x) : x ∈ items := by
  unfold pick? at h
  split at h
  · exact List.mem_of_getElem? h
  · split at h
    · exact List.mem_of_getElem? h
    · cases h

theorem pick?_map {α β : Type} (f : α → β) (items : List α) (i : Int) :
    pick? (items.map f) i = (pick? items i).map f := by
  simp only [pick?, List.getElem?_map, List.length_map]
  split
  · rfl
  · split <;> rfl

/-- the children with the first name of the children with the names before it, from every node -/
def followNames (nodes : List Node) (names : List String) : List Node :=
  names.foldl (fun current name => current.flatMap fun n => n.children name) nodes

/-- what one step makes of an array of nodes -/
def Step.apply (step : Step) (nodes : List Node) : List Node :=
  match step with
  | .child name => nodes.flatMap fun n => n.children name
  | .wildcard => nodes.flatMap fun n => n.childNames.flatMap n.children
  | .each => nodes.flatMap Node.elements
  | .index i => (pick? (nodes.flatMap Node.elements) i).toList

/-- what a list of steps makes of an array of nodes; an empty array ends it -/
def resolveSteps : List Step → List Node → List Node
  | [], nodes => nodes
  | step :: rest, nodes =>
    match step.apply nodes with
    | [] => []
    | found => resolveSteps rest found

/-- no step finds anything in an empty array -/
theorem Step.apply_nil (step : Step) : step.apply [] = [] := by
  cases step with
  | child name => rfl
  | wildcard => rfl
  | each => rfl
  | index i =>
    by_cases h : 0 ≤ i
    · simp [Step.apply, pick?, h]
    · have hi : ¬(-i).toNat ≤ 0 := by omega
      simp [Step.apply, pick?, h, hi]

theorem resolveSteps_cons (step : Step) (rest : List Step) (nodes : List Node) :
    resolveSteps (step :: rest) nodes = resolveSteps rest (step.apply nodes) := by
  rw [resolveSteps]
  split
  · rename_i h
    rw [h]
    cases rest with
    | nil => rfl
    | cons next rest => simp [resolveSteps, Step.apply_nil]
  · rfl

/-- resolving steps is applying them one after the other -/
theorem resolveSteps_eq_foldl (steps : List Step) (nodes : List Node) :
    resolveSteps steps nodes = steps.foldl (fun found step => step.apply found) nodes := by
  induction steps generalizing nodes with
  | nil => rfl
  | cons step rest ih => rw [resolveSteps_cons, ih, List.foldl_cons]

theorem resolveSteps_append (steps more : List Step) (nodes : List Node) :
    resolveSteps (steps ++ more) nodes = resolveSteps more (resolveSteps steps nodes) := by
  simp only [resolveSteps_eq_foldl, List.foldl_append]

/-- the nodes that a path leads to from a node -/
def Path.resolve (path : Path) (start : Node) : List Node :=
  resolveSteps path.steps [start]

/-- the first node that a path leads to -/
def Path.first? (path : Path) (start : Node) : Option Node :=
  (path.resolve start).head?

end Harvest
