/-
Null nodes. Null is left out where children are looked up and where the elements of an array are taken, so from a node other than
null no path leads to null. In a null node there is nothing: a step leads nowhere from it, or stays there.

- `not_isNull_of_mem_children`, `not_isNull_of_mem_elements`: what is found in a node.
- `Step.present_apply`, `present_resolveSteps`: what steps make of nodes other than null.
- `resolve_leaf`: what a path makes of a node with nothing in it, of null as of an element without children.
-/
import Harvest.Node.Resolve

namespace Harvest

/-! ## Looking inside -/

namespace Data

theorem ne_null_of_isNull {d : Data} (present : (!d.isNull) = true) : d ≠ .null := by
  rintro rfl
  cases present

theorem ne_null_of_mem_spread {place : List Nat} {d : Data} {e : List Nat × Data} (h : e ∈ spread place d) :
    e.2 ≠ .null := by
  unfold spread at h
  split at h
  · obtain ⟨c, hc, rfl⟩ := List.mem_map.1 h
    exact ne_null_of_isNull (List.mem_filter.1 hc).2
  · split at h
    · cases h
    · rename_i hd
      obtain rfl := List.mem_singleton.1 h
      exact ne_null_of_isNull (by simpa using hd)

theorem ne_null_of_mem_childrenNamed {d : Data} {name : String} {e : List Nat × Data} (h : e ∈ d.childrenNamed name) :
    e.2 ≠ .null := by
  unfold childrenNamed at h
  split at h
  · split at h
    · exact ne_null_of_mem_spread h
    · cases h
  · cases h

theorem ne_null_of_mem_elements {items : List Data} {e : List Nat × Data} (h : e ∈ elements items) : e.2 ≠ .null := by
  obtain ⟨c, hc, rfl⟩ := List.mem_map.1 h
  exact ne_null_of_isNull (List.mem_filter.1 hc).2

end Data

namespace Node

/-- the node is null; no XML element is -/
def IsNull (n : Node) : Prop :=
  n.content = .json .null

variable {n m : Node} {name : String}

theorem not_isNull_of_xml {ns : Xml.Namespaces} {element : Xml.Element} (xml : n.content = .xml ns element) : ¬n.IsNull := by
  intro null
  rw [IsNull, xml] at null
  cases null

/-- a node with JSON data other than null is not null -/
theorem not_isNull_below {place : List Nat} {d : Data} (present : d ≠ .null) : ¬(n.below place (.json d)).IsNull := by
  intro null
  exact present (Content.json.inj null)

/-- no child is null, whatever the node is -/
theorem not_isNull_of_mem_children (h : m ∈ n.children name) : ¬m.IsNull := by
  unfold children at h
  split at h
  · obtain ⟨c, hc, rfl⟩ := List.mem_map.1 h
    exact not_isNull_below (Data.ne_null_of_mem_childrenNamed hc)
  · obtain ⟨c, -, rfl⟩ := List.mem_map.1 h
    exact not_isNull_of_xml rfl

/-- no element is null, unless a null node is taken for its own -/
theorem not_isNull_of_mem_elements (present : ¬n.IsNull) (h : m ∈ n.elements) : ¬m.IsNull := by
  unfold elements at h
  split at h
  · obtain ⟨e, he, rfl⟩ := List.mem_map.1 h
    exact not_isNull_below (Data.ne_null_of_mem_elements he)
  · obtain rfl := List.mem_singleton.1 h
    exact present

end Node

/-! ## From nodes other than null -/

/-- a step finds no null in nodes other than null -/
theorem Step.present_apply {step : Step} {nodes : List Node} (present : ∀ n ∈ nodes, ¬n.IsNull) :
    ∀ m ∈ step.apply nodes, ¬m.IsNull := by
  intro m h
  have helements : m ∈ nodes.flatMap Node.elements → ¬m.IsNull := by
    intro hm
    obtain ⟨n, hn, hfound⟩ := List.mem_flatMap.1 hm
    exact Node.not_isNull_of_mem_elements (present n hn) hfound
  cases step with
  | child name =>
    obtain ⟨n, -, hfound⟩ := List.mem_flatMap.1 h
    exact Node.not_isNull_of_mem_children hfound
  | wildcard =>
    obtain ⟨n, -, hfound⟩ := List.mem_flatMap.1 h
    obtain ⟨name, -, hnamed⟩ := List.mem_flatMap.1 hfound
    exact Node.not_isNull_of_mem_children hnamed
  | each => exact helements h
  | index i => exact helements (mem_of_pick? (Option.mem_toList.1 h))

theorem present_resolveSteps (steps : List Step) {nodes : List Node} (present : ∀ n ∈ nodes, ¬n.IsNull) :
    ∀ m ∈ resolveSteps steps nodes, ¬m.IsNull := by
  induction steps generalizing nodes with
  | nil => exact present
  | cons step rest ih =>
    rw [resolveSteps_cons]
    exact ih (Step.present_apply present)

theorem Path.present_resolve (p : Path) {start : Node} (present : ¬start.IsNull) : ∀ m ∈ p.resolve start, ¬m.IsNull :=
  present_resolveSteps p.steps (List.forall_mem_singleton.2 present)

/-! ## From a node with nothing in it -/

/-- there is nothing in the node: it has no children, and is no array but its own element -/
structure Node.IsLeaf (n : Node) : Prop where
  elements : n.elements = [n]
  childNames : n.childNames = []
  children : ∀ name, n.children name = []

theorem Node.IsNull.isLeaf {n : Node} (null : n.IsNull) : n.IsLeaf := by
  unfold IsNull at null
  refine ⟨?_, ?_, fun name => ?_⟩
  · simp only [Node.elements, null]
  · simp only [Node.childNames, null, Data.childNames]
  · simp only [Node.children, null, Data.childrenNamed, Data.firstLeaf?, List.map_nil]

/-- the step stays at a node with nothing in it: it takes its elements, or the first or the last one -/
def Step.stays : Step → Bool
  | .child _ => false
  | .wildcard => false
  | .each => true
  | .index i => i == 0 || i == -1

theorem Step.stays_iff {step : Step} : step.stays = true ↔ step = .each ∨ step = .index 0 ∨ step = .index (-1) := by
  cases step with
  | index i => simp [stays]
  | _ => simp [stays]

theorem pick?_singleton {α : Type} (a : α) (i : Int) : pick? [a] i = if i = 0 ∨ i = -1 then some a else none := by
  unfold pick?
  split
  · rename_i h
    by_cases hi : i = 0
    · simp [hi]
    · rw [if_neg (by omega), List.getElem?_eq_none_iff, List.length_singleton]
      omega
  · rename_i h
    by_cases hi : i = -1
    · simp [hi]
    · rw [if_neg (by rw [List.length_singleton]; omega), if_neg (by omega)]

/-- from a node with nothing in it a step leads nowhere, or stays there -/
theorem Step.apply_leaf {n : Node} (leaf : n.IsLeaf) (step : Step) :
    step.apply [n] = if step.stays then [n] else [] := by
  cases step with
  | child name => rw [Step.apply, List.flatMap_singleton, leaf.children]; rfl
  | wildcard => rw [Step.apply, List.flatMap_singleton, leaf.childNames]; rfl
  | each => rw [Step.apply, List.flatMap_singleton, leaf.elements]; rfl
  | index i =>
    rw [Step.apply, List.flatMap_singleton, leaf.elements, pick?_singleton, stays]
    by_cases hi : i = 0 ∨ i = -1 <;> simp [hi]

theorem resolveSteps_leaf {n : Node} (leaf : n.IsLeaf) (steps : List Step) :
    resolveSteps steps [n] = if steps.all Step.stays then [n] else [] := by
  induction steps with
  | nil => rfl
  | cons step rest ih =>
    rw [resolveSteps, Step.apply_leaf leaf, List.all_cons]
    cases step.stays with
    | true => exact ih
    | false => rfl

/-- a path leads nowhere from a node with nothing in it, or all its steps stay there -/
theorem Path.resolve_leaf (p : Path) {start : Node} (leaf : start.IsLeaf) :
    p.resolve start = if p.steps.all Step.stays then [start] else [] :=
  resolveSteps_leaf leaf p.steps

end Harvest
