/-
Places in a document. A place is the list of indices that leads to a part, and reading it from the top gives that part. What
a step finds from a node stands inside that node: its place goes on from the place of the node, and its content is the part
that stands there.

- `holds_of_mem_children`, `holds_of_mem_elements`: what looking up a name and taking the elements find stands inside.
- `Holds.trans`: so does what is found from there.
- `holds_of_mem_resolve`: a path leads only to nodes that stand inside the node where it starts.
-/
import Harvest.Node.Resolve
import Harvest.Proofs.Data.Parts

namespace Harvest

/-! ## Parts -/

namespace Content

/-- the part with an index: an item of a list, the value of an entry, a child element -/
def part? : Content → Nat → Option Content
  | .json (.list items), i => items[i]?.map json
  | .json (.dict entries), i => entries[i]?.map fun e => json e.2
  | .json _, _ => none
  | .xml ns element, i => element.children[i]?.map (xml ns)

/-- the part at a place -/
def at? (c : Content) (place : List Nat) : Option Content :=
  place.foldlM part? c

theorem at?_cons (c : Content) (i : Nat) (place : List Nat) : c.at? (i :: place) = (c.part? i).bind fun d => d.at? place :=
  List.foldlM_cons

theorem at?_singleton (c : Content) (i : Nat) : c.at? [i] = c.part? i := by
  rw [at?_cons]
  cases c.part? i <;> rfl

theorem at?_append (c : Content) (place more : List Nat) :
    c.at? (place ++ more) = (c.at? place).bind fun d => d.at? more :=
  List.foldlM_append

/-- the parts of a JSON tree are JSON trees; what holds of every part of the tree holds of every part of them -/
theorem exists_of_at?_json {d : Data} {place : List Nat} {c : Content} (h : (json d).at? place = some c) :
    ∃ e, c = json e ∧ ∀ p, d.all p = true → e.all p = true := by
  induction place generalizing d with
  | nil =>
    cases h
    exact ⟨d, rfl, fun _ hp => hp⟩
  | cons i rest ih =>
    rw [at?_cons] at h
    obtain ⟨b, hpart, hrest⟩ := Option.bind_eq_some_iff.1 h
    cases d with
    | list items =>
      obtain ⟨x, hx, rfl⟩ := Option.map_eq_some_iff.1 hpart
      obtain ⟨e, rfl, he⟩ := ih hrest
      exact ⟨e, rfl, fun p hp => he p ((Data.all_list_iff.1 hp).2 x (List.mem_of_getElem? hx))⟩
    | dict entries =>
      obtain ⟨x, hx, rfl⟩ := Option.map_eq_some_iff.1 hpart
      obtain ⟨e, rfl, he⟩ := ih hrest
      exact ⟨e, rfl, fun p hp => he p ((Data.all_dict_iff.1 hp).2 x (List.mem_of_getElem? hx))⟩
    | _ => cases hpart

/-- the parts of an XML element are XML elements, read with the same namespaces -/
theorem exists_of_at?_xml {ns : Xml.Namespaces} {element : Xml.Element} {place : List Nat} {c : Content}
    (h : (xml ns element).at? place = some c) : ∃ e, c = xml ns e := by
  induction place generalizing element with
  | nil =>
    cases h
    exact ⟨element, rfl⟩
  | cons i rest ih =>
    rw [at?_cons] at h
    obtain ⟨b, hpart, hrest⟩ := Option.bind_eq_some_iff.1 h
    obtain ⟨x, -, rfl⟩ := Option.map_eq_some_iff.1 hpart
    exact ih hrest

end Content

/-- the node stands inside the other one, or is that node -/
structure Node.Holds (top n : Node) : Prop where
  document : n.document = top.document
  placed : ∃ below, n.place = top.place ++ below ∧ top.content.at? below = some n.content

/-! ## Numbered items -/

theorem Data.mem_numbered_iff {α : Type} {items : List α} {e : Nat × α} :
    e ∈ numbered items ↔ items[e.1]? = some e.2 := by
  rw [numbered, List.mem_map]
  constructor
  · rintro ⟨x, hx, rfl⟩
    exact List.mem_zipIdx_iff_getElem?.1 hx
  · intro he
    exact ⟨e.swap, List.mem_zipIdx_iff_getElem?.2 he, rfl⟩

/-! ## JSON trees -/

namespace Data

mutual

theorem at?_of_firstLeaf? (d : Data) {place : List Nat} {leaf : Data} (h : d.firstLeaf? = some (place, leaf)) :
    (Content.json d).at? place = some (.json leaf) := by
  match d with
  | list items =>
    rw [firstLeaf?] at h
    obtain ⟨j, rest, item, rfl, hitem, hrest⟩ := at?_of_firstLeafFrom? items 0 h
    rw [Nat.zero_add, Content.at?_cons, Content.part?, hitem]
    exact hrest
  | null | bool _ | int _ | float _ | str _ | bytes _ | dict _ | object _ _ =>
    cases h
    rfl

theorem at?_of_firstLeafFrom? (items : List Data) (i : Nat) {place : List Nat} {leaf : Data}
    (h : firstLeafFrom? i items = some (place, leaf)) :
    ∃ j rest item, place = (i + j) :: rest ∧ items[j]? = some item ∧ (Content.json item).at? rest = some (.json leaf) := by
  match items with
  | [] => cases h
  | x :: xs =>
    rw [firstLeafFrom?] at h
    cases hx : x.firstLeaf? with
    | some found =>
      obtain ⟨rest, d⟩ := found
      simp only [hx, Option.some.injEq, Prod.mk.injEq] at h
      obtain ⟨rfl, rfl⟩ := h
      exact ⟨0, rest, x, rfl, rfl, at?_of_firstLeaf? x hx⟩
    | none =>
      simp only [hx] at h
      obtain ⟨j, rest, item, rfl, hitem, hrest⟩ := at?_of_firstLeafFrom? xs (i + 1) h
      refine ⟨j + 1, rest, item, ?_, by simpa using hitem, hrest⟩
      rw [Nat.add_assoc, Nat.add_comm 1]

end

/-- spreading gives parts of what is spread, with their places -/
theorem at?_of_mem_spread {top : List Nat} {d : Data} {e : List Nat × Data} (h : e ∈ spread top d) :
    ∃ below, e.1 = top ++ below ∧ (Content.json d).at? below = some (.json e.2) := by
  unfold spread at h
  split at h
  · obtain ⟨c, hc, rfl⟩ := List.mem_map.1 h
    have hitem := mem_numbered_iff.1 (List.mem_filter.1 hc).1
    exact ⟨[c.1], rfl, by rw [Content.at?_singleton, Content.part?, hitem]; rfl⟩
  · split at h
    · cases h
    · obtain rfl := List.mem_singleton.1 h
      exact ⟨[], (List.append_nil top).symm, rfl⟩

theorem at?_of_mem_childrenNamed {d : Data} {name : String} {e : List Nat × Data} (h : e ∈ d.childrenNamed name) :
    (Content.json d).at? e.1 = some (.json e.2) := by
  unfold childrenNamed at h
  split at h
  · rename_i place entries hleaf
    split at h
    · rename_i i key child hfind
      obtain ⟨below, hplace, hbelow⟩ := at?_of_mem_spread h
      have hentry : entries[i]? = some (key, child) := mem_numbered_iff.1 (List.mem_of_find?_eq_some hfind)
      rw [hplace, List.append_assoc, Content.at?_append, at?_of_firstLeaf? d hleaf, List.singleton_append]
      simp only [Option.bind_some, Content.at?_cons, Content.part?, hentry, Option.map_some]
      exact hbelow
    · cases h
  · cases h

theorem at?_of_mem_elements {items : List Data} {e : List Nat × Data} (h : e ∈ elements items) :
    (Content.json (.list items)).at? e.1 = some (.json e.2) := by
  obtain ⟨c, hc, rfl⟩ := List.mem_map.1 h
  have hitem := mem_numbered_iff.1 (List.mem_filter.1 hc).1
  rw [Content.at?_singleton, Content.part?, hitem]
  rfl

end Data

/-! ## Nodes -/

namespace Node

theorem Holds.refl (n : Node) : n.Holds n :=
  ⟨rfl, [], (List.append_nil n.place).symm, rfl⟩

theorem Holds.trans {a b c : Node} (first : a.Holds b) (second : b.Holds c) : a.Holds c := by
  obtain ⟨hdocument, below, hplace, hbelow⟩ := first
  obtain ⟨hdocument', below', hplace', hbelow'⟩ := second
  refine ⟨hdocument'.trans hdocument, below ++ below', ?_, ?_⟩
  · rw [hplace', hplace, List.append_assoc]
  · rw [Content.at?_append, hbelow, Option.bind_some, hbelow']

theorem holds_below {n : Node} {place : List Nat} {content : Content} (h : n.content.at? place = some content) :
    n.Holds (n.below place content) :=
  ⟨rfl, place, rfl, h⟩

theorem holds_of_mem_children {n m : Node} {name : String} (h : m ∈ n.children name) : n.Holds m := by
  unfold children at h
  split at h
  · rename_i tree htree
    obtain ⟨c, hc, rfl⟩ := List.mem_map.1 h
    exact holds_below (by rw [htree, Data.at?_of_mem_childrenNamed hc])
  · rename_i ns element helement
    obtain ⟨c, hc, rfl⟩ := List.mem_map.1 h
    have hchild := Data.mem_numbered_iff.1 (List.mem_filter.1 hc).1
    exact holds_below (by rw [helement, Content.at?_singleton, Content.part?, hchild]; rfl)

theorem holds_of_mem_elements {n m : Node} (h : m ∈ n.elements) : n.Holds m := by
  unfold elements at h
  split at h
  · rename_i items hitems
    obtain ⟨e, he, rfl⟩ := List.mem_map.1 h
    exact holds_below (by rw [hitems, Data.at?_of_mem_elements he])
  · obtain rfl := List.mem_singleton.1 h
    exact .refl m

/-- nodes inside a JSON node are JSON nodes -/
theorem Holds.json {n m : Node} (inside : n.Holds m) {top : Data} (json : n.content = .json top) :
    ∃ tree, m.content = .json tree ∧ ∀ q, top.all q = true → tree.all q = true := by
  obtain ⟨-, below, -, hat⟩ := inside
  rw [json] at hat
  exact Content.exists_of_at?_json hat

/-- nodes inside an XML node are XML nodes, read with the same namespaces -/
theorem Holds.xml {n m : Node} (inside : n.Holds m) {ns : Xml.Namespaces} {top : Xml.Element}
    (xml : n.content = .xml ns top) : ∃ element, m.content = .xml ns element := by
  obtain ⟨-, below, -, hat⟩ := inside
  rw [xml] at hat
  exact Content.exists_of_at?_xml hat

/-- every mapping in the tree of a JSON node has each key once -/
def IsKeyed (n : Node) : Prop :=
  ∀ tree, n.content = .json tree → tree.isKeyed = true

theorem Holds.isKeyed {n m : Node} (inside : n.Holds m) (keyed : n.IsKeyed) : m.IsKeyed := by
  intro tree htree
  cases hcontent : n.content with
  | json top =>
    obtain ⟨e, same, hparts⟩ := inside.json hcontent
    cases htree.symm.trans same
    exact hparts _ (keyed top hcontent)
  | xml ns element =>
    obtain ⟨e, same⟩ := inside.xml hcontent
    cases htree.symm.trans same

end Node

/-- what a step finds stands inside one of the nodes it starts from -/
theorem Step.holds_of_mem_apply {step : Step} {nodes : List Node} {m : Node} (h : m ∈ step.apply nodes) :
    ∃ n ∈ nodes, n.Holds m := by
  have helements : m ∈ nodes.flatMap Node.elements → ∃ n ∈ nodes, n.Holds m := by
    intro hm
    obtain ⟨n, hn, hfound⟩ := List.mem_flatMap.1 hm
    exact ⟨n, hn, Node.holds_of_mem_elements hfound⟩
  cases step with
  | child name =>
    obtain ⟨n, hn, hfound⟩ := List.mem_flatMap.1 h
    exact ⟨n, hn, Node.holds_of_mem_children hfound⟩
  | wildcard =>
    obtain ⟨n, hn, hfound⟩ := List.mem_flatMap.1 h
    obtain ⟨name, -, hnamed⟩ := List.mem_flatMap.1 hfound
    exact ⟨n, hn, Node.holds_of_mem_children hnamed⟩
  | each => exact helements h
  | index i => exact helements (mem_of_pick? (Option.mem_toList.1 h))

/-- steps lead only to nodes inside the top, if they start there -/
theorem holds_of_mem_resolveSteps {top : Node} (steps : List Step) {nodes : List Node} (inside : ∀ n ∈ nodes, top.Holds n) :
    ∀ m ∈ resolveSteps steps nodes, top.Holds m := by
  induction steps generalizing nodes with
  | nil => exact inside
  | cons step rest ih =>
    rw [resolveSteps_cons]
    refine ih fun m hm => ?_
    obtain ⟨n, hn, hfound⟩ := Step.holds_of_mem_apply hm
    exact (inside n hn).trans hfound

/-- a path leads only to nodes that stand inside the node where it starts -/
theorem holds_of_mem_resolve {p : Path} {start m : Node} (h : m ∈ p.resolve start) : start.Holds m := by
  refine holds_of_mem_resolveSteps p.steps (fun n hn => ?_) m h
  obtain rfl := List.mem_singleton.1 hn
  exact .refl n

end Harvest
