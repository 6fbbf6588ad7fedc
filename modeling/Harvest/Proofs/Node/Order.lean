/-
The order of what a path finds. Places are compared index by index, as a reader goes through the document; a place that goes on
from another one lies inside it. Steps keep a list of places in order, with none inside another: what they find from a node
lies inside that node, so nodes that precede each other lead to nodes that precede each other.

The wildcard takes the children of an XML element name by name, so it keeps no order there.

- `inOrder_flatMap`: what is found from nodes in order is in order, if what is found from each of them is.
- `inOrder_apply`: a step keeps the order.
- `resolve_in_order`: a path leads to different places inside the node where it starts, in document order, none inside another.
-/
import Harvest.Proofs.Document
import Harvest.Proofs.Node.Place
import Mathlib.Data.List.Basic

namespace Harvest

/-! ## Places in order -/

/-- the places part at some index, and the first one goes on with the smaller index there -/
def Precedes (a b : List Nat) : Prop :=
  ∃ common i j more others, a = common ++ i :: more ∧ b = common ++ j :: others ∧ i < j

namespace Precedes

variable {a b : List Nat}

theorem of_lt {i j : Nat} (h : i < j) (top more others : List Nat) : Precedes (top ++ i :: more) (top ++ j :: others) :=
  ⟨top, i, j, more, others, rfl, rfl, h⟩

/-- places inside the two are in the same order -/
theorem append (h : Precedes a b) (more others : List Nat) : Precedes (a ++ more) (b ++ others) := by
  obtain ⟨common, i, j, rest, rest', rfl, rfl, hij⟩ := h
  exact ⟨common, i, j, rest ++ more, rest' ++ others, by simp, by simp, hij⟩

theorem below (h : Precedes a b) (top : List Nat) : Precedes (top ++ a) (top ++ b) := by
  obtain ⟨common, i, j, more, others, rfl, rfl, hij⟩ := h
  exact ⟨top ++ common, i, j, more, others, by simp, by simp, hij⟩

theorem lt (h : Precedes a b) : a < b := by
  obtain ⟨common, i, j, more, others, rfl, rfl, hij⟩ := h
  exact List.append_left_lt (List.cons_lt_cons_iff.2 (.inl hij))

theorem not_inside (h : Precedes a b) : ¬a <+: b ∧ ¬b <+: a := by
  obtain ⟨common, i, j, more, others, rfl, rfl, hij⟩ := h
  rw [List.prefix_append_right_inj, List.prefix_append_right_inj, List.cons_prefix_cons, List.cons_prefix_cons]
  exact ⟨fun h => by omega, fun h => by omega⟩

end Precedes

/-- the nodes stand in document order, and none of them inside another -/
def InOrder (nodes : List Node) : Prop :=
  nodes.Pairwise fun m n => Precedes m.place n.place

/-- what is found inside nodes in order is in order, if what is found from each of them is -/
theorem inOrder_flatMap {nodes : List Node} {f : Node → List Node} (ordered : InOrder nodes)
    (inside : ∀ n ∈ nodes, ∀ m ∈ f n, n.Holds m) (each : ∀ n ∈ nodes, InOrder (f n)) : InOrder (nodes.flatMap f) := by
  refine List.pairwise_flatMap.2 ⟨each, ordered.imp_of_mem ?_⟩
  intro m n hm hn hmn x hx y hy
  obtain ⟨-, below, hplace, -⟩ := inside m hm x hx
  obtain ⟨-, below', hplace', -⟩ := inside n hn y hy
  rw [hplace, hplace']
  exact hmn.append below below'

/-! ## Numbered items -/

namespace Data

theorem pairwise_numbered {α : Type} (items : List α) : (numbered items).Pairwise fun a b => a.1 < b.1 := by
  have hindices : (numbered items).map Prod.fst = List.range' 0 items.length := by
    rw [numbered, List.map_map]
    exact List.zipIdx_map_snd 0 items
  have hrange := List.pairwise_lt_range' (s := 0) (n := items.length)
  rw [← hindices, List.pairwise_map] at hrange
  exact hrange

/-- items that are kept, each at its index below a place -/
theorem precedes_placed {α β : Type} (keep : Nat × α → Bool) (f : Nat × α → List Nat × β) (top : List Nat) (items : List α)
    (placed : ∀ e, (f e).1 = top ++ [e.1]) :
    (((numbered items).filter keep).map f).Pairwise fun a b => Precedes a.1 b.1 := by
  refine List.pairwise_map.2 (((pairwise_numbered items).filter keep).imp fun hlt => ?_)
  rw [placed, placed]
  exact .of_lt hlt top [] []

theorem precedes_spread (top : List Nat) (d : Data) : (spread top d).Pairwise fun a b => Precedes a.1 b.1 := by
  unfold spread
  split
  · exact precedes_placed _ _ top _ fun _ => rfl
  · split
    · exact .nil
    · exact List.pairwise_singleton _ _

theorem precedes_childrenNamed (d : Data) (name : String) :
    (d.childrenNamed name).Pairwise fun a b => Precedes a.1 b.1 := by
  unfold childrenNamed
  split
  · split
    · exact precedes_spread _ _
    · exact .nil
  · exact .nil

theorem precedes_elements (items : List Data) : (elements items).Pairwise fun a b => Precedes a.1 b.1 :=
  precedes_placed _ _ [] items fun _ => rfl

/-- with each key once, looking up the key of an entry finds that entry -/
theorem childrenNamed_of_mem {entries : List (String × Data)} (distinct : (Entries.keys entries).Nodup)
    {e : Nat × String × Data} (he : e ∈ numbered entries) :
    (dict entries).childrenNamed e.2.1 = spread [e.1] e.2.2 := by
  have hfound : ((numbered entries).find? fun x => x.2.1 == e.2.1) = some e := by
    have hsome : ((numbered entries).find? fun x => x.2.1 == e.2.1).isSome :=
      List.find?_isSome.2 ⟨e, he, beq_self_eq_true e.2.1⟩
    obtain ⟨x, hx⟩ := Option.isSome_iff_exists.1 hsome
    have hkey := List.find?_some hx
    rw [beq_iff_eq] at hkey
    have hplaced := mem_numbered_iff.1 (List.mem_of_find?_eq_some hx)
    have hplaced' := mem_numbered_iff.1 he
    have hkeys : (Entries.keys entries)[x.1]? = (Entries.keys entries)[e.1]? := by
      rw [Entries.keys, List.getElem?_map, List.getElem?_map, hplaced, hplaced', Option.map_some, Option.map_some, hkey]
    have hbound : x.1 < (Entries.keys entries).length := by
      rw [Entries.keys, List.length_map]
      exact (List.getElem?_eq_some_iff.1 hplaced).1
    have hindex : x.1 = e.1 := (List.getElem?_inj hbound distinct).1 hkeys
    rw [hindex] at hplaced
    have hentry : x.2 = e.2 := Option.some.inj (hplaced.symm.trans hplaced')
    rw [hx, Prod.ext hindex hentry]
  have hleaf : (dict entries).firstLeaf? = some ([], dict entries) := by simp [firstLeaf?]
  rw [childrenNamed, hleaf]
  simp only [hfound, List.nil_append]

/-- the entries of a mapping with each key once, spread out key by key, stand in order -/
theorem precedes_everyChild {d : Data} (keyed : d.isKeyed = true) :
    (d.childNames.flatMap d.childrenNamed).Pairwise fun a b => Precedes a.1 b.1 := by
  cases d with
  | dict entries =>
    have distinct := (isKeyed_dict_iff.1 keyed).1
    have hentries : (dict entries).childNames.flatMap (dict entries).childrenNamed =
        (numbered entries).flatMap fun e => spread [e.1] e.2.2 := by
      have hkeys : (dict entries).childNames = (numbered entries).map fun e => e.2.1 := by
        rw [childNames, Entries.keys, numbered, List.map_map]
        exact (congrArg (List.map Prod.fst) (List.zipIdx_map_fst 0 entries)).symm.trans (List.map_map ..)
      rw [hkeys, List.flatMap_map]
      exact List.flatMap_congr fun e he => childrenNamed_of_mem distinct he
    rw [hentries]
    refine List.pairwise_flatMap.2 ⟨fun e _ => precedes_spread _ _, (pairwise_numbered entries).imp ?_⟩
    intro a b hlt x hx y hy
    obtain ⟨below, hplace, -⟩ := at?_of_mem_spread hx
    obtain ⟨below', hplace', -⟩ := at?_of_mem_spread hy
    rw [hplace, hplace']
    exact .of_lt hlt [] below below'
  | _ => exact .nil

end Data

/-! ## Steps -/

namespace Node

theorem inOrder_below (n : Node) {found : List (List Nat × Data)} (ordered : found.Pairwise fun a b => Precedes a.1 b.1) :
    InOrder (found.map fun c => n.below c.1 (.json c.2)) :=
  List.pairwise_map.2 (ordered.imp fun h => h.below n.place)

theorem inOrder_children (n : Node) (name : String) : InOrder (n.children name) := by
  unfold children
  split
  · exact inOrder_below n (Data.precedes_childrenNamed _ name)
  · rename_i ns element _
    refine List.pairwise_map.2 (((Data.pairwise_numbered element.children).filter _).imp fun hlt => ?_)
    exact .of_lt hlt n.place [] []

theorem inOrder_elements (n : Node) : InOrder n.elements := by
  unfold elements
  split
  · exact inOrder_below n (Data.precedes_elements _)
  · exact List.pairwise_singleton _ _

theorem inOrder_everyChild {n : Node} {tree : Data} (json : n.content = .json tree) (keyed : n.IsKeyed) :
    InOrder (n.childNames.flatMap n.children) := by
  have hevery : n.childNames.flatMap n.children =
      (tree.childNames.flatMap tree.childrenNamed).map fun c => n.below c.1 (.json c.2) := by
    have hchildren : n.children = fun name => (tree.childrenNamed name).map fun c => n.below c.1 (.json c.2) := by
      funext name
      simp only [children, json]
    rw [List.map_flatMap, hchildren]
    simp only [childNames, json]
  rw [hevery]
  exact inOrder_below n (Data.precedes_everyChild (keyed tree json))

end Node

/-- a step keeps nodes in order; the wildcard does so on JSON nodes -/
theorem Step.inOrder_apply {step : Step} {nodes : List Node} (ordered : InOrder nodes)
    (wild : step = .wildcard → ∀ n ∈ nodes, ∃ tree, n.content = .json tree ∧ n.IsKeyed) : InOrder (step.apply nodes) := by
  have helements : InOrder (nodes.flatMap Node.elements) :=
    inOrder_flatMap ordered (fun _ _ _ => Node.holds_of_mem_elements) fun n _ => n.inOrder_elements
  cases step with
  | child name => exact inOrder_flatMap ordered (fun _ _ _ => Node.holds_of_mem_children) fun n _ => n.inOrder_children name
  | wildcard =>
    refine inOrder_flatMap ordered (fun n _ m hm => ?_) fun n hn => ?_
    · obtain ⟨name, -, hnamed⟩ := List.mem_flatMap.1 hm
      exact Node.holds_of_mem_children hnamed
    · obtain ⟨tree, json, keyed⟩ := wild rfl n hn
      exact Node.inOrder_everyChild json keyed
  | each => exact helements
  | index i =>
    rw [Step.apply]
    cases pick? (nodes.flatMap Node.elements) i with
    | none => exact .nil
    | some n => exact List.pairwise_singleton _ _

/-- steps keep nodes in order, and inside the node they lie in -/
theorem inOrder_resolveSteps {top : Node} (keyed : top.IsKeyed) {steps : List Step}
    (wild : .wildcard ∈ steps → ∃ tree, top.content = .json tree) {nodes : List Node} (ordered : InOrder nodes)
    (inside : ∀ n ∈ nodes, top.Holds n) : InOrder (resolveSteps steps nodes) := by
  induction steps generalizing nodes with
  | nil => exact ordered
  | cons step rest ih =>
    rw [resolveSteps_cons]
    refine ih (fun h => wild (List.mem_cons_of_mem _ h)) ?_ fun m hm => ?_
    · refine Step.inOrder_apply ordered fun same n hn => ?_
      obtain ⟨tree, json⟩ := wild (same ▸ List.mem_cons_self)
      obtain ⟨d, hd, -⟩ := (inside n hn).json json
      exact ⟨d, hd, (inside n hn).isKeyed keyed⟩
    · obtain ⟨n, hn, hfound⟩ := Step.holds_of_mem_apply hm
      exact (inside n hn).trans hfound

theorem Path.inOrder_resolve {p : Path} {start : Node} (keyed : start.IsKeyed)
    (wild : .wildcard ∈ p.steps → ∃ tree, start.content = .json tree) : InOrder (p.resolve start) := by
  refine inOrder_resolveSteps keyed wild (List.pairwise_singleton _ _) fun n hn => ?_
  obtain rfl := List.mem_singleton.1 hn
  exact .refl n

/-! ## Documents -/

/-- a context in a document is of the format of the document, and has each key once -/
theorem Document.cases_of_context {stamp : Nat} {format : Format} {content : Data} {arguments : List Data}
    {document context : Node} (keyed : content.isKeyed = true)
    (decoded : decode stamp format content arguments = .ok document)
    (inside : document.Holds context ∨ context = missingRoot document) :
    (format = .json ∧ ∃ tree, context.content = .json tree ∧ tree.isKeyed = true) ∨
    (format = .xml ∧ ∃ ns element, context.content = .xml ns element) := by
  rcases cases_of_decode keyed decoded with ⟨hformat, top, json, hkeyed⟩ | ⟨hformat, ns, top, xml⟩
  · refine .inl ⟨hformat, ?_⟩
    rcases inside with inside | rfl
    · obtain ⟨tree, htree, hparts⟩ := inside.json json
      exact ⟨tree, htree, hparts _ hkeyed⟩
    · exact ⟨.null, by simp only [missingRoot, json], rfl⟩
  · refine .inr ⟨hformat, ?_⟩
    rcases inside with inside | rfl
    · obtain ⟨element, helement⟩ := inside.xml xml
      exact ⟨ns, element, helement⟩
    · exact ⟨ns, Xml.Element.missing, by simp only [missingRoot, xml]⟩

/-- **Paths never repeat, nest or reorder what they find.** The document is any content that decodes in one of the formats, with
any namespaces for XML, and a context is any node of it, or the node that stands for a missing root. A path, without wildcards
if the format is XML, leads to nodes that are the parts of the context at their places. The places are all different, stand in
document order, and none of them lies inside another. Decoded trees that are handed over as they are have each key of a
mapping once, as mappings do; text and bytes are no such trees. -/
theorem resolve_in_order {stamp : Nat} {format : Format} {content : Data} {arguments : List Data} {document context : Node}
    (keyed : content.isKeyed = true) (decoded : Document.decode stamp format content arguments = .ok document)
    (inside : document.Holds context ∨ context = Document.missingRoot document) (p : Path)
    (wild : format = .xml → .wildcard ∉ p.steps) :
    (∀ n ∈ p.resolve context, context.Holds n) ∧
    ((p.resolve context).map Node.place).Nodup ∧
    (p.resolve context).Pairwise fun m n => m.place < n.place ∧ ¬m.place <+: n.place ∧ ¬n.place <+: m.place := by
  have ordered : InOrder (p.resolve context) := by
    rcases Document.cases_of_context keyed decoded inside with ⟨-, tree, json, hkeyed⟩ | ⟨hformat, ns, element, xml⟩
    · refine Path.inOrder_resolve (fun d hd => ?_) fun _ => ⟨tree, json⟩
      cases json.symm.trans hd
      exact hkeyed
    · refine Path.inOrder_resolve (fun d hd => ?_) fun h => absurd h (wild hformat)
      cases xml.symm.trans hd
  refine ⟨fun n => holds_of_mem_resolve, ?_, ?_⟩
  · refine List.pairwise_map.2 (ordered.imp fun h same => ?_)
    have hlt := h.lt
    rw [same] at hlt
    exact List.lt_irrefl _ hlt
  · exact ordered.imp fun h => ⟨h.lt, h.not_inside.1, h.not_inside.2⟩

/-- rows in rows with gaps between them, after a key that is written twice -/
def gappedText : String :=
  "\x7b\"b\": 0, \"a\": [[1, null, [2]], null, 3], \"b\": \x7b\"c\": 4\x7d\x7d"

/-- the elements of all children -/
def allElements : Path := ⟨"$.*[*]", [.wildcard, .each]⟩

/-- the elements of all children stand at four places, in order, none inside another -/
theorem gapped_in_order :
    ∃ document, Document.decode 0 .json (.str gappedText) [] = .ok document ∧
      (allElements.resolve document).map Node.place = [[0], [1, 0, 0], [1, 0, 2], [1, 2]] ∧
      ((allElements.resolve document).map Node.place).Nodup ∧
      (allElements.resolve document).Pairwise
        fun m n => m.place < n.place ∧ ¬m.place <+: n.place ∧ ¬n.place <+: m.place := by
  have hplaces : (Document.decode 0 .json (.str gappedText) []).toOption.map
      (fun document => (allElements.resolve document).map Node.place) = some [[0], [1, 0, 0], [1, 0, 2], [1, 2]] := by
    decide +kernel
  obtain ⟨document, hdecode, hresolve⟩ := Option.map_eq_some_iff.1 hplaces
  have decoded := Failure.eq_ok_of_toOption hdecode
  obtain ⟨-, hnodup, hordered⟩ := resolve_in_order rfl decoded (.inl (.refl document)) allElements nofun
  exact ⟨document, decoded, hresolve, hnodup, hordered⟩

end Harvest
