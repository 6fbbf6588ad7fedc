/-
The two forms of a neutral tree show its spots: at every spot, the nodes of both forms have the children and the elements that
the tree has there.

- `Spot.shows_json`: lists are spread out, and keys stand in order, so the JSON form shows every spot.
- `Spot.shows_xml`: elements with one tag stand together, and plain names mean themselves, so the XML form does too.
- `Spot.values_of_text`: at a text, both forms have it as their value.
-/
import Harvest.Proofs.Data.Groups
import Harvest.Proofs.Node.Neutral

namespace Harvest.Neutral

open Harvest.Text

/-! ## Views -/

namespace Spot

/-- the node of the spot in a document that is the JSON form -/
def jsonNode (document : Nat) (s : Spot) : Node :=
  { document, place := s.inData, content := .json s.tree.data }

/-- the node of the spot in a document that is the XML form, read without namespaces -/
def xmlNode (document : Nat) (s : Spot) : Node :=
  { document, place := s.inElement, content := .xml (Xml.Namespaces.ofEntries []) (s.tree.element s.tag) }

/-- at this spot the nodes of a view have the children and the elements that the tree has -/
structure Shows (view : Spot → Node) (s : Spot) : Prop where
  named : ∀ name, (view s).children name = (s.childrenNamed name).map view
  every : ((view s).childNames.flatMap fun name => (view s).children name) = s.children.map view
  single : (view s).elements = [view s]

theorem flatMap_of_eq_map {α β γ : Type} {f : α → List γ} {g : α → List β} {h : β → γ} {items : List α}
    (same : ∀ a ∈ items, f a = (g a).map h) : items.flatMap f = (items.flatMap g).map h := by
  rw [List.map_flatMap]
  exact List.flatMap_congr same

end Spot

/-! ## The JSON form -/

theorem itemsData_eq (ts : List Tree) : itemsData ts = ts.map Tree.data := by
  induction ts with
  | nil => rfl
  | cons t rest ih => rw [itemsData, ih, List.map_cons]

theorem keys_entriesData (entries : List (String × Branch)) : Entries.keys (entriesData entries) = Entries.keys entries := by
  induction entries with
  | nil => rfl
  | cons e rest ih => exact congrArg (e.1 :: ·) ih

/-- no tree is null in JSON -/
theorem isNull_data (t : Tree) : t.data.isNull = false := by
  cases t <;> rfl

theorem numbered_map {α β : Type} (f : α → β) (items : List α) :
    Data.numbered (items.map f) = (Data.numbered items).map fun e => (e.1, f e.2) := by
  simp only [Data.numbered, List.zipIdx_map, List.map_map]
  rfl

/-- spreading what a key holds gives a node for each of its spots -/
theorem spread_branch (document : Nat) (above : Spot) (name : String) (i k : Nat) (b : Branch) :
    ((Data.spread [i] b.data).map fun c => (above.jsonNode document).below c.1 (.json c.2)) =
      (b.spots above name i k).map (Spot.jsonNode document) := by
  cases b with
  | one t => cases t <;> rfl
  | many ts =>
    have hkept : ((Data.numbered (itemsData ts)).filter fun e => !e.2.isNull) = Data.numbered (itemsData ts) := by
      rw [itemsData_eq, numbered_map]
      refine List.filter_eq_self.2 fun e he => ?_
      obtain ⟨⟨j, t⟩, -, rfl⟩ := List.mem_map.1 he
      rw [isNull_data]
      rfl
    rw [Branch.data, Data.spread, hkept, itemsData_eq, numbered_map, Branch.spots]
    simp only [List.map_map]
    rfl

/-- looking a key up in the JSON form of an object gives the group of that key -/
theorem lookup_entriesData (document : Nat) (above : Spot) (name : String) (i k : Nat) (entries : List (String × Branch)) :
    ((match (((entriesData entries).zipIdx i).map Prod.swap).find? fun e : Nat × String × Data => e.2.1 == name with
      | some (j, _, child) => Data.spread ([] ++ [j]) child
      | none => []).map fun c : List Nat × Data => (above.jsonNode document).below c.1 (.json c.2)) =
      (((groupsFrom above i k entries).lookup name).getD []).map (Spot.jsonNode document) := by
  induction entries generalizing i k with
  | nil => rfl
  | cons e rest ih =>
    obtain ⟨key, b⟩ := e
    by_cases h : key = name
    · rw [h, groupsFrom, List.lookup_cons_self, Option.getD_some, ← spread_branch]
      simp [entriesData]
    · have hname : ¬name = key := fun same => h same.symm
      rw [groupsFrom, List.lookup_cons, beq_eq_false_iff_ne.2 hname, ← ih (i + 1) (k + b.items.length)]
      simp [entriesData, h]

namespace Spot

theorem children_jsonNode (document : Nat) (s : Spot) (name : String) :
    (s.jsonNode document).children name = (s.childrenNamed name).map (jsonNode document) := by
  obtain ⟨tag, tree, inData, inElement⟩ := s
  cases tree with
  | text s => rfl
  | object entries => exact lookup_entriesData document ⟨tag, .object entries, inData, inElement⟩ name 0 0 entries

theorem childNames_jsonNode (document : Nat) (s : Spot) : (s.jsonNode document).childNames = Entries.keys s.groups := by
  obtain ⟨tag, tree, inData, inElement⟩ := s
  cases tree with
  | text s => rfl
  | object entries => exact (keys_entriesData entries).trans (keys_groupsFrom _ 0 0 entries).symm

/-- the JSON form shows every spot whose tree fits -/
theorem shows_json (document : Nat) {s : Spot} (fits : s.tree.fits = true) : Shows (jsonNode document) s := by
  refine ⟨children_jsonNode document s, ?_, ?_⟩
  · rw [childNames_jsonNode, flatMap_of_eq_map fun name _ => children_jsonNode document s name]
    exact congrArg _ (Entries.flatMap_lookup_groups (groups_of_fits fits).1 fun g hg => hg)
  · obtain ⟨tag, tree, inData, inElement⟩ := s
    cases tree <;> rfl

end Spot

/-! ## The XML form -/

theorem head_qualified (uri name : String) : (Xml.Namespaces.qualified uri name).toList.head? = some '\x7b' := by
  simp [Xml.Namespaces.qualified, String.toList_append]

/-- without namespaces a name is read as it is, unless it has a prefix -/
theorem expandChild_bare (name : String) :
    (Xml.Namespaces.ofEntries []).expandChild name = name ∨
      ':' ∈ name.toList ∧ ((Xml.Namespaces.ofEntries []).expandChild name).toList.head? = some '\x7b' := by
  rw [Xml.Namespaces.expandChild]
  cases hexpand : (Xml.Namespaces.ofEntries []).expandPrefixed? name with
  | none =>
    refine Or.inl ?_
    dsimp only
    split
    · rfl
    · rfl
  | some full =>
    refine Or.inr ?_
    rw [Xml.Namespaces.expandPrefixed?] at hexpand
    cases hcut : cutFirst? ':' name.toList with
    | none =>
      rw [hcut] at hexpand
      cases hexpand
    | some parts =>
      rw [hcut] at hexpand
      obtain ⟨uri, -, hfull⟩ := Option.map_eq_some_iff.1 hexpand
      refine ⟨?_, ?_⟩
      · rw [(eq_of_cutFirst? hcut).1]
        exact List.mem_append_right _ List.mem_cons_self
      · rw [← hfull]
        exact head_qualified _ _

/-- without namespaces a name is that of a plain tag just if it is the tag -/
theorem expandChild_beq {tag : String} (plain : isPlainName tag = true) (name : String) :
    (tag == (Xml.Namespaces.ofEntries []).expandChild name) = (tag == name) := by
  rw [isPlainName, Bool.and_eq_true, Bool.not_eq_true', List.contains_eq_mem, decide_eq_false_iff_not, bne_iff_ne] at plain
  rcases expandChild_bare name with same | ⟨marked, opened⟩
  · rw [same]
  · have hname : tag ≠ name := fun same => plain.1 (same ▸ marked)
    have hfull : tag ≠ (Xml.Namespaces.ofEntries []).expandChild name := fun same => plain.2 (same ▸ opened)
    rw [beq_eq_false_iff_ne.2 hname, beq_eq_false_iff_ne.2 hfull]

/-- a plain name is written as it is -/
theorem shorten_plain {tag : String} (plain : isPlainName tag = true) (ns : Xml.Namespaces) : ns.shorten tag = tag := by
  rw [isPlainName, Bool.and_eq_true, bne_iff_ne] at plain
  have hsplit : Xml.Namespaces.splitQualified? tag = none := by
    rw [Xml.Namespaces.splitQualified?]
    split
    · rename_i rest hlist
      rw [hlist] at plain
      exact absurd rfl plain.2
    · rfl
  rw [Xml.Namespaces.shorten, hsplit]

theorem itemsElements_eq (tag : String) (ts : List Tree) : itemsElements tag ts = ts.map (Tree.element tag) := by
  induction ts with
  | nil => rfl
  | cons t rest ih => rw [itemsElements, ih, List.map_cons]

theorem length_elements (tag : String) (b : Branch) : (b.elements tag).length = b.items.length := by
  cases b with
  | one t => rfl
  | many ts => rw [Branch.elements, itemsElements_eq, List.length_map, Branch.items]

theorem tag_element (tag : String) (t : Tree) : (t.element tag).tag = tag := by
  cases t <;> rfl

/-- the elements of a branch are those of its spots -/
theorem numbered_elements (above : Spot) (name : String) (i k : Nat) (b : Branch) :
    (((b.elements name).zipIdx k).map fun e => (above.inElement ++ [e.2], e.1)) =
      (b.spots above name i k).map fun c => (c.inElement, c.tree.element c.tag) := by
  cases b with
  | one t => rfl
  | many ts =>
    rw [Branch.elements, itemsElements_eq, List.zipIdx_map, List.zipIdx_eq_map_add, Branch.spots, Data.numbered]
    simp only [List.map_map]
    rfl

/-- the elements of an object are those of its spots -/
theorem numbered_entriesElements (above : Spot) (i k : Nat) (entries : List (String × Branch)) :
    (((entriesElements entries).zipIdx k).map fun e => (above.inElement ++ [e.2], e.1)) =
      ((groupsFrom above i k entries).flatMap Prod.snd).map fun c => (c.inElement, c.tree.element c.tag) := by
  induction entries generalizing i k with
  | nil => rfl
  | cons e rest ih =>
    rw [entriesElements, groupsFrom, List.flatMap_cons, List.zipIdx_append, List.map_append, List.map_append,
      length_elements, ih (i + 1), numbered_elements above e.1 i]

namespace Spot

/-- the elements right below a spot are those of the spots there -/
theorem numbered_children (s : Spot) :
    ((Data.numbered (s.tree.element s.tag).children).map fun e => (s.inElement ++ [e.1], e.2)) =
      s.children.map fun c => (c.inElement, c.tree.element c.tag) := by
  obtain ⟨tag, tree, inData, inElement⟩ := s
  cases tree with
  | text s => rfl
  | object entries =>
    rw [Data.numbered, List.map_map]
    exact numbered_entriesElements ⟨tag, .object entries, inData, inElement⟩ 0 0 entries

theorem children_element (s : Spot) :
    (s.tree.element s.tag).children = s.children.map fun c => c.tree.element c.tag := by
  have hsnd := congrArg (List.map Prod.snd) (numbered_children s)
  rw [List.map_map, List.map_map, Data.numbered, List.map_map] at hsnd
  exact (List.zipIdx_map_fst 0 _).symm.trans hsnd

/-- the element at a place of a document that is the XML form -/
def elementNode (document : Nat) (e : List Nat × Xml.Element) : Node :=
  { document, place := e.1, content := .xml (Xml.Namespaces.ofEntries []) e.2 }

theorem children_xmlNode (document : Nat) {s : Spot} (fits : s.tree.fits = true) (name : String) :
    (s.xmlNode document).children name = (s.childrenNamed name).map (xmlNode document) := by
  obtain ⟨distinct, hgroups⟩ := groups_of_fits fits
  let full := (Xml.Namespaces.ofEntries []).expandChild name
  calc (s.xmlNode document).children name
      = (((Data.numbered (s.tree.element s.tag).children).map fun e => (s.inElement ++ [e.1], e.2)).filter
          fun e => e.2.tag == full).map (elementNode document) := by
        rw [List.filter_map, List.map_map]
        rfl
    _ = (s.children.filter fun c => c.tag == full).map (xmlNode document) := by
        rw [numbered_children, List.filter_map, List.map_map]
        simp only [Function.comp_def, tag_element]
        rfl
    _ = (s.children.filter fun c => c.tag == name).map (xmlNode document) := by
        rw [List.filter_congr fun c hc => expandChild_beq (isPlainName_of_mem_children fits hc) name]
    _ = (s.childrenNamed name).map (xmlNode document) := by
        rw [children, Entries.filter_groups distinct (fun g hg c hc => ((hgroups g hg).2 c hc).1) name]
        rfl

theorem childNames_xmlNode (document : Nat) {s : Spot} (fits : s.tree.fits = true) :
    (s.xmlNode document).childNames = (s.children.map Spot.tag).eraseDups := by
  change ((s.tree.element s.tag).children.map _).eraseDups = _
  rw [children_element, List.map_map]
  refine congrArg _ (List.map_congr_left fun c hc => ?_)
  exact (congrArg _ (tag_element c.tag c.tree)).trans (shorten_plain (isPlainName_of_mem_children fits hc) _)

/-- the XML form shows every spot whose tree fits -/
theorem shows_xml (document : Nat) {s : Spot} (fits : s.tree.fits = true) : Shows (xmlNode document) s := by
  obtain ⟨distinct, hgroups⟩ := groups_of_fits fits
  refine ⟨children_xmlNode document fits, ?_, rfl⟩
  rw [childNames_xmlNode document fits, flatMap_of_eq_map fun name _ => children_xmlNode document fits name]
  exact congrArg _ (Entries.flatMap_lookup_eraseDups distinct fun g hg c hc => ((hgroups g hg).2 c hc).1)

/-- at a text both forms have it as their value -/
theorem values_of_text {s : Spot} (fits : s.tree.fits = true) {t : String} (h : s.tree = .text t) (d e : Nat) :
    (s.jsonNode d).value = .ok (.str t) ∧ (s.xmlNode e).value = .ok (.str t) := by
  obtain ⟨tag, tree, inData, inElement⟩ := s
  subst h
  have hstrip : strip t = t := beq_iff_eq.1 fits
  refine ⟨rfl, ?_⟩
  change Except.ok (Data.str (strip t)) = _
  rw [hstrip]

end Spot

end Harvest.Neutral
