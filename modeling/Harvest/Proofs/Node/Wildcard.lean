/-
The wildcard on XML elements. It looks up the children by their names, so it visits the children whose tags are found again by
the names that they are written with: each exactly once, unless a tag is hidden. A hidden child is not visited, and its name
may lead to other children a second time.

- `children_shorten`: the name of a tag that is not hidden leads to the children with that tag.
- `mem_visited_iff`: the wildcard visits the children that are not hidden, and nothing else.
- `visited_eq_byTag`: with none hidden, children of the same tag in document order, tags in order of first appearance.
- `wildcard_visits`: all this for every element of a document that is read and all prefixes with texts.
-/
import Harvest.Node.Resolve
import Harvest.Path.Parser
import Harvest.Proofs.Data.Groups
import Harvest.Proofs.Xml.Elements
import Harvest.Proofs.Xml.Namespaces

namespace Harvest

open Harvest.Xml

/-- an element of the document with this root -/
inductive Xml.Element.Inside (root : Element) : Element → Prop where
  | here : Inside root root
  | deeper {e c : Element} (inside : Inside root e) (child : c ∈ e.children) : Inside root c

theorem Xml.Element.Read.of_inside {root e : Element} (read : root.Read) (inside : Element.Inside root e) : e.Read := by
  induction inside with
  | here => exact read
  | deeper _ child ih =>
    cases ih with
    | mk _ inner => exact inner _ child

theorem Xml.Element.Read.readTag {e : Element} (read : e.Read) : ReadTag e.tag := by
  cases read with
  | mk named _ => exact named

theorem Xml.Element.Read.readTag_of_mem {e c : Element} (read : e.Read) (child : c ∈ e.children) : ReadTag c.tag :=
  (read.of_inside (.deeper .here child)).readTag

/-- the path of all children -/
def Path.everyChild : Path := ⟨"$.*", [.wildcard]⟩

example : Path.read "$.*" = .ok Path.everyChild := rfl

namespace Node

/-- the node of a child element, given with its number -/
def childNode (n : Node) (ns : Namespaces) (c : Nat × Element) : Node :=
  n.below [c.1] (.xml ns c.2)

/-- the nodes of all child elements, in document order -/
def childNodes (n : Node) (ns : Namespaces) (e : Element) : List Node :=
  (Data.numbered e.children).map (n.childNode ns)

/-- what the wildcard visits: the children with each name in turn -/
def visited (n : Node) : List Node :=
  n.childNames.flatMap n.children

/-- the child elements tag by tag, each with its number -/
def childrenByTag (e : Element) : List (Nat × Element) :=
  Entries.byKey (fun c => c.2.tag) (Data.numbered e.children)

theorem resolve_everyChild (n : Node) : Path.everyChild.resolve n = n.visited := by
  simp [Path.resolve, Path.everyChild, resolveSteps_eq_foldl, Step.apply, visited]

variable {n : Node} {ns : Namespaces} {e : Element}

theorem mem_of_mem_numbered {c : Nat × Element} (h : c ∈ Data.numbered e.children) : c.2 ∈ e.children := by
  obtain ⟨d, hd, rfl⟩ := List.mem_map.1 h
  exact List.fst_mem_of_mem_zipIdx hd

theorem tags_numbered (e : Element) : (Data.numbered e.children).map (fun c => c.2.tag) = e.children.map Element.tag := by
  rw [Data.numbered, List.map_map]
  calc (e.children.zipIdx.map fun c => c.1.tag)
      = (e.children.zipIdx.map Prod.fst).map Element.tag := by rw [List.map_map]; rfl
    _ = e.children.map Element.tag := by rw [List.zipIdx_map_fst]

theorem childNames_xml (shows : n.content = .xml ns e) :
    n.childNames = (e.children.map fun c => ns.shorten c.tag).eraseDups := by
  simp [childNames, shows]

theorem mem_children_xml_iff (shows : n.content = .xml ns e) {name : String} {m : Node} :
    m ∈ n.children name ↔
      ∃ c ∈ Data.numbered e.children, c.2.tag = ns.expandChild name ∧ m = n.childNode ns c := by
  simp only [children, shows, List.mem_map, List.mem_filter, beq_iff_eq]
  constructor
  · rintro ⟨c, ⟨hc, htag⟩, rfl⟩
    exact ⟨c, hc, htag, rfl⟩
  · rintro ⟨c, hc, htag, rfl⟩
    exact ⟨c, ⟨hc, htag⟩, rfl⟩

/-- the name of a tag that is not hidden leads to the children with that tag -/
theorem children_shorten (shows : n.content = .xml ns e) (named : ns.Named) {tag : String} (read : ReadTag tag)
    (shown : ¬ns.Hides tag) :
    n.children (ns.shorten tag) =
      ((Data.numbered e.children).filter fun c => c.2.tag == tag).map (n.childNode ns) := by
  simp only [children, shows, Namespaces.expandChild_shorten named read shown]
  rfl

/-- the wildcard visits the children that are not hidden, and nothing else -/
theorem mem_visited_iff (shows : n.content = .xml ns e) (named : ns.Named) (read : e.Read) {m : Node} :
    m ∈ n.visited ↔ ∃ c ∈ Data.numbered e.children, ¬ns.Hides c.2.tag ∧ m = n.childNode ns c := by
  have htag : ∀ c ∈ Data.numbered e.children, ReadTag c.2.tag := fun c hc => read.readTag_of_mem (mem_of_mem_numbered hc)
  rw [visited, List.mem_flatMap, childNames_xml shows]
  constructor
  · rintro ⟨name, hname, hm⟩
    obtain ⟨d, hd, rfl⟩ := List.mem_map.1 (List.mem_eraseDups.1 hname)
    obtain ⟨c, hc, hfound, rfl⟩ := (mem_children_xml_iff shows).1 hm
    refine ⟨c, hc, fun hidden => ?_, rfl⟩
    exact Namespaces.expandChild_shorten_ne_of_hides named (htag c hc) hidden (read.readTag_of_mem hd) hfound.symm
  · rintro ⟨c, hc, shown, rfl⟩
    refine ⟨ns.shorten c.2.tag, List.mem_eraseDups.2 (List.mem_map.2 ⟨c.2, mem_of_mem_numbered hc, rfl⟩), ?_⟩
    exact (mem_children_xml_iff shows).2 ⟨c, hc, (Namespaces.expandChild_shorten named (htag c hc) shown).symm, rfl⟩

/-- with none hidden the wildcard visits the children tag by tag -/
theorem visited_eq_byTag (shows : n.content = .xml ns e) (named : ns.Named) (read : e.Read)
    (shown : ∀ c ∈ e.children, ¬ns.Hides c.tag) : n.visited = (childrenByTag e).map (n.childNode ns) := by
  have hback : ∀ tag ∈ e.children.map Element.tag, ReadTag tag ∧ ¬ns.Hides tag := by
    intro tag htag
    obtain ⟨c, hc, rfl⟩ := List.mem_map.1 htag
    exact ⟨read.readTag_of_mem hc, shown c hc⟩
  have hnames : n.childNames = (e.children.map Element.tag).eraseDups.map ns.shorten := by
    rw [childNames_xml shows, ← Entries.eraseDups_map, List.map_map]
    · rfl
    · intro a ha b hb same
      rw [← Namespaces.expandChild_shorten named (hback a ha).1 (hback a ha).2, same,
        Namespaces.expandChild_shorten named (hback b hb).1 (hback b hb).2]
  rw [visited, hnames, childrenByTag, Entries.byKey, tags_numbered, List.flatMap_map, List.map_flatMap]
  refine List.flatMap_congr fun tag htag => ?_
  obtain ⟨hread, hshown⟩ := hback tag (List.mem_eraseDups.1 htag)
  exact children_shorten shows named hread hshown

/-- the wildcard visits every child once exactly if no tag is hidden -/
theorem visited_perm_iff (shows : n.content = .xml ns e) (named : ns.Named) (read : e.Read) :
    n.visited.Perm (n.childNodes ns e) ↔ ∀ c ∈ e.children, ¬ns.Hides c.tag := by
  constructor
  · intro every c hc hidden
    obtain ⟨i, hi⟩ := List.mem_iff_getElem?.1 hc
    have hnumbered : (i, c) ∈ Data.numbered e.children :=
      List.mem_map.2 ⟨(c, i), List.mem_zipIdx_iff_getElem?.2 hi, rfl⟩
    obtain ⟨d, -, shown, same⟩ := (mem_visited_iff shows named read).1
      (every.mem_iff.2 (List.mem_map_of_mem (f := n.childNode ns) hnumbered))
    have hsame : c = d.2 := (Content.xml.inj (congrArg Node.content same)).2
    exact shown (hsame ▸ hidden)
  · intro shown
    rw [visited_eq_byTag shows named read shown]
    exact (Entries.perm_byKey _ _).map _

/-- **The wildcard visits every child of an element once exactly if no child is hidden.** The element is any one of a document
that is read, and the prefixes are any with texts, without a colon in them. What `$.*` leads to are the children with each name in
turn. These are the children whose tags are not hidden and nothing else; they are all children, each once, exactly if no tag
is hidden; and then children of the same tag stand in document order, and tags in order of first appearance. -/
theorem wildcard_visits {content : Data} {root e : Element} {given : List (String × String)} {n : Node}
    (parsed : Document.decodeXml content = .ok root) (inside : Element.Inside root e) (plain : ∀ g ∈ given, ':' ∉ g.1.toList)
    (shows : n.content = .xml (.ofTexts given) e) :
    Path.everyChild.resolve n = n.visited ∧
      (∀ m, m ∈ n.visited ↔
        ∃ c ∈ Data.numbered e.children, ¬(Namespaces.ofTexts given).Hides c.2.tag ∧
          m = n.childNode (.ofTexts given) c) ∧
      (n.visited.Perm (n.childNodes (.ofTexts given) e) ↔ ∀ c ∈ e.children, ¬(Namespaces.ofTexts given).Hides c.tag) ∧
      ((∀ c ∈ e.children, ¬(Namespaces.ofTexts given).Hides c.tag) →
        n.visited = (childrenByTag e).map (n.childNode (.ofTexts given))) := by
  have named := Namespaces.named_ofTexts plain
  have read := (read_of_decodeXml parsed).of_inside inside
  exact ⟨resolve_everyChild n, fun m => mem_visited_iff shows named read, visited_perm_iff shows named read,
    visited_eq_byTag shows named read⟩

/-- the root of a document with these prefixes -/
def ofRoot (given : List (String × String)) (root : Element) : Node :=
  { document := 0, place := [], content := .xml (.ofTexts given) root }

theorem exists_of_decodeXml {α : Type} {content : Data} {f : Element → α} {a : α}
    (h : (Document.decodeXml content).toOption.map f = some a) :
    ∃ root, Document.decodeXml content = .ok root ∧ f root = a := by
  obtain ⟨root, hroot, hf⟩ := Option.map_eq_some_iff.1 h
  exact ⟨root, Failure.eq_ok_of_toOption hroot, hf⟩

/-- rows with a label between them, the rows in a namespace -/
def rowsText : String :=
  "<r xmlns:q='u'><q:t/><s/><q:t/></r>"

/-- two prefixes of one namespace, and none for names without a prefix -/
def rowsPrefixes : List (String × String) :=
  [("p", "u"), ("s", "u")]

/-- the rows come first, then the label, and each of them once -/
theorem rows_visited :
    ∃ root, Document.decodeXml (.str rowsText) = .ok root ∧ (∀ g ∈ rowsPrefixes, ':' ∉ g.1.toList) ∧
      (∀ c ∈ root.children, ¬(Namespaces.ofTexts rowsPrefixes).Hides c.tag) ∧
      (ofRoot rowsPrefixes root).visited.Perm ((ofRoot rowsPrefixes root).childNodes (.ofTexts rowsPrefixes) root) ∧
      (Path.everyChild.resolve (ofRoot rowsPrefixes root)).map Node.place = [[0], [2], [1]] := by
  have hplain : ∀ g ∈ rowsPrefixes, ':' ∉ g.1.toList := by decide
  have htext : (Document.decodeXml (.str rowsText)).toOption.map (fun r => r.children.map Element.tag) =
      some ["\x7bu\x7dt", "s", "\x7bu\x7dt"] := by decide +kernel
  obtain ⟨root, parsed, htags⟩ := exists_of_decodeXml htext
  have hshown : ∀ c ∈ root.children, ¬(Namespaces.ofTexts rowsPrefixes).Hides c.tag := by
    intro c hc
    have hmem : c.tag ∈ ["\x7bu\x7dt", "s", "\x7bu\x7dt"] := htags ▸ List.mem_map_of_mem hc
    have hinside : ¬(Namespaces.ofTexts rowsPrefixes).Hides "\x7bu\x7dt" := by
      rintro ⟨unknown, -⟩
      exact unknown ("p", .str "u") (Entries.mem_of_lookup rfl) rfl
    have hbare : ¬(Namespaces.ofTexts rowsPrefixes).Hides "s" := by
      rintro ⟨uri, -, hdefault⟩
      cases hdefault
    simp only [List.mem_cons, List.not_mem_nil, or_false] at hmem
    rcases hmem with h | h | h
    · rwa [h]
    · rwa [h]
    · rwa [h]
  obtain ⟨hresolve, -, hperm, hbyTag⟩ :=
    wildcard_visits (n := ofRoot rowsPrefixes root) parsed .here hplain rfl
  refine ⟨root, parsed, hplain, hshown, hperm.2 hshown, ?_⟩
  rw [hresolve, hbyTag hshown]
  obtain ⟨a, rest, hchildren, ha, hrest⟩ := List.map_eq_cons_iff.1 htags
  obtain ⟨b, rest, rfl, hb, hrest⟩ := List.map_eq_cons_iff.1 hrest
  obtain ⟨c, rest, rfl, hc, hrest⟩ := List.map_eq_cons_iff.1 hrest
  obtain rfl := List.map_eq_nil_iff.1 hrest
  simp [childrenByTag, Entries.byKey, Data.numbered, hchildren, ha, hb, hc, List.eraseDups_cons, childNode, below, ofRoot]

/-- a child without a namespace is hidden where names without a prefix lie in one, and the wildcard loses it -/
theorem hidden_child_lost :
    ∃ root, Document.decodeXml (.str "<r><t>v</t></r>") = .ok root ∧ root.children.map Element.value = ["v"] ∧
      Path.everyChild.resolve (ofRoot [("", "urn:x")] root) = [] := by
  have hlost : (Document.decodeXml (.str "<r><t>v</t></r>")).toOption.map
      (fun r => (r.children.map Element.value, (Path.everyChild.resolve (ofRoot [("", "urn:x")] r)).length)) =
      some (["v"], 0) := by decide +kernel
  obtain ⟨root, parsed, h⟩ := exists_of_decodeXml hlost
  obtain ⟨hvalues, hlength⟩ := Prod.mk.inj h
  exact ⟨root, parsed, hvalues, List.length_eq_zero_iff.1 hlength⟩

end Node

end Harvest
