/-
The listed attributes of XML elements. Listed names are written short, and an attribute is looked up by the full name that a
name is read as. So a listed name gives back the value of its attribute, unless the attribute is hidden. A hidden one is lost:
its name leads to nothing, or stands for another attribute too.

- `attributeValue_shorten`: the name of an attribute that is not hidden leads to its value.
- `readsBack_iff`: all listed names are different and lead to their values exactly if no attribute is hidden.
- `attributes_read_back`: both for every element of a document that is read and all prefixes with texts.
-/
import Harvest.Proofs.Node.Wildcard
import Harvest.Proofs.Xml.Attributes

namespace Harvest

open Harvest.Xml

theorem Xml.Element.MadeIn.of_inside {d : Doctype} {root e : Element} (made : root.MadeIn d)
    (inside : Element.Inside root e) : e.MadeIn d := by
  induction inside with
  | here => exact made
  | deeper _ child ih =>
    cases ih with
    | mk _ inner => exact inner _ child

/-- every element of a document that is read has different attributes, with names as a read document has them -/
theorem Xml.readAttributes_of_decodeXml {content : Data} {root e : Element} (parsed : Document.decodeXml content = .ok root)
    (inside : Element.Inside root e) : ReadAttributes e.attributes := by
  obtain ⟨d, prolog, made⟩ := madeIn_of_decodeXml parsed
  exact (made.of_inside inside).readAttributes prolog.named

namespace Node

/-- the names are different, and each leads to the value of the attribute at its place -/
def ReadsBack (n : Node) (names : List String) (attributes : List (String × String)) : Prop :=
  names.Nodup ∧ List.Forall₂ (fun name a => n.attributeValue name = .ok (some a.2)) names attributes

variable {n : Node} {ns : Namespaces} {e : Element}

theorem attributeValue_xml (shows : n.content = .xml ns e) (name : String) :
    n.attributeValue name = .ok (e.attributes.lookup (ns.expandAttribute name)) := by
  simp only [attributeValue, shows]

/-- the name of an attribute that is not hidden leads to its value -/
theorem attributeValue_shorten (shows : n.content = .xml ns e) (named : ns.Named) (read : ReadAttributes e.attributes)
    {a : String × String} (mem : a ∈ e.attributes) (shown : ¬ns.HidesAttribute a.1) :
    n.attributeValue (ns.shorten a.1) = .ok (some a.2) := by
  rw [attributeValue_xml shows, Namespaces.expandAttribute_shorten named (read.named a mem) shown,
    Entries.lookup_of_mem read.distinct mem]

/-- the name of a hidden attribute leads to nothing, or is listed for another attribute too -/
theorem lost_of_hidden (shows : n.content = .xml ns e) (read : ReadAttributes e.attributes) {a : String × String}
    (mem : a ∈ e.attributes) (hidden : ns.HidesAttribute a.1) :
    n.attributeValue (ns.shorten a.1) = .ok none ∨
      ∃ b ∈ e.attributes, b.1 ≠ a.1 ∧ ns.shorten b.1 = ns.shorten a.1 := by
  rw [attributeValue_xml shows]
  cases hfound : e.attributes.lookup (ns.expandAttribute (ns.shorten a.1)) with
  | none => exact Or.inl rfl
  | some v =>
    have hmem := Entries.mem_of_lookup hfound
    rcases Namespaces.shorten_of_hidesAttribute (read.named a mem) hidden with
      ⟨part, letters, other, hshort⟩ | ⟨uri, part, hexpand, brace⟩
    · rw [hshort, Namespaces.expandAttribute_letters ns letters] at hmem
      refine Or.inr ⟨_, hmem, other, ?_⟩
      rw [hshort]
      exact Namespaces.shorten_letters ns letters
    · rw [hexpand] at hmem
      exact absurd rfl (Namespaces.ne_fullName_of_brace (read.named _ hmem) brace)

/-- all listed names are different and lead to their values exactly if no attribute is hidden -/
theorem readsBack_iff (shows : n.content = .xml ns e) (named : ns.Named) (read : ReadAttributes e.attributes) :
    n.ReadsBack (e.attributes.map fun a => ns.shorten a.1) e.attributes ↔
      ∀ a ∈ e.attributes, ¬ns.HidesAttribute a.1 := by
  have hforall : List.Forall₂ (fun name a => n.attributeValue name = .ok (some a.2))
      (e.attributes.map fun a => ns.shorten a.1) e.attributes ↔
        ∀ a ∈ e.attributes, n.attributeValue (ns.shorten a.1) = .ok (some a.2) := by
    rw [List.forall₂_map_left_iff, List.forall₂_same]
  rw [ReadsBack, hforall]
  constructor
  · rintro ⟨distinct, back⟩ a ha hidden
    rcases lost_of_hidden shows read ha hidden with hnone | ⟨b, hb, other, same⟩
    · rw [back a ha] at hnone
      cases hnone
    · exact other (congrArg Prod.fst (List.inj_on_of_nodup_map distinct hb ha same))
  · intro shown
    have back := fun a ha => attributeValue_shorten shows named read ha (shown a ha)
    refine ⟨?_, back⟩
    -- names that are given back are different, since the full names are
    have hfull : (e.attributes.map fun a => ns.shorten a.1) = (Entries.keys e.attributes).map ns.shorten := by
      rw [Entries.keys, List.map_map]
      rfl
    rw [hfull]
    refine read.distinct.map_on ?_
    intro x hx y hy same
    obtain ⟨a, ha, rfl⟩ := List.mem_map.1 hx
    obtain ⟨b, hb, rfl⟩ := List.mem_map.1 hy
    rw [← Namespaces.expandAttribute_shorten named (read.named a ha) (shown a ha), same,
      Namespaces.expandAttribute_shorten named (read.named b hb) (shown b hb)]

/-- **Listed attributes can be read, unless they are hidden.** The element is any one of a document that is read, and the
prefixes are any with texts, without a colon in them. The listed names stand for the attributes in order. The name of an
attribute that is not hidden leads to its value; and the listed names are pairwise different and all lead to the values of the
attributes at their places exactly if no attribute is hidden. -/
theorem attributes_read_back {content : Data} {root e : Element} {given : List (String × String)} {n : Node}
    (parsed : Document.decodeXml content = .ok root) (inside : Element.Inside root e) (plain : ∀ g ∈ given, ':' ∉ g.1.toList)
    (shows : n.content = .xml (.ofTexts given) e) :
    ∃ names, n.attributeNames = .ok names ∧
      List.Forall₂ (fun name a => ¬(Namespaces.ofTexts given).HidesAttribute a.1 →
        n.attributeValue name = .ok (some a.2)) names e.attributes ∧
      (n.ReadsBack names e.attributes ↔ ∀ a ∈ e.attributes, ¬(Namespaces.ofTexts given).HidesAttribute a.1) := by
  have named := Namespaces.named_ofTexts plain
  have read := readAttributes_of_decodeXml parsed inside
  have back := readsBack_iff shows named read
  refine ⟨_, ?_, ?_, back⟩
  · simp only [attributeNames, shows]
  · rw [List.forall₂_map_left_iff, List.forall₂_same]
    exact fun a ha shown => attributeValue_shorten shows named read ha shown

/-- attributes of one name with and without a namespace, and one with the prefix that is always known -/
def labelText : String :=
  "<r xmlns:q='u' q:a='1' a='2' xml:lang='en'/>"

/-- two prefixes of one namespace, and a namespace for names of children without a prefix -/
def labelPrefixes : List (String × String) :=
  [("", "v"), ("p", "u"), ("s", "u")]

theorem labelPrefixes_plain : ∀ g ∈ labelPrefixes, ':' ∉ g.1.toList := by decide

/-- none of them is hidden, so all are read back by the names that they are listed with -/
theorem labels_read_back :
    ∃ root, Document.decodeXml (.str labelText) = .ok root ∧ (∀ g ∈ labelPrefixes, ':' ∉ g.1.toList) ∧
      (∀ a ∈ root.attributes, ¬(Namespaces.ofTexts labelPrefixes).HidesAttribute a.1) ∧
      (ofRoot labelPrefixes root).attributeNames = .ok ["p:a", "a", "xml:lang"] ∧
      (ofRoot labelPrefixes root).ReadsBack ["p:a", "a", "xml:lang"] root.attributes := by
  have htext : (Document.decodeXml (.str labelText)).toOption.map
      (fun r => (r.attributes.map Prod.fst, r.attributes.map fun a => (Namespaces.ofTexts labelPrefixes).shorten a.1)) =
      some (["\x7bu\x7da", "a", "\x7bhttp://www.w3.org/XML/1998/namespace\x7dlang"], ["p:a", "a", "xml:lang"]) := by
    decide +kernel
  obtain ⟨root, parsed, h⟩ := exists_of_decodeXml htext
  obtain ⟨hnames, hlisted⟩ := Prod.mk.inj h
  have hshown : ∀ a ∈ root.attributes, ¬(Namespaces.ofTexts labelPrefixes).HidesAttribute a.1 := by
    intro a ha
    have hmem : a.1 ∈ root.attributes.map Prod.fst := List.mem_map_of_mem ha
    rw [hnames] at hmem
    simp only [List.mem_cons, List.not_mem_nil, or_false] at hmem
    rcases hmem with h | h | h
    · rw [h]
      rintro (hempty | ⟨unknown, -⟩)
      · exact absurd hempty (by decide)
      · exact unknown ("p", .str "u") (Entries.mem_of_lookup rfl) rfl
    · rw [h]
      exact id
    · rw [h]
      rintro (hempty | ⟨unknown, -⟩)
      · exact absurd hempty (by decide)
      · exact unknown ("xml", .str xmlNamespace) (Entries.mem_of_lookup rfl) rfl
  obtain ⟨names, hattributes, -, hback⟩ :=
    attributes_read_back (n := ofRoot labelPrefixes root) parsed .here labelPrefixes_plain rfl
  have hsame : names = ["p:a", "a", "xml:lang"] := (Except.ok.inj hattributes).symm.trans hlisted
  exact ⟨root, parsed, labelPrefixes_plain, hshown, hsame ▸ hattributes, hsame ▸ hback.2 hshown⟩

/-- an attribute in the namespace of the empty prefix is hidden: its listed name leads to nothing -/
theorem hidden_attribute_lost :
    ∃ root, Document.decodeXml (.str "<r xmlns:p='urn:x' p:a='1'/>") = .ok root ∧ root.attributes.map Prod.snd = ["1"] ∧
      (ofRoot [("", "urn:x")] root).attributeNames = .ok ["a"] ∧
      (ofRoot [("", "urn:x")] root).attributeValue "a" = .ok none := by
  have hlost : (Document.decodeXml (.str "<r xmlns:p='urn:x' p:a='1'/>")).toOption.map
      (fun r => (r.attributes.map Prod.snd, r.attributes.map fun a => (Namespaces.ofTexts [("", "urn:x")]).shorten a.1,
        r.attributes.lookup ((Namespaces.ofTexts [("", "urn:x")]).expandAttribute "a"))) =
      some (["1"], ["a"], none) := by decide +kernel
  obtain ⟨root, parsed, h⟩ := exists_of_decodeXml hlost
  obtain ⟨hvalues, h⟩ := Prod.mk.inj h
  obtain ⟨hlisted, hfound⟩ := Prod.mk.inj h
  exact ⟨root, parsed, hvalues, congrArg Except.ok hlisted, congrArg Except.ok hfound⟩

end Node

end Harvest
