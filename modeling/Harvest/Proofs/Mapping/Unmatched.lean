/-
Root paths that lead nowhere. A node stands for the root then, with nothing in it: null in the place of a JSON tree, an element
without text in the place of an XML element. What a path of the mapping finds from there is this node, or nothing. Null gives no
value, but an element without text gives the empty text.

- `MissesRoot.exists_document`: a record in which the root path leads nowhere opens at such a node.
- `unwrap_nowhere`, `unwrap_null`, `unwrap_missing`: what a path stands for there.
- `unmatched_root`: what a mapping makes of such a record.
-/
import Harvest.Proofs.Document
import Harvest.Proofs.Mapping.Literals
import Harvest.Proofs.Mapping.Order
import Harvest.Proofs.Mapping.Present

namespace Harvest

/-! ## The node that stands for the root -/

/-- there is nothing in an element that stands for a missing one -/
theorem Node.isLeaf_missing {n : Node} {ns : Xml.Namespaces} (missing : n.content = .xml ns Xml.Element.missing) :
    n.IsLeaf := by
  refine ⟨?_, ?_, fun name => ?_⟩
  · simp only [Node.elements, missing]
  · simp only [Node.childNames, missing]
    rfl
  · simp only [Node.children, missing]
    rfl

/-- the record decodes, and the root path of the mapping leads nowhere in it -/
structure Mapping.MissesRoot (m : Mapping) (record : Record) : Prop where
  few : m.arguments.length ≤ m.format.mostArguments
  nowhere : ∃ content document text root, record.content = .ok content ∧
    Document.decode 0 m.format content m.arguments = .ok document ∧
    m.arguments.headD (.str Path.root.expression) = .str text ∧ Path.read text = .ok root ∧ root.resolve document = []

theorem Document.exists_content_of_decode {stamp : Nat} {format : Format} {content : Data} {arguments : List Data}
    {document : Node} (decoded : decode stamp format content arguments = .ok document) :
    (format = .json ∧ ∃ tree, document.content = .json tree) ∨
      (format = .xml ∧ ∃ ns element, document.content = .xml ns element) := by
  unfold decode at decoded
  split at decoded
  · split at decoded
    · cases decoded
    · cases decoded
      exact .inl ⟨rfl, _, rfl⟩
  · split at decoded
    · cases decoded
    · split at decoded
      · cases decoded
      · cases decoded
        exact .inr ⟨rfl, _, _, rfl⟩

/-- such a record opens at null, or at an element that stands for a missing one -/
theorem Mapping.MissesRoot.exists_document {m : Mapping} {record : Record} (misses : m.MissesRoot record) :
    ∃ d, Document.ofRecord 0 m.format record m.arguments = .ok d ∧
      ((m.format = .json ∧ d.root.IsNull) ∨ (m.format = .xml ∧ ∃ ns, d.root.content = .xml ns Xml.Element.missing)) := by
  obtain ⟨content, document, text, root, hcontent, hdecode, htext, hread, hnowhere⟩ := misses.nowhere
  refine ⟨⟨m.format, record.name, Document.selectRoot root document⟩, ?_, ?_⟩
  · rw [Document.ofRecord, if_neg (Nat.not_lt.2 misses.few), hcontent]
    simp only [hdecode, htext, Document.rootPathOf_str hread]
  · rcases Document.exists_content_of_decode hdecode with ⟨hformat, tree, json⟩ | ⟨hformat, ns, element, xml⟩
    · exact .inl ⟨hformat, Document.isNull_selectRoot json hnowhere⟩
    · refine .inr ⟨hformat, ns, ?_⟩
      rw [Document.selectRoot, Path.first?, hnowhere, List.head?_nil, Option.getD_none, Document.missingRoot]
      simp only [xml]

/-! ## Paths from there -/

section

variable {root : Node} {p : Path}

/-- a path that leads nowhere stands for no value -/
theorem Source.unwrap_nowhere (nowhere : p.resolve root = []) (many : Bool) :
    ((Source.path p).evaluate root).bind (·.unwrap many) = .ok none := by
  rw [evaluate, nowhere]
  rfl

/-- a path that stays at a node with nothing in it stands for the value of the node, as far as this is not null -/
theorem Source.unwrap_stays (leaf : root.IsLeaf) (stays : p.steps.all Step.stays = true) {d : Data}
    (value : root.value = .ok d) (many : Bool) :
    ((Source.path p).evaluate root).bind (·.unwrap many) = .ok (unwrapItems many ([d].filter (!·.isNull))) := by
  have hvalues : Item.values [.node root] = .ok [d] := by
    simp only [Item.values, Item.collect, Item.single, Item.value, value, Except.map, List.append_nil]
  rw [evaluate, p.resolve_leaf leaf, stays]
  change (Resolved.array [.node root]).unwrap many = _
  simp only [Resolved.unwrap, hvalues]

/-- no path from null stands for a value -/
theorem Source.unwrap_null (null : root.IsNull) (many : Bool) :
    ((Source.path p).evaluate root).bind (·.unwrap many) = .ok none := by
  cases hstays : p.steps.all Step.stays with
  | false => exact unwrap_nowhere (by rw [p.resolve_leaf null.isLeaf, hstays]; rfl) many
  | true =>
    have hvalue : root.value = .ok .null := by
      unfold Node.IsNull at null
      rw [Node.value, null]
    exact unwrap_stays null.isLeaf hstays hvalue many

/-- a path that stays at an element that stands for a missing one has the empty text for a value -/
theorem Source.unwrap_missing {ns : Xml.Namespaces} (missing : root.content = .xml ns Xml.Element.missing)
    (stays : p.steps.all Step.stays = true) (many : Bool) :
    ((Source.path p).evaluate root).bind (·.unwrap many) = .ok (some ((Data.str "").assigned many)) := by
  have hvalue : root.value = .ok (.str "") := by
    rw [Node.value, missing]
    rfl
  exact unwrap_stays (Node.isLeaf_missing missing) stays hvalue many

end

/-! ## Mappings -/

namespace Mapping

/-- the mapping with other assignments -/
def withAssignments (m : Mapping) (as : List (Assignment Path)) : Mapping :=
  { m with assignments := as }

variable {m : Mapping} {record : Record} {before after : List (Assignment Path)}

theorem process_withAssignments {d : Document} (opened : Document.ofRecord 0 m.format record m.arguments = .ok d)
    (as : List (Assignment Path)) :
    (m.withAssignments as).process record =
      (Assignment.applyAll d.record d.root m.cls as []).map (Data.object m.cls) := by
  have opened' : Document.ofRecord 0 (m.withAssignments as).format record (m.withAssignments as).arguments = .ok d := opened
  rw [process_of_opened opened']
  rfl

/-- the source of an assignment can be replaced by one that stands for the same at the root -/
theorem process_replace {d : Document} {name : String} {source other : Source Path} {transform? : Option Transform}
    {many : Bool} (opened : Document.ofRecord 0 m.format record m.arguments = .ok d)
    (placed : m.assignments = before ++ .property name source transform? many :: after)
    (same : (source.evaluate d.root).bind (·.unwrap many) = (other.evaluate d.root).bind (·.unwrap many)) :
    m.process record =
      (m.withAssignments (before ++ .property name other transform? many :: after)).process record := by
  have hsame : (Assignment.property name source transform? many).evaluate d.record d.root =
      (Assignment.property name other transform? many).evaluate d.record d.root := by
    rw [Assignment.evaluate, Assignment.evaluate]
    exact Assignment.propertyValue_congr same d.record name transform?
  rw [process_of_opened opened, build, process_withAssignments opened, placed]
  exact congrArg (Run.map _) (Assignment.applyAll_replace hsame rfl m.cls before after [])

/-- **Where a root path leads nowhere, paths find nothing to assign, but for the empty text in XML.** The record decodes, and no
node of it is at the root path of the mapping. If the format is JSON, an assignment of a path can be left out, whatever the path:
the mapping has the same outcome and calls the same. If it is XML, so can an assignment of a path one of whose steps asks for
children, or for an element other than the first or the last one. An assignment of any other path, `$` among them, is one of the
empty text. -/
theorem unmatched_root (misses : m.MissesRoot record) {name : String} {p : Path} {transform? : Option Transform} {many : Bool}
    (placed : m.assignments = before ++ .property name (.path p) transform? many :: after) :
    (m.format = .json ∨ p.steps.all Step.stays = false →
      (m.process record).Matches ((m.withAssignments (before ++ after)).process record)) ∧
    (m.format = .xml → p.steps.all Step.stays = true →
      m.process record =
        (m.withAssignments (before ++ .property name (.literal (.str "")) transform? many :: after)).process record) := by
  obtain ⟨d, opened, hroot⟩ := misses.exists_document
  constructor
  · intro hnothing
    have hunwrap : ((Source.path p).evaluate d.root).bind (·.unwrap many) = .ok none := by
      rcases hroot with ⟨-, null⟩ | ⟨hxml, ns, missing⟩
      · exact Source.unwrap_null null many
      · have hstays : p.steps.all Step.stays = false := hnothing.resolve_left (by rw [hxml]; nofun)
        refine Source.unwrap_nowhere ?_ many
        rw [p.resolve_leaf (Node.isLeaf_missing missing), hstays]
        rfl
    -- the empty list stands for no value either, and its assignment can be left out
    have hempty : ((Source.literal (.list [])).evaluate d.root).bind (·.unwrap many) = .ok none := rfl
    rw [process_replace opened placed (hunwrap.trans hempty.symm), process_withAssignments opened,
      process_withAssignments opened]
    exact (Assignment.isSkipped_emptyList name transform? many d.record d.root m.cls before after []).map _
  · intro hxml hstays
    rcases hroot with ⟨hjson, -⟩ | ⟨-, ns, missing⟩
    · rw [hxml] at hjson
      cases hjson
    · exact process_replace opened placed (Source.unwrap_missing missing hstays many)

/-- assignments for what is on the cover, if there is one -/
def coverMapping (format : Format) (as : List (Assignment Path)) : Mapping :=
  ⟨⟨"Aggregation", true⟩, format, [.str "$.cover"], as⟩

/-- the titles on the cover -/
def coverTitles : Assignment Path :=
  .property "title" (.path ⟨"$.title", [.child "title"]⟩) none true

/-- the cover itself, in lower case -/
def coverLabel : Assignment Path :=
  .property "label" (.path Path.root) (some .lower) false

/-- a title without a cover -/
def bareTitle : Format → Record
  | .json => .harvested (.dict [("title", .str "Maps")]) none
  | .xml => .harvested (.str "<r><title>Maps</title></r>") none

theorem coverMapping_missesRoot (format : Format) (as : List (Assignment Path)) :
    (coverMapping format as).MissesRoot (bareTitle format) := by
  have hread : Path.read "$.cover" = .ok ⟨"$.cover", [.child "cover"]⟩ := rfl
  have hfew : (coverMapping format as).arguments.length ≤ (coverMapping format as).format.mostArguments := by
    cases format <;> simp [coverMapping, Format.mostArguments]
  cases format with
  | json => exact ⟨hfew, _, _, _, _, rfl, rfl, rfl, hread, rfl⟩
  | xml =>
    have hnowhere : (Document.decode 0 .xml (.str "<r><title>Maps</title></r>") [.str "$.cover"]).toOption.map
        (fun document => (Path.resolve ⟨"$.cover", [.child "cover"]⟩ document).length) = some 0 := by decide +kernel
    obtain ⟨document, hdecode, hlength⟩ := Option.map_eq_some_iff.1 hnowhere
    exact ⟨hfew, _, document, _, _, rfl, Failure.eq_ok_of_toOption hdecode, rfl, hread, List.length_eq_zero_iff.1 hlength⟩

/-- without a cover there is no label in JSON, and there are no titles in XML; but there the label is the empty text -/
theorem coverless_unmatched :
    (∀ format as, (coverMapping format as).MissesRoot (bareTitle format)) ∧
      ((coverMapping .json [coverLabel]).process (bareTitle .json)).outcome = .ok (.object ⟨"Aggregation", true⟩ []) ∧
      ((coverMapping .json [coverLabel]).process (bareTitle .json)).calls = [] ∧
      ((coverMapping .xml [coverTitles]).process (bareTitle .xml)).Matches ((coverMapping .xml []).process (bareTitle .xml)) ∧
      (coverMapping .xml [coverLabel]).process (bareTitle .xml) =
        (coverMapping .xml [.property "label" (.literal (.str "")) (some .lower) false]).process (bareTitle .xml) := by
  have placed : ∀ format a, (coverMapping format [a]).assignments = [] ++ a :: [] := fun _ _ => rfl
  have hjson := (unmatched_root (coverMapping_missesRoot .json [coverLabel]) (placed .json coverLabel)).1 (.inl rfl)
  have htitles := (unmatched_root (coverMapping_missesRoot .xml [coverTitles]) (placed .xml coverTitles)).1 (.inr rfl)
  have hlabel := (unmatched_root (coverMapping_missesRoot .xml [coverLabel]) (placed .xml coverLabel)).2 rfl rfl
  exact ⟨coverMapping_missesRoot, hjson.outcome, hjson.calls, htitles, hlabel⟩

/-- in XML the label is set without a cover, and its transform is called -/
theorem coverless_label_set :
    (coverMapping .xml [coverLabel]).MissesRoot (bareTitle .xml) ∧
      ((coverMapping .xml [coverLabel]).process (bareTitle .xml)).outcome =
        .ok (.object ⟨"Aggregation", true⟩ [("label", .str "")]) ∧
      ((coverMapping .xml [coverLabel]).process (bareTitle .xml)).calls = [(.lower, .str "")] := by
  have misses := coverMapping_missesRoot .xml [coverLabel]
  obtain ⟨d, opened, ⟨hjson, -⟩ | ⟨-, ns, missing⟩⟩ := misses.exists_document
  · cases hjson
  · have placed : (coverMapping .xml [coverLabel]).assignments = [] ++ coverLabel :: [] := rfl
    have hempty : ((Source.path Path.root).evaluate d.root).bind (·.unwrap false) =
        ((Source.literal (.str "")).evaluate d.root).bind (·.unwrap false) := Source.unwrap_missing missing rfl false
    rw [process_replace opened placed hempty, process_withAssignments opened]
    exact ⟨misses, rfl, rfl⟩

end Mapping

end Harvest
