/-
Nested blocks. What a block gives for a node depends on the node alone, not on the way that led there: by the path of a nested
property from the root of a document, or by the root path of a mapping that has the block at top level. Nor does it depend on
what was mapped before, unless the block assigns all properties at once somewhere and so may lend a literal.

- `process_nesting`: a mapping with one nested property runs the block for the nodes in order.
- `process_rooted`: a mapping with the block at top level, and the path as root path, runs the block for the first node.
- `nested_rerooted`: both together.
- `nested_exceptions`: a name that is no property, and a block that lends a literal.
-/
import Harvest.Proofs.Document
import Harvest.Proofs.Mapping.Lending

namespace Harvest

open Run

/-- a block run for a node: the object of the class that its assignments make from nothing -/
def runBlock (record : String) (cls : ObjectClass) (block : List (Assignment Path)) (n : Node) : Run Data :=
  (Assignment.applyAll record n cls block []).map (Data.object cls)

/-- many objects are a list, be it of one -/
theorem nestedValue_many {record name : String} {objects : List Data} (h : objects ≠ []) :
    nestedValue record name true objects = done (some (.list objects)) := by
  match objects with
  | [] => exact absurd rfl h
  | [_] => rfl
  | _ :: _ :: _ => rfl

namespace Mapping

/-- the arguments for a root path and what else a format takes -/
def rootedAt (p : Path) (more : List Data) : List Data :=
  .str p.expression :: more

variable {format : Format} {record : Record} {more : List Data} {d : Document} {p : Path} {n : Node} {rest : List Node}

/-- a mapping whose only assignment is a nested property with many objects runs its block for each node, and sets the property
to the list of the objects -/
theorem process_nesting (outer cls : ObjectClass) (x : String) (block : List (Assignment Path))
    (opened : Document.ofRecord 0 format record (rootedAt .root more) = .ok d) (found : p.resolve d.root = n :: rest) :
    ((⟨outer, format, rootedAt .root more, [.nested x cls (some p) true block]⟩ : Mapping).process record).outcome =
      (each (runBlock d.record cls block) (n :: rest)).outcome.bind fun objects =>
        (outer.set [] x (.list objects)).map (Data.object outer) := by
  rw [process, opened, show (ofExcept (Except.ok d)) = done d from rfl, done_bind, build, Assignment.applyAll,
    Assignment.evaluate, nestedContexts, found, bind_assoc, bind_map]
  change ((each (runBlock d.record cls block) (n :: rest)).bind _).outcome = _
  cases hobjects : (each (runBlock d.record cls block) (n :: rest)).outcome with
  | error e =>
    rw [bind_of_error hobjects]
    rfl
  | ok objects =>
    have hne : objects ≠ [] := by
      rintro rfl
      cases each_ok_iff.1 hobjects
    rw [bind_of_ok hobjects, nestedValue_many hne, done_bind, Assignment.name, assign]
    change _ = (outer.set [] x (.list objects)).map (Data.object outer)
    cases outer.set [] x (.list objects) <;> rfl

/-- a mapping with the block at top level runs it for the first node of its root path -/
theorem process_rooted (cls : ObjectClass) (block : List (Assignment Path)) (valid : Path.read p.expression = .ok p)
    (opened : Document.ofRecord 0 format record (rootedAt .root more) = .ok d) (found : p.resolve d.root = n :: rest) :
    (⟨cls, format, rootedAt p more, block⟩ : Mapping).process record = runBlock d.record cls block n := by
  have hroot : Document.ofRecord 0 format record (rootedAt p more) = .ok { d with root := n } := by
    rw [rootedAt, Document.ofRecord_reroot opened valid, Document.selectRoot_of_resolve found]
  rw [process, hroot]
  exact done_bind _ _

/-- **A nested block is a mapping with another root.** A nested property with many objects gets one object for each node, in
order, each being what the block makes of the node alone, or the mapping fails as the block does for the first node that it
fails for. With the block at top level and the path as root path, the outcome is that of the first node. All this holds
whatever records were mapped before, if the block nowhere assigns all properties at once.

No list can be set under the names of what objects keep for themselves, so with those the mapping fails when all objects are
there. -/
theorem nested_rerooted (outer cls : ObjectClass) (x : String) (block : List (Assignment Path))
    (valid : Path.read p.expression = .ok p) (opened : Document.ofRecord 0 format record (rootedAt .root more) = .ok d)
    (found : p.resolve d.root = n :: rest) (singly : Assignment.anyReplacesAll block = false) (past : List Record) :
    let nested : Mapping := ⟨outer, format, rootedAt .root more, [.nested x cls (some p) true block]⟩
    let rooted : Mapping := ⟨cls, format, rootedAt p more, block⟩
    ((∃ first others, List.Forall₂ (fun m o => (runBlock d.record cls block m).outcome = .ok o) (n :: rest) (first :: others) ∧
        (rooted.processAfter past record).outcome = .ok first ∧
        (ObjectClass.isReserved x = false →
          (nested.processAfter past record).outcome = .ok (.object outer [(x, .list (first :: others))])) ∧
        (ObjectClass.isReserved x = true →
          ∃ e, outer.set [] x (.list (first :: others)) = .error e ∧ (nested.processAfter past record).outcome = .error e)) ∨
      ∃ before m e, FirstFails (runBlock d.record cls block) (n :: rest) before m e ∧
        (nested.processAfter past record).outcome = .error e) ∧
    rooted.processAfter past record = runBlock d.record cls block n ∧
    ∀ e, (rooted.processAfter past record).outcome = .error e → (nested.processAfter past record).outcome = .error e := by
  intro nested rooted
  have hnested := process_nesting outer cls x block opened found
  have hrooted : rooted.processAfter past record = runBlock d.record cls block n := by
    rw [processAfter_of_not_replacesAll (m := rooted) singly]
    exact process_rooted cls block valid opened found
  have hordinary : ObjectClass.isReserved x = false → nested.processAfter past record = nested.process record := by
    intro ordinary
    refine processAfter_of_not_replacesAll ?_ past record
    simp only [ObjectClass.isReserved, Bool.or_eq_false_iff] at ordinary
    simp [nested, replacesAll, Assignment.anyReplacesAll, Assignment.replacesAll, ordinary.1.2, singly]
  have hfails : ∀ before m e, FirstFails (runBlock d.record cls block) (n :: rest) before m e →
      (nested.processAfter past record).outcome = .error e := by
    intro before m e hfirst
    refine map_error_iff.2 ?_
    rw [hnested, each_error_iff.2 ⟨before, m, hfirst⟩]
    rfl
  refine ⟨?_, hrooted, ?_⟩
  · rcases succeed_or_firstFails (runBlock d.record cls block) (n :: rest) with hall | ⟨before, m, e, hfirst⟩
    · obtain ⟨objects, hobjects⟩ := each_succeeds_iff.2 hall
      have hbuilt := each_ok_iff.1 hobjects
      obtain ⟨first, others, hfirst, -, rfl⟩ := List.forall₂_cons_left_iff.1 hbuilt
      refine Or.inl ⟨first, others, hbuilt, ?_, ?_, ?_⟩
      · rw [hrooted, hfirst]
      · intro ordinary
        rw [hordinary ordinary, hnested, hobjects, Except.bind, ObjectClass.set_of_not_reserved ordinary]
        rfl
      · intro reserved
        obtain ⟨e, he⟩ := ObjectClass.set_list_of_reserved reserved outer [] (first :: others)
        refine ⟨e, he, map_error_iff.2 ?_⟩
        rw [hnested, hobjects, Except.bind, he]
        rfl
    · exact Or.inr ⟨before, m, e, hfirst, hfails before m e hfirst⟩
  · intro e he
    rw [hrooted] at he
    exact hfails [] n e (.here he rest)

/-! ### Parts of a book -/

/-- a book in parts, of which one has two pages and one has one -/
def bookRecord : Record :=
  .harvested (.dict [("parts", .list [.dict [("pages", .list [.dict [("n", .int 1)], .dict [("n", .int 2)]])],
    .dict [("pages", .dict [("n", .int 3)])]])]) none

def partsPath : Path := ⟨"$.parts", [.child "parts"]⟩

/-- a nested property inside the nested property -/
def pagesBlock : List (Assignment Path) :=
  [.nested "page" ⟨"Page", true⟩ (some ⟨"$.pages", [.child "pages"]⟩) true
    [.property "number" (.path ⟨"$.n", [.child "n"]⟩) none false]]

/-- with the parts as roots, the pages of the first part are the outcome -/
theorem book_rerooted :
    ∃ d n rest, Path.read partsPath.expression = .ok partsPath ∧
      Document.ofRecord 0 .json bookRecord (rootedAt .root []) = .ok d ∧ partsPath.resolve d.root = n :: rest ∧
      (⟨⟨"Part", true⟩, .json, rootedAt partsPath [], pagesBlock⟩ : Mapping).processAfter [bookRecord] bookRecord =
        runBlock d.record ⟨"Part", true⟩ pagesBlock n ∧ rest.length = 1 := by
  have valid : Path.read partsPath.expression = .ok partsPath := rfl
  have opened : Document.ofRecord 0 .json bookRecord (rootedAt .root []) = .ok _ := rfl
  refine ⟨_, _, _, valid, opened, rfl, ?_, rfl⟩
  exact (nested_rerooted ⟨"Book", true⟩ ⟨"Part", true⟩ "part" pagesBlock valid opened rfl rfl [bookRecord]).2.1

/-- a mapping of nothing to an object, nested under the name of the class -/
def classNesting : Mapping :=
  ⟨⟨"Aggregation", true⟩, .json, rootedAt .root [],
    [.nested ObjectClass.classSlot ⟨"Resource", true⟩ (some .root) true []]⟩

def blankRecord : Record := .harvested (.dict []) none

/-- a literal in the place of all properties, and a property after it -/
def lendingBlock : List (Assignment Path) := [
  .property ObjectClass.propertiesSlot (.literal (.dict [("a", .int 1)])) none false,
  .property "b" (.path ⟨"$.b", [.child "b"]⟩) none false]

/-- an object for each part, all with the one literal -/
def lendingNesting : Mapping :=
  ⟨⟨"Aggregation", true⟩, .json, rootedAt .root [], [.nested "x" ⟨"Resource", true⟩ (some partsPath) true lendingBlock]⟩

/-- two parts, of which the first has a `b` -/
def unevenRecord : Record :=
  .harvested (.dict [("parts", .list [.dict [("b", .int 5)], .dict []])]) none

/-- Nothing can be set under the name of the class, though the block succeeds for the only node. And of two parts that share a
literal, the second gets the `b` of the first, which the block does not give it alone. -/
theorem nested_exceptions :
    (∃ d, Document.ofRecord 0 .json blankRecord (rootedAt .root []) = .ok d ∧ Path.root.resolve d.root = [d.root] ∧
      (runBlock d.record ⟨"Resource", true⟩ [] d.root).outcome = .ok (.object ⟨"Resource", true⟩ []) ∧
      (classNesting.processAfter [] blankRecord).outcome = .error (.notClass ObjectClass.classSlot "list") ∧
      ¬((∃ objects, List.Forall₂ (fun m o => (runBlock d.record ⟨"Resource", true⟩ [] m).outcome = .ok o) [d.root] objects ∧
          (classNesting.processAfter [] blankRecord).outcome =
            .ok (.object classNesting.cls [(ObjectClass.classSlot, .list objects)])) ∨
        ∃ before m e, FirstFails (runBlock d.record ⟨"Resource", true⟩ []) [d.root] before m e ∧
          (classNesting.processAfter [] blankRecord).outcome = .error e)) ∧
    ∃ d first second, Document.ofRecord 0 .json unevenRecord (rootedAt .root []) = .ok d ∧
      partsPath.resolve d.root = [first, second] ∧
      (runBlock d.record ⟨"Resource", true⟩ lendingBlock second).outcome = .ok (.object ⟨"Resource", true⟩ [("a", .int 1)]) ∧
      (lendingNesting.processAfter [] unevenRecord).outcome =
        .ok (.object lendingNesting.cls
          [("x", .list (List.replicate 2 (.object ⟨"Resource", true⟩ [("a", .int 1), ("b", .int 5)])))]) := by
  have hfails : (classNesting.processAfter [] blankRecord).outcome = .error (.notClass ObjectClass.classSlot "list") := rfl
  refine ⟨⟨_, rfl, rfl, rfl, hfails, ?_⟩, _, _, _, rfl, rfl, rfl, rfl⟩
  rintro (⟨objects, -, h⟩ | ⟨before, m, e, hfirst, -⟩)
  · rw [hfails] at h
    cases h
  · obtain rfl := List.mem_singleton.1 hfirst.mem
    cases hfirst.2.2

end Mapping

end Harvest
