/-
What a mapping does not read. Operations, sources and assignments look at the contents of nodes only, so in contexts that are
alike they give the same. At the root of a JSON document a mapping may follow child names only; then all that it gives comes
from nodes below these names, and what stands under any other name does not matter.

- `Operation.apply_alike`: an operation on results that are alike, with operands that are alike in both contexts.
- `Assignment.evaluate_alike`: in contexts that are alike an assignment gives the same and calls the same.
- `StartsBeside`: what starts at the root by following a child name other than `k`.
- `process_independent`: a mapping all of whose sources start so does not depend on what stands under `k`.
-/
import Harvest.Proofs.Document
import Harvest.Proofs.Mapping.Spelling
import Harvest.Proofs.Mapping.Trace
import Harvest.Proofs.Node.Alike
import Harvest.Proofs.Results

namespace Harvest

/-! ## Items -/

namespace Item

/-- the items are one piece of plain data, or nodes that are alike -/
inductive Alike : Item → Item → Prop
  | node {m n : Node} (alike : m.Alike n) : Alike (.node m) (.node n)
  | plain (d : Data) : Alike (.plain d) (.plain d)

/-- arrays of items that are alike one by one -/
abbrev AlikeItems : List Item → List Item → Prop :=
  List.Forall₂ Alike

theorem Alike.refl (e : Item) : e.Alike e := by
  cases e with
  | node n => exact .node rfl
  | plain d => exact .plain d

theorem alikeItems_nodes {ms ns : List Node} (alike : AlikeNodes ms ns) : AlikeItems (ms.map node) (ns.map node) :=
  List.rel_map (fun _ _ h => .node h) alike

theorem alikeItems_refl (es : List Item) : AlikeItems es es :=
  List.forall₂_same.2 fun e _ => .refl e

section

variable {e e' : Item} {es es' : List Item} {α : Type} {R : α → α → Prop}

/-- what agrees on items that are alike gives results that agree on all of them -/
theorem collect_alike {f : Item → Except Failure (List α)}
    (agree : ∀ e e', Alike e e' → Agree (List.Forall₂ R) (f e) (f e')) (alike : AlikeItems es es') :
    Agree (List.Forall₂ R) (collect f es) (collect f es') := by
  induction alike with
  | nil => exact .ok .nil
  | @cons e e' _ _ h _ ih =>
    rw [collect, collect]
    exact (agree e e' h).both (fun e => .error e) fun _ _ related => ih.map fun _ _ h => List.rel_append related h

theorem children_alike (name : String) (alike : Alike e e') : Agree AlikeItems (children name e) (children name e') := by
  cases alike with
  | node h => exact .ok (alikeItems_nodes (h.children name))
  | plain d => exact .error _

theorem follow_alike (names : List String) (alike : AlikeItems es es') :
    Agree AlikeItems (follow es names) (follow es' names) := by
  induction names generalizing es es' with
  | nil => exact .ok alike
  | cons name rest ih =>
    rw [follow, follow]
    exact (collect_alike (fun _ _ => children_alike name) alike).both (fun e => .error e) fun _ _ found => ih found

theorem followAll_alike (chains : List (List String)) (alike : AlikeItems es es') :
    Agree AlikeItems (followAll es chains) (followAll es' chains) := by
  induction chains with
  | nil => exact .ok .nil
  | cons names rest ih =>
    rw [followAll, followAll]
    exact (follow_alike names alike).both (fun e => .error e) fun _ _ found => ih.map fun _ _ h => List.rel_append found h

theorem resolve_alike (p : Path) (alike : Alike e e') : Agree AlikeItems (resolve p e) (resolve p e') := by
  cases alike with
  | node h => exact .ok (alikeItems_nodes (p.resolve_alike h))
  | plain d => exact .of_eq rfl alikeItems_refl

/-- items that are kept for one reason are alike if they were so before -/
theorem kept_alike (alike : Alike e e') (kept : Bool) :
    AlikeItems (if kept then [e] else []) (if kept then [e'] else []) := by
  cases kept with
  | true => exact .cons alike .nil
  | false => exact .nil

theorem keep_alike (p : Predicate) (wanted : Bool) (alike : Alike e e') :
    Agree AlikeItems (keep p wanted e) (keep p wanted e') := by
  cases alike with
  | @node m n h =>
    rw [keep, keep, show m.content = n.content from h]
    exact Agree.map (.of_eq rfl fun _ => rfl) fun a b (same : a = b) => same ▸ kept_alike (.node h) _
  | plain d => exact .of_eq rfl alikeItems_refl

theorem keepAttribute_alike (name : String) (expected : Data) (alike : Alike e e') :
    Agree AlikeItems (keepAttribute name expected e) (keepAttribute name expected e') := by
  cases alike with
  | @node m n h =>
    have hattribute : m.attribute name = n.attribute name := by
      rw [Node.attribute, Node.attribute, h.attribute]
    rw [keepAttribute, keepAttribute, asNode, asNode]
    dsimp only
    rw [hattribute]
    exact Agree.map (.of_eq rfl fun _ => rfl) fun a b (same : a = b) => same ▸ kept_alike (.node h) _
  | plain d => exact .error _

theorem value_alike (alike : Alike e e') : value e = value e' := by
  cases alike with
  | node h => exact h.value
  | plain d => rfl

theorem apply_alike (f : NodeFunction) (alike : Alike e e') : apply f e = apply f e' := by
  cases alike with
  | @node m n h => exact congrArg f.apply h
  | plain d => rfl

/-- one result for each item is the same for items that are alike -/
theorem collect_single_alike {f : Item → Except Failure α} (same : ∀ e e', Alike e e' → f e = f e')
    (alike : AlikeItems es es') : collect (single f) es = collect (single f) es' := by
  induction alike with
  | nil => rfl
  | @cons e e' _ _ h _ ih => rw [collect, collect, single, single, same e e' h, ih]

end

end Item

/-! ## Operations -/

/-- the results are one piece of plain data, or arrays of items that are alike -/
inductive Resolved.Alike : Resolved → Resolved → Prop
  | array {es es' : List Item} (alike : Item.AlikeItems es es') : Alike (.array es) (.array es')
  | plain (d : Data) : Alike (.plain d) (.plain d)

/-- what operations give agrees -/
abbrev AlikeResults : Except Failure Resolved → Except Failure Resolved → Prop :=
  Agree Resolved.Alike

theorem Resolved.onArray_alike {capability : Capability} {f g : List Item → Except Failure Resolved} {r r' : Resolved}
    (agree : ∀ es es', Item.AlikeItems es es' → AlikeResults (f es) (g es')) (alike : r.Alike r') :
    AlikeResults (r.onArray capability f) (r'.onArray capability g) := by
  cases alike with
  | array h => exact agree _ _ h
  | plain d => exact .error _

/-- results that are alike can be put into arrays in the same way, or not at all -/
theorem Resolved.Alike.items? {r r' : Resolved} (alike : r.Alike r') :
    r.items? = none ∧ r'.items? = none ∨
      ∃ es es', r.items? = some es ∧ r'.items? = some es' ∧ Item.AlikeItems es es' := by
  cases alike with
  | array h => exact Or.inr ⟨_, _, rfl, rfl, h⟩
  | plain d =>
    cases d with
    | list items => exact Or.inr ⟨_, _, rfl, rfl, Item.alikeItems_refl _⟩
    | _ => exact Or.inl ⟨rfl, rfl⟩

/-- an operation makes results that are alike of results that are alike, if its operand gives such results in both contexts -/
theorem Operation.apply_alike {context context' : Node} (op : Operation Path) {r r' : Resolved}
    (operands : ∀ operand, op = .concat operand →
      AlikeResults (Operation.evaluate operand context) (Operation.evaluate operand context'))
    (alike : r.Alike r') : AlikeResults (Operation.apply context op r) (Operation.apply context' op r') := by
  cases op with
  | field names => exact Resolved.onArray_alike (fun es es' h => (Item.follow_alike names h).map fun _ _ => .array) alike
  | fields chains => exact Resolved.onArray_alike (fun es es' h => (Item.followAll_alike chains h).map fun _ _ => .array) alike
  | path p =>
    rw [Operation.apply, Operation.apply]
    rcases alike.items? with ⟨hr, hr'⟩ | ⟨es, es', hr, hr', h⟩
    · rw [hr, hr']
      exact .error _
    · rw [hr, hr']
      exact (Item.collect_alike (fun _ _ => Item.resolve_alike p) h).map fun _ _ => .array
  | first => exact Resolved.onArray_alike (fun es es' h => .ok (.array (List.forall₂_take 1 h))) alike
  | last =>
    refine Resolved.onArray_alike (fun es es' h => ?_) alike
    rw [h.length_eq]
    exact .ok (.array (List.forall₂_drop _ h))
  | select p =>
    refine Resolved.onArray_alike (fun es es' h => ?_) alike
    exact (Item.collect_alike (fun _ _ => Item.keep_alike p true) h).map fun _ _ => .array
  | reject p =>
    refine Resolved.onArray_alike (fun es es' h => ?_) alike
    exact (Item.collect_alike (fun _ _ => Item.keep_alike p false) h).map fun _ _ => .array
  | matchAttribute name expected =>
    refine Resolved.onArray_alike (fun es es' h => ?_) alike
    exact (Item.collect_alike (fun _ _ => Item.keepAttribute_alike name expected) h).map fun _ _ => .array
  | concat operand =>
    have hoperand : AlikeResults (Operation.applyAll context operand (.array [.node context]))
        (Operation.applyAll context' operand (.array [.node context'])) := operands operand rfl
    rw [Operation.apply, Operation.apply]
    refine Resolved.onArray_alike (fun es es' h => ?_) alike
    refine hoperand.both (fun e => .error e) fun other other' hother => ?_
    dsimp only
    rcases hother.items? with ⟨hr, hr'⟩ | ⟨more, more', hr, hr', hmore⟩
    · rw [hr, hr']
      exact .error _
    · rw [hr, hr']
      exact .ok (.array (List.rel_append h hmore))
  | values =>
    refine Resolved.onArray_alike (fun es es' h => ?_) alike
    rw [Item.values, Item.values, Item.collect_single_alike (fun _ _ => Item.value_alike) h]
    exact Agree.map (.of_eq rfl fun _ => rfl) fun a b (same : a = b) => same ▸ .plain _
  | map f =>
    refine Resolved.onArray_alike (fun es es' h => ?_) alike
    rw [Item.collect_single_alike (fun _ _ => Item.apply_alike f) h]
    exact Agree.map (.of_eq rfl fun _ => rfl) fun a b (same : a = b) => same ▸ .plain _

theorem Operation.applyAll_alike {context context' : Node} (ops : Expression Path) {r r' : Resolved}
    (operands : ∀ operand, .concat operand ∈ ops →
      AlikeResults (Operation.evaluate operand context) (Operation.evaluate operand context'))
    (alike : r.Alike r') : AlikeResults (Operation.applyAll context ops r) (Operation.applyAll context' ops r') := by
  induction ops generalizing r r' with
  | nil => exact .ok alike
  | cons op rest ih =>
    have hop := op.apply_alike (fun operand h => operands operand (h ▸ List.mem_cons_self)) alike
    rw [applyAll, applyAll]
    exact hop.both (fun e => .error e) fun _ _ h => ih (fun operand hmem => operands operand (List.mem_cons_of_mem op hmem)) h

/-- an expression gives results that are alike in contexts that are alike -/
theorem Operation.evaluate_alike {context context' : Node} (alike : context.Alike context') (ops : Expression Path) :
    AlikeResults (Operation.evaluate ops context) (Operation.evaluate ops context') := by
  exact applyAll_alike ops (fun operand _ => evaluate_alike alike operand) (.array (.cons (.node alike) .nil))
termination_by sizeOf ops
decreasing_by
  have hsize : sizeOf (Operation.concat operand) < sizeOf ops := List.sizeOf_lt_of_mem ‹_›
  rw [Operation.concat.sizeOf_spec] at hsize
  omega

/-! ## Sources and assignments -/

theorem Source.evaluate_alike {context context' : Node} (alike : context.Alike context') (source : Source Path) :
    AlikeResults (source.evaluate context) (source.evaluate context') := by
  cases source with
  | path p => exact .ok (.array (Item.alikeItems_nodes (p.resolve_alike alike)))
  | literal d => exact .ok (.plain d)
  | expression ops => exact Operation.evaluate_alike alike ops

theorem Resolved.Alike.unwrap {r r' : Resolved} (alike : r.Alike r') (many : Bool) : r.unwrap many = r'.unwrap many := by
  cases alike with
  | array h =>
    rw [Resolved.unwrap, Resolved.unwrap, Item.values, Item.values,
      Item.collect_single_alike (fun _ _ => Item.value_alike) h]
  | plain d => rfl

namespace Assignment

variable {record record' : String} {context context' : Node}

/-- a property gets the same from results that are alike, whatever the record is called -/
theorem propertyValue_matches {source : Source Path}
    (alike : AlikeResults (source.evaluate context) (source.evaluate context')) (name : String)
    (transform? : Option Transform) (many : Bool) :
    (propertyValue record context name source transform? many).Matches
      (propertyValue record' context' name source transform? many) := by
  rw [propertyValue, propertyValue]
  refine alike.both (fun _ => .refl _) fun r r' h => ?_
  rw [Run.ofExcept_ok_bind, Run.ofExcept_ok_bind, h.unwrap many]
  refine (Run.Matches.refl _).bind fun v? => ?_
  cases v? with
  | none => exact ⟨rfl, rfl⟩
  | some d => exact .refl _

theorem applyAll_matches {as : List (Assignment Path)}
    (same : ∀ a ∈ as, (a.evaluate record context).Matches (a.evaluate record' context')) (cls : ObjectClass)
    (ps : List (String × Data)) : (applyAll record context cls as ps).Matches (applyAll record' context' cls as ps) := by
  induction as generalizing ps with
  | nil =>
    rw [applyAll, applyAll]
    exact .refl _
  | cons a rest ih =>
    obtain ⟨hfirst, hrest⟩ := List.forall_mem_cons.1 same
    rw [applyAll, applyAll]
    exact hfirst.bind fun v? => (Run.Matches.refl _).bind fun qs => ih hrest qs

/-- a nested property gets the same from nodes for which its body does the same -/
theorem nested_matches {R : Node → Node → Prop} {path? : Option Path} {inner : ObjectClass} {body : List (Assignment Path)}
    (contexts : List.Forall₂ R (nestedContexts context path?) (nestedContexts context' path?))
    (same : ∀ m n, R m n → ∀ a ∈ body, (a.evaluate record m).Matches (a.evaluate record' n)) (name : String) (many : Bool) :
    ((nested name inner path? many body).evaluate record context).Matches
      ((nested name inner path? many body).evaluate record' context') := by
  rw [evaluate, evaluate]
  refine Run.Matches.bind ?_ fun objects => ?_
  · exact Run.Matches.each contexts fun m n h => (applyAll_matches (same m n h) inner []).map _
  · cases objects with
    | nil => exact ⟨rfl, rfl⟩
    | cons o os => exact .refl _

/-- in contexts that are alike an assignment gives the same and calls the same -/
theorem evaluate_alike (record record' : String) {context context' : Node} (alike : context.Alike context')
    (a : Assignment Path) : (a.evaluate record context).Matches (a.evaluate record' context') := by
  cases a with
  | property name source transform? many =>
    rw [evaluate, evaluate]
    exact propertyValue_matches (source.evaluate_alike alike) name transform? many
  | nested name inner path? many body =>
    have hcontexts : AlikeNodes (nestedContexts context path?) (nestedContexts context' path?) := by
      cases path? with
      | none => exact .cons alike .nil
      | some p => exact p.resolve_alike alike
    exact nested_matches hcontexts (fun m n h b _ => evaluate_alike record record' h b) name many
termination_by sizeOf a
decreasing_by
  have hsize : sizeOf b < sizeOf body := List.sizeOf_lt_of_mem ‹_›
  rw [nested.sizeOf_spec]
  omega

end Assignment

/-! ## Starting beside a key -/

/-- the path starts with a child name other than `k` -/
def Path.StartsBeside (k : String) (p : Path) : Prop :=
  ∃ name rest, p.steps = .child name :: rest ∧ name ≠ k

/-- the operation starts with child names other than `k` -/
inductive Operation.StartsBeside (k : String) : Operation Path → Prop
  | field {name : String} {rest : List String} (other : name ≠ k) : StartsBeside k (.field (name :: rest))
  | fields {chains : List (List String)} (others : ∀ names ∈ chains, ∃ name rest, names = name :: rest ∧ name ≠ k) :
    StartsBeside k (.fields chains)
  | path {p : Path} (starts : p.StartsBeside k) : StartsBeside k (.path p)

/-- the first operation starts with child names other than `k`, and so do the operands, which are evaluated in the context too
-/
inductive Expression.StartsBeside (k : String) : Expression Path → Prop
  | intro {op : Operation Path} {rest : Expression Path} (first : op.StartsBeside k)
    (operands : ∀ operand, .concat operand ∈ rest → StartsBeside k operand) : StartsBeside k (op :: rest)

/-- the source is a literal, or starts with child names other than `k` -/
inductive Source.StartsBeside (k : String) : Source Path → Prop
  | literal (d : Data) : StartsBeside k (.literal d)
  | path {p : Path} (starts : p.StartsBeside k) : StartsBeside k (.path p)
  | expression {ops : Expression Path} (starts : Expression.StartsBeside k ops) : StartsBeside k (.expression ops)

/-- all sources and paths that are evaluated in the context start with child names other than `k`. What is in the body of a
nested property with a path does not count, since it has other contexts -/
inductive Assignment.StartsBeside (k : String) : Assignment Path → Prop
  | property {source : Source Path} (name : String) (starts : source.StartsBeside k) (transform? : Option Transform)
    (many : Bool) : StartsBeside k (.property name source transform? many)
  | nested {p : Path} (name : String) (inner : ObjectClass) (starts : p.StartsBeside k) (many : Bool)
    (body : List (Assignment Path)) : StartsBeside k (.nested name inner (some p) many body)
  | inPlace {body : List (Assignment Path)} (name : String) (inner : ObjectClass) (many : Bool)
    (starts : ∀ a ∈ body, StartsBeside k a) : StartsBeside k (.nested name inner none many body)

section

variable {k : String} {m n : Node}

theorem Path.resolve_beside (beside : Node.AlikeBeside k m n) {p : Path} (starts : p.StartsBeside k) :
    AlikeNodes (p.resolve m) (p.resolve n) := by
  obtain ⟨name, rest, hsteps, other⟩ := starts
  rw [Path.resolve, Path.resolve, hsteps]
  exact beside.resolveSteps other rest

theorem followNames_beside (beside : Node.AlikeBeside k m n) {name : String} (other : name ≠ k) (rest : List String) :
    AlikeNodes (followNames [m] (name :: rest)) (followNames [n] (name :: rest)) := by
  rw [followNames_eq, followNames_eq]
  exact beside.resolveSteps other (rest.map .child)

theorem Operation.apply_beside (beside : Node.AlikeBeside k m n) {op : Operation Path} (starts : op.StartsBeside k) :
    AlikeResults (op.apply m (.array [.node m])) (op.apply n (.array [.node n])) := by
  -- in both contexts the operation cannot fail, and gives nodes
  have hnodes : ∀ f : Node → List Node, (∀ x, op.apply x (.array [.node x]) = .ok (.array ((f x).map .node))) →
      AlikeNodes (f m) (f n) → AlikeResults (op.apply m (.array [.node m])) (op.apply n (.array [.node n])) := by
    intro f hf alike
    rw [hf, hf]
    exact .ok (.array (Item.alikeItems_nodes alike))
  cases starts with
  | @field name rest other =>
    refine hnodes (fun x => followNames [x] (name :: rest)) (fun x => ?_) (followNames_beside beside other rest)
    exact congrArg (Except.map Resolved.array) (Item.follow_nodes (name :: rest) [x])
  | @fields chains others =>
    refine hnodes (fun x => chains.flatMap (followNames [x])) (fun x => ?_) ?_
    · exact congrArg (Except.map Resolved.array) (Item.followAll_nodes chains [x])
    · refine flatMap_alike (R := fun a b => a = b ∧ a ∈ chains) ?_ ?_
      · exact List.forall₂_same.2 fun names hmem => ⟨rfl, hmem⟩
      · rintro names _ ⟨rfl, hmem⟩
        obtain ⟨name, rest, rfl, other⟩ := others names hmem
        exact followNames_beside beside other rest
  | @path p starts =>
    refine hnodes p.resolve (fun x => ?_) (p.resolve_beside beside starts)
    have hpath := applyAll_path p x
    rw [applyAll] at hpath
    split at hpath
    · cases hpath
    · rename_i r hr
      rw [hr]
      exact hpath

theorem Operation.evaluate_beside (beside : Node.AlikeBeside k m n) {ops : Expression Path}
    (starts : Expression.StartsBeside k ops) : AlikeResults (evaluate ops m) (evaluate ops n) := by
  induction starts with
  | @intro op rest first _ ih =>
    rw [evaluate, evaluate, applyAll, applyAll]
    exact (apply_beside beside first).both (fun e => .error e) fun _ _ h => applyAll_alike rest ih h

theorem Source.evaluate_beside (beside : Node.AlikeBeside k m n) {source : Source Path} (starts : source.StartsBeside k) :
    AlikeResults (source.evaluate m) (source.evaluate n) := by
  cases starts with
  | literal d => exact .ok (.plain d)
  | path starts => exact .ok (.array (Item.alikeItems_nodes (Path.resolve_beside beside starts)))
  | expression starts => exact Operation.evaluate_beside beside starts

/-- in mappings that differ under `k` only, an assignment that starts beside `k` gives the same and calls the same -/
theorem Assignment.evaluate_beside (record record' : String) (beside : Node.AlikeBeside k m n) {a : Assignment Path}
    (starts : a.StartsBeside k) : (a.evaluate record m).Matches (a.evaluate record' n) := by
  induction starts generalizing m n with
  | @property source name starts transform? many =>
    rw [evaluate, evaluate]
    exact propertyValue_matches (source.evaluate_beside beside starts) name transform? many
  | nested name inner starts many body =>
    have hcontexts := Path.resolve_beside beside starts
    exact nested_matches hcontexts (fun x y h b _ => b.evaluate_alike record record' h) name many
  | inPlace name inner many _ ih =>
    have hcontexts : List.Forall₂ (Node.AlikeBeside k) (nestedContexts m none) (nestedContexts n none) :=
      .cons beside .nil
    exact nested_matches hcontexts (fun x y h b hb => ih b hb h) name many

end

namespace Mapping

/-- **Fields that a mapping does not name do not influence it.** The mapping starts at the root of JSON documents, and all that
it evaluates there starts with a child name other than `k`. Then documents that have the same value under every other key are
mapped alike: to the same object with the same properties in the same order, or with the same failure, and after the same
calls of transforms. -/
theorem process_independent {m : Mapping} {k : String} (json : m.format = .json)
    (atRoot : m.arguments.headD (.str Path.root.expression) = .str Path.root.expression)
    (starts : ∀ a ∈ m.assignments, a.StartsBeside k) {record record' : Record} {c c' : Data} {es fs : List (String × Data)}
    (content : record.content = .ok c) (content' : record'.content = .ok c')
    (decoded : Document.decodeJson c = .ok (.dict es)) (decoded' : Document.decodeJson c' = .ok (.dict fs))
    (same : Entries.SameBeside k es fs) : (m.process record).Matches (m.process record') := by
  -- opening checks the arguments, which are the same for both, and gives the document itself as the root
  have hopen : ∀ {r : Record} {d tree : Data}, r.content = .ok d → Document.decodeJson d = .ok tree →
      Document.ofRecord 0 m.format r m.arguments =
        if m.format.mostArguments < m.arguments.length then
          .error (.extraArguments (m.format.readerName ++ ".__init__") m.format.mostArguments m.arguments.length)
        else .ok ⟨m.format, r.name, ⟨0, [], .json tree, none⟩⟩ := by
    intro r d tree hcontent hdecoded
    have htree : Document.decode 0 m.format d m.arguments = .ok ⟨0, [], .json tree, none⟩ := by
      rw [json, Document.decode, hdecoded]
    rw [Document.ofRecord, hcontent, atRoot, Document.rootPathOf_str Document.read_root]
    dsimp only
    rw [htree]
    rfl
  rw [process, process, hopen content decoded, hopen content' decoded']
  split
  · exact .refl _
  · rw [Run.ofExcept_ok_bind, Run.ofExcept_ok_bind, build, build]
    refine (Assignment.applyAll_matches (fun a ha => ?_) m.cls []).map _
    exact Assignment.evaluate_beside _ _ ⟨es, fs, rfl, rfl, same⟩ (starts a ha)

/-- titles and names from two places, parts with all that they hold, and a part in place -/
def besideMapping : Mapping :=
  ⟨⟨"Aggregation", true⟩, .json, [],
    [.property "title" (.expression [.field ["title"], .first]) (some .lower) false,
      .property "name" (.expression [.fields [["creator", "name"], ["title"]], .concat [.path ⟨"$.parts", [.child "parts"]⟩],
        .values]) none true,
      .nested "part" ⟨"Part", true⟩ (some ⟨"$.parts", [.child "parts"]⟩) true
        [.property "all" (.path ⟨"$.*", [.wildcard]⟩) (some (.join "; ")) true],
      .nested "source" ⟨"Source", true⟩ none false
        [.property "kind" (.literal (.str "Map")) none false,
          .property "note" (.path ⟨"$.parts.note", [.child "parts", .child "note"]⟩) (some .upper) false]]⟩

/-- a note at the root, and others in the parts -/
def besideEntries : List (String × Data) :=
  [("title", .str "Maps"), ("note", .str "unread"), ("parts", .list [.dict [("note", .str "old")], .dict []]),
    ("creator", .dict [("name", .str "Jan")])]

theorem besideMapping_startsBeside : ∀ a ∈ besideMapping.assignments, a.StartsBeside "note" := by
  have hparts : Path.StartsBeside "note" ⟨"$.parts", [.child "parts"]⟩ := ⟨"parts", [], rfl, by decide⟩
  have hnotes : Path.StartsBeside "note" ⟨"$.parts.note", [.child "parts", .child "note"]⟩ :=
    ⟨"parts", [.child "note"], rfl, by decide⟩
  simp only [besideMapping, List.forall_mem_cons, List.not_mem_nil, false_implies, implies_true, and_true]
  refine ⟨?_, ?_, .nested _ _ hparts _ _, .inPlace _ _ _ ?_⟩
  · exact .property _ (.expression (.intro (.field (by decide)) (by simp))) _ _
  · refine .property _ (.expression (.intro (.fields (by simp)) ?_)) _ _
    intro operand hmem
    obtain rfl : operand = [.path ⟨"$.parts", [.child "parts"]⟩] := by simpa using hmem
    exact .intro (.path hparts) (by simp)
  · simp only [List.forall_mem_cons, List.not_mem_nil, false_implies, implies_true, and_true]
    exact ⟨.property _ (.literal _) _ _, .property _ (.path hnotes) _ _⟩

/-- the note at the root can change or be left out; it is the notes of parts that are called with -/
theorem besideMapping_independent :
    (besideMapping.process (.harvested (.dict besideEntries) none)).Matches
      (besideMapping.process (.harvested (.dict (Entries.put besideEntries "note" (.list [.null, .int 1]))) none)) ∧
    (besideMapping.process (.harvested (.dict besideEntries) none)).Matches
      (besideMapping.process (.harvested (.dict (besideEntries.filter fun e => e.1 != "note")) none)) ∧
    (besideMapping.process (.harvested (.dict besideEntries) none)).calls =
      [(.lower, .str "Maps"), (.join "; ", .list [.str "old"]), (.upper, .str "old")] :=
  ⟨process_independent rfl rfl besideMapping_startsBeside rfl rfl rfl rfl (Entries.sameBeside_put besideEntries "note" _),
    process_independent rfl rfl besideMapping_startsBeside rfl rfl rfl rfl
      (Entries.sameBeside_filter besideEntries "note"), by rfl⟩

end Mapping

end Harvest
