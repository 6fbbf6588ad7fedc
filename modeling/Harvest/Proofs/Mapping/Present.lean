/-
Expressions of nodes. An operation that leaves an array of nodes one leads from nodes other than null to such nodes, as steps do.
It fails only where a node refuses it: a condition fails on the node, or the node has no attributes.

- `Item.collect_kept`: what conditions keep of nodes.
- `FindsNodes.apply`, `evaluate_present`: what operations, and expressions made of them, find.
- `null_never_surfaces`: no path and no such expression finds null, unless the context is null itself.
-/
import Harvest.Document
import Harvest.Proofs.Mapping.Spelling
import Harvest.Proofs.Node.Null

namespace Harvest

/-! ## Operations -/

/-- operations that leave an array of nodes one, and do not end it with plain data -/
inductive Operation.FindsNodes {π : Type} : Operation π → Prop
  | field (names : List String) : FindsNodes (.field names)
  | fields (chains : List (List String)) : FindsNodes (.fields chains)
  | path (p : π) : FindsNodes (.path p)
  | first : FindsNodes .first
  | last : FindsNodes .last
  | select (p : Predicate) : FindsNodes (.select p)
  | reject (p : Predicate) : FindsNodes (.reject p)
  | matchAttribute (name : String) (expected : Data) : FindsNodes (.matchAttribute name expected)
  | concat {operand : Expression π} (find : ∀ op ∈ operand, FindsNodes op) : FindsNodes (.concat operand)

/-- the node refuses the operation, or one in an operand of it: a condition fails on the node, or asking for an attribute does -/
inductive Operation.RefusedBy (n : Node) (e : Failure) : Operation Path → Prop
  | select {p : Predicate} (fails : p.holds n.content = .error e) : RefusedBy n e (.select p)
  | reject {p : Predicate} (fails : p.holds n.content = .error e) : RefusedBy n e (.reject p)
  | matchAttribute {name : String} {expected : Data} (fails : n.attribute name = .error e) :
      RefusedBy n e (.matchAttribute name expected)
  | operand {operand : Expression Path} {op : Operation Path} (inside : op ∈ operand) (refused : RefusedBy n e op) :
      RefusedBy n e (.concat operand)

/-- the result is an array of nodes other than null, or a failure for a reason -/
inductive FindsPresent (reason : Failure → Prop) : Except Failure Resolved → Prop
  | nodes {found : List Node} (present : ∀ n ∈ found, ¬n.IsNull) :
      FindsPresent reason (.ok (.array (found.map .node)))
  | failure {e : Failure} (because : reason e) : FindsPresent reason (.error e)

theorem FindsPresent.of_ok {reason : Failure → Prop} {r : Resolved} (finds : FindsPresent reason (.ok r)) :
    ∃ found : List Node, r = .array (found.map .node) ∧ ∀ n ∈ found, ¬n.IsNull := by
  generalize hresult : (.ok r : Except Failure Resolved) = result at finds
  cases finds with
  | nodes present =>
    cases hresult
    exact ⟨_, rfl, present⟩
  | failure because => cases hresult

/-- some node other than null refuses the operation so -/
def Operation.IsRefused (op : Operation Path) (e : Failure) : Prop :=
  ∃ n : Node, ¬n.IsNull ∧ op.RefusedBy n e

namespace Item

/-- what a condition keeps of nodes are some of them, unless it fails on one -/
theorem collect_kept {f : Item → Except Failure (List Item)} {fails : Node → Failure → Prop}
    (each : ∀ n, f (node n) = .ok [node n] ∨ f (node n) = .ok [] ∨ ∃ e, fails n e ∧ f (node n) = .error e)
    (nodes : List Node) :
    (∃ kept, collect f (nodes.map node) = .ok (kept.map node) ∧ kept ⊆ nodes) ∨
      ∃ n ∈ nodes, ∃ e, fails n e ∧ collect f (nodes.map node) = .error e := by
  induction nodes with
  | nil => exact .inl ⟨[], rfl, List.Subset.refl _⟩
  | cons n rest ih =>
    rw [List.map_cons, collect]
    rcases each n with hkept | hleft | ⟨e, hcause, hfails⟩
    · rcases ih with ⟨kept, hrest, hsubset⟩ | ⟨m, hm, e, hcause, hrest⟩
      · exact .inl ⟨n :: kept, by rw [hkept, hrest]; rfl, List.cons_subset_cons n hsubset⟩
      · exact .inr ⟨m, List.mem_cons_of_mem n hm, e, hcause, by rw [hkept, hrest]; rfl⟩
    · rcases ih with ⟨kept, hrest, hsubset⟩ | ⟨m, hm, e, hcause, hrest⟩
      · exact .inl ⟨kept, by rw [hleft, hrest]; rfl, List.subset_cons_of_subset n hsubset⟩
      · exact .inr ⟨m, List.mem_cons_of_mem n hm, e, hcause, by rw [hleft, hrest]; rfl⟩
    · exact .inr ⟨n, List.mem_cons_self, e, hcause, by rw [hfails]⟩

theorem keep_cases (p : Predicate) (wanted : Bool) (n : Node) :
    keep p wanted (node n) = .ok [node n] ∨ keep p wanted (node n) = .ok [] ∨
      ∃ e, p.holds n.content = .error e ∧ keep p wanted (node n) = .error e := by
  rw [keep]
  cases p.holds n.content with
  | error e => exact .inr (.inr ⟨e, rfl, rfl⟩)
  | ok b =>
    by_cases h : b = wanted
    · exact .inl (by simp [Except.map, h])
    · exact .inr (.inl (by simp [Except.map, h]))

theorem keepAttribute_cases (name : String) (expected : Data) (n : Node) :
    keepAttribute name expected (node n) = .ok [node n] ∨ keepAttribute name expected (node n) = .ok [] ∨
      ∃ e, n.attribute name = .error e ∧ keepAttribute name expected (node n) = .error e := by
  rw [keepAttribute, asNode]
  dsimp only
  cases n.attribute name with
  | error e => exact .inr (.inr ⟨e, rfl, rfl⟩)
  | ok v =>
    rw [Except.map]
    generalize (if expected.isNull = true then !v.isNull else v.same expected) = kept
    cases kept with
    | true => exact .inl rfl
    | false => exact .inr (.inl rfl)

end Item

namespace Operation

variable {context : Node} {nodes : List Node}

/-- what a condition keeps of nodes other than null, where the nodes it fails on refuse the operation -/
theorem findsPresent_kept {op : Operation Path} {f : Item → Except Failure (List Item)} {fails : Node → Failure → Prop}
    (each : ∀ n, f (.node n) = .ok [.node n] ∨ f (.node n) = .ok [] ∨ ∃ e, fails n e ∧ f (.node n) = .error e)
    (refuses : ∀ n e, fails n e → op.RefusedBy n e) (present : ∀ n ∈ nodes, ¬n.IsNull) :
    FindsPresent op.IsRefused ((Item.collect f (nodes.map .node)).map .array) := by
  rcases Item.collect_kept each nodes with ⟨kept, hkept, hsubset⟩ | ⟨n, hn, e, hfails, hcollect⟩
  · rw [hkept]
    exact .nodes fun m hm => present m (hsubset hm)
  · rw [hcollect]
    exact .failure ⟨n, present n hn, refuses n e hfails⟩

/-- operations each of which finds nodes other than null in such nodes do so one after the other -/
theorem applyAll_present {ops : Expression Path}
    (each : ∀ op ∈ ops, ∀ nodes : List Node, (∀ n ∈ nodes, ¬n.IsNull) →
      FindsPresent op.IsRefused (apply context op (.array (nodes.map .node))))
    (nodes : List Node) (present : ∀ n ∈ nodes, ¬n.IsNull) :
    FindsPresent (fun e => ∃ op ∈ ops, op.IsRefused e) (applyAll context ops (.array (nodes.map .node))) := by
  induction ops generalizing nodes with
  | nil => exact .nodes present
  | cons op rest ih =>
    obtain ⟨hop, hrest⟩ := List.forall_mem_cons.1 each
    have hfirst := hop nodes present
    rw [applyAll]
    generalize apply context op (.array (nodes.map .node)) = result at hfirst ⊢
    cases hfirst with
    | failure because => exact .failure ⟨op, List.mem_cons_self, because⟩
    | nodes found =>
      have hafter := ih hrest _ found
      dsimp only
      generalize applyAll context rest _ = last at hafter ⊢
      cases hafter with
      | nodes found => exact .nodes found
      | failure because =>
        obtain ⟨op', hop', hrefused⟩ := because
        exact .failure ⟨op', List.mem_cons_of_mem op hop', hrefused⟩

/-- an operation finds nodes other than null in such nodes, or one of these refuses it; the induction is on the operands -/
theorem FindsNodes.apply {op : Operation Path} (finds : op.FindsNodes) (start : ¬context.IsNull)
    (nodes : List Node) (present : ∀ n ∈ nodes, ¬n.IsNull) :
    FindsPresent op.IsRefused (Operation.apply context op (.array (nodes.map .node))) := by
  induction finds generalizing nodes with
  | field names =>
    rw [Operation.apply, Resolved.onArray, Item.follow_nodes, followNames_eq]
    exact .nodes (present_resolveSteps _ present)
  | fields chains =>
    rw [Operation.apply, Resolved.onArray, Item.followAll_nodes]
    refine .nodes fun m hm => ?_
    obtain ⟨names, -, hfound⟩ := List.mem_flatMap.1 hm
    rw [followNames_eq] at hfound
    exact present_resolveSteps _ present m hfound
  | path p =>
    have hresolve : ∀ n, Item.resolve p (.node n) = .ok ((p.resolve n).map .node) := fun _ => rfl
    simp only [Operation.apply, Resolved.items?, Item.collect_nodes hresolve]
    refine .nodes fun m hm => ?_
    obtain ⟨n, hn, hfound⟩ := List.mem_flatMap.1 hm
    exact p.present_resolve (present n hn) m hfound
  | first =>
    rw [Operation.apply, Resolved.onArray, ← List.map_take]
    exact .nodes fun m hm => present m (List.take_subset 1 nodes hm)
  | last =>
    rw [Operation.apply, Resolved.onArray, List.length_map, ← List.map_drop]
    exact .nodes fun m hm => present m (List.drop_subset _ nodes hm)
  | select p =>
    rw [Operation.apply, Resolved.onArray]
    exact findsPresent_kept (Item.keep_cases p true) (fun n e => .select) present
  | reject p =>
    rw [Operation.apply, Resolved.onArray]
    exact findsPresent_kept (Item.keep_cases p false) (fun n e => .reject) present
  | matchAttribute name expected =>
    rw [Operation.apply, Resolved.onArray]
    exact findsPresent_kept (Item.keepAttribute_cases name expected) (fun n e => .matchAttribute) present
  | @concat operand _ ih =>
    have hoperand := applyAll_present ih [context] (List.forall_mem_singleton.2 start)
    rw [Operation.apply, Resolved.onArray, show [Item.node context] = [context].map .node from rfl]
    generalize applyAll context operand _ = result at hoperand ⊢
    cases hoperand with
    | failure because =>
      obtain ⟨op, hop, n, hn, hrefused⟩ := because
      exact .failure ⟨n, hn, .operand hop hrefused⟩
    | nodes found =>
      simp only [Resolved.items?, ← List.map_append]
      exact .nodes (List.forall_mem_append.2 ⟨present, found⟩)

/-- an expression finds nodes other than null, or one of them refuses one of its operations -/
theorem evaluate_present {ops : Expression Path} (finds : ∀ op ∈ ops, op.FindsNodes) (start : ¬context.IsNull) :
    FindsPresent (fun e => ∃ op ∈ ops, op.IsRefused e) (evaluate ops context) :=
  applyAll_present (fun op hop => (finds op hop).apply start) [context] (List.forall_mem_singleton.2 start)

end Operation

/-! ## Contexts -/

/-- where a root path leads nowhere in a JSON document, null stands for the root -/
theorem Document.isNull_selectRoot {document : Node} {tree : Data} {root : Path} (json : document.content = .json tree)
    (nowhere : root.resolve document = []) : (selectRoot root document).IsNull := by
  rw [selectRoot, Path.first?, nowhere, List.head?_nil, Option.getD_none, missingRoot]
  simp only [json]
  rfl

/-- **Null never surfaces.** From a context other than null no path leads to null, and what an expression of nodes gives is an
array of nodes other than null, unless such a node refuses one of its operations. Where a root path leads nowhere in a JSON
document, the context is null. From null a path leads nowhere, or to this null node alone; and there iff each of its steps takes
all elements, or the first or the last one. -/
theorem null_never_surfaces (context : Node) :
    (¬context.IsNull →
      (∀ p : Path, ∀ n ∈ p.resolve context, ¬n.IsNull) ∧
      ∀ ops : Expression Path, (∀ op ∈ ops, op.FindsNodes) →
        FindsPresent (fun e => ∃ op ∈ ops, op.IsRefused e) (Operation.evaluate ops context)) ∧
    (∀ (document : Node) (tree : Data) (root : Path), document.content = .json tree → root.resolve document = [] →
      context = Document.selectRoot root document → context.IsNull) ∧
    (context.IsNull → ∀ p : Path,
      (p.resolve context = [] ∨ p.resolve context = [context]) ∧
      (p.resolve context = [context] ↔ ∀ step ∈ p.steps, step = .each ∨ step = .index 0 ∨ step = .index (-1))) := by
  refine ⟨fun start => ⟨fun p => p.present_resolve start, fun ops finds => Operation.evaluate_present finds start⟩, ?_, ?_⟩
  · rintro document tree root json nowhere rfl
    exact Document.isNull_selectRoot json nowhere
  · intro null p
    rw [p.resolve_leaf null.isLeaf]
    have hstays : p.steps.all Step.stays = true ↔
        ∀ step ∈ p.steps, step = .each ∨ step = .index 0 ∨ step = .index (-1) := by
      simp only [List.all_eq_true, Step.stays_iff]
    rw [← hstays]
    cases p.steps.all Step.stays <;> simp

/-- rows with gaps: null among the items of a list, under a key, and in a list under a key -/
def gappedRows : Node :=
  ⟨0, [], .json (.dict [("rows", .list [.list [.int 1, .null], .null, .dict [("a", .null), ("b", .list [.null, .int 2])]]),
    ("n", .null)]), none⟩

/-- the elements of the rows, and what stands in two places, as far as they have values -/
def rowsExpression : Expression Path :=
  [.path ⟨"$.rows[*]", [.child "rows", .each]⟩, .concat [.fields [["n"], ["rows", "b"]]], .select .hasValues]

theorem rowsExpression_findsNodes : ∀ op ∈ rowsExpression, op.FindsNodes := by
  simp only [rowsExpression, List.forall_mem_cons, List.not_mem_nil, false_implies, implies_true, and_true]
  exact ⟨.path _, .concat (List.forall_mem_singleton.2 (.fields _)), .select _⟩

/-- null as a document -/
def nullDocument : Node :=
  ⟨0, [], .json .null, none⟩

/-- two nodes are found in the gapped rows, neither of them null; of a null document the last element is there, the second is
not -/
theorem gappedRows_without_null :
    ¬gappedRows.IsNull ∧
      (∃ found : List Node, Operation.evaluate rowsExpression gappedRows = .ok (.array (found.map .node)) ∧ found.length = 2 ∧
        ∀ n ∈ found, ¬n.IsNull) ∧
      nullDocument.IsNull ∧
      Path.resolve ⟨"$[*][-1]", [.each, .index (-1)]⟩ nullDocument = [nullDocument] ∧
      Path.resolve ⟨"$[1]", [.index 1]⟩ nullDocument = [] := by
  have hrows : ¬gappedRows.IsNull := fun null => by cases null
  have hfound := ((null_never_surfaces gappedRows).1 hrows).2 rowsExpression rowsExpression_findsNodes
  have heval : Operation.evaluate rowsExpression gappedRows = .ok (.array [.node _, .node _]) := rfl
  rw [heval] at hfound
  obtain ⟨found, hsame, hpresent⟩ := hfound.of_ok
  have hlength : found.length = 2 := by
    have := congrArg List.length (Resolved.array.inj hsame)
    simpa using this.symm
  have hnull := (null_never_surfaces nullDocument).2.2 rfl
  refine ⟨hrows, ⟨found, heval.trans (congrArg Except.ok hsame), hlength, hpresent⟩, rfl, ?_, ?_⟩
  · exact (hnull _).2.2 (by simp)
  · refine (hnull _).1.resolve_right fun hstays => ?_
    have hindex := (hnull _).2.1 hstays (.index 1) List.mem_cons_self
    revert hindex
    decide

end Harvest
