/-
Lists of values. The values of an array can be asked for by ending an expression with `values`, or by asking a property for many
values. The first leaves out no null and is empty where there is no node, the second leaves out null and counts what is left. In
a context other than null no expression of nodes finds null, so the two come to the same.

- `unwrap_values`: what the two make of nodes other than null.
- `evaluate_values`: assignments that differ in this alone give the same, which is a list without null if it is anything.
- `values_as_many`: so they have the same effect.
-/
import Harvest.Proofs.Mapping.Present
import Harvest.Proofs.Mapping.Totality

namespace Harvest

/-! ## Values of nodes -/

/-- only null has the value null -/
theorem Node.isNull_value {n : Node} (present : ¬n.IsNull) {d : Data} (h : n.value = .ok d) : d.isNull = false := by
  unfold value at h
  split at h
  · cases h
    rfl
  · split at h
    · cases h
      rfl
    · cases h
  · rename_i tree hcontent
    cases h
    cases d with
    | null => exact absurd hcontent present
    | _ => rfl

theorem Item.present_values {nodes : List Node} (present : ∀ n ∈ nodes, ¬n.IsNull) {values : List Data}
    (h : Item.values (nodes.map .node) = .ok values) : ∀ d ∈ values, d.isNull = false := by
  have hvalues := Item.values_ok_iff.1 h
  rw [List.forall₂_map_left_iff] at hvalues
  exact forall_of_forall₂ hvalues fun n hn d hd => Node.isNull_value (present n hn) hd

/-- many values are a list of them, if there are any -/
theorem unwrapItems_many (values : List Data) : unwrapItems true values = if values = [] then none else some (.list values) := by
  match values with
  | [] => rfl
  | [_] => rfl
  | _ :: _ :: _ => rfl

/-- a list stands for as much as its items when many are asked for, whether many are asked of it or not -/
theorem Resolved.unwrap_list (many : Bool) (values : List Data) :
    (Resolved.plain (.list values)).unwrap many = .ok (unwrapItems true values) := by
  rw [unwrapItems_many]
  cases values <;> rfl

/-- asking nodes other than null for many values leaves out none of their values -/
theorem unwrap_values {nodes : List Node} (present : ∀ n ∈ nodes, ¬n.IsNull) :
    (Resolved.array (nodes.map .node)).unwrap true = (Item.values (nodes.map .node)).map (unwrapItems true) := by
  rw [Resolved.unwrap]
  cases hvalues : Item.values (nodes.map .node) with
  | error e => rfl
  | ok values =>
    have hall : values.filter (!·.isNull) = values :=
      List.filter_eq_self.2 fun d hd => by simp [Item.present_values present hvalues d hd]
    simp only [hall, Except.map]

/-! ## Expressions -/

namespace Operation

theorem applyAll_append (context : Node) (ops more : Expression Path) (r : Resolved) :
    applyAll context (ops ++ more) r = (applyAll context ops r).bind (applyAll context more) := by
  induction ops generalizing r with
  | nil => rfl
  | cons op rest ih =>
    rw [List.cons_append, applyAll, applyAll]
    cases apply context op r with
    | error e => rfl
    | ok r => exact ih r

theorem compileAll_values (ops : Expression String) : compileAll (ops ++ [.values]) = (compileAll ops).map (· ++ [.values]) := by
  induction ops with
  | nil => rfl
  | cons op rest ih =>
    rw [List.cons_append, compileAll, compileAll, ih]
    cases compile op with
    | error e => rfl
    | ok op => cases compileAll rest <;> rfl

theorem FindsNodes.compile {op : Operation String} (finds : op.FindsNodes) {op' : Operation Path}
    (h : Operation.compile op = .ok op') : op'.FindsNodes := by
  induction finds generalizing op' with
  | field names =>
    cases h
    exact .field names
  | fields chains =>
    cases h
    exact .fields chains
  | path text =>
    obtain ⟨p, -, rfl⟩ := exists_of_map h
    exact .path p
  | first =>
    cases h
    exact .first
  | last =>
    cases h
    exact .last
  | select p =>
    cases h
    exact .select p
  | reject p =>
    cases h
    exact .reject p
  | matchAttribute name expected =>
    cases h
    exact .matchAttribute name expected
  | concat _ ih =>
    obtain ⟨operand, hoperand, rfl⟩ := exists_of_map h
    exact .concat (forall_of_forall₂ (forall₂_of_compileAll hoperand) fun op hop op' => ih op hop)

end Operation

/-- the two ways to ask for the values of nodes stand for one list, or fail in one way -/
theorem Source.unwrap_values {ops : Expression Path} (finds : ∀ op ∈ ops, op.FindsNodes) {context : Node}
    (start : ¬context.IsNull) (many : Bool) :
    ∃ listed : Except Failure (List Data),
      (∀ values, listed = .ok values → ∀ d ∈ values, d.isNull = false) ∧
      ((Source.expression (ops ++ [.values])).evaluate context).bind (·.unwrap many) = listed.map (unwrapItems true) ∧
      ((Source.expression ops).evaluate context).bind (·.unwrap true) = listed.map (unwrapItems true) := by
  have hfound := Operation.evaluate_present finds start
  rw [evaluate, evaluate, Operation.evaluate, Operation.applyAll_append]
  rw [Operation.evaluate] at hfound ⊢
  generalize Operation.applyAll context ops (.array [.node context]) = result at hfound ⊢
  cases hfound with
  | @failure e because =>
    refine ⟨.error e, fun values h => ?_, rfl, rfl⟩
    cases h
  | @nodes found present =>
    refine ⟨Item.values (found.map .node), fun values => Item.present_values present, ?_, Harvest.unwrap_values present⟩
    change ((Operation.applyAll context [.values] (.array (found.map .node))).bind _) = _
    rw [Operation.applyAll, Operation.apply, Resolved.onArray]
    cases Item.values (found.map .node) with
    | error e => rfl
    | ok values => exact Resolved.unwrap_list many values

/-! ## Assignments -/

namespace Assignment

/-- a property gets nothing, which is noted, or fails before its transform is called, or gets a list without null that is not empty,
which is handed to the transform first -/
inductive GetsList (record name : String) (transform? : Option Transform) : Run (Option Data) → Prop
  | nothing : GetsList record name transform? ⟨[.noValue name record], .ok none⟩
  | failure (e : Failure) : GetsList record name transform? ⟨[], .error e⟩
  | list {values : List Data} (some : values ≠ []) (present : ∀ d ∈ values, d.isNull = false) :
      GetsList record name transform? ((transformed transform? (.list values)).map .some)

/-- in a context other than null a property gets one and the same from the values and from asking for many -/
theorem evaluate_values {ops : Expression Path} (finds : ∀ op ∈ ops, op.FindsNodes) {context : Node}
    (start : ¬context.IsNull) (record name : String) (transform? : Option Transform) (many : Bool) :
    (property name (.expression (ops ++ [.values])) transform? many).evaluate record context =
        (property name (.expression ops) transform? true).evaluate record context ∧
      GetsList record name transform? ((property name (.expression ops) transform? true).evaluate record context) := by
  obtain ⟨listed, hpresent, hvalues, hmany⟩ := Source.unwrap_values finds start many
  rw [evaluate, evaluate]
  refine ⟨propertyValue_congr (hvalues.trans hmany.symm) record name transform?, ?_⟩
  rw [propertyValue, Run.ofExcept_bind_bind, hmany]
  cases listed with
  | error e => exact .failure e
  | ok values =>
    by_cases hnil : values = []
    · subst hnil
      exact .nothing
    · rw [Except.map, unwrapItems_many, if_neg hnil]
      exact .list hnil (hpresent values rfl)

/-- **Ending an expression with its values is asking for many.** The expression is any of operations that leave an array of nodes
one, at any depth of its operands. Ended with its values, whether many are asked for or not, it can be read iff it can be read as
it is. Wherever the assignments stand, for every record and object and every context other than null, they have the same effect:
the property stays as it is and the transform is not called, or both fail in the same way, or both hand on the same list, which is
not empty and without null. -/
theorem values_as_many {ops : Expression String} (finds : ∀ op ∈ ops, op.FindsNodes) (name : String)
    (transform? : Option Transform) (many : Bool) :
    (∃ e, (property name (.expression (ops ++ [.values])) transform? many).compile = .error e ∧
      (property name (.expression ops) transform? true).compile = .error e) ∨
    ∃ ended asked, (property name (.expression (ops ++ [.values])) transform? many).compile = .ok ended ∧
      (property name (.expression ops) transform? true).compile = .ok asked ∧
      ∀ (record : String) (context : Node), ¬context.IsNull →
        ended.evaluate record context = asked.evaluate record context ∧
        GetsList record name transform? (asked.evaluate record context) ∧
        ∀ cls before after properties,
          applyAll record context cls (before ++ ended :: after) properties =
            applyAll record context cls (before ++ asked :: after) properties := by
  rw [compile, compile, Source.compile, Source.compile, Operation.compileAll_values]
  cases hops : Operation.compileAll ops with
  | error e => exact .inl ⟨e, rfl, rfl⟩
  | ok ops' =>
    have hfinds : ∀ op ∈ ops', op.FindsNodes :=
      forall_of_forall₂ (Operation.forall₂_of_compileAll hops) fun op hop op' => (finds op hop).compile
    refine .inr ⟨property name (.expression (ops' ++ [.values])) transform? many,
      property name (.expression ops') transform? true, rfl, rfl, fun record context start => ?_⟩
    obtain ⟨hsame, hlist⟩ := evaluate_values hfinds start record name transform? many
    exact ⟨hsame, hlist, fun cls before after properties => applyAll_replace hsame rfl cls before after properties⟩

/-- the labels of parts, and of those extras that have a page -/
def labelsExpression : Expression String :=
  [.path "$.parts[*]", .concat [.field ["extras"], .select (.hasChild "page")], .field ["label"]]

theorem labelsExpression_findsNodes : ∀ op ∈ labelsExpression, op.FindsNodes := by
  simp only [labelsExpression, List.forall_mem_cons, List.not_mem_nil, false_implies, implies_true, and_true]
  refine ⟨.path _, .concat ?_, .field _⟩
  simp only [List.forall_mem_cons, List.not_mem_nil, false_implies, implies_true, and_true]
  exact ⟨.field _, .select _⟩

/-- a part with two labels, one of them null, and two extras -/
def labelledShelf : Node :=
  ⟨0, [], .json (.dict [("parts", .list [.dict [("label", .list [.str "a", .null])], .null]),
    ("extras", .list [.dict [("label", .str "b")], .dict [("page", .int 2), ("label", .str "c")]])]), none⟩

/-- the labels are joined in one call in both ways -/
theorem labelledShelf_as_many :
    (∀ op ∈ labelsExpression, op.FindsNodes) ∧ ¬labelledShelf.IsNull ∧
      ∃ ended asked,
        (property "label" (.expression (labelsExpression ++ [.values])) (some (.join "; ")) false).compile = .ok ended ∧
        (property "label" (.expression labelsExpression) (some (.join "; ")) true).compile = .ok asked ∧
        ended.evaluate "r" labelledShelf = asked.evaluate "r" labelledShelf ∧
        asked.evaluate "r" labelledShelf = ⟨[.called (.join "; ") (.list [.str "a", .str "c"])], .ok (some (.str "a; c"))⟩ := by
  have start : ¬labelledShelf.IsNull := fun null => by cases null
  have hread : (property "label" (.expression labelsExpression) (some (.join "; ")) true).compile =
      .ok (property "label" (.expression [.path ⟨"$.parts[*]", [.child "parts", .each]⟩,
        .concat [.field ["extras"], .select (.hasChild "page")], .field ["label"]]) (some (.join "; ")) true) := rfl
  rcases values_as_many labelsExpression_findsNodes "label" (some (.join "; ")) false with
    ⟨e, -, hfails⟩ | ⟨ended, asked, hended, hasked, hsame⟩
  · cases hfails.symm.trans hread
  · refine ⟨labelsExpression_findsNodes, start, ended, asked, hended, hasked, (hsame "r" labelledShelf start).1, ?_⟩
    cases hasked.symm.trans hread
    rfl

end Assignment

end Harvest
