/-
Chains on two arrays one after the other. An operation that goes from each node on its own makes of the two together what it makes
of each of them, and so does a chain of such operations. An index step in a path does not stand in the way, since the path is
followed from each node. Several chains of names, which are followed one after the other through the whole array, give the same
nodes in another order.

- `Item.collect_append`: what is collected along two arrays.
- `IsNodewise.joins`: one operation; `applyAll_joins`: a chain of them, by induction on the chain.
- `nodewise_distributes`: how a chain on both arrays ends, and what several chains of names find.
-/
import Harvest.Proofs.Mapping.Present
import Harvest.Proofs.Path.Composition

namespace Harvest

/-- names are followed from each node on its own -/
theorem followNames_append (nodes more : List Node) (names : List String) :
    followNames (nodes ++ more) names = followNames nodes names ++ followNames more names := by
  have hindex : ∀ i, Step.index i ∉ names.map .child := by simp
  have hnodewise : ∀ nodes, followNames nodes names = nodes.flatMap fun n => resolveSteps (names.map .child) [n] := by
    intro nodes
    rw [followNames_eq, resolveSteps_eq_flatMap hindex]
  rw [hnodewise, hnodewise, hnodewise, List.flatMap_append]

namespace Item

/-- what is collected along two arrays: the first failure counts -/
theorem collect_append {α : Type} (f : Item → Except Failure (List α)) (items more : List Item) :
    collect f (items ++ more) = (collect f items).bind fun found => (collect f more).map (found ++ ·) := by
  induction items with
  | nil =>
    rw [List.nil_append, collect]
    cases collect f more <;> rfl
  | cons e rest ih =>
    rw [List.cons_append, collect, collect, ih]
    cases f e with
    | error failure => rfl
    | ok found =>
      cases collect f rest with
      | error failure => rfl
      | ok others => cases collect f more <;> simp [Except.map, Except.bind]

/-- what finds nodes from each node finds nodes along an array of them -/
theorem exists_of_collect {f : Item → Except Failure (List Item)}
    (each : ∀ n r, f (node n) = .ok r → ∃ found : List Node, r = found.map node) {nodes : List Node} {r : List Item}
    (h : collect f (nodes.map node) = .ok r) : ∃ found : List Node, r = found.map node := by
  induction nodes generalizing r with
  | nil =>
    cases h
    exact ⟨[], rfl⟩
  | cons n rest ih =>
    rw [List.map_cons, collect] at h
    cases hfirst : f (node n) with
    | error e =>
      rw [hfirst] at h
      cases h
    | ok first =>
      rw [hfirst] at h
      obtain ⟨others, hothers, rfl⟩ := exists_of_map h
      obtain ⟨found, rfl⟩ := each n first hfirst
      obtain ⟨more, rfl⟩ := ih hothers
      exact ⟨found ++ more, List.map_append.symm⟩

theorem map_value_nodes (nodes : List Node) : (nodes.map node).map value = nodes.map Node.value := by
  rw [List.map_map]
  rfl

end Item

/-! ## Two arrays -/

/-- what comes of two arrays together, by what comes of each: the nodes of both in turn, or a failure of one of them -/
inductive Joins : Except Failure Resolved → Except Failure Resolved → Except Failure Resolved → Prop
  | nodes (found more : List Node) :
      Joins (.ok (.array (found.map .node))) (.ok (.array (more.map .node))) (.ok (.array ((found ++ more).map .node)))
  | first (e : Failure) (other : Except Failure Resolved) : Joins (.error e) other (.error e)
  | second (other : Except Failure Resolved) (e : Failure) : Joins other (.error e) (.error e)

namespace Joins

variable {x y both : Except Failure Resolved}

theorem fails_iff (joins : Joins x y both) : (∃ e, both = .error e) ↔ (∃ e, x = .error e) ∨ ∃ e, y = .error e := by
  cases joins <;> simp

theorem failure (joins : Joins x y both) {e : Failure} (h : both = .error e) : x = .error e ∨ y = .error e := by
  cases joins <;> simp_all

theorem exists_nodes (joins : Joins x y both) (succeeds : ¬∃ e, both = .error e) :
    ∃ found more : List Node, x = .ok (.array (found.map .node)) ∧ y = .ok (.array (more.map .node)) ∧
      both = .ok (.array ((found ++ more).map .node)) := by
  cases joins with
  | nodes found more => exact ⟨found, more, rfl, rfl, rfl⟩
  | first e other => exact absurd ⟨e, rfl⟩ succeeds
  | second other e => exact absurd ⟨e, rfl⟩ succeeds

end Joins

namespace Operation

/-- operations that go from each node on its own -/
inductive IsNodewise {π : Type} : Operation π → Prop
  | field (names : List String) : IsNodewise (.field names)
  | path (p : π) : IsNodewise (.path p)
  | select (p : Predicate) : IsNodewise (.select p)
  | reject (p : Predicate) : IsNodewise (.reject p)
  | matchAttribute (name : String) (expected : Data) : IsNodewise (.matchAttribute name expected)

/-- what an expression makes of an array of nodes -/
def onNodes (context : Node) (ops : Expression Path) (nodes : List Node) : Except Failure Resolved :=
  applyAll context ops (.array (nodes.map .node))

theorem joins_collect {f : Item → Except Failure (List Item)}
    (each : ∀ n r, f (.node n) = .ok r → ∃ found : List Node, r = found.map .node) (nodes more : List Node) :
    Joins ((Item.collect f (nodes.map .node)).map .array) ((Item.collect f (more.map .node)).map .array)
      ((Item.collect f ((nodes ++ more).map .node)).map .array) := by
  rw [List.map_append, Item.collect_append]
  cases hnodes : Item.collect f (nodes.map .node) with
  | error e => exact .first e _
  | ok r =>
    cases hmore : Item.collect f (more.map .node) with
    | error e => exact .second _ e
    | ok s =>
      obtain ⟨found, rfl⟩ := Item.exists_of_collect each hnodes
      obtain ⟨others, rfl⟩ := Item.exists_of_collect each hmore
      have hboth : found.map Item.node ++ others.map .node = (found ++ others).map .node := List.map_append.symm
      simp only [Except.bind, Except.map, hboth]
      exact .nodes found others

/-- what keeps a node or leaves it out finds nodes -/
theorem exists_of_kept {f : Item → Except Failure (List Item)} {fails : Node → Failure → Prop}
    (each : ∀ n, f (.node n) = .ok [.node n] ∨ f (.node n) = .ok [] ∨ ∃ e, fails n e ∧ f (.node n) = .error e) (n : Node)
    (r : List Item) (h : f (.node n) = .ok r) : ∃ found : List Node, r = found.map .node := by
  rcases each n with hkept | hleft | ⟨e, -, hfails⟩
  · rw [hkept] at h
    cases h
    exact ⟨[n], rfl⟩
  · rw [hleft] at h
    cases h
    exact ⟨[], rfl⟩
  · rw [hfails] at h
    cases h

theorem IsNodewise.joins {op : Operation Path} (nodewise : op.IsNodewise) (context : Node) (nodes more : List Node) :
    Joins (apply context op (.array (nodes.map .node))) (apply context op (.array (more.map .node)))
      (apply context op (.array ((nodes ++ more).map .node))) := by
  cases nodewise with
  | field names =>
    simp only [apply, Resolved.onArray, Item.follow_nodes, followNames_append]
    exact .nodes _ _
  | path p =>
    refine joins_collect (fun n r h => ?_) nodes more
    cases h
    exact ⟨_, rfl⟩
  | select p => exact joins_collect (exists_of_kept (Item.keep_cases p true)) nodes more
  | reject p => exact joins_collect (exists_of_kept (Item.keep_cases p false)) nodes more
  | matchAttribute name expected =>
    exact joins_collect (exists_of_kept (Item.keepAttribute_cases name expected)) nodes more

/-- a chain goes on from what its first operation finds, in both arrays and in the two together -/
theorem applyAll_joins {chain : Expression Path} (nodewise : ∀ op ∈ chain, op.IsNodewise) (context : Node)
    (nodes more : List Node) :
    Joins (onNodes context chain nodes) (onNodes context chain more) (onNodes context chain (nodes ++ more)) := by
  induction chain generalizing nodes more with
  | nil => exact .nodes nodes more
  | cons op rest ih =>
    obtain ⟨hop, hrest⟩ := List.forall_mem_cons.1 nodewise
    have hfirst := hop.joins context nodes more
    simp only [onNodes, applyAll]
    generalize apply context op (.array (nodes.map .node)) = x at hfirst ⊢
    generalize apply context op (.array (more.map .node)) = y at hfirst ⊢
    generalize apply context op (.array ((nodes ++ more).map .node)) = both at hfirst ⊢
    cases hfirst with
    | nodes found others => exact ih hrest found others
    | first e other => exact .first e _
    | second other e => exact .second _ e

/-! ## Several chains of names -/

theorem onNodes_fields (context : Node) (chains : List (List String)) (nodes : List Node) :
    onNodes context [.fields chains] nodes = .ok (.array ((chains.flatMap (followNames nodes)).map .node)) := by
  simp only [onNodes, applyAll, apply, Resolved.onArray, Item.followAll_nodes]
  rfl

theorem onNodes_field (context : Node) (names : List String) (nodes : List Node) :
    onNodes context [.field names] nodes = .ok (.array ((followNames nodes names).map .node)) := by
  simp only [onNodes, applyAll, apply, Resolved.onArray, Item.follow_nodes]
  rfl

/-- the nodes of two arrays, name chain by name chain, are those of the first and then those of the second in another order -/
theorem fields_perm (chains : List (List String)) (nodes more : List Node) :
    (chains.flatMap (followNames (nodes ++ more))).Perm
      (chains.flatMap (followNames nodes) ++ chains.flatMap (followNames more)) := by
  have hsplit : chains.flatMap (followNames (nodes ++ more)) =
      chains.flatMap fun names => followNames nodes names ++ followNames more names :=
    List.flatMap_congr fun names _ => followNames_append nodes more names
  rw [hsplit]
  exact (List.flatMap_append_perm chains (followNames nodes) (followNames more)).symm

/-- **Chains of node-wise operations distribute over arrays one after the other.** A chain of any length fails on two arrays
together iff it fails on one of them, and then with a failure of one of them. If it does not, it finds nodes in each of them, and in
the two together these nodes in turn. Several chains of names find in the two together what each chain of names finds there, one after
the other, and these are the nodes that they find in the first and in the second one, in another order. -/
theorem nodewise_distributes {chain : Expression Path} (nodewise : ∀ op ∈ chain, op.IsNodewise) (context : Node)
    (xs ys : List Node) :
    ((∃ e, onNodes context chain (xs ++ ys) = .error e) ↔
      (∃ e, onNodes context chain xs = .error e) ∨ ∃ e, onNodes context chain ys = .error e) ∧
    (∀ e, onNodes context chain (xs ++ ys) = .error e →
      onNodes context chain xs = .error e ∨ onNodes context chain ys = .error e) ∧
    ((¬∃ e, onNodes context chain (xs ++ ys) = .error e) →
      ∃ found more : List Node, onNodes context chain xs = .ok (.array (found.map .node)) ∧
        onNodes context chain ys = .ok (.array (more.map .node)) ∧
        onNodes context chain (xs ++ ys) = .ok (.array ((found ++ more).map .node))) ∧
    ∀ chains : List (List String), ∃ (both found more : List Node) (parts : List (List Node)),
      onNodes context [.fields chains] (xs ++ ys) = .ok (.array (both.map .node)) ∧
      onNodes context [.fields chains] xs = .ok (.array (found.map .node)) ∧
      onNodes context [.fields chains] ys = .ok (.array (more.map .node)) ∧
      both.Perm (found ++ more) ∧
      List.Forall₂ (fun names part => onNodes context [.field names] (xs ++ ys) = .ok (.array (part.map .node))) chains parts ∧
      both = parts.flatten := by
  have hjoins := applyAll_joins nodewise context xs ys
  refine ⟨hjoins.fails_iff, fun e => hjoins.failure, hjoins.exists_nodes, fun chains => ?_⟩
  refine ⟨chains.flatMap (followNames (xs ++ ys)), chains.flatMap (followNames xs), chains.flatMap (followNames ys),
    chains.map (followNames (xs ++ ys)), onNodes_fields context chains _, onNodes_fields context chains _,
    onNodes_fields context chains _, fields_perm chains xs ys, ?_, List.flatMap_def⟩
  rw [List.forall₂_map_right_iff]
  exact List.forall₂_same.2 fun names _ => onNodes_field context names (xs ++ ys)

/-- a node with numbers in rows, of a document of its own -/
def numbered (document : Nat) (rows : List (List Int)) : Node :=
  ⟨document, [], .json (.dict [("rows", .list (rows.map fun row => .dict [("n", .list (row.map .int))]))]), none⟩

/-- the numbers in the last row of each node, unless there are none -/
def lastRows : Expression Path :=
  [.path ⟨"$.rows[-1]", [.child "rows", .index (-1)]⟩, .select (.hasChild "n"), .field ["n"]]

theorem lastRows_isNodewise : ∀ op ∈ lastRows, op.IsNodewise := by
  simp only [lastRows, List.forall_mem_cons, List.not_mem_nil, false_implies, implies_true, and_true]
  exact ⟨.path _, .select _, .field _⟩

/-- the last rows of one document, and of two others of which one has no rows -/
theorem lastRows_distribute :
    (∀ op ∈ lastRows, op.IsNodewise) ∧
      ∃ found more : List Node, found.map Node.value = [.ok (.int 2), .ok (.int 3)] ∧
        more.map Node.value = [.ok (.int 4)] ∧
        onNodes (numbered 0 []) lastRows [numbered 1 [[1], [2, 3]]] = .ok (.array (found.map .node)) ∧
        onNodes (numbered 0 []) lastRows [numbered 2 [[4]], numbered 3 []] = .ok (.array (more.map .node)) ∧
        onNodes (numbered 0 []) lastRows [numbered 1 [[1], [2, 3]], numbered 2 [[4]], numbered 3 []] =
          .ok (.array ((found ++ more).map .node)) := by
  have hlaw := nodewise_distributes lastRows_isNodewise (numbered 0 []) [numbered 1 [[1], [2, 3]]]
    [numbered 2 [[4]], numbered 3 []]
  have hboth : onNodes (numbered 0 []) lastRows [numbered 1 [[1], [2, 3]], numbered 2 [[4]], numbered 3 []] =
      .ok (.array [.node _, .node _, .node _]) := rfl
  obtain ⟨found, more, hfound, hmore, happend⟩ := hlaw.2.2.1 (by rintro ⟨e, he⟩; cases hboth.symm.trans he)
  refine ⟨lastRows_isNodewise, found, more, ?_, ?_, hfound, hmore, happend⟩
  · have hitems : found.map Item.node = [.node _, .node _] := Resolved.array.inj (Except.ok.inj hfound.symm)
    rw [← Item.map_value_nodes, hitems]
    rfl
  · have hitems : more.map Item.node = [.node _] := Resolved.array.inj (Except.ok.inj hmore.symm)
    rw [← Item.map_value_nodes, hitems]
    rfl

end Operation

end Harvest
