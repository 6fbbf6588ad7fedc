/-
Spellings of a source. A path can be handed over as its expression, as a path operation of a record expression, or, if it
only has names, as field operations with these names, in any number of calls. All of them lead from the context to the same
nodes.

- `followNames_eq`: following names is resolving child steps.
- `applyAll_fields`: calls of `field` in a row follow all their names.
- `spellings_agree`: assignments that differ in the spelling of their source have the same effect.
-/
import Harvest.Mapping.Assignment
import Harvest.Proofs.Path.Grammar

namespace Harvest

/-! ## Fields and paths on arrays of nodes -/

/-- following names is resolving child steps -/
theorem followNames_eq (names : List String) (nodes : List Node) :
    followNames nodes names = resolveSteps (names.map .child) nodes := by
  rw [resolveSteps_eq_foldl, List.foldl_map]
  rfl

namespace Item

/-- what cannot fail on nodes gives all results, node by node -/
theorem collect_nodes {f : Item → Except Failure (List Item)} {g : Node → List Node}
    (h : ∀ n, f (node n) = .ok ((g n).map node)) (nodes : List Node) :
    collect f (nodes.map node) = .ok ((nodes.flatMap g).map node) := by
  induction nodes with
  | nil => rfl
  | cons n rest ih => simp [collect, h, ih, Except.map]

theorem follow_nodes (names : List String) (nodes : List Node) :
    follow (nodes.map node) names = .ok ((followNames nodes names).map node) := by
  induction names generalizing nodes with
  | nil => rfl
  | cons name rest ih =>
    have hchildren : ∀ n, children name (node n) = .ok ((n.children name).map node) := fun _ => rfl
    rw [follow, collect_nodes hchildren]
    exact ih _

theorem followAll_nodes (chains : List (List String)) (nodes : List Node) :
    followAll (nodes.map node) chains = .ok ((chains.flatMap (followNames nodes)).map node) := by
  induction chains with
  | nil => rfl
  | cons names rest ih => simp [followAll, follow_nodes, ih, Except.map]

end Item

namespace Operation

/-- a path operation on the context alone gives what the path gives -/
theorem applyAll_path (p : Path) (context : Node) :
    applyAll context [.path p] (.array [.node context]) = .ok (.array ((p.resolve context).map .node)) := by
  have hresolve : ∀ n, Item.resolve p (.node n) = .ok ((p.resolve n).map .node) := fun _ => rfl
  have hcollect := Item.collect_nodes hresolve [context]
  rw [List.flatMap_singleton] at hcollect
  simp only [applyAll, apply, Resolved.items?]
  rw [show [Item.node context] = [context].map .node from rfl, hcollect]
  rfl

/-- calls of `field` in a row follow all their names -/
theorem applyAll_fields (context : Node) (parts : List (List String)) (nodes : List Node) :
    applyAll context (parts.map .field) (.array (nodes.map .node)) =
      .ok (.array ((resolveSteps (parts.flatten.map .child) nodes).map .node)) := by
  induction parts generalizing nodes with
  | nil => rfl
  | cons names rest ih =>
    have hfield : apply context (.field names) (.array (nodes.map .node)) =
        .ok (.array ((resolveSteps (names.map .child) nodes).map .node)) := by
      rw [← followNames_eq, apply, Resolved.onArray, Item.follow_nodes]
      rfl
    rw [List.map_cons, applyAll, hfield, List.flatten_cons, List.map_append, resolveSteps_append]
    exact ih _

theorem compileAll_fields (parts : List (List String)) : compileAll (parts.map .field) = .ok (parts.map .field) := by
  induction parts with
  | nil => rfl
  | cons names rest ih => simp [compileAll, compile, ih, Except.map]

end Operation

/-- an expression that is read as a path starts as one -/
theorem Path.isRooted_of_read {e : String} {p : Path} (valid : Path.read e = .ok p) : Path.isRooted e = true := by
  by_contra plain
  rw [Path.read_of_not_isRooted (Bool.eq_false_iff.2 plain)] at valid
  cases valid

/-! ## Effects -/

namespace Assignment

/-- the same effect wherever the assignments stand in a block, for every record, context and object: the same properties, calls
of transforms and reports, and the same failure -/
def SameEffect (a b : Assignment Path) : Prop :=
  ∀ (record : String) (context : Node) (cls : ObjectClass) (before after : List (Assignment Path))
    (properties : List (String × Data)),
    applyAll record context cls (before ++ a :: after) properties =
      applyAll record context cls (before ++ b :: after) properties

/-- in a context where two assignments to one property give the same, they have the same effect -/
theorem applyAll_replace {record : String} {context : Node} {a b : Assignment Path}
    (same : a.evaluate record context = b.evaluate record context) (name : a.name = b.name) (cls : ObjectClass)
    (before after : List (Assignment Path)) (properties : List (String × Data)) :
    applyAll record context cls (before ++ a :: after) properties =
      applyAll record context cls (before ++ b :: after) properties := by
  induction before generalizing properties with
  | nil => simp only [List.nil_append, applyAll, same, name]
  | cons first rest ih => simp only [List.cons_append, applyAll, ih]

theorem sameEffect_of_evaluate {a b : Assignment Path} (name : a.name = b.name)
    (same : ∀ record context, a.evaluate record context = b.evaluate record context) : a.SameEffect b :=
  fun record context cls before after properties =>
    applyAll_replace (same record context) name cls before after properties

/-- assignments to one property with sources that give the same have the same effect -/
theorem sameEffect_of_sources {s s' : Source Path} (same : ∀ context, s.evaluate context = s'.evaluate context)
    (name : String) (transform? : Option Transform) (many : Bool) :
    (property name s transform? many).SameEffect (property name s' transform? many) := by
  refine sameEffect_of_evaluate rfl fun record context => ?_
  simp only [evaluate, propertyValue, same context]

/-- **The spellings of a source agree.** A path expression that is valid can be given as it is, or to a path operation of a
record expression; if it only has names, these can also be given to `field`, in one call or in several. Whatever the property,
the transform and the number of values that are asked for, each of these assignments can be read, and wherever they stand, for
every record, context and object, all of them have the same effect. -/
theorem spellings_agree {e : String} {p : Path} (valid : Path.read e = .ok p) (name : String) (transform? : Option Transform)
    (many : Bool) :
    ∃ direct deferred,
      (property name (.ofData (.str e)) transform? many).compile = .ok direct ∧
      (property name (.expression [.path e]) transform? many).compile = .ok deferred ∧
      direct.SameEffect deferred ∧
      ∀ parts : List (List String), p.steps = parts.flatten.map .child →
        ∃ fields, (property name (.expression (parts.map .field)) transform? many).compile = .ok fields ∧
          direct.SameEffect fields := by
  refine ⟨property name (.path p) transform? many, property name (.expression [.path p]) transform? many, ?_, ?_, ?_, ?_⟩
  · simp [compile, Source.ofData, Path.isRooted_of_read valid, Source.compile, valid, Except.map]
  · simp [compile, Source.compile, Operation.compileAll, Operation.compile, valid, Except.map]
  · refine sameEffect_of_sources (fun context => ?_) name transform? many
    rw [Source.evaluate, Source.evaluate, Operation.evaluate, Operation.applyAll_path]
  · intro parts hsteps
    refine ⟨property name (.expression (parts.map .field)) transform? many, ?_, ?_⟩
    · simp [compile, Source.compile, Operation.compileAll_fields, Except.map]
    · refine sameEffect_of_sources (fun context => ?_) name transform? many
      have hfields := Operation.applyAll_fields context parts [context]
      rw [← hsteps] at hfields
      exact hfields.symm

def creatorNames : Path := ⟨"$.creator['full name']", [.child "creator", .child "full name"]⟩

/-- the names of creators, all in capitals, by path and by fields -/
theorem creator_spellings_agree :
    ∃ direct deferred fields,
      (property "author" (.ofData (.str "$.creator['full name']")) (some .upper) true).compile = .ok direct ∧
      (property "author" (.expression [.path "$.creator['full name']"]) (some .upper) true).compile = .ok deferred ∧
      (property "author" (.expression [.field ["creator"], .field [], .field ["full name"]]) (some .upper) true).compile =
        .ok fields ∧
      direct.SameEffect deferred ∧ direct.SameEffect fields := by
  have valid : Path.read "$.creator['full name']" = .ok creatorNames := by rfl
  obtain ⟨direct, deferred, hdirect, hdeferred, same, hfields⟩ := spellings_agree valid "author" (some .upper) true
  obtain ⟨fields, hcompile, hsame⟩ := hfields [["creator"], [], ["full name"]] rfl
  exact ⟨direct, deferred, fields, hdirect, hdeferred, hcompile, same, hsame⟩

end Assignment

end Harvest
