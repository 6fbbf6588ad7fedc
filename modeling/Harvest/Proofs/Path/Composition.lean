/-
Paths one after the other. The expression of a path goes on with the segments of another one, and the joined path leads where
the second one leads from all that the first one finds.

- `resolveSteps_eq_flatMap`: without an index among them, steps go from each node on its own.
- `joined_composes`: the joined expression is a path with the steps of both, and what it finds is said by what the parts find.
-/
import Harvest.Proofs.Document
import Harvest.Proofs.Path.Grammar
import Mathlib.Data.List.Basic

namespace Harvest

/-! ## Steps -/

/-- any step but an index goes from each node on its own -/
theorem Step.apply_eq_flatMap {step : Step} (h : ∀ i, step ≠ .index i) (nodes : List Node) :
    step.apply nodes = nodes.flatMap fun n => step.apply [n] := by
  cases step with
  | child name => simp [Step.apply]
  | wildcard => simp [Step.apply]
  | each => simp [Step.apply]
  | index i => exact absurd rfl (h i)

/-- so do steps one after the other -/
theorem resolveSteps_eq_flatMap {steps : List Step} (h : ∀ i, .index i ∉ steps) (nodes : List Node) :
    resolveSteps steps nodes = nodes.flatMap fun n => resolveSteps steps [n] := by
  induction steps generalizing nodes with
  | nil => simp [resolveSteps]
  | cons step rest ih =>
    have hstep : ∀ i, step ≠ .index i := fun i same => h i (same ▸ List.mem_cons_self)
    have hrest := ih fun i hi => h i (List.mem_cons_of_mem _ hi)
    calc resolveSteps (step :: rest) nodes
        = (nodes.flatMap fun n => step.apply [n]).flatMap fun m => resolveSteps rest [m] := by
          rw [resolveSteps_cons, hrest, Step.apply_eq_flatMap hstep]
      _ = nodes.flatMap fun n => (step.apply [n]).flatMap fun m => resolveSteps rest [m] := List.flatMap_assoc
      _ = nodes.flatMap fun n => resolveSteps (step :: rest) [n] := by
          refine List.flatMap_congr fun n _ => ?_
          rw [resolveSteps_cons, hrest]

theorem resolveSteps_nil (steps : List Step) : resolveSteps steps [] = [] := by
  induction steps with
  | nil => rfl
  | cons step rest ih => rw [resolveSteps_cons, Step.apply_nil, ih]

namespace Path

/-! ## Expressions -/

/-- an expression that goes on as another one does after its `$` -/
def joined (e more : String) : String :=
  e ++ String.ofList more.toList.tail

theorem joined_written (segments more : List Segment) :
    joined (written segments) (written more) = written (segments ++ more) := by
  refine String.toList_injective ?_
  simp [joined, toList_written, String.toList_append]

/-- **Paths compose.** The joined expression of two paths is a path with the steps of both. It finds what the steps of the second
one make of the whole array that the first one finds: nothing if that is empty, what the second one finds from a single node,
and, without an index among the steps, what the second one finds from each node in turn. So a record opened at the root that
the first path picks resolves the second path as the record opened at its document resolves the joined one, if the first path
leads to a single node. -/
theorem joined_composes {e₁ e₂ : String} {p₁ p₂ : Path} (first : read e₁ = .ok p₁) (second : read e₂ = .ok p₂) :
    ∃ p, read (joined e₁ e₂) = .ok p ∧ p.steps = p₁.steps ++ p₂.steps ∧
      (∀ start : Node,
        p.resolve start = p₂.steps.foldl (fun nodes step => step.apply nodes) (p₁.resolve start) ∧
        ((∀ i, .index i ∉ p₂.steps) → p.resolve start = (p₁.resolve start).flatMap p₂.resolve) ∧
        (∀ n, p₁.resolve start = [n] → p.resolve start = p₂.resolve n) ∧
        (p₁.resolve start = [] → p.resolve start = [])) ∧
      ∀ (stamp : Nat) (format : Format) (record : Record) (more : List Data) (whole : Document) (n : Node),
        Document.ofRecord stamp format record (.str root.expression :: more) = .ok whole → p₁.resolve whole.root = [n] →
        ∃ rooted, Document.ofRecord stamp format record (.str e₁ :: more) = .ok rooted ∧
          p₂.resolve rooted.root = p.resolve whole.root := by
  obtain ⟨-, segments₁, hwritten₁, hsteps₁⟩ := read_ok_iff.1 first
  obtain ⟨-, segments₂, hwritten₂, hsteps₂⟩ := read_ok_iff.1 second
  have hsteps : (segments₁ ++ segments₂).map Segment.step = p₁.steps ++ p₂.steps := by
    rw [List.map_append, ← hsteps₁, ← hsteps₂]
  have hjoined : joined e₁ e₂ = written (segments₁ ++ segments₂) := by
    rw [hwritten₁, hwritten₂, joined_written]
  have hread : read (joined e₁ e₂) = .ok ⟨joined e₁ e₂, p₁.steps ++ p₂.steps⟩ := by
    rw [hjoined, read_written, hsteps]
  have hwhole : ∀ start, resolve ⟨joined e₁ e₂, p₁.steps ++ p₂.steps⟩ start = resolveSteps p₂.steps (p₁.resolve start) :=
    fun start => resolveSteps_append p₁.steps p₂.steps [start]
  have hsingle : ∀ start n, p₁.resolve start = [n] →
      resolve ⟨joined e₁ e₂, p₁.steps ++ p₂.steps⟩ start = p₂.resolve n := by
    intro start n found
    rw [hwhole, found]
    rfl
  refine ⟨_, hread, rfl, fun start => ⟨?_, ?_, hsingle start, ?_⟩, ?_⟩
  · rw [hwhole, resolveSteps_eq_foldl]
  · intro hindex
    rw [hwhole]
    exact resolveSteps_eq_flatMap hindex (p₁.resolve start)
  · intro found
    rw [hwhole, found, resolveSteps_nil]
  · intro stamp format record more whole n opened found
    refine ⟨_, Document.ofRecord_reroot opened first, ?_⟩
    rw [Document.selectRoot_of_resolve found, hsingle whole.root n found]

/-- a shelf with two rows, one of them with a gap -/
def shelfTree : Data :=
  .dict [("shelf", .dict [("row", .list [.list [.int 1, .null], .list [.int 2, .int 3]])])]

/-- the last of all in the rows, from the shelf -/
def lastInRows : Path := ⟨"$.row[*][-1]", [.child "row", .each, .index (-1)]⟩

/-- opened at the shelf, a record leads to the last of all in the rows by the path that the joined one goes on with -/
theorem shelf_rows_compose :
    ∃ shelf joinedPath whole rooted, read "$.shelf" = .ok shelf ∧ read lastInRows.expression = .ok lastInRows ∧
      read "$.shelf.row[*][-1]" = .ok joinedPath ∧
      Document.ofRecord 0 .json (.harvested shelfTree none) [.str root.expression] = .ok whole ∧
      Document.ofRecord 0 .json (.harvested shelfTree none) [.str "$.shelf"] = .ok rooted ∧
      lastInRows.resolve rooted.root = joinedPath.resolve whole.root ∧
      (joinedPath.resolve whole.root).map Node.value = [.ok (.int 3)] := by
  have hfirst : read "$.shelf" = .ok ⟨"$.shelf", [.child "shelf"]⟩ := rfl
  have hsecond : read lastInRows.expression = .ok lastInRows := rfl
  have hopened : Document.ofRecord 0 .json (.harvested shelfTree none) [.str root.expression] =
      .ok ⟨.json, "<anonymous record>", { document := 0, place := [], content := .json shelfTree }⟩ := rfl
  obtain ⟨p, hread, hsteps, hresolve, hrooted⟩ := joined_composes hfirst hsecond
  obtain ⟨rooted, hopen, hsame⟩ := hrooted 0 .json _ [] _ _ hopened rfl
  refine ⟨_, p, _, rooted, hfirst, hsecond, hread, hopened, hopen, hsame, ?_⟩
  rw [(hresolve _).1]
  rfl

end Path

end Harvest
