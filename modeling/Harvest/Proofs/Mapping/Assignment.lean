/-
Assignments one by one: what each gives in a context on its own, and that assignments in order give no more than that.

- `Assignment.resolves` says whether an assignment finds something to give; `isSome_of_evaluate` that it gives a value then,
  and only then.
- `applyAll_eq_each`: applying assignments in order is evaluating each of them alone and putting what they give. No
  evaluation depends on what was assigned before.
-/
import Harvest.Mapping.Basic
import Harvest.Proofs.Data.Entries
import Harvest.Proofs.Run

namespace Harvest

/-! ## Finding something to give -/

/-- there is something to assign: a node with a value other than null, a list with items, any other plain data -/
def Resolved.hasValue : Resolved → Bool
  | .array items => items.any fun e =>
    match e.value with
    | .ok v => !v.isNull
    | .error _ => false
  | .plain (.list items) => !items.isEmpty
  | .plain _ => true

/-- the source finds something to assign in the context -/
def Source.resolves (context : Node) (source : Source Path) : Bool :=
  match source.evaluate context with
  | .ok r => r.hasValue
  | .error _ => false

/-- the source finds something, or the path of a nested property leads to a node -/
def Assignment.resolves (context : Node) : Assignment Path → Bool
  | .property _ source _ _ => source.resolves context
  | .nested _ _ path? _ _ => !(nestedContexts context path?).isEmpty

theorem Item.values_ok_iff {items : List Item} {values : List Data} :
    Item.values items = .ok values ↔ List.Forall₂ (fun e v => e.value = .ok v) items values := by
  unfold Item.values
  induction items generalizing values with
  | nil => simp [collect, eq_comm]
  | cons e rest ih =>
    rw [List.forall₂_cons_left_iff]
    simp only [← ih]
    cases he : e.value with
    | error failure => simp [collect, single, he, Except.map]
    | ok v =>
      cases hrest : collect (single value) rest with
      | error failure => simp [collect, single, he, hrest, Except.map]
      | ok vs => simp [collect, single, he, hrest, Except.map, eq_comm]

theorem unwrapItems_eq_none_iff {many : Bool} {items : List Data} : unwrapItems many items = none ↔ items = [] := by
  match items with
  | [] => simp [unwrapItems]
  | [_] => simp [unwrapItems]
  | _ :: _ :: _ => simp [unwrapItems]

theorem Resolved.isSome_of_unwrap {many : Bool} {r : Resolved} {v? : Option Data} (h : r.unwrap many = .ok v?) :
    v?.isSome = r.hasValue := by
  cases r with
  | array items =>
    cases hv : Item.values items with
    | error e => simp [unwrap, hv] at h
    | ok values =>
      obtain rfl : unwrapItems many (values.filter (!·.isNull)) = v? := by simpa [unwrap, hv] using h
      have hvalues := Item.values_ok_iff.1 hv
      have hany : items.any (fun e =>
          match e.value with
          | .ok v => !v.isNull
          | .error _ => false) = values.any (!·.isNull) := by
        clear h hv
        induction hvalues with
        | nil => rfl
        | cons he _ ih => simp [he, ih]
      rw [hasValue, hany, Bool.eq_iff_iff, Option.isSome_iff_ne_none, ne_eq, unwrapItems_eq_none_iff]
      simp
  | plain d =>
    cases d with
    | list items => cases items <;> (cases h; rfl)
    | _ => cases h; rfl

namespace Assignment

/-- what a source stands for decides what its property gets -/
theorem propertyValue_congr {context : Node} {s s' : Source Path} {many many' : Bool}
    (same : (s.evaluate context).bind (·.unwrap many) = (s'.evaluate context).bind (·.unwrap many')) (record name : String)
    (transform? : Option Transform) :
    propertyValue record context name s transform? many = propertyValue record context name s' transform? many' := by
  rw [propertyValue, propertyValue, Run.ofExcept_bind_bind, Run.ofExcept_bind_bind, same]

/-- an assignment that succeeds gives a value iff it finds something to give -/
theorem isSome_of_evaluate {record : String} {context : Node} {a : Assignment Path} {v? : Option Data}
    (h : (a.evaluate record context).outcome = .ok v?) : v?.isSome = a.resolves context := by
  cases a with
  | property name source transform? many =>
    rw [evaluate, propertyValue, Run.bind_ok_iff] at h
    obtain ⟨r, hr, h⟩ := h
    obtain ⟨u?, hu, h⟩ := Run.bind_ok_iff.1 h
    have hsource : source.resolves context = r.hasValue := by
      rw [Source.resolves, show source.evaluate context = .ok r from hr]
    rw [resolves, hsource, ← Resolved.isSome_of_unwrap hu]
    cases u? with
    | none =>
      cases h
      rfl
    | some d =>
      obtain ⟨w, -, rfl⟩ := Run.map_ok_iff.1 h
      rfl
  | nested name cls path? many body =>
    rw [evaluate, Run.bind_ok_iff] at h
    obtain ⟨objects, hobjects, h⟩ := h
    have hlength := (Run.each_ok_iff.1 hobjects).length_eq
    rw [resolves]
    cases objects with
    | nil =>
      rw [List.length_eq_zero_iff.1 hlength]
      cases h
      rfl
    | cons o os =>
      cases hc : nestedContexts context path? with
      | nil => simp [hc] at hlength
      | cons n ns =>
        simp only [nestedValue, Run.done, Except.ok.injEq] at h
        rw [← h, Option.isSome_iff_ne_none.2 (by simp [unwrapItems_eq_none_iff])]
        rfl

/-! ## Assignments in order -/

/-- the value that an assignment gives on its own; none if it gives none or fails -/
def value? (record : String) (context : Node) (a : Assignment Path) : Option Data :=
  match (a.evaluate record context).outcome with
  | .ok v? => v?
  | .error _ => none

/-- the entries that assignments give, each on its own -/
def entries (record : String) (context : Node) (as : List (Assignment Path)) : List (String × Data) :=
  as.filterMap fun a => (a.value? record context).map fun d => (a.name, d)

theorem value?_of_ok {record : String} {context : Node} {a : Assignment Path} {v? : Option Data}
    (h : (a.evaluate record context).outcome = .ok v?) : a.value? record context = v? := by
  rw [value?, h]

theorem entries_cons (record : String) (context : Node) (a : Assignment Path) (rest : List (Assignment Path)) :
    entries record context (a :: rest) =
      ((a.value? record context).map fun d => (a.name, d)).toList ++ entries record context rest := by
  rw [entries, List.filterMap_cons]
  cases a.value? record context <;> rfl

/-- assignments in order are each assignment alone, and what they give put in order -/
theorem applyAll_eq_each (record : String) (context : Node) (cls : ObjectClass) {as : List (Assignment Path)}
    (ordinary : ∀ a ∈ as, ObjectClass.isReserved a.name = false) (properties : List (String × Data)) :
    applyAll record context cls as properties =
      (Run.each (evaluate record context) as).map fun _ =>
        (entries record context as).foldl (fun es e => Entries.put es e.1 e.2) properties := by
  induction as generalizing properties with
  | nil => rw [applyAll, Run.each]; rfl
  | cons a rest ih =>
    rw [applyAll, Run.each, Run.bind_map]
    have hrest := ih fun b hb => ordinary b (List.mem_cons_of_mem a hb)
    cases ha : (a.evaluate record context).outcome with
    | error e => rw [Run.bind_of_error ha, Run.bind_of_error ha]
    | ok v? =>
      rw [Run.bind_of_ok ha, Run.bind_of_ok ha]
      have hset : (Run.ofExcept (assign cls properties a.name v?)).bind
            (fun properties => applyAll record context cls rest properties) =
          applyAll record context cls rest (v?.elim properties fun d => Entries.put properties a.name d) := by
        cases v? with
        | none => exact Run.done_bind _ _
        | some d =>
          rw [assign, ObjectClass.set_of_not_reserved (ordinary a List.mem_cons_self)]
          exact Run.done_bind _ _
      rw [hset, hrest, entries_cons, value?_of_ok ha, Run.map_map]
      cases v? <;> rfl

end Assignment

end Harvest
