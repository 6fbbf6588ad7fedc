/-
Objects that share nothing. What changes a block makes to an object and what its assignments give are two accounts of one
thing; where no literal is lent they agree, so that each object is in the end as it was made.

- `outcome_evaluate`, `outcome_applyAll`: the name of a record stands in what is reported only.
- `settledValue_of_ok`, `settle_changesFrom`: without lent literals, changes come to what assignments give.
- `settled_of_lends_nothing`: a mapping that lends nothing maps a record alike whatever was mapped before.
- `settled_of_not_replacesAll`: so does one that nowhere assigns all properties at once.
-/
import Harvest.Mapping.Basic
import Harvest.Proofs.Run

namespace Harvest

open Run

/-- what setting a property under a name comes to, if it can be set -/
theorem ObjectClass.set_ok_iff {c : ObjectClass} {properties next : List (String × Data)} {name : String} {d : Data} :
    c.set properties name d = .ok next ↔
      (name = propertiesSlot ∧ d = .dict next) ∨ (isReserved name = false ∧ Entries.put properties name d = next) := by
  by_cases hname : name = propertiesSlot
  · subst hname
    cases d <;> simp [set, isReserved, classSlot, propertiesSlot]
  · cases hreserved : isReserved name with
    | false => simp [set_of_not_reserved hreserved, hname]
    | true =>
      have hslot : name = classSlot ∨ name = referencesSlot := by simpa [isReserved, hname] using hreserved
      rcases hslot with rfl | rfl <;> simp [set, classSlot, referencesSlot, propertiesSlot]

namespace Assignment

/-! ## Names of records -/

theorem outcome_propertyValue (record record' : String) (here : Node) (name : String) (source : Source Path)
    (transform? : Option Transform) (many : Bool) :
    (propertyValue record here name source transform? many).outcome =
      (propertyValue record' here name source transform? many).outcome := by
  refine outcome_bind_congr rfl fun resolved => outcome_bind_congr rfl fun value? => ?_
  cases value? <;> rfl

theorem outcome_nestedValue (record record' name : String) (many : Bool) (objects : List Data) :
    (nestedValue record name many objects).outcome = (nestedValue record' name many objects).outcome := by
  cases objects <;> rfl

mutual

theorem outcome_evaluate (record record' : String) (here : Node) :
    ∀ a : Assignment Path, (a.evaluate record here).outcome = (a.evaluate record' here).outcome
  | .property name source transform? many => by
    rw [evaluate, evaluate]
    exact outcome_propertyValue record record' here name source transform? many
  | .nested name cls path? many body => by
    rw [evaluate, evaluate]
    refine outcome_bind_congr (outcome_each_congr fun n _ => ?_) fun objects =>
      outcome_nestedValue record record' name many objects
    exact congrArg (Except.map _) (outcome_applyAll record record' n cls body [])

theorem outcome_applyAll (record record' : String) (here : Node) (cls : ObjectClass) :
    ∀ (block : List (Assignment Path)) (properties : List (String × Data)),
      (applyAll record here cls block properties).outcome = (applyAll record' here cls block properties).outcome
  | [], _ => by rw [applyAll, applyAll]
  | a :: rest, properties => by
    rw [applyAll, applyAll]
    refine outcome_bind_congr (outcome_evaluate record record' here a) fun value? => outcome_bind_congr rfl fun properties => ?_
    exact outcome_applyAll record record' here cls rest properties

end

/-! ## Blocks that lend nothing -/

mutual

/-- the assignment, or one inside it at any depth, lends its literal -/
def lendsSomewhere : Assignment Path → Bool
  | .property name source transform? many =>
    name == ObjectClass.propertiesSlot && (property name source transform? many).lends
  | .nested _ _ _ _ body => anyLends body

def anyLends : List (Assignment Path) → Bool
  | [] => false
  | a :: rest => a.lendsSomewhere || anyLends rest

end

theorem goesOn_of_ok {cls : ObjectClass} {record : String} {here : Node} {a : Assignment Path} {value? : Option Data}
    {properties next : List (String × Data)} (hvalue : (a.evaluate record here).outcome = .ok value?)
    (hassign : assign cls properties a.name value? = .ok next) : a.goesOn cls here = true := by
  obtain ⟨alone, halone⟩ : ∃ alone, assign cls [] a.name value? = .ok alone := by
    cases value? with
    | none => exact ⟨_, rfl⟩
    | some d =>
      rcases ObjectClass.set_ok_iff.1 hassign with ⟨hname, hd⟩ | ⟨ordinary, -⟩
      · exact ⟨next, ObjectClass.set_ok_iff.2 (.inl ⟨hname, hd⟩)⟩
      · exact ⟨_, ObjectClass.set_ok_iff.2 (.inr ⟨ordinary, rfl⟩)⟩
  rw [outcome_evaluate record "" here a] at hvalue
  rw [goesOn, bind_of_ok hvalue, halone]
  rfl

/-- the change that an assignment makes is what setting its value does -/
theorem settle_change? {cls : ObjectClass} {a : Assignment Path} {value? : Option Data}
    {properties next : List (String × Data)} (keeps : a.lendsSomewhere = false)
    (hassign : assign cls properties a.name value? = .ok next) (number : Nat) (all : List (List Change))
    (rest : List Change) :
    Change.settle all properties ((a.change? number value?).toList ++ rest) = Change.settle all next rest := by
  cases value? with
  | none =>
    cases hassign
    rfl
  | some d =>
    rcases ObjectClass.set_ok_iff.1 hassign with ⟨hname, rfl⟩ | ⟨ordinary, rfl⟩
    · have hlends : a.lends = false := by
        cases a with
        | property name source transform? many =>
          have hslot : name = ObjectClass.propertiesSlot := hname
          simpa [lendsSomewhere, hslot] using keeps
        | nested => rfl
      simp [change?, hname, hlends, Change.settle]
    · have hne : (a.name == ObjectClass.propertiesSlot) = false := by
        simp only [ObjectClass.isReserved, Bool.or_eq_false_iff] at ordinary
        exact ordinary.1.2
      simp [change?, hne, Change.settle]

theorem nestedValue_ok {record name : String} {many : Bool} {objects : List Data} {value? : Option Data}
    (h : (nestedValue record name many objects).outcome = .ok value?) : value? = unwrapItems many objects := by
  cases objects <;> cases h <;> rfl

mutual

/-- an assignment that lends nothing has settled the value that it gives -/
theorem settledValue_of_ok {record : String} {here : Node} (everywhere : List Node) :
    ∀ (a : Assignment Path) (value? : Option Data), a.lendsSomewhere = false →
      (a.evaluate record here).outcome = .ok value? → a.settledValue everywhere here = value?
  | .property name source transform? many, value?, _, h => by
    rw [evaluate, outcome_propertyValue record ""] at h
    rw [settledValue, h]
    rfl
  | .nested name cls path? many body, value?, keeps, h => by
    rw [evaluate] at h
    obtain ⟨objects, hobjects, hvalue⟩ := bind_ok_iff.1 h
    rw [settledValue, nestedValue_ok hvalue]
    congr 1
    have hforall := each_ok_iff.1 hobjects
    rw [← List.forall₂_eq_eq_eq, List.forall₂_map_left_iff]
    refine hforall.imp fun n o hn => ?_
    obtain ⟨properties, happly, rfl⟩ := map_ok_iff.1 hn
    rw [settledObject, settle_changesFrom body [] properties _ _ _ keeps happly]

/-- the changes of a block that lends nothing come to what its assignments make of the properties -/
theorem settle_changesFrom {record : String} {here : Node} {cls : ObjectClass} :
    ∀ (block : List (Assignment Path)) (properties result : List (String × Data)) (number : Nat)
      (everywhere : List Node) (all : List (List Change)), anyLends block = false →
      (applyAll record here cls block properties).outcome = .ok result →
      Change.settle all properties (changesFrom cls number everywhere here block) = result
  | [], properties, result, _, _, _, _, h => by
    rw [applyAll] at h
    cases h
    rw [changesFrom, Change.settle]
  | a :: rest, properties, result, number, everywhere, all, keeps, h => by
    obtain ⟨hhere, hrest⟩ : a.lendsSomewhere = false ∧ anyLends rest = false := by simpa [anyLends] using keeps
    rw [applyAll] at h
    obtain ⟨value?, hvalue, h⟩ := bind_ok_iff.1 h
    obtain ⟨next, hassign, h⟩ := bind_ok_iff.1 h
    rw [changesFrom, if_pos (goesOn_of_ok hvalue hassign), settledValue_of_ok everywhere a value? hhere hvalue,
      settle_change? hhere hassign]
    exact settle_changesFrom rest next result _ _ all hrest h

end

end Assignment

namespace Mapping

variable {m : Mapping}

theorem settled_of_not_replacesAll (h : m.replacesAll = false) (all : List Record) (x : Record) (d : Data) :
    m.settled all x d = d := by
  rw [settled, h]

/-- where no literal is lent, each object is in the end as it was made, whatever records the mapping was run on -/
theorem settled_of_lends_nothing (keeps : Assignment.anyLends m.assignments = false) (all : List Record) {x : Record}
    {d : Data} (h : (m.process x).outcome = .ok d) : m.settled all x d = d := by
  obtain ⟨document, opened, h⟩ := bind_ok_iff.1 h
  obtain ⟨properties, happly, rfl⟩ := map_ok_iff.1 h
  have hopened : Document.ofRecord 0 m.format x m.arguments = .ok document := opened
  cases hall : m.replacesAll with
  | false => exact settled_of_not_replacesAll hall all x _
  | true =>
    have hroot : m.root? x = some document.root := by
      rw [root?, hopened]
      rfl
    rw [settled, hall, hroot]
    simp only [settledObject, Assignment.settle_changesFrom _ _ _ _ _ _ keeps happly]

theorem settle_of_not_replacesAll (h : m.replacesAll = false) (all : List Record) (o : Outcome) : m.settle all o = o := by
  obtain ⟨x, result⟩ := o
  cases result with
  | error e => rfl
  | ok d => simp only [settle, Except.map, settled_of_not_replacesAll h]

/-- without an assignment of all properties a record is mapped alike whatever was mapped before -/
theorem processAfter_of_not_replacesAll (h : m.replacesAll = false) (past : List Record) (x : Record) :
    m.processAfter past x = m.process x := by
  have hsettled : m.settled (past ++ [x]) x = fun d => d := funext fun d => settled_of_not_replacesAll h _ x d
  rw [processAfter, hsettled, map_self]

@[simp]
theorem settle_record (m : Mapping) (all : List Record) (o : Outcome) : (m.settle all o).record = o.record := rfl

@[simp]
theorem settle_failed (m : Mapping) (all : List Record) (o : Outcome) : (m.settle all o).failed = o.failed := by
  obtain ⟨x, result⟩ := o
  cases result <;> rfl

end Mapping

end Harvest
