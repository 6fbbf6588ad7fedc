/-
Runs: computations that leave a trace of what happened and end in a result or a failure. The trace of a run that fails is
what happened before the failure.
-/
import Harvest.Mapping.Transform

namespace Harvest

/-- the weight of a log entry -/
inductive Level where
  | debug
  | info
  | error
  deriving DecidableEq, Repr

def Level.name : Level → String
  | debug => "DEBUG"
  | info => "INFO"
  | error => "ERROR"

/-- what happened in a run -/
inductive Event where
  /-- a transform was called on a value -/
  | called (transform : Transform) (argument : Data)
  | registered (mapping : String) (cls : ObjectClass)
  /-- the source of a property gave no value -/
  | noValue (property record : String)
  /-- the path of a nested property led nowhere -/
  | noNodes (property record : String)
  | failed (record mapping : String) (failure : Failure)
  | mapped (total : Nat) (mapping : String) (failures : Nat)
  deriving Inhabited

/-- the log entry of an event; `report` gives the text of a failure -/
def Event.log? (report : Failure → String) : Event → Option (Level × String)
  | called _ _ => none
  | registered mapping cls => some (.debug, "Registered mapping '" ++ mapping ++ "' for " ++ cls.name)
  | noValue property record => some (.debug, "No value for '" ++ property ++ "' in record " ++ record)
  | noNodes property record => some (.debug, "No nodes for nested '" ++ property ++ "' in record " ++ record)
  | failed record mapping failure =>
    some (.error, "Failed to map record " ++ record ++ " with '" ++ mapping ++ "': " ++ report failure)
  | mapped total mapping failures =>
    some (.info, "Mapped " ++ Nat.repr total ++ " record(s) with '" ++ mapping ++ "', " ++ Nat.repr failures ++ " failed")

/-- the call of a transform that an event is -/
def Event.call? : Event → Option (Transform × Data)
  | called transform argument => some (transform, argument)
  | _ => none

structure Run (α : Type) where
  events : List Event
  outcome : Except Failure α

namespace Run

variable {α β : Type}

/-- nothing happens -/
def done (a : α) : Run α := ⟨[], .ok a⟩

def ofExcept (outcome : Except Failure α) : Run α := ⟨[], outcome⟩

/-- one run after the other; a failure ends both -/
def bind (x : Run α) (f : α → Run β) : Run β :=
  match x.outcome with
  | .error e => ⟨x.events, .error e⟩
  | .ok a => ⟨x.events ++ (f a).events, (f a).outcome⟩

def map (f : α → β) (x : Run α) : Run β :=
  ⟨x.events, x.outcome.map f⟩

/-- a run for each item in order -/
def each (f : α → Run β) : List α → Run (List β)
  | [] => done []
  | a :: rest => (f a).bind fun b => (each f rest).map (b :: ·)

theorem bind_of_ok {x : Run α} {a : α} (h : x.outcome = .ok a) (f : α → Run β) :
    x.bind f = ⟨x.events ++ (f a).events, (f a).outcome⟩ := by
  simp [bind, h]

theorem bind_of_error {x : Run α} {e : Failure} (h : x.outcome = .error e) (f : α → Run β) :
    x.bind f = ⟨x.events, .error e⟩ := by
  simp [bind, h]

theorem done_bind (a : α) (f : α → Run β) : (done a).bind f = f a := by
  simp [done, bind]

theorem bind_assoc {γ : Type} (x : Run α) (f : α → Run β) (g : β → Run γ) :
    (x.bind f).bind g = x.bind fun a => (f a).bind g := by
  cases hx : x.outcome with
  | error e =>
    have hf : (x.bind f).outcome = .error e := by rw [bind_of_error hx]
    rw [bind_of_error hf, bind_of_error hx, bind_of_error hx]
  | ok a =>
    cases hf : (f a).outcome with
    | error e => simp [bind, hx, hf]
    | ok b => simp [bind, hx, hf]

end Run

end Harvest
