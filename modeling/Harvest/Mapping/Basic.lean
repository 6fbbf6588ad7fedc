/-
Mappings from records to objects, and mapping a batch of records: one outcome for each record in order. A failure stays
with its record, except one that stops the batch.

A mapping keeps nothing of the records that it is run on, except in literals that it lends to objects. So what an object is in the
end is told from all these records.
-/
import Harvest.Document
import Harvest.Mapping.Lending

namespace Harvest

/-- a mapping from records of one format to objects of one class -/
structure Mapping where
  cls : ObjectClass
  format : Format
  /-- the arguments that records are opened with -/
  arguments : List Data
  assignments : List (Assignment Path)
  deriving Inhabited

namespace Mapping

/-- the names of the assigned properties in order, repeated ones repeated -/
def propertyNames (m : Mapping) : List String :=
  m.assignments.map Assignment.name

/-- the object that an opened record is mapped to -/
def build (m : Mapping) (document : Document) : Run Data :=
  (Assignment.applyAll document.record document.root m.cls m.assignments []).map (Data.object m.cls)

/-- map one record; the object is as it is made, with a copy of each literal -/
def process (m : Mapping) (record : Record) : Run Data :=
  (Run.ofExcept (Document.ofRecord 0 m.format record m.arguments)).bind m.build

/-- all properties of an object are assigned at once somewhere -/
def replacesAll (m : Mapping) : Bool :=
  Assignment.anyReplacesAll m.assignments

/-- the node that the assignments start from, if the record can be opened -/
def root? (m : Mapping) (record : Record) : Option Node :=
  (Document.ofRecord 0 m.format record m.arguments).toOption.map Document.root

/-- what becomes of the object `d` of a record when the mapping is run on all these records, in order -/
def settled (m : Mapping) (all : List Record) (record : Record) (d : Data) : Data :=
  match m.replacesAll, m.root? record with
  | true, some here =>
    settledObject m.cls (fun n => Assignment.changesFrom m.cls 0 (all.filterMap m.root?) n m.assignments)
      (all.filterMap m.root?) here
  | _, _ => d

/-- map one record, after the records of the past -/
def processAfter (m : Mapping) (past : List Record) (record : Record) : Run Data :=
  (m.process record).map (m.settled (past ++ [record]) record)

end Mapping

/-- how mapping a record ended -/
structure Outcome where
  record : Record
  result : Except Failure Data

namespace Outcome

def failed (o : Outcome) : Bool :=
  match o.result with
  | .ok _ => false
  | .error _ => true

/-- what the record was mapped to; null if it failed -/
def value (o : Outcome) : Data :=
  match o.result with
  | .ok d => d
  | .error _ => .null

/-- what the record failed with -/
def failure? (o : Outcome) : Option Failure :=
  match o.result with
  | .ok _ => none
  | .error e => some e

end Outcome

namespace Mapping

/-- map one record of a batch; `name` is the mapping's name -/
def attempt (m : Mapping) (name : String) (record : Record) : Run Outcome :=
  let run := m.process record
  match run.outcome with
  | .ok value => ⟨run.events, .ok ⟨record, .ok value⟩⟩
  | .error e =>
    if e.stopsBatch then ⟨run.events, .error e⟩
    else ⟨run.events ++ [.failed record.name name e], .ok ⟨record, .error e⟩⟩

/-- an outcome whose object is settled -/
def settle (m : Mapping) (all : List Record) (o : Outcome) : Outcome :=
  { o with result := o.result.map (m.settled all o.record) }

/-- map records in order, after the records of the past -/
def batch (m : Mapping) (name : String) (past records : List Record) : Run (List Outcome) :=
  (Run.each (m.attempt name) records).bind fun outcomes =>
    ⟨[.mapped outcomes.length name (outcomes.countP Outcome.failed)], .ok (outcomes.map (m.settle (past ++ records)))⟩

/-- the records of a batch that the mapping is run on: those up to the first that stops it -/
def tried (m : Mapping) (records : List Record) : List Record :=
  throughFirst (fun record => (m.attempt "" record).outcome.toOption.isSome) records

end Mapping

end Harvest
