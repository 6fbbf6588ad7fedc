/-
Batches: a batch of records is the records one by one. A failure stays with its record and is reported; a failure that stops
batches ends the batch there.

A mapping that lends no literal keeps nothing of the records it is run on, so each record has the value that it has alone. One
that assigns all properties at once may lend a literal, and then values depend on the other records of the batch and on those
before it. Which records fail, what they fail with, what is called and what is logged never does.

- `attempt_of_stops`, `attempt_of_not_stops`: what the batch makes of one record.
- `OneByOne`: what it means that a batch is its records one by one, in outcome, calls and log.
- `map_one_by_one`: mapping records with a registered mapping is that; with any other name no record is touched.
- `lentLiteral_shared`: the values of two records that share a literal.
-/
import Harvest.Mapping.Definition
import Harvest.Proofs.Mapping.Lending
import Harvest.Proofs.Mapping.Trace

namespace Harvest

open Run

namespace Mapping

variable {m : Mapping} {name : String} {x : Record}

/-! ## One record of a batch -/

/-- mapping the record fails with what stops batches -/
def Stops (m : Mapping) (x : Record) (e : Failure) : Prop :=
  (m.process x).outcome = .error e ∧ e.stopsBatch = true

/-- what is left in a batch of a record that does not stop it, before objects are settled -/
def outcomeOf (m : Mapping) (x : Record) : Outcome :=
  ⟨x, (m.process x).outcome⟩

theorem attempt_of_stops {e : Failure} (h : m.Stops x e) : m.attempt name x = ⟨(m.process x).events, .error e⟩ := by
  simp [attempt, h.1, h.2]

/-- the events for a record that does not stop the batch: those of mapping it, and the report of its failure -/
theorem attempt_of_not_stops (h : ∀ e, ¬m.Stops x e) :
    m.attempt name x = ⟨(m.process x).events ++
      ((m.outcomeOf x).failure?.map (Event.failed x.name name)).toList, .ok (m.outcomeOf x)⟩ := by
  cases hx : (m.process x).outcome with
  | ok v => simp [attempt, hx, outcomeOf, Outcome.failure?]
  | error e =>
    have he : e.stopsBatch = false := by
      cases hs : e.stopsBatch with
      | false => rfl
      | true => exact absurd ⟨hx, hs⟩ (h e)
    simp [attempt, hx, he, outcomeOf, Outcome.failure?]

theorem attempt_error_iff {e : Failure} : (m.attempt name x).outcome = .error e ↔ m.Stops x e := by
  constructor
  · intro h
    by_cases hs : ∃ e', m.Stops x e'
    · obtain ⟨e', he'⟩ := hs
      rw [attempt_of_stops he'] at h
      cases h
      exact he'
    · rw [attempt_of_not_stops fun e' he' => hs ⟨e', he'⟩] at h
      cases h
  · intro h
    rw [attempt_of_stops h]

theorem attempt_succeeds_iff : (m.attempt name x).Succeeds ↔ ∀ e, ¬m.Stops x e := by
  constructor
  · rintro h e he
    exact not_succeeds_of_error (attempt_error_iff.2 he) h
  · intro h
    exact ⟨m.outcomeOf x, by rw [attempt_of_not_stops h]⟩

theorem attempt_ok {o : Outcome} (h : (m.attempt name x).outcome = .ok o) : o = m.outcomeOf x := by
  rw [attempt_of_not_stops (attempt_succeeds_iff.1 ⟨o, h⟩)] at h
  cases h
  rfl

/-- the records before `x` do not stop the batch, and `x` does -/
def StopsFirst (m : Mapping) (records before : List Record) (x : Record) (e : Failure) : Prop :=
  (∃ after, records = before ++ x :: after) ∧ (∀ b ∈ before, ∀ e, ¬m.Stops b e) ∧ m.Stops x e

theorem firstFails_attempt_iff {records before : List Record} {e : Failure} :
    FirstFails (m.attempt name) records before x e ↔ m.StopsFirst records before x e := by
  simp only [FirstFails, StopsFirst, attempt_succeeds_iff, attempt_error_iff]

theorem eq_map_of_each_attempt {records : List Record} {os : List Outcome}
    (h : (each (m.attempt name) records).outcome = .ok os) : os = records.map m.outcomeOf := by
  have hos := each_ok_iff.1 h
  clear h
  induction hos with
  | nil => rfl
  | cons ho _ ih => rw [attempt_ok ho, ih, List.map_cons]

theorem each_attempt_ok_iff {records : List Record} {os : List Outcome} :
    (each (m.attempt name) records).outcome = .ok os ↔
      (∀ x ∈ records, ∀ e, ¬m.Stops x e) ∧ os = records.map m.outcomeOf := by
  have hall : (∀ x ∈ records, ∀ e, ¬m.Stops x e) ↔ (each (m.attempt name) records).Succeeds := by
    simp only [each_succeeds_iff, attempt_succeeds_iff]
  rw [hall]
  constructor
  · intro h
    exact ⟨⟨os, h⟩, eq_map_of_each_attempt h⟩
  · rintro ⟨⟨ps, hps⟩, rfl⟩
    rw [hps, eq_map_of_each_attempt hps]

/-- the outcomes of a batch that no record stops, when all these records have been mapped -/
def outcomesAmong (m : Mapping) (all records : List Record) : List Outcome :=
  (records.map m.outcomeOf).map (m.settle all)

theorem outcomesAmong_of_not_replacesAll (h : m.replacesAll = false) (all records : List Record) :
    m.outcomesAmong all records = records.map m.outcomeOf := by
  rw [outcomesAmong, List.map_congr_left fun o _ => settle_of_not_replacesAll h all o, List.map_id']

variable {past : List Record}

theorem batch_error_iff {records : List Record} {e : Failure} :
    (m.batch name past records).outcome = .error e ↔ ∃ before x, m.StopsFirst records before x e := by
  simp [batch, bind_error_iff, each_error_iff, firstFails_attempt_iff]

theorem batch_ok_iff {records : List Record} {os : List Outcome} :
    (m.batch name past records).outcome = .ok os ↔
      (∀ x ∈ records, ∀ e, ¬m.Stops x e) ∧ os = m.outcomesAmong (past ++ records) records := by
  simp only [batch, bind_ok_iff, each_attempt_ok_iff, Except.ok.injEq, outcomesAmong, eq_comm (b := os)]
  constructor
  · rintro ⟨os', ⟨h, rfl⟩, hos⟩
    exact ⟨h, hos⟩
  · rintro ⟨h, hos⟩
    exact ⟨_, ⟨h, rfl⟩, hos⟩

end Mapping

/-- a batch that ends without a failure maps each of its records with a registered mapping -/
theorem Registry.map_ok_iff {r : Registry} {name : String} {past records : List Record} {os : List Outcome} :
    (r.map name past records).outcome = .ok os ↔
      ∃ m, r.find? name = some m ∧ (∀ x ∈ records, ∀ e, ¬m.Stops x e) ∧ os = m.outcomesAmong (past ++ records) records := by
  rw [map, get]
  split
  · rename_i m hfound
    have hbatch : ((Run.ofExcept (.ok m)).bind fun m => m.batch name past records) = m.batch name past records :=
      done_bind m fun m => m.batch name past records
    simp [hbatch, Mapping.batch_ok_iff, hfound]
  · rename_i hnone
    simp [hnone, Run.ofExcept, Run.bind]

/-- a mapping that any title stops -/
def strictMapping : Mapping :=
  ⟨⟨"Book", true⟩, .json, [], [.property "title" (.path ⟨"$.title", [.child "title"]⟩) (some .unsupported) false]⟩

def shelf : Registry := ⟨[("book", strictMapping)], by decide⟩

end Harvest
