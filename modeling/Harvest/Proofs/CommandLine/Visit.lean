/-
Visits of files. A run comes to one file after the other, and makes one visit of each: the file holds no valid JSON and is
skipped, or its records are mapped one by one and the table of their objects is saved. What a run has printed and counted is
told by its visits.

- `advance_ok_iff`: a step of a run is a visit.
- `run_ok_iff`: a run without a failure is a visit of each of its files, in their order.
-/
import Harvest.Proofs.CommandLine.Progress
import Harvest.Proofs.Mapping.Batch

namespace Harvest.CommandLine

/-- what comes of a file in a run -/
inductive Handling where
  | skipped (e : Failure)
  /-- what became of each of its records, and where their table is -/
  | processed (outcomes : List Outcome) (table : FilePath)

structure Visit where
  file : FilePath
  handling : Handling

namespace Visit

/-- the line that is printed -/
def line (v : Visit) : String :=
  match v.handling with
  | .skipped e => "Skipped: " ++ v.file.text ++ " (" ++ e.message ++ ")"
  | .processed _ table => "Processed: " ++ v.file.text ++ " -> " ++ table.text

def isSkipped (v : Visit) : Bool :=
  match v.handling with
  | .skipped _ => true
  | .processed _ _ => false

/-- what became of the records of the file -/
def outcomes (v : Visit) : List Outcome :=
  match v.handling with
  | .skipped _ => []
  | .processed outcomes _ => outcomes

/-- the records that were mapped -/
def records (v : Visit) : List Record :=
  v.outcomes.map Outcome.record

/-- how many records the file counts for: a skipped one is a record that failed -/
def count (v : Visit) : Nat :=
  match v.handling with
  | .skipped _ => 1
  | .processed outcomes _ => outcomes.length

/-- the records that failed with the reports of their failures; a skipped file goes by its path -/
def failures (v : Visit) : List (String × String) :=
  match v.handling with
  | .skipped e => [(v.file.text, e.message)]
  | .processed outcomes _ => failuresOf outcomes

end Visit

/-- the records of the processed files, and one for each skipped file -/
def recordCount (visits : List Visit) : Nat :=
  (visits.flatMap Visit.outcomes).length + visits.countP Visit.isSkipped

theorem recordCount_cons (v : Visit) (rest : List Visit) : recordCount (v :: rest) = v.count + recordCount rest := by
  obtain ⟨file, handling⟩ := v
  rw [recordCount, recordCount, List.flatMap_cons, List.length_append]
  cases handling with
  | skipped e =>
    rw [List.countP_cons_of_pos rfl]
    simp only [Visit.outcomes, Visit.count, List.length_nil]
    omega
  | processed outcomes table =>
    rw [List.countP_cons_of_neg (by simp [Visit.isSkipped])]
    simp only [Visit.outcomes, Visit.count]
    omega

/-- a visit with the trees of files before and after it, when the records of the past have been mapped -/
inductive Visited (job : Job) (past : List Record) : FileTree → Visit → FileTree → Prop
  | skipped {t : FileTree} {file : FilePath} {name : String} {e : Json.Error}
      (refused : t.records file = .error (.badFile name e)) : Visited job past t ⟨file, .skipped (.badFile name e)⟩ t
  | processed {t t' : FileTree} {file table : FilePath} {records : List Record} {m : Mapping}
      (read : t.records file = .ok records) (registered : job.registry.find? job.name = some m)
      (goesOn : ∀ x ∈ records, ∀ e, ¬m.Stops x e)
      (saved : job.save t file (m.outcomesAmong (past ++ records) records) = .ok (t', table)) :
      Visited job past t ⟨file, .processed (m.outcomesAmong (past ++ records) records) table⟩ t'

/-- visits one after the other -/
inductive Visits (job : Job) : List Record → FileTree → List Visit → FileTree → Prop
  | nil (past : List Record) (t : FileTree) : Visits job past t [] t
  | cons {past : List Record} {t t' t'' : FileTree} {v : Visit} {rest : List Visit} (first : Visited job past t v t')
      (others : Visits job (past ++ v.records) t' rest t'') : Visits job past t (v :: rest) t''

variable {job : Job} {past : List Record} {t t' : FileTree} {file : FilePath} {outcomes : List Outcome}

theorem Job.mapFile_skipped_iff {e : Failure} :
    job.mapFile past t file = .ok (.skipped e) ↔ ∃ name error, e = .badFile name error ∧ t.records file = .error e := by
  unfold Job.mapFile
  split
  · rename_i name error hrecords
    constructor
    · rintro ⟨⟩
      exact ⟨name, error, rfl, hrecords⟩
    · rintro ⟨_, _, _, h⟩
      rw [hrecords] at h
      cases h
      rfl
  · rename_i other hother hrecords
    constructor
    · nofun
    · rintro ⟨name, error, rfl, h⟩
      rw [hrecords] at h
      cases h
      exact absurd rfl (hother name error)
  · rename_i records hrecords
    constructor
    · intro h
      cases hmap : (job.registry.map job.name past records).outcome <;> rw [hmap] at h <;> cases h
    · rintro ⟨_, _, _, h⟩
      rw [hrecords] at h
      cases h

theorem Job.mapFile_mapped_iff : job.mapFile past t file = .ok (.mapped outcomes) ↔
    ∃ records, t.records file = .ok records ∧ (job.registry.map job.name past records).outcome = .ok outcomes := by
  unfold Job.mapFile
  split
  · simp_all
  · simp_all
  · rename_i records hrecords
    cases hmap : (job.registry.map job.name past records).outcome <;> simp [Except.map, hrecords, hmap]

namespace Progress

variable {p p' : Progress}

/-- the progress after a visit that leaves a tree -/
def note (p : Progress) (v : Visit) (tree : FileTree) : Progress where
  tree
  past := p.past ++ v.records
  lines := p.lines ++ [v.line]
  total := p.total + v.count
  failures := p.failures ++ v.failures

/-- a step of a run is a visit -/
theorem advance_ok_iff :
    p.advance job file = .ok p' ↔ ∃ v tree, v.file = file ∧ Visited job p.past p.tree v tree ∧ p' = p.note v tree := by
  unfold advance
  constructor
  · intro h
    split at h
    · cases h
    · rename_i e hskipped
      cases h
      obtain ⟨name, error, rfl, hrecords⟩ := Job.mapFile_skipped_iff.1 hskipped
      refine ⟨_, _, rfl, .skipped hrecords, ?_⟩
      simp [note, Visit.records, Visit.outcomes, Visit.line, Visit.count, Visit.failures]
    · rename_i outcomes hmapped
      split at h
      · cases h
      · rename_i tree table hsaved
        cases h
        obtain ⟨records, hrecords, hmap⟩ := Job.mapFile_mapped_iff.1 hmapped
        obtain ⟨m, hfound, hgoesOn, rfl⟩ := Registry.map_ok_iff.1 hmap
        exact ⟨_, _, rfl, .processed hrecords hfound hgoesOn hsaved, rfl⟩
  · rintro ⟨v, tree, rfl, visited, rfl⟩
    cases visited with
    | skipped refused =>
      rw [Job.mapFile_skipped_iff.2 ⟨_, _, rfl, refused⟩]
      simp [note, Visit.records, Visit.outcomes, Visit.line, Visit.count, Visit.failures]
    | processed read registered goesOn saved =>
      rw [Job.mapFile_mapped_iff.2 ⟨_, read, Registry.map_ok_iff.2 ⟨_, registered, goesOn, rfl⟩⟩]
      simp only [saved]
      rfl

/-- the progress after visits that leave a tree -/
def noteAll (p : Progress) (visits : List Visit) (tree : FileTree) : Progress where
  tree
  past := p.past ++ visits.flatMap Visit.records
  lines := p.lines ++ visits.map Visit.line
  total := p.total + recordCount visits
  failures := p.failures ++ visits.flatMap Visit.failures

theorem noteAll_note (p : Progress) (v : Visit) (rest : List Visit) (t t' : FileTree) :
    (p.note v t).noteAll rest t' = p.noteAll (v :: rest) t' := by
  simp [note, noteAll, recordCount_cons, Nat.add_assoc]

/-- a run without a failure is a visit of each of its files, in their order -/
theorem run_ok_iff {files : List FilePath} :
    run job p files = (p', none) ↔
      ∃ visits tree, visits.map Visit.file = files ∧ Visits job p.past p.tree visits tree ∧ p' = p.noteAll visits tree := by
  rw [run]
  induction files generalizing p with
  | nil =>
    rw [untilFailure]
    constructor
    · intro h
      cases h
      exact ⟨[], _, rfl, .nil _ _, by simp [noteAll, recordCount]⟩
    · rintro ⟨visits, tree, hfiles, hvisits, rfl⟩
      obtain rfl := List.map_eq_nil_iff.1 hfiles
      cases hvisits
      simp [noteAll, recordCount]
  | cons file rest ih =>
    rw [untilFailure]
    constructor
    · intro h
      cases hadvance : p.advance job file with
      | error e =>
        rw [hadvance] at h
        cases h
      | ok next =>
        rw [hadvance] at h
        obtain ⟨v, tree, rfl, hfirst, rfl⟩ := advance_ok_iff.1 hadvance
        obtain ⟨visits, last, rfl, hothers, rfl⟩ := ih.1 h
        exact ⟨v :: visits, last, rfl, .cons hfirst hothers, noteAll_note _ _ _ _ _⟩
    · rintro ⟨visits, last, hfiles, hvisits, rfl⟩
      cases hvisits with
      | nil => cases hfiles
      | cons hfirst hothers =>
        cases hfiles
        rw [advance_ok_iff.2 ⟨_, _, rfl, hfirst, rfl⟩]
        exact ih.2 ⟨_, _, rfl, hothers, (noteAll_note _ _ _ _ _).symm⟩

end Progress

end Harvest.CommandLine
