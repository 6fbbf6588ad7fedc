/-
Tables that a command has written. A table that is written stays as it is while other files are mapped, unless one of them has
its directory and its name up to the ending in common with the file of the table: then both tables have one place, and the
later one replaces the earlier one.

- `advance_keeps_table`: mapping one more file keeps the tables of other files.
- `run_keeps_table`: so does mapping files one after the other.
- `table_stays`: so a table that no later file shares its place with is there after a run.
-/
import Harvest.CommandLine.Progress
import Harvest.Proofs.Files.FileTree

namespace Harvest.CommandLine

open Harvest.Text

/-- the bytes of the table of a batch, at its path -/
def Job.tableBytes (job : Job) (path : FilePath) (outcomes : List Outcome) : Except Failure (List UInt8) :=
  (Table.ofObjects (objectsOf outcomes)).bind fun table =>
    (job.format.get (.unsupportedOutput Value.absent.display)).bind (table.write job.tools path)

variable {job : Job} {t t' : FileTree} {file path : FilePath} {outcomes : List Outcome}

/-! ## One item after the other -/

section

variable {σ α : Type} {step : σ → α → Except Failure σ} {s s' : σ}

/-- what each step keeps is kept -/
theorem untilFailure_keeps {P : σ → Prop} {items : List α}
    (kept : ∀ a ∈ items, ∀ s s', step s a = .ok s' → P s → P s') (h : P s) : P (untilFailure step s items).1 := by
  induction items generalizing s with
  | nil => exact h
  | cons a rest ih =>
    obtain ⟨hfirst, hrest⟩ := List.forall_mem_cons.1 kept
    rw [untilFailure]
    split
    · exact h
    · rename_i next hstep
      exact ih hrest (hfirst s next hstep h)

/-- what comes after items without a failure starts where they end -/
theorem untilFailure_append {before rest : List α} (reached : untilFailure step s before = (s', none)) :
    untilFailure step s (before ++ rest) = untilFailure step s' rest := by
  induction before generalizing s with
  | nil =>
    cases reached
    rfl
  | cons a before ih =>
    rw [untilFailure] at reached
    rw [List.cons_append, untilFailure]
    cases hstep : step s a with
    | error e =>
      rw [hstep] at reached
      cases reached
    | ok next =>
      rw [hstep] at reached
      exact ih reached

theorem untilFailure_cons_of_ok {a : α} {rest : List α} (h : step s a = .ok s') :
    untilFailure step s (a :: rest) = untilFailure step s' rest := by
  rw [untilFailure, h]

/-- what ends in a failure has come to the item whose step fails -/
theorem untilFailure_failed_iff {items : List α} {e : Failure} : untilFailure step s items = (s', some e) ↔
    ∃ before a after, items = before ++ a :: after ∧ untilFailure step s before = (s', none) ∧ step s' a = .error e := by
  constructor
  · intro h
    induction items generalizing s with
    | nil => cases h
    | cons a rest ih =>
      rw [untilFailure] at h
      cases hstep : step s a with
      | error e' =>
        rw [hstep] at h
        cases h
        exact ⟨[], a, rest, rfl, rfl, hstep⟩
      | ok next =>
        rw [hstep] at h
        obtain ⟨before, b, after, rfl, hreached, hfails⟩ := ih h
        exact ⟨a :: before, b, after, rfl, (untilFailure_cons_of_ok hstep).trans hreached, hfails⟩
  · rintro ⟨before, a, after, rfl, hreached, hfails⟩
    rw [untilFailure_append hreached, untilFailure, hfails]

end

/-! ## One table -/

/-- a table is written where it belongs, after the directories that lead there are made -/
theorem Job.exists_of_save (h : job.save t file outcomes = .ok (t', path)) :
    ∃ bytes grown, job.destination t file = .ok path ∧ job.tableBytes path outcomes = .ok bytes ∧
      t.makeDirectories path.parent = .ok grown ∧ grown.write path bytes = .ok t' := by
  unfold save at h
  split at h
  · cases h
  · rename_i hpath
    split at h
    · cases h
    · rename_i table htable
      split at h
      · cases h
      · rename_i grown hgrown
        split at h
        · cases h
        · rename_i bytes hbytes
          cases hwrite : grown.write _ bytes with
          | error e =>
            rw [hwrite] at h
            cases h
          | ok written =>
            rw [hwrite] at h
            cases h
            refine ⟨bytes, grown, hpath, ?_, hgrown, hwrite⟩
            rw [tableBytes, htable]
            exact hbytes

theorem Job.exists_of_destination (h : job.destination t file = .ok path) :
    ∃ output, job.output = .given output ∧
      t.destination job.input output file job.formatOrFirst.ending = .ok path := by
  unfold destination at h
  split at h
  · cases h
  · cases h
  · rename_i name output hname houtput
    cases h
    refine ⟨output, houtput, ?_⟩
    rw [FileTree.destination, hname]
    rfl

theorem Job.isDirectory_of_save (h : job.save t file outcomes = .ok (t', path)) {p : FilePath}
    (directory : t.isDirectory p = .ok true) : t'.isDirectory p = .ok true := by
  obtain ⟨bytes, grown, -, -, hmade, hwrite⟩ := exists_of_save h
  obtain ⟨location, hlocate⟩ := FileTree.isDirectory_iff.1 directory
  have hgrown := FileTree.makeDirectories_grows hmade p location _ hlocate
  exact FileTree.isDirectory_iff.2 ⟨location, (FileTree.written_of_write hwrite).elsewhere p location _ hgrown (Or.inl rfl)⟩

theorem Job.save_place {q output : FilePath} (place : q.IsRecordPlace) (directory : t.isDirectory job.input = .ok true)
    (given : job.output = .given output) (h : job.save t (job.input.join q) outcomes = .ok (t', path)) :
    path = output.join (q.tablePlace job.formatOrFirst.ending) := by
  obtain ⟨-, -, hpath, -, -, -⟩ := exists_of_save h
  unfold destination at hpath
  rw [FileTree.outputName_join directory place job.formatOrFirst.tableEnding, given] at hpath
  exact (Except.ok.inj hpath).symm

/-- saving a table keeps what is read at other places -/
theorem Job.read_of_save {q r output : FilePath} {bytes : List UInt8} (place : q.IsRecordPlace) (other : r.IsPlace)
    (apart : r ≠ q.tablePlace job.formatOrFirst.ending) (directory : t.isDirectory job.input = .ok true)
    (given : job.output = .given output) (h : job.save t (job.input.join q) outcomes = .ok (t', path))
    (content : t.read (output.join r) = .ok bytes) : t'.read (output.join r) = .ok bytes := by
  obtain rfl := save_place place directory given h
  obtain ⟨_, grown, -, -, hmade, hwrite⟩ := exists_of_save h
  obtain ⟨location, hlocate⟩ := FileTree.read_ok_iff.1 content
  have hgrown := FileTree.makeDirectories_grows hmade _ location _ hlocate
  refine FileTree.read_ok_iff.2 ⟨location, (FileTree.written_of_write hwrite).elsewhere _ location _ hgrown ?_⟩
  refine Or.inr fun found hsame => apart ?_
  exact FileTree.place_eq_of_location other (place.isPlace_tablePlace job.formatOrFirst.tableEnding) hgrown hsame

namespace Progress

variable {p p' : Progress}

/-! ## One file after the other -/

/-- a file is skipped, and all files stay as they are, or its table is saved -/
theorem advance_cases (h : p.advance job file = .ok p') :
    p'.tree = p.tree ∨ ∃ outcomes path, job.save p.tree file outcomes = .ok (p'.tree, path) := by
  unfold advance at h
  split at h
  · cases h
  · cases h
    exact Or.inl rfl
  · rename_i outcomes _
    split at h
    · cases h
    · rename_i path hsave
      cases h
      exact Or.inr ⟨outcomes, path, hsave⟩

theorem advance_of_save {tree : FileTree} (mapped : job.mapFile p.past p.tree file = .ok (.mapped outcomes))
    (saved : job.save p.tree file outcomes = .ok (tree, path)) :
    ∃ p', p.advance job file = .ok p' ∧ p'.tree = tree := by
  unfold advance
  rw [mapped]
  simp only [saved]
  exact ⟨_, rfl, rfl⟩

theorem isDirectory_of_advance (h : p.advance job file = .ok p') {input : FilePath}
    (directory : p.tree.isDirectory input = .ok true) : p'.tree.isDirectory input = .ok true := by
  rcases advance_cases h with same | ⟨outcomes, path, hsave⟩
  · rw [same]
    exact directory
  · exact Job.isDirectory_of_save hsave directory

theorem isDirectory_of_run {files : List FilePath} {input : FilePath} (directory : p.tree.isDirectory input = .ok true) :
    (run job p files).1.tree.isDirectory input = .ok true :=
  untilFailure_keeps (P := fun p => p.tree.isDirectory input = .ok true)
    (fun _ _ _ _ hadvance hdirectory => isDirectory_of_advance hadvance hdirectory) directory

section

variable {output r : FilePath} {bytes : List UInt8} (given : job.output = .given output) (other : r.IsPlace)

include given other

/-- mapping one more file keeps the tables of other files -/
theorem advance_keeps_table {q : FilePath} (place : q.IsRecordPlace) (apart : r ≠ q.tablePlace job.formatOrFirst.ending)
    (directory : p.tree.isDirectory job.input = .ok true) (content : p.tree.read (output.join r) = .ok bytes)
    (h : p.advance job (job.input.join q) = .ok p') : p'.tree.read (output.join r) = .ok bytes := by
  rcases advance_cases h with same | ⟨outcomes, path, hsave⟩
  · rw [same]
    exact content
  · exact Job.read_of_save place other apart directory given hsave content

/-- so does mapping files one after the other -/
theorem run_keeps_table {files : List FilePath}
    (apart : ∀ f ∈ files, ∃ q : FilePath, q.IsRecordPlace ∧ f = job.input.join q ∧
      r ≠ q.tablePlace job.formatOrFirst.ending)
    (directory : p.tree.isDirectory job.input = .ok true) (content : p.tree.read (output.join r) = .ok bytes) :
    (run job p files).1.tree.read (output.join r) = .ok bytes := by
  refine (untilFailure_keeps (P := fun p : Progress =>
    p.tree.isDirectory job.input = .ok true ∧ p.tree.read (output.join r) = .ok bytes) ?_ ⟨directory, content⟩).2
  rintro file hfile p p' hadvance ⟨hdirectory, hcontent⟩
  obtain ⟨q, place, rfl, hapart⟩ := apart file hfile
  exact ⟨isDirectory_of_advance hadvance hdirectory,
    advance_keeps_table given other place hapart hdirectory hcontent hadvance⟩

end

/-- the path and the bytes of the table of a file, if the run over the files before it comes to it and writes it a table -/
def tableAfter? (job : Job) (t : FileTree) (before : List FilePath) (file : FilePath) : Option (FilePath × List UInt8) :=
  match run job { tree := t } before with
  | (_, some _) => none
  | (p, none) =>
    match job.mapFile p.past p.tree file with
    | .error _ => none
    | .ok (.skipped _) => none
    | .ok (.mapped outcomes) =>
      match job.save p.tree file outcomes with
      | .error _ => none
      | .ok (_, path) => (job.tableBytes path outcomes).toOption.map fun bytes => (path, bytes)

theorem exists_of_tableAfter? {before : List FilePath} {bytes : List UInt8}
    (h : tableAfter? job t before file = some (path, bytes)) :
    ∃ p outcomes tree, run job { tree := t } before = (p, none) ∧
      job.mapFile p.past p.tree file = .ok (.mapped outcomes) ∧ job.save p.tree file outcomes = .ok (tree, path) ∧
      job.tableBytes path outcomes = .ok bytes := by
  unfold tableAfter? at h
  split at h
  · cases h
  · rename_i p hreached
    split at h
    · cases h
    · cases h
    · rename_i outcomes hmapped
      split at h
      · cases h
      · rename_i tree path' hsaved
        obtain ⟨bytes', hbytes, hpair⟩ := Option.map_eq_some_iff.1 h
        cases hpair
        exact ⟨p, outcomes, tree, hreached, hmapped, hsaved, Failure.eq_ok_of_toOption hbytes⟩

end Progress

/-- the tables of two files have one place: the files share a directory, and their names up to the endings -/
def SharePlace (f g : FilePath) : Prop :=
  f.parent = g.parent ∧ dropEnding f.name = dropEnding g.name

instance (f g : FilePath) : Decidable (SharePlace f g) :=
  inferInstanceAs (Decidable (f.parent = g.parent ∧ dropEnding f.name = dropEnding g.name))

/-- a table that is written is read at its path after the run, if no later file shares its place -/
theorem table_stays {before after : List FilePath} {bytes : List UInt8} (sound : t.Sound)
    (found : t.recordFiles job.input = .ok (before ++ file :: after))
    (table : Progress.tableAfter? job t before file = some (path, bytes)) (apart : ∀ g ∈ after, ¬SharePlace g file) :
    (Progress.run job { tree := t } (before ++ file :: after)).1.tree.read path = .ok bytes := by
  obtain ⟨p, outcomes, tree, hreached, hmapped, hsaved, hbytes⟩ := Progress.exists_of_tableAfter? table
  obtain ⟨p', hadvance, rfl⟩ := Progress.advance_of_save hmapped hsaved
  obtain ⟨bytes', grown, hpath, hbytes', -, hwrite⟩ := Job.exists_of_save hsaved
  obtain rfl : bytes = bytes' := Except.ok.inj (hbytes.symm.trans hbytes')
  have hwritten := FileTree.written_of_write hwrite
  have hrun : Progress.run job { tree := t } (before ++ file :: after) = Progress.run job p' after :=
    (untilFailure_append hreached).trans (untilFailure_cons_of_ok hadvance)
  rw [hrun]
  rcases FileTree.recordFiles_cases sound found with ⟨directory, places⟩ | ⟨-, hnone | hone⟩
  · -- the input is still a directory when the file is mapped, so the place of its table is told by its place there
    have hdirectory : p.tree.isDirectory job.input = .ok true := by
      have hbefore : (Progress.run job { tree := t } before).1.tree.isDirectory job.input = .ok true :=
        Progress.isDirectory_of_run directory
      rwa [hreached] at hbefore
    obtain ⟨q, place, rfl⟩ := places file (by simp)
    obtain ⟨output, given, -⟩ := Job.exists_of_destination hpath
    obtain rfl := Job.save_place place hdirectory given hsaved
    refine Progress.run_keeps_table given (place.isPlace_tablePlace job.formatOrFirst.tableEnding) (fun g hg => ?_)
      (Progress.isDirectory_of_advance hadvance hdirectory) hwritten.here
    obtain ⟨r, hr, rfl⟩ := places g (by simp [hg])
    refine ⟨r, hr, rfl, fun same => apart _ hg ?_⟩
    exact (hr.tablePlace_eq_iff place _).1 same.symm
  · simp at hnone
  · -- the input is the only file, and nothing comes after it
    obtain rfl : after = [] := by
      have hlength := congrArg List.length hone
      simp only [List.length_append, List.length_cons, List.length_nil] at hlength
      exact List.length_eq_zero_iff.1 (by omega)
    exact hwritten.here

end Harvest.CommandLine
