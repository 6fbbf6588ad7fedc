/-
Tables that a command leaves. A table that the command has written is there when the command has ended, in whatever way it ends,
unless something else was written to its place: the table of a later file, or the table of failures.

- `report_keeps_table`: the end of a job keeps the tables at other places than that of the table of failures.
- `tables_kept_apart`: which tables have one place, and which tables stay.
-/
import Harvest.Proofs.CommandLine.Reading

namespace Harvest.CommandLine

open Harvest.Text

variable {job : Job} {t : FileTree} {path : FilePath} {bytes : List UInt8}

/-- the table of failures, if one is asked for, does not lie where a path leads -/
def ErrorsElsewhere (errors? : Option (Value FilePath)) (path : FilePath) : Prop :=
  ∀ errors, errors? = some (.given errors) → FileTree.goal errors ≠ FileTree.goal path

theorem Progress.read_of_saveFailures {tools : TableTools} {p p' : Progress} {errors : FilePath}
    (saved : p.saveFailures tools errors = .ok p') (elsewhere : FileTree.goal errors ≠ FileTree.goal path)
    (there : p.tree.read path = .ok bytes) : p'.tree.read path = .ok bytes := by
  unfold saveFailures at saved
  split at saved
  · cases saved
  · obtain ⟨tree, hwrite, rfl⟩ := exists_of_map saved
    exact FileTree.read_of_writeDeep hwrite elsewhere there

/-- after all files are done, nothing is written but the table of failures -/
theorem report_keeps_table {files : List FilePath} {errors? : Option (Value FilePath)}
    (elsewhere : ErrorsElsewhere errors? path)
    (there : (Progress.run job { tree := t } files).1.tree.read path = .ok bytes) :
    (job.report t files errors?).tree.read path = .ok bytes := by
  unfold Job.report
  split
  · rename_i p e hrun
    rwa [hrun] at there
  · rename_i p hrun
    rw [hrun] at there
    unfold Progress.report
    split
    · exact there
    · rename_i _ errors
      cases errors with
      | mark => exact there
      | given errors =>
        simp only [Value.get, Except.bind]
        split
        · exact there
        · rename_i p' hsaved
          exact Progress.read_of_saveFailures hsaved (elsewhere errors rfl) there

/-- **Which tables have one place, and which tables stay.** The files are those that are found at the input. The paths of the
tables of two of them are one path exactly if the files share their directory and their names up to the endings. A table that
a command writes, in any format, is read at its path when the command has ended, if no later file shares its place and the table
of failures lies elsewhere. -/
theorem tables_kept_apart {t : FileTree} {input : FilePath} {files : List FilePath} (sound : t.Sound)
    (found : t.recordFiles input = .ok files) :
    (∀ (output : FilePath) (format : OutputFormat), ∀ f ∈ files, ∀ g ∈ files,
      ∃ p q, t.destination input output f format.ending = .ok p ∧ t.destination input output g format.ending = .ok q ∧
        (p = q ↔ SharePlace f g)) ∧
    ∀ (tools : Toolbox) (arguments : List String) (a : Arguments) (job : Job) (before after : List FilePath)
      (file path : FilePath) (bytes : List UInt8),
      readArguments arguments = .ok (.map a) → a.prepare tools t = .ok (job, files) → job.input = input →
      files = before ++ file :: after → Progress.tableAfter? job t before file = some (path, bytes) →
      (∀ g ∈ after, ¬SharePlace g file) → ErrorsElsewhere a.settings.errors? path →
      (run tools t arguments).tree.read path = .ok bytes := by
  refine ⟨fun output format f hf g hg =>
    FileTree.destination_eq_iff sound found output format.tableEnding hf hg, ?_⟩
  rintro tools arguments a job before after file path bytes read prepared rfl rfl table apart elsewhere
  rw [run, read]
  simp only [prepared]
  exact report_keeps_table elsewhere (table_stays sound found table apart)

/-- the definitions of books, and an input directory with three files, two of which have their names up to the endings in
common -/
def siblings : FileTree :=
  ⟨[(.ofText "books.list", .file []), (.ofText "in", .directory),
    (.ofText "in/a.json", .file (Utf8.encode "\x7b\"title\":\"A\"\x7d")),
    (.ofText "in/b.json", .file (Utf8.encode "\x7b\"title\":\"B\"\x7d")),
    (.ofText "in/b.xml", .file (Utf8.encode "<b/>"))]⟩

def siblingFiles : List FilePath :=
  [.ofText "in/a.json", .ofText "in/b.json", .ofText "in/b.xml"]

theorem recordFiles_siblings : siblings.recordFiles (.ofText "in") = .ok siblingFiles := by
  have hlookup : siblings.lookup (.ofText "in") = .ok (some (.ofText "in", .directory)) :=
    Failure.eq_ok_of_toOption (by decide +kernel)
  have hbelow : siblings.filesBelow (.ofText "in") = [.ofText "a.json", .ofText "b.json", .ofText "b.xml"] := by
    rw [FileTree.filesBelow, FileTree.sortPaths, List.mergeSort_of_pairwise (by decide +kernel)]
    decide +kernel
  rw [FileTree.recordFiles, hlookup]
  simp only [Except.map, hbelow]
  exact congrArg Except.ok (by decide +kernel)

def siblingArguments : List String :=
  ["books.list", "book", "in", "out", "--errors", "out/failed.csv"]

def siblingRequest : Arguments :=
  bookRequest (.ofText "in") (some (.given (.ofText "out/failed.csv")))

theorem readArguments_siblings : readArguments siblingArguments = .ok (.map siblingRequest) := by
  rfl

theorem prepare_siblings : siblingRequest.prepare bookTools siblings = .ok (bookJob (.ofText "in"), siblingFiles) :=
  prepare_bookRequest _ (Failure.eq_ok_of_toOption (by decide +kernel)) (Failure.eq_ok_of_toOption (by decide +kernel))
    recordFiles_siblings (by decide)

/-- the table with one row for the title -/
def titleTable (title : String) : List UInt8 :=
  Utf8.encode ("\x7b\"title\":\"" ++ title ++ "\"\x7d\n")

/-- the table of the first file stays while the two others are mapped, and the table of failures is written beside it -/
theorem siblings_kept :
    siblings.Sound ∧ siblings.recordFiles (bookJob (.ofText "in")).input = .ok siblingFiles ∧
      readArguments siblingArguments = .ok (.map siblingRequest) ∧
      siblingRequest.prepare bookTools siblings = .ok (bookJob (.ofText "in"), siblingFiles) ∧
      Progress.tableAfter? (bookJob (.ofText "in")) siblings [] (.ofText "in/a.json") =
        some (.ofText "out/a.jsonl", titleTable "a") ∧
      (∀ g ∈ [FilePath.ofText "in/b.json", .ofText "in/b.xml"], ¬SharePlace g (.ofText "in/a.json")) ∧
      ErrorsElsewhere siblingRequest.settings.errors? (.ofText "out/a.jsonl") ∧
      (run bookTools siblings siblingArguments).tree.read (.ofText "out/a.jsonl") = .ok (titleTable "a") := by
  have hsound : siblings.Sound := by
    have hplain : ∀ e ∈ siblings.entries, ∀ part ∈ e.1.parts, PlainPart part := by decide +kernel
    exact fun e he => FilePath.isLocation_of_plain (hplain e he)
  have hfirst : Progress.tableAfter? (bookJob (.ofText "in")) siblings [] (.ofText "in/a.json") =
      some (.ofText "out/a.jsonl", titleTable "a") := by decide +kernel
  have hapart : ∀ g ∈ [FilePath.ofText "in/b.json", .ofText "in/b.xml"], ¬SharePlace g (.ofText "in/a.json") := by
    decide +kernel
  have helsewhere : ErrorsElsewhere siblingRequest.settings.errors? (.ofText "out/a.jsonl") := by
    rintro errors ⟨⟩
    decide +kernel
  refine ⟨hsound, recordFiles_siblings, readArguments_siblings, prepare_siblings, hfirst, hapart, helsewhere, ?_⟩
  exact (tables_kept_apart hsound recordFiles_siblings).2 bookTools siblingArguments siblingRequest _ [] _ _ _ _
    readArguments_siblings prepare_siblings rfl rfl hfirst hapart helsewhere

/-- two of the files have one place for their tables, and the later table leaves nothing of the earlier one -/
theorem siblings_collide :
    siblings.recordFiles (.ofText "in") = .ok siblingFiles ∧ FilePath.ofText "in/b.json" ∈ siblingFiles ∧
      FilePath.ofText "in/b.xml" ∈ siblingFiles ∧ FilePath.ofText "in/b.json" ≠ .ofText "in/b.xml" ∧
      (∀ file ∈ [FilePath.ofText "in/b.json", .ofText "in/b.xml"],
        siblings.destination (.ofText "in") (.ofText "out") file OutputFormat.jsonLines.ending =
          .ok (.ofText "out/b.jsonl")) ∧
      Progress.tableAfter? (bookJob (.ofText "in")) siblings [.ofText "in/a.json"] (.ofText "in/b.json") =
        some (.ofText "out/b.jsonl", titleTable "b") ∧
      (run bookTools siblings siblingArguments).tree.read (.ofText "out/b.jsonl") = .ok (Utf8.encode "\n") := by
  have hrun : run bookTools siblings siblingArguments =
      (bookJob (.ofText "in")).report siblings siblingFiles siblingRequest.settings.errors? := by
    rw [run, readArguments_siblings]
    simp only [prepare_siblings]
  refine ⟨recordFiles_siblings, by decide +kernel, by decide +kernel, by decide +kernel, ?_, by decide +kernel, ?_⟩
  · have hpaths : ∀ file ∈ [FilePath.ofText "in/b.json", .ofText "in/b.xml"],
        (siblings.destination (.ofText "in") (.ofText "out") file OutputFormat.jsonLines.ending).toOption =
          some (.ofText "out/b.jsonl") := by decide +kernel
    exact fun file hfile => Failure.eq_ok_of_toOption (hpaths file hfile)
  · rw [hrun]
    exact Failure.eq_ok_of_toOption (by decide +kernel)

end Harvest.CommandLine
