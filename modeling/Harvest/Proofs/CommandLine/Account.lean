/-
The account that a command gives of the records it came to. Its counters, its lines, its table of failures and its exit code
are kept apart while it runs; all of them are told by the visits of its files, and agree. None of this turns on the tools that
tables are written with, in whatever format.

- `length_failures`: every record of a visit is mapped or stands among the failures, and a skipped file counts for one record.
- `prepare_ok_iff`: what a command needs before it comes to its first file.
- `saveFailures_ok`: the table of failures is there after it is written, and its rows can be read.
- `every_record_accounted`: a command that finishes accounts for every file and every record.
-/
import Harvest.CommandLine.Report
import Harvest.Proofs.CommandLine.Visit
import Harvest.Proofs.Results
import Harvest.Proofs.Table.Csv

namespace Harvest.CommandLine

open Harvest.Text

/-! ## Counts -/

/-- the record is mapped -/
def succeeds (o : Outcome) : Bool :=
  !o.failed

/-- the records that are mapped -/
def mappedCount (visits : List Visit) : Nat :=
  (visits.flatMap Visit.outcomes).countP succeeds

theorem length_failuresOf (outcomes : List Outcome) :
    (failuresOf outcomes).length + outcomes.countP succeeds = outcomes.length := by
  induction outcomes with
  | nil => rfl
  | cons o rest ih =>
    rw [failuresOf] at ih ⊢
    cases h : o.result with
    | ok d =>
      have hsucceeds : succeeds o = true := by simp [succeeds, Outcome.failed, h]
      rw [List.filterMap_cons_none (by rw [h]), List.countP_cons_of_pos hsucceeds, List.length_cons]
      omega
    | error e =>
      have hfails : ¬succeeds o = true := by simp [succeeds, Outcome.failed, h]
      rw [List.filterMap_cons_some (by rw [h]), List.countP_cons_of_neg hfails, List.length_cons, List.length_cons]
      omega

theorem Visit.length_failures (v : Visit) : v.failures.length + v.outcomes.countP succeeds = v.count := by
  obtain ⟨file, handling⟩ := v
  cases handling with
  | skipped e => rfl
  | processed outcomes table => exact length_failuresOf outcomes

theorem mappedCount_cons (v : Visit) (rest : List Visit) :
    mappedCount (v :: rest) = v.outcomes.countP succeeds + mappedCount rest := by
  rw [mappedCount, mappedCount, List.flatMap_cons, List.countP_append]

/-- every record is mapped or stands among the failures -/
theorem length_failures (visits : List Visit) :
    (visits.flatMap Visit.failures).length + mappedCount visits = recordCount visits := by
  induction visits with
  | nil => rfl
  | cons v rest ih =>
    have hfirst := v.length_failures
    rw [List.flatMap_cons, List.length_append, mappedCount_cons, recordCount_cons]
    omega

/-! ## Reports -/

theorem Value.eq_given_of_get {α : Type} {v : Value α} {e : Failure} {a : α} (h : v.get e = .ok a) : v = .given a := by
  cases v with
  | given a' => exact congrArg Value.given (Except.ok.inj h)
  | mark => cases h

/-- the line that names the table of failures, if one is asked for -/
def errorsLine : Option (Value FilePath) → List String
  | some (.given path) => ["Errors written to: " ++ path.text]
  | _ => []

/-- the file at a path holds a text, packed as its name says, with two columns and a row for each failure, in order -/
def HoldsFailures (tools : TableTools) (tree : FileTree) (path : FilePath) (failures : List (String × String)) : Prop :=
  ∃ text bytes, tree.read path = .ok bytes ∧ tools.bytesAt path text = .ok bytes ∧
    Table.readRows text = ["record".toList, "error".toList] :: failures.map fun f => [f.1.toList, f.2.toList]

/-- the table of failures is at its path, if one is asked for; else no file is written after the visits -/
def ErrorsKept (tools : TableTools) (last : FileTree) (failures : List (String × String)) (tree : FileTree) :
    Option (Value FilePath) → Prop
  | none => tree = last
  | some .mark => False
  | some (.given path) => HoldsFailures tools tree path failures

/-- a report accounts for every file and every record of a job -/
structure Accounts (job : Job) (t : FileTree) (errors? : Option (Value FilePath)) (visits : List Visit) (r : Report) :
    Prop where
  /-- each file is visited in turn; after that nothing is written but the table of failures -/
  visited : ∃ last, Visits job [] t visits last ∧
    ErrorsKept job.tools last (visits.flatMap Visit.failures) r.tree errors?
  /-- there is one line for each file, a line that sums up, and one for the table of failures -/
  lines : r.lines = visits.map Visit.line ++
    ["Done. Mapped " ++ Nat.repr (mappedCount visits) ++ " of " ++ Nat.repr (recordCount visits) ++ " record(s) with '" ++
      job.name ++ "'."] ++ errorsLine errors?
  /-- there is a failure for every record that is not mapped -/
  failures : (visits.flatMap Visit.failures).length = recordCount visits - mappedCount visits
  mapped_le : mappedCount visits ≤ recordCount visits
  code : r.ending.exitCode? = some (if mappedCount visits = recordCount visits then 0 else 1)

variable {tools : Toolbox} {t : FileTree} {job : Job} {files : List FilePath} {p p' : Progress}

/-- a command begins if all that it needs is there: its definitions, its files, and its mapping among the definitions -/
theorem prepare_ok_iff {a : Arguments} : a.prepare tools t = .ok (job, files) ↔
    (∃ definitions defaults, a.definitions = .given definitions ∧ t.pathExists definitions = .ok true ∧
      a.settings.defaults = .ok defaults ∧ tools.reader.load t definitions defaults = .ok job.registry) ∧
    (a.input = .given job.input ∧ t.recordFiles job.input = .ok files ∧ files ≠ []) ∧
    (a.name = .given job.name ∧ job.registry.contains job.name = true) ∧
    a.output = job.output ∧ a.settings.outputFormat = job.format ∧ tools.tables = job.tools := by
  constructor
  · intro h
    obtain ⟨definitions, hdefinitions, h⟩ := exists_of_bind h
    obtain ⟨there, hthere, h⟩ := exists_of_bind h
    obtain ⟨hexists, h⟩ := of_unless h
    obtain ⟨input, hinput, h⟩ := exists_of_bind h
    obtain ⟨found, hfound, h⟩ := exists_of_bind h
    obtain ⟨hsome, h⟩ := of_unless h
    obtain ⟨defaults, hdefaults, h⟩ := exists_of_bind h
    obtain ⟨registry, hload, h⟩ := exists_of_bind h
    obtain ⟨name, hname, h⟩ := exists_of_bind h
    obtain ⟨hcontains, h⟩ := of_unless h
    cases h
    obtain rfl : there = true := by simpa using hexists
    refine ⟨⟨definitions, defaults, Value.eq_given_of_get (of_mapError hdefinitions), of_mapError hthere,
      of_mapError hdefaults, of_mapError hload⟩, ⟨Value.eq_given_of_get (of_mapError hinput), of_mapError hfound, ?_⟩,
      ⟨Value.eq_given_of_get (of_mapError hname), ?_⟩, rfl, rfl, rfl⟩
    · simpa using hsome
    · simpa using hcontains
  · rintro ⟨⟨definitions, defaults, hdefinitions, hexists, hdefaults, hload⟩, ⟨hinput, hfound, hsome⟩,
      ⟨hname, hcontains⟩, houtput, hformat, htools⟩
    simp [Arguments.prepare, place, Value.get, Except.mapError, bind, Except.bind, pure, Except.pure, hdefinitions, hexists,
      hdefaults, hload, hinput, hfound, hsome, hname, hcontains, houtput, hformat, htools]

/-- no file is mapped yet -/
def Unfinished {α : Type} (x : Except Ending α) : Prop :=
  ∀ clean, x ≠ .error (.finished clean)

section

variable {α β : Type}

theorem Unfinished.bind {x : Except Ending α} {f : α → Except Ending β} (first : Unfinished x)
    (next : ∀ a, Unfinished (f a)) : Unfinished (x >>= f) := by
  cases x with
  | error e => exact fun clean h => first clean (congrArg Except.error (Except.error.inj h))
  | ok a => exact next a

theorem unfinished_stopped (x : Except Failure α) : Unfinished (x.mapError .stopped) := by
  cases x with
  | error e => nofun
  | ok a => nofun

theorem Unfinished.unless {condition : Prop} [Decidable condition] {e : UsageError} {next : PUnit → Except Ending β}
    (goesOn : Unfinished (next ⟨⟩)) : Unfinished (if condition then throw (.usage e) >>= next else next ⟨⟩) := by
  split
  · nofun
  · exact goesOn

end

theorem unfinished_prepare (tools : Toolbox) (t : FileTree) (a : Arguments) : Unfinished (a.prepare tools t) := by
  refine (unfinished_stopped _).bind fun definitions => (unfinished_stopped _).bind fun there => ?_
  refine .unless ((unfinished_stopped _).bind fun input => (unfinished_stopped _).bind fun found => ?_)
  refine .unless ((unfinished_stopped _).bind fun defaults => (unfinished_stopped _).bind fun registry => ?_)
  exact (unfinished_stopped _).bind fun name => .unless nofun

/-- the table of failures is there after it is written, and a line names it -/
theorem saveFailures_ok {tools : TableTools} {path : FilePath} (h : p.saveFailures tools path = .ok p') :
    HoldsFailures tools p'.tree path p.failures ∧ p'.lines = p.lines ++ ["Errors written to: " ++ path.text] := by
  unfold Progress.saveFailures at h
  split at h
  · cases h
  · rename_i bytes hbytes
    obtain ⟨tree, hwrite, rfl⟩ := exists_of_map h
    obtain ⟨grown, -, hwrite⟩ := exists_of_bind hwrite
    exact ⟨⟨_, bytes, (FileTree.written_of_write hwrite).here, hbytes, Table.readRows_ofFailures p.failures⟩, rfl⟩

/-- what a finished report says of the progress that it ends -/
theorem report_finished {errors? : Option (Value FilePath)} {clean : Bool}
    (h : (p.report job errors?).ending = .finished clean) :
    (p.report job errors?).lines = p.lines ++ [p.summary job.name] ++ errorsLine errors? ∧
      ErrorsKept job.tools p.tree p.failures (p.report job errors?).tree errors? ∧ clean = p.failures.isEmpty := by
  unfold Progress.report at h ⊢
  cases errors? with
  | none =>
    cases h
    exact ⟨by simp [errorsLine], rfl, rfl⟩
  | some errors =>
    cases errors with
    | mark => cases h
    | given path =>
      simp only [Value.get, Except.bind] at h ⊢
      split at h
      · cases h
      · rename_i next hsaved
        cases h
        obtain ⟨hread, hlines⟩ := saveFailures_ok hsaved
        simp only
        exact ⟨hlines, hread, trivial⟩

/-- a job that finishes accounts for its files -/
theorem accounts_of_finished {errors? : Option (Value FilePath)} {clean : Bool}
    (finished : (job.report t files errors?).ending = .finished clean) :
    ∃ visits, visits.map Visit.file = files ∧ Accounts job t errors? visits (job.report t files errors?) := by
  cases hrun : Progress.run job { tree := t } files with
  | mk p failure? =>
  cases failure? with
  | some e =>
    rw [Job.report, hrun] at finished
    cases finished
  | none =>
    have hreport : job.report t files errors? = p.report job errors? := by rw [Job.report, hrun]
    rw [hreport] at finished ⊢
    obtain ⟨visits, last, hfiles, hvisits, hp⟩ := Progress.run_ok_iff.1 hrun
    obtain ⟨hreported, hkept, rfl⟩ := report_finished finished
    have htree : p.tree = last := congrArg Progress.tree hp
    have hlines : p.lines = visits.map Visit.line := congrArg Progress.lines hp
    have hfailures : p.failures = visits.flatMap Visit.failures := congrArg Progress.failures hp
    have htotal : p.total = recordCount visits := by
      rw [hp, Progress.noteAll, Nat.zero_add]
    have hcounts := length_failures visits
    have hmapped : recordCount visits - (visits.flatMap Visit.failures).length = mappedCount visits := by omega
    rw [htree, hfailures] at hkept
    refine ⟨visits, hfiles, ⟨last, hvisits, hkept⟩, ?_, ?_, by omega, ?_⟩
    · unfold Progress.summary at hreported
      rw [hreported, hlines, htotal, hfailures, hmapped]
    · omega
    · rw [finished, Ending.exitCode?, hfailures]
      refine congrArg some (if_congr ?_ rfl rfl)
      rw [List.isEmpty_iff, ← List.length_eq_zero_iff]
      omega

/-- **Every record is accounted for.** A command that finishes has visited the files that its input leads to, one by one in
their order. A skipped file leaves all files as they are, and a processed one gives an outcome for each of its records. The
lines, the counts, the table of failures and the exit code are those of the visits. -/
theorem every_record_accounted {tools : Toolbox} {t : FileTree} {arguments : List String} {clean : Bool}
    (finished : (run tools t arguments).ending = .finished clean) :
    ∃ a job visits, readArguments arguments = .ok (.map a) ∧ a.name = .given job.name ∧ a.input = .given job.input ∧
      t.recordFiles job.input = .ok (visits.map Visit.file) ∧
      job.tools = tools.tables ∧ Accounts job t a.settings.errors? visits (run tools t arguments) := by
  unfold run at finished ⊢
  split at finished
  · cases finished
  · cases finished
  · rename_i a hread
    split at finished
    · rename_i ending hprepare
      exact absurd (hprepare.trans (congrArg Except.error finished)) (unfinished_prepare tools t a clean)
    · rename_i job files hprepare
      obtain ⟨-, ⟨hinput, hfound, -⟩, ⟨hname, -⟩, -, -, htools⟩ := prepare_ok_iff.1 hprepare
      obtain ⟨visits, rfl, haccounts⟩ := accounts_of_finished finished
      exact ⟨a, job, visits, hread, hname, hinput, hfound, htools.symm, haccounts⟩

/-- the titles of books in lower case -/
def bookRegistry : Registry :=
  ⟨[("book", ⟨⟨"Book", true⟩, .json, [.str "$"],
    [.property "title" (.path ⟨"$.title", [.child "title"]⟩) (some .lower) false]⟩)], by decide⟩

/-- finds the same definitions in every file -/
def bookReader : DefinitionReader where
  ending := ".list"
  read := fun _ => some fun _ => .ok bookRegistry

/-- the formats that are no text have no writers, and nothing is packed -/
def bookTools : Toolbox where
  reader := bookReader
  tables := { parquet := fun _ => .error "no writer", pack := fun _ _ bytes => .ok bytes }

/-- an input directory with a file of two records, one of which has a title that is no text, and a file that is cut off -/
def damagedShelf : FileTree :=
  ⟨[(.ofText "books.list", .file []), (.ofText "in", .directory),
    (.ofText "in/a.json", .file (Utf8.encode "[\x7b\"title\":\"A\"\x7d,\x7b\"title\":1\x7d]")),
    (.ofText "in/b.json", .file (Utf8.encode "["))]⟩

def damagedFiles : List FilePath :=
  [.ofText "in/a.json", .ofText "in/b.json"]

theorem recordFiles_damagedShelf : damagedShelf.recordFiles (.ofText "in") = .ok damagedFiles := by
  have hlookup : damagedShelf.lookup (.ofText "in") = .ok (some (.ofText "in", .directory)) :=
    Failure.eq_ok_of_toOption (by decide +kernel)
  have hbelow : damagedShelf.filesBelow (.ofText "in") = [.ofText "a.json", .ofText "b.json"] := by
    rw [FileTree.filesBelow, FileTree.sortPaths, List.mergeSort_of_pairwise (by decide +kernel)]
    decide +kernel
  rw [FileTree.recordFiles, hlookup]
  simp only [Except.map, hbelow]
  exact congrArg Except.ok (by decide +kernel)

/-- what is asked for with the definitions of books, an input, and perhaps a table of failures -/
def bookRequest (input : FilePath) (errors? : Option (Value FilePath)) : Arguments where
  definitions := .given (.ofText "books.list")
  name := .given "book"
  input := .given input
  output := .given (.ofText "out")
  settings := { errors? }

def bookJob (input : FilePath) : Job where
  tools := bookTools.tables
  registry := bookRegistry
  name := "book"
  input
  output := .given (.ofText "out")
  format := .given .jsonLines

/-- mapping books begins where the definitions are there and files are found -/
theorem prepare_bookRequest {input : FilePath} (errors? : Option (Value FilePath))
    (there : t.pathExists (.ofText "books.list") = .ok true) (definitions : t.read (.ofText "books.list") = .ok [])
    (found : t.recordFiles input = .ok files) (someFile : files ≠ []) :
    (bookRequest input errors?).prepare bookTools t = .ok (bookJob input, files) := by
  have hending : ".list".toList <:+ (FilePath.ofText "books.list").text.toList := by decide +kernel
  have hload : bookReader.load t (.ofText "books.list") ⟨⟨"Aggregation", true⟩, .json, [.str "$"]⟩ = .ok bookRegistry := by
    simp only [DefinitionReader.load, bookReader, definitions, List.isSuffixOf_iff_suffix.2 hending]
    rfl
  have hcontains : bookRegistry.contains "book" = true := by decide
  exact prepare_ok_iff.2 ⟨⟨_, _, rfl, there, rfl, hload⟩, ⟨rfl, found, someFile⟩, ⟨rfl, hcontains⟩, rfl, rfl, rfl⟩

def damagedArguments : List String :=
  ["books.list", "book", "in", "out", "--errors", "failed.csv"]

theorem run_damagedShelf : run bookTools damagedShelf damagedArguments =
    (bookJob (.ofText "in")).report damagedShelf damagedFiles (some (.given (.ofText "failed.csv"))) := by
  have hread : readArguments damagedArguments =
      .ok (.map (bookRequest (.ofText "in") (some (.given (.ofText "failed.csv"))))) := by
    rfl
  have hprepare := prepare_bookRequest (some (.given (.ofText "failed.csv")))
    (Failure.eq_ok_of_toOption (by decide +kernel)) (Failure.eq_ok_of_toOption (by decide +kernel))
    recordFiles_damagedShelf (by decide)
  unfold run
  rw [hread]
  simp only [hprepare]
  rfl

theorem eq_finished_of_exitCode {ending : Ending} (h : ending.exitCode? = some 1) : ending = .finished false := by
  cases ending with
  | finished clean =>
    cases clean with
    | false => rfl
    | true => cases h
  | _ => cases h

/-- one of three records is mapped: the second has a wrong title, and the third is a file that is cut off; the table of failures
has a row for each of these two -/
theorem damagedShelf_accounted :
    (run bookTools damagedShelf damagedArguments).ending = .finished false ∧
    (∃ a job visits, readArguments damagedArguments = .ok (.map a) ∧ a.name = .given job.name ∧ a.input = .given job.input ∧
      damagedShelf.recordFiles job.input = .ok (visits.map Visit.file) ∧ job.tools = bookTools.tables ∧
      Accounts job damagedShelf a.settings.errors? visits (run bookTools damagedShelf damagedArguments)) ∧
    (run bookTools damagedShelf damagedArguments).lines =
      ["Processed: in/a.json -> out/a.jsonl",
        "Skipped: in/b.json (b.json is not valid JSON: Expecting value: line 1 column 2 (char 1))",
        "Done. Mapped 1 of 3 record(s) with 'book'.", "Errors written to: failed.csv"] ∧
    (run bookTools damagedShelf damagedArguments).tree.read (.ofText "failed.csv") =
      .ok (Utf8.encode ("record,error\n"
        ++ "a.json[1],descriptor 'lower' for 'str' objects doesn't apply to a 'int' object\n"
        ++ "in/b.json,b.json is not valid JSON: Expecting value: line 1 column 2 (char 1)\n")) := by
  have hfinished : (run bookTools damagedShelf damagedArguments).ending = .finished false := by
    have hcode : (run bookTools damagedShelf damagedArguments).ending.exitCode? = some 1 := by
      rw [run_damagedShelf]
      decide +kernel
    exact eq_finished_of_exitCode hcode
  refine ⟨hfinished, every_record_accounted hfinished, ?_, ?_⟩
  · rw [run_damagedShelf]
    decide +kernel
  · rw [run_damagedShelf]
    exact Failure.eq_ok_of_toOption (by decide +kernel)

end Harvest.CommandLine
