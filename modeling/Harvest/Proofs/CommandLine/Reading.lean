/-
Reading JSON content that may be damaged. Bytes are read as text first and as JSON after that. Text is always answered: it is
read, or refused as no valid JSON, and its content ends no command, but for a record that stops the batch. Bytes that are no
text fail in another way, which ends a command.

- `decodeJson_encode`: the bytes of a text are read as the text.
- `records_of_text`, `records_of_malformed`: what reading a file gives.
- `run_skips`, `report_of_failed`: what a command does with a file that is refused, and with one whose step fails.
- `ComesTo.passes`: what a command does with a file whose records are read.
- `answered_iff_text`: which content is answered, and what becomes of a command that comes to it.
-/
import Harvest.Proofs.CommandLine.Account
import Harvest.Proofs.Text.Utf8

namespace Harvest

open Harvest.Text
open Utf8 (Malformed IsText)

/-- what holds of text and of nothing that is malformed holds exactly of text -/
theorem iff_isText {bytes : List UInt8} {answered : Prop} (text : IsText bytes → answered)
    (malformed : ∀ m, Utf8.decode bytes = .error m → ¬answered) : answered ↔ IsText bytes := by
  refine ⟨fun h => ?_, text⟩
  by_contra other
  obtain ⟨m, hm⟩ := Utf8.exists_malformed other
  exact malformed m hm h

namespace Document

/-- the bytes of a text are read as the text -/
theorem decodeJson_encode (s : String) : decodeJson (.bytes (Utf8.encode s)) = decodeJson (.str s) := by
  simp only [decodeJson, Utf8.decode_encode, String.ofList_toList]

theorem decodeJson_malformed {bytes : List UInt8} {m : Malformed} (h : Utf8.decode bytes = .error m) :
    decodeJson (.bytes bytes) = .error (.badText m) := by
  simp only [decodeJson, h]

/-- text is read, or refused as no valid JSON -/
theorem decodeJson_text (s : String) :
    (∃ tree, decodeJson (.str s) = .ok tree) ∨ ∃ e, decodeJson (.str s) = .error (.badJson e) := by
  rw [decodeJson]
  cases Json.read s with
  | ok tree => exact Or.inl ⟨tree, rfl⟩
  | error e => exact Or.inr ⟨e, rfl⟩

end Document

namespace FileTree

variable {t : FileTree} {p : FilePath} {bytes : List UInt8}

/-- a file with the bytes of a text is read, or refused by its name as no valid JSON -/
theorem records_of_text (layout : RecordLayout.ofExtension? p.extension = some .json) (content : t.read p = .ok bytes)
    (text : IsText bytes) : (∃ records, t.records p = .ok records) ∨ ∃ e, t.records p = .error (.badFile p.name e) := by
  obtain ⟨s, rfl⟩ := text
  rw [records_of_layout layout content]
  simp only [RecordLayout.records, Utf8.decode_encode]
  split
  · exact Or.inr ⟨_, rfl⟩
  · exact Or.inl ⟨_, rfl⟩

theorem records_of_malformed (layout : RecordLayout.ofExtension? p.extension = some .json) (content : t.read p = .ok bytes)
    {m : Malformed} (h : Utf8.decode bytes = .error m) : t.records p = .error (.badText m) := by
  rw [records_of_layout layout content]
  simp only [RecordLayout.records, h]

end FileTree

namespace CommandLine

variable {job : Job} {t : FileTree} {p : Progress} {before after : List FilePath} {file : FilePath}

theorem run_append (reached : Progress.run job { tree := t } before = (p, none)) (rest : List FilePath) :
    Progress.run job { tree := t } (before ++ rest) = Progress.run job p rest :=
  untilFailure_append reached

/-- a command goes on after a file that is refused, which is noted -/
theorem run_skips {name : String} {e : Json.Error} (reached : Progress.run job { tree := t } before = (p, none))
    (refused : p.tree.records file = .error (.badFile name e)) (after : List FilePath) :
    Progress.run job { tree := t } (before ++ file :: after) =
      Progress.run job (p.note ⟨file, .skipped (.badFile name e)⟩ p.tree) after := by
  rw [run_append reached]
  exact untilFailure_cons_of_ok (Progress.advance_ok_iff.2 ⟨_, _, rfl, .skipped refused, rfl⟩)

/-- a command ends at a file whose step fails, and what was done before stays -/
theorem report_of_failed {e : Failure} (reached : Progress.run job { tree := t } before = (p, none))
    (fails : p.advance job file = .error e) (after : List FilePath) (errors? : Option (Value FilePath)) :
    job.report t (before ++ file :: after) errors? = ⟨p.tree, p.lines, .stopped e⟩ := by
  have hrun : Progress.run job { tree := t } (before ++ file :: after) = (p, some e) :=
    untilFailure_failed_iff.2 ⟨before, file, after, rfl, reached, fails⟩
  rw [Job.report, hrun]

theorem advance_of_malformed {m : Malformed} (refused : p.tree.records file = .error (.badText m)) :
    p.advance job file = .error (.badText m) := by
  unfold Progress.advance Job.mapFile
  simp only [refused]

/-- so it ends at a file that is not text -/
theorem report_of_malformed {m : Malformed} (reached : Progress.run job { tree := t } before = (p, none))
    (refused : p.tree.records file = .error (.badText m)) (after : List FilePath) (errors? : Option (Value FilePath)) :
    job.report t (before ++ file :: after) errors? = ⟨p.tree, p.lines, .stopped (.badText m)⟩ :=
  report_of_failed reached (advance_of_malformed refused) after errors?

/-- a command has done the files before a file, and comes to it -/
structure ComesTo (tools : Toolbox) (t : FileTree) (arguments : List String) (job : Job)
    (before : List FilePath) (file : FilePath) (after : List FilePath) (p : Progress) : Prop where
  begins : ∃ a, readArguments arguments = .ok (.map a) ∧ a.prepare tools t = .ok (job, before ++ file :: after)
  reached : Progress.run job { tree := t } before = (p, none)

variable {tools : Toolbox} {arguments : List String}

theorem ComesTo.run_fails {e : Failure} (comes : ComesTo tools t arguments job before file after p)
    (fails : p.advance job file = .error e) : run tools t arguments = ⟨p.tree, p.lines, .stopped e⟩ := by
  obtain ⟨a, hread, hprepare⟩ := comes.begins
  rw [run, hread]
  simp only [hprepare]
  exact report_of_failed comes.reached fails _ _

theorem ComesTo.run_stops {m : Malformed} (comes : ComesTo tools t arguments job before file after p)
    (refused : p.tree.records file = .error (.badText m)) :
    run tools t arguments = ⟨p.tree, p.lines, .stopped (.badText m)⟩ :=
  comes.run_fails (advance_of_malformed refused)

/-- what a command that comes to a file does with the records of the file -/
inductive Passes (tools : Toolbox) (t : FileTree) (arguments : List String) (job : Job) (before : List FilePath)
    (file : FilePath) (after : List FilePath) (p : Progress) (records : List Record) : Prop
  /-- they are mapped, their table is saved, and the files after it are next -/
  | processed (outcomes : List Outcome) (table : FilePath) (tree : FileTree)
      (mapped : (job.registry.map job.name p.past records).outcome = .ok outcomes)
      (saved : job.save p.tree file outcomes = .ok (tree, table))
      (goesOn : Progress.run job { tree := t } (before ++ file :: after) =
        Progress.run job (p.note ⟨file, .processed outcomes table⟩ tree) after)
  /-- one of them stops the batch, and the command ends -/
  | stopped (m : Mapping) (first : List Record) (x : Record) (e : Failure) (registered : job.registry.find? job.name = some m)
      (stops : m.StopsFirst records first x e) (ends : run tools t arguments = ⟨p.tree, p.lines, .stopped e⟩)
  /-- their table cannot be saved, and the command ends -/
  | unsaved (outcomes : List Outcome) (e : Failure) (mapped : (job.registry.map job.name p.past records).outcome = .ok outcomes)
      (fails : job.save p.tree file outcomes = .error e) (ends : run tools t arguments = ⟨p.tree, p.lines, .stopped e⟩)

theorem ComesTo.passes {records : List Record} (comes : ComesTo tools t arguments job before file after p)
    (read : p.tree.records file = .ok records) : Passes tools t arguments job before file after p records := by
  obtain ⟨a, -, hprepare⟩ := comes.begins
  obtain ⟨-, -, ⟨-, hcontains⟩, -⟩ := prepare_ok_iff.1 hprepare
  obtain ⟨m, hm⟩ := Option.isSome_iff_exists.1 hcontains
  cases hmapped : (job.registry.map job.name p.past records).outcome with
  | error e =>
    have hbatch : (m.batch job.name p.past records).outcome = .error e := by
      rw [Registry.map, Registry.get, hm] at hmapped
      rwa [Run.ofExcept_ok_bind] at hmapped
    obtain ⟨first, x, hstops⟩ := Mapping.batch_error_iff.1 hbatch
    refine .stopped m first x e hm hstops (comes.run_fails ?_)
    unfold Progress.advance Job.mapFile
    simp only [read, hmapped, Except.map]
  | ok outcomes =>
    have hfile := Job.mapFile_mapped_iff.2 ⟨records, read, hmapped⟩
    cases hsaved : job.save p.tree file outcomes with
    | error e =>
      refine .unsaved outcomes e hmapped hsaved (comes.run_fails ?_)
      unfold Progress.advance
      simp only [hfile, hsaved]
    | ok saved =>
      obtain ⟨tree, table⟩ := saved
      refine .processed outcomes table tree hmapped hsaved ?_
      obtain ⟨m, hm, hgoesOn, rfl⟩ := Registry.map_ok_iff.1 hmapped
      rw [run_append comes.reached]
      exact untilFailure_cons_of_ok (Progress.advance_ok_iff.2 ⟨_, _, rfl, .processed read hm hgoesOn hsaved, rfl⟩)

end CommandLine

open CommandLine in
/-- **What is answered is text.** Bytes are read as JSON, or refused as no valid JSON, exactly if they are the bytes of a text;
all other bytes fail as what they are. The same holds of a file of JSON. A command that comes to a file with the bytes of a
text notes it as skipped and goes on, or maps its records, and then goes on too, unless one of them stops the batch or their table
cannot be saved; with other bytes it ends there. -/
theorem answered_iff_text (bytes : List UInt8) :
    ((((∃ tree, Document.decodeJson (.bytes bytes) = .ok tree) ∨
        ∃ e, Document.decodeJson (.bytes bytes) = .error (.badJson e)) ↔ IsText bytes) ∧
      (¬IsText bytes → ∃ m, Utf8.decode bytes = .error m ∧ Document.decodeJson (.bytes bytes) = .error (.badText m))) ∧
    (∀ (t : FileTree) (file : FilePath), RecordLayout.ofExtension? file.extension = some .json →
      t.read file = .ok bytes →
      (((∃ records, t.records file = .ok records) ∨ ∃ e, t.records file = .error (.badFile file.name e)) ↔ IsText bytes) ∧
      (¬IsText bytes → ∃ m, Utf8.decode bytes = .error m ∧ t.records file = .error (.badText m))) ∧
    ∀ tools t arguments job before file after p, ComesTo tools t arguments job before file after p →
      RecordLayout.ofExtension? file.extension = some .json → p.tree.read file = .ok bytes →
      (IsText bytes →
        (∃ e, Progress.run job { tree := t } (before ++ file :: after) =
          Progress.run job (p.note ⟨file, .skipped (.badFile file.name e)⟩ p.tree) after) ∨
        ∃ records, p.tree.records file = .ok records ∧
          job.mapFile p.past p.tree file = (job.registry.map job.name p.past records).outcome.map .mapped ∧
          Passes tools t arguments job before file after p records) ∧
      (¬IsText bytes → ∃ m, Utf8.decode bytes = .error m ∧
        run tools t arguments = ⟨p.tree, p.lines, .stopped (.badText m)⟩) := by
  refine ⟨⟨iff_isText ?_ fun m hm => ?_, fun other => ?_⟩, fun t file layout content =>
    ⟨iff_isText (FileTree.records_of_text layout content) fun m hm => ?_, fun other => ?_⟩,
    fun tools t arguments job before file after p comes layout content => ⟨fun text => ?_, fun other => ?_⟩⟩
  · rintro ⟨s, rfl⟩
    rw [Document.decodeJson_encode]
    exact Document.decodeJson_text s
  · simp [Document.decodeJson_malformed hm]
  · obtain ⟨m, hm⟩ := Utf8.exists_malformed other
    exact ⟨m, hm, Document.decodeJson_malformed hm⟩
  · simp [FileTree.records_of_malformed layout content hm]
  · obtain ⟨m, hm⟩ := Utf8.exists_malformed other
    exact ⟨m, hm, FileTree.records_of_malformed layout content hm⟩
  · rcases FileTree.records_of_text layout content text with ⟨records, hrecords⟩ | ⟨e, hrefused⟩
    · refine Or.inr ⟨records, hrecords, ?_, comes.passes hrecords⟩
      unfold Job.mapFile
      simp only [hrecords]
    · exact Or.inl ⟨e, run_skips comes.reached hrefused after⟩
  · obtain ⟨m, hm⟩ := Utf8.exists_malformed other
    exact ⟨m, hm, comes.run_stops (FileTree.records_of_malformed layout content hm)⟩

namespace CommandLine

/-- two files of JSON: the first holds one byte, which is no text, and the second a list -/
def loneByte : FileTree :=
  ⟨[(.ofText "books.list", .file []), (.ofText "in.json", .file [0xFF]), (.ofText "next.json", .file (Utf8.encode "[]"))]⟩

theorem read_loneByte : loneByte.read (.ofText "in.json") = .ok [0xFF] :=
  Failure.eq_ok_of_toOption (by decide +kernel)

theorem isJson_loneByte : RecordLayout.ofExtension? (FilePath.ofText "in.json").extension = some .json := by
  decide +kernel

theorem not_isText_loneByte : ¬IsText [0xFF] := by
  intro text
  obtain ⟨cs, h⟩ := Utf8.isText_iff.1 text
  cases h

/-- the byte is refused as what it is, and a command that comes to the file ends there -/
theorem loneByte_stops :
    RecordLayout.ofExtension? (FilePath.ofText "in.json").extension = some .json ∧
      loneByte.read (.ofText "in.json") = .ok [0xFF] ∧
      (∃ m, Utf8.decode [0xFF] = .error m ∧ loneByte.records (.ofText "in.json") = .error (.badText m)) ∧
      ComesTo bookTools loneByte ["books.list", "book", "in.json", "out"] (bookJob (.ofText "in.json")) []
        (.ofText "in.json") [] { tree := loneByte } ∧
      ∃ m, Utf8.decode [0xFF] = .error m ∧
        run bookTools loneByte ["books.list", "book", "in.json", "out"] = ⟨loneByte, [], .stopped (.badText m)⟩ := by
  have hfound : loneByte.recordFiles (.ofText "in.json") = .ok [.ofText "in.json"] :=
    Failure.eq_ok_of_toOption (by decide +kernel)
  have hread : readArguments ["books.list", "book", "in.json", "out"] =
      .ok (.map (bookRequest (.ofText "in.json") none)) := by
    rfl
  have hprepare := prepare_bookRequest none (Failure.eq_ok_of_toOption (by decide +kernel))
    (Failure.eq_ok_of_toOption (by decide +kernel)) hfound (by decide)
  have hcomes : ComesTo bookTools loneByte ["books.list", "book", "in.json", "out"] (bookJob (.ofText "in.json")) []
      (.ofText "in.json") [] { tree := loneByte } := ⟨⟨_, hread, hprepare⟩, rfl⟩
  exact ⟨isJson_loneByte, read_loneByte,
    ((answered_iff_text [0xFF]).2.1 loneByte _ isJson_loneByte read_loneByte).2 not_isText_loneByte, hcomes,
    ((answered_iff_text [0xFF]).2.2 _ _ _ _ _ _ _ _ hcomes isJson_loneByte read_loneByte).2 not_isText_loneByte⟩

/-- the byte is neither read nor refused as no valid JSON, and a command that comes to it first maps no file after it -/
theorem loneByte_unanswered :
    ¬((∃ tree, Document.decodeJson (.bytes [0xFF]) = .ok tree) ∨
        ∃ e, Document.decodeJson (.bytes [0xFF]) = .error (.badJson e)) ∧
      ¬((∃ records, loneByte.records (.ofText "in.json") = .ok records) ∨
        ∃ name e, loneByte.records (.ofText "in.json") = .error (.badFile name e)) ∧
      ∃ m, (bookJob (.ofText ".")).report loneByte [.ofText "in.json", .ofText "next.json"] none =
        ⟨loneByte, [], .stopped (.badText m)⟩ := by
  obtain ⟨m, hm⟩ := Utf8.exists_malformed not_isText_loneByte
  have hrefused := FileTree.records_of_malformed isJson_loneByte read_loneByte hm
  have hreached : Progress.run (bookJob (.ofText ".")) { tree := loneByte } [] = ({ tree := loneByte }, none) := rfl
  refine ⟨?_, ?_, m, ?_⟩
  · simp [Document.decodeJson_malformed hm]
  · simp [hrefused]
  · exact report_of_malformed hreached hrefused [.ofText "next.json"] none

end CommandLine

end Harvest
