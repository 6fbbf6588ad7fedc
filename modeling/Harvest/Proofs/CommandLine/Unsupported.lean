/-
Inputs that are found and not read. A directory gives a command the files whose names have the ending of a layout. Reading one of them
complains about its ending exactly if the name is that ending and nothing else, and the complaint stops the command; no other file does
that to it.

- `run_unsupported_iff`: when a run ends in a complaint about the ending of an input.
- `found_read_unless_bare`: which files are found, which of them are read, and what becomes of a command that comes to another one.
-/
import Harvest.Proofs.CommandLine.Failures
import Harvest.Proofs.CommandLine.Reading
import Harvest.Proofs.Files.Extension

namespace Harvest

open Harvest.Text

/-- reading complains about a name without an ending, and about a name that is nothing but an ending -/
theorem FileTree.records_unsupported_iff_name {t : FileTree} {p : FilePath} {path : String} :
    t.records p = .error (.unsupportedInput path) ↔
      (RecordLayout.ofName? p.name = none ∨ RecordLayout.isBare p.name = true) ∧ path = p.text := by
  rw [records_unsupported_iff, FilePath.extension, RecordLayout.ofExtension?_extension]
  split <;> simp_all

namespace CommandLine

variable {job : Job} {t : FileTree} {p p' : Progress} {files : List FilePath} {path : String}

/-- a run over files that have endings complains about the first that it comes to with nothing but an ending -/
theorem run_unsupported_iff (named : ∀ f ∈ files, (RecordLayout.ofName? f.name).isSome = true) :
    Progress.run job p files = (p', some (.unsupportedInput path)) ↔
      ∃ before file after, files = before ++ file :: after ∧ Progress.run job p before = (p', none) ∧
        RecordLayout.isBare file.name = true ∧ path = file.text := by
  rw [Progress.run, untilFailure_failed_iff]
  simp only [Progress.advance_unsupported_iff, FileTree.records_unsupported_iff_name]
  constructor
  · rintro ⟨before, file, after, rfl, hreached, hname | hbare, hpath⟩
    · have hnamed := named file (by simp)
      rw [hname] at hnamed
      cases hnamed
    · exact ⟨before, file, after, rfl, hreached, hbare, hpath⟩
  · rintro ⟨before, file, after, hfiles, hreached, hbare, hpath⟩
    exact ⟨before, file, after, hfiles, hreached, Or.inr hbare, hpath⟩

theorem Progress.saveFailures_failsOnly (tools : TableTools) (p : Progress) (place : FilePath) :
    FailsOnly Failure.SparesInputs (p.saveFailures tools place) := by
  unfold saveFailures
  split
  · exact ((tools.bytesAt_failsOnly _ _).mono fun _ => Failure.IsOfText.sparesInputs).handOn ‹_›
  · exact ((p.tree.writeDeep_failsOnly _ _).mono fun _ => Failure.IsOfPath.sparesInputs).map

/-- after its files a command complains about no input -/
theorem Progress.report_spares (p : Progress) (job : Job) (errors? : Option (Value FilePath)) :
    (p.report job errors?).ending ≠ .stopped (.unsupportedInput path) := by
  unfold report
  split
  · exact nofun
  · rename_i _ errors
    have hget : FailsOnly Failure.SparesInputs (errors.get (.noCapability Value.absent.kindName "parent")) := by
      cases errors with
      | given place => exact .ok place
      | mark => exact .error nofun
    dsimp only
    split
    · rename_i e hsave
      rintro ⟨⟩
      exact hget.bind (fun place => saveFailures_failsOnly job.tools _ place) _ hsave path rfl
    · exact nofun

/-- a command that has begun ends in a complaint about an input exactly if its run does -/
theorem Job.report_unsupported_iff {errors? : Option (Value FilePath)} :
    (job.report t files errors?).ending = .stopped (.unsupportedInput path) ↔
      ∃ p, Progress.run job { tree := t } files = (p, some (.unsupportedInput path)) := by
  rw [Job.report]
  rcases Progress.run job { tree := t } files with ⟨p, e | -⟩
  · refine iff_of_false (p.report_spares job errors?) ?_
    rintro ⟨_, h⟩
    cases h
  · simp

end CommandLine

open CommandLine in
/-- **What is found is read, unless its name is bare.** Of the files that an input leads to, those are found whose names end as a layout
says, whatever their case, and these are those whose paths lose an ending when their tables are named. Reading a file complains about
its ending exactly if it is not found, or its name is an ending and nothing else, and such a file is found all the same. A command that
comes to it ends there with that complaint, and what was done before stays. A command that has begun ends so in no other way. -/
theorem found_read_unless_bare (tools : Toolbox) (t : FileTree) (arguments : List String) :
    (∀ (input file : FilePath) (files : List FilePath), t.LeadsTo input file → t.recordFiles input = .ok files →
      (file ∈ files ↔ ∃ layout : RecordLayout, EndsAs layout.ending.toList file.name.toList) ∧
      (file ∈ files ↔ ∃ place, t.placeUnder input file = .ok place ∧ dropEnding place.text ≠ place.text) ∧
      ((∃ path, t.records file = .error (.unsupportedInput path)) ↔ file ∉ files ∨ RecordLayout.isBare file.name = true) ∧
      (RecordLayout.isBare file.name = true → file ∈ files)) ∧
    (∀ job before file after p, ComesTo tools t arguments job before file after p →
      RecordLayout.isBare file.name = true →
      run tools t arguments = ⟨p.tree, p.lines, .stopped (.unsupportedInput file.text)⟩) ∧
    ∀ a job files path, readArguments arguments = .ok (.map a) → a.prepare tools t = .ok (job, files) →
      (run tools t arguments).ending = .stopped (.unsupportedInput path) →
      ∃ before file after p, ComesTo tools t arguments job before file after p ∧
        RecordLayout.isBare file.name = true ∧ path = file.text := by
  refine ⟨fun input file files leads found => ?_, fun job before file after p comes bare => ?_,
    fun a job files path read prepared ends => ?_⟩
  · have hmem : file ∈ files ↔ (RecordLayout.ofName? file.name).isSome = true := by
      rw [FileTree.mem_recordFiles_iff found]
      exact and_iff_right leads
    refine ⟨hmem.trans RecordLayout.isSome_ofName?_iff, ?_, ?_,
      fun bare => hmem.2 (RecordLayout.isSome_ofName?_of_isBare bare)⟩
    · obtain ⟨place, hplace, hname⟩ := leads.exists_place
      simp [hmem, hplace, FilePath.dropEnding_text_ne_iff, hname]
    · simp [FileTree.records_unsupported_iff_name, hmem]
  · refine comes.run_fails (Progress.advance_unsupported_iff.2 ?_)
    exact FileTree.records_unsupported_iff_name.2 ⟨Or.inr bare, rfl⟩
  · -- a command that has begun can complain only in the run over its files, not when it writes its table of failures
    have hrun : run tools t arguments = job.report t files a.settings.errors? := by
      rw [run, read]
      simp only [prepared]
    obtain ⟨p, hp⟩ := Job.report_unsupported_iff.1 (hrun ▸ ends)
    obtain ⟨-, ⟨-, hfound, -⟩, -⟩ := prepare_ok_iff.1 prepared
    have hnamed : ∀ f ∈ files, (RecordLayout.ofName? f.name).isSome = true :=
      fun f hf => ((FileTree.mem_recordFiles_iff hfound).1 hf).2
    obtain ⟨before, file, after, rfl, hreached, hbare, hpath⟩ := (run_unsupported_iff hnamed).1 hp
    exact ⟨before, file, after, p, ⟨⟨a, read, prepared⟩, hreached⟩, hbare, hpath⟩

namespace CommandLine

/-- an input directory with a file whose name is nothing but an ending, one with an ending in capitals, and one without an ending -/
def looseShelf : FileTree :=
  ⟨[(.ofText "books.list", .file []), (.ofText "in", .directory), (.ofText "in/.json", .file (Utf8.encode "[]")),
    (.ofText "in/Maps.JSON", .file (Utf8.encode "[]")), (.ofText "in/notes.txt", .file [])]⟩

def looseFiles : List FilePath :=
  [.ofText "in/.json", .ofText "in/Maps.JSON"]

theorem filesBelow_looseShelf :
    looseShelf.filesBelow (.ofText "in") = [.ofText ".json", .ofText "Maps.JSON", .ofText "notes.txt"] := by
  rw [FileTree.filesBelow, FileTree.sortPaths, List.mergeSort_of_pairwise (by decide +kernel)]
  decide +kernel

theorem lookup_looseShelf : looseShelf.lookup (.ofText "in") = .ok (some (.ofText "in", .directory)) :=
  Failure.eq_ok_of_toOption (by decide +kernel)

theorem recordFiles_looseShelf : looseShelf.recordFiles (.ofText "in") = .ok looseFiles := by
  rw [FileTree.recordFiles, lookup_looseShelf]
  simp only [Except.map, filesBelow_looseShelf]
  exact congrArg Except.ok (by decide +kernel)

theorem leadsTo_looseShelf {q : FilePath} (below : q ∈ [FilePath.ofText ".json", .ofText "Maps.JSON", .ofText "notes.txt"])
    (proper : q.parts ≠ []) : looseShelf.LeadsTo (.ofText "in") ((FilePath.ofText "in").join q) :=
  .inside lookup_looseShelf (filesBelow_looseShelf ▸ below) proper

theorem isBare_looseShelf : RecordLayout.isBare (FilePath.ofText "in/.json").name = true := by
  decide +kernel

/-- a command begins with the file whose name is nothing but an ending -/
theorem prepare_looseShelf :
    (bookRequest (.ofText "in") none).prepare bookTools looseShelf = .ok (bookJob (.ofText "in"), looseFiles) :=
  prepare_bookRequest none (Failure.eq_ok_of_toOption (by decide +kernel)) (Failure.eq_ok_of_toOption (by decide +kernel))
    recordFiles_looseShelf (by decide)

def looseArguments : List String :=
  ["books.list", "book", "in", "out"]

theorem readArguments_looseArguments : readArguments looseArguments = .ok (.map (bookRequest (.ofText "in") none)) := by
  rfl

theorem comesTo_looseShelf : ComesTo bookTools looseShelf looseArguments (bookJob (.ofText "in")) [] (.ofText "in/.json")
    [.ofText "in/Maps.JSON"] { tree := looseShelf } :=
  ⟨⟨_, readArguments_looseArguments, prepare_looseShelf⟩, rfl⟩

/-- the file with the ending in capitals is found and can be read, and the one with nothing but an ending stops the command -/
theorem looseShelf_stops :
    looseShelf.LeadsTo (.ofText "in") (.ofText "in/Maps.JSON") ∧ looseShelf.recordFiles (.ofText "in") = .ok looseFiles ∧
      (∃ layout : RecordLayout, EndsAs layout.ending.toList (FilePath.ofText "in/Maps.JSON").name.toList) ∧
      (∃ place, looseShelf.placeUnder (.ofText "in") (.ofText "in/Maps.JSON") = .ok place ∧
        dropEnding place.text ≠ place.text) ∧
      (¬∃ path, looseShelf.records (.ofText "in/Maps.JSON") = .error (.unsupportedInput path)) ∧
      looseShelf.LeadsTo (.ofText "in") (.ofText "in/.json") ∧ RecordLayout.isBare (FilePath.ofText "in/.json").name = true ∧
      FilePath.ofText "in/.json" ∈ looseFiles ∧
      run bookTools looseShelf looseArguments = ⟨looseShelf, [], .stopped (.unsupportedInput "in/.json")⟩ ∧
      ∃ before file after p, ComesTo bookTools looseShelf looseArguments (bookJob (.ofText "in")) before file after p ∧
        RecordLayout.isBare file.name = true ∧ "in/.json" = file.text := by
  have hjoin : (FilePath.ofText "in").join (.ofText "Maps.JSON") = .ofText "in/Maps.JSON" := by decide +kernel
  have hbareJoin : (FilePath.ofText "in").join (.ofText ".json") = .ofText "in/.json" := by decide +kernel
  have hleads : looseShelf.LeadsTo (.ofText "in") (.ofText "in/Maps.JSON") :=
    hjoin ▸ leadsTo_looseShelf (by simp) (by decide +kernel)
  have hbare : looseShelf.LeadsTo (.ofText "in") (.ofText "in/.json") :=
    hbareJoin ▸ leadsTo_looseShelf (by simp) (by decide +kernel)
  have hmaps : FilePath.ofText "in/Maps.JSON" ∈ looseFiles := by simp [looseFiles]
  have hnotBare : ¬RecordLayout.isBare (FilePath.ofText "in/Maps.JSON").name = true := by decide +kernel
  have hpath : (FilePath.ofText "in/.json").text = "in/.json" := by decide +kernel
  obtain ⟨files, comes, ends⟩ := found_read_unless_bare bookTools looseShelf looseArguments
  obtain ⟨named, dropped, read, -⟩ := files _ _ _ hleads recordFiles_looseShelf
  obtain ⟨-, -, -, found⟩ := files _ _ _ hbare recordFiles_looseShelf
  have hrun := comes _ _ _ _ _ comesTo_looseShelf isBare_looseShelf
  rw [hpath] at hrun
  refine ⟨hleads, recordFiles_looseShelf, named.1 hmaps, dropped.1 hmaps, fun bad => ?_, hbare, isBare_looseShelf,
    found isBare_looseShelf, hrun, ?_⟩
  · rcases read.1 bad with absent | bare
    · exact absent hmaps
    · exact hnotBare bare
  · exact ends _ _ _ _ readArguments_looseArguments prepare_looseShelf (by rw [hrun])

/-- a file is found and its ending is dropped, and yet reading it complains about the ending and stops the command -/
theorem bareEnding_found_unread :
    looseShelf.recordFiles (.ofText "in") = .ok looseFiles ∧ FilePath.ofText "in/.json" ∈ looseFiles ∧
      looseShelf.placeUnder (.ofText "in") (.ofText "in/.json") = .ok (.ofText ".json") ∧
      dropEnding (FilePath.ofText ".json").text ≠ (FilePath.ofText ".json").text ∧
      looseShelf.records (.ofText "in/.json") = .error (.unsupportedInput "in/.json") ∧
      (run bookTools looseShelf looseArguments).ending = .stopped (.unsupportedInput "in/.json") := by
  have hrecords : looseShelf.records (.ofText "in/.json") = .error (.unsupportedInput "in/.json") :=
    FileTree.records_unsupported_iff_name.2 ⟨Or.inr isBare_looseShelf, by decide +kernel⟩
  refine ⟨recordFiles_looseShelf, List.mem_cons_self, Failure.eq_ok_of_toOption (by decide +kernel), by decide +kernel,
    hrecords, ?_⟩
  rw [comesTo_looseShelf.run_fails (Progress.advance_unsupported_iff.2 hrecords)]

end CommandLine

end Harvest
