/-
Which failures a part of a command can end in. Each part has failures of its own: paths that lead nowhere, objects that cannot be
converted, bytes that are no text, records that stop a batch. Only the reading of a file complains about the ending of its name.

- `FileTree.write_failsOnly`: the files fail with what is wrong with paths.
- `Table.ofObjects_failsOnly`, `Table.write_failsOnly`: so do tables with what is wrong with objects and with texts.
- `Registry.map_failsOnly`: a batch fails because of its mapping's name, or because a record stops it.
- `advance_unsupported_iff`: a step of a run ends in a complaint about an input exactly if reading its file does.
-/
import Harvest.Proofs.CommandLine.Visit
import Harvest.Proofs.Data.Conversion

namespace Harvest

open Harvest.Text

namespace Failure

/-- something is wrong with a path -/
def IsOfPath : Failure → Prop
  | missingFile _ => True
  | isDirectory _ => True
  | notDirectory _ => True
  | fileExists _ => True
  | nameTooLong _ => True
  | zeroByte => True
  | notBelow _ _ => True
  | _ => False

/-- something cannot do what is asked of it -/
def IsOfObject : Failure → Prop
  | noCapability _ _ => True
  | notCallable _ => True
  | noProperties _ => True
  | _ => False

/-- something cannot be written or read as text, or not in this format, or cannot be packed -/
def IsOfText : Failure → Prop
  | badText _ => True
  | badFile _ _ => True
  | unsupportedOutput _ => True
  | unwritable _ => True
  | _ => False

/-- a batch cannot begin, or is stopped -/
def IsOfBatch (e : Failure) : Prop :=
  (∃ name known, e = unknownMapping name known) ∨ e.stopsBatch = true

end Failure

/-! ## Files -/

theorem FilePath.check_failsOnly (p : FilePath) : FailsOnly Failure.IsOfPath p.check := by
  unfold check
  split
  · exact .error trivial
  · split
    · exact .error trivial
    · exact .ok _

theorem FilePath.below_failsOnly (root p : FilePath) : FailsOnly Failure.IsOfPath (root.below p) := by
  unfold below
  split
  · exact .ok _
  · exact .error trivial

namespace FileTree

variable {t : FileTree} {p : FilePath}

theorem follow_failsOnly (t : FileTree) (whole : String) (here : FilePath) (parts : List String) :
    FailsOnly Failure.IsOfPath (t.follow whole here parts) := by
  fun_induction follow t whole here parts with
  | case1 => exact .ok _
  | case2 _ _ _ _ ih => exact ih
  | case4 _ _ _ _ _ _ ih => exact ih
  | case5 => exact .ok _
  | _ => exact .error trivial

theorem locate_failsOnly (t : FileTree) (p : FilePath) : FailsOnly Failure.IsOfPath (t.locate p) := by
  unfold locate
  split
  · exact p.check_failsOnly.handOn ‹_›
  · exact follow_failsOnly t _ _ _

theorem lookup_failsOnly (t : FileTree) (p : FilePath) : FailsOnly Failure.IsOfPath (t.lookup p) := by
  unfold lookup
  split
  · exact .ok _
  · exact .ok _
  · exact .error trivial
  · exact .ok _

theorem read_failsOnly (t : FileTree) (p : FilePath) : FailsOnly Failure.IsOfPath (t.read p) := by
  unfold read
  split
  · exact (locate_failsOnly t p).handOn ‹_›
  · exact .error trivial
  · exact .error trivial
  · exact .ok _

theorem write_failsOnly (t : FileTree) (p : FilePath) (bytes : List UInt8) : FailsOnly Failure.IsOfPath (t.write p bytes) := by
  unfold write
  split
  · exact (locate_failsOnly t p).handOn ‹_›
  · exact .error trivial
  · exact .ok _

theorem makeDirectory_failsOnly (t : FileTree) (p : FilePath) : FailsOnly Failure.IsOfPath (t.makeDirectory p) := by
  unfold makeDirectory
  split
  · exact (locate_failsOnly t p).handOn ‹_›
  · exact .ok _
  · exact .ok _
  · exact .error trivial

theorem makeDirectories_failsOnly (t : FileTree) (p : FilePath) : FailsOnly Failure.IsOfPath (t.makeDirectories p) := by
  rw [makeDirectories]
  induction p.parts.reverse with
  | nil => exact .ok _
  | cons name outer ih =>
    unfold makeDirectoriesTo
    simp only
    split
    · exact ih.bind fun t => t.makeDirectory_failsOnly _
    · exact t.makeDirectory_failsOnly _

theorem writeDeep_failsOnly (t : FileTree) (p : FilePath) (bytes : List UInt8) :
    FailsOnly Failure.IsOfPath (t.writeDeep p bytes) :=
  (t.makeDirectories_failsOnly p.parent).bind fun t => t.write_failsOnly p bytes

theorem outputName_failsOnly (t : FileTree) (root file : FilePath) (ending : String) :
    FailsOnly Failure.IsOfPath (t.outputName root file ending) := by
  refine FailsOnly.map (FailsOnly.bind (lookup_failsOnly t root).map fun inside => ?_)
  split
  · exact FilePath.below_failsOnly root file
  · exact .ok _

end FileTree

theorem RecordLayout.records_failsOnly (layout : RecordLayout) (name : String) (bytes : List UInt8) :
    FailsOnly Failure.IsOfText (layout.records name bytes) := by
  unfold records
  split
  · exact .ok _
  · split
    · exact .error trivial
    · exact .ok _
  · split
    · exact .error trivial
    · split
      · exact .error trivial
      · exact .ok _

/-! ## Objects and their tables -/

namespace Data

theorem plainItems_failsOnly {items : List Data} (each : ∀ x ∈ items, FailsOnly Failure.IsOfObject x.plain) :
    FailsOnly Failure.IsOfObject (plainItems items) := by
  induction items with
  | nil => exact .ok _
  | cons x xs ih =>
    obtain ⟨hx, hxs⟩ := List.forall_mem_cons.1 each
    rw [plainItems]
    split
    · exact hx.handOn ‹_›
    · exact (ih hxs).map

theorem plainEntries_failsOnly {entries : List (String × Data)}
    (each : ∀ x ∈ entries.map Prod.snd, FailsOnly Failure.IsOfObject x.plain) :
    FailsOnly Failure.IsOfObject (plainEntries entries) := by
  induction entries with
  | nil => exact .ok _
  | cons e es ih =>
    obtain ⟨hx, hes⟩ := List.forall_mem_cons.1 each
    rw [plainEntries]
    split
    · exact hx.handOn ‹_›
    · exact (ih hes).map

theorem plain_failsOnly (d : Data) : FailsOnly Failure.IsOfObject d.plain := by
  induction d using induct with
  | step d ih =>
    cases d with
    | object cls properties =>
      rw [plain]
      split
      · split
        · exact .error trivial
        · exact (plainEntries_failsOnly ih).map
      · exact .ok _
    | list items => exact (plainItems_failsOnly ih).map
    | _ => exact .ok _

theorem refusal_isOfObject (d : Data) (act : Capability) : (d.refusal act).IsOfObject := by
  unfold refusal
  split <;> trivial

theorem toMapping_failsOnly (d : Data) : FailsOnly Failure.IsOfObject d.toMapping := by
  unfold toMapping
  split
  · exact plainEntries_failsOnly fun x _ => x.plain_failsOnly
  · exact .error (refusal_isOfObject _ _)

theorem toRow_failsOnly (d : Data) : FailsOnly Failure.IsOfObject d.toRow := by
  unfold toRow
  split
  · exact .ok _
  · exact toMapping_failsOnly _
  · exact .error trivial

end Data

namespace Table

theorem ofObjects_failsOnly (objects : List Data) : FailsOnly Failure.IsOfObject (ofObjects objects) := by
  refine FailsOnly.map ?_
  induction objects with
  | nil => exact .ok _
  | cons d rest ih =>
    rw [rowsOf]
    split
    · exact d.toRow_failsOnly.handOn ‹_›
    · exact ih.map

section

variable {entries : List (String × Data)}

theorem itemTexts_failsOnly {items : List Data} (each : ∀ x ∈ items, FailsOnly Failure.IsOfText (valueText x)) :
    FailsOnly Failure.IsOfText (itemTexts items) := by
  induction items with
  | nil => exact .ok _
  | cons x xs ih =>
    obtain ⟨hx, hxs⟩ := List.forall_mem_cons.1 each
    rw [itemTexts]
    split
    · exact hx.handOn ‹_›
    · exact (ih hxs).map

theorem propertyTexts_failsOnly (each : ∀ x ∈ entries.map Prod.snd, FailsOnly Failure.IsOfText (valueText x)) :
    FailsOnly Failure.IsOfText (propertyTexts entries) := by
  induction entries with
  | nil => exact .ok _
  | cons e es ih =>
    obtain ⟨hx, hes⟩ := List.forall_mem_cons.1 each
    rw [propertyTexts]
    split
    · exact hx.handOn ‹_›
    · exact (ih hes).map

theorem shownTexts_failsOnly (each : ∀ x ∈ entries.map Prod.snd, FailsOnly Failure.IsOfText (valueText x)) :
    FailsOnly Failure.IsOfText (shownTexts entries) := by
  induction entries with
  | nil => exact .ok _
  | cons e es ih =>
    obtain ⟨hx, hes⟩ := List.forall_mem_cons.1 each
    rw [shownTexts]
    split
    · exact ih hes
    · split
      · exact hx.handOn ‹_›
      · exact (ih hes).map

end

theorem valueText_failsOnly (d : Data) : FailsOnly Failure.IsOfText (valueText d) := by
  induction d using Data.induct with
  | step d ih =>
    cases d with
    | bytes bs =>
      refine FailsOnly.map ?_
      cases Utf8.decode bs with
      | error m => exact .error trivial
      | ok cs => exact .ok _
    | list items => exact (itemTexts_failsOnly ih).map
    | dict entries => exact (propertyTexts_failsOnly ih).map
    | object cls properties =>
      rw [valueText]
      split
      · exact .ok _
      · exact (shownTexts_failsOnly ih).map
    | _ => exact .ok _

theorem jsonLines_failsOnly (table : Table) : FailsOnly Failure.IsOfText table.jsonLines := by
  unfold jsonLines
  split
  · exact .ok _
  · induction table.rows with
    | nil => exact .ok _
    | cons row rest ih =>
      have hline : FailsOnly Failure.IsOfText (lineOf table.columns row) :=
        (propertyTexts_failsOnly fun x _ => valueText_failsOnly x).map
      rw [linesOf]
      split
      · exact hline.handOn ‹_›
      · exact ih.map

/-- whatever a tool reports, nothing but that it makes no bytes comes of it -/
theorem unwritable_failsOnly {α : Type} (made : Except String α) : FailsOnly Failure.IsOfText (made.mapError .unwritable) := by
  cases made with
  | error report => exact .error trivial
  | ok a => exact .ok a

theorem write_failsOnly (tools : TableTools) (table : Table) (path : FilePath) (format : OutputFormat) :
    FailsOnly Failure.IsOfText (table.write tools path format) := by
  cases format with
  | jsonLines => exact table.jsonLines_failsOnly.map
  | csv => exact unwritable_failsOnly _
  | parquet => exact unwritable_failsOnly _

end Table

theorem TableTools.bytesAt_failsOnly (tools : TableTools) (path : FilePath) (cs : List Char) :
    FailsOnly Failure.IsOfText (tools.bytesAt path cs) := by
  unfold bytesAt
  split
  · exact Table.unwritable_failsOnly _
  · exact .ok _

/-! ## Batches -/

theorem Mapping.batch_failsOnly (m : Mapping) (name : String) (past records : List Record) :
    FailsOnly Failure.IsOfBatch (m.batch name past records).outcome := by
  intro e h
  obtain ⟨before, x, -, -, -, stops⟩ := batch_error_iff.1 h
  exact Or.inr stops

theorem Registry.map_failsOnly (r : Registry) (name : String) (past records : List Record) :
    FailsOnly Failure.IsOfBatch (r.map name past records).outcome := by
  rintro e h
  rcases Run.bind_error_iff.1 h with hget | ⟨m, -, hbatch⟩
  · unfold get at hget
    split at hget
    · cases hget
    · cases hget
      exact Or.inl ⟨_, _, rfl⟩
  · exact m.batch_failsOnly name past records e hbatch

/-! ## Steps of a run -/

/-- anything but a complaint about the ending of an input -/
def Failure.SparesInputs (e : Failure) : Prop :=
  ∀ path, e ≠ .unsupportedInput path

namespace Failure

variable {e : Failure}

theorem IsOfPath.sparesInputs (h : e.IsOfPath) : e.SparesInputs := by
  rintro path rfl
  exact h

theorem IsOfObject.sparesInputs (h : e.IsOfObject) : e.SparesInputs := by
  rintro path rfl
  exact h

theorem IsOfText.sparesInputs (h : e.IsOfText) : e.SparesInputs := by
  rintro path rfl
  exact h

theorem IsOfBatch.sparesInputs (h : e.IsOfBatch) : e.SparesInputs := by
  rintro path rfl
  rcases h with ⟨name, known, h⟩ | h <;> cases h

end Failure

/-- reading a file complains about the ending of its name exactly if no layout has the extension -/
theorem FileTree.records_unsupported_iff {t : FileTree} {p : FilePath} {path : String} :
    t.records p = .error (.unsupportedInput path) ↔ RecordLayout.ofExtension? p.extension = none ∧ path = p.text := by
  rw [records]
  split
  · rename_i h
    simp [h, eq_comm]
  · rename_i layout h
    have hspares : FailsOnly Failure.SparesInputs ((t.read p).bind (layout.records p.name)) :=
      ((t.read_failsOnly p).mono fun _ => Failure.IsOfPath.sparesInputs).bind fun bytes =>
        (layout.records_failsOnly p.name bytes).mono fun _ => Failure.IsOfText.sparesInputs
    simp only [h, reduceCtorEq, false_and, iff_false]
    exact fun bad => hspares _ bad path rfl

namespace CommandLine

theorem Job.destination_failsOnly (job : Job) (t : FileTree) (file : FilePath) :
    FailsOnly Failure.SparesInputs (job.destination t file) := by
  unfold destination
  split
  · exact ((t.outputName_failsOnly _ _ _).mono fun _ => Failure.IsOfPath.sparesInputs).handOn ‹_›
  · exact .error nofun
  · exact .ok _

theorem Job.save_failsOnly (job : Job) (t : FileTree) (file : FilePath) (outcomes : List Outcome) :
    FailsOnly Failure.SparesInputs (job.save t file outcomes) := by
  unfold save
  split
  · exact (job.destination_failsOnly t file).handOn ‹_›
  · split
    · exact ((Table.ofObjects_failsOnly _).mono fun _ => Failure.IsOfObject.sparesInputs).handOn ‹_›
    · rename_i path _ _ table _
      split
      · exact ((t.makeDirectories_failsOnly _).mono fun _ => Failure.IsOfPath.sparesInputs).handOn ‹_›
      · have hformat : FailsOnly Failure.SparesInputs (job.format.get (.unsupportedOutput Value.absent.display)) := by
          cases job.format with
          | given format => exact .ok format
          | mark => exact .error nofun
        have hwrite := hformat.bind fun format =>
          (table.write_failsOnly job.tools path format).mono fun _ => Failure.IsOfText.sparesInputs
        split
        · exact hwrite.handOn ‹_›
        · exact ((FileTree.write_failsOnly _ _ _).mono fun _ => Failure.IsOfPath.sparesInputs).map

theorem Job.mapFile_unsupported_iff (job : Job) (past : List Record) {t : FileTree} {file : FilePath} {path : String} :
    job.mapFile past t file = .error (.unsupportedInput path) ↔ t.records file = .error (.unsupportedInput path) := by
  unfold mapFile
  cases hrecords : t.records file with
  | error e => cases e <;> simp
  | ok records =>
    have hspares : FailsOnly Failure.SparesInputs ((job.registry.map job.name past records).outcome.map FileResult.mapped) :=
      ((job.registry.map_failsOnly job.name past records).mono fun _ => Failure.IsOfBatch.sparesInputs).map
    exact iff_of_false (fun bad => hspares _ bad path rfl) nofun

/-- a step ends in a complaint about an input exactly if reading its file does -/
theorem Progress.advance_unsupported_iff {job : Job} {p : Progress} {file : FilePath} {path : String} :
    p.advance job file = .error (.unsupportedInput path) ↔ p.tree.records file = .error (.unsupportedInput path) := by
  rw [← job.mapFile_unsupported_iff p.past]
  unfold advance
  cases job.mapFile p.past p.tree file with
  | error e => simp
  | ok result =>
    cases result with
    | skipped e => exact iff_of_false nofun nofun
    | mapped outcomes =>
      simp only [reduceCtorEq, iff_false]
      split
      · rename_i e hsave
        rintro ⟨⟩
        exact job.save_failsOnly p.tree file outcomes _ hsave path rfl
      · exact nofun

end CommandLine

end Harvest
