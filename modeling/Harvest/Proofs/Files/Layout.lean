/-
The two layouts of files of JSON records. A list in one file and the same values on the lines of another are as many records,
in the same order.

- `yields_lineRecords`: each line is decoded to the value on it, whatever the line ends, with blank lines passed over.
- `handsOver_treeRecords`: each item of a list is handed over as it is, and decoded to itself unless it is a text.
- `layouts_carry_values`: what the records of the two files are decoded to.
- `layouts_disagree_on_text`: a text in a list is not decoded to itself.
-/
import Harvest.Files.RecordFile
import Harvest.Proofs.Document
import Harvest.Proofs.Json.Respacing
import Harvest.Proofs.Json.RoundTrip
import Harvest.Proofs.Text.Utf8
import Mathlib.Data.List.Forall2

namespace Harvest

open Harvest.Text

/-- the record is decoded to the value -/
def Yields (r : Record) (v : Data) : Prop :=
  r.content.bind Document.decodeJson = .ok v

/-! ## Lines -/

/-- what stands on a line: one value, or none if the line is blank -/
inductive OnLine : List Data → List Char → Prop where
  | blank {line : List Char} (nothing : line.all isBlank = true) : OnLine [] line
  | value {line : List Char} {v : Data} (writes : Json.read (String.ofList line) = .ok v) : OnLine [v] line

/-- what stands on the lines of a text, in order; the last line can lack its line end -/
inductive OnLines : List Data → List Char → Prop where
  | last {values : List Data} {line : List Char} (unbroken : Unbroken line) (on : OnLine values line) : OnLines values line
  | more {values others : List Data} {line ending rest : List Char} (unbroken : Unbroken line) (on : OnLine values line)
      (ends : LineEnd ending rest) (below : OnLines others rest) : OnLines (values ++ others) (line ++ ending ++ rest)

/-- the records of lines, numbered from `first` on -/
def recordsOnLines (name : String) (first : Nat) (lines : List (List Char)) : List Record :=
  (lines.zipIdx first).filterMap fun line =>
    if line.1.all isBlank then none
    else some (.harvested (.str (String.ofList line.1)) (some (name ++ ":" ++ Nat.repr line.2)))

theorem lineRecords_eq (name : String) (cs : List Char) :
    lineRecords name cs = recordsOnLines name 1 (splitLines (unifyLineEnds cs)) :=
  rfl

section

variable {name : String} {first : Nat} {line : List Char} {lines : List (List Char)} {values others : List Data}

theorem recordsOnLines_blank (blank : line.all isBlank = true) :
    recordsOnLines name first (line :: lines) = recordsOnLines name (first + 1) lines := by
  simp only [recordsOnLines, List.zipIdx_cons, List.filterMap_cons, blank, if_true]

theorem recordsOnLines_cons (written : line.all isBlank = false) :
    recordsOnLines name first (line :: lines) =
      .harvested (.str (String.ofList line)) (some (name ++ ":" ++ Nat.repr first)) ::
        recordsOnLines name (first + 1) lines := by
  simp only [recordsOnLines, List.zipIdx_cons, List.filterMap_cons, written]
  rfl

/-- a line keeps what stands on it with a line end behind it -/
theorem OnLine.newline (on : OnLine values line) : OnLine values (line ++ ['\n']) := by
  cases on with
  | blank nothing => exact .blank (by rw [List.all_append, nothing]; rfl)
  | value writes => exact .value (Json.read_newline writes)

/-- a line adds a record for the value on it -/
theorem OnLine.yields (on : OnLine values line)
    (below : List.Forall₂ Yields (recordsOnLines name (first + 1) lines) others) :
    List.Forall₂ Yields (recordsOnLines name first (line :: lines)) (values ++ others) := by
  cases on with
  | blank nothing =>
    rw [recordsOnLines_blank nothing]
    exact below
  | value writes =>
    rw [recordsOnLines_cons (Json.not_blank_of_read writes)]
    refine .cons ?_ below
    simp only [Yields, Record.content, Except.bind, Document.decodeJson, writes]

/-- the induction is on the lines of the text -/
theorem yields_recordsOnLines {cs : List Char} (on : OnLines values cs) :
    List.Forall₂ Yields (recordsOnLines name first (splitLines (unifyLineEnds cs))) values := by
  induction on generalizing first with
  | @last values line unbroken on =>
    rw [unifyLineEnds_unbroken unbroken]
    by_cases empty : line = []
    · obtain rfl := empty
      cases on with
      | blank => exact .nil
      | value writes => cases Json.not_blank_of_read writes
    · rw [splitLines_unbroken unbroken empty]
      have hlast : List.Forall₂ Yields (recordsOnLines name first [line]) (values ++ []) := on.yields .nil
      rwa [List.append_nil] at hlast
  | more unbroken on ends below ih =>
    rw [List.append_assoc, unifyLineEnds_append unbroken, unifyLineEnds_ending ends, splitLines_append unbroken]
    exact on.newline.yields ih

/-- each line of a file is decoded to the value on it -/
theorem yields_lineRecords {cs : List Char} (on : OnLines values cs) :
    List.Forall₂ Yields (lineRecords name cs) values := by
  rw [lineRecords_eq]
  exact yields_recordsOnLines on

end

/-! ## Items -/

/-- the record hands the value over; it is decoded to itself unless it is a text, and a text is read as JSON once more -/
structure HandsOver (r : Record) (v : Data) : Prop where
  content : r.content = .ok v
  yields_iff : Yields r v ↔ ∀ s, v ≠ .str s
  rereads : ∀ s, v = .str s → r.content.bind Document.decodeJson = (Json.read s).mapError .badJson

theorem handsOver_of_content {r : Record} {v : Data} (content : r.content = .ok v) (kind : v.isJsonPart = true) :
    HandsOver r v := by
  have hbind : r.content.bind Document.decodeJson = Document.decodeJson v := by
    rw [content]
    rfl
  refine ⟨content, ⟨?_, fun other => hbind.trans (Document.decodeJson_of_isJsonPart kind other)⟩, ?_⟩
  · rintro yields s rfl
    exact Document.decodeJson_str_ne s (hbind.symm.trans yields)
  · rintro s rfl
    exact hbind.trans (Document.decodeJson_str s)

theorem handsOver_treeRecords (name : String) {items : List Data} (kinds : ∀ v ∈ items, v.isJsonPart = true) :
    List.Forall₂ HandsOver (treeRecords name (.list items)) items := by
  rw [treeRecords]
  suffices h : ∀ k, List.Forall₂ HandsOver
      ((items.zipIdx k).map fun item => .harvested item.1 (some (name ++ "[" ++ Nat.repr item.2 ++ "]"))) items from h 0
  induction items with
  | nil => exact fun k => .nil
  | cons item items ih =>
    obtain ⟨hitem, hitems⟩ := List.forall_mem_cons.1 kinds
    exact fun k => .cons (handsOver_of_content rfl hitem) (ih hitems (k + 1))

/-! ## Files -/

namespace FileTree

variable {t : FileTree} {p : FilePath} {values : List Data}

theorem exists_items {text : String} (layout : RecordLayout.ofExtension? p.extension = some .json)
    (content : t.read p = .ok (Utf8.encode text)) (writes : Json.read text = .ok (.list values)) :
    ∃ items, t.records p = .ok items ∧ List.Forall₂ HandsOver items values := by
  have hread : Json.read (String.ofList text.toList) = .ok (.list values) := by rwa [String.ofList_toList]
  have hunified := Json.read_unifyLineEnds hread
  have hkinds : ∀ v ∈ values, v.isJsonPart = true := fun v hv =>
    Data.of_all ((Data.all_list_iff.1 (Json.all_of_read_text Json.met_isJsonPart writes)).2 v hv)
  refine ⟨treeRecords p.name (.list values), ?_, handsOver_treeRecords p.name hkinds⟩
  rw [records_of_layout layout content]
  simp only [RecordLayout.records, Utf8.decode_encode, hunified]

theorem exists_lines {text : String} (layout : RecordLayout.ofExtension? p.extension = some .jsonLines)
    (content : t.read p = .ok (Utf8.encode text)) (on : OnLines values text.toList) :
    ∃ records, t.records p = .ok records ∧ List.Forall₂ Yields records values := by
  refine ⟨lineRecords p.name text.toList, ?_, yields_lineRecords on⟩
  rw [records_of_layout layout content]
  simp only [RecordLayout.records, Utf8.decode_encode]

end FileTree

/-- **Two layouts, one sequence of values.** Where a file holds a list and another one the same values on its lines, the
files have as many records, in the same order. Those on lines are decoded to the values. Those of the list hand the values
over as they are: every value but a text is decoded to itself, and a text is read as JSON once more, and so never decoded to
itself. -/
theorem layouts_carry_values {t : FileTree} {p q : FilePath} {list lines : String} {values : List Data}
    (json : RecordLayout.ofExtension? p.extension = some .json)
    (jsonLines : RecordLayout.ofExtension? q.extension = some .jsonLines)
    (listContent : t.read p = .ok (Utf8.encode list)) (linesContent : t.read q = .ok (Utf8.encode lines))
    (writes : Json.read list = .ok (.list values)) (on : OnLines values lines.toList) :
    ∃ items records, t.records p = .ok items ∧ t.records q = .ok records ∧ items.length = records.length ∧
      List.Forall₂ HandsOver items values ∧ List.Forall₂ Yields records values := by
  obtain ⟨items, hitems, hands⟩ := FileTree.exists_items json listContent writes
  obtain ⟨records, hrecords, yields⟩ := FileTree.exists_lines jsonLines linesContent on
  exact ⟨items, records, hitems, hrecords, hands.length_eq.trans yields.length_eq.symm, hands, yields⟩

def threeValues : List Data := [.dict [("title", .str "A")], .str "A", .list [.null]]

def threeItems : String := "[\x7b\"title\": \"A\"\x7d, \"A\", [null]]"

def threeLines : String := "\x7b\"title\": \"A\"\x7d\r\n\n\"A\"\n[null]"

/-- a list in one file, and what is in it on the lines of another one -/
def bothLayouts : FileTree :=
  ⟨[(.ofText "a.json", .file (Utf8.encode threeItems)), (.ofText "b.jsonl", .file (Utf8.encode threeLines))]⟩

theorem read_threeItems : Json.read threeItems = .ok (.list threeValues) := by
  have hmapping : Json.Written (.dict [("title", .str "A")]) _ :=
    Json.written_dict (.cons ⟨_, rfl, Json.written_str "A"⟩ .nil) (by decide)
  have hlist : Json.Written (.list [.null]) _ := Json.written_list (.cons Json.written_null .nil)
  have hread := (Json.written_list (.cons hmapping (.cons (Json.written_str "A") (.cons hlist .nil)))).read
  exact hread

theorem onLines_threeLines : OnLines threeValues threeLines.toList := by
  have hmapping : OnLine [.dict [("title", .str "A")]] _ :=
    .value (Json.written_dict (.cons ⟨_, rfl, Json.written_str "A"⟩ .nil) (by decide)).read
  have htext : OnLine [.str "A"] _ := .value (Json.written_str "A").read
  have hlist : OnLine [.list [.null]] _ := .value (Json.written_list (.cons Json.written_null .nil)).read
  have hblank : OnLine [] [] := .blank rfl
  have hlines := OnLines.more (by decide) hmapping (.pair _) (.more (by decide) hblank (.newline _)
    (.more (by decide) htext (.newline _) (.last (by decide) hlist)))
  exact hlines

theorem isJson_bothLayouts : RecordLayout.ofExtension? (FilePath.ofText "a.json").extension = some .json := by
  decide +kernel

theorem isJsonLines_bothLayouts : RecordLayout.ofExtension? (FilePath.ofText "b.jsonl").extension = some .jsonLines := by
  decide +kernel

theorem read_bothLayouts :
    bothLayouts.read (.ofText "a.json") = .ok (Utf8.encode threeItems) ∧
      bothLayouts.read (.ofText "b.jsonl") = .ok (Utf8.encode threeLines) :=
  ⟨Failure.eq_ok_of_toOption (by decide +kernel), Failure.eq_ok_of_toOption (by decide +kernel)⟩

theorem bothLayouts_carry_three :
    RecordLayout.ofExtension? (FilePath.ofText "a.json").extension = some .json ∧
      RecordLayout.ofExtension? (FilePath.ofText "b.jsonl").extension = some .jsonLines ∧
      bothLayouts.read (.ofText "a.json") = .ok (Utf8.encode threeItems) ∧
      bothLayouts.read (.ofText "b.jsonl") = .ok (Utf8.encode threeLines) ∧
      Json.read threeItems = .ok (.list threeValues) ∧ OnLines threeValues threeLines.toList ∧
      ∃ items records, bothLayouts.records (.ofText "a.json") = .ok items ∧
        bothLayouts.records (.ofText "b.jsonl") = .ok records ∧ items.length = records.length ∧
        List.Forall₂ HandsOver items threeValues ∧ List.Forall₂ Yields records threeValues :=
  ⟨isJson_bothLayouts, isJsonLines_bothLayouts, read_bothLayouts.1, read_bothLayouts.2, read_threeItems, onLines_threeLines,
    layouts_carry_values isJson_bothLayouts isJsonLines_bothLayouts read_bothLayouts.1 read_bothLayouts.2 read_threeItems
      onLines_threeLines⟩

/-- not every list is decoded alike in both layouts: the text of the list is taken for JSON, and refused -/
theorem layouts_disagree_on_text :
    ¬∀ (t : FileTree) (p q : FilePath) (list lines : String) (values : List Data),
      RecordLayout.ofExtension? p.extension = some .json → RecordLayout.ofExtension? q.extension = some .jsonLines →
      t.read p = .ok (Utf8.encode list) → t.read q = .ok (Utf8.encode lines) →
      Json.read list = .ok (.list values) → OnLines values lines.toList →
      ∃ items records, t.records p = .ok items ∧ t.records q = .ok records ∧ items.length = records.length ∧
        List.Forall₂ Yields items values ∧ List.Forall₂ Yields records values := by
  intro agree
  obtain ⟨items, -, hitems, -, -, yields, -⟩ := agree bothLayouts _ _ _ _ _ isJson_bothLayouts isJsonLines_bothLayouts
    read_bothLayouts.1 read_bothLayouts.2 read_threeItems onLines_threeLines
  obtain ⟨items', hitems', hands⟩ := FileTree.exists_items isJson_bothLayouts read_bothLayouts.1 read_threeItems
  obtain rfl := Except.ok.inj (hitems.symm.trans hitems')
  rw [threeValues] at hands yields
  cases hands with
  | cons _ hands =>
    cases hands with
    | cons hands _ =>
      cases yields with
      | cons _ yields =>
        cases yields with
        | cons yields _ => exact hands.yields_iff.1 yields "A" rfl

end Harvest
