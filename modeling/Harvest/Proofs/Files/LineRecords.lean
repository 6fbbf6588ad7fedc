/-
Lines as records. In a file of JSON records on lines, each line that is not blank is a record, named by the number of the line
with the blank ones counted. What stands on a line is read for its own record only.

- `recordsOnLines_unified`: the records of lines, each with its number.
- `identifiers_sublist`: they are named by the numbers of lines, in order, so each has a name of its own.
- `sameBut_replaced`: with other characters on a line, only its own record is another one.
- `SameBut.differOnlyIn`: then only the result of that record is another one too.
- `lines_are_records`: all this for every file of text.
- `merged_line_renumbers`: a line without characters can vanish between `\r` and `\n`, and the lines below change their numbers.
-/
import Harvest.Proofs.Files.Layout
import Harvest.Proofs.Mapping.Batch
import Harvest.Proofs.Text.PhysicalLines

namespace Harvest

open Harvest.Text

/-! ## Lists that are put together, or differ in one item -/

/-- two lists put together to one, each in its order -/
inductive Interleaved {α : Type} : List α → List α → List α → Prop where
  | nil : Interleaved [] [] []
  | left {a : α} {items others whole : List α} (rest : Interleaved items others whole) :
      Interleaved (a :: items) others (a :: whole)
  | right {a : α} {items others whole : List α} (rest : Interleaved items others whole) :
      Interleaved items (a :: others) (a :: whole)

/-- a list is put together from the items with a property and those without it -/
theorem interleaved_filter {α : Type} (p : α → Bool) (items : List α) :
    Interleaved (items.filter fun a => !p a) (items.filter p) items := by
  induction items with
  | nil => exact .nil
  | cons a items ih =>
    cases h : p a with
    | false => simpa [h] using .left ih
    | true => simpa [h] using .right ih

theorem Interleaved.map {α β : Type} {items others whole : List α} (f : α → β) (h : Interleaved items others whole) :
    Interleaved (items.map f) (others.map f) (whole.map f) := by
  induction h with
  | nil => exact .nil
  | left _ ih => exact .left ih
  | right _ ih => exact .right ih

/-- between the same others there is at most one item in each list, the only one with the property -/
def SameBut {α : Type} (own : α → Prop) (items others : List α) : Prop :=
  ∃ before mine theirs after : List α, items = before ++ mine ++ after ∧ others = before ++ theirs ++ after ∧
    mine.length ≤ 1 ∧ theirs.length ≤ 1 ∧ (∀ a ∈ mine ++ theirs, own a) ∧ ∀ a ∈ before ++ after, ¬own a

theorem SameBut.map {α β : Type} {own : α → Prop} {other : β → Prop} {items others : List α} (h : SameBut own items others)
    {f : α → β} (same : ∀ a, other (f a) ↔ own a) : SameBut other (items.map f) (others.map f) := by
  obtain ⟨before, mine, theirs, after, rfl, rfl, hmine, htheirs, hown, hrest⟩ := h
  refine ⟨before.map f, mine.map f, theirs.map f, after.map f, ?_, ?_, ?_, ?_, ?_, ?_⟩
  · rw [List.map_append, List.map_append]
  · rw [List.map_append, List.map_append]
  · rwa [List.length_map]
  · rwa [List.length_map]
  · rw [← List.map_append, List.forall_mem_map]
    exact fun a ha => (same a).2 (hown a ha)
  · rw [← List.map_append, List.forall_mem_map]
    exact fun a ha => mt (same a).1 (hrest a ha)

/-- what lacks the property is in both lists or in neither -/
theorem SameBut.mem_iff {α : Type} {own : α → Prop} {items others : List α} (h : SameBut own items others) {a : α}
    (apart : ¬own a) : a ∈ items ↔ a ∈ others := by
  obtain ⟨before, mine, theirs, after, rfl, rfl, -, -, hown, -⟩ := h
  have hmine : a ∉ mine := fun ha => apart (hown a (List.mem_append_left _ ha))
  have htheirs : a ∉ theirs := fun ha => apart (hown a (List.mem_append_right _ ha))
  simp [hmine, htheirs]

/-! ## Records of lines -/

/-- what identifies the record, if anything does -/
def Record.identifier? : Record → Option String
  | harvested _ identifier => identifier
  | bare _ => none

/-- how the record of a line is named, by its file and the number of the line -/
def lineIdentifier (name : String) (number : Nat) : String :=
  name ++ ":" ++ Nat.repr number

theorem lineIdentifier_injective (name : String) : Function.Injective (lineIdentifier name) := by
  intro a b h
  have hlist := congrArg String.toList h
  simp only [lineIdentifier, String.toList_append, Nat.toList_repr] at hlist
  have hdigits : Nat.toDigits 10 a = Nat.toDigits 10 b := List.append_cancel_left hlist
  rw [← Number.decimalValue_toDigits a, hdigits, Number.decimalValue_toDigits]

namespace Text.Line

/-- nothing but blank characters on the line -/
def isBlank (line : Line) : Bool :=
  line.chars.all Text.isBlank

/-- the record of the line -/
def record (name : String) (number : Nat) (line : Line) : Record :=
  .harvested (.str (String.ofList line.unified)) (some (lineIdentifier name number))

theorem all_isBlank_unified (line : Line) : line.unified.all Text.isBlank = line.isBlank := by
  rw [unified, List.all_append, isBlank]
  cases line.terminator? with
  | none => exact Bool.and_true _
  | some t => exact Bool.and_true _

end Text.Line

/-- a record for each line that is not blank, with the number of the line -/
theorem recordsOnLines_unified (name : String) (first : Nat) (lines : List Line) :
    recordsOnLines name first (lines.map Line.unified) =
      ((lines.zipIdx first).filter fun l => !l.1.isBlank).map fun l => l.1.record name l.2 := by
  induction lines generalizing first with
  | nil => rfl
  | cons line lines ih =>
    rw [List.map_cons, List.zipIdx_cons]
    cases hblank : line.isBlank with
    | true =>
      rw [recordsOnLines_blank (line.all_isBlank_unified.trans hblank), ih,
        List.filter_cons_of_neg (by simp [hblank])]
    | false =>
      rw [recordsOnLines_cons (line.all_isBlank_unified.trans hblank), ih,
        List.filter_cons_of_pos (by simp [hblank])]
      rfl

theorem recordsOnLines_append (name : String) (first : Nat) (lines more : List (List Char)) :
    recordsOnLines name first (lines ++ more) =
      recordsOnLines name first lines ++ recordsOnLines name (first + lines.length) more := by
  rw [recordsOnLines, List.zipIdx_append, List.filterMap_append]
  rfl

/-- the records of lines are named by numbers of the lines, in order -/
theorem identifiers_sublist (name : String) (first : Nat) (lines : List (List Char)) :
    List.Sublist ((recordsOnLines name first lines).map Record.identifier?)
      ((List.range' first lines.length).map fun number => some (lineIdentifier name number)) := by
  induction lines generalizing first with
  | nil => exact .slnil
  | cons line lines ih =>
    rw [List.length_cons, List.range'_succ, List.map_cons]
    cases hblank : line.all isBlank with
    | true =>
      rw [recordsOnLines_blank hblank]
      exact (ih (first + 1)).cons _
    | false =>
      rw [recordsOnLines_cons hblank]
      exact (ih (first + 1)).cons_cons _

theorem length_recordsOnLines_le (name : String) (first : Nat) (lines : List (List Char)) :
    (recordsOnLines name first lines).length ≤ lines.length := by
  have hlength := (identifiers_sublist name first lines).length_le
  rwa [List.length_map, List.length_map, List.length_range'] at hlength

theorem nodup_identifiers (name : String) (first : Nat) (lines : List (List Char)) :
    ((recordsOnLines name first lines).map Record.identifier?).Nodup := by
  refine (identifiers_sublist name first lines).nodup (List.Nodup.map ?_ List.nodup_range')
  exact fun a b h => lineIdentifier_injective name (Option.some.inj h)

/-- a record of lines is named by one of their numbers -/
theorem exists_number {name : String} {first : Nat} {lines : List (List Char)} {r : Record}
    (h : r ∈ recordsOnLines name first lines) :
    ∃ number, first ≤ number ∧ number < first + lines.length ∧ r.identifier? = some (lineIdentifier name number) := by
  have hmem := (identifiers_sublist name first lines).subset (List.mem_map_of_mem h)
  obtain ⟨number, hnumber, hname⟩ := List.mem_map.1 hmem
  obtain ⟨hfirst, hlast⟩ := List.mem_range'_1.1 hnumber
  exact ⟨number, hfirst, hlast, hname.symm⟩

/-- the records are the lines that are not blank, in order; lines are counted from one, blank ones too -/
structure RecordsOfLines (name : String) (lines : List Line) (records : List Record) : Prop where
  each : records = ((lines.zipIdx 1).filter fun l => !l.1.isBlank).map fun l => l.1.record name l.2
  /-- no two records have one identifier -/
  distinct : (records.map Record.identifier?).Nodup
  /-- put together with the blank lines, the contents are the text with `\n` for each line end -/
  restores : ∃ contents whole : List (List Char),
    records.map Record.content = contents.map (fun cs => .ok (.str (String.ofList cs))) ∧
    Interleaved contents ((lines.filter Line.isBlank).map Line.unified) whole ∧
    whole.flatten = unifyLineEnds (textOf lines)

theorem recordsOfLines_lineRecords (name : String) {lines : List Line} (chain : lines.IsChain Line.Precedes) :
    RecordsOfLines name lines (lineRecords name (textOf lines)) := by
  have heach : lineRecords name (textOf lines) =
      ((lines.zipIdx 1).filter fun l => !l.1.isBlank).map fun l => l.1.record name l.2 := by
    rw [lineRecords_eq, splitLines_textOf chain, recordsOnLines_unified]
  refine ⟨heach, ?_, (lines.filter fun line => !line.isBlank).map Line.unified, lines.map Line.unified, ?_, ?_, ?_⟩
  · rw [lineRecords_eq]
    exact nodup_identifiers name 1 _
  · rw [heach, List.map_map, List.map_map]
    conv_rhs => rw [← List.zipIdx_map_fst 1 lines, List.filter_map, List.map_map]
    rfl
  · exact (interleaved_filter Line.isBlank lines).map Line.unified
  · exact flatten_unified chain

/-! ## One line in the place of another -/

theorem lineRecords_append (name : String) {before own after : List Line}
    (chain : (before ++ own ++ after).IsChain Line.Precedes) :
    lineRecords name (textOf (before ++ own ++ after)) =
      recordsOnLines name 1 (before.map Line.unified) ++ recordsOnLines name (before.length + 1) (own.map Line.unified) ++
        recordsOnLines name (before.length + 1 + own.length) (after.map Line.unified) := by
  rw [lineRecords_eq, splitLines_textOf chain, List.map_append, List.map_append, recordsOnLines_append,
    recordsOnLines_append, List.length_append, List.length_map, List.length_map, Nat.add_comm 1 before.length,
    show 1 + (before.length + own.length) = before.length + 1 + own.length by omega]

/-- with other characters on a line, only its own record is another one -/
theorem sameBut_replaced (name : String) {before after : List Line} {line : Line} {chars : List Char}
    (chain : (before ++ line :: after).IsChain Line.Precedes) (unbroken : Unbroken chars)
    (apart : StaysApart before line chars) :
    SameBut (fun r => r.identifier? = some (lineIdentifier name (before.length + 1)))
      (lineRecords name (textOf (before ++ line :: after)))
      (lineRecords name (replacedText before line chars after)) := by
  obtain ⟨own, chain', htext, hgone⟩ := exists_replaced chain unbroken apart
  rw [List.append_cons] at chain ⊢
  -- where the line is gone, nothing stands below it, so the numbers of the lines below do not change
  have hafter : recordsOnLines name (before.length + 1 + own.toList.length) (after.map Line.unified) =
      recordsOnLines name (before.length + 1 + 1) (after.map Line.unified) := by
    cases own with
    | none =>
      rw [hgone rfl]
      rfl
    | some own => rfl
  rw [← htext, lineRecords_append name chain, lineRecords_append name chain', hafter,
    List.length_singleton]
  have hnumber : ∀ {lines : List (List Char)}, lines.length ≤ 1 → ∀ r ∈ recordsOnLines name (before.length + 1) lines,
      r.identifier? = some (lineIdentifier name (before.length + 1)) := by
    intro lines hlength r hr
    obtain ⟨number, hfirst, hlast, hname⟩ := exists_number hr
    obtain rfl : number = before.length + 1 := by omega
    exact hname
  have hmine : ([line].map Line.unified).length ≤ 1 := le_rfl
  have htheirs : (own.toList.map Line.unified).length ≤ 1 := by
    rw [List.length_map]
    exact Option.length_toList_le
  refine ⟨_, _, _, _, rfl, rfl, (length_recordsOnLines_le name _ _).trans hmine,
    (length_recordsOnLines_le name _ _).trans htheirs, ?_, ?_⟩
  · intro r hr
    rcases List.mem_append.1 hr with hr | hr
    · exact hnumber hmine r hr
    · exact hnumber htheirs r hr
  · intro r hr hown
    have hother : ∀ number, r.identifier? = some (lineIdentifier name number) → number = before.length + 1 := by
      intro number hname
      exact lineIdentifier_injective name (Option.some.inj (hname.symm.trans hown))
    rcases List.mem_append.1 hr with hr | hr
    · obtain ⟨number, -, hlast, hname⟩ := exists_number hr
      have := hother number hname
      rw [List.length_map] at hlast
      omega
    · obtain ⟨number, hfirst, -, hname⟩ := exists_number hr
      have := hother number hname
      omega

/-- the records differ only in those with the property, and so do the results of batches that nothing stops, with a mapping that
nowhere assigns all properties at once -/
structure DifferOnlyIn (own : Record → Prop) (records others : List Record) : Prop where
  alike : SameBut own records others
  results : ∀ (r : Registry) (mapping : String) (m : Mapping), r.find? mapping = some m → m.replacesAll = false →
    (∀ x ∈ records ++ others, ∀ e, ¬m.Stops x e) → ∀ past past' : List Record,
    ∃ os ps, (r.map mapping past records).outcome = .ok os ∧ (r.map mapping past' others).outcome = .ok ps ∧
      SameBut (fun o => own o.record) os ps

theorem SameBut.differOnlyIn {own : Record → Prop} {records others : List Record} (h : SameBut own records others) :
    DifferOnlyIn own records others := by
  refine ⟨h, fun r mapping m found singly goesOn past past' => ?_⟩
  obtain ⟨hrecords, hothers⟩ := List.forall_mem_append.1 goesOn
  refine ⟨_, _, Registry.map_ok_iff.2 ⟨m, found, hrecords, rfl⟩, Registry.map_ok_iff.2 ⟨m, found, hothers, rfl⟩, ?_⟩
  rw [Mapping.outcomesAmong_of_not_replacesAll singly, Mapping.outcomesAmong_of_not_replacesAll singly]
  exact h.map fun x => Iff.rfl

/-! ## Files -/

theorem FileTree.records_of_lines {t : FileTree} {p : FilePath} {text : String}
    (layout : RecordLayout.ofExtension? p.extension = some .jsonLines) (content : t.read p = .ok (Utf8.encode text)) :
    t.records p = .ok (lineRecords p.name text.toList) := by
  rw [records_of_layout layout content]
  simp only [RecordLayout.records, Utf8.decode_encode]

/-- **Lines are records of their own.** Every text is made up of lines in exactly one way. A file of JSON records on lines gives
a record for each line that is not blank, in order, named by the number of the line, each by another name; put together with
the blank lines, their contents are the text with one end for all lines. With other characters on one line, only the record of
that line is another one, and only its result, whatever was mapped before and whatever mapping the records are mapped with, if
nothing stops the batch and nowhere in the mapping all properties are assigned at once. There is one exception: between `\r` and
`\n` the characters of a line are not left out. -/
theorem lines_are_records {t : FileTree} {p : FilePath} {text : String}
    (layout : RecordLayout.ofExtension? p.extension = some .jsonLines) (content : t.read p = .ok (Utf8.encode text)) :
    ∃ lines : List Line, lines.IsChain Line.Precedes ∧ textOf lines = text.toList ∧
      (∀ others : List Line, others.IsChain Line.Precedes → textOf others = text.toList → others = lines) ∧
      ∃ records, t.records p = .ok records ∧ RecordsOfLines p.name lines records ∧
        ∀ (before after : List Line) (line : Line) (chars : List Char), lines = before ++ line :: after →
          Unbroken chars → StaysApart before line chars →
          ∀ t' : FileTree, t'.read p = .ok (Utf8.encode (String.ofList (replacedText before line chars after))) →
            ∃ others, t'.records p = .ok others ∧
              DifferOnlyIn (fun x => x.identifier? = some (lineIdentifier p.name (before.length + 1))) records others := by
  obtain ⟨lines, chain, htext⟩ := exists_lines text.toList
  refine ⟨lines, chain, htext, fun others hothers h => eq_of_textOf_eq hothers chain (h.trans htext.symm), ?_⟩
  refine ⟨lineRecords p.name (textOf lines), ?_, recordsOfLines_lineRecords p.name chain, ?_⟩
  · rw [FileTree.records_of_lines layout content, htext]
  · rintro before after line chars rfl unbroken apart t' content'
    refine ⟨_, FileTree.records_of_lines layout content', ?_⟩
    rw [String.toList_ofList]
    exact (sameBut_replaced p.name chain unbroken apart).differOnlyIn

/-- a number, a blank line, and two more numbers, with three kinds of line ends -/
def countedLines : List Line :=
  [⟨['1'], some .pair, by decide, by decide⟩, ⟨[' '], some .newline, by decide, by decide⟩,
    ⟨['2'], some .carriageReturn, by decide, by decide⟩, ⟨['3'], none, by decide, by decide⟩]

def countedText : String := "1\r\n \n2\r3"

/-- the third line lost its number -/
def clearedText : String := "1\r\n \n\r3"

def linesPath : FilePath := .ofText "a.jsonl"

def fileOfLines (text : String) : FileTree :=
  ⟨[(linesPath, .file (Utf8.encode text))]⟩

/-- numbers as they stand on their lines -/
def numberMapping : Mapping :=
  ⟨⟨"Book", true⟩, .json, [], [.property "number" (.path Path.root) none false]⟩

def numberRegistry : Registry := ⟨[("number", numberMapping)], by decide⟩

theorem isJsonLines_linesPath : RecordLayout.ofExtension? linesPath.extension = some .jsonLines := by
  decide +kernel

theorem read_countedText : (fileOfLines countedText).read linesPath = .ok (Utf8.encode countedText) :=
  Failure.eq_ok_of_toOption (by decide +kernel)

theorem read_clearedText : (fileOfLines clearedText).read linesPath = .ok (Utf8.encode clearedText) :=
  Failure.eq_ok_of_toOption (by decide +kernel)

def numberRecord (number : Nat) (content : String) : Record :=
  .harvested (.str content) (some (lineIdentifier linesPath.name number))

/-- the third line is cleared: the record on it is gone, and the one below keeps its number and its result -/
theorem countedLines_are_records :
    RecordLayout.ofExtension? linesPath.extension = some .jsonLines ∧
      (fileOfLines countedText).read linesPath = .ok (Utf8.encode countedText) ∧
      (fileOfLines clearedText).read linesPath = .ok (Utf8.encode clearedText) ∧
      ∃ records others, (fileOfLines countedText).records linesPath = .ok records ∧
        RecordsOfLines linesPath.name countedLines records ∧ (fileOfLines clearedText).records linesPath = .ok others ∧
        records.map Record.identifier? = [1, 3, 4].map (fun number => some (lineIdentifier linesPath.name number)) ∧
        others.map Record.identifier? = [1, 4].map (fun number => some (lineIdentifier linesPath.name number)) ∧
        ∃ os ps, (numberRegistry.map "number" [] records).outcome = .ok os ∧
          (numberRegistry.map "number" records others).outcome = .ok ps ∧
          os.map Outcome.value = [1, 2, 3].map (fun n => .object numberMapping.cls [("number", .int n)]) ∧
          SameBut (fun o => o.record.identifier? = some (lineIdentifier linesPath.name 3)) os ps := by
  obtain ⟨lines, -, -, unique, records, hrecords, hlines, hreplace⟩ :=
    lines_are_records isJsonLines_linesPath read_countedText
  obtain rfl := unique countedLines (by decide) rfl
  obtain ⟨others, hothers, hdiffer⟩ := hreplace (countedLines.take 2) (countedLines.drop 3) countedLines[2] [] rfl
    (by decide) (fun _ hnewline => nomatch hnewline) (fileOfLines clearedText) read_clearedText
  refine ⟨isJsonLines_linesPath, read_countedText, read_clearedText, records, others, hrecords, hlines, hothers, ?_⟩
  have hcounted : records = [numberRecord 1 "1\n", numberRecord 3 "2\n", numberRecord 4 "3"] := hlines.each
  have hcleared : others = [numberRecord 1 "1\n", numberRecord 4 "3"] :=
    Except.ok.inj (hothers.symm.trans (FileTree.records_of_lines isJsonLines_linesPath read_clearedText))
  have goesOn : ∀ x ∈ records ++ others, ∀ e, ¬numberMapping.Stops x e := by
    rw [hcounted, hcleared]
    intro x hx e hstops
    simp only [List.cons_append, List.nil_append, List.mem_cons, List.not_mem_nil, or_false] at hx
    rcases hx with rfl | rfl | rfl | rfl | rfl <;> cases hstops.1
  obtain ⟨os, ps, hos, hps, hsame⟩ := hdiffer.results numberRegistry "number" numberMapping rfl rfl goesOn [] records
  obtain ⟨m, hm, -, hvalues⟩ := Registry.map_ok_iff.1 hos
  obtain rfl : numberMapping = m := Option.some.inj hm
  refine ⟨?_, ?_, os, ps, hos, hps, ?_, hsame⟩
  · rw [hcounted]
    rfl
  · rw [hcleared]
    rfl
  · rw [hvalues, hcounted]
    rfl

/-- without its characters, the second of these lines has no end of its own any more -/
def mergingLines : List Line :=
  [⟨['1'], some .carriageReturn, by decide, by decide⟩, ⟨['2'], some .newline, by decide, by decide⟩,
    ⟨['3'], none, by decide, by decide⟩]

/-- not every line can lose its characters: between `\r` and `\n` the line is gone with them, and the record of the line below
has another number -/
theorem merged_line_renumbers :
    ¬∀ (t t' : FileTree) (p : FilePath) (before after : List Line) (line : Line) (chars : List Char)
      (records others : List Record), RecordLayout.ofExtension? p.extension = some .jsonLines →
      (before ++ line :: after).IsChain Line.Precedes → Unbroken chars →
      t.read p = .ok (Utf8.encode (String.ofList (textOf (before ++ line :: after)))) →
      t'.read p = .ok (Utf8.encode (String.ofList (replacedText before line chars after))) →
      t.records p = .ok records → t'.records p = .ok others →
      SameBut (fun x => x.identifier? = some (lineIdentifier p.name (before.length + 1))) records others := by
  intro replaced
  have hread : (fileOfLines "1\r2\n3").read linesPath = .ok (Utf8.encode "1\r2\n3") :=
    Failure.eq_ok_of_toOption (by decide +kernel)
  have hread' : (fileOfLines "1\r\n3").read linesPath = .ok (Utf8.encode "1\r\n3") :=
    Failure.eq_ok_of_toOption (by decide +kernel)
  have hsame := replaced _ _ linesPath (mergingLines.take 1) (mergingLines.drop 2) mergingLines[1] [] _ _
    isJsonLines_linesPath (by decide) (by decide) hread hread' (FileTree.records_of_lines isJsonLines_linesPath hread)
    (FileTree.records_of_lines isJsonLines_linesPath hread')
  have hthird : numberRecord 3 "3" ∈ recordsOnLines linesPath.name 1 [['1', '\n'], ['2', '\n'], ['3']] :=
    List.mem_of_getElem? (i := 2) rfl
  have hapart : (numberRecord 3 "3").identifier? ≠ some (lineIdentifier linesPath.name 2) := by
    intro h
    cases lineIdentifier_injective linesPath.name (Option.some.inj h)
  have hmerged : numberRecord 3 "3" ∈ recordsOnLines linesPath.name 1 [['1', '\n'], ['3']] := (hsame.mem_iff hapart).1 hthird
  obtain ⟨number, -, htwo, hname⟩ := exists_number hmerged
  obtain rfl : 3 = number := lineIdentifier_injective linesPath.name (Option.some.inj hname)
  exact absurd htwo (by decide)

end Harvest
