/-
The places of tables. A file of records that is found below the input directory is a path of plain parts from there. Its table
stands below the output directory at the same path with another ending, so two tables share a place exactly if their files
share a directory and a name up to its ending.

- `FilePath.ofText_lead`: the path of plain parts is read back from its text.
- `dropEnding_lead`: the ending of a path is the ending of its name.
- `FileTree.destination_eq_iff`: when two tables have the same place.
-/
import Harvest.Files.Destination
import Harvest.Proofs.Text.Case
import Harvest.Table.OutputFormat

namespace Harvest

open Harvest.Text

/-! ## Plain parts -/

/-- a part that names something in a directory -/
structure PlainPart (part : String) : Prop where
  present : part ≠ ""
  undotted : part ≠ "."
  notUp : part ≠ ".."
  whole : '/' ∉ part.toList

instance (part : String) : Decidable (PlainPart part) :=
  decidable_of_iff (part ≠ "" ∧ part ≠ "." ∧ part ≠ ".." ∧ '/' ∉ part.toList)
    ⟨fun h => ⟨h.1, h.2.1, h.2.2.1, h.2.2.2⟩, fun h => ⟨h.present, h.undotted, h.notUp, h.whole⟩⟩

theorem PlainPart.isPart {part : String} (plain : PlainPart part) : FilePath.isPart part.toList = true := by
  have hdot : part.toList ≠ ['.'] := fun h => plain.undotted (String.toList_injective h)
  simp [FilePath.isPart, plain.present, hdot]

/-- the texts of folders, each with the slash after it -/
def lead (folders : List String) : List Char :=
  folders.flatMap fun folder => folder.toList ++ ['/']

theorem lead_eq (folders : List String) : lead folders = [] ∨ ∃ cs, lead folders = cs ++ ['/'] := by
  rcases List.eq_nil_or_concat' folders with rfl | ⟨outer, last, rfl⟩
  · exact Or.inl rfl
  · exact Or.inr ⟨lead outer ++ last.toList, by simp [lead]⟩

theorem toList_intercalate_slash (folders : List String) (name : String) :
    ("/".intercalate (folders ++ [name])).toList = lead folders ++ name.toList := by
  induction folders with
  | nil => simp [lead]
  | cons folder folders ih =>
    rw [List.cons_append, String.intercalate_cons_of_ne_nil (by simp), String.toList_append, String.toList_append, ih]
    simp [lead]

theorem pieces_lead {folders : List String} (plain : ∀ folder ∈ folders, PlainPart folder) {name : List Char}
    (whole : '/' ∉ name) : pieces '/' (lead folders ++ name) = folders.map String.toList ++ [name] := by
  induction folders with
  | nil => exact pieces_of_notMem whole
  | cons folder folders ih =>
    obtain ⟨hfolder, hfolders⟩ := List.forall_mem_cons.1 plain
    have hlead : lead (folder :: folders) ++ name = folder.toList ++ '/' :: (lead folders ++ name) := by
      simp [lead]
    rw [hlead, pieces_append hfolder.whole, ih hfolders]
    rfl

namespace FilePath

theorem text_relative (folders : List String) (name : String) :
    (FilePath.text { parts := folders ++ [name] }).toList = lead folders ++ name.toList := by
  rw [← toList_intercalate_slash]
  simp [text, isRooted, PathStart.text]

/-- a path of plain parts is read back from its text -/
theorem ofText_lead {folders : List String} {name : String} (plain : ∀ part ∈ folders ++ [name], PlainPart part) :
    ofText (String.ofList (lead folders ++ name.toList)) = { parts := folders ++ [name] } := by
  have hname : PlainPart name := plain name (by simp)
  have hfolders : ∀ folder ∈ folders, PlainPart folder := fun folder h => plain folder (List.mem_append_left _ h)
  have hpieces : pieces '/' (lead folders ++ name.toList) = (folders ++ [name]).map String.toList := by
    rw [pieces_lead hfolders hname.whole, List.map_append, List.map_singleton]
  have hkept : ((folders ++ [name]).map String.toList).filter isPart = (folders ++ [name]).map String.toList := by
    refine List.filter_eq_self.2 fun piece hpiece => ?_
    obtain ⟨part, hpart, rfl⟩ := List.mem_map.1 hpiece
    exact (plain part hpart).isPart
  have hstart : (lead folders ++ name.toList).takeWhile (· == '/') = [] := takeWhile_of_pieces fun piece hpiece => by
    rw [hpieces] at hpiece
    obtain ⟨part, hpart, rfl⟩ := List.mem_map.1 (List.mem_of_mem_head? hpiece)
    simpa using (plain part hpart).present
  rw [ofText, String.toList_ofList, hpieces, hkept, hstart, List.map_map]
  simp [PathStart.ofSlashes]

end FilePath

/-! ## Endings of records -/

namespace RecordLayout

theorem isFirm_of_mem_ending (layout : RecordLayout) : ∀ x ∈ layout.ending.toList, IsFirm x := by
  have hall : (layout.ending.toList.all fun x => decide (IsFirm x)) = true := by
    cases layout <;> decide
  exact fun x hx => of_decide_eq_true (List.all_eq_true.1 hall x hx)

theorem slash_notMem_ending (layout : RecordLayout) : '/' ∉ layout.ending.toList := by
  cases layout <;> decide

theorem endsAs_of_ofName? {name : String} {layout : RecordLayout} (h : ofName? name = some layout) :
    EndsAs layout.ending.toList name.toList :=
  (isSuffixOf_lowerCase_iff (isFirm_of_mem_ending layout) name).1 (by simpa using List.find?_some h)

/-- only the name tells the layout of a path -/
theorem ofName?_lead (folders : List String) (name : String) :
    ofName? (String.ofList (lead folders ++ name.toList)) = ofName? name := by
  rcases lead_eq folders with hlead | ⟨cs, hlead⟩
  · rw [hlead, List.nil_append, String.ofList_toList]
  · rw [hlead, ofName?, ofName?]
    refine congrArg (fun p => all.find? p) (funext fun layout => ?_)
    rw [Bool.eq_iff_iff, isSuffixOf_lowerCase_iff (isFirm_of_mem_ending layout),
      isSuffixOf_lowerCase_iff (isFirm_of_mem_ending layout), String.toList_ofList, List.append_assoc]
    exact endsAs_append_iff (slash_notMem_ending layout) rfl cs name.toList

end RecordLayout

/-- the ending of a path is the ending of its name -/
theorem dropEnding_lead (folders : List String) (name : String) :
    dropEnding (String.ofList (lead folders ++ name.toList)) =
      String.ofList (lead folders ++ (dropEnding name).toList) := by
  rw [dropEnding, dropEnding, RecordLayout.ofName?_lead]
  cases hlayout : RecordLayout.ofName? name with
  | none => rfl
  | some layout =>
    have hlength : layout.ending.toList.length ≤ name.toList.length := (RecordLayout.endsAs_of_ofName? hlayout).length_le
    simp only [String.length_toList] at hlength
    have hsize : (lead folders).length + name.length - layout.ending.length =
        (lead folders).length + (name.length - layout.ending.length) := by omega
    simp [hsize, List.take_length_add_append]

theorem dropEnding_subset (name : String) : (dropEnding name).toList ⊆ name.toList := by
  rw [dropEnding]
  split
  · exact List.Subset.refl _
  · simpa using List.take_subset _ _

/-- what can follow the name of a table -/
structure TableEnding (ending : String) : Prop where
  long : 2 < ending.length
  whole : '/' ∉ ending.toList

theorem OutputFormat.tableEnding (format : OutputFormat) : TableEnding format.ending := by
  cases format <;> exact ⟨by decide, by decide⟩

theorem plainPart_append {base ending : String} (hbase : '/' ∉ base.toList) (tail : TableEnding ending) :
    PlainPart (base ++ ending) := by
  have hlong : 2 < (base ++ ending).length := by
    rw [String.length_append]
    exact Nat.lt_add_left _ tail.long
  refine ⟨?_, ?_, ?_, ?_⟩
  · intro h
    simp [h] at hlong
  · intro h
    rw [h] at hlong
    exact absurd hlong (by decide)
  · intro h
    rw [h] at hlong
    exact absurd hlong (by decide)
  · simpa [String.toList_append] using ⟨hbase, tail.whole⟩

/-! ## Files that are found -/

/-- a location as trees have them: ups, and then plain parts -/
def FilePath.IsLocation (p : FilePath) : Prop :=
  ∃ ups names, p.parts = List.replicate ups ".." ++ names ∧ ∀ name ∈ names, PlainPart name

theorem FilePath.isLocation_of_plain {p : FilePath} (plain : ∀ part ∈ p.parts, PlainPart part) : p.IsLocation :=
  ⟨0, p.parts, rfl, plain⟩

/-- a path down from a directory -/
structure FilePath.IsPlace (p : FilePath) : Prop where
  relative : p.isRooted = false
  plain : ∀ part ∈ p.parts, PlainPart part

/-- the path down to a file of records -/
structure FilePath.IsRecordPlace (q : FilePath) : Prop extends q.IsPlace where
  named : (RecordLayout.ofName? q.name).isSome

/-- what is below a directory, and not above it, is reached by plain parts -/
theorem FilePath.isPlace_of_below? {root p q : FilePath} (location : p.IsLocation) (h : root.below? p = some q)
    (down : q.parts.head? ≠ some "..") : q.IsPlace := by
  obtain ⟨ups, names, hparts, plain⟩ := location
  rw [below?] at h
  split at h
  · cases h
    refine ⟨rfl, ?_⟩
    simp only [hparts, List.drop_append, List.drop_replicate, List.length_replicate] at down ⊢
    cases hrest : ups - root.parts.length with
    | zero =>
      rw [List.replicate_zero, List.nil_append]
      exact fun part hpart => plain part (List.mem_of_mem_drop hpart)
    | succ n =>
      rw [hrest] at down
      exact absurd rfl down
  · cases h

namespace FileTree

/-- everything stands at a location -/
def Sound (t : FileTree) : Prop :=
  ∀ e ∈ t.entries, e.1.IsLocation

variable {t : FileTree} {input : FilePath} {files : List FilePath}

theorem isPlace_of_mem_filesBelow (sound : t.Sound) {location q : FilePath} (h : q ∈ t.filesBelow location) : q.IsPlace := by
  rw [filesBelow, sortPaths, List.mem_mergeSort, List.mem_filterMap] at h
  obtain ⟨⟨p, entry⟩, hmem, hq⟩ := h
  cases entry with
  | directory => cases hq
  | file bytes =>
    obtain ⟨hbelow, hdown⟩ := Option.filter_eq_some_iff.1 hq
    exact FilePath.isPlace_of_below? (sound _ hmem) hbelow (by simpa using hdown)

/-- a directory leads to files at plain places below it, anything else at most to itself -/
theorem recordFiles_cases (sound : t.Sound) (found : t.recordFiles input = .ok files) :
    (t.isDirectory input = .ok true ∧
      ∀ f ∈ files, ∃ q : FilePath, q.IsRecordPlace ∧ f = input.join q) ∨
    (t.isDirectory input = .ok false ∧ (files = [] ∨ files = [input])) := by
  rw [recordFiles] at found
  rw [isDirectory]
  cases hlookup : t.lookup input with
  | error e =>
    rw [hlookup] at found
    cases found
  | ok standing =>
    rw [hlookup] at found
    rcases standing with - | ⟨location, bytes | -⟩
    · cases found
      exact Or.inr ⟨rfl, Or.inl rfl⟩
    · cases found
      refine Or.inr ⟨rfl, ?_⟩
      cases hname : (RecordLayout.ofName? input.name).isSome <;> simp [hname]
    · cases found
      refine Or.inl ⟨rfl, fun f hf => ?_⟩
      obtain ⟨q, hq, rfl⟩ := List.mem_map.1 hf
      obtain ⟨hbelow, hname⟩ := List.mem_filter.1 hq
      exact ⟨q, ⟨isPlace_of_mem_filesBelow sound hbelow, hname⟩, rfl⟩

end FileTree

/-! ## Places of tables -/

/-- the place of the table of a file at a place -/
def FilePath.tablePlace (q : FilePath) (ending : String) : FilePath :=
  { parts := q.parts.dropLast ++ [dropEnding q.name ++ ending] }

section

variable {root q r : FilePath}

theorem FilePath.IsPlace.start (place : q.IsPlace) : q.start = .workingDirectory := by
  simpa [isRooted] using place.relative

theorem FilePath.IsPlace.join (place : q.IsPlace) (root : FilePath) :
    root.join q = { root with parts := root.parts ++ q.parts } := by
  rw [FilePath.join, place.relative]
  rfl

theorem FilePath.name_join (relative : q.isRooted = false) (proper : q.parts ≠ []) : (root.join q).name = q.name := by
  rw [name, name, FilePath.join, relative]
  simp [List.getLast?_append_of_ne_nil _ proper]

theorem FilePath.join_inj (hq : q.IsPlace) (hr : r.IsPlace) : root.join q = root.join r ↔ q = r := by
  obtain ⟨qstart, qparts⟩ := q
  obtain ⟨rstart, rparts⟩ := r
  rw [hq.join, hr.join]
  simp [show qstart = rstart from hq.start.trans hr.start.symm]

namespace FilePath.IsRecordPlace

theorem parts_ne_nil (place : q.IsRecordPlace) : q.parts ≠ [] := by
  intro hnil
  have hnone : RecordLayout.ofName? "" = none := rfl
  have hname := place.named
  rw [name, hnil, List.getLast?_nil, Option.getD_none, hnone] at hname
  cases hname

theorem exists_folders (place : q.IsRecordPlace) : ∃ folders name, q.parts = folders ++ [name] :=
  (List.eq_nil_or_concat' q.parts).resolve_left place.parts_ne_nil

theorem name_join (place : q.IsRecordPlace) : (root.join q).name = q.name :=
  FilePath.name_join place.relative place.parts_ne_nil

theorem parent_join_eq_iff (hq : q.IsRecordPlace) (hr : r.IsRecordPlace) :
    (root.join q).parent = (root.join r).parent ↔ q.parent = r.parent := by
  rw [hq.join, hr.join]
  simp [parent, List.dropLast_append_of_ne_nil hq.parts_ne_nil, List.dropLast_append_of_ne_nil hr.parts_ne_nil, hq.start,
    hr.start]

theorem isPlace_tablePlace (place : q.IsRecordPlace) {ending : String} (tail : TableEnding ending) :
    (q.tablePlace ending).IsPlace := by
  refine ⟨rfl, fun part hpart => ?_⟩
  rcases List.mem_append.1 hpart with hfolder | hlast
  · exact place.plain part (List.dropLast_subset _ hfolder)
  · obtain rfl := List.mem_singleton.1 hlast
    obtain ⟨folders, name, hparts⟩ := place.exists_folders
    have hwhole : PlainPart q.name := place.plain q.name (by simp [FilePath.name, hparts])
    exact plainPart_append (fun hslash => hwhole.whole (dropEnding_subset q.name hslash)) tail

/-- one place for two tables means one directory and one name up to the ending -/
theorem tablePlace_eq_iff (hq : q.IsRecordPlace) (hr : r.IsRecordPlace) (ending : String) :
    q.tablePlace ending = r.tablePlace ending ↔
      (root.join q).parent = (root.join r).parent ∧ dropEnding (root.join q).name = dropEnding (root.join r).name := by
  rw [parent_join_eq_iff hq hr, hq.name_join, hr.name_join]
  constructor
  · intro same
    have hparts : q.parts.dropLast ++ [dropEnding q.name ++ ending] =
        r.parts.dropLast ++ [dropEnding r.name ++ ending] := congrArg FilePath.parts same
    obtain ⟨hfolders, hnames⟩ := List.append_inj' hparts (by simp only [List.length_singleton])
    have hlists := congrArg String.toList (List.singleton_inj.1 hnames)
    rw [String.toList_append, String.toList_append] at hlists
    refine ⟨by rw [parent, parent, hfolders, hq.start.trans hr.start.symm], ?_⟩
    rw [← String.toList_inj]
    exact List.append_cancel_right hlists
  · rintro ⟨hparent, hname⟩
    have hfolders : q.parts.dropLast = r.parts.dropLast := congrArg FilePath.parts hparent
    rw [tablePlace, tablePlace, hfolders, hname]

end FilePath.IsRecordPlace

end

namespace FileTree

/-- the table of a file below a directory stands at the place of the file, with another ending -/
theorem outputName_join {t : FileTree} {input q : FilePath} (directory : t.isDirectory input = .ok true)
    (place : q.IsRecordPlace) {ending : String} (tail : TableEnding ending) :
    t.outputName input (input.join q) ending = .ok (q.tablePlace ending) := by
  have hplace : t.placeUnder input (input.join q) = .ok q := by
    rw [placeUnder, directory]
    simp only [Except.bind, if_true, FilePath.below, FilePath.below?_join place.relative]
  have htable := place.isPlace_tablePlace tail
  obtain ⟨start, parts⟩ := q
  obtain ⟨folders, name, rfl⟩ : ∃ folders name, parts = folders ++ [name] := place.exists_folders
  obtain rfl : start = .workingDirectory := place.start
  have hlast : FilePath.name { parts := folders ++ [name] } = name := by simp [FilePath.name]
  have htext : FilePath.text { parts := folders ++ [name] } = String.ofList (lead folders ++ name.toList) :=
    String.toList_injective (by rw [FilePath.text_relative, String.toList_ofList])
  have hdrop : dropEnding (FilePath.text { parts := folders ++ [name] }) ++ ending =
      String.ofList (lead folders ++ (dropEnding name ++ ending).toList) := by
    rw [htext, dropEnding_lead]
    exact String.toList_injective (by simp [String.toList_append])
  simp only [FilePath.tablePlace, hlast, List.dropLast_concat] at htable ⊢
  rw [outputName, hplace, Except.map, hdrop, FilePath.ofText_lead htable.plain]

/-- two files that are found have the place of their tables in common exactly if they have their directory and their name up
to its ending in common -/
theorem destination_eq_iff {t : FileTree} {input : FilePath} {files : List FilePath} (sound : t.Sound)
    (found : t.recordFiles input = .ok files) (output : FilePath) {ending : String} (tail : TableEnding ending)
    {f g : FilePath} (hf : f ∈ files) (hg : g ∈ files) :
    ∃ p q, t.destination input output f ending = .ok p ∧ t.destination input output g ending = .ok q ∧
      (p = q ↔ f.parent = g.parent ∧ dropEnding f.name = dropEnding g.name) := by
  rcases recordFiles_cases sound found with ⟨directory, places⟩ | ⟨other, rfl | rfl⟩
  · obtain ⟨q, hq, rfl⟩ := places f hf
    obtain ⟨r, hr, rfl⟩ := places g hg
    refine ⟨output.join (q.tablePlace ending), output.join (r.tablePlace ending), ?_, ?_, ?_⟩
    · rw [destination, outputName_join directory hq tail]
      rfl
    · rw [destination, outputName_join directory hr tail]
      rfl
    · rw [FilePath.join_inj (hq.isPlace_tablePlace tail) (hr.isPlace_tablePlace tail), hq.tablePlace_eq_iff hr]
  · cases hf
  · obtain rfl := List.mem_singleton.1 hf
    obtain rfl := List.mem_singleton.1 hg
    obtain ⟨p, hp⟩ : ∃ p, t.destination g output g ending = .ok p := by
      rw [destination, outputName, placeUnder, other]
      exact ⟨_, rfl⟩
    exact ⟨p, p, hp, hp, by simp⟩

end FileTree

end Harvest
