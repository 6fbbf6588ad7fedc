/-
The ends of the names of files. A file is found if its name has the ending of a layout, the ending is dropped from its path when its
table is named, and the extension of its name tells how it is read. An extension is what stands from the last dot on, and there is none
where nothing stands before the dot. So all three agree, but for names that are an ending and nothing else.

- `RecordLayout.ofExtension?_extension`: the layout that the extension of a name tells is the one that its ending tells.
- `dropEnding_text_ne_iff`: the ending of a path is dropped iff its name has one.
- `FileTree.mem_recordFiles_iff`: the files that are found are those whose names have an ending.
-/
import Harvest.Proofs.Files.Destination
import Harvest.Proofs.Results
import Mathlib.Data.List.TakeWhile

namespace Harvest

open Harvest.Text

/-! ## Extensions -/

theorem exists_last_mark {α : Type} {mark : α} {cs : List α} (h : mark ∈ cs) :
    ∃ before after, cs = before ++ mark :: after ∧ mark ∉ after := by
  obtain ⟨after, before, hsplit, hafter⟩ := List.eq_append_cons_of_mem (List.mem_reverse.2 h)
  refine ⟨before.reverse, after.reverse, ?_, by simpa using hafter⟩
  rw [← List.reverse_reverse cs, hsplit]
  simp

namespace FilePath

theorem undotted {cs : List Char} (h : '.' ∉ cs) : ∀ c ∈ cs.reverse, (c != '.') = true :=
  fun _ hc => bne_iff_ne.2 fun same => h (same ▸ List.mem_reverse.1 hc)

theorem extensionOf_of_notMem {cs : List Char} (h : '.' ∉ cs) : extensionOf cs = [] := by
  rw [extensionOf, List.dropWhile_eq_nil_iff.2 (undotted h)]

/-- the extension starts at the last dot, unless nothing stands before or after it -/
theorem extensionOf_append (before : List Char) {after : List Char} (last : '.' ∉ after) :
    extensionOf (before ++ '.' :: after) = if after.isEmpty || before.isEmpty then [] else '.' :: after := by
  have hreverse : (before ++ '.' :: after).reverse = after.reverse ++ '.' :: before.reverse := by simp
  rw [extensionOf, hreverse, List.takeWhile_append_of_pos (undotted last), List.dropWhile_append_of_pos (undotted last)]
  simp

end FilePath

/-! ## Layouts -/

namespace RecordLayout

/-- the name is the ending of a layout and nothing else, whatever its case -/
def isBare (name : String) : Bool :=
  (ofExtension? name).isSome

/-- an ending is a dot and a word without one -/
theorem exists_word (layout : RecordLayout) : ∃ word, layout.ending.toList = '.' :: word ∧ '.' ∉ word := by
  cases layout <;> exact ⟨_, rfl, by decide⟩

theorem ending_eq_lowerCase_iff {layout : RecordLayout} {s : String} :
    layout.ending = lowerCase s ↔ s.toList.map lowerChar = layout.ending.toList.map fun x => [x] := by
  rw [eq_comm, lowerCase_eq_iff (isFirm_of_mem_ending layout)]

theorem spelled_of_ofExtension? {s : String} {layout : RecordLayout} (h : ofExtension? s = some layout) :
    s.toList.map lowerChar = layout.ending.toList.map fun x => [x] :=
  ending_eq_lowerCase_iff.1 (by simpa using List.find?_some h)

theorem isSome_ofName?_iff {name : String} :
    (ofName? name).isSome = true ↔ ∃ layout : RecordLayout, EndsAs layout.ending.toList name.toList := by
  rw [ofName?, List.find?_isSome]
  constructor
  · rintro ⟨layout, -, h⟩
    exact ⟨layout, (isSuffixOf_lowerCase_iff (isFirm_of_mem_ending layout) name).1 h⟩
  · rintro ⟨layout, h⟩
    exact ⟨layout, by cases layout <;> decide, (isSuffixOf_lowerCase_iff (isFirm_of_mem_ending layout) name).2 h⟩

theorem ofName?_eq_none {name : String} (h : '.' ∉ name.toList) : ofName? name = none := by
  refine List.find?_eq_none.2 fun layout _ => ?_
  obtain ⟨word, hword, absent⟩ := layout.exists_word
  rw [isSuffixOf_lowerCase_iff (isFirm_of_mem_ending layout), hword]
  exact not_endsAs_mark isMark_dot absent h

/-- what stands from the last dot on is the ending of a layout iff the name ends so -/
theorem ofExtension?_eq_ofName? (before : List Char) {after : List Char} (last : '.' ∉ after) :
    ofExtension? (String.ofList ('.' :: after)) = ofName? (String.ofList (before ++ '.' :: after)) := by
  rw [ofExtension?, ofName?]
  refine congrArg (fun p => all.find? p) (funext fun layout => ?_)
  obtain ⟨word, hword, absent⟩ := layout.exists_word
  rw [Bool.eq_iff_iff, beq_iff_eq, ending_eq_lowerCase_iff, isSuffixOf_lowerCase_iff (isFirm_of_mem_ending layout), hword,
    String.toList_ofList, String.toList_ofList, endsAs_mark_iff isMark_dot absent last, List.map_cons, List.map_cons,
    (isMark_dot '.').2 rfl, List.cons.injEq]
  exact and_iff_right rfl

/-- only a name that starts with its last dot is nothing but an ending -/
theorem isBare_append (c : Char) (before : List Char) (after : List Char) :
    isBare (String.ofList (c :: before ++ '.' :: after)) = false := by
  refine Bool.eq_false_iff.2 fun bare => ?_
  obtain ⟨layout, hlayout⟩ := Option.isSome_iff_exists.1 bare
  obtain ⟨word, hword, absent⟩ := layout.exists_word
  have hspelled := spelled_of_ofExtension? hlayout
  rw [String.toList_ofList, hword, List.cons_append, List.map_cons, List.map_cons, List.cons.injEq] at hspelled
  exact notMem_of_map ((isMark_dot '.').2 rfl) absent hspelled.2 (by simp)

/-- the layout that the extension of a name tells is the one that its ending tells, unless the name is nothing but an ending -/
theorem ofExtension?_extension (name : String) :
    ofExtension? (String.ofList (FilePath.extensionOf name.toList)) = if isBare name then none else ofName? name := by
  have hempty : ofExtension? (String.ofList []) = none := rfl
  by_cases hdot : '.' ∈ name.toList
  · obtain ⟨before, after, hsplit, last⟩ := exists_last_mark hdot
    obtain rfl : name = String.ofList (before ++ '.' :: after) := String.toList_injective (by rw [hsplit, String.toList_ofList])
    rw [String.toList_ofList, FilePath.extensionOf_append before last]
    cases before with
    | nil =>
      have hname := ofExtension?_eq_ofName? [] last
      rw [List.isEmpty_nil, Bool.or_true, if_pos rfl, hempty, isBare, ← hname, List.nil_append]
      cases ofExtension? (String.ofList ('.' :: after)) <;> rfl
    | cons c before =>
      rw [isBare_append, ← ofExtension?_eq_ofName? (c :: before) last]
      cases after with
      | nil => rfl
      | cons d after => rfl
  · rw [FilePath.extensionOf_of_notMem hdot, hempty, ofName?_eq_none hdot, ite_self]

/-- a name that is nothing but an ending has that ending -/
theorem isSome_ofName?_of_isBare {name : String} (bare : isBare name = true) : (ofName? name).isSome = true := by
  obtain ⟨layout, hlayout⟩ := Option.isSome_iff_exists.1 bare
  exact isSome_ofName?_iff.2 ⟨layout, [], name.toList, rfl, spelled_of_ofExtension? hlayout⟩

end RecordLayout

/-! ## Endings of paths -/

theorem dropEnding_ne_iff {text : String} : dropEnding text ≠ text ↔ (RecordLayout.ofName? text).isSome := by
  rw [dropEnding]
  cases hlayout : RecordLayout.ofName? text with
  | none => simp
  | some layout =>
    refine iff_of_true (fun same => ?_) rfl
    have hlength : layout.ending.toList.length ≤ text.toList.length := (RecordLayout.endsAs_of_ofName? hlayout).length_le
    have hending : 0 < layout.ending.toList.length := by cases layout <;> decide
    have htaken := congrArg (fun s => s.toList.length) same
    simp only [String.toList_ofList, List.length_take, String.length_toList] at hlength hending htaken
    omega

namespace FilePath

theorem exists_lead (start : PathStart) : ∃ outer, start.text.toList = lead outer := by
  cases start with
  | workingDirectory => exact ⟨[], rfl⟩
  | top => exact ⟨[""], rfl⟩
  | twoSlashes => exact ⟨["", ""], rfl⟩

/-- only the name tells the layout of a path -/
theorem ofName?_text (p : FilePath) : RecordLayout.ofName? p.text = RecordLayout.ofName? p.name := by
  obtain ⟨start, parts⟩ := p
  rcases List.eq_nil_or_concat' parts with rfl | ⟨folders, name, rfl⟩
  · cases start <;> rfl
  · obtain ⟨outer, houter⟩ := exists_lead start
    have htext : text ⟨start, folders ++ [name]⟩ = String.ofList (lead (outer ++ folders) ++ name.toList) := by
      have hjoined := toList_intercalate_slash folders name
      refine String.toList_injective ?_
      rw [text, if_neg (by simp), String.toList_append, houter, hjoined, String.toList_ofList, lead, lead, lead,
        List.flatMap_append, List.append_assoc]
    rw [htext, RecordLayout.ofName?_lead, FilePath.name, List.getLast?_concat, Option.getD_some]

/-- the ending of a path is dropped iff its name has one -/
theorem dropEnding_text_ne_iff (p : FilePath) : dropEnding p.text ≠ p.text ↔ (RecordLayout.ofName? p.name).isSome := by
  rw [dropEnding_ne_iff, ofName?_text]

end FilePath

/-! ## Files that are found -/

namespace FileTree

variable {t : FileTree} {input file : FilePath} {files : List FilePath}

/-- the input is the file, or a directory with the file inside -/
inductive LeadsTo (t : FileTree) (input : FilePath) : FilePath → Prop
  | itself {location : FilePath} {bytes : List UInt8} (file : t.lookup input = .ok (some (location, .file bytes))) :
      LeadsTo t input input
  | inside {location q : FilePath} (directory : t.lookup input = .ok (some (location, .directory)))
      (below : q ∈ t.filesBelow location) (proper : q.parts ≠ []) : LeadsTo t input (input.join q)

theorem isRooted_of_mem_filesBelow {location q : FilePath} (h : q ∈ t.filesBelow location) : q.isRooted = false := by
  rw [filesBelow, sortPaths, List.mem_mergeSort, List.mem_filterMap] at h
  obtain ⟨⟨p, entry⟩, -, hq⟩ := h
  cases entry with
  | directory => cases hq
  | file bytes =>
    obtain ⟨hbelow, -⟩ := Option.filter_eq_some_iff.1 hq
    rw [FilePath.below?] at hbelow
    split at hbelow
    · cases hbelow
      rfl
    · cases hbelow

/-- the files that are found are those whose names have the ending of a layout -/
theorem mem_recordFiles_iff (found : t.recordFiles input = .ok files) :
    file ∈ files ↔ t.LeadsTo input file ∧ (RecordLayout.ofName? file.name).isSome = true := by
  obtain ⟨standing, hlookup, rfl⟩ := exists_of_map found
  rcases standing with - | ⟨location, bytes | -⟩
  · refine iff_of_false List.not_mem_nil ?_
    rintro ⟨itself | inside, -⟩
    · cases hlookup.symm.trans ‹_›
    · cases hlookup.symm.trans ‹_›
  · simp only [List.mem_filter, List.mem_singleton]
    refine and_congr_left fun _ => ⟨?_, fun leads => ?_⟩
    · rintro rfl
      exact .itself hlookup
    · cases leads with
      | itself => rfl
      | inside directory => cases hlookup.symm.trans directory
  · simp only [List.mem_map, List.mem_filter]
    constructor
    · rintro ⟨q, ⟨hbelow, hname⟩, rfl⟩
      have hproper : q.parts ≠ [] := by
        intro hnil
        rw [FilePath.name, hnil] at hname
        cases hname
      refine ⟨.inside hlookup hbelow hproper, ?_⟩
      rwa [FilePath.name_join (isRooted_of_mem_filesBelow hbelow) hproper]
    · rintro ⟨leads, hname⟩
      cases leads with
      | itself file => cases hlookup.symm.trans file
      | @inside location' q directory hbelow hproper =>
        cases hlookup.symm.trans directory
        rw [FilePath.name_join (isRooted_of_mem_filesBelow hbelow) hproper] at hname
        exact ⟨q, ⟨hbelow, hname⟩, rfl⟩

/-- the place of a file under the input ends in the name of the file -/
theorem LeadsTo.exists_place (leads : t.LeadsTo input file) :
    ∃ place, t.placeUnder input file = .ok place ∧ place.name = file.name := by
  cases leads with
  | itself file =>
    refine ⟨_, by rw [placeUnder, isDirectory, file]; rfl, ?_⟩
    simp only [FilePath.name]
    cases input.parts.getLast? <;> rfl
  | @inside location q directory below proper =>
    have hrelative := isRooted_of_mem_filesBelow below
    refine ⟨q, ?_, (FilePath.name_join hrelative proper).symm⟩
    rw [placeUnder, isDirectory, directory]
    simp only [Except.map, Except.bind, if_true, FilePath.below, FilePath.below?_join hrelative]

end FileTree

end Harvest
