/-
Stripped texts, and texts joined by single spaces. Empty texts leave no trace in what is joined, so texts can be joined in groups
first. What is joined from texts without blank characters at their ends has none at its ends either.

- `unpadded_strip`, `strip_eq_empty_iff`: what is left of a text when it is stripped.
- `joined_flatMap`: joining groups, and then what comes of them, is joining all.
- `joined_eq_empty_iff`, `unpadded_joined`: what is joined.
-/
import Harvest.Text.Blank
import Mathlib.Data.List.DropRight

namespace Harvest.Text

/-! ## Stripped texts -/

/-- no blank character stands at either end -/
structure Unpadded (s : String) : Prop where
  first : ∀ c, s.toList.head? = some c → isBlank c = false
  last : ∀ c, s.toList.getLast? = some c → isBlank c = false

theorem stripEnd_eq (cs : List Char) : stripEnd cs = cs.rdropWhile isBlank := by
  induction cs with
  | nil => rfl
  | cons c cs ih =>
    have hstep : stripEnd (c :: cs) = if isBlank c && (stripEnd cs).isEmpty then [] else c :: stripEnd cs := rfl
    rw [hstep, ih, List.rdropWhile, List.rdropWhile, List.reverse_cons, List.dropWhile_append]
    cases hrest : cs.reverse.dropWhile isBlank with
    | nil => cases hc : isBlank c <;> simp [hc]
    | cons d ds => simp

theorem unpadded_strip (s : String) : Unpadded (strip s) := by
  have hchars : (strip s).toList = (s.toList.dropWhile isBlank).rdropWhile isBlank := by
    rw [strip, String.toList_ofList, stripChars, stripEnd_eq]
  refine ⟨fun c hc => ?_, fun c hc => ?_⟩
  · rw [hchars] at hc
    obtain ⟨more, hmore⟩ := List.rdropWhile_prefix isBlank (l := s.toList.dropWhile isBlank)
    have hhead : (s.toList.dropWhile isBlank).head? = some c := by
      rw [← hmore, List.head?_append, hc, Option.some_or]
    have hstop := List.head?_dropWhile_not isBlank s.toList
    rw [hhead] at hstop
    simpa using hstop
  · rw [hchars] at hc
    have hne : (s.toList.dropWhile isBlank).rdropWhile isBlank ≠ [] := by
      rintro hnil
      rw [hnil] at hc
      cases hc
    have hstop := List.rdropWhile_last_not isBlank _ hne
    rw [List.getLast?_eq_some_getLast hne] at hc
    cases hc
    simpa using hstop

theorem strip_eq_empty_iff {s : String} : strip s = "" ↔ allBlank s = true := by
  have hchars : strip s = "" ↔ stripChars s.toList = [] := by
    rw [strip, ← String.toList_inj, String.toList_ofList, String.toList_empty]
  rw [hchars, stripChars, stripEnd_eq, List.rdropWhile_eq_nil_iff, allBlank, List.all_eq_true]
  constructor
  · intro hrest c hc
    rw [← List.takeWhile_append_dropWhile (p := isBlank) (l := s.toList)] at hc
    rcases List.mem_append.1 hc with hc | hc
    · exact List.mem_takeWhile_imp hc
    · exact hrest c hc
  · exact fun hall c hc => hall c ((List.dropWhile_sublist isBlank).subset hc)

/-! ## Joined texts -/

/-- the texts that are not empty, with a single space between each two -/
def joined (parts : List String) : String :=
  " ".intercalate (parts.filter (· != ""))

theorem intercalate_ne_empty {part : String} (present : part ≠ "") (rest : List String) :
    " ".intercalate (part :: rest) ≠ "" := by
  cases rest with
  | nil => simpa using present
  | cons next rest => simp

/-- a text, a space and what is joined from the rest, as far as they are not empty -/
theorem joined_cons (part : String) (rest : List String) :
    joined (part :: rest) =
      if part = "" then joined rest else if joined rest = "" then part else part ++ " " ++ joined rest := by
  by_cases hpart : part = ""
  · simp [joined, hpart]
  · rw [if_neg hpart, joined, joined, List.filter_cons_of_pos (by simpa using hpart)]
    cases hrest : rest.filter (· != "") with
    | nil => simp
    | cons next more =>
      have hnext : next ≠ "" := by
        have hmem : next ∈ rest.filter (· != "") := hrest ▸ List.mem_cons_self
        simpa using (List.mem_filter.1 hmem).2
      rw [if_neg (intercalate_ne_empty hnext more), String.intercalate_cons_cons]

theorem joined_singleton (part : String) : joined [part] = part := by
  have hnil : joined [] = "" := rfl
  rw [joined_cons, hnil, if_pos rfl]
  split
  · exact Eq.symm ‹_›
  · rfl

theorem joined_eq_empty_iff {parts : List String} : joined parts = "" ↔ ∀ part ∈ parts, part = "" := by
  induction parts with
  | nil => simp [joined]
  | cons part rest ih =>
    rw [joined_cons, List.forall_mem_cons, ← ih]
    by_cases hpart : part = ""
    · simp [hpart]
    · by_cases hrest : joined rest = "" <;> simp [hpart, hrest]

/-- what is joined in two groups is joined -/
theorem joined_append (parts more : List String) : joined (parts ++ more) = joined [joined parts, joined more] := by
  induction parts with
  | nil =>
    rw [List.nil_append, joined_cons, joined_singleton]
    rfl
  | cons part rest ih =>
    rw [List.cons_append, joined_cons, ih]
    simp only [joined_cons part rest, joined_cons _ [joined more], joined_singleton]
    by_cases hpart : part = ""
    · simp [hpart]
    · by_cases hrest : joined rest = ""
      · simp [hpart, hrest]
      · by_cases hmore : joined more = "" <;> simp [hpart, hrest, hmore, String.append_assoc]

/-- what is joined in groups is joined -/
theorem joined_flatMap {α : Type} (f : α → List String) (items : List α) :
    joined (items.flatMap f) = joined (items.map fun a => joined (f a)) := by
  induction items with
  | nil => rfl
  | cons a rest ih => rw [List.flatMap_cons, joined_append, ih, List.map_cons, joined_cons, joined_singleton, ← joined_cons]

theorem Unpadded.append {s t : String} (hs : Unpadded s) (ht : Unpadded t) (sne : s ≠ "") (tne : t ≠ "") (u : String) :
    Unpadded (s ++ u ++ t) := by
  have hsne : s.toList ≠ [] := by simpa using sne
  have htne : t.toList ≠ [] := by simpa using tne
  refine ⟨fun c hc => hs.first c ?_, fun c hc => ht.last c ?_⟩
  · rwa [String.toList_append, String.toList_append, List.append_assoc, List.head?_append_of_ne_nil _ hsne] at hc
  · rwa [String.toList_append, List.getLast?_append_of_ne_nil _ htne] at hc

theorem unpadded_joined {parts : List String} (each : ∀ part ∈ parts, Unpadded part) : Unpadded (joined parts) := by
  induction parts with
  | nil => exact ⟨nofun, nofun⟩
  | cons part rest ih =>
    obtain ⟨hpart, hrest⟩ := List.forall_mem_cons.1 each
    rw [joined_cons]
    split
    · exact ih hrest
    · split
      · exact hpart
      · exact hpart.append (ih hrest) ‹_› ‹_› " "

end Harvest.Text
