/-
Cutting texts at a character, and at the ends.
-/
namespace Harvest.Text

/-- characters with a property, up to a first one without it -/
theorem takeWhile_append_ends {p : Char → Bool} {cs : List Char} (all : ∀ c ∈ cs, p c = true) (rest : List Char)
    (ends : ∀ c ∈ rest.head?, p c = false) : (cs ++ rest).takeWhile p = cs ∧ (cs ++ rest).dropWhile p = rest := by
  rw [List.takeWhile_append_of_pos all, List.dropWhile_append_of_pos all]
  cases rest with
  | nil => simp
  | cons c rest =>
    have hc : p c = false := ends c rfl
    simp [hc]

/-- what stands before and after the first occurrence of a character -/
def cutFirst? (mark : Char) (cs : List Char) : Option (List Char × List Char) :=
  match cs.dropWhile (· != mark) with
  | [] => none
  | _ :: after => some (cs.takeWhile (· != mark), after)

theorem dropWhile_ne_eq_nil_iff {mark : Char} {cs : List Char} : cs.dropWhile (· != mark) = [] ↔ mark ∉ cs := by
  induction cs with
  | nil => simp
  | cons c cs ih =>
    by_cases h : c = mark
    · simp [h]
    · have hne : ¬mark = c := fun e => h e.symm
      simp [h, hne, ih]

theorem cutFirst?_eq_none_iff {mark : Char} {cs : List Char} : cutFirst? mark cs = none ↔ mark ∉ cs := by
  rw [← dropWhile_ne_eq_nil_iff, cutFirst?]
  split <;> simp_all

/-- the two parts and the mark make up the text, and the first part lacks the mark -/
theorem eq_of_cutFirst? {mark : Char} {cs before after : List Char} (h : cutFirst? mark cs = some (before, after)) :
    cs = before ++ mark :: after ∧ mark ∉ before := by
  unfold cutFirst? at h
  split at h
  · cases h
  · rename_i c rest hd
    obtain ⟨rfl, rfl⟩ : cs.takeWhile (· != mark) = before ∧ rest = after := by simpa using h
    have hc : c = mark := by
      have := List.head?_dropWhile_not (· != mark) cs
      rw [hd] at this
      simpa using this
    refine ⟨?_, fun hm => ?_⟩
    · conv => lhs; rw [← List.takeWhile_append_dropWhile (p := (· != mark)) (l := cs), hd, hc]
    · have := List.all_takeWhile (p := (· != mark)) (l := cs)
      rw [List.all_eq_true] at this
      simpa using this mark hm

/-- what lacks the mark stands before its first occurrence -/
theorem cutFirst?_append {mark : Char} {before : List Char} (absent : mark ∉ before) (after : List Char) :
    cutFirst? mark (before ++ mark :: after) = some (before, after) := by
  have hbefore : ∀ c ∈ before, (c != mark) = true := fun c hc => bne_iff_ne.2 fun same => absent (same ▸ hc)
  rw [cutFirst?, List.dropWhile_append_of_pos hbefore, List.takeWhile_append_of_pos hbefore]
  simp

/-- the parts of a text between the occurrences of a character; there is always one part more than occurrences -/
def pieces (mark : Char) : List Char → List (List Char)
  | [] => [[]]
  | c :: rest =>
    if c == mark then [] :: pieces mark rest
    else
      match pieces mark rest with
      | [] => [[c]]
      | piece :: others => (c :: piece) :: others

theorem pieces_of_notMem {mark : Char} {cs : List Char} (absent : mark ∉ cs) : pieces mark cs = [cs] := by
  induction cs with
  | nil => rfl
  | cons c cs ih =>
    obtain ⟨hc, hcs⟩ : mark ≠ c ∧ mark ∉ cs := by simpa using absent
    simp [pieces, Ne.symm hc, ih hcs]

theorem pieces_append {mark : Char} {cs : List Char} (absent : mark ∉ cs) (after : List Char) :
    pieces mark (cs ++ mark :: after) = cs :: pieces mark after := by
  induction cs with
  | nil => simp [pieces]
  | cons c cs ih =>
    obtain ⟨hc, hcs⟩ : mark ≠ c ∧ mark ∉ cs := by simpa using absent
    simp [pieces, Ne.symm hc, ih hcs]

/-- a text whose first part is not empty does not begin with the mark -/
theorem takeWhile_of_pieces {mark : Char} {cs : List Char} (h : ∀ piece ∈ (pieces mark cs).head?, piece ≠ []) :
    cs.takeWhile (· == mark) = [] := by
  cases cs with
  | nil => rfl
  | cons c cs =>
    have hc : c ≠ mark := by
      rintro rfl
      exact h [] (by simp [pieces]) rfl
    simp [hc]

/-- the parts of a text between its spaces and line ends, without the empty ones -/
def words (cs : List Char) : List (List Char) :=
  (pieces ' ' (cs.map fun c => if c == '\n' then ' ' else c)).filter (!·.isEmpty)

/-- a text occurs in another one -/
def isPart (part whole : List Char) : Bool :=
  part.isPrefixOf whole ||
    match whole with
    | [] => false
    | _ :: rest => isPart part rest

end Harvest.Text
