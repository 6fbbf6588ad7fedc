/-
Endings of texts, whatever their case. In lower case a character is one character, or an `i` and the dot above it, and only a
sigma depends on what surrounds it. So the last characters of a text, one for each of an ending, tell whether the text in
lower case has that ending, if the ending has no sigma and no dot above.

- `LowersTo.endsAs_iff`: the last characters decide, whatever stands around the text.
- `isSuffixOf_lowerCase_iff`: the same for a whole text.
- `lowerCase_eq_iff`: when a text is such an ending and nothing else.
- `endsAs_append_iff`: nothing before a character that the ending lacks matters.
- `endsAs_mark_iff`: what follows the last dot decides about an ending with one dot at its start.
-/
import Harvest.Text.Case
import Mathlib.Data.List.Basic

namespace Harvest.Text

/-- what a character is in lower case, wherever it stands -/
inductive Lowers : Char → List Char → Prop where
  | plain (c : Char) : Lowers c (lowerChar c)
  | sigma (ends : Bool) : Lowers 'Σ' [if ends then 'ς' else 'σ']

/-- what a text is in lower case, inside some other text -/
inductive LowersTo : List Char → List Char → Prop where
  | nil : LowersTo [] []
  | snoc {cs out : List Char} {c : Char} {image : List Char} (before : LowersTo cs out) (last : Lowers c image) :
      LowersTo (cs ++ [c]) (out ++ image)

/-- a character that stands in lower case only where a single character becomes it -/
def IsFirm (x : Char) : Prop :=
  x ≠ '\u0307' ∧ x ≠ 'σ' ∧ x ≠ 'ς'

instance (x : Char) : Decidable (IsFirm x) :=
  inferInstanceAs (Decidable (_ ∧ _))

/-- the last characters are the ending in another case -/
def EndsAs (ending cs : List Char) : Prop :=
  ∃ before last, cs = before ++ last ∧ last.map lowerChar = ending.map fun x => [x]

/-- the first character of a text is put into lower case, and then the rest -/
theorem exists_lowerFrom_cons (before : List Char) (c : Char) (rest : List Char) :
    ∃ image, Lowers c image ∧ lowerFrom before (c :: rest) = image ++ lowerFrom (c :: before) rest := by
  refine ⟨_, ?_, rfl⟩
  split
  · rename_i hsigma
    obtain rfl := beq_iff_eq.1 hsigma
    exact .sigma _
  · exact .plain c

theorem LowersTo.append_lowerFrom {done out : List Char} (h : LowersTo done out) (before cs : List Char) :
    LowersTo (done ++ cs) (out ++ lowerFrom before cs) := by
  induction cs generalizing done out before with
  | nil => simpa [lowerFrom] using h
  | cons c rest ih =>
    obtain ⟨image, hlowers, hfrom⟩ := exists_lowerFrom_cons before c rest
    rw [hfrom, ← List.append_assoc]
    rw [show done ++ c :: rest = done ++ [c] ++ rest by simp]
    exact ih (h.snoc hlowers) (c :: before)

theorem lowersTo_lowerFrom (before cs : List Char) : LowersTo cs (lowerFrom before cs) :=
  LowersTo.nil.append_lowerFrom before cs

/-! ## Single characters -/

theorem expansion_eq {n : Nat} {codes : List Nat} (h : lowerExpansions.lookup n = some codes) : codes = [0x69, 0x307] := by
  obtain ⟨before, after, hsplit, -⟩ := List.lookup_eq_some_iff.1 h
  have hmem : (n, codes) ∈ lowerExpansions := hsplit ▸ List.mem_append_right _ List.mem_cons_self
  exact (Prod.mk.inj (List.mem_singleton.1 hmem)).2

theorem lowerChar_eq (c : Char) : (∃ x, lowerChar c = [x]) ∨ lowerChar c = ['i', '\u0307'] := by
  rw [lowerChar, mapCase]
  split
  · rename_i codes hcodes
    obtain rfl := expansion_eq hcodes
    exact Or.inr rfl
  · exact Or.inl ⟨_, rfl⟩

theorem Lowers.eq {c : Char} {image : List Char} (h : Lowers c image) :
    (∃ x, image = [x] ∧ (IsFirm x → lowerChar c = [x])) ∨ image = ['i', '\u0307'] := by
  cases h with
  | plain c =>
    rcases lowerChar_eq c with ⟨x, hx⟩ | hdot
    · exact Or.inl ⟨x, hx, fun _ => hx⟩
    · exact Or.inr hdot
  | sigma ends =>
    refine Or.inl ⟨_, rfl, fun firm => ?_⟩
    cases ends
    · exact absurd rfl firm.2.1
    · exact absurd rfl firm.2.2

theorem Lowers.eq_of_lowerChar {c x : Char} {image : List Char} (h : Lowers c image) (hx : lowerChar c = [x])
    (firm : IsFirm x) : image = [x] := by
  cases h with
  | plain c => exact hx
  | sigma ends =>
    have hsigma : lowerChar 'Σ' = ['σ'] := rfl
    rw [hsigma] at hx
    exact absurd (List.singleton_inj.1 hx).symm firm.2.1

/-! ## Endings -/

theorem LowersTo.endsAs_of_suffix {cs out ending : List Char} (h : LowersTo cs out) (firm : ∀ x ∈ ending, IsFirm x)
    (suffix : ending <:+ out) : EndsAs ending cs := by
  induction h generalizing ending with
  | nil =>
    obtain rfl := List.suffix_nil.1 suffix
    exact ⟨[], [], rfl, rfl⟩
  | @snoc cs out c image before last ih =>
    rcases List.eq_nil_or_concat' ending with rfl | ⟨front, x, rfl⟩
    · exact ⟨cs ++ [c], [], by simp, rfl⟩
    · have hx : IsFirm x := firm x (by simp)
      obtain ⟨lead, hlead⟩ := suffix
      rw [← List.append_assoc] at hlead
      rcases last.eq with ⟨y, rfl, hy⟩ | rfl
      · obtain ⟨hfront, hlast⟩ := List.append_inj' hlead rfl
        obtain rfl := List.singleton_inj.1 hlast
        obtain ⟨start, rest, rfl, hrest⟩ := ih (fun z hz => firm z (List.mem_append_left _ hz)) ⟨lead, hfront⟩
        exact ⟨start, rest ++ [c], by simp, by simp [hrest, hy hx]⟩
      · rw [show out ++ ['i', '\u0307'] = (out ++ ['i']) ++ ['\u0307'] by simp] at hlead
        obtain ⟨-, hlast⟩ := List.append_inj' hlead rfl
        exact absurd (List.singleton_inj.1 hlast) hx.1

theorem LowersTo.suffix_of_endsAs {cs out ending : List Char} (h : LowersTo cs out) (firm : ∀ x ∈ ending, IsFirm x)
    (ends : EndsAs ending cs) : ending <:+ out := by
  obtain ⟨start, last, hcs, hlast⟩ := ends
  induction h generalizing ending last with
  | nil =>
    obtain ⟨-, rfl⟩ := List.append_eq_nil_iff.1 hcs.symm
    obtain rfl := List.map_eq_nil_iff.1 hlast.symm
    exact List.nil_suffix
  | @snoc cs out c image before lastImage ih =>
    rcases List.eq_nil_or_concat' ending with rfl | ⟨front, x, rfl⟩
    · exact List.nil_suffix
    · rcases List.eq_nil_or_concat' last with rfl | ⟨rest, d, rfl⟩
      · simp at hlast
      · rw [← List.append_assoc] at hcs
        obtain ⟨hrest, hd⟩ := List.append_inj' hcs rfl
        obtain rfl := List.singleton_inj.1 hd
        rw [List.map_append, List.map_append] at hlast
        obtain ⟨hfront, hx⟩ := List.append_inj' hlast rfl
        obtain rfl := lastImage.eq_of_lowerChar (List.singleton_inj.1 hx) (firm x (by simp))
        obtain ⟨lead, rfl⟩ := ih (fun z hz => firm z (List.mem_append_left _ hz)) rest hrest hfront
        exact ⟨lead, by simp⟩

/-- the last characters decide, whatever stands around the text -/
theorem LowersTo.endsAs_iff {cs out ending : List Char} (h : LowersTo cs out) (firm : ∀ x ∈ ending, IsFirm x) :
    ending <:+ out ↔ EndsAs ending cs :=
  ⟨h.endsAs_of_suffix firm, h.suffix_of_endsAs firm⟩

/-- a text is another one in lower case exactly if each of its characters is the other's in lower case -/
theorem lowerFrom_eq_iff {word : List Char} (firm : ∀ x ∈ word, IsFirm x) (before cs : List Char) :
    lowerFrom before cs = word ↔ cs.map lowerChar = word.map fun x => [x] := by
  induction cs generalizing before word with
  | nil => rw [lowerFrom, List.map_nil, eq_comm, eq_comm (a := []), List.map_eq_nil_iff]
  | cons c rest ih =>
    obtain ⟨image, hlowers, hfrom⟩ := exists_lowerFrom_cons before c rest
    rw [hfrom]
    cases word with
    | nil => rcases hlowers.eq with ⟨y, rfl, -⟩ | rfl <;> simp
    | cons x xs =>
      obtain ⟨hx, hxs⟩ := List.forall_mem_cons.1 firm
      rw [List.map_cons, List.map_cons, List.cons.injEq, ← ih hxs (c :: before)]
      constructor
      · intro h
        rcases hlowers.eq with ⟨y, rfl, hy⟩ | rfl
        · obtain ⟨rfl, hrest⟩ := List.cons.inj h
          exact ⟨hy hx, hrest⟩
        · obtain ⟨-, hrest⟩ := List.cons.inj h
          exact absurd rfl (hxs '\u0307' (hrest ▸ List.mem_cons_self)).1
      · rintro ⟨hc, hrest⟩
        rw [hlowers.eq_of_lowerChar hc hx, hrest]
        rfl

theorem lowerCase_eq_iff {word : String} (firm : ∀ x ∈ word.toList, IsFirm x) (s : String) :
    lowerCase s = word ↔ s.toList.map lowerChar = word.toList.map fun x => [x] := by
  rw [← lowerFrom_eq_iff firm [], lowerCase, ← String.toList_inj, String.toList_ofList]

theorem isSuffixOf_lowerCase_iff {ending : List Char} (firm : ∀ x ∈ ending, IsFirm x) (s : String) :
    ending.isSuffixOf (lowerCase s).toList = true ↔ EndsAs ending s.toList := by
  rw [List.isSuffixOf_iff_suffix, lowerCase, String.toList_ofList]
  exact (lowersTo_lowerFrom [] s.toList).endsAs_iff firm

/-- without the ending, what stands before it is left -/
theorem EndsAs.length_le {ending cs : List Char} (h : EndsAs ending cs) : ending.length ≤ cs.length := by
  obtain ⟨before, last, rfl, hlast⟩ := h
  have hlength := congrArg List.length hlast
  simp only [List.length_map] at hlength
  simp [← hlength]

/-! ## Marks -/

/-- a character that only itself becomes in lower case -/
def IsMark (mark : Char) : Prop :=
  ∀ c, lowerChar c = [mark] ↔ c = mark

theorem notMem_of_map {mark : Char} (stays : lowerChar mark = [mark]) {cs word : List Char} (absent : mark ∉ word)
    (h : cs.map lowerChar = word.map fun x => [x]) : mark ∉ cs := by
  intro hmem
  have hmap : [mark] ∈ word.map fun x => [x] := h ▸ List.mem_map.2 ⟨mark, hmem, stays⟩
  obtain ⟨x, hx, same⟩ := List.mem_map.1 hmap
  exact absent (List.singleton_inj.1 same ▸ hx)

/-- nothing before a character that the ending lacks matters -/
theorem endsAs_append_iff {ending : List Char} {mark : Char} (absent : mark ∉ ending) (stays : lowerChar mark = [mark])
    (lead cs : List Char) : EndsAs ending (lead ++ mark :: cs) ↔ EndsAs ending cs := by
  constructor
  · rintro ⟨before, last, hsplit, hlast⟩
    have hmark : mark ∉ last := notMem_of_map stays absent hlast
    rcases List.append_eq_append_iff.1 hsplit with ⟨more, -, hmore⟩ | ⟨more, -, rfl⟩
    · rcases List.cons_eq_append_iff.1 hmore with ⟨-, rfl⟩ | ⟨rest, -, rfl⟩
      · exact absurd List.mem_cons_self hmark
      · exact ⟨rest, last, rfl, hlast⟩
    · exact absurd (List.mem_append_right more List.mem_cons_self) hmark
  · rintro ⟨before, last, rfl, hlast⟩
    exact ⟨lead ++ mark :: before, last, by simp, hlast⟩

/-- what follows the last mark is told by the whole -/
theorem eq_of_append_mark {α : Type} {mark : α} {before lead after rest : List α} (hafter : mark ∉ after)
    (hrest : mark ∉ rest) (h : before ++ mark :: after = lead ++ mark :: rest) : after = rest := by
  rcases List.append_eq_append_iff.1 h with ⟨more, -, hmore⟩ | ⟨more, -, hmore⟩
  · rcases List.cons_eq_append_iff.1 hmore with ⟨-, hsame⟩ | ⟨inner, -, rfl⟩
    · exact (List.cons.inj hsame).2.symm
    · exact absurd (List.mem_append_right inner List.mem_cons_self) hafter
  · rcases List.cons_eq_append_iff.1 hmore with ⟨-, hsame⟩ | ⟨inner, -, rfl⟩
    · exact (List.cons.inj hsame).2
    · exact absurd (List.mem_append_right inner List.mem_cons_self) hrest

section

variable {mark : Char} {word : List Char} (only : IsMark mark) (absent : mark ∉ word)

include only absent

/-- only what follows the last mark can be an ending that starts with the mark -/
theorem endsAs_mark_iff {after : List Char} (last : mark ∉ after) (before : List Char) :
    EndsAs (mark :: word) (before ++ mark :: after) ↔ after.map lowerChar = word.map fun x => [x] := by
  constructor
  · rintro ⟨lead, tail, hsplit, htail⟩
    obtain ⟨c, rest, rfl, hc, hrest⟩ := List.map_eq_cons_iff.1 htail
    obtain rfl := (only c).1 hc
    obtain rfl := eq_of_append_mark last (notMem_of_map hc absent hrest) hsplit
    exact hrest
  · intro h
    exact ⟨before, mark :: after, rfl, by rw [List.map_cons, List.map_cons, h, (only mark).2 rfl]⟩

theorem not_endsAs_mark {cs : List Char} (h : mark ∉ cs) : ¬EndsAs (mark :: word) cs := by
  rintro ⟨lead, tail, rfl, htail⟩
  obtain ⟨c, rest, rfl, hc, -⟩ := List.map_eq_cons_iff.1 htail
  obtain rfl := (only c).1 hc
  exact h (List.mem_append_right lead List.mem_cons_self)

end

/-- the images of runs lie above the dot -/
theorem dot_lt_of_mem_lowerRuns : ∀ run ∈ lowerRuns, ('.'.toNat : Int) < run.first + run.shift := by
  decide +kernel

theorem CaseRun.dot_lt_of_image {run : CaseRun} (hrun : run ∈ lowerRuns) {n image : Nat} (h : run.apply? n = some image) :
    '.'.toNat < image := by
  have habove := dot_lt_of_mem_lowerRuns run hrun
  unfold CaseRun.apply? at h
  split at h
  · rename_i inside
    obtain rfl := Option.some.inj h
    simp only [Bool.and_eq_true, decide_eq_true_eq] at inside
    omega
  · cases h

theorem toNat_eq_of_ofNat {n : Nat} {c : Char} (h : Char.ofNat n = c) (present : c.toNat ≠ 0) : n = c.toNat := by
  by_cases valid : n.isValidChar
  · have hchar : Char.ofNat n = Char.ofNatAux n valid := dif_pos valid
    exact congrArg Char.toNat (hchar.symm.trans h)
  · have hzero : Char.ofNat n = '\x00' := dif_neg valid
    exact absurd (congrArg Char.toNat (h.symm.trans hzero)) present

theorem isMark_dot : IsMark '.' := by
  refine fun c => ⟨fun h => ?_, by rintro rfl; rfl⟩
  rw [lowerChar, mapCase] at h
  split at h
  · rename_i codes hcodes
    obtain rfl := expansion_eq hcodes
    cases h
  · have hc := List.singleton_inj.1 h
    cases hfound : lowerRuns.findSome? fun run => run.apply? c.toNat with
    | none => rwa [hfound] at hc
    | some image =>
      rw [hfound] at hc
      obtain ⟨run, hrun, happly⟩ := List.exists_of_findSome?_eq_some hfound
      have habove := CaseRun.dot_lt_of_image hrun happly
      exact absurd (toNat_eq_of_ofNat hc (by decide)) (Nat.ne_of_gt habove)

end Harvest.Text
