/-
How much of a text a reader takes, and how much fuel that costs. Each reader takes at least one character, and two steps of
fuel for each character taken are enough, so what was read with some fuel is read with any fuel that suffices for the
characters taken.

- `characters_of_read`: a string is read with a step for each of its characters.
- `front_of_read`: a value, the items of a list and the entries of a mapping are read with two steps for each character.
- `read_ne_str`: no text is read as itself.
-/
import Harvest.Proofs.Json.Steps

namespace Harvest.Number.Numeral

open Harvest.Text

theorem length_splitFraction (cs : List Char) : (splitFraction cs).2.length ≤ cs.length := by
  unfold splitFraction
  split
  · split
    · exact Nat.le_refl _
    · exact Nat.le_succ_of_le ((List.dropWhile_suffix _).length_le)
  · exact Nat.le_refl _

theorem length_exponentDigits {negative : Bool} {cs rest : List Char} {e : Int}
    (h : exponentDigits negative cs = some (e, rest)) : rest.length ≤ cs.length := by
  unfold exponentDigits at h
  split at h
  · cases h
  · cases h
    exact (List.dropWhile_suffix _).length_le

theorem length_splitExponent (cs : List Char) : (splitExponent cs).2.length ≤ cs.length := by
  unfold splitExponent
  simp only
  split
  · rename_i e rest found
    split at found
    · cases found
    · split at found
      · rw [List.length_cons]
        split at found
        all_goals
          have hrest := length_exponentDigits found
          simp only [List.length_cons]
          omega
      · cases found
  · exact Nat.le_refl _

theorem length_splitWhole {cs whole rest : List Char} (h : splitWhole cs = some (whole, rest)) :
    rest.length < cs.length := by
  unfold splitWhole at h
  split at h
  · cases h
  · split at h
    · cases h
      exact Nat.lt_succ_self _
    · split at h
      · cases h
        exact Nat.lt_succ_of_le ((List.dropWhile_suffix _).length_le)
      · cases h

theorem length_splitUnsigned {negative : Bool} {cs rest : List Char} {n : Numeral}
    (h : splitUnsigned negative cs = some (n, rest)) : rest.length < cs.length := by
  unfold splitUnsigned at h
  split at h
  · cases h
  · rename_i whole more hwhole
    have hrest : rest = (splitExponent (splitFraction more).2).2 := by
      cases h
      rfl
    have hfirst := length_splitWhole hwhole
    have hfraction := length_splitFraction more
    have hexponent := length_splitExponent (splitFraction more).2
    rw [hrest]
    omega

theorem length_split {cs rest : List Char} {n : Numeral} (h : split cs = some (n, rest)) : rest.length < cs.length := by
  unfold split at h
  split at h
  · exact Nat.lt_succ_of_lt (length_splitUnsigned h)
  · exact length_splitUnsigned h

end Harvest.Number.Numeral

namespace Harvest.Json

open Harvest.Number Harvest.Text

/-! ## Scalars -/

theorem exists_word {cs rest : List Char} {d : Data} (h : readWord? cs = some (d, rest)) :
    ∃ w ∈ words, w.1.isPrefixOf cs = true ∧ d = w.2 ∧ rest = cs.drop w.1.length := by
  obtain ⟨w, hw, hfound⟩ := List.exists_of_findSome?_eq_some h
  split at hfound
  · rename_i starts
    cases hfound
    exact ⟨w, hw, starts, rfl, rfl⟩
  · cases hfound

theorem length_readWord? {cs rest : List Char} {d : Data} (h : readWord? cs = some (d, rest)) :
    rest.length < cs.length := by
  obtain ⟨w, hw, starts, -, rfl⟩ := exists_word h
  have hlong : ∀ w ∈ words, 0 < w.1.length := by decide
  have hprefix := (List.isPrefixOf_iff_prefix.1 starts).length_le
  have hw := hlong w hw
  rw [List.length_drop]
  omega

theorem length_readScalar {cs rest : List Char} {d : Data} (h : readScalar cs = .ok (d, rest)) :
    rest.length < cs.length := by
  unfold readScalar at h
  split at h
  · rename_i found hword
    cases h
    exact length_readWord? hword
  · split at h
    · rename_i n after hsplit
      cases h
      exact Numeral.length_split hsplit
    · cases h

theorem readScalar_ne_str {cs rest : List Char} {s : String} : readScalar cs ≠ .ok (.str s, rest) := by
  intro h
  unfold readScalar at h
  split at h
  · rename_i found hword
    cases h
    obtain ⟨w, hw, -, htext, -⟩ := exists_word hword
    have hwords : ∀ w ∈ words, ∀ s, Data.str s ≠ w.2 := by simp [words]
    exact hwords w hw s htext
  · split at h
    · unfold numeralValue at h
      split at h <;> cases h
    · cases h

/-! ## Strings -/

theorem length_readUnicodeEscape {cs rest : List Char} {c : Char} (h : readUnicodeEscape cs = .ok (c, rest)) :
    rest.length < cs.length := by
  unfold readUnicodeEscape at h
  split at h
  · cases h
  · rename_i hlong
    have hdrop : (cs.drop 4).length < cs.length := by
      rw [List.length_drop]
      omega
    split at h
    · cases h
    · simp only at h
      split at h
      · rename_i more _ hmore
        have hlast : (more.drop 4).length < cs.length := by
          have hcount := congrArg List.length hmore
          rw [List.length_cons, List.length_cons] at hcount
          rw [List.length_drop]
          omega
        split at h
        · cases h
        · split at h
          · rw [← (Prod.mk.inj (Except.ok.inj h)).2]
            exact hlast
          · cases h
            exact hdrop
      · cases h
        exact hdrop

theorem length_readEscape {opening cs rest : List Char} {c : Char} (h : readEscape opening cs = .ok (c, rest)) :
    rest.length < cs.length := by
  unfold readEscape at h
  split at h
  · cases h
  · exact Nat.lt_succ_of_lt (length_readUnicodeEscape h)
  · split at h
    · cases h
      exact Nat.lt_succ_self _
    · cases h

/-- where a string starts is only told in a failure -/
theorem readEscape_opening {opening cs rest : List Char} {c : Char} (h : readEscape opening cs = .ok (c, rest))
    (other : List Char) : readEscape other cs = .ok (c, rest) := by
  unfold readEscape at h ⊢
  split at h
  · cases h
  · exact h
  · exact h

/-- the characters of a string and its closing quote are taken, with a step of fuel for each character -/
theorem characters_of_read {fuel : Nat} {opening cs text rest : List Char}
    (h : readCharacters opening fuel cs = .ok (text, rest)) :
    text.length + rest.length < cs.length ∧
      ∀ other more, cs.length ≤ more + rest.length → readCharacters other more cs = .ok (text, rest) := by
  induction fuel generalizing cs text with
  | zero => cases h
  | succ fuel ih =>
    cases cs with
    | nil => cases h
    | cons c cs =>
      -- the fuel that suffices is not zero, since the reader takes `c`
      have hfuel : ∀ {after : List Char}, after.length ≤ cs.length → ∀ more, (c :: cs).length ≤ more + after.length →
          ∃ steps, more = steps + 1 ∧ cs.length ≤ steps + after.length := by
        intro after hafter more enough
        rw [List.length_cons] at enough
        exact ⟨more - 1, by omega, by omega⟩
      rw [readCharacters] at h
      split at h
      · rename_i quote
        cases h
        refine ⟨by simp, fun other more enough => ?_⟩
        obtain ⟨steps, rfl, -⟩ := hfuel (Nat.le_refl _) more enough
        rw [readCharacters, if_pos quote]
      · rename_i quote
        split at h
        · rename_i backslash
          split at h
          · cases h
          · rename_i image after hescape
            split at h
            · cases h
            · rename_i others last hothers
              cases h
              have htaken := length_readEscape hescape
              obtain ⟨hshorter, hreads⟩ := ih hothers
              refine ⟨by simp only [List.length_cons]; omega, fun other more enough => ?_⟩
              obtain ⟨steps, rfl, henough⟩ := hfuel (by omega) more enough
              rw [readCharacters, if_neg quote, if_pos backslash, readEscape_opening hescape other]
              simp only [hreads other steps (by omega)]
        · rename_i backslash
          split at h
          · cases h
          · rename_i control
            split at h
            · cases h
            · rename_i others last hothers
              cases h
              obtain ⟨hshorter, hreads⟩ := ih hothers
              refine ⟨by simp only [List.length_cons]; omega, fun other more enough => ?_⟩
              obtain ⟨steps, rfl, henough⟩ := hfuel (by omega) more enough
              rw [readCharacters, if_neg quote, if_neg backslash, if_neg control]
              simp only [hreads other steps henough]

theorem length_readString {cs rest : List Char} {s : String} (h : readString cs = .ok (s, rest)) :
    s.toList.length + rest.length < cs.length := by
  unfold readString at h
  split at h
  · cases h
  · rename_i text after htext
    cases h
    rw [String.toList_ofList]
    exact (characters_of_read htext).1

/-! ## Values -/

/-- what is read is at the front of a text: some characters are taken, and two steps of fuel for each of them suffice -/
structure Front {α : Type} (read : Nat → List Char → Read α) (cs : List Char) (a : α) (rest : List Char) : Prop where
  shorter : rest.length < cs.length
  reads : ∀ fuel, 2 * cs.length ≤ fuel + 2 * rest.length → read fuel cs = .ok (a, rest)

/-- a reader that takes a character has a step of fuel to give -/
theorem Front.of_succ {α : Type} {read : Nat → List Char → Read α} {cs rest : List Char} {a : α}
    (shorter : rest.length < cs.length)
    (reads : ∀ fuel, 2 * cs.length ≤ fuel + 2 * rest.length + 1 → read (fuel + 1) cs = .ok (a, rest)) :
    Front read cs a rest := by
  refine ⟨shorter, fun fuel enough => ?_⟩
  obtain ⟨fuel, rfl⟩ := Nat.exists_eq_succ_of_ne_zero (show fuel ≠ 0 by omega)
  exact reads fuel (by omega)

section

variable {α : Type} {read : Nat → List Char → Read (List α)} {fuel : Nat} {close : Char} {after rest : List Char}
  (ih : ∀ cs parts rest, read fuel cs = .ok (parts, rest) → Front read cs parts rest)

include ih

theorem Encloses.front {make : List α → Data} {d : Data} (h : Encloses close make (read fuel) after d rest) :
    rest.length < after.length ∧
      ∀ steps, 2 * after.length ≤ steps + 2 * rest.length → Encloses close make (read steps) after d rest := by
  cases h with
  | empty closes =>
    rw [closes]
    exact ⟨Nat.lt_succ_self _, fun _ _ => .empty rfl⟩
  | parts opens inside =>
    obtain ⟨hshorter, hreads⟩ := ih _ _ _ inside
    exact ⟨hshorter, fun steps enough => .parts opens (hreads steps enough)⟩

theorem Continues.front {a : α} {parts : List α} (h : Continues close (read fuel) a after parts rest) :
    rest.length < after.length ∧
      ∀ steps, 2 * after.length ≤ steps + 2 * rest.length + 2 → Continues close (read steps) a after parts rest := by
  have hspace := length_skipSpace after
  cases h with
  | last closes =>
    rw [closes, List.length_cons] at hspace
    exact ⟨by omega, fun _ _ => .last closes⟩
  | @more next _ _ comma others =>
    rw [comma, List.length_cons] at hspace
    have hnext := length_skipSpace next
    obtain ⟨hshorter, hreads⟩ := ih _ _ _ others
    exact ⟨by omega, fun steps enough => .more comma (hreads steps (by omega))⟩

end

/-- the induction is on the fuel that the three readers hand to each other -/
theorem front_of_read (fuel : Nat) :
    (∀ cs d rest, readValue fuel cs = .ok (d, rest) → Front readValue cs d rest) ∧
    (∀ cs items rest, readItems fuel cs = .ok (items, rest) → Front readItems cs items rest) ∧
    (∀ cs entries rest, readEntries fuel cs = .ok (entries, rest) → Front readEntries cs entries rest) := by
  induction fuel with
  | zero =>
    refine ⟨fun cs d rest h => ?_, fun cs items rest h => ?_, fun cs entries rest h => ?_⟩
    · cases h
    · cases h
    · cases h
  | succ fuel ih =>
    obtain ⟨ihValue, ihItems, ihEntries⟩ := ih
    refine ⟨fun cs d rest h => ?_, fun cs items rest h => ?_, fun cs entries rest h => ?_⟩
    · cases readValue_iff.1 h with
      | str string =>
        have htaken := length_readString string
        exact .of_succ (by rw [List.length_cons]; omega) fun _ _ => readValue_iff.2 (.str string)
      | @list cs _ _ inside =>
        obtain ⟨hshorter, hreads⟩ := inside.front ihItems
        have hspace := length_skipSpace cs
        refine .of_succ (by rw [List.length_cons]; omega) fun steps enough => ?_
        rw [List.length_cons] at enough
        exact readValue_iff.2 (.list (hreads steps (by omega)))
      | @dict cs _ _ inside =>
        obtain ⟨hshorter, hreads⟩ := inside.front ihEntries
        have hspace := length_skipSpace cs
        refine .of_succ (by rw [List.length_cons]; omega) fun steps enough => ?_
        rw [List.length_cons] at enough
        exact readValue_iff.2 (.dict (hreads steps (by omega)))
      | scalar plain scalar =>
        exact .of_succ (length_readScalar scalar) fun _ _ => readValue_iff.2 (.scalar plain scalar)
    · obtain ⟨item, after, hitem, continues⟩ := readItems_iff.1 h
      obtain ⟨hfirst, hfirstReads⟩ := ihValue _ _ _ hitem
      obtain ⟨hshorter, hreads⟩ := continues.front ihItems
      refine .of_succ (by omega) fun steps enough => ?_
      exact readItems_iff.2 ⟨item, after, hfirstReads steps (by omega), hreads steps (by omega)⟩
    · obtain ⟨text, key, after, value, behind, last, rfl, hkey, hcolon, hvalue, continues⟩ := readEntries_iff.1 h
      have hkeyTaken := length_readString hkey
      have hafter := length_skipSpace after
      have hspace := length_skipSpace value
      rw [hcolon, List.length_cons] at hafter
      obtain ⟨hfirst, hfirstReads⟩ := ihValue _ _ _ hvalue
      obtain ⟨hshorter, hreads⟩ := continues.front ihEntries
      refine .of_succ (by rw [List.length_cons]; omega) fun steps enough => ?_
      rw [List.length_cons] at enough
      exact readEntries_iff.2 ⟨text, key, after, value, behind, last, rfl, hkey, hcolon, hfirstReads steps (by omega),
        hreads steps (by omega)⟩

/-! ## Texts -/

theorem length_readValue_str {fuel : Nat} {cs rest : List Char} {s : String}
    (h : readValue fuel cs = .ok (.str s, rest)) : s.toList.length < cs.length := by
  cases fuel with
  | zero => cases h
  | succ fuel =>
    have hsteps := readValue_iff.1 h
    generalize hs : Data.str s = d at hsteps
    cases hsteps with
    | str string =>
      cases hs
      have htaken := length_readString string
      rw [List.length_cons]
      omega
    | list inside => cases inside <;> cases hs
    | dict inside => cases inside <;> cases hs
    | scalar plain scalar => exact absurd (hs ▸ scalar) readScalar_ne_str

/-- no text is read as itself: a string is shorter than the text that writes it -/
theorem read_ne_str (s : String) : read s ≠ .ok (.str s) := by
  intro h
  obtain ⟨-, rest, hread, -⟩ := readText_ok_iff.1 (read_ok_iff.1 h)
  have hshorter := length_readValue_str hread
  have hspace := length_skipSpace s.toList
  omega

end Harvest.Json
