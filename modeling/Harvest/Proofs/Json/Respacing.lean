/-
Reading a text in another spacing. No value goes on over a line end, and white space between the parts of a value is passed
over, so what one text writes the other writes too.

- `respaced_read`: a reader reads the same from both texts, and leaves such texts behind it.
- `readText_respaced`: a text writes what it writes in another spacing.
- `read_unifyLineEnds`, `read_newline`: unified line ends and a line end behind the text are such spacings.
- `not_blank_of_read`: what writes a value is not blank.
-/
import Harvest.Proofs.Json.Spacing
import Harvest.Text.Blank

namespace Harvest.Json

open Harvest.Number Harvest.Text

variable {cs cs' : List Char}

/-! ## Strings -/

theorem isLineEnd_of_hexValue? {c : Char} {n : Nat} (h : hexValue? c = some n) : isLineEnd c = false :=
  isLineEnd_eq_false (by rintro rfl; cases h) (by rintro rfl; cases h)

theorem unbroken_of_digits {digits : List Char} {start? : Option Nat} {n : Nat}
    (h : digits.foldl (fun n? c => n?.bind fun n => (hexValue? c).map (16 * n + ·)) start? = some n) :
    start?.isSome = true ∧ Unbroken digits := by
  induction digits generalizing start? with
  | nil => exact ⟨Option.isSome_iff_exists.2 ⟨n, h⟩, List.forall_mem_nil _⟩
  | cons c digits ih =>
    obtain ⟨hfirst, hdigits⟩ := ih h
    obtain ⟨m, hm⟩ := Option.isSome_iff_exists.1 hfirst
    obtain ⟨k, hstart, hk⟩ := Option.bind_eq_some_iff.1 hm
    obtain ⟨digit, hdigit, -⟩ := Option.map_eq_some_iff.1 hk
    exact ⟨Option.isSome_iff_exists.2 ⟨k, hstart⟩, List.forall_mem_cons.2 ⟨isLineEnd_of_hexValue? hdigit, hdigits⟩⟩

/-- four digits stand at the front of a text that writes a number with four digits -/
theorem exists_hexQuad {n : Nat} (h : hexQuad? cs = some n) :
    ∃ digits rest, cs = digits ++ rest ∧ digits.length = 4 ∧ Unbroken digits := by
  unfold hexQuad? at h
  split at h
  · cases h
  · rename_i hlong
    exact ⟨cs.take 4, cs.drop 4, (List.take_append_drop 4 cs).symm, List.length_take_of_le (by omega),
      (unbroken_of_digits h).2⟩

theorem respaced_hexQuad? {n : Nat} (h : Respaced cs cs') (read : hexQuad? cs = some n) :
    hexQuad? cs' = some n ∧ Respaced (cs.drop 4) (cs'.drop 4) := by
  obtain ⟨digits, rest, rfl, hcount, unbroken⟩ := exists_hexQuad read
  obtain ⟨rest', rfl, hrest⟩ := h.of_append unbroken
  rw [List.drop_left' hcount, List.drop_left' hcount]
  refine ⟨?_, hrest⟩
  have hlong : ∀ more : List Char, ¬(digits ++ more).length < 4 := fun more => by
    rw [List.length_append]
    omega
  rw [hexQuad?, if_neg (hlong _), List.take_left' hcount] at read ⊢
  exact read

/-- the text goes on with an escape `\u` that is cut short, so that no string can go on with it -/
def CutShort (rest : List Char) : Prop :=
  ∃ more, rest = '\\' :: 'u' :: more ∧ more.length ≤ 4

theorem length_of_drop {n : Nat} (h : Respaced (cs.drop n) (cs'.drop n)) (long : n < cs.length) : n < cs'.length := by
  have hmore := h.nonempty (by rw [List.length_drop]; omega)
  rw [List.length_drop] at hmore
  omega

/-- what follows half a pair may be read as the other half where more space follows, but only if it was cut short before -/
theorem respaced_readUnicodeEscape {rest : List Char} {c : Char} (h : Respaced cs cs')
    (read : readUnicodeEscape cs = .ok (c, rest)) :
    (∃ rest', readUnicodeEscape cs' = .ok (c, rest') ∧ Respaced rest rest') ∨ CutShort rest := by
  unfold readUnicodeEscape at read ⊢
  split at read
  · cases read
  · rename_i hlong
    split at read
    · cases read
    · rename_i high hhigh
      obtain ⟨hhigh', hrest⟩ := respaced_hexQuad? h hhigh
      have hlong' := length_of_drop hrest (by omega)
      simp only [if_neg (Nat.not_le.2 hlong'), hhigh']
      simp only at read
      split at read
      · rename_i more hpair hmore
        rw [hmore] at hrest hpair
        simp only [Bool.and_eq_true, decide_eq_true_eq, List.length_cons] at hpair
        obtain ⟨tail', hdrop', htail⟩ := hrest.of_cons (by decide)
        obtain ⟨more', rfl, hmore'⟩ := htail.of_cons (by decide)
        split at read
        · cases read
        · rename_i low hlow
          obtain ⟨hlow', hlast⟩ := respaced_hexQuad? hmore' hlow
          have hlong'' := length_of_drop hlast (by omega)
          have hpair' : (isHighSurrogate high && decide (6 < ('\\' :: 'u' :: more').length)) = true := by
            simp only [List.length_cons, Bool.and_eq_true, decide_eq_true_eq]
            exact ⟨hpair.1, by omega⟩
          left
          rw [hdrop']
          simp only [hpair', hlow']
          split at read
          · rename_i hsecond
            rw [if_pos hsecond, ← (Prod.mk.inj (Except.ok.inj read)).1, ← (Prod.mk.inj (Except.ok.inj read)).2]
            exact ⟨_, rfl, hlast⟩
          · rename_i hsecond
            cases read
            rw [if_neg hsecond, hmore]
            exact ⟨_, rfl, hdrop' ▸ hrest⟩
      · rename_i hsingle
        cases read
        split
        · rename_i more' hpair' hmore'
          rw [hmore'] at hrest hpair'
          obtain ⟨tail, hdrop, htail⟩ := hrest.to_cons (by decide)
          obtain ⟨more, rfl, -⟩ := htail.to_cons (by decide)
          refine Or.inr ⟨more, hdrop, ?_⟩
          have hno := hsingle more
          simp only [Bool.and_eq_true] at hpair'
          rw [hpair'.1, hdrop] at hno
          simp at hno
          omega
        · exact Or.inl ⟨_, rfl, hrest⟩

theorem respaced_readEscape {opening rest : List Char} {c : Char} (other : List Char) (h : Respaced cs cs')
    (read : readEscape opening cs = .ok (c, rest)) :
    (∃ rest', readEscape other cs' = .ok (c, rest') ∧ Respaced rest rest') ∨ CutShort rest := by
  unfold readEscape at read
  split at read
  · cases read
  · obtain ⟨rest', rfl, hrest⟩ := h.of_cons (by decide)
    exact respaced_readUnicodeEscape hrest read
  · rename_i d more hletter
    split at read
    · rename_i image himage
      cases read
      have hplain : isLineEnd d = false := isLineEnd_eq_false (by rintro rfl; cases himage) (by rintro rfl; cases himage)
      obtain ⟨rest', rfl, hrest⟩ := h.of_cons hplain
      refine Or.inl ⟨rest', ?_, hrest⟩
      rw [readEscape]
      · rw [himage]
      · exact hletter
    · cases read

/-- no string goes on with an escape that is cut short -/
theorem CutShort.not_read {opening rest last text : List Char} (short : CutShort rest) (fuel : Nat) :
    readCharacters opening fuel rest ≠ .ok (text, last) := by
  obtain ⟨more, rfl, hshort⟩ := short
  cases fuel with
  | zero => exact fun h => by cases h
  | succ fuel =>
    have hescape : readEscape opening ('u' :: more) = .error ⟨.badUnicodeEscape, 'u' :: more⟩ := by
      rw [readEscape, readUnicodeEscape, if_pos hshort]
    rw [readCharacters, if_neg (by decide), if_pos (by decide), hescape]
    exact fun h => by cases h

theorem respaced_readCharacters {fuel : Nat} {opening rest text : List Char} (other : List Char) (h : Respaced cs cs')
    (read : readCharacters opening fuel cs = .ok (text, rest)) :
    ∃ rest', readCharacters other fuel cs' = .ok (text, rest') ∧ Respaced rest rest' := by
  induction fuel generalizing cs cs' text with
  | zero => cases read
  | succ fuel ih =>
    cases cs with
    | nil => cases read
    | cons c cs =>
      rw [readCharacters] at read
      split at read
      · rename_i quote
        cases read
        obtain rfl := beq_iff_eq.1 quote
        obtain ⟨rest', rfl, hrest⟩ := h.of_cons (by decide)
        exact ⟨rest', rfl, hrest⟩
      · rename_i quote
        split at read
        · rename_i backslash
          obtain rfl := beq_iff_eq.1 backslash
          obtain ⟨cs', rfl, hcs⟩ := h.of_cons (by decide)
          split at read
          · cases read
          · rename_i image after hescape
            split at read
            · cases read
            · rename_i others last hothers
              cases read
              rcases respaced_readEscape other hcs hescape with ⟨after', hescape', hafter⟩ | short
              · obtain ⟨last', hothers', hlast⟩ := ih hafter hothers
                refine ⟨last', ?_, hlast⟩
                rw [readCharacters, if_neg quote, if_pos backslash, hescape']
                simp only [hothers']
              · exact absurd hothers (short.not_read fuel)
        · rename_i backslash
          split at read
          · cases read
          · rename_i control
            split at read
            · cases read
            · rename_i others last hothers
              cases read
              have hplain : isLineEnd c = false :=
                isLineEnd_eq_false (by rintro rfl; exact control (by decide)) (by rintro rfl; exact control (by decide))
              obtain ⟨cs', rfl, hcs⟩ := h.of_cons hplain
              obtain ⟨last', hothers', hlast⟩ := ih hcs hothers
              refine ⟨last', ?_, hlast⟩
              rw [readCharacters, if_neg quote, if_neg backslash, if_neg control]
              simp only [hothers']

theorem respaced_readString (h : Respaced cs cs') : ReadAgain (readString cs) (readString cs') := by
  intro s rest read
  unfold readString at read ⊢
  split at read
  · cases read
  · rename_i text after htext
    cases read
    obtain ⟨rest', htext', hrest⟩ := respaced_readCharacters ('"' :: cs') h htext
    have hreads := (characters_of_read htext').2 ('"' :: cs') (cs'.length + 1) (by omega)
    exact ⟨rest', by rw [hreads], hrest⟩

/-! ## Values -/

section

variable {α : Type} {read : List Char → Read (List α)} {close : Char} {rest : List Char} (plain : isSpace close = false)
  (ih : ∀ cs cs', Respaced cs cs' → ReadAgain (read cs) (read cs'))

include plain ih

theorem Encloses.respaced {make : List α → Data} {d : Data} (h : Respaced cs cs')
    (encloses : Encloses close make read cs d rest) :
    ∃ rest', Encloses close make read cs' d rest' ∧ Respaced rest rest' := by
  cases encloses with
  | empty closes =>
    rw [closes] at h
    obtain ⟨rest', rfl, hrest⟩ := h.of_cons (isLineEnd_of_not_isSpace plain)
    exact ⟨rest', .empty rfl, hrest⟩
  | parts opens inside =>
    obtain ⟨rest', hinside, hrest⟩ := ih _ _ h _ _ inside
    exact ⟨rest', .parts (h.head?_ne plain opens) hinside, hrest⟩

theorem Continues.respaced {a : α} {parts : List α} (h : Respaced cs cs') (continues : Continues close read a cs parts rest) :
    ∃ rest', Continues close read a cs' parts rest' ∧ Respaced rest rest' := by
  have hskip := h.skip
  cases continues with
  | last closes =>
    rw [closes] at hskip
    obtain ⟨rest', hcloses, hrest⟩ := hskip.of_cons (isLineEnd_of_not_isSpace plain)
    exact ⟨rest', .last hcloses, hrest⟩
  | more comma others =>
    rw [comma] at hskip
    obtain ⟨next', hcomma, hnext⟩ := hskip.of_cons rfl
    obtain ⟨rest', hothers, hrest⟩ := ih _ _ hnext.skip _ _ others
    exact ⟨rest', .more hcomma hothers, hrest⟩

end

/-- the induction is on the fuel that the three readers hand to each other -/
theorem respaced_read (fuel : Nat) :
    (∀ cs cs', Respaced cs cs' → ReadAgain (readValue fuel cs) (readValue fuel cs')) ∧
    (∀ cs cs', Respaced cs cs' → ReadAgain (readItems fuel cs) (readItems fuel cs')) ∧
    (∀ cs cs', Respaced cs cs' → ReadAgain (readEntries fuel cs) (readEntries fuel cs')) := by
  induction fuel with
  | zero =>
    refine ⟨fun cs cs' h d rest read => ?_, fun cs cs' h items rest read => ?_, fun cs cs' h entries rest read => ?_⟩
    · cases read
    · cases read
    · cases read
  | succ fuel ih =>
    obtain ⟨ihValue, ihItems, ihEntries⟩ := ih
    refine ⟨fun cs cs' h d rest read => ?_, fun cs cs' h items rest read => ?_, fun cs cs' h entries rest read => ?_⟩
    · cases readValue_iff.1 read with
      | str string =>
        obtain ⟨text', rfl, htext⟩ := h.of_cons rfl
        obtain ⟨rest', hstring, hrest⟩ := respaced_readString htext _ _ string
        exact ⟨rest', readValue_iff.2 (.str hstring), hrest⟩
      | list inside =>
        obtain ⟨text', rfl, htext⟩ := h.of_cons rfl
        obtain ⟨rest', hinside, hrest⟩ := inside.respaced rfl ihItems htext.skip
        exact ⟨rest', readValue_iff.2 (.list hinside), hrest⟩
      | dict inside =>
        obtain ⟨text', rfl, htext⟩ := h.of_cons rfl
        obtain ⟨rest', hinside, hrest⟩ := inside.respaced rfl ihEntries htext.skip
        exact ⟨rest', readValue_iff.2 (.dict hinside), hrest⟩
      | scalar plain scalar =>
        obtain ⟨rest', hscalar, hrest⟩ := respaced_readScalar h _ _ scalar
        obtain ⟨quote, bracket, brace⟩ := plain
        have plain' := And.intro (h.head?_ne rfl quote) (And.intro (h.head?_ne rfl bracket) (h.head?_ne rfl brace))
        exact ⟨rest', readValue_iff.2 (.scalar plain' hscalar), hrest⟩
    · obtain ⟨item, after, hitem, continues⟩ := readItems_iff.1 read
      obtain ⟨after', hitem', hafter⟩ := ihValue _ _ h _ _ hitem
      obtain ⟨rest', hcontinues, hrest⟩ := continues.respaced rfl ihItems hafter
      exact ⟨rest', readItems_iff.2 ⟨item, after', hitem', hcontinues⟩, hrest⟩
    · obtain ⟨text, key, after, value, behind, last, rfl, hkey, hcolon, hvalue, continues⟩ := readEntries_iff.1 read
      obtain ⟨text', rfl, htext⟩ := h.of_cons rfl
      obtain ⟨after', hkey', hafter⟩ := respaced_readString htext _ _ hkey
      obtain ⟨value', hcolon', hbegins⟩ := (hcolon ▸ hafter.skip).of_cons rfl
      obtain ⟨behind', hvalue', hbehind⟩ := ihValue _ _ hbegins.skip _ _ hvalue
      obtain ⟨rest', hcontinues, hrest⟩ := continues.respaced rfl ihEntries hbehind
      exact ⟨rest', readEntries_iff.2 ⟨text', key, after', value', behind', last, rfl, hkey', hcolon', hvalue', hcontinues⟩,
        hrest⟩

/-! ## Texts -/

/-- a text writes what it writes in another spacing -/
theorem readText_respaced {d : Data} (h : Respaced cs cs') (read : readText cs = .ok d) : readText cs' = .ok d := by
  obtain ⟨hmark, rest, hvalue, hrest⟩ := readText_ok_iff.1 read
  obtain ⟨rest', hvalue', hlast⟩ := (respaced_read _).1 _ _ h.skip _ _ hvalue
  -- the two texts differ in length, so they are read with different fuel
  have front := (front_of_read _).1 _ _ _ hvalue'
  refine readText_ok_iff.2 ⟨h.head?_ne rfl hmark, rest', front.reads _ (by omega), ?_⟩
  have hskip := hlast.skip
  rw [hrest] at hskip
  cases hskip with
  | ends space => exact (List.dropWhile_idempotent _ _).symm.trans space

/-- a text reads as it does with its line ends unified -/
theorem respaced_unifyLineEnds (cs : List Char) : Respaced cs (unifyLineEnds cs) := by
  induction cs using unifyLineEnds.induct with
  | case1 => exact .ends rfl
  | case2 rest ih =>
    have hspace := skipSpace_space (c := '\n') rfl (unifyLineEnds rest)
    rw [unifyLineEnds]
    exact .breaks rfl rfl (.breaks rfl rfl ih rfl) hspace.symm
  | case3 c rest single ih =>
    cases hc : isLineEnd c with
    | false =>
      rw [unifyLineEnds_cons hc]
      exact .keeps hc ih
    | true =>
      have hspace : isSpace (if c == '\r' then '\n' else c) = true := by
        split
        · rfl
        · exact isSpace_of_isLineEnd hc
      rw [unifyLineEnds]
      · exact .breaks hc hspace ih rfl
      · exact single

/-- a text reads as it does with a line end behind it -/
theorem respaced_newline (cs : List Char) : Respaced cs (cs ++ ['\n']) := by
  induction cs with
  | nil => exact .ends rfl
  | cons c cs ih =>
    cases hc : isLineEnd c with
    | true => exact .breaks hc (isSpace_of_isLineEnd hc) ih rfl
    | false => exact .keeps hc ih

theorem read_unifyLineEnds {cs : List Char} {d : Data} (h : read (String.ofList cs) = .ok d) :
    read (String.ofList (unifyLineEnds cs)) = .ok d := by
  rw [read_ok_iff, String.toList_ofList] at h ⊢
  exact readText_respaced (respaced_unifyLineEnds cs) h

theorem read_newline {cs : List Char} {d : Data} (h : read (String.ofList cs) = .ok d) :
    read (String.ofList (cs ++ ['\n'])) = .ok d := by
  rw [read_ok_iff, String.toList_ofList] at h ⊢
  exact readText_respaced (respaced_newline cs) h

/-! ## Starts -/

theorem isBlank_of_digit {c : Char} (digit : isAsciiDigit c = true) : isBlank c = false := by
  simp only [isAsciiDigit, Bool.and_eq_true, decide_eq_true_eq] at digit
  have hlow : '0'.toNat ≤ c.toNat := digit.1
  have hhigh : c.toNat ≤ '9'.toNat := digit.2
  simp [isBlank, inRanges, blanks] at hlow hhigh ⊢
  omega

theorem exists_start_of_splitUnsigned {negative : Bool} {rest : List Char} {n : Numeral}
    (h : Numeral.splitUnsigned negative cs = some (n, rest)) : ∃ c more, cs = c :: more ∧ isBlank c = false := by
  cases cs with
  | nil => cases h
  | cons c more =>
    refine ⟨c, more, rfl, ?_⟩
    cases digit : isAsciiDigit c with
    | true => exact isBlank_of_digit digit
    | false =>
      have hzero : c ≠ '0' := by
        rintro rfl
        cases digit
      rw [splitUnsigned_of_none negative (by simp [Numeral.splitWhole, digit, hzero])] at h
      cases h

theorem exists_start_of_split {rest : List Char} {n : Numeral} (h : Numeral.split cs = some (n, rest)) :
    ∃ c more, cs = c :: more ∧ isBlank c = false := by
  unfold Numeral.split at h
  split at h
  · exact ⟨'-', _, rfl, by decide⟩
  · exact exists_start_of_splitUnsigned h

theorem exists_start_of_readWord? {rest : List Char} {d : Data} (h : readWord? cs = some (d, rest)) :
    ∃ c more, cs = c :: more ∧ isBlank c = false := by
  obtain ⟨w, hw, starts, -⟩ := exists_word h
  have hwords : ∀ w ∈ words, ∃ c more, w.1 = c :: more ∧ isBlank c = false := by
    simp [words]
    decide
  obtain ⟨c, more, hword, blank⟩ := hwords w hw
  obtain ⟨after, rfl⟩ := List.isPrefixOf_iff_prefix.1 starts
  exact ⟨c, more ++ after, by rw [hword, List.cons_append], blank⟩

/-- a value starts with a character that is not blank -/
theorem exists_start {fuel : Nat} {rest : List Char} {d : Data} (h : readValue fuel cs = .ok (d, rest)) :
    ∃ c more, cs = c :: more ∧ isBlank c = false := by
  cases fuel with
  | zero => cases h
  | succ fuel =>
    cases readValue_iff.1 h with
    | str => exact ⟨'"', _, rfl, by decide⟩
    | list => exact ⟨'[', _, rfl, by decide⟩
    | dict => exact ⟨'\x7b', _, rfl, by decide⟩
    | scalar plain scalar =>
      unfold readScalar at scalar
      split at scalar
      · rename_i found hword
        cases scalar
        exact exists_start_of_readWord? hword
      · split at scalar
        · rename_i n after hsplit
          cases scalar
          exact exists_start_of_split hsplit
        · cases scalar

/-- a text that writes a value is not blank -/
theorem not_blank_of_read {cs : List Char} {d : Data} (h : read (String.ofList cs) = .ok d) : cs.all isBlank = false := by
  rw [read_ok_iff, String.toList_ofList] at h
  obtain ⟨-, rest, hvalue, -⟩ := readText_ok_iff.1 h
  obtain ⟨c, more, hstart, blank⟩ := exists_start hvalue
  have hmem : c ∈ cs := (List.dropWhile_suffix _).subset (hstart ▸ List.mem_cons_self)
  exact List.all_eq_false.2 ⟨c, hmem, by simp [blank]⟩

end Harvest.Json
