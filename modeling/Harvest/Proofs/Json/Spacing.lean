/-
Texts that differ only in the white space at their line ends. White space ends what stands before it, so the digits, numerals
and words at the front of such texts are the same.

- `Respaced`: each line end stands for white space, and at the end of the text white space can stand for nothing.
- `Respaced.start`: such texts start with the same character, or both with white space or not at all.
- `respaced_split`, `respaced_readWord?`: the same numeral and the same word are cut off from both.
-/
import Harvest.Proofs.Json.Fuel
import Harvest.Proofs.Number.Numeral
import Harvest.Proofs.Text.Lines
import Mathlib.Data.List.DropRight
import Mathlib.Data.Option.Defs

namespace Harvest.Json

open Harvest.Number Harvest.Text

/-! ## Spacing -/

theorem isSpace_of_isLineEnd {c : Char} (h : isLineEnd c = true) : isSpace c = true := by
  rcases isLineEnd_iff.1 h with rfl | rfl
  · rfl
  · rfl

theorem isLineEnd_of_not_isSpace {c : Char} (h : isSpace c = false) : isLineEnd c = false :=
  isLineEnd_eq_false (by rintro rfl; cases h) (by rintro rfl; cases h)

/-- the second text has white space where the first has a line end, perhaps more or less of it, and perhaps some at its end -/
inductive Respaced : List Char → List Char → Prop where
  | ends {after : List Char} (space : skipSpace after = []) : Respaced [] after
  | keeps {c : Char} {cs cs' : List Char} (plain : isLineEnd c = false) (rest : Respaced cs cs') :
      Respaced (c :: cs) (c :: cs')
  | breaks {c d : Char} {cs cs' after : List Char} (lineEnd : isLineEnd c = true) (space : isSpace d = true)
      (rest : Respaced cs cs') (more : skipSpace after = skipSpace cs') : Respaced (c :: cs) (d :: after)

/-- nothing, or a text that starts with white space -/
def StartsBlank (cs : List Char) : Prop :=
  ∀ c ∈ cs.head?, isSpace c = true

theorem StartsBlank.ne_of_mem {cs : List Char} {c d : Char} (blank : StartsBlank cs) (first : d ∈ cs.head?)
    (plain : isSpace c = false) : d ≠ c := by
  rintro rfl
  rw [blank d first] at plain
  cases plain

theorem startsBlank_cons {c : Char} (space : isSpace c = true) (cs : List Char) : StartsBlank (c :: cs) := by
  rintro d hd
  obtain rfl := Option.some.inj hd
  exact space

/-- no numeral goes on with white space -/
theorem StartsBlank.ends {cs : List Char} (blank : StartsBlank cs) : Numeral.Ends cs := by
  intro c hc
  have hspace := blank c hc
  simp only [isSpace, Bool.or_eq_true, beq_iff_eq] at hspace
  rcases hspace with ((rfl | rfl) | rfl) | rfl <;> decide

namespace Respaced

variable {cs cs' : List Char}

/-- the texts start with the same character, or both with white space or not at all -/
theorem start (h : Respaced cs cs') :
    (∃ c rest rest', cs = c :: rest ∧ cs' = c :: rest' ∧ Respaced rest rest') ∨ (StartsBlank cs ∧ StartsBlank cs') := by
  cases h with
  | ends space =>
    exact Or.inr ⟨fun c hc => (Option.not_mem_none c hc).elim,
      fun c hc => List.dropWhile_eq_nil_iff.1 space c (List.mem_of_mem_head? hc)⟩
  | keeps plain rest => exact Or.inl ⟨_, _, _, rfl, rfl, rest⟩
  | breaks lineEnd space rest more =>
    exact Or.inr ⟨startsBlank_cons (isSpace_of_isLineEnd lineEnd) _, startsBlank_cons space _⟩

theorem of_cons {c : Char} (plain : isLineEnd c = false) (h : Respaced (c :: cs) cs') :
    ∃ rest', cs' = c :: rest' ∧ Respaced cs rest' := by
  cases h with
  | keeps _ rest => exact ⟨_, rfl, rest⟩
  | breaks lineEnd =>
    rw [lineEnd] at plain
    cases plain

theorem to_cons {c : Char} (plain : isSpace c = false) (h : Respaced cs (c :: cs')) :
    ∃ rest, cs = c :: rest ∧ Respaced rest cs' := by
  cases h with
  | ends space =>
    rw [skipSpace_cons plain] at space
    cases space
  | keeps _ rest => exact ⟨_, rfl, rest⟩
  | breaks _ space =>
    rw [space] at plain
    cases plain

/-- what does not start the first text, and is no white space, does not start the second -/
theorem head?_ne {c : Char} (h : Respaced cs cs') (plain : isSpace c = false) (other : cs.head? ≠ some c) :
    cs'.head? ≠ some c := by
  intro first
  obtain ⟨more', rfl⟩ := List.head?_eq_some_iff.1 first
  obtain ⟨more, rfl, -⟩ := h.to_cons plain
  exact other rfl

/-- a front without line ends stands in both texts -/
theorem of_append {front : List Char} (unbroken : Unbroken front) (h : Respaced (front ++ cs) cs') :
    ∃ rest', cs' = front ++ rest' ∧ Respaced cs rest' := by
  induction front generalizing cs' with
  | nil => exact ⟨cs', rfl, h⟩
  | cons c front ih =>
    obtain ⟨plain, hfront⟩ := List.forall_mem_cons.1 unbroken
    obtain ⟨rest', rfl, hrest⟩ := h.of_cons plain
    obtain ⟨last', rfl, hlast⟩ := ih hfront hrest
    exact ⟨last', rfl, hlast⟩

theorem nonempty (h : Respaced cs cs') (some : 0 < cs.length) : 0 < cs'.length := by
  cases h with
  | ends => cases some
  | keeps => exact Nat.succ_pos _
  | breaks => exact Nat.succ_pos _

/-- the white space in front of both texts is passed over -/
theorem skip (h : Respaced cs cs') : Respaced (skipSpace cs) (skipSpace cs') := by
  induction h with
  | ends space =>
    rw [space]
    exact .ends rfl
  | @keeps c cs cs' plain rest ih =>
    by_cases hspace : isSpace c = true
    · rw [skipSpace_space hspace, skipSpace_space hspace]
      exact ih
    · rw [skipSpace_cons (by simpa using hspace), skipSpace_cons (by simpa using hspace)]
      exact .keeps plain rest
  | breaks lineEnd space rest more ih =>
    rw [skipSpace_space (isSpace_of_isLineEnd lineEnd), skipSpace_space space, more]
    exact ih

end Respaced

/-- the same is read from both texts, and what follows it is respaced -/
def SameRead {α : Type} (a b : α × List Char) : Prop :=
  a.1 = b.1 ∧ Respaced a.2 b.2

/-! ## Numerals -/

variable {cs cs' : List Char}

theorem StartsBlank.digits (blank : StartsBlank cs) :
    cs.takeWhile isAsciiDigit = [] ∧ cs.dropWhile isAsciiDigit = cs :=
  takeWhile_append_ends (List.forall_mem_nil _) cs fun c hc => (blank.ends c hc).1

theorem respaced_digits (h : Respaced cs cs') :
    cs.takeWhile isAsciiDigit = cs'.takeWhile isAsciiDigit ∧
      Respaced (cs.dropWhile isAsciiDigit) (cs'.dropWhile isAsciiDigit) := by
  induction cs generalizing cs' with
  | nil =>
    rcases h.start with ⟨c, rest, rest', hcs, -⟩ | ⟨blank, blank'⟩
    · cases hcs
    · rw [blank'.digits.1, blank'.digits.2]
      exact ⟨rfl, h⟩
  | cons c cs ih =>
    rcases h.start with ⟨d, rest, rest', hcs, rfl, hrest⟩ | ⟨blank, blank'⟩
    · cases hcs
      by_cases digit : isAsciiDigit c = true
      · obtain ⟨htake, hdrop⟩ := ih hrest
        rw [List.takeWhile_cons_of_pos digit, List.takeWhile_cons_of_pos digit, List.dropWhile_cons_of_pos digit,
          List.dropWhile_cons_of_pos digit, htake]
        exact ⟨rfl, hdrop⟩
      · rw [List.takeWhile_cons_of_neg digit, List.takeWhile_cons_of_neg digit, List.dropWhile_cons_of_neg digit,
          List.dropWhile_cons_of_neg digit]
        exact ⟨rfl, h⟩
    · rw [blank.digits.1, blank.digits.2, blank'.digits.1, blank'.digits.2]
      exact ⟨rfl, h⟩

theorem respaced_splitFraction (h : Respaced cs cs') :
    SameRead (Numeral.splitFraction cs) (Numeral.splitFraction cs') := by
  rcases h.start with ⟨c, rest, rest', rfl, rfl, hrest⟩ | ⟨blank, blank'⟩
  · by_cases point : c = '.'
    · obtain rfl := point
      obtain ⟨htake, hdrop⟩ := respaced_digits hrest
      simp only [Numeral.splitFraction, htake]
      split
      · exact ⟨rfl, h⟩
      · exact ⟨rfl, hdrop⟩
    · have hnone : ∀ more, Numeral.splitFraction (c :: more) = (none, c :: more) := fun more => by
        simp [Numeral.splitFraction, point]
      rw [hnone, hnone]
      exact ⟨rfl, h⟩
  · rw [Numeral.splitFraction_of_ends blank.ends, Numeral.splitFraction_of_ends blank'.ends]
    exact ⟨rfl, h⟩

theorem respaced_exponentDigits (negative : Bool) (h : Respaced cs cs') :
    Option.Rel SameRead (Numeral.exponentDigits negative cs) (Numeral.exponentDigits negative cs') := by
  obtain ⟨htake, hdrop⟩ := respaced_digits h
  unfold Numeral.exponentDigits
  rw [htake]
  split
  · exact .none
  · exact .some ⟨rfl, hdrop⟩

/-- what can follow the letter of an exponent -/
def signedDigits : List Char → Option (Int × List Char)
  | '-' :: more => Numeral.exponentDigits true more
  | '+' :: more => Numeral.exponentDigits false more
  | more => Numeral.exponentDigits false more

theorem signedDigits_of_digits (digits : ∀ c ∈ cs.head?, c ≠ '-' ∧ c ≠ '+') :
    signedDigits cs = Numeral.exponentDigits false cs := by
  cases cs with
  | nil => rfl
  | cons c more =>
    obtain ⟨minus, plus⟩ := digits c rfl
    simp [signedDigits, minus, plus]

theorem StartsBlank.no_sign (blank : StartsBlank cs) : ∀ c ∈ cs.head?, c ≠ '-' ∧ c ≠ '+' :=
  fun _ hc => ⟨blank.ne_of_mem hc rfl, blank.ne_of_mem hc rfl⟩

theorem respaced_signedDigits (h : Respaced cs cs') : Option.Rel SameRead (signedDigits cs) (signedDigits cs') := by
  rcases h.start with ⟨c, rest, rest', rfl, rfl, hrest⟩ | ⟨blank, blank'⟩
  · by_cases minus : c = '-'
    · obtain rfl := minus
      exact respaced_exponentDigits true hrest
    · by_cases plus : c = '+'
      · obtain rfl := plus
        exact respaced_exponentDigits false hrest
      · have hdigits : ∀ {more : List Char}, ∀ d ∈ (c :: more).head?, d ≠ '-' ∧ d ≠ '+' := by
          rintro more d hd
          obtain rfl := Option.some.inj hd
          exact ⟨minus, plus⟩
        rw [signedDigits_of_digits hdigits, signedDigits_of_digits hdigits]
        exact respaced_exponentDigits false h
  · rw [signedDigits_of_digits blank.no_sign, signedDigits_of_digits blank'.no_sign]
    exact respaced_exponentDigits false h

theorem splitExponent_letter {c : Char} (letter : (c == 'e' || c == 'E') = true) (rest : List Char) :
    Numeral.splitExponent (c :: rest) =
      ((signedDigits rest).map Prod.fst, ((signedDigits rest).map Prod.snd).getD (c :: rest)) := by
  simp only [Numeral.splitExponent, letter, if_true]
  split
  · rename_i e after found
    have hdigits : signedDigits rest = some (e, after) := found
    rw [hdigits]
    rfl
  · rename_i found
    have hdigits : signedDigits rest = none := found
    rw [hdigits]
    rfl

theorem respaced_splitExponent (h : Respaced cs cs') :
    SameRead (Numeral.splitExponent cs) (Numeral.splitExponent cs') := by
  rcases h.start with ⟨c, rest, rest', rfl, rfl, hrest⟩ | ⟨blank, blank'⟩
  · cases letter : c == 'e' || c == 'E' with
    | true =>
      have hdigits := respaced_signedDigits hrest
      rw [splitExponent_letter letter, splitExponent_letter letter]
      generalize signedDigits rest = found at hdigits ⊢
      generalize signedDigits rest' = found' at hdigits ⊢
      cases hdigits with
      | some same => exact ⟨congrArg some same.1, same.2⟩
      | none => exact ⟨rfl, h⟩
    | false =>
      have hnone : ∀ more, Numeral.splitExponent (c :: more) = (none, c :: more) := fun more => by
        simp [Numeral.splitExponent, letter]
      rw [hnone, hnone]
      exact ⟨rfl, h⟩
  · rw [Numeral.splitExponent_of_ends blank.ends, Numeral.splitExponent_of_ends blank'.ends]
    exact ⟨rfl, h⟩

theorem respaced_splitWhole (h : Respaced cs cs') :
    Option.Rel SameRead (Numeral.splitWhole cs) (Numeral.splitWhole cs') := by
  rcases h.start with ⟨c, rest, rest', rfl, rfl, hrest⟩ | ⟨blank, blank'⟩
  · obtain ⟨htake, hdrop⟩ := respaced_digits hrest
    simp only [Numeral.splitWhole, htake]
    split
    · exact .some ⟨rfl, hrest⟩
    · split
      · exact .some ⟨rfl, hdrop⟩
      · exact .none
  · have hnone : ∀ {text}, StartsBlank text → Numeral.splitWhole text = none := by
      intro text htext
      cases text with
      | nil => rfl
      | cons c more =>
        have digit := (htext.ends c rfl).1
        have hzero : c ≠ '0' := by
          rintro rfl
          cases digit
        simp [Numeral.splitWhole, digit, hzero]
    rw [hnone blank, hnone blank']
    exact .none

theorem splitUnsigned_of_whole {whole rest : List Char} (negative : Bool) (h : Numeral.splitWhole cs = some (whole, rest)) :
    Numeral.splitUnsigned negative cs =
      some (⟨negative, whole, (Numeral.splitFraction rest).1, (Numeral.splitExponent (Numeral.splitFraction rest).2).1⟩,
        (Numeral.splitExponent (Numeral.splitFraction rest).2).2) := by
  rw [Numeral.splitUnsigned, h]

theorem splitUnsigned_of_none (negative : Bool) (h : Numeral.splitWhole cs = none) :
    Numeral.splitUnsigned negative cs = none := by
  rw [Numeral.splitUnsigned, h]

theorem respaced_splitUnsigned (negative : Bool) (h : Respaced cs cs') :
    Option.Rel SameRead (Numeral.splitUnsigned negative cs) (Numeral.splitUnsigned negative cs') := by
  have hwhole := respaced_splitWhole h
  generalize hfound : Numeral.splitWhole cs = found at hwhole
  generalize hfound' : Numeral.splitWhole cs' = found' at hwhole
  cases hwhole with
  | @some first first' same =>
    obtain ⟨hfraction, hafter⟩ := respaced_splitFraction same.2
    obtain ⟨hexponent, hlast⟩ := respaced_splitExponent hafter
    rw [splitUnsigned_of_whole negative hfound, splitUnsigned_of_whole negative hfound', same.1, hfraction, hexponent]
    exact .some ⟨rfl, hlast⟩
  | none =>
    rw [splitUnsigned_of_none negative hfound, splitUnsigned_of_none negative hfound']
    exact .none

theorem respaced_split (h : Respaced cs cs') : Option.Rel SameRead (Numeral.split cs) (Numeral.split cs') := by
  rcases h.start with ⟨c, rest, rest', rfl, rfl, hrest⟩ | ⟨blank, blank'⟩
  · by_cases minus : c = '-'
    · obtain rfl := minus
      exact respaced_splitUnsigned true hrest
    · have hplain : ∀ more, Numeral.split (c :: more) = Numeral.splitUnsigned false (c :: more) := fun more => by
        simp [Numeral.split, minus]
      rw [hplain, hplain]
      exact respaced_splitUnsigned false h
  · have hplain : ∀ {text}, StartsBlank text → Numeral.split text = Numeral.splitUnsigned false text := by
      intro text htext
      cases text with
      | nil => rfl
      | cons c more =>
        have minus : c ≠ '-' := htext.ne_of_mem rfl rfl
        simp [Numeral.split, minus]
    rw [hplain blank, hplain blank']
    exact respaced_splitUnsigned false h

/-! ## Words -/

theorem respaced_isPrefixOf {word : List Char} (plain : ∀ c ∈ word, isSpace c = false) (h : Respaced cs cs') :
    word.isPrefixOf cs = word.isPrefixOf cs' ∧
      (word.isPrefixOf cs = true → Respaced (cs.drop word.length) (cs'.drop word.length)) := by
  induction word generalizing cs cs' with
  | nil => exact ⟨rfl, fun _ => h⟩
  | cons c word ih =>
    obtain ⟨hc, hword⟩ := List.forall_mem_cons.1 plain
    rcases h.start with ⟨d, rest, rest', rfl, rfl, hrest⟩ | ⟨blank, blank'⟩
    · obtain ⟨hsame, hdrop⟩ := ih hword hrest
      simp only [List.isPrefixOf_cons_cons, List.length_cons, List.drop_succ_cons, Bool.and_eq_true]
      exact ⟨by rw [hsame], fun starts => hdrop starts.2⟩
    · have hno : ∀ {text}, StartsBlank text → (c :: word).isPrefixOf text = false := by
        intro text htext
        cases text with
        | nil => rfl
        | cons d more =>
          have hne : d ≠ c := htext.ne_of_mem rfl hc
          rw [List.isPrefixOf_cons_cons, beq_eq_false_iff_ne.2 hne.symm, Bool.false_and]
      rw [hno blank, hno blank']
      exact ⟨rfl, fun starts => Bool.noConfusion starts⟩

theorem respaced_readWord? (h : Respaced cs cs') : Option.Rel SameRead (readWord? cs) (readWord? cs') := by
  have hspaceless : ∀ w ∈ words, w.1.any isSpace = false := by decide
  have hplain : ∀ w ∈ words, ∀ c ∈ w.1, isSpace c = false := fun w hw c hc => by
    simpa using List.any_eq_false.1 (hspaceless w hw) c hc
  unfold readWord?
  generalize words = ws at hplain
  induction ws with
  | nil => exact .none
  | cons w ws ih =>
    obtain ⟨hw, hws⟩ := List.forall_mem_cons.1 hplain
    obtain ⟨hsame, hdrop⟩ := respaced_isPrefixOf hw h
    rw [List.findSome?_cons, List.findSome?_cons, ← hsame]
    by_cases starts : w.1.isPrefixOf cs = true
    · simp only [if_pos starts]
      exact .some ⟨rfl, hdrop starts⟩
    · simp only [if_neg starts]
      exact ih hws

/-- what is read from the first text is read from the second, and what follows it is respaced -/
def ReadAgain {α : Type} (first second : Read α) : Prop :=
  ∀ a rest, first = .ok (a, rest) → ∃ rest', second = .ok (a, rest') ∧ Respaced rest rest'

theorem respaced_readScalar (h : Respaced cs cs') : ReadAgain (readScalar cs) (readScalar cs') := by
  intro d rest read
  have hword := respaced_readWord? h
  have hnumeral := respaced_split h
  unfold readScalar at read ⊢
  generalize readWord? cs = found at hword read
  generalize readWord? cs' = found' at hword ⊢
  generalize Numeral.split cs = cut at hnumeral read
  generalize Numeral.split cs' = cut' at hnumeral ⊢
  cases hword with
  | @some first second same =>
    obtain ⟨hvalue, hrest⟩ := same
    cases read
    exact ⟨second.2, congrArg (fun d => Except.ok (d, second.2)) hvalue.symm, hrest⟩
  | none =>
    cases hnumeral with
    | @some first second same =>
      obtain ⟨hvalue, hrest⟩ := same
      cases read
      exact ⟨second.2, congrArg (fun n => Except.ok (numeralValue n, second.2)) hvalue.symm, hrest⟩
    | none => cases read

end Harvest.Json
