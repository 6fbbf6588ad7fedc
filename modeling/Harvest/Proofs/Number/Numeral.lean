/-
Integers in decimal digits, read as numerals. The digits of a number have no zero in front, unless the number is zero, so they
are a whole part of a numeral; what follows them must not go on with the numeral.

- `decimalValue_toDigits`: the digits of a number write that number.
- `split_intText`: the text of an integer is cut off as a numeral, and the numeral writes the integer.
-/
import Harvest.Data.Display
import Harvest.Number.Numeral
import Harvest.Text.Cut

namespace Harvest.Number

open Harvest.Text

theorem decimalValue_toDigits (n : Nat) : decimalValue (Nat.toDigits 10 n) = n := by
  induction n using Nat.strongRecOn with
  | ind n ih =>
    rcases Nat.lt_or_ge n 10 with small | large
    · rw [Nat.toDigits_of_lt_base small]
      simp [decimalValue, digitValue?_digitChar n small]
    · have hlast : n % 10 < 10 := Nat.mod_lt n (by decide)
      rw [Nat.toDigits_of_base_le (by decide) large, decimalValue_append_singleton, ih (n / 10) (by omega),
        digitValue?_digitChar _ hlast, Option.getD_some]
      omega

theorem isAsciiDigit_of_mem_toDigits {n : Nat} {c : Char} (h : c ∈ Nat.toDigits 10 n) : isAsciiDigit c = true := by
  have hdigit := Nat.isDigit_of_mem_toDigits (by decide) (by decide) h
  simp only [Char.isDigit, Bool.and_eq_true, decide_eq_true_eq] at hdigit
  simp only [isAsciiDigit, Bool.and_eq_true, decide_eq_true_eq]
  exact hdigit

theorem exists_toDigits_eq_cons (n : Nat) : ∃ c more, Nat.toDigits 10 n = c :: more ∧ isAsciiDigit c = true := by
  obtain ⟨c, more, hdigits⟩ := List.exists_cons_of_ne_nil (Nat.toDigits_ne_nil (n := n) (b := 10))
  exact ⟨c, more, hdigits, isAsciiDigit_of_mem_toDigits (n := n) (hdigits ▸ List.mem_cons_self)⟩

/-- only the digits of zero start with a zero -/
theorem head_toDigits_ne_zero {n : Nat} (h : n ≠ 0) : ∀ c ∈ (Nat.toDigits 10 n).head?, c ≠ '0' := by
  induction n using Nat.strongRecOn with
  | ind n ih =>
    rcases Nat.lt_or_ge n 10 with small | large
    · have hsmall : ∀ d < 10, d ≠ 0 → Nat.digitChar d ≠ '0' := by decide
      rw [Nat.toDigits_of_lt_base small]
      simpa using hsmall n small h
    · have hfirst := ih (n / 10) (by omega) (by omega)
      obtain ⟨c, more, hdigits, -⟩ := exists_toDigits_eq_cons (n / 10)
      rw [hdigits] at hfirst
      rw [Nat.toDigits_of_base_le (by decide) large, hdigits]
      exact hfirst

namespace Numeral

/-- no numeral goes on with these characters -/
def Ends (rest : List Char) : Prop :=
  ∀ c ∈ rest.head?, isAsciiDigit c = false ∧ c ≠ '.' ∧ c ≠ 'e' ∧ c ≠ 'E'

theorem splitWhole_toDigits (n : Nat) {rest : List Char} (ends : Ends rest) :
    splitWhole (Nat.toDigits 10 n ++ rest) = some (Nat.toDigits 10 n, rest) := by
  by_cases hzero : n = 0
  · rw [hzero]
    rfl
  · obtain ⟨c, more, hdigits, hc⟩ := exists_toDigits_eq_cons n
    have hmore : ∀ d ∈ more, isAsciiDigit d = true := fun d hd =>
      isAsciiDigit_of_mem_toDigits (n := n) (hdigits ▸ List.mem_cons_of_mem c hd)
    have hfirst : c ≠ '0' := head_toDigits_ne_zero hzero c (by rw [hdigits]; rfl)
    obtain ⟨htake, hdrop⟩ := takeWhile_append_ends hmore rest fun d hd => (ends d hd).1
    rw [hdigits]
    simp [splitWhole, hfirst, hc, htake, hdrop]

theorem splitFraction_of_ends {rest : List Char} (ends : Ends rest) : splitFraction rest = (none, rest) := by
  cases rest with
  | nil => rfl
  | cons c more =>
    have hpoint := (ends c rfl).2.1
    simp [splitFraction, hpoint]

theorem splitExponent_of_ends {rest : List Char} (ends : Ends rest) : splitExponent rest = (none, rest) := by
  cases rest with
  | nil => rfl
  | cons c more =>
    obtain ⟨-, -, hsmall, hlarge⟩ := ends c rfl
    simp [splitExponent, hsmall, hlarge]

theorem splitUnsigned_toDigits (negative : Bool) (n : Nat) {rest : List Char} (ends : Ends rest) :
    splitUnsigned negative (Nat.toDigits 10 n ++ rest) = some (⟨negative, Nat.toDigits 10 n, none, none⟩, rest) := by
  simp [splitUnsigned, splitWhole_toDigits n ends, splitFraction_of_ends ends, splitExponent_of_ends ends]

/-- the text of an integer is cut off as a numeral that writes it -/
theorem split_intText (i : Int) {rest : List Char} (ends : Ends rest) :
    ∃ n, split ((Data.intText i).toList ++ rest) = some (n, rest) ∧ n.toInt? = some i := by
  refine ⟨⟨decide (i < 0), Nat.toDigits 10 i.natAbs, none, none⟩, ?_, ?_⟩
  · by_cases hneg : i < 0
    · simp [Data.intText, hneg, split, splitUnsigned_toDigits true _ ends]
    · have hplain : split (Nat.toDigits 10 i.natAbs ++ rest) = splitUnsigned false (Nat.toDigits 10 i.natAbs ++ rest) := by
        obtain ⟨c, more, hdigits, hc⟩ := exists_toDigits_eq_cons i.natAbs
        have hminus : c ≠ '-' := by
          rintro rfl
          exact absurd hc (by decide)
        rw [hdigits]
        simp [split, hminus]
      simp [Data.intText, hneg, hplain, splitUnsigned_toDigits false _ ends]
  · simp only [toInt?, decimalValue_toDigits, decide_eq_true_eq, Option.some.injEq]
    split <;> omega

end Numeral

end Harvest.Number
