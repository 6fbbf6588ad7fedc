/-
Strings of a JSON text. Every character is written in a form that reads as that character, whatever follows, so a string reads
as the text that was written.

- `hexQuad?_hexDigits`: four hexadecimal digits write their number.
- `readCharacters_escapeChar`: one written character is read as itself.
- `readString_written`: a written string is read back, up to its closing quote.
-/
import Harvest.Json.Reader
import Harvest.Json.Writer

namespace Harvest.Json

open Harvest.Text

/-! ## Escapes by number -/

/-- four hexadecimal digits write their number -/
theorem hexQuad?_hexDigits {n : Nat} (h : n < 0x10000) (rest : List Char) : hexQuad? (hexDigits 4 n ++ rest) = some n := by
  have hlength := length_hexDigits 4 n
  have htake : (hexDigits 4 n ++ rest).take 4 = hexDigits 4 n := List.take_left' hlength
  have hdigit : ∀ m, hexValue? (hexDigit (m % 16)) = some (m % 16) := fun m => hexValue?_hexDigit (Nat.mod_lt m (by decide))
  rw [hexQuad?, if_neg (by simp [hlength]), htake]
  simp only [hexDigits, List.nil_append, List.cons_append, List.foldl_cons, List.foldl_nil, Option.bind_some, hdigit,
    Option.map_some, Option.some.injEq]
  omega

/-- the escape of a control character reads as that character, if anything follows it -/
theorem readUnicodeEscape_hexDigits {c : Char} (control : c.toNat < 0x20) {rest : List Char} (more : rest ≠ []) :
    readUnicodeEscape (hexDigits 4 c.toNat ++ rest) = .ok (c, rest) := by
  have hlength := length_hexDigits 4 c.toNat
  have hpos := List.length_pos_iff.2 more
  have hlow : isHighSurrogate c.toNat = false := by
    simp only [isHighSurrogate, Bool.and_eq_false_iff, decide_eq_false_iff_not]
    omega
  have hplain : charOfCode c.toNat = c := by
    have hsurrogate : ¬(0xD800 ≤ c.toNat ∧ c.toNat ≤ 0xDFFF) := by omega
    simp [charOfCode, hsurrogate]
  have hdrop : (hexDigits 4 c.toNat ++ rest).drop 4 = rest := List.drop_left' hlength
  have hlong : ¬(hexDigits 4 c.toNat ++ rest).length ≤ 4 := by
    rw [List.length_append, hlength]
    omega
  rw [readUnicodeEscape]
  simp only [hexQuad?_hexDigits (show c.toNat < 0x10000 by omega), hdrop, hlow, hplain, if_neg hlong, Bool.false_and]

/-! ## Characters -/

/-- a character is written as a backslash and a letter, as a backslash and its number, or as it is -/
theorem escapeChar_cases (c : Char) :
    (∃ letter, escapeChar c = ['\\', letter] ∧ escaped? letter = some c) ∨
    (c.toNat < 0x20 ∧ escapeChar c = '\\' :: 'u' :: hexDigits 4 c.toNat) ∨
    (c ≠ '"' ∧ c ≠ '\\' ∧ ¬c.toNat < 0x20 ∧ escapeChar c = [c]) := by
  by_cases quote : c = '"'
  · exact .inl ⟨'"', by rw [quote]; rfl, by rw [quote]; rfl⟩
  by_cases backslash : c = '\\'
  · exact .inl ⟨'\\', by rw [backslash]; rfl, by rw [backslash]; rfl⟩
  by_cases newline : c = '\n'
  · exact .inl ⟨'n', by rw [newline]; rfl, by rw [newline]; rfl⟩
  by_cases carriageReturn : c = '\r'
  · exact .inl ⟨'r', by rw [carriageReturn]; rfl, by rw [carriageReturn]; rfl⟩
  by_cases tab : c = '\t'
  · exact .inl ⟨'t', by rw [tab]; rfl, by rw [tab]; rfl⟩
  by_cases formFeed : c = '\x0c'
  · exact .inl ⟨'f', by rw [formFeed]; rfl, by rw [formFeed]; rfl⟩
  by_cases backspace : c = '\x08'
  · exact .inl ⟨'b', by rw [backspace]; rfl, by rw [backspace]; rfl⟩
  by_cases control : c.toNat < 0x20
  · refine .inr (.inl ⟨control, ?_⟩)
    simp [escapeChar, quote, backslash, newline, carriageReturn, tab, formFeed, backspace, control]
  · refine .inr (.inr ⟨quote, backslash, control, ?_⟩)
    simp [escapeChar, quote, backslash, newline, carriageReturn, tab, formFeed, backspace, control]

theorem length_escapeChar_pos (c : Char) : 0 < (escapeChar c).length := by
  rcases escapeChar_cases c with ⟨letter, hwritten, -⟩ | ⟨-, hwritten⟩ | ⟨-, -, -, hwritten⟩
  · rw [hwritten]
    exact Nat.zero_lt_succ _
  · rw [hwritten]
    exact Nat.zero_lt_succ _
  · rw [hwritten]
    exact Nat.zero_lt_succ _

/-- a backslash and a letter read as the character that the letter stands for -/
theorem readCharacters_letter {opening : List Char} {letter c : Char} (h : escaped? letter = some c) (fuel : Nat)
    (rest : List Char) :
    readCharacters opening (fuel + 1) ('\\' :: letter :: rest) =
      (readCharacters opening fuel rest).map fun r => (c :: r.1, r.2) := by
  have hletter : letter ≠ 'u' := by
    rintro rfl
    cases h
  have hescape : readEscape opening (letter :: rest) = .ok (c, rest) := by
    unfold readEscape
    split
    · rename_i hnil
      cases hnil
    · rename_i hcons
      exact absurd (List.cons.inj hcons).1 hletter
    · rename_i hcons
      obtain ⟨rfl, rfl⟩ := List.cons.inj hcons
      rw [h]
  rw [readCharacters]
  simp only [hescape, beq_iff_eq, Char.reduceEq, if_false, if_true]
  cases readCharacters opening fuel rest <;> rfl

/-- a backslash and the number of a control character read as that character, if anything follows -/
theorem readCharacters_number {opening : List Char} {c : Char} (control : c.toNat < 0x20) (fuel : Nat) {rest : List Char}
    (more : rest ≠ []) :
    readCharacters opening (fuel + 1) ('\\' :: 'u' :: hexDigits 4 c.toNat ++ rest) =
      (readCharacters opening fuel rest).map fun r => (c :: r.1, r.2) := by
  have hescape : readEscape opening ('u' :: (hexDigits 4 c.toNat ++ rest)) = .ok (c, rest) :=
    readUnicodeEscape_hexDigits control more
  rw [List.cons_append, List.cons_append, readCharacters]
  simp only [hescape, beq_iff_eq, Char.reduceEq, if_false, if_true]
  cases readCharacters opening fuel rest <;> rfl

/-- a character that needs no escape reads as itself -/
theorem readCharacters_plain {opening : List Char} {c : Char} (quote : c ≠ '"') (backslash : c ≠ '\\')
    (printed : ¬c.toNat < 0x20) (fuel : Nat) (rest : List Char) :
    readCharacters opening (fuel + 1) (c :: rest) = (readCharacters opening fuel rest).map fun r => (c :: r.1, r.2) := by
  rw [readCharacters]
  simp only [beq_iff_eq, quote, backslash, printed, if_false]
  cases readCharacters opening fuel rest <;> rfl

/-- one written character is read as itself, if anything follows -/
theorem readCharacters_escapeChar {opening : List Char} (c : Char) (fuel : Nat) {rest : List Char} (more : rest ≠ []) :
    readCharacters opening (fuel + 1) (escapeChar c ++ rest) =
      (readCharacters opening fuel rest).map fun r => (c :: r.1, r.2) := by
  rcases escapeChar_cases c with ⟨letter, hwritten, hletter⟩ | ⟨control, hwritten⟩ | ⟨quote, backslash, printed, hwritten⟩
  · rw [hwritten]
    exact readCharacters_letter hletter fuel rest
  · rw [hwritten]
    exact readCharacters_number control fuel more
  · rw [hwritten]
    exact readCharacters_plain quote backslash printed fuel rest

/-! ## Strings -/

theorem readCharacters_written (opening cs rest : List Char) {fuel : Nat} (enough : (cs.flatMap escapeChar).length < fuel) :
    readCharacters opening fuel (cs.flatMap escapeChar ++ '"' :: rest) = .ok (cs, rest) := by
  induction cs generalizing fuel with
  | nil =>
    obtain ⟨fuel, rfl⟩ := Nat.exists_eq_succ_of_ne_zero (Nat.ne_zero_of_lt enough)
    rfl
  | cons c cs ih =>
    obtain ⟨fuel, rfl⟩ := Nat.exists_eq_succ_of_ne_zero (Nat.ne_zero_of_lt enough)
    have hmore : cs.flatMap escapeChar ++ '"' :: rest ≠ [] := by simp
    have hpos := length_escapeChar_pos c
    rw [List.flatMap_cons, List.length_append] at enough
    rw [List.flatMap_cons, List.append_assoc, readCharacters_escapeChar c fuel hmore, ih (by omega)]
    rfl

/-- a written string is read back, up to its closing quote -/
theorem readString_written (s : String) (rest : List Char) :
    ∃ text, writeString s ++ rest = '"' :: text ∧ readString text = .ok (s, rest) := by
  refine ⟨s.toList.flatMap escapeChar ++ '"' :: rest, by simp [writeString], ?_⟩
  rw [readString, readCharacters_written]
  · simp
  · simp only [List.length_append]
    omega

end Harvest.Json
