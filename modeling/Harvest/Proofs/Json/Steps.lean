/-
What the readers of a JSON text come through, taken apart. The readers of values, items and entries hand their fuel to each
other; each statement about them that is proved by induction on the fuel starts from the cases here.

- `Encloses`, `Continues`: what follows an opening bracket, and what follows a part of a list or of a mapping.
- `readValue_iff`, `readItems_iff`, `readEntries_iff`: what is read with one more step of fuel.
- `readText_ok_iff`, `read_ok_iff`: what a whole text writes.
-/
import Harvest.Json.Reader

namespace Harvest.Json

/-! ## Parts -/

section

variable {α : Type}

/-- what follows an opening bracket: what closes it, or parts -/
inductive Encloses (close : Char) (make : List α → Data) (read : List Char → Read (List α)) :
    List Char → Data → List Char → Prop where
  | empty {cs rest : List Char} (closes : cs = close :: rest) : Encloses close make read cs (make []) rest
  | parts {cs rest : List Char} {parts : List α} (opens : cs.head? ≠ some close) (inside : read cs = .ok (parts, rest)) :
      Encloses close make read cs (make parts) rest

/-- what follows a part: what closes the parts, or a comma and more of them -/
inductive Continues (close : Char) (read : List Char → Read (List α)) (a : α) :
    List Char → List α → List Char → Prop where
  | last {after rest : List Char} (closes : skipSpace after = close :: rest) : Continues close read a after [a] rest
  | more {after next rest : List Char} {parts : List α} (comma : skipSpace after = ',' :: next)
      (others : read (skipSpace next) = .ok (parts, rest)) : Continues close read a after (a :: parts) rest

end

theorem head?_ne_of_not_cons {c : Char} {cs : List Char} (h : ∀ rest, cs = c :: rest → False) : cs.head? ≠ some c := by
  intro first
  obtain ⟨rest, rfl⟩ := List.head?_eq_some_iff.1 first
  exact h rest rfl

theorem not_cons_of_head?_ne {c : Char} {cs : List Char} (h : cs.head? ≠ some c) (rest : List Char) : cs = c :: rest → False := by
  rintro rfl
  exact h rfl

/-! ## Values -/

/-- what a value is read from, by the character that it starts with -/
inductive ReadsValue (fuel : Nat) : List Char → Data → List Char → Prop where
  | str {cs rest : List Char} {s : String} (string : readString cs = .ok (s, rest)) :
      ReadsValue fuel ('"' :: cs) (.str s) rest
  | list {cs rest : List Char} {d : Data} (inside : Encloses ']' .list (readItems fuel) (skipSpace cs) d rest) :
      ReadsValue fuel ('[' :: cs) d rest
  | dict {cs rest : List Char} {d : Data}
      (inside : Encloses '\x7d' (fun entries => .dict (Entries.ofList entries)) (readEntries fuel) (skipSpace cs) d rest) :
      ReadsValue fuel ('\x7b' :: cs) d rest
  | scalar {cs rest : List Char} {d : Data}
      (plain : cs.head? ≠ some '"' ∧ cs.head? ≠ some '[' ∧ cs.head? ≠ some '\x7b')
      (scalar : readScalar cs = .ok (d, rest)) : ReadsValue fuel cs d rest

variable {fuel : Nat} {cs rest : List Char}

theorem readValue_iff {d : Data} : readValue (fuel + 1) cs = .ok (d, rest) ↔ ReadsValue fuel cs d rest := by
  constructor
  · intro h
    unfold readValue at h
    split at h
    · split at h
      · cases h
      · rename_i hstring
        cases h
        exact .str hstring
    · split at h
      · rename_i hclose
        cases h
        exact .list (.empty hclose)
      · rename_i hopen
        split at h
        · cases h
        · rename_i hitems
          cases h
          exact .list (.parts (head?_ne_of_not_cons hopen) hitems)
    · split at h
      · rename_i hclose
        cases h
        exact .dict (.empty hclose)
      · rename_i hopen
        split at h
        · cases h
        · rename_i hentries
          cases h
          exact .dict (.parts (head?_ne_of_not_cons hopen) hentries)
    · rename_i hquote hbracket hbrace
      exact .scalar ⟨head?_ne_of_not_cons hquote, head?_ne_of_not_cons hbracket, head?_ne_of_not_cons hbrace⟩ h
  · intro h
    cases h with
    | str string => rw [readValue, string]
    | @list cs _ _ inside =>
      rw [readValue]
      cases inside with
      | empty closes =>
        rw [closes]
        rfl
      | parts opens inside =>
        split
        · rename_i closes
          exact (not_cons_of_head?_ne opens _ closes).elim
        · rw [inside]
    | @dict cs _ _ inside =>
      rw [readValue]
      cases inside with
      | empty closes =>
        rw [closes]
        rfl
      | parts opens inside =>
        split
        · rename_i closes
          exact (not_cons_of_head?_ne opens _ closes).elim
        · rw [inside]
    | scalar plain scalar =>
      obtain ⟨quote, bracket, brace⟩ := plain
      rw [readValue]
      · exact scalar
      · exact not_cons_of_head?_ne quote
      · exact not_cons_of_head?_ne bracket
      · exact not_cons_of_head?_ne brace

theorem readItems_iff {items : List Data} :
    readItems (fuel + 1) cs = .ok (items, rest) ↔
      ∃ item after, readValue fuel cs = .ok (item, after) ∧ Continues ']' (readItems fuel) item after items rest := by
  rw [readItems]
  constructor
  · intro h
    split at h
    · cases h
    · rename_i item after hitem
      refine ⟨item, after, hitem, ?_⟩
      split at h
      · rename_i hclose
        cases h
        exact .last hclose
      · rename_i hcomma
        split at h
        · cases h
        · rename_i hothers
          cases h
          exact .more hcomma hothers
      · cases h
  · rintro ⟨item, after, hitem, continues⟩
    rw [hitem]
    cases continues with
    | last closes => simp only [closes]
    | more comma others => simp only [comma, others]

theorem readEntries_iff {entries : List (String × Data)} :
    readEntries (fuel + 1) cs = .ok (entries, rest) ↔
      ∃ text key after value behind last, cs = '"' :: text ∧ readString text = .ok (key, after) ∧
        skipSpace after = ':' :: value ∧ readValue fuel (skipSpace value) = .ok (last, behind) ∧
        Continues '\x7d' (readEntries fuel) (key, last) behind entries rest := by
  constructor
  · intro h
    unfold readEntries at h
    split at h
    · split at h
      · cases h
      · rename_i hkey
        split at h
        · rename_i hcolon
          split at h
          · cases h
          · rename_i hvalue
            refine ⟨_, _, _, _, _, _, rfl, hkey, hcolon, hvalue, ?_⟩
            split at h
            · rename_i hclose
              cases h
              exact .last hclose
            · rename_i hcomma
              split at h
              · cases h
              · rename_i hothers
                cases h
                exact .more hcomma hothers
            · cases h
        · cases h
    · cases h
  · rintro ⟨text, key, after, value, behind, last, rfl, hkey, hcolon, hvalue, continues⟩
    rw [readEntries, hkey]
    simp only [hcolon, hvalue]
    cases continues with
    | last closes => simp only [closes]
    | more comma others => simp only [comma, others]

/-! ## Texts -/

/-- a value stands in a text with white space around it -/
theorem readText_ok_iff {d : Data} :
    readText cs = .ok d ↔
      cs.head? ≠ some '\uFEFF' ∧ ∃ rest, readValue (2 * (skipSpace cs).length + 1) (skipSpace cs) = .ok (d, rest) ∧
        skipSpace rest = [] := by
  unfold readText
  split
  · simp
  · rename_i hmark
    simp only
    constructor
    · intro h
      split at h
      · cases h
      · rename_i rest hvalue
        split at h
        · rename_i hrest
          cases h
          exact ⟨head?_ne_of_not_cons hmark, rest, hvalue, hrest⟩
        · cases h
    · rintro ⟨-, rest, hvalue, hrest⟩
      simp only [hvalue, hrest]

theorem read_ok_iff {text : String} {d : Data} : read text = .ok d ↔ readText text.toList = .ok d := by
  unfold read
  split
  · rename_i value hvalue
    simp only [hvalue, Except.ok.injEq]
  · rename_i e he
    simp only [he, reduceCtorEq]

end Harvest.Json
