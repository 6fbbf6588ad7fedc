/-
A written text reads as what was written. Floating-point numbers, bytes, objects and repeated keys aside, every tree has a
text, and a reader that comes to this text reads that tree and stops behind it.

- `Written`: a text that a reader takes for the data, whatever can follow a value.
- `ReadsParts.read_written`: a reader of parts reads them one after the other, with separators between them.
- `exists_written`: the text of a tree is written for it.
- `summary_decodes`: the value of an object node is a text, and it decodes to the object.
-/
import Harvest.Document
import Harvest.Proofs.Data.Entries
import Harvest.Proofs.Json.Strings
import Harvest.Proofs.Node.Place
import Harvest.Proofs.Number.Numeral

namespace Harvest

/-! ## Data that has an exact text -/

namespace Data

/-- a part of a tree whose text says all about it: no floating-point number, no bytes, no object, and no repeated key -/
def isFaithfulPart : Data → Bool
  | float _ | bytes _ | object _ _ => false
  | d => d.hasEachKeyOnce

/-- a tree of null, truth values, integers, texts, lists and mappings, with each key of a mapping once -/
def isFaithful (d : Data) : Bool :=
  d.all isFaithfulPart

theorem isFaithful_list_iff {items : List Data} :
    (list items).isFaithful = true ↔ ∀ d ∈ items, d.isFaithful = true := by
  simp [isFaithful, all_list_iff, isFaithfulPart, hasEachKeyOnce]

theorem isFaithful_dict_iff {entries : List (String × Data)} :
    (dict entries).isFaithful = true ↔ (Entries.keys entries).Nodup ∧ ∀ e ∈ entries, e.2.isFaithful = true := by
  simp [isFaithful, all_dict_iff, isFaithfulPart, hasEachKeyOnce]

end Data

namespace Json

open Harvest.Number Harvest.Text

/-! ## Written texts -/

/-- what can follow a value inside a list or a mapping, or nothing at all -/
def Closes (rest : List Char) : Prop :=
  ∀ c ∈ rest.head?, c = ',' ∨ c = ']' ∨ c = '\x7d'

/-- the text is taken for the data, whatever can follow a value; what starts it is no white space, and closes no list -/
structure Written (d : Data) (text : List Char) : Prop where
  begins : ∃ c more, text = c :: more ∧ isSpace c = false ∧ c ≠ ']'
  reads : ∀ fuel rest, 2 * text.length ≤ fuel → Closes rest → readValue fuel (text ++ rest) = .ok (d, rest)

/-- the text is taken for the entry -/
def WrittenEntry (e : String × Data) (text : List Char) : Prop :=
  ∃ value, text = writeString e.1 ++ ':' :: ' ' :: value ∧ Written e.2 value

theorem closes_cons {c : Char} (h : c = ',' ∨ c = ']' ∨ c = '\x7d') (rest : List Char) : Closes (c :: rest) := by
  rintro d hd
  obtain rfl := Option.some.inj hd
  exact h

/-- no numeral goes on with what can follow a value -/
theorem Closes.ends {rest : List Char} (closes : Closes rest) : Numeral.Ends rest := by
  intro c hc
  rcases closes c hc with rfl | rfl | rfl
  · decide
  · decide
  · decide

theorem skipSpace_blank (rest : List Char) : skipSpace (' ' :: rest) = skipSpace rest :=
  skipSpace_space rfl rest

/-! ## Scalars -/

theorem readValue_scalar {c : Char} (quote : c ≠ '"') (bracket : c ≠ '[') (brace : c ≠ '\x7b') (fuel : Nat)
    (rest : List Char) : readValue (fuel + 1) (c :: rest) = readScalar (c :: rest) := by
  unfold readValue
  split
  · rename_i h
    exact absurd (List.cons.inj h).1 quote
  · rename_i h
    exact absurd (List.cons.inj h).1 bracket
  · rename_i h
    exact absurd (List.cons.inj h).1 brace
  · rfl

theorem written_of_scalar {d : Data} {c : Char} {more : List Char} (blank : isSpace c = false) (closing : c ≠ ']')
    (quote : c ≠ '"') (bracket : c ≠ '[') (brace : c ≠ '\x7b')
    (reads : ∀ rest, Closes rest → readScalar (c :: more ++ rest) = .ok (d, rest)) : Written d (c :: more) where
  begins := ⟨c, more, rfl, blank, closing⟩
  reads fuel rest enough closes := by
    rw [List.length_cons] at enough
    obtain ⟨fuel, rfl⟩ := Nat.exists_eq_succ_of_ne_zero (show fuel ≠ 0 by omega)
    rw [List.cons_append, readValue_scalar quote bracket brace]
    exact reads rest closes

theorem written_null : Written .null "null".toList :=
  written_of_scalar (by decide) (by decide) (by decide) (by decide) (by decide) fun _ _ => rfl

theorem written_bool (b : Bool) : Written (.bool b) (if b then "true" else "false").toList := by
  cases b with
  | false => exact written_of_scalar (by decide) (by decide) (by decide) (by decide) (by decide) fun _ _ => rfl
  | true => exact written_of_scalar (by decide) (by decide) (by decide) (by decide) (by decide) fun _ _ => rfl

/-- no word starts the way an integer does -/
theorem readWord?_digit {c : Char} (digit : isAsciiDigit c = true) (rest : List Char) : readWord? (c :: rest) = none := by
  have hn : 'n' ≠ c := by rintro rfl; cases digit
  have ht : 't' ≠ c := by rintro rfl; cases digit
  have hf : 'f' ≠ c := by rintro rfl; cases digit
  have hN : 'N' ≠ c := by rintro rfl; cases digit
  have hI : 'I' ≠ c := by rintro rfl; cases digit
  have hminus : '-' ≠ c := by rintro rfl; cases digit
  simp [readWord?, words, hn, ht, hf, hN, hI, hminus]

theorem readWord?_minus {c : Char} (digit : isAsciiDigit c = true) (rest : List Char) :
    readWord? ('-' :: c :: rest) = none := by
  have hI : 'I' ≠ c := by rintro rfl; cases digit
  simp [readWord?, words, hI]

theorem readScalar_intText (i : Int) {rest : List Char} (closes : Closes rest)
    (word : readWord? ((Data.intText i).toList ++ rest) = none) :
    readScalar ((Data.intText i).toList ++ rest) = .ok (.int i, rest) := by
  obtain ⟨n, hsplit, hvalue⟩ := Numeral.split_intText i closes.ends
  simp [readScalar, word, hsplit, numeralValue, hvalue]

theorem written_int (i : Int) : Written (.int i) (Data.intText i).toList := by
  obtain ⟨c, more, hdigits, digit⟩ := exists_toDigits_eq_cons i.natAbs
  have hread : ∀ rest, Closes rest → readWord? ((Data.intText i).toList ++ rest) = none →
      readScalar ((Data.intText i).toList ++ rest) = .ok (.int i, rest) := fun _ => readScalar_intText i
  by_cases negative : i < 0
  · have htext : (Data.intText i).toList = '-' :: c :: more := by simp [Data.intText, negative, hdigits]
    rw [htext] at hread ⊢
    exact written_of_scalar (by decide) (by decide) (by decide) (by decide) (by decide)
      fun rest closes => hread rest closes (readWord?_minus digit _)
  · have htext : (Data.intText i).toList = c :: more := by simp [Data.intText, negative, hdigits]
    have hother : ∀ d, isAsciiDigit d = false → c ≠ d := by
      rintro d hd rfl
      exact absurd digit (by simp [hd])
    have hblank : isSpace c = false := by
      simp [isSpace, hother ' ' rfl, hother '\t' rfl, hother '\n' rfl, hother '\r' rfl]
    rw [htext] at hread ⊢
    exact written_of_scalar hblank (hother ']' rfl) (hother '"' rfl) (hother '[' rfl) (hother '\x7b' rfl)
      fun rest closes => hread rest closes (readWord?_digit digit _)

theorem written_str (s : String) : Written (.str s) (writeString s) where
  begins := ⟨'"', _, rfl, by decide, by decide⟩
  reads fuel rest enough _ := by
    obtain ⟨fuel, rfl⟩ := Nat.exists_eq_succ_of_ne_zero (show fuel ≠ 0 by simp [writeString] at enough; omega)
    obtain ⟨text, htext, hread⟩ := readString_written s rest
    rw [htext, readValue, hread]

/-! ## Sequences -/

/-- a reader of one or more parts, up to the character that closes them; `W` relates each part to its text -/
structure ReadsParts {α : Type} (W : α → List Char → Prop) (read : Nat → List Char → Read (List α)) (close : Char) :
    Prop where
  begins : ∀ {a text}, W a text → ∃ c more, text = c :: more ∧ isSpace c = false ∧ c ≠ close
  /-- one part, and what closes the sequence -/
  last : ∀ {a text fuel}, W a text → 2 * text.length ≤ fuel → ∀ rest,
    read (fuel + 1) (text ++ close :: rest) = .ok ([a], rest)
  /-- one part, and more of them after a comma -/
  more : ∀ {a text fuel others parts rest}, W a text → 2 * text.length ≤ fuel → skipSpace others = others →
    read fuel others = .ok (parts, rest) → read (fuel + 1) (text ++ ',' :: ' ' :: others) = .ok (a :: parts, rest)

section

variable {α : Type} {W : α → List Char → Prop} {read : Nat → List Char → Read (List α)} {close : Char}

/-- what is written with separators starts as its first part does -/
theorem ReadsParts.exists_start (reader : ReadsParts W read close) {a : α} {text : List Char} (first : W a text)
    (texts : List (List Char)) (rest : List Char) :
    ∃ c tail, ", ".toList.intercalate (text :: texts) ++ rest = c :: tail ∧ isSpace c = false ∧ c ≠ close := by
  obtain ⟨c, more, rfl, blank, closing⟩ := reader.begins first
  cases texts with
  | nil => exact ⟨c, more ++ rest, by rw [List.intercalate_singleton, List.cons_append], blank, closing⟩
  | cons next texts => exact ⟨c, _, by rw [List.intercalate_cons_cons]; rfl, blank, closing⟩

/-- the induction is on the parts and their texts; each part takes two characters of separator and one step of fuel -/
theorem ReadsParts.read_written (reader : ReadsParts W read close) {parts : List α} {texts : List (List Char)}
    (written : List.Forall₂ W parts texts) (nonempty : parts ≠ []) (fuel : Nat)
    (enough : 2 * (", ".toList.intercalate texts).length + 1 ≤ fuel) (rest : List Char) :
    read fuel (", ".toList.intercalate texts ++ close :: rest) = .ok (parts, rest) := by
  induction written generalizing fuel with
  | nil => exact absurd rfl nonempty
  | @cons a text parts texts first others ih =>
    obtain ⟨fuel, rfl⟩ := Nat.exists_eq_succ_of_ne_zero (Nat.ne_zero_of_lt enough)
    cases others with
    | nil =>
      rw [List.intercalate_singleton] at enough ⊢
      exact reader.last first (by omega) rest
    | @cons next nextText parts texts second others =>
      obtain ⟨c, tail, hstart, blank, -⟩ := reader.exists_start second texts (close :: rest)
      have hlength : (", ".toList).length = 2 := rfl
      rw [List.intercalate_cons_cons, List.length_append, List.length_append, hlength] at enough
      have hothers := ih (List.cons_ne_nil _ _) fuel (by omega)
      have hskip : skipSpace (", ".toList.intercalate (nextText :: texts) ++ close :: rest) =
          ", ".toList.intercalate (nextText :: texts) ++ close :: rest := by
        rw [hstart, skipSpace_cons blank]
      rw [List.intercalate_cons_cons, List.append_assoc, List.append_assoc]
      exact reader.more first (by omega) hskip hothers

end

/-! ## Lists -/

theorem readsParts_items : ReadsParts Written readItems ']' where
  begins written := written.begins
  last written enough rest := by
    have hskip : skipSpace (']' :: rest) = ']' :: rest := skipSpace_cons (by decide) rest
    have closes : Closes (']' :: rest) := closes_cons (by simp) rest
    simp only [readItems, written.reads _ _ enough closes, hskip]
  more {a text fuel others parts rest} written enough start hothers := by
    have hskip : skipSpace (',' :: ' ' :: others) = ',' :: ' ' :: others := skipSpace_cons (by decide) _
    have closes : Closes (',' :: ' ' :: others) := closes_cons (by simp) _
    simp only [readItems, written.reads _ _ enough closes, hskip, skipSpace_blank, start, hothers]

theorem written_list {items : List Data} {texts : List (List Char)} (written : List.Forall₂ Written items texts) :
    Written (.list items) ('[' :: ", ".toList.intercalate texts ++ [']']) where
  begins := ⟨'[', _, rfl, by decide, by decide⟩
  reads fuel rest enough _ := by
    simp only [List.length_cons, List.length_append, List.length_nil] at enough
    obtain ⟨fuel, rfl⟩ := Nat.exists_eq_succ_of_ne_zero (show fuel ≠ 0 by omega)
    cases written with
    | nil =>
      rw [List.intercalate_nil]
      simp [readValue, skipSpace_cons (show isSpace ']' = false by decide)]
    | @cons d text items texts first others =>
      obtain ⟨c, tail, hstart, blank, closing⟩ := readsParts_items.exists_start first texts (']' :: rest)
      have hitems := readsParts_items.read_written (.cons first others) (List.cons_ne_nil _ _) fuel (by omega) rest
      rw [List.cons_append, List.cons_append, List.append_assoc, List.singleton_append]
      rw [hstart] at hitems ⊢
      simp only [readValue, skipSpace_cons blank]
      split
      · rename_i h
        exact absurd (List.cons.inj h).1 closing
      · rw [hitems]

/-! ## Mappings -/

/-- the key of an entry and its value, before what closes the value -/
theorem readValue_entry {e : String × Data} {text : List Char} (written : WrittenEntry e text) {fuel : Nat}
    (enough : 2 * text.length ≤ fuel) {rest : List Char} (closes : Closes rest) :
    ∃ string colon value, text ++ rest = '"' :: string ∧ readString string = .ok (e.1, colon) ∧
      skipSpace colon = ':' :: value ∧ readValue fuel (skipSpace value) = .ok (e.2, rest) := by
  obtain ⟨value, rfl, hvalue⟩ := written
  obtain ⟨c, tail, rfl, blank, -⟩ := hvalue.begins
  obtain ⟨string, hstring, hread⟩ := readString_written e.1 (':' :: ' ' :: (c :: tail ++ rest))
  refine ⟨string, _, ' ' :: (c :: tail ++ rest), ?_, hread, skipSpace_cons (by decide) _, ?_⟩
  · rw [← hstring]
    simp
  · simp only [List.length_append, List.length_cons] at enough
    rw [skipSpace_blank, List.cons_append, skipSpace_cons blank]
    exact hvalue.reads fuel rest (by simp only [List.length_cons]; omega) closes

theorem readsParts_entries : ReadsParts WrittenEntry readEntries '\x7d' where
  begins written := by
    obtain ⟨value, rfl, -⟩ := written
    exact ⟨'"', _, rfl, by decide, by decide⟩
  last written enough rest := by
    have hskip : skipSpace ('\x7d' :: rest) = '\x7d' :: rest := skipSpace_cons (by decide) rest
    have closes : Closes ('\x7d' :: rest) := closes_cons (by simp) rest
    obtain ⟨string, colon, value, htext, hstring, hcolon, hvalue⟩ := readValue_entry written enough closes
    rw [htext, readEntries]
    simp only [hstring, hcolon, hvalue, hskip]
  more {a text fuel others parts rest} written enough start hothers := by
    have hskip : skipSpace (',' :: ' ' :: others) = ',' :: ' ' :: others := skipSpace_cons (by decide) _
    have closes : Closes (',' :: ' ' :: others) := closes_cons (by simp) _
    obtain ⟨string, colon, value, htext, hstring, hcolon, hvalue⟩ := readValue_entry written enough closes
    rw [htext, readEntries]
    simp only [hstring, hcolon, hvalue, hskip, skipSpace_blank, start, hothers]

theorem written_dict {entries : List (String × Data)} {texts : List (List Char)}
    (written : List.Forall₂ WrittenEntry entries texts) (distinct : (Entries.keys entries).Nodup) :
    Written (.dict entries) ('\x7b' :: ", ".toList.intercalate texts ++ ['\x7d']) where
  begins := ⟨'\x7b', _, rfl, by decide, by decide⟩
  reads fuel rest enough _ := by
    simp only [List.length_cons, List.length_append, List.length_nil] at enough
    obtain ⟨fuel, rfl⟩ := Nat.exists_eq_succ_of_ne_zero (show fuel ≠ 0 by omega)
    cases written with
    | nil =>
      rw [List.intercalate_nil]
      simp [readValue, skipSpace_cons (show isSpace '\x7d' = false by decide)]
    | @cons e text entries texts first others =>
      obtain ⟨c, tail, hstart, blank, closing⟩ := readsParts_entries.exists_start first texts ('\x7d' :: rest)
      have hentries := readsParts_entries.read_written (.cons first others) (List.cons_ne_nil _ _) fuel (by omega) rest
      rw [List.cons_append, List.cons_append, List.append_assoc, List.singleton_append]
      rw [hstart] at hentries ⊢
      simp only [readValue, skipSpace_cons blank]
      split
      · rename_i h
        exact absurd (List.cons.inj h).1 closing
      · simp only [hentries, Entries.ofList_of_nodup distinct]

/-! ## Trees -/

mutual

/-- the writer gives a tree a text that is written for it -/
theorem exists_written (d : Data) (faithful : d.isFaithful = true) : ∃ text, write d = .ok text ∧ Written d text := by
  match d with
  | .null => exact ⟨_, rfl, written_null⟩
  | .bool b => exact ⟨_, rfl, written_bool b⟩
  | .int i => exact ⟨_, rfl, written_int i⟩
  | .str s => exact ⟨_, rfl, written_str s⟩
  | .list items =>
    obtain ⟨parts, hparts, written⟩ := exists_writtenItems items (Data.isFaithful_list_iff.1 faithful)
    exact ⟨_, by rw [write, hparts]; rfl, written_list written⟩
  | .dict entries =>
    obtain ⟨distinct, hentries⟩ := Data.isFaithful_dict_iff.1 faithful
    obtain ⟨parts, hparts, written⟩ := exists_writtenEntries entries hentries
    exact ⟨_, by rw [write, hparts]; rfl, written_dict written distinct⟩
  | .float _ | .bytes _ | .object _ _ => cases faithful

theorem exists_writtenItems (items : List Data) (faithful : ∀ d ∈ items, d.isFaithful = true) :
    ∃ parts, writeItems items = .ok parts ∧ List.Forall₂ Written items parts := by
  match items with
  | [] => exact ⟨[], rfl, .nil⟩
  | d :: rest =>
    obtain ⟨hfirst, hrest⟩ := List.forall_mem_cons.1 faithful
    obtain ⟨text, htext, first⟩ := exists_written d hfirst
    obtain ⟨parts, hparts, others⟩ := exists_writtenItems rest hrest
    exact ⟨text :: parts, by simp [writeItems, htext, hparts, Except.map], .cons first others⟩

theorem exists_writtenEntries (entries : List (String × Data)) (faithful : ∀ e ∈ entries, e.2.isFaithful = true) :
    ∃ parts, writeEntries entries = .ok parts ∧ List.Forall₂ WrittenEntry entries parts := by
  match entries with
  | [] => exact ⟨[], rfl, .nil⟩
  | (key, d) :: rest =>
    obtain ⟨hfirst, hrest⟩ := List.forall_mem_cons.1 faithful
    obtain ⟨text, htext, first⟩ := exists_written d hfirst
    obtain ⟨parts, hparts, others⟩ := exists_writtenEntries rest hrest
    exact ⟨_ :: parts, by simp [writeEntries, htext, hparts, Except.map], .cons ⟨text, rfl, first⟩ others⟩

end

/-- a written text is read as a whole; no value starts with a byte order mark -/
theorem Written.read {d : Data} {text : List Char} (written : Written d text) : Json.read (String.ofList text) = .ok d := by
  obtain ⟨c, more, rfl, blank, -⟩ := written.begins
  have hread := written.reads (2 * (c :: more).length + 1) [] (by omega) nofun
  rw [List.append_nil] at hread
  have hmark : c ≠ '\uFEFF' := by
    rintro rfl
    rw [readValue_scalar (by decide) (by decide) (by decide)] at hread
    cases hread
  have htext : readText (c :: more) = .ok d := by
    unfold readText
    split
    · rename_i h
      exact absurd (List.cons.inj h).1 hmark
    · simp only [skipSpace_cons blank, hread]
      rfl
  rw [Json.read, String.toList_ofList, htext]

end Json

/-! ## Object nodes -/

/-- **The text of an object decodes to the object.** The document is a tree of null, truth values, integers, texts, lists and
mappings without repeated keys, and any path leads from its root to the node of a mapping. Then the value of this node is a
text, and decoding the text gives this mapping: the same keys in the same order, with the same values. -/
theorem summary_decodes {document node : Node} {tree : Data} (json : document.content = .json tree)
    (faithful : tree.isFaithful = true) (p : Path) (reached : node ∈ p.resolve document) {entries : List (String × Data)}
    (object : node.content = .json (.dict entries)) :
    ∃ s, node.value = .ok (.str s) ∧ Document.decodeJson (.str s) = .ok (.dict entries) := by
  obtain ⟨part, hpart, hfaithful⟩ := (holds_of_mem_resolve reached).json json
  obtain rfl := Content.json.inj (object.symm.trans hpart)
  obtain ⟨text, hwrite, written⟩ := Json.exists_written (.dict entries) (hfaithful _ faithful)
  refine ⟨String.ofList text, ?_, ?_⟩
  · simp only [Node.value, object, hwrite]
  · simp only [Document.decodeJson, written.read]

/-- a book with characters that need escapes, and parts of every kind -/
def quotedBook : List (String × Data) := [
  ("say \"hi\"", .str "back\\slash, tab\t, bell\x07, Käse"),
  ("editions", .list [.int (-30), .int 0, .bool true, .null, .list [], .dict [("né", .int 1), ("a", .dict [])]])]

/-- the book stands on a shelf, after a gap -/
def quotedShelf : Node :=
  { document := 0, place := [], content := .json (.dict [("shelf", .list [.null, .dict quotedBook])]) }

/-- the text of the book on the shelf decodes to the book -/
theorem quoted_book_decodes :
    ∃ node s, Path.resolve ⟨"$.shelf", [.child "shelf"]⟩ quotedShelf = [node] ∧ node.content = .json (.dict quotedBook) ∧
      node.value = .ok (.str s) ∧ Document.decodeJson (.str s) = .ok (.dict quotedBook) := by
  have hresolve : Path.resolve ⟨"$.shelf", [.child "shelf"]⟩ quotedShelf =
      [quotedShelf.below [0, 1] (.json (.dict quotedBook))] := rfl
  obtain ⟨s, hvalue, hdecode⟩ := summary_decodes (show quotedShelf.content = .json _ from rfl) (by decide +kernel)
    ⟨"$.shelf", [.child "shelf"]⟩ (by rw [hresolve]; exact List.mem_singleton.2 rfl) rfl
  exact ⟨_, s, hresolve, rfl, hvalue, hdecode⟩

end Harvest
