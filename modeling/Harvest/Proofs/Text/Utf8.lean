/-
UTF-8 read and written: a byte sequence is read iff it is the bytes of a text, and then as that text.

- `split_append`, `eq_append_of_split`: the character that is cut off the front is the one whose bytes stand there.
- `decode_ok_iff`: what is read from a byte sequence is the text that it is the bytes of.
- `isText_iff`, `exists_malformed`: the byte sequences that are read are those of texts, and all others are refused.
-/
import Harvest.Text.Utf8
import Mathlib.Data.List.Basic

namespace Harvest.Text.Utf8

open String (utf8EncodeChar)

/-! ## Lead bytes -/

/-- a lead byte of two, three or four bytes, with the bounds that keep out longer forms, surrogates and too large numbers -/
theorem tailOf_eq_some_iff {lead count low high : Nat} :
    tailOf lead = some (count, low, high) ↔
      (0xC2 ≤ lead ∧ lead < 0xE0 ∧ count = 1 ∧ low = 0x80 ∧ high = 0xBF) ∨
      (0xE0 ≤ lead ∧ lead < 0xF0 ∧ count = 2 ∧ low = (if lead = 0xE0 then 0xA0 else 0x80) ∧
        high = (if lead = 0xED then 0x9F else 0xBF)) ∨
      (0xF0 ≤ lead ∧ lead ≤ 0xF4 ∧ count = 3 ∧ low = (if lead = 0xF0 then 0x90 else 0x80) ∧
        high = (if lead = 0xF4 then 0x8F else 0xBF)) := by
  unfold tailOf
  grind

/-! ## Characters -/

theorem splitTail_cons {start bytes : List UInt8} {b : UInt8} {count low high n : Nat}
    (within : low ≤ b.toNat ∧ b.toNat ≤ high) :
    splitTail start (count + 1) low high n (b :: bytes) =
      splitTail start count 0x80 0xBF (n * 0x40 + b.toNat % 0x40) bytes := by
  rw [splitTail]
  simp [within]

theorem exists_of_splitTail {start bytes rest : List UInt8} {count low high n : Nat} {c : Char}
    (h : splitTail start (count + 1) low high n bytes = .char c rest) :
    ∃ b more, bytes = b :: more ∧ low ≤ b.toNat ∧ b.toNat ≤ high ∧
      splitTail start count 0x80 0xBF (n * 0x40 + b.toNat % 0x40) more = .char c rest := by
  cases bytes with
  | nil => cases h
  | cons b more =>
    rw [splitTail] at h
    split at h
    · rename_i within
      simp only [Bool.and_eq_true, decide_eq_true_eq] at within
      exact ⟨b, more, rfl, within.1, within.2, h⟩
    · cases h

theorem split_lead {b : UInt8} {count low high : Nat} (multi : ¬b.toNat < 0x80)
    (tail : tailOf b.toNat = some (count, low, high)) (bytes : List UInt8) :
    split (b :: bytes) = splitTail bytes count low high (leadBits b.toNat count) bytes := by
  rw [split, if_neg multi, tail]

/-- the character whose bytes stand at the front is cut off -/
theorem split_append (c : Char) (rest : List UInt8) : split (utf8EncodeChar c ++ rest) = .char c rest := by
  have hself : Char.ofNat c.val.toNat = c := Char.ofNat_toNat c
  have hvalid : c.val.toNat < 0xD800 ∨ 0xDFFF < c.val.toNat ∧ c.val.toNat < 0x110000 := c.valid
  have hbyte : ∀ m < 256, (UInt8.ofNat m).toNat = m := fun m hm => UInt8.toNat_ofNat_of_lt' hm
  rw [utf8EncodeChar]
  generalize c.val.toNat = v at hself hvalid
  split_ifs with one two three
  · rw [List.singleton_append, split, hbyte v (by omega), if_pos (by omega), hself]
  · have hlead := hbyte (v / 64 % 32 + 192) (by omega)
    have hlast := hbyte (v % 64 + 128) (by omega)
    have htail : tailOf (v / 64 % 32 + 192) = some (1, 0x80, 0xBF) := tailOf_eq_some_iff.2 (by omega)
    have hvalue : leadBits (v / 64 % 32 + 192) 1 * 0x40 + (v % 64 + 128) % 0x40 = v := by
      simp only [leadBits]
      omega
    rw [List.cons_append, List.singleton_append, split_lead (by omega) (by rw [hlead, htail]), splitTail_cons (by omega),
      hlead, hlast, hvalue, splitTail, hself]
  · have hlead := hbyte (v / 4096 % 16 + 224) (by omega)
    have hmiddle := hbyte (v / 64 % 64 + 128) (by omega)
    have hlast := hbyte (v % 64 + 128) (by omega)
    generalize hdef : v / 4096 % 16 + 224 = lead at hlead ⊢
    have htail := tailOf_eq_some_iff.2 (Or.inr (Or.inl ⟨show 0xE0 ≤ lead by omega, by omega, rfl, rfl, rfl⟩))
    have hvalue : (leadBits lead 2 * 0x40 + (v / 64 % 64 + 128) % 0x40) * 0x40 + (v % 64 + 128) % 0x40 = v := by
      simp only [leadBits]
      omega
    rw [List.cons_append, List.cons_append, List.singleton_append, split_lead (by omega) (by rw [hlead, htail]),
      splitTail_cons (by split_ifs <;> omega), splitTail_cons (by omega), hlead, hmiddle, hlast, hvalue, splitTail, hself]
  · have hlead := hbyte (v / 262144 % 8 + 240) (by omega)
    have hsecond := hbyte (v / 4096 % 64 + 128) (by omega)
    have hthird := hbyte (v / 64 % 64 + 128) (by omega)
    have hlast := hbyte (v % 64 + 128) (by omega)
    generalize hdef : v / 262144 % 8 + 240 = lead at hlead ⊢
    have htail := tailOf_eq_some_iff.2 (Or.inr (Or.inr ⟨show 0xF0 ≤ lead by omega, by omega, rfl, rfl, rfl⟩))
    have hvalue : ((leadBits lead 3 * 0x40 + (v / 4096 % 64 + 128) % 0x40) * 0x40 +
        (v / 64 % 64 + 128) % 0x40) * 0x40 + (v % 64 + 128) % 0x40 = v := by
      simp only [leadBits]
      omega
    rw [List.cons_append, List.cons_append, List.cons_append, List.singleton_append,
      split_lead (by omega) (by rw [hlead, htail]), splitTail_cons (by split_ifs <;> omega), splitTail_cons (by omega),
      splitTail_cons (by omega), hlead, hsecond, hthird, hlast, hvalue, splitTail, hself]

theorem toNat_ofNat {n : Nat} (valid : n < 0xD800 ∨ 0xDFFF < n ∧ n < 0x110000) : (Char.ofNat n).val.toNat = n := by
  rw [Char.ofNat, dif_pos valid]
  rfl

/-- what is cut off the front is a character, and its bytes stand there -/
theorem eq_append_of_split {bytes rest : List UInt8} {c : Char} (h : split bytes = .char c rest) :
    bytes = utf8EncodeChar c ++ rest := by
  cases bytes with
  | nil => cases h
  | cons lead bytes =>
    rw [split] at h
    split at h
    · rename_i single
      cases h
      rw [utf8EncodeChar, toNat_ofNat (by omega), if_pos (by omega), UInt8.ofNat_toNat]
      rfl
    · split at h
      · cases h
      · rename_i count low high htail
        rcases tailOf_eq_some_iff.1 htail with ⟨hlow, hhigh, rfl, rfl, rfl⟩ | ⟨hlow, hhigh, rfl, rfl, rfl⟩ |
            ⟨hlow, hhigh, rfl, rfl, rfl⟩
        · obtain ⟨last, more, rfl, hlast, hlast', h⟩ := exists_of_splitTail h
          cases h
          generalize hn : leadBits lead.toNat 1 * 0x40 + last.toNat % 0x40 = n
          simp only [leadBits] at hn
          have hlead : n / 64 % 32 + 192 = lead.toNat := by omega
          have hlast : n % 64 + 128 = last.toNat := by omega
          rw [utf8EncodeChar, toNat_ofNat (by omega), if_neg (by omega), if_pos (by omega), hlead, hlast,
            UInt8.ofNat_toNat, UInt8.ofNat_toNat]
          rfl
        · obtain ⟨middle, more, rfl, hmiddle, hmiddle', h⟩ := exists_of_splitTail h
          obtain ⟨last, more, rfl, hlast, hlast', h⟩ := exists_of_splitTail h
          cases h
          -- no shorter form and no surrogate
          have hlong : 0x80 ≤ middle.toNat ∧ (lead.toNat = 0xE0 → 0xA0 ≤ middle.toNat) := by
            split_ifs at hmiddle <;> omega
          have hscalar : middle.toNat ≤ 0xBF ∧ (lead.toNat = 0xED → middle.toNat ≤ 0x9F) := by
            split_ifs at hmiddle' <;> omega
          generalize hn : (leadBits lead.toNat 2 * 0x40 + middle.toNat % 0x40) * 0x40 + last.toNat % 0x40 = n
          simp only [leadBits] at hn
          have hlead : n / 4096 % 16 + 224 = lead.toNat := by omega
          have hmiddle : n / 64 % 64 + 128 = middle.toNat := by omega
          have hlast : n % 64 + 128 = last.toNat := by omega
          rw [utf8EncodeChar, toNat_ofNat (by omega), if_neg (by omega), if_neg (by omega), if_pos (by omega), hlead,
            hmiddle, hlast, UInt8.ofNat_toNat, UInt8.ofNat_toNat, UInt8.ofNat_toNat]
          rfl
        · obtain ⟨second, more, rfl, hsecond, hsecond', h⟩ := exists_of_splitTail h
          obtain ⟨third, more, rfl, hthird, hthird', h⟩ := exists_of_splitTail h
          obtain ⟨last, more, rfl, hlast, hlast', h⟩ := exists_of_splitTail h
          cases h
          -- no shorter form and no number that is too large
          have hlong : 0x80 ≤ second.toNat ∧ (lead.toNat = 0xF0 → 0x90 ≤ second.toNat) := by
            split_ifs at hsecond <;> omega
          have hscalar : second.toNat ≤ 0xBF ∧ (lead.toNat = 0xF4 → second.toNat ≤ 0x8F) := by
            split_ifs at hsecond' <;> omega
          generalize hn : ((leadBits lead.toNat 3 * 0x40 + second.toNat % 0x40) * 0x40 + third.toNat % 0x40) * 0x40 +
            last.toNat % 0x40 = n
          simp only [leadBits] at hn
          have hlead : n / 262144 % 8 + 240 = lead.toNat := by omega
          have hsecond : n / 4096 % 64 + 128 = second.toNat := by omega
          have hthird : n / 64 % 64 + 128 = third.toNat := by omega
          have hlast : n % 64 + 128 = last.toNat := by omega
          rw [utf8EncodeChar, toNat_ofNat (by omega), if_neg (by omega), if_neg (by omega), if_neg (by omega), hlead,
            hsecond, hthird, hlast, UInt8.ofNat_toNat, UInt8.ofNat_toNat, UInt8.ofNat_toNat, UInt8.ofNat_toNat]
          rfl

/-! ## Texts -/

theorem splitTail_ne_done (start : List UInt8) (count low high n : Nat) (bytes : List UInt8) :
    splitTail start count low high n bytes ≠ .done := by
  fun_induction splitTail start count low high n bytes with
  | case1 => nofun
  | case2 => nofun
  | case3 _ _ _ _ _ _ _ ih => exact ih
  | case4 => nofun

theorem split_cons_ne_done (b : UInt8) (rest : List UInt8) : split (b :: rest) ≠ .done := by
  rw [split]
  split
  · nofun
  · split
    · nofun
    · exact splitTail_ne_done _ _ _ _ _ _

/-- the bytes of an array in order: the loop goes on from an index with the bytes before it reversed -/
theorem toList_loop (bytes : ByteArray) (i : Nat) (before : List UInt8) :
    ByteArray.toList.loop bytes i before = before.reverse ++ bytes.data.toList.drop i := by
  fun_induction ByteArray.toList.loop bytes i before with
  | case1 i before inside ih =>
    have hi : i < bytes.data.toList.length := by simpa using inside
    have hget : bytes.get! i = bytes.data.toList[i] := by simp [ByteArray.get!, inside]
    rw [ih, List.drop_eq_getElem_cons hi, hget, List.reverse_cons, List.append_assoc, List.singleton_append]
  | case2 i before outside =>
    rw [List.drop_eq_nil_of_le (by simpa using Nat.le_of_not_lt outside), List.append_nil]

/-- the bytes of a text are those of its characters -/
theorem encode_ofList (cs : List Char) : encode (String.ofList cs) = cs.flatMap utf8EncodeChar := by
  rw [encode, String.toUTF8, String.toByteArray_ofList, List.utf8Encode, ByteArray.toList, toList_loop,
    List.toList_data_toByteArray]
  rfl

theorem length_pos (c : Char) : 0 < (utf8EncodeChar c).length :=
  List.length_pos_iff.2 String.utf8EncodeChar_ne_nil

/-- the bytes of characters are read as these -/
theorem decodeFrom_encoded {fuel position : Nat} {cs : List Char} (enough : (cs.flatMap utf8EncodeChar).length ≤ fuel) :
    decodeFrom fuel position (cs.flatMap utf8EncodeChar) = .ok cs := by
  induction cs generalizing fuel position with
  | nil => cases fuel <;> rfl
  | cons c cs ih =>
    have hpos := length_pos c
    rw [List.flatMap_cons, List.length_append] at enough
    obtain ⟨fuel, rfl⟩ := Nat.exists_eq_succ_of_ne_zero (show fuel ≠ 0 by omega)
    have hothers : ∀ p, decodeFrom fuel p (cs.flatMap utf8EncodeChar) = .ok cs := fun _ => ih (by omega)
    rw [List.flatMap_cons, decodeFrom, split_append]
    simp only [hothers]

/-- the induction is on the bound of the number of characters, which no more bytes than that need -/
theorem eq_of_decodeFrom {fuel position : Nat} {bytes : List UInt8} {cs : List Char} (enough : bytes.length ≤ fuel)
    (h : decodeFrom fuel position bytes = .ok cs) : bytes = cs.flatMap utf8EncodeChar := by
  induction fuel generalizing position bytes cs with
  | zero =>
    cases h
    exact List.length_eq_zero_iff.1 (Nat.le_zero.1 enough)
  | succ fuel ih =>
    rw [decodeFrom] at h
    split at h
    · rename_i hdone
      cases h
      cases bytes with
      | nil => rfl
      | cons b rest => exact absurd hdone (split_cons_ne_done b rest)
    · rename_i c rest hchar
      obtain rfl := eq_append_of_split hchar
      have hpos := length_pos c
      rw [List.length_append] at enough
      split at h
      · cases h
      · rename_i others hothers
        cases h
        rw [List.flatMap_cons, ← ih (by omega) hothers]
    · cases h
    · cases h

/-- what is read from a byte sequence is the text that it is the bytes of -/
theorem decode_ok_iff {bytes : List UInt8} {cs : List Char} :
    decode bytes = .ok cs ↔ bytes = encode (String.ofList cs) := by
  rw [decode, encode_ofList]
  constructor
  · exact eq_of_decodeFrom (Nat.le_refl _)
  · rintro rfl
    exact decodeFrom_encoded (Nat.le_refl _)

theorem decode_encode (s : String) : decode (encode s) = .ok s.toList :=
  decode_ok_iff.2 (by rw [String.ofList_toList])

/-- the bytes are those of a text -/
def IsText (bytes : List UInt8) : Prop :=
  ∃ s : String, bytes = encode s

/-- a byte sequence is that of a text iff it is read -/
theorem isText_iff {bytes : List UInt8} : IsText bytes ↔ ∃ cs, decode bytes = .ok cs := by
  constructor
  · rintro ⟨s, rfl⟩
    exact ⟨_, decode_encode s⟩
  · rintro ⟨cs, h⟩
    exact ⟨_, decode_ok_iff.1 h⟩

/-- no byte sequence that is that of no text is read -/
theorem exists_malformed {bytes : List UInt8} (h : ¬IsText bytes) : ∃ m, decode bytes = .error m := by
  cases hdecode : decode bytes with
  | error m => exact ⟨m, rfl⟩
  | ok cs => exact absurd (isText_iff.2 ⟨cs, hdecode⟩) h

end Harvest.Text.Utf8
