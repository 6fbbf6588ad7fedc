/-
Names among the tokens before the root element. A token that is a name is made of letters of names, with at most one colon
between them. Only the last token may be more than that: the document can end inside it.

- `letters_of_scanNameToken`: what is scanned as a name, and does not go on as another token.
- `letters_of_scanToken`: a token that is a name.
- `lettered_tokensWithin`: the names in the list of tokens of a text.
-/
import Harvest.Proofs.Results
import Harvest.Proofs.Xml.Names
import Mathlib.Data.List.Infix

namespace Harvest.Xml

/-! ## Tokens that are names -/

/-- the token is a name, with or without a colon -/
def TokenKind.isAnyName : TokenKind → Bool
  | name => true
  | qualifiedName => true
  | _ => false

theorem isAnyName_kind (t : Token) : t.kind.isAnyName = isAnyName t := by
  cases h : t.kind <;> simp [isAnyName, TokenKind.isAnyName, h]

section

variable {w : Within} {ss rest : List Symbol} {kind found : TokenKind}

/-- a name token does not become a name again -/
theorem noName_of_scanNameToken {fuel : Nat} (h : scanNameToken w fuel .nameToken ss = .ok (found, rest)) :
    found.isAnyName = false := by
  induction fuel generalizing ss with
  | zero =>
    cases h
    rfl
  | succ fuel ih =>
    unfold scanNameToken at h
    split at h
    · cases h
      rfl
    · split at h
      · cases h
        rfl
      · split at h
        · exact ih h
        · split at h
          · rename_i hcount
            simp at hcount
          · cases h

/-- after its colon a name goes on without another one -/
theorem letters_of_scanNameToken_qualified {fuel : Nat} (h : scanNameToken w fuel .qualifiedName ss = .ok (found, rest))
    (names : found.isAnyName = true) : ∃ taken, ss = taken ++ rest ∧ AllLetters (charsOf taken) := by
  cases fuel with
  | zero =>
    cases h
    exact ⟨[], rfl, by simp [charsOf, AllLetters]⟩
  | succ fuel =>
    unfold scanNameToken at h
    have hsplit := List.takeWhile_append_dropWhile (p := Symbol.inName) (l := ss)
    split at h
    · rename_i hnil
      cases h
      exact ⟨_, hnil ▸ hsplit.symm, allLetters_takeWhile ss⟩
    · rename_i s after hcons
      split at h
      · cases h
        exact ⟨_, hcons ▸ hsplit.symm, allLetters_takeWhile ss⟩
      · split at h
        · exact absurd names (Bool.eq_false_iff.1 (noName_of_scanNameToken h))
        · split at h
          · cases h
            cases names
          · cases h

/-- what is scanned as a name after its first character are letters, with at most one colon between them -/
theorem letters_of_scanNameToken {fuel : Nat} (h : scanNameToken w fuel .name ss = .ok (found, rest))
    (names : found.isAnyName = true) {first : Symbol} (hfirst : first.inName = true) :
    ∃ taken, ss = taken ++ rest ∧ QualifiedLetters (charsOf (first :: taken)) := by
  have hplain : AllLetters (charsOf (first :: ss.takeWhile Symbol.inName)) :=
    List.forall_mem_cons.2 ⟨Symbol.inSomeName_of_inName hfirst, allLetters_takeWhile ss⟩
  have hsplit := List.takeWhile_append_dropWhile (p := Symbol.inName) (l := ss)
  cases fuel with
  | zero =>
    cases h
    exact ⟨[], rfl, Or.inl (allLetters_of_inName (by simpa using hfirst))⟩
  | succ fuel =>
    unfold scanNameToken at h
    split at h
    · rename_i hnil
      cases h
      exact ⟨_, hnil ▸ hsplit.symm, Or.inl hplain⟩
    · rename_i s after hcons
      rw [hcons] at hsplit
      split at h
      · cases h
        exact ⟨_, hsplit.symm, Or.inl hplain⟩
      · split at h
        · rename_i hcolon
          split at h
          · cases h
          · split at h
            · obtain ⟨taken, htaken, hletters⟩ := letters_of_scanNameToken_qualified h names
              refine ⟨ss.takeWhile Symbol.inName ++ s :: taken, ?_, Or.inr ⟨_, _, ?_, hplain, hletters⟩⟩
              · rw [List.append_assoc, List.cons_append, ← htaken]
                exact hsplit.symm
              · have hchar : s.char = ':' := by simpa using hcolon
                simp [charsOf, hchar]
            · split at h
              · cases h
              · exact absurd names (Bool.eq_false_iff.1 (noName_of_scanNameToken h))
          · exact absurd names (Bool.eq_false_iff.1 (noName_of_scanNameToken h))
        · split at h
          · cases h
            cases names
          · cases h

/-! ### Other tokens -/

theorem noName_of_scanLiteral {quote : Char} (h : scanLiteral w quote ss = .ok (found, rest)) :
    found.isAnyName = false := by
  induction ss with
  | nil => cases h
  | cons s after ih =>
    unfold scanLiteral at h
    split at h
    · cases h
    · split at h
      · split at h
        · cases h
          rfl
        · split at h
          · cases h
            rfl
          · cases h
      · exact ih h

theorem noName_of_scanPercent (h : scanPercent w ss = .ok (found, rest)) : found.isAnyName = false := by
  unfold scanPercent at h
  split at h
  · cases h
  · split at h
    · cases h
      rfl
    · obtain ⟨scanned, -, hpair⟩ := exists_of_map h
      cases hpair
      rfl

theorem noName_of_scanHashName (h : scanHashName w ss = .ok (found, rest)) : found.isAnyName = false := by
  unfold scanHashName at h
  split at h
  · cases h
  · cases h
    rfl
  · split at h
    · cases h
      rfl
    · cases h

theorem noName_of_scanDeclaration (h : scanDeclaration w ss = .ok (found, rest)) : found.isAnyName = false := by
  unfold scanDeclaration at h
  split at h
  · obtain ⟨after, -, hpair⟩ := exists_of_map h
    cases hpair
    rfl
  · cases h
    rfl
  · cases h
  · split at h
    · cases h
    · split at h
      · cases h
      · cases h
      · split at h
        · cases h
        · cases h
          rfl
      · split at h
        · cases h
          rfl
        · cases h

theorem noName_of_scanOpening {here : List Symbol} (h : scanOpening w here ss = .ok (found, rest)) :
    found.isAnyName = false := by
  unfold scanOpening at h
  split at h
  · cases h
  · exact noName_of_scanDeclaration h
  · obtain ⟨scanned, -, hpair⟩ := exists_of_map h
    cases hpair
    split <;> rfl
  · split at h
    · cases h
      rfl
    · cases h

theorem noName_of_scanGroupEnd (h : scanGroupEnd w ss = .ok (found, rest)) : found.isAnyName = false := by
  unfold scanGroupEnd at h
  split at h
  · cases h
    rfl
  · split at h
    · cases h
      rfl
    · split at h
      · cases h
        rfl
      · cases h

/-- the names among tokens are letters, with at most one colon between them -/
theorem letters_of_scanKind (h : scanKind w ss = .ok (found, rest)) (names : found.isAnyName = true) :
    ∃ taken, ss = taken ++ rest ∧ QualifiedLetters (charsOf taken) := by
  unfold scanKind at h
  split at h
  · cases h
  · exact absurd names (Bool.eq_false_iff.1 (noName_of_scanOpening h))
  · exact absurd names (Bool.eq_false_iff.1 (noName_of_scanLiteral h))
  · exact absurd names (Bool.eq_false_iff.1 (noName_of_scanLiteral h))
  · exact absurd names (Bool.eq_false_iff.1 (noName_of_scanPercent h))
  · cases h
    cases names
  · cases h
    cases names
  · cases h
    cases names
  · cases h
  · cases h
    cases names
  · cases h
    cases names
  · cases h
    cases names
  · exact absurd names (Bool.eq_false_iff.1 (noName_of_scanGroupEnd h))
  · cases h
    cases names
  · exact absurd names (Bool.eq_false_iff.1 (noName_of_scanHashName h))
  · split at h
    · cases h
      cases names
    · split at h
      · rename_i hstart
        obtain ⟨taken, htaken, hletters⟩ := letters_of_scanNameToken h names (Symbol.inName_of_startsName hstart)
        exact ⟨_ :: taken, congrArg (List.cons _) htaken, hletters⟩
      · split at h
        · exact absurd names (Bool.eq_false_iff.1 (noName_of_scanNameToken h))
        · cases h

theorem letters_of_scanToken {t : Token} (h : scanToken ss = .ok (t, rest)) (names : t.kind.isAnyName = true) :
    QualifiedLetters t.text := by
  unfold scanToken at h
  split at h
  · cases h
  · rename_i hkind
    cases h
    obtain ⟨taken, rfl, hletters⟩ := letters_of_scanKind hkind names
    simpa [Token.text] using hletters

end

/-! ## Names in a list of tokens -/

/-- the names among the tokens are made of letters. The last token does not count: the document may end inside it, and nothing
is declared by it -/
def Lettered (ts : List Token) : Prop :=
  ∀ t ∈ ts.dropLast, t.kind.isAnyName = true → QualifiedLetters t.text

theorem Lettered.of_suffix {ts rest : List Token} (h : Lettered ts) (suffix : rest <:+ ts) : Lettered rest := by
  obtain ⟨before, rfl⟩ := suffix
  intro t ht
  have hne : rest ≠ [] := fun hnil => by simp [hnil] at ht
  refine h t ?_
  rw [List.dropLast_append_of_ne_nil hne]
  exact List.mem_append_right before ht

theorem Lettered.head {t : Token} {rest : List Token} (h : Lettered (t :: rest)) (more : rest ≠ [])
    (name : isAnyName t = true) : QualifiedLetters t.text := by
  refine h t ?_ ((isAnyName_kind t).trans name)
  rw [List.dropLast_cons_of_ne_nil more]
  exact List.mem_cons_self

theorem lettered_singleton (t : Token) : Lettered [t] := by
  simp [Lettered]

theorem Lettered.cons {t : Token} {rest : List Token} (h : Lettered rest)
    (letters : t.kind.isAnyName = true → QualifiedLetters t.text) : Lettered (t :: rest) := by
  cases rest with
  | nil => exact lettered_singleton t
  | cons u more =>
    rw [Lettered, List.dropLast_cons_of_ne_nil (by simp)]
    exact List.forall_mem_cons.2 ⟨letters, h⟩

theorem lettered_tokensWithin (odd : Bool) (fuel : Nat) (ss : List Symbol) : Lettered (tokensWithin odd fuel ss).list := by
  fun_induction tokensWithin odd fuel ss with
  | case1 => simp [Lettered]
  | case2 => simp [Lettered]
  | case3 => simp [Lettered]
  | case4 => exact lettered_singleton _
  | case5 => exact lettered_singleton _
  | case6 =>
    -- white space is left out
    rename_i ih
    exact ih
  | case7 =>
    rename_i hscan _ _ _ _ ih
    exact ih.cons (letters_of_scanToken hscan)

end Harvest.Xml
