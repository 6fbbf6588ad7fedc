/-
Attributes that a document type declares. The name of one is followed by other tokens, so it is a name like those that are
written in start tags.

- `suffix_of_takeElement` and others: each reader of tokens leaves the last ones of those it is given.
- `named_of_takeAttributes`: each declared attribute keeps that all of them have such names.
- `Doctype.FromProlog.named`: so do all declarations before the root element.
-/
import Harvest.Proofs.Xml.Elements
import Harvest.Proofs.Xml.Tokens

namespace Harvest.Xml

/-! ## What readers of tokens leave -/

section

variable {stop : Halt} {ts rest : List Token} {t : Token} {d : Doctype}

theorem eq_cons_of_takeToken {fits : Token → Bool} (h : takeToken stop fits ts = .ok (t, rest)) :
    ts = t :: rest ∧ fits t = true := by
  cases ts with
  | nil => cases h
  | cons u us =>
    rw [takeToken] at h
    split at h
    · rename_i hfits
      cases h
      exact ⟨rfl, hfits⟩
    · cases h

theorem suffix_of_takeKind {kind : TokenKind} (h : takeKind stop kind ts = .ok (t, rest)) : rest <:+ ts := by
  obtain ⟨rfl, -⟩ := eq_cons_of_takeToken h
  exact List.suffix_cons t rest

/-- the token that closes a declaration -/
theorem suffix_of_close {kind : TokenKind} (h : (takeKind stop kind ts).map Prod.snd = .ok rest) : rest <:+ ts := by
  obtain ⟨taken, htaken, rfl⟩ := exists_of_map h
  exact suffix_of_takeKind htaken

theorem suffix_of_takePublicId {id : List Char} (h : takePublicId stop ts = .ok (id, rest)) : rest <:+ ts := by
  unfold takePublicId at h
  split at h
  · cases h
  · rename_i htaken
    split at h
    · cases h
    · cases h
      exact suffix_of_takeKind htaken

theorem suffix_of_takeExternalId {ids : Option (List Char) × List Char} {isPublic : Bool}
    (h : takeExternalId stop isPublic ts = .ok (ids, rest)) : rest <:+ ts := by
  unfold takeExternalId at h
  split at h
  · cases h
  · rename_i hpublic
    split at h
    · cases h
    · rename_i hsystem
      cases h
      refine (suffix_of_takeKind hsystem).trans ?_
      split at hpublic
      · obtain ⟨taken, htaken, hpair⟩ := exists_of_map hpublic
        cases hpair
        exact suffix_of_takePublicId htaken
      · cases hpublic
        exact List.suffix_refl _

theorem suffix_of_entityValue {name : List Char} {isNew : Bool} {value : Token}
    (h : entityValue stop d name isNew value ts = .ok rest) : rest <:+ ts := by
  unfold entityValue at h
  split at h
  · cases h
  · split at h
    · cases h
    · exact suffix_of_close h

theorem suffix_of_entityEnd {isGeneral : Bool} {refused : Option Halt}
    (h : entityEnd stop isGeneral refused ts = .ok rest) : rest <:+ ts := by
  cases ts with
  | nil => cases h
  | cons t after =>
    refine List.IsSuffix.trans ?_ (List.suffix_cons t after)
    rw [entityEnd] at h
    dsimp only at h
    -- an entity that is refused ends nowhere
    cases refused with
    | some e =>
      split at h
      · cases h
      · split at h
        · split at h <;> cases h
        · cases h
    | none =>
      split at h
      · cases h
        exact List.suffix_refl _
      · split at h
        · split at h
          · cases h
          · rename_i hname
            exact (suffix_of_close h).trans (suffix_of_takeKind hname)
        · cases h

theorem suffix_of_takeEntity (h : takeEntity stop d ts = .ok rest) : rest <:+ ts := by
  have hgeneral : (takeGeneral ts).2 <:+ ts := by
    unfold takeGeneral
    split
    · exact List.suffix_refl _
    · split
      · exact List.suffix_cons _ _
      · exact List.suffix_refl _
  unfold takeEntity at h
  dsimp only at h
  split at h
  · cases h
  · cases h
  · rename_i t after hname
    refine List.IsSuffix.trans ?_ (((List.suffix_cons t after).trans (suffix_of_takeKind hname)).trans hgeneral)
    split at h
    · exact suffix_of_entityValue h
    · split at h
      · split at h
        · cases h
        · rename_i hids
          exact (suffix_of_entityEnd h).trans (suffix_of_takeExternalId hids)
      · cases h

theorem suffix_of_takeNotation (h : takeNotation stop ts = .ok rest) : rest <:+ ts := by
  unfold takeNotation at h
  split at h
  · cases h
  · cases h
  · rename_i t after hname
    refine List.IsSuffix.trans ?_ ((List.suffix_cons t after).trans (suffix_of_takeKind hname))
    split at h
    · split at h
      · cases h
      · rename_i hliteral
        exact (suffix_of_close h).trans (suffix_of_takeKind hliteral)
    · split at h
      · split at h
        · cases h
        · cases h
        · rename_i u more hid
          refine List.IsSuffix.trans ?_ ((List.suffix_cons u more).trans (suffix_of_takePublicId hid))
          split at h
          · exact suffix_of_close h
          · split at h
            · cases h
              exact List.suffix_refl _
            · cases h
      · cases h

theorem suffix_of_takeMixed {first : Bool} (h : takeMixed stop first ts = .ok rest) : rest <:+ ts := by
  fun_induction takeMixed stop first ts with
  | case2 =>
    cases h
    exact List.suffix_cons _ _
  | case4 =>
    -- a bar and a name after it
    rename_i ih
    exact (ih h).trans ((List.suffix_cons _ _).trans (List.suffix_cons _ _))
  | _ => cases h

/-- outside all groups the model is over -/
theorem takeModel_closed (stop : Halt) (state : ModelState) (ts : List Token) : takeModel stop state [] ts = .ok ts := by
  cases ts <;> rfl

theorem takeModel_item (stop : Halt) (connector : Option TokenKind) (outer : List (Option TokenKind)) (t : Token)
    (after : List Token) :
    takeModel stop .item (connector :: outer) (t :: after) =
      if t.kind == .openGroup then takeModel stop .item (none :: connector :: outer) after
      else if isAnyName t || t.kind == .countedName then takeModel stop .afterItem (connector :: outer) after
      else .error (refuse t) := rfl

theorem takeModel_afterItem (stop : Halt) (connector : Option TokenKind) (outer : List (Option TokenKind)) (t : Token)
    (after : List Token) :
    takeModel stop .afterItem (connector :: outer) (t :: after) =
      match t.kind with
      | .closeGroup => takeModel stop .afterItem outer after
      | .countedGroup _ => takeModel stop .afterItem outer after
      | .comma => if connector == some .bar then .error (refuse t) else takeModel stop .item (some .comma :: outer) after
      | .bar => if connector == some .comma then .error (refuse t) else takeModel stop .item (some .bar :: outer) after
      | _ => .error (refuse t) := rfl

theorem suffix_of_takeModel {state : ModelState} {groups : List (Option TokenKind)}
    (h : takeModel stop state groups ts = .ok rest) : rest <:+ ts := by
  induction ts generalizing state groups with
  | nil =>
    cases groups with
    | nil =>
      rw [takeModel_closed] at h
      cases h
      exact List.suffix_refl _
    | cons connector outer => cases h
  | cons t after ih =>
    have further : ∀ {state groups}, takeModel stop state groups after = .ok rest → rest <:+ t :: after :=
      fun h => (ih h).trans (List.suffix_cons t after)
    cases groups with
    | nil =>
      rw [takeModel_closed] at h
      cases h
      exact List.suffix_refl _
    | cons connector outer =>
      cases state with
      | item =>
        rw [takeModel_item] at h
        split at h
        · exact further h
        · split at h
          · exact further h
          · cases h
      | afterItem =>
        rw [takeModel_afterItem] at h
        cases hkind : t.kind with
        | closeGroup =>
          rw [hkind] at h
          exact further h
        | countedGroup count =>
          rw [hkind] at h
          exact further h
        | comma =>
          rw [hkind] at h
          dsimp only at h
          split at h
          · cases h
          · exact further h
        | bar =>
          rw [hkind] at h
          dsimp only at h
          split at h
          · cases h
          · exact further h
        | _ =>
          rw [hkind] at h
          cases h

theorem suffix_of_takeContent (h : takeContent stop ts = .ok rest) : rest <:+ ts := by
  unfold takeContent at h
  split at h
  · cases h
  · rename_i t after
    refine List.IsSuffix.trans ?_ (List.suffix_cons t after)
    split at h
    · cases h
      exact List.suffix_refl _
    · split at h
      · split at h
        · cases h
        · rename_i u more
          split at h
          · exact (suffix_of_takeMixed h).trans (List.suffix_cons u more)
          · exact suffix_of_takeModel h
      · cases h

theorem suffix_of_takeElement (h : takeElement stop ts = .ok rest) : rest <:+ ts := by
  unfold takeElement at h
  split at h
  · cases h
  · rename_i t after hname
    obtain ⟨rfl, -⟩ := eq_cons_of_takeToken hname
    split at h
    · cases h
    · rename_i hcontent
      exact ((suffix_of_close h).trans (suffix_of_takeContent hcontent)).trans (List.suffix_cons t after)

theorem suffix_of_takeChoices {fits : Token → Bool} (h : takeChoices stop fits ts = .ok rest) : rest <:+ ts := by
  fun_induction takeChoices stop fits ts with
  | case2 =>
    cases h
    exact (List.suffix_cons _ _).trans (List.suffix_cons _ _)
  | case3 =>
    rename_i ih
    exact (ih h).trans ((List.suffix_cons _ _).trans (List.suffix_cons _ _))
  | _ => cases h

theorem suffix_of_takeType {plain : Bool} (h : takeType stop ts = .ok (plain, rest)) : rest <:+ ts := by
  have hchoices : ∀ {fits us}, (takeChoices stop fits us).map (fun rest => (false, rest)) = .ok (plain, rest) →
      rest <:+ us := by
    intro fits us hmap
    obtain ⟨left, hleft, hpair⟩ := exists_of_map hmap
    cases hpair
    exact suffix_of_takeChoices hleft
  unfold takeType at h
  split at h
  · cases h
  · rename_i t after
    refine List.IsSuffix.trans ?_ (List.suffix_cons t after)
    split at h
    · cases h
      exact List.suffix_refl _
    · split at h
      · cases h
        exact List.suffix_refl _
      · split at h
        · split at h
          · cases h
          · rename_i hgroup
            exact (hchoices h).trans (suffix_of_takeKind hgroup)
        · split at h
          · exact hchoices h
          · cases h

theorem suffix_of_takeDefault {default? : Option Token} (h : takeDefault stop ts = .ok (default?, rest)) :
    rest <:+ ts := by
  unfold takeDefault at h
  split at h
  · cases h
  · rename_i t after
    refine List.IsSuffix.trans ?_ (List.suffix_cons t after)
    dsimp only at h
    split at h
    · cases h
      exact List.suffix_refl _
    · split at h
      · cases h
        exact List.suffix_refl _
      · split at h
        · obtain ⟨taken, htaken, hpair⟩ := exists_of_map h
          cases hpair
          exact suffix_of_takeKind htaken
        · cases h

end

/-! ## Declared attributes -/

namespace Doctype

/-- declared attributes have names as written ones have -/
def Named (d : Doctype) : Prop :=
  ∀ r ∈ d.rules, QualifiedLetters r.name

theorem named_addRule {d : Doctype} {r : AttributeRule} (named : d.Named) (letters : QualifiedLetters r.name) :
    (d.addRule r).Named := by
  unfold addRule
  split
  · exact named
  · intro r' hr'
    rcases List.mem_append.1 hr' with hr' | hr'
    · exact named r' hr'
    · obtain rfl := List.mem_singleton.1 hr'
      exact letters

theorem named_of_declare {d d' : Doctype} {element name : List Char} {plainText : Bool} {default? : Option Token}
    (named : d.Named) (letters : QualifiedLetters name) (h : d.declare element name plainText default? = .ok d') :
    d'.Named := by
  unfold declare at h
  split at h
  · cases h
    exact named_addRule named letters
  · split at h
    · cases h
      exact named
    · split at h
      · cases h
      · cases h
        exact named_addRule named letters

end Doctype

section

variable {stop : Halt} {ts rest : List Token} {d d' : Doctype}

/-- each declared attribute keeps that all of them have names, and the readers go on with the last tokens -/
theorem named_of_takeAttributes {element : List Char} {fuel : Nat} (named : d.Named) (lettered : Lettered ts)
    (h : takeAttributes stop element fuel d ts = .ok (d', rest)) : d'.Named ∧ rest <:+ ts := by
  induction fuel generalizing d ts with
  | zero => cases h
  | succ fuel ih =>
    cases ts with
    | nil => cases h
    | cons t after =>
      rw [takeAttributes] at h
      split at h
      · cases h
        exact ⟨named, List.suffix_cons t rest⟩
      · split at h
        · rename_i hname
          split at h
          · cases h
          · rename_i plainText typed htype
            split at h
            · cases h
            · rename_i default? left hdefault
              split at h
              · cases h
              · rename_i declared hdeclare
                have hleft : left <:+ t :: after :=
                  ((suffix_of_takeDefault hdefault).trans (suffix_of_takeType htype)).trans (List.suffix_cons t after)
                have hmore : after ≠ [] := by
                  rintro rfl
                  cases htype
                have hletters := lettered.head hmore hname
                obtain ⟨hnamed, hrest⟩ :=
                  ih (Doctype.named_of_declare named hletters hdeclare) (lettered.of_suffix hleft) h
                exact ⟨hnamed, hrest.trans hleft⟩
        · cases h

theorem named_of_takeDeclaration {opening : Token} (named : d.Named) (lettered : Lettered ts)
    (h : takeDeclaration stop d opening ts = .ok (d', rest)) : d'.Named ∧ rest <:+ ts := by
  unfold takeDeclaration at h
  split at h
  · obtain ⟨left, hleft, hpair⟩ := exists_of_map h
    cases hpair
    exact ⟨named, suffix_of_takeEntity hleft⟩
  · unfold takeAttributeList at h
    split at h
    · cases h
    · rename_i element after helement
      obtain ⟨rfl, -⟩ := eq_cons_of_takeToken helement
      have hafter := List.suffix_cons element after
      obtain ⟨hnamed, hrest⟩ := named_of_takeAttributes named (lettered.of_suffix hafter) h
      exact ⟨hnamed, hrest.trans hafter⟩
  · obtain ⟨left, hleft, hpair⟩ := exists_of_map h
    cases hpair
    exact ⟨named, suffix_of_takeElement hleft⟩
  · obtain ⟨left, hleft, hpair⟩ := exists_of_map h
    cases hpair
    exact ⟨named, suffix_of_takeNotation hleft⟩
  · cases h

theorem named_of_takeSubset {fuel : Nat} (named : d.Named) (lettered : Lettered ts)
    (h : takeSubset stop fuel d ts = .ok (d', rest)) : d'.Named ∧ rest <:+ ts := by
  induction fuel generalizing d ts with
  | zero => cases h
  | succ fuel ih =>
    cases ts with
    | nil => cases h
    | cons t after =>
      have hafter := List.suffix_cons t after
      have skipped : ∀ {d : Doctype}, d.Named → takeSubset stop fuel d after = .ok (d', rest) →
          d'.Named ∧ rest <:+ t :: after := by
        intro d named h
        obtain ⟨hnamed, hrest⟩ := ih named (lettered.of_suffix hafter) h
        exact ⟨hnamed, hrest.trans hafter⟩
      rw [takeSubset] at h
      split at h
      · cases h
        exact ⟨named, hafter⟩
      · exact skipped named h
      · exact skipped named h
      · exact skipped (d := { d with incomplete := true, takesIn := d.standalone }) named h
      · split at h
        · cases h
        · rename_i declared left hdeclaration
          obtain ⟨hdeclared, hleft⟩ := named_of_takeDeclaration named (lettered.of_suffix hafter) hdeclaration
          obtain ⟨hnamed, hrest⟩ := ih hdeclared (lettered.of_suffix (hleft.trans hafter)) h
          exact ⟨hnamed, hrest.trans (hleft.trans hafter)⟩
      · cases h

theorem named_of_takeDoctypeEnd (named : d.Named) (lettered : Lettered ts)
    (h : takeDoctypeEnd stop d ts = .ok (d', rest)) : d'.Named ∧ rest <:+ ts := by
  cases ts with
  | nil => cases h
  | cons t after =>
    have hafter := List.suffix_cons t after
    rw [takeDoctypeEnd] at h
    split at h
    · cases h
      exact ⟨named, hafter⟩
    · split at h
      · split at h
        · cases h
        · rename_i declared left hsubset
          obtain ⟨hnamed, hleft⟩ := named_of_takeSubset named (lettered.of_suffix hafter) hsubset
          obtain ⟨closing, hclosing, hpair⟩ := exists_of_map h
          cases hpair
          exact ⟨hnamed, (suffix_of_takeKind hclosing).trans (hleft.trans hafter)⟩
      · cases h

theorem named_of_takeDoctype {standalone : Bool} (lettered : Lettered ts)
    (h : takeDoctype stop standalone ts = .ok (d', rest)) : d'.Named ∧ rest <:+ ts := by
  have hnone : ∀ incomplete, Doctype.Named ⟨standalone, incomplete, true, []⟩ := fun _ r hr => by cases hr
  unfold takeDoctype at h
  split at h
  · cases h
  · cases h
  · rename_i root t after hroot
    obtain ⟨rfl, -⟩ := eq_cons_of_takeToken hroot
    have hafter := List.suffix_cons root (t :: after)
    split at h
    · split at h
      · cases h
      · rename_i left hids
        have hleft := ((suffix_of_takeExternalId hids).trans (List.suffix_cons t after)).trans hafter
        obtain ⟨hnamed, hrest⟩ := named_of_takeDoctypeEnd (hnone true) (lettered.of_suffix hleft) h
        exact ⟨hnamed, hrest.trans hleft⟩
    · obtain ⟨hnamed, hrest⟩ := named_of_takeDoctypeEnd (hnone false) (lettered.of_suffix hafter) h
      exact ⟨hnamed, hrest.trans hafter⟩

theorem named_of_readProlog {declared : Bool} {fuel : Nat} {here : List Symbol} (named : d.Named) (lettered : Lettered ts)
    (h : readProlog stop d declared fuel ts = .ok (d', here)) : d'.Named := by
  induction fuel generalizing d ts declared with
  | zero => cases h
  | succ fuel ih =>
    cases ts with
    | nil => cases h
    | cons t after =>
      have hafter := lettered.of_suffix (List.suffix_cons t after)
      rw [readProlog] at h
      split at h
      · exact ih named hafter h
      · exact ih named hafter h
      · cases h
        exact named
      · split at h
        · cases h
        · split at h
          · cases h
          · rename_i doctype left hdoctype
            obtain ⟨hdeclared, hleft⟩ := named_of_takeDoctype hafter hdoctype
            exact ih hdeclared (hafter.of_suffix hleft) h
      · cases h

end

/-- what is declared before the root element of a document has names as written attributes have -/
theorem Doctype.FromProlog.named {d : Doctype} (prolog : d.FromProlog) : d.Named := by
  obtain ⟨text, standalone, stop, fuel, here, h⟩ := prolog
  exact named_of_readProlog (fun r hr => by cases hr) (lettered_tokensWithin text.odd _ text.list) h

end Harvest.Xml
