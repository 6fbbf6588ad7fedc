/-
The attributes of a document that is read. A start tag takes in each name once, whether it is written or declared, and no two
prefixed names may have one full name. So the attributes of every element have different full names, and each is a name without
a colon, alone or in a namespace. Written short and read again, such a name is given back unless it is hidden.

- `Collected.Apart.add`: taking in a name that is not used yet.
- `resolved_of_attributeNames`: the full names in a scope are different, and those of read documents.
- `Element.MadeIn.readAttributes`: so are those of every element of a document that is read.
- `expandAttribute_shorten`: a name that is not hidden is given back.
- `shorten_of_hidesAttribute`: what a hidden name is written as.
-/
import Harvest.Proofs.Xml.Doctype
import Harvest.Proofs.Xml.Namespaces

namespace Harvest.Xml

open Harvest.Text

/-! ## Names as they are taken in -/

namespace Collected

/-- what is taken in has different names, all of them used, made of letters -/
structure Apart (c : Collected) : Prop where
  distinct : (c.values.map Prod.fst).Nodup
  used : ∀ v ∈ c.values, v.1 ∈ c.used
  letters : ∀ v ∈ c.values, QualifiedLetters v.1

theorem apart_start (scope : Scope) : Apart ⟨scope, [], []⟩ :=
  ⟨List.nodup_nil, by simp, by simp⟩

variable {c c' : Collected} {here : List Symbol}

/-- a name that is not used yet is another one -/
theorem Apart.add (apart : c.Apart) {name value : List Char} (unused : name ∉ c.used) (letters : QualifiedLetters name)
    (h : c.add here name value = .ok c') : c'.Apart := by
  unfold Collected.add at h
  split at h
  · cases h
    refine ⟨List.nodup_cons.2 ⟨fun hmem => ?_, apart.distinct⟩, ?_, List.forall_mem_cons.2 ⟨letters, apart.letters⟩⟩
    · obtain ⟨v, hv, rfl⟩ := List.mem_map.1 hmem
      exact unused (apart.used v hv)
    · exact List.forall_mem_cons.2 ⟨List.mem_cons_self, fun v hv => List.mem_cons_of_mem _ (apart.used v hv)⟩
  · -- a declaration of a namespace is no attribute
    split at h
    · cases h
    · cases h
      exact ⟨apart.distinct, fun v hv => List.mem_cons_of_mem _ (apart.used v hv), apart.letters⟩

theorem Apart.addWritten {d : Doctype} {element : List Char} {raws : List RawAttribute} (apart : c.Apart)
    (letters : ∀ raw ∈ raws, QualifiedLetters raw.name) (h : c.addWritten d here element raws = .ok c') : c'.Apart := by
  induction raws generalizing c with
  | nil =>
    cases h
    exact apart
  | cons raw raws ih =>
    obtain ⟨hfirst, hrest⟩ := List.forall_mem_cons.1 letters
    unfold Collected.addWritten at h
    split at h
    · cases h
    · rename_i hunused
      dsimp only at h
      split at h
      · cases h
      · split at h
        · cases h
        · rename_i hadd
          exact ih (apart.add (by simpa using hunused) hfirst hadd) hrest h

theorem Apart.addDeclared {rules : List AttributeRule} (apart : c.Apart) (letters : ∀ r ∈ rules, QualifiedLetters r.name)
    (h : c.addDeclared here rules = .ok c') : c'.Apart := by
  induction rules generalizing c with
  | nil =>
    cases h
    exact apart
  | cons rule rules ih =>
    obtain ⟨hfirst, hrest⟩ := List.forall_mem_cons.1 letters
    unfold Collected.addDeclared at h
    split at h
    · exact ih apart hrest h
    · split at h
      · exact ih apart hrest h
      · rename_i hunused
        split at h
        · cases h
        · rename_i hadd
          exact ih (apart.add (by simpa using hunused) hfirst hadd) hrest h

end Collected

/-! ## Full names -/

/-- the full name of one of the attributes with these names: a name without a colon as it is, or a name in a namespace which is
not one of `seen` -/
inductive Scope.Resolved (names seen : List (List Char)) : List Char → Prop where
  | plain {name : List Char} (letters : AllLetters name) (mem : name ∈ names) : Resolved names seen name
  | inside {uri part : List Char} (present : uri ≠ []) (closed : '\x7d' ∉ uri) (letters : AllLetters part)
      (new : fullName uri part ∉ seen) : Resolved names seen (fullName uri part)

namespace Scope

theorem Resolved.readTag {names seen : List (List Char)} {full : List Char} (h : Resolved names seen full) :
    ReadTag (String.ofList full) := by
  cases h with
  | plain letters _ => exact .plain letters
  | inside present closed letters _ => exact .inside present closed letters

/-- a full name is no name without a colon -/
theorem fullName_ne_of_letters {name : List Char} (letters : AllLetters name) (uri part : List Char) :
    fullName uri part ≠ name := fun h =>
  Namespaces.ofList_ne_fullName letters uri part (congrArg String.ofList h)

theorem Resolved.mono {names names' seen seen' : List (List Char)} {full : List Char} (h : Resolved names seen full)
    (more : names ⊆ names') (fewer : seen' ⊆ seen) : Resolved names' seen' full := by
  cases h with
  | plain letters mem => exact .plain letters (more mem)
  | inside present closed letters new => exact .inside present closed letters fun hmem => new (fewer hmem)

theorem Resolved.mem_of_letters {names seen : List (List Char)} {full : List Char} (h : Resolved names seen full)
    (letters : AllLetters full) : full ∈ names := by
  cases h with
  | plain _ mem => exact mem
  | inside => exact absurd rfl (fullName_ne_of_letters letters _ _)

theorem Resolved.new_of_fullName {names seen : List (List Char)} {full uri part : List Char} (h : Resolved names seen full)
    (same : full = fullName uri part) : full ∉ seen := by
  cases h with
  | plain letters _ => exact absurd same.symm (fullName_ne_of_letters letters uri part)
  | inside _ _ _ new => exact new

/-- a name made of letters, with a colon -/
theorem letters_of_cut {name label part : List Char} (letters : QualifiedLetters name)
    (cut : cutFirst? ':' name = some (label, part)) : AllLetters part := by
  rcases letters with hall | ⟨first, second, rfl, hfirst, hsecond⟩
  · rw [cutFirst?_eq_none_iff.2 (hall.notMem (by decide))] at cut
    cases cut
  · rw [cutFirst?_append (hfirst.notMem (by decide))] at cut
    cases cut
    exact hsecond

theorem letters_of_not_cut {name : List Char} (letters : QualifiedLetters name) (cut : cutFirst? ':' name = none) :
    AllLetters name := by
  rcases letters with hall | ⟨first, second, rfl, -, -⟩
  · exact hall
  · exact absurd (List.mem_append_right first List.mem_cons_self) (cutFirst?_eq_none_iff.1 cut)

/-- the full names of attributes with different names are different -/
theorem resolved_of_attributeNames {scope : Scope} (closed : scope.Closed) {pairs full : List (List Char × List Char)}
    {seen : List (List Char)} (letters : ∀ v ∈ pairs, QualifiedLetters v.1) (distinct : (pairs.map Prod.fst).Nodup)
    (h : scope.attributeNames seen pairs = .ok full) :
    (full.map Prod.fst).Nodup ∧ ∀ a ∈ full, Resolved (pairs.map Prod.fst) seen a.1 := by
  induction pairs generalizing seen full with
  | nil =>
    cases h
    exact ⟨List.nodup_nil, by simp⟩
  | cons pair rest ih =>
    obtain ⟨name, value⟩ := pair
    obtain ⟨hfirst, hrest⟩ := List.forall_mem_cons.1 letters
    obtain ⟨habsent, hdistinct⟩ := List.nodup_cons.1 distinct
    unfold attributeNames at h
    split at h
    · rename_i hcut
      have hname : AllLetters name := letters_of_not_cut hfirst hcut
      obtain ⟨more, hmore, rfl⟩ := exists_of_map h
      obtain ⟨hnodup, hresolved⟩ := ih hrest hdistinct hmore
      refine ⟨List.nodup_cons.2 ⟨fun hmem => ?_, hnodup⟩, List.forall_mem_cons.2 ⟨.plain hname List.mem_cons_self, ?_⟩⟩
      · -- names without a colon stay as they are, so another one of this name would be a repeated name
        obtain ⟨a, ha, rfl⟩ := List.mem_map.1 hmem
        exact habsent ((hresolved a ha).mem_of_letters hname)
      · exact fun a ha => (hresolved a ha).mono (List.subset_cons_self _ _) (List.Subset.refl _)
    · rename_i label part hcut
      have hpart : AllLetters part := letters_of_cut hfirst hcut
      split at h
      · cases h
      · rename_i uri huri
        obtain ⟨hpresent, hclosed⟩ := closed_of_find? closed huri
        dsimp only at h
        split at h
        · cases h
        · rename_i hunseen
          obtain ⟨more, hmore, rfl⟩ := exists_of_map h
          obtain ⟨hnodup, hresolved⟩ := ih hrest hdistinct hmore
          have hnew : fullName uri part ∉ seen := by simpa using hunseen
          refine ⟨List.nodup_cons.2 ⟨fun hmem => ?_, hnodup⟩,
            List.forall_mem_cons.2 ⟨.inside hpresent hclosed hpart hnew, ?_⟩⟩
          · obtain ⟨a, ha, hsame⟩ := List.mem_map.1 hmem
            exact (hresolved a ha).new_of_fullName hsame (hsame ▸ List.mem_cons_self)
          · exact fun a ha => (hresolved a ha).mono (List.subset_cons_self _ _) (List.subset_cons_self _ _)

end Scope

/-! ## Attributes of elements -/

/-- attributes as a read document has them: with different names, each without a colon, alone or in a namespace -/
structure ReadAttributes (attributes : List (String × String)) : Prop where
  distinct : (Entries.keys attributes).Nodup
  named : ∀ a ∈ attributes, ReadTag a.1

theorem keys_asTexts (pairs : List (List Char × List Char)) :
    Entries.keys (asTexts pairs) = (pairs.map Prod.fst).map String.ofList := by
  rw [Entries.keys, asTexts, List.map_map, List.map_map]
  rfl

theorem StartTag.ResolvedIn.readAttributes {d : Doctype} {scope : Scope} {t : StartTag} (named : d.Named)
    (closed : scope.Closed) (resolved : t.ResolvedIn d scope) : ReadAttributes t.attributes := by
  obtain ⟨here, name, raws, -, hraws, h⟩ := resolved
  unfold StartTag.resolve at h
  split at h
  · cases h
  · rename_i written hwritten
    split at h
    · cases h
    · rename_i declared hdeclared
      have hscope := Collected.closed_addDeclared (Collected.closed_addWritten closed hwritten) hdeclared
      have hrules : ∀ r ∈ d.rules.filter fun r => r.element == name, QualifiedLetters r.name :=
        fun r hr => named r (List.mem_filter.1 hr).1
      have apart := ((Collected.apart_start scope).addWritten hraws hwritten).addDeclared hrules hdeclared
      split at h
      · cases h
      · cases h
      · rename_i attributes tag hattributes htag
        cases h
        obtain ⟨hdistinct, hresolved⟩ := Scope.resolved_of_attributeNames hscope
          (fun v hv => apart.letters v (List.mem_reverse.1 hv))
          (by rw [List.map_reverse]; exact List.nodup_reverse.2 apart.distinct) hattributes
        refine ⟨?_, fun a ha => ?_⟩
        · rw [keys_asTexts]
          exact hdistinct.map fun _ _ => String.ofList_injective
        · obtain ⟨v, hv, rfl⟩ := List.mem_map.1 ha
          exact (hresolved v hv).readTag

theorem StartTag.Reached.readAttributes {d : Doctype} {t : StartTag} (named : d.Named) (reached : t.Reached d) :
    ReadAttributes t.attributes := by
  cases reached with
  | outermost resolved => exact resolved.readAttributes named Scope.closed_initial
  | inside outer resolved => exact resolved.readAttributes named outer.read.closed

theorem Element.MadeIn.readAttributes {d : Doctype} {e : Element} (named : d.Named) (made : e.MadeIn d) :
    ReadAttributes e.attributes := by
  cases made with
  | mk start _ => exact start.readAttributes named

/-! ## Names of attributes, written short and read again -/

namespace Namespaces

/-- the name is not given back. Its namespace has the empty prefix first, which attribute names without a prefix do not take;
or its namespace has no prefix and its text up to the first colon is read as a prefix -/
def HidesAttribute (ns : Namespaces) (name : String) : Prop :=
  match splitQualified? name with
  | none => False
  | some (uri, _) =>
    (ns.entries.find? fun e => isNamed uri e.2).map Prod.fst = some "" ∨
      (∀ e ∈ ns.entries, e.2 ≠ .str uri) ∧
        ∃ label part, cutFirst? ':' name.toList = some (label, part) ∧ (ns.find? (String.ofList label)).isSome

theorem shorten_letters (ns : Namespaces) {name : List Char} (letters : AllLetters name) :
    ns.shorten (String.ofList name) = String.ofList name := by
  rw [shorten, splitQualified?_plain letters]

theorem expandAttribute_letters (ns : Namespaces) {name : List Char} (letters : AllLetters name) :
    ns.expandAttribute (String.ofList name) = String.ofList name := by
  rw [expandAttribute, expandPrefixed?_letters ns letters, Option.getD_none]

theorem expandAttribute_of_prefixed {ns : Namespaces} {name full : String} (h : ns.expandPrefixed? name = some full) :
    ns.expandAttribute name = full := by
  rw [expandAttribute, h, Option.getD_some]

/-- what a hidden name is written as: its local part, which is another name, or the full name, which is read with a brace too
many -/
theorem shorten_of_hidesAttribute {ns : Namespaces} {name : String} (read : ReadTag name) (hidden : ns.HidesAttribute name) :
    (∃ part, AllLetters part ∧ String.ofList part ≠ name ∧ ns.shorten name = String.ofList part) ∨
      ∃ uri part, ns.expandAttribute (ns.shorten name) = String.ofList (Scope.fullName uri part) ∧ '\x7d' ∈ part := by
  cases read with
  | @plain name letters =>
    rw [HidesAttribute, splitQualified?_plain letters] at hidden
    exact hidden.elim
  | @inside uri name present closed letters =>
    rw [HidesAttribute, splitQualified?_inside closed] at hidden
    rcases hidden with hdefault | ⟨hunknown, label, part, hcut, hknown⟩
    · refine Or.inl ⟨name, letters, fun same => ofList_ne_fullName letters uri name same.symm, ?_⟩
      obtain ⟨e, hfound, hlabel⟩ := Option.map_eq_some_iff.1 hdefault
      rw [shorten, splitQualified?_inside closed]
      simp only [hfound, hlabel, beq_self_eq_true, if_true]
    · obtain ⟨other, hother, hbrace⟩ := expandPrefixed?_of_colon letters hcut hknown
      refine Or.inr ⟨other, part, ?_, hbrace⟩
      rw [shorten_of_unknown closed hunknown]
      exact expandAttribute_of_prefixed hother

/-- a name that is not hidden is given back -/
theorem expandAttribute_shorten {ns : Namespaces} (named : ns.Named) {name : String} (read : ReadTag name)
    (shown : ¬ns.HidesAttribute name) : ns.expandAttribute (ns.shorten name) = name := by
  cases read with
  | @plain name letters =>
    rw [shorten_letters ns letters]
    exact expandAttribute_letters ns letters
  | @inside uri name present closed letters =>
    rw [HidesAttribute, splitQualified?_inside closed] at shown
    obtain ⟨hempty, hcolon⟩ := not_or.1 shown
    rw [shorten, splitQualified?_inside closed]
    dsimp only
    split
    · rename_i hnone
      have hunknown : ∀ e ∈ ns.entries, e.2 ≠ .str (String.ofList uri) := by
        intro e he same
        exact List.find?_eq_none.1 hnone e he (isNamed_iff.2 same)
      rw [expandAttribute, expandPrefixed?_eq_none fun hread => hcolon ⟨hunknown, hread⟩, Option.getD_none]
    · rename_i e hfound
      obtain ⟨label, d⟩ := e
      have hnamed : isNamed (String.ofList uri) d = true := by simpa using List.find?_some hfound
      obtain rfl := isNamed_iff.1 hnamed
      have hlabel : label ≠ "" := by
        rintro rfl
        exact hempty (by rw [hfound]; rfl)
      rw [if_neg (by simpa using hlabel)]
      exact expandAttribute_of_prefixed (expandPrefixed?_short named (List.mem_of_find?_eq_some hfound))

end Namespaces

end Harvest.Xml
