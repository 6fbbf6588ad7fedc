/-
Names written short and read again. A tag of a read document is written with the first prefix of its namespace and, read as the
name of a child, gives the tag back, unless the tag is hidden: it has no namespace where names without a prefix lie in one, or
its namespace has no prefix and begins like one.

- `expandChild_shorten`: a tag that is not hidden is given back.
- `expandChild_shorten_ne_of_hides`: no name that a tag is written with leads to a hidden tag.
-/
import Harvest.Proofs.Data.Entries
import Harvest.Proofs.Xml.Names

namespace Harvest.Xml

open Harvest.Text

namespace Namespaces

/-- the namespaces of prefixes that are all given a text -/
def ofTexts (given : List (String × String)) : Namespaces :=
  ofEntries (given.map fun g => (g.1, .str g.2))

/-- prefixes without a colon, each once and with a text for its namespace -/
structure Named (ns : Namespaces) : Prop where
  distinct : (Entries.keys ns.entries).Nodup
  plain : ∀ e ∈ ns.entries, ':' ∉ e.1.toList
  text : ∀ e ∈ ns.entries, ∃ uri, e.2 = .str uri

theorem named_ofTexts {given : List (String × String)} (plain : ∀ g ∈ given, ':' ∉ g.1.toList) : (ofTexts given).Named := by
  refine ⟨Entries.nodup_keys_ofList _, Entries.forall_mem_ofList ?_, Entries.forall_mem_ofList ?_⟩
  · refine List.forall_mem_cons.2 ⟨by decide, fun e he => ?_⟩
    obtain ⟨g, hg, rfl⟩ := List.mem_map.1 he
    exact plain g hg
  · refine List.forall_mem_cons.2 ⟨⟨_, rfl⟩, fun e he => ?_⟩
    obtain ⟨g, -, rfl⟩ := List.mem_map.1 he
    exact ⟨g.2, rfl⟩

/-! ## Full names -/

theorem qualified_eq (uri name : List Char) :
    qualified (String.ofList uri) (String.ofList name) = String.ofList (Scope.fullName uri name) := by
  refine String.toList_injective ?_
  simp [qualified, Scope.fullName, String.toList_append]

theorem splitQualified?_plain {name : List Char} (letters : AllLetters name) :
    splitQualified? (String.ofList name) = none := by
  rw [splitQualified?]
  split
  · rename_i rest hrest
    rw [String.toList_ofList] at hrest
    exact absurd (hrest ▸ List.mem_cons_self) (letters.notMem (by decide))
  · rfl

theorem splitQualified?_inside {uri : List Char} (closed : '\x7d' ∉ uri) (name : List Char) :
    splitQualified? (String.ofList (Scope.fullName uri name)) = some (String.ofList uri, String.ofList name) := by
  rw [splitQualified?, String.toList_ofList, Scope.fullName, List.cons_append]
  simp only [cutFirst?_append closed]

theorem count_fullName (uri name : List Char) :
    (Scope.fullName uri name).count '\x7d' = uri.count '\x7d' + (name.count '\x7d' + 1) := by
  simp [Scope.fullName, List.count_append]

/-- a plain name is no full name -/
theorem ofList_ne_fullName {name : List Char} (letters : AllLetters name) (uri part : List Char) :
    String.ofList (Scope.fullName uri part) ≠ String.ofList name := by
  intro h
  have hlist : Scope.fullName uri part = name := by simpa using congrArg String.toList h
  rw [Scope.fullName, List.cons_append] at hlist
  exact letters.notMem (by decide) (hlist ▸ List.mem_cons_self)

/-- the namespace of a full name is told by it -/
theorem uri_eq_of_fullName_eq {uri uri' name name' : List Char} (letters : AllLetters name) (closed : '\x7d' ∉ uri')
    (letters' : AllLetters name') (h : Scope.fullName uri name = Scope.fullName uri' name') : uri = uri' := by
  have hcount := congrArg (List.count '\x7d') h
  rw [count_fullName, count_fullName, List.count_eq_zero.2 (letters.notMem (by decide)),
    List.count_eq_zero.2 (letters'.notMem (by decide)), List.count_eq_zero.2 closed] at hcount
  have hclosed : '\x7d' ∉ uri := List.count_eq_zero.1 (by omega)
  have hparts : uri ++ '\x7d' :: name = uri' ++ '\x7d' :: name' := (List.cons.inj h).2
  have hcut := cutFirst?_append hclosed name
  rw [hparts, cutFirst?_append closed] at hcut
  exact (congrArg Prod.fst (Option.some.inj hcut)).symm

/-- a colon in a full name stands in its namespace -/
theorem brace_mem_of_cut {uri name label part : List Char} (letters : AllLetters name)
    (cut : cutFirst? ':' (Scope.fullName uri name) = some (label, part)) : '\x7d' ∈ part := by
  obtain ⟨hsplit, -⟩ := eq_of_cutFirst? cut
  rw [Scope.fullName] at hsplit
  rcases List.append_eq_append_iff.1 hsplit with ⟨more, -, hname⟩ | ⟨more, -, hpart⟩
  · have hcolon : ':' ∈ '\x7d' :: name := hname ▸ List.mem_append_right more List.mem_cons_self
    exact absurd (List.mem_of_ne_of_mem (by decide) hcolon) (letters.notMem (by decide))
  · have hbrace : '\x7d' ∈ ':' :: part := hpart ▸ List.mem_append_right more List.mem_cons_self
    exact List.mem_of_ne_of_mem (by decide) hbrace

/-- no name of a read document has a second closing brace -/
theorem ne_fullName_of_brace {name : String} (read : ReadTag name) {uri part : List Char} (brace : '\x7d' ∈ part) :
    name ≠ String.ofList (Scope.fullName uri part) := by
  intro same
  have hpos : 0 < part.count '\x7d' := List.count_pos_iff.2 brace
  cases read with
  | plain letters => exact ofList_ne_fullName letters uri part same.symm
  | @inside uri' name present closed letters =>
    have hlist : Scope.fullName uri' name = Scope.fullName uri part := by simpa using congrArg String.toList same
    have hcount := congrArg (List.count '\x7d') hlist
    rw [count_fullName, count_fullName, List.count_eq_zero.2 closed,
      List.count_eq_zero.2 (letters.notMem (by decide))] at hcount
    omega

/-! ## Reading names -/

theorem isNamed_iff {uri : String} {d : Data} : isNamed uri d = true ↔ d = .str uri := by
  cases d <;> simp [isNamed]

theorem expandPrefixed?_plain (ns : Namespaces) {name : String} (h : ':' ∉ name.toList) : ns.expandPrefixed? name = none := by
  rw [expandPrefixed?, cutFirst?_eq_none_iff.2 h]

theorem expandPrefixed?_cut (ns : Namespaces) {name : String} {label part : List Char}
    (cut : cutFirst? ':' name.toList = some (label, part)) :
    ns.expandPrefixed? name =
      (ns.find? (String.ofList label)).map fun uri => qualified uri.text (String.ofList part) := by
  rw [expandPrefixed?, cut]

theorem expandPrefixed?_eq_none {ns : Namespaces} {name : String}
    (unread : ¬∃ label part, cutFirst? ':' name.toList = some (label, part) ∧ (ns.find? (String.ofList label)).isSome) :
    ns.expandPrefixed? name = none := by
  cases hcut : cutFirst? ':' name.toList with
  | none => exact expandPrefixed?_plain ns (cutFirst?_eq_none_iff.1 hcut)
  | some parts =>
    obtain ⟨label, part⟩ := parts
    rw [expandPrefixed?_cut ns hcut, Option.map_eq_none_iff, ← Option.not_isSome_iff_eq_none]
    exact fun hknown => unread ⟨label, part, hcut, hknown⟩

/-- a full name that is read as if it had a prefix leads to one with a brace too many -/
theorem expandPrefixed?_of_colon {ns : Namespaces} {uri name label part : List Char} (letters : AllLetters name)
    (cut : cutFirst? ':' (String.ofList (Scope.fullName uri name)).toList = some (label, part))
    (known : (ns.find? (String.ofList label)).isSome) :
    ∃ other, ns.expandPrefixed? (String.ofList (Scope.fullName uri name)) =
      some (String.ofList (Scope.fullName other part)) ∧ '\x7d' ∈ part := by
  obtain ⟨d, hd⟩ := Option.isSome_iff_exists.1 known
  refine ⟨d.text.toList, ?_, brace_mem_of_cut letters (by rwa [String.toList_ofList] at cut)⟩
  rw [expandPrefixed?_cut ns cut, hd, Option.map_some, ← qualified_eq d.text.toList, String.ofList_toList]

theorem expandChild_of_prefixed {ns : Namespaces} {name full : String} (h : ns.expandPrefixed? name = some full) :
    ns.expandChild name = full := by
  rw [expandChild, h]

/-- a name that is no prefixed one stays as it is, if it looks like one or like a full name -/
theorem expandChild_of_marked {ns : Namespaces} {name : String} (h : ns.expandPrefixed? name = none)
    (marked : ':' ∈ name.toList ∨ name.toList.head? = some '\x7b') : ns.expandChild name = name := by
  rw [expandChild, h]
  rcases marked with hcolon | hbrace
  · simp [hcolon]
  · simp [hbrace]

theorem unmarked_of_letters {name : List Char} (letters : AllLetters name) :
    ((String.ofList name).toList.contains ':' || (String.ofList name).toList.head? == some '\x7b') = false := by
  have hcolon : ':' ∉ name := letters.notMem (by decide)
  have hbrace : name.head? ≠ some '\x7b' := fun h => letters.notMem (by decide) (List.mem_of_head? h)
  simpa [hcolon] using hbrace

theorem expandPrefixed?_letters (ns : Namespaces) {name : List Char} (letters : AllLetters name) :
    ns.expandPrefixed? (String.ofList name) = none :=
  expandPrefixed?_plain ns (by simpa using letters.notMem (by decide))

/-- a plain name lies in the namespace of names without a prefix, if there is one -/
theorem expandChild_of_default {ns : Namespaces} {name : List Char} (letters : AllLetters name) {uri : String}
    (default : ns.find? "" = some (.str uri)) (present : uri ≠ "") :
    ns.expandChild (String.ofList name) = String.ofList (Scope.fullName uri.toList name) := by
  rw [expandChild, expandPrefixed?_letters ns letters]
  simp only [unmarked_of_letters letters, Bool.false_eq_true, if_false]
  simp [default, Data.isEmpty, present, Data.text, ← qualified_eq]

theorem expandChild_of_no_default {ns : Namespaces} {name : List Char} (letters : AllLetters name)
    (none : ∀ uri, ns.find? "" = some uri → uri.isEmpty = true) :
    ns.expandChild (String.ofList name) = String.ofList name := by
  rw [expandChild, expandPrefixed?_letters ns letters]
  simp only [unmarked_of_letters letters, Bool.false_eq_true, if_false]
  cases hdefault : ns.find? "" with
  | none => rfl
  | some uri => simp [none uri hdefault]

/-! ## Hidden tags -/

/-- no name leads to children with the tag. It has no namespace where names without a prefix lie in one, or its namespace has no
prefix and its text up to the first colon is read as a prefix -/
def Hides (ns : Namespaces) (tag : String) : Prop :=
  match splitQualified? tag with
  | none => ∃ uri, uri ≠ "" ∧ ns.find? "" = some (.str uri)
  | some (uri, _) =>
    (∀ e ∈ ns.entries, e.2 ≠ .str uri) ∧
      ∃ label part, cutFirst? ':' tag.toList = some (label, part) ∧ (ns.find? (String.ofList label)).isSome

theorem shorten_of_unknown {ns : Namespaces} {uri name : List Char} (closed : '\x7d' ∉ uri)
    (unknown : ∀ e ∈ ns.entries, e.2 ≠ .str (String.ofList uri)) :
    ns.shorten (String.ofList (Scope.fullName uri name)) = String.ofList (Scope.fullName uri name) := by
  have hnone : (ns.entries.find? fun e => isNamed (String.ofList uri) e.2) = none :=
    List.find?_eq_none.2 fun e he hnamed => unknown e he (isNamed_iff.1 hnamed)
  rw [shorten, splitQualified?_inside closed]
  simp only [hnone]

/-- what a hidden tag is written as leads to a full name, with another namespace or with a brace too many -/
theorem expandChild_shorten_of_hides {ns : Namespaces} {tag : String} (read : ReadTag tag) (hidden : ns.Hides tag) :
    ∃ uri part, ns.expandChild (ns.shorten tag) = String.ofList (Scope.fullName uri part) ∧
      (AllLetters part ∧ ns.find? "" = some (.str (String.ofList uri)) ∨ '\x7d' ∈ part) := by
  cases read with
  | @plain name letters =>
    rw [Hides, splitQualified?_plain letters] at hidden
    obtain ⟨uri, hpresent, hdefault⟩ := hidden
    refine ⟨uri.toList, name, ?_, Or.inl ⟨letters, by rwa [String.ofList_toList]⟩⟩
    rw [shorten, splitQualified?_plain letters]
    exact expandChild_of_default letters hdefault hpresent
  | @inside uri name present closed letters =>
    rw [Hides, splitQualified?_inside closed] at hidden
    obtain ⟨hunknown, label, part, hcut, hknown⟩ := hidden
    obtain ⟨other, hother, hbrace⟩ := expandPrefixed?_of_colon letters hcut hknown
    refine ⟨other, part, ?_, Or.inr hbrace⟩
    rw [shorten_of_unknown closed hunknown]
    exact expandChild_of_prefixed hother

section

variable {ns : Namespaces} (named : ns.Named)

include named

theorem find?_of_mem {e : String × Data} (he : e ∈ ns.entries) : ns.find? e.1 = some e.2 :=
  Entries.lookup_of_mem named.distinct he

theorem text_of_find? {label : String} {d : Data} (h : ns.find? label = some d) : ∃ uri, d = .str uri :=
  named.text (label, d) (Entries.mem_of_lookup h)

theorem expandPrefixed?_short {label : String} {uri name : List Char}
    (known : (label, .str (String.ofList uri)) ∈ ns.entries) :
    ns.expandPrefixed? (label ++ ":" ++ String.ofList name) = some (String.ofList (Scope.fullName uri name)) := by
  have hlist : (label ++ ":" ++ String.ofList name).toList = label.toList ++ ':' :: name := by
    simp [String.toList_append]
  have hcut := cutFirst?_append (named.plain _ known) name
  rw [expandPrefixed?_cut ns (hlist ▸ hcut), String.ofList_toList, find?_of_mem named known, Option.map_some]
  exact congrArg some (qualified_eq uri name)

/-- the name of a known namespace, written with its prefix, is read as the full name -/
theorem expandChild_short {label : String} {uri name : List Char} (present : uri ≠ []) (letters : AllLetters name)
    (known : (label, .str (String.ofList uri)) ∈ ns.entries) :
    ns.expandChild (if label == "" then String.ofList name else label ++ ":" ++ String.ofList name) =
      String.ofList (Scope.fullName uri name) := by
  by_cases hlabel : label = ""
  · subst hlabel
    have hpresent : String.ofList uri ≠ "" := by simpa using present
    rw [if_pos (beq_self_eq_true _), expandChild_of_default letters (find?_of_mem named known) hpresent,
      String.toList_ofList]
  · rw [if_neg (by simpa using hlabel)]
    exact expandChild_of_prefixed (expandPrefixed?_short named known)

/-- a tag that is not hidden is given back -/
theorem expandChild_shorten {tag : String} (read : ReadTag tag) (shown : ¬ns.Hides tag) :
    ns.expandChild (ns.shorten tag) = tag := by
  cases read with
  | @plain name letters =>
    rw [Hides, splitQualified?_plain letters] at shown
    rw [shorten, splitQualified?_plain letters]
    refine expandChild_of_no_default letters fun d hdefault => ?_
    obtain ⟨uri, rfl⟩ := text_of_find? named hdefault
    have hempty : uri = "" := by
      by_contra hne
      exact shown ⟨uri, hne, hdefault⟩
    simp [Data.isEmpty, hempty]
  | @inside uri name present closed letters =>
    rw [Hides, splitQualified?_inside closed] at shown
    rw [shorten, splitQualified?_inside closed]
    dsimp only
    split
    · rename_i hnone
      have hunknown : ∀ e ∈ ns.entries, e.2 ≠ .str (String.ofList uri) := by
        intro e he same
        exact List.find?_eq_none.1 hnone e he (isNamed_iff.2 same)
      refine expandChild_of_marked (expandPrefixed?_eq_none fun hread => shown ⟨hunknown, hread⟩) (Or.inr ?_)
      rw [String.toList_ofList, Scope.fullName]
      rfl
    · rename_i e hfound
      obtain ⟨label, d⟩ := e
      have hnamed : isNamed (String.ofList uri) d = true := by simpa using List.find?_some hfound
      obtain rfl := isNamed_iff.1 hnamed
      exact expandChild_short named present letters (List.mem_of_find?_eq_some hfound)

/-- no name that a tag is written with leads to a hidden tag -/
theorem expandChild_shorten_ne_of_hides {tag other : String} (read : ReadTag tag) (hidden : ns.Hides tag)
    (hother : ReadTag other) : ns.expandChild (ns.shorten other) ≠ tag := by
  intro same
  by_cases hhides : ns.Hides other
  · obtain ⟨uri, part, hfull, hpart⟩ := expandChild_shorten_of_hides hother hhides
    rw [hfull] at same
    cases read with
    | plain letters => exact ofList_ne_fullName letters uri part same
    | @inside uri' name present closed letters =>
      have hlist : Scope.fullName uri part = Scope.fullName uri' name := by simpa using congrArg String.toList same
      rcases hpart with ⟨hletters, hdefault⟩ | hbrace
      · obtain rfl := uri_eq_of_fullName_eq hletters closed letters hlist
        rw [Hides, splitQualified?_inside closed] at hidden
        exact hidden.1 _ (Entries.mem_of_lookup hdefault) rfl
      · have hcount := congrArg (List.count '\x7d') hlist
        have hpos : 0 < part.count '\x7d' := List.count_pos_iff.2 hbrace
        rw [count_fullName, count_fullName, List.count_eq_zero.2 closed,
          List.count_eq_zero.2 (letters.notMem (by decide))] at hcount
        omega
  · rw [expandChild_shorten named hother hhides] at same
    exact hhides (same ▸ hidden)

end

end Namespaces

end Harvest.Xml
