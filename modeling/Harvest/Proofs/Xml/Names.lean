/-
Names of a document that is read. The characters of a name are letters of names, with at most one colon between them; a
prefix becomes a namespace, which is never empty and holds no closing brace. So a tag is a name without a colon, alone or in a
namespace.

- `letters_of_scanQualifiedName`, `letters_of_scanAttributes`: what is scanned as a name.
- `readTag_of_tagName`: a tag in a scope that holds no closing brace.
- `StartTag.read_of_resolve`: a start tag has such a tag, and the scope inside its element holds no closing brace either.
-/
import Harvest.Xml.StartTag
import Mathlib.Data.Nat.Init

namespace Harvest.Xml

open Harvest.Text

/-! ## Names -/

/-- letters of names only -/
def AllLetters (cs : List Char) : Prop := ∀ c ∈ cs, inSomeName c = true

/-- letters, or letters with a colon between them -/
def QualifiedLetters (cs : List Char) : Prop :=
  AllLetters cs ∨ ∃ first second, cs = first ++ ':' :: second ∧ AllLetters first ∧ AllLetters second

/-- the name of an element as a read document has it -/
inductive ReadTag : String → Prop where
  | plain {name : List Char} (letters : AllLetters name) : ReadTag (String.ofList name)
  | inside {uri name : List Char} (present : uri ≠ []) (closed : '\x7d' ∉ uri) (letters : AllLetters name) :
      ReadTag (String.ofList (Scope.fullName uri name))

/-- a mark is no letter of names -/
theorem AllLetters.notMem {cs : List Char} (h : AllLetters cs) {mark : Char} (hmark : inSomeName mark = false) :
    mark ∉ cs := by
  intro hmem
  rw [h mark hmem] at hmark
  cases hmark

theorem allLetters_of_inName {taken : List Symbol} (h : ∀ s ∈ taken, s.inName = true) : AllLetters (charsOf taken) := by
  intro c hc
  obtain ⟨s, hs, rfl⟩ := List.mem_map.1 hc
  exact Symbol.inSomeName_of_inName (h s hs)

theorem allLetters_takeWhile (ss : List Symbol) : AllLetters (charsOf (ss.takeWhile Symbol.inName)) :=
  allLetters_of_inName (List.all_eq_true.1 List.all_takeWhile)

theorem letters_of_scanNameStart {w : Within} {ss rest : List Symbol} {c : Char}
    (h : scanNameStart w ss = .ok (c, rest)) : inSomeName c = true := by
  unfold scanNameStart at h
  split at h
  · cases h
  · split at h
    · rename_i s _ hstart
      cases h
      exact Symbol.inSomeName_of_inName (Symbol.inName_of_startsName hstart)
    · cases h

theorem letters_of_scanName {w : Within} {ss rest : List Symbol} {name : List Char}
    (h : scanName w ss = .ok (name, rest)) : AllLetters name := by
  unfold scanName at h
  split at h
  · cases h
  · rename_i c after hstart
    cases h
    exact List.forall_mem_cons.2 ⟨letters_of_scanNameStart hstart, allLetters_takeWhile after⟩

theorem letters_of_scanQualifiedName {w : Within} {ss rest : List Symbol} {name : List Char}
    (h : scanQualifiedName w ss = .ok (name, rest)) : QualifiedLetters name := by
  unfold scanQualifiedName at h
  split at h
  · cases h
  · rename_i first _ _ hfirst
    split at h
    · cases h
    · rename_i second _ hsecond
      cases h
      exact Or.inr ⟨first, second, rfl, letters_of_scanName hfirst, letters_of_scanName hsecond⟩
  · rename_i hfirst
    cases h
    exact Or.inl (letters_of_scanName hfirst)

theorem letters_of_scanAttribute {w : Within} {ss rest : List Symbol} {raw : RawAttribute}
    (h : scanAttribute w ss = .ok (raw, rest)) : QualifiedLetters raw.name := by
  unfold scanAttribute at h
  split at h
  · cases h
  · rename_i hname
    split at h
    · cases h
    · split at h
      · cases h
      · split at h
        · split at h
          · cases h
          · cases h
            exact letters_of_scanQualifiedName hname
        · cases h

theorem letters_of_scanAttributes {w : Within} {fuel : Nat} {ss rest : List Symbol} {raws : List RawAttribute} {empty : Bool}
    (h : scanAttributes w fuel ss = .ok ((raws, empty), rest)) : ∀ raw ∈ raws, QualifiedLetters raw.name := by
  induction fuel generalizing ss rest raws empty with
  | zero => cases h
  | succ fuel ih =>
    unfold scanAttributes at h
    split at h
    · cases h
    · cases h
      simp
    · cases h
      simp
    · cases h
    · split at h
      · split at h
        · cases h
        · cases h
          simp
        · exact ih h
        · split at h
          · cases h
          · rename_i hfound
            split at h
            · cases h
            · rename_i hmore
              cases h
              exact List.forall_mem_cons.2 ⟨letters_of_scanAttribute hfound, ih hmore⟩
      · cases h

/-! ## Scopes -/

namespace Scope

/-- no namespace holds a closing brace -/
def Closed (scope : Scope) : Prop := ∀ b ∈ scope, '\x7d' ∉ b.2

theorem closed_initial : Closed initial := by
  intro b hb
  obtain rfl := List.mem_singleton.1 hb
  decide

/-- what is bound comes first, and a namespace with a closing brace is not bound -/
theorem bind_ok {scope scope' : Scope} {label uri : List Char} (h : scope.bind label uri = .ok scope') :
    scope' = (label, uri) :: scope ∧ '\x7d' ∉ uri := by
  unfold Scope.bind at h
  grind

theorem closed_bind {scope scope' : Scope} {label uri : List Char} (closed : scope.Closed)
    (h : scope.bind label uri = .ok scope') : scope'.Closed := by
  obtain ⟨rfl, hbrace⟩ := bind_ok h
  exact List.forall_mem_cons.2 ⟨hbrace, closed⟩

theorem closed_of_find? {scope : Scope} {label uri : List Char} (closed : scope.Closed)
    (h : scope.find? label = some uri) : uri ≠ [] ∧ '\x7d' ∉ uri := by
  unfold Scope.find? at h
  split at h
  · cases h
  · rename_i hempty
    refine ⟨?_, ?_⟩
    · rintro rfl
      exact hempty h
    · obtain ⟨before, after, rfl, -⟩ := List.lookup_eq_some_iff.1 h
      exact closed (label, uri) (List.mem_append_right _ List.mem_cons_self)

/-- a tag in a scope is a name without a colon, alone or in a namespace -/
theorem readTag_of_tagName {scope : Scope} {name tag : List Char} (closed : scope.Closed) (letters : QualifiedLetters name)
    (h : scope.tagName name = .ok tag) : ReadTag (String.ofList tag) := by
  have hinside : ∀ {label uri part}, AllLetters part → scope.find? label = some uri →
      ReadTag (String.ofList (fullName uri part)) := by
    intro label uri part hpart huri
    obtain ⟨hpresent, hclosed⟩ := closed_of_find? closed huri
    exact .inside hpresent hclosed hpart
  rcases letters with hall | ⟨label, part, rfl, hlabel, hpart⟩
  · rw [tagName, cutFirst?_eq_none_iff.2 (hall.notMem (by decide))] at h
    dsimp only at h
    split at h
    · rename_i uri huri
      cases h
      exact hinside hall huri
    · cases h
      exact .plain hall
  · rw [tagName, cutFirst?_append (hlabel.notMem (by decide))] at h
    dsimp only at h
    split at h
    · rename_i uri huri
      cases h
      exact hinside hpart huri
    · cases h

end Scope

/-! ## Start tags -/

namespace Collected

theorem closed_add {c c' : Collected} {here : List Symbol} {name value : List Char} (closed : c.scope.Closed)
    (h : c.add here name value = .ok c') : c'.scope.Closed := by
  unfold add at h
  split at h
  · cases h
    exact closed
  · split at h
    · cases h
    · rename_i hbind
      cases h
      exact Scope.closed_bind closed hbind

theorem closed_addWritten {d : Doctype} {here : List Symbol} {element : List Char} {raws : List RawAttribute}
    {c c' : Collected} (closed : c.scope.Closed) (h : c.addWritten d here element raws = .ok c') : c'.scope.Closed := by
  induction raws generalizing c with
  | nil =>
    cases h
    exact closed
  | cons raw raws ih =>
    unfold addWritten at h
    split at h
    · cases h
    · dsimp only at h
      split at h
      · cases h
      · split at h
        · cases h
        · rename_i hadd
          exact ih (closed_add closed hadd) h

theorem closed_addDeclared {here : List Symbol} {rules : List AttributeRule} {c c' : Collected} (closed : c.scope.Closed)
    (h : c.addDeclared here rules = .ok c') : c'.scope.Closed := by
  induction rules generalizing c with
  | nil =>
    cases h
    exact closed
  | cons rule rules ih =>
    unfold addDeclared at h
    split at h
    · exact ih closed h
    · split at h
      · exact ih closed h
      · split at h
        · cases h
        · rename_i hadd
          exact ih (closed_add closed hadd) h

end Collected

/-- the start tag of a document that is read -/
structure StartTag.Read (t : StartTag) : Prop where
  named : ReadTag t.tag
  closed : t.scope.Closed

theorem StartTag.read_of_resolve {d : Doctype} {scope : Scope} {here : List Symbol} {name : List Char}
    {raws : List RawAttribute} {t : StartTag} (closed : scope.Closed) (letters : QualifiedLetters name)
    (h : StartTag.resolve d scope here name raws = .ok t) : t.Read := by
  unfold StartTag.resolve at h
  split at h
  · cases h
  · rename_i hwritten
    split at h
    · cases h
    · rename_i hdeclared
      have hscope := Collected.closed_addDeclared (Collected.closed_addWritten closed hwritten) hdeclared
      split at h
      · cases h
      · cases h
      · rename_i htag
        cases h
        exact ⟨Scope.readTag_of_tagName hscope letters htag, hscope⟩

end Harvest.Xml
