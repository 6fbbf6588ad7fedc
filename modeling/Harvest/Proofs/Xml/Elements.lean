/-
The elements of a document that is read. Each start tag means what it does in the first scope, or in the scope inside another
element. So what resolving a start tag gives, in any scope that a document can have, holds of all of them, and through the
pieces of content it holds of all elements: an element has the tag and the attributes of its start tag.

- `StartTag.Reached`: the start tags that can stand in a document after these declarations.
- `madeIn_of_readContent`: the pieces of content keep that all elements come from such start tags.
- `madeIn_of_decodeXml`: so do all elements of a document that is read.
- `read_of_decodeXml`: every element of a document that is read has the tag of a read document.
-/
import Harvest.Document
import Harvest.Proofs.Xml.Names

namespace Harvest.Xml

/-! ## Start tags -/

namespace StartTag

/-- the start tag is what one that is written with names means in a scope -/
def ResolvedIn (d : Doctype) (scope : Scope) (t : StartTag) : Prop :=
  ∃ here name raws, QualifiedLetters name ∧ (∀ raw ∈ raws, QualifiedLetters raw.name) ∧
    StartTag.resolve d scope here name raws = .ok t

/-- the start tags that can stand in a document after these declarations: that of the root element, and those inside other
elements -/
inductive Reached (d : Doctype) : StartTag → Prop where
  | outermost {t : StartTag} (resolved : t.ResolvedIn d Scope.initial) : Reached d t
  | inside {outer t : StartTag} (reached : Reached d outer) (resolved : t.ResolvedIn d outer.scope) : Reached d t

theorem Reached.read {d : Doctype} {t : StartTag} (reached : t.Reached d) : t.Read := by
  induction reached with
  | outermost resolved =>
    obtain ⟨_, _, _, letters, -, h⟩ := resolved
    exact read_of_resolve Scope.closed_initial letters h
  | inside _ resolved outer =>
    obtain ⟨_, _, _, letters, -, h⟩ := resolved
    exact read_of_resolve outer.closed letters h

end StartTag

theorem resolvedIn_of_scanStartTag {d : Doctype} {scope : Scope} {here ss rest : List Symbol} {m : Markup}
    (h : scanStartTag d scope here ss = .ok (m, rest)) : ∃ t empty, m = .startTag t empty ∧ t.ResolvedIn d scope := by
  unfold scanStartTag at h
  dsimp only at h
  split at h
  · cases h
  · rename_i hname
    split at h
    · cases h
    · split at h
      · cases h
      · rename_i hraws
        split at h
        · cases h
        · rename_i t hresolve
          cases h
          exact ⟨t, _, rfl, _, _, _, letters_of_scanQualifiedName hname, letters_of_scanAttributes hraws, hresolve⟩

/-- a comment or a section is no start tag -/
theorem scanSpecial_ne_startTag (here ss : List Symbol) (t : StartTag) (empty : Bool) (rest : List Symbol) :
    scanSpecial here ss ≠ .ok (.startTag t empty, rest) := by
  intro h
  unfold scanSpecial at h
  dsimp only at h
  split at h
  · rename_i after
    cases hcomment : scanCommentOpening ⟨here, .tokenEnd⟩ after with
    | error halt =>
      rw [hcomment] at h
      cases h
    | ok inside =>
      rw [hcomment] at h
      cases h
  · split at h
    · cases h
    · rename_i inner _
      cases hsection : scanSection inner with
      | error halt =>
        rw [hsection] at h
        cases h
      | ok inside =>
        rw [hsection] at h
        cases h
  · cases h

theorem resolvedIn_of_scanMarkup {d : Doctype} {scope : Scope} {here ss rest : List Symbol} {t : StartTag} {empty : Bool}
    (h : scanMarkup d scope here ss = .ok (.startTag t empty, rest)) : t.ResolvedIn d scope := by
  unfold scanMarkup at h
  dsimp only at h
  split at h
  · rename_i after
    cases hend : scanEndTag ⟨here, .tokenEnd⟩ after with
    | error halt =>
      rw [hend] at h
      cases h
    | ok name =>
      rw [hend] at h
      cases h
  · rename_i after
    exact absurd h (scanSpecial_ne_startTag here after t empty rest)
  · split at h
    · cases h
    · cases h
    · cases h
  · obtain ⟨t', empty', hm, resolved⟩ := resolvedIn_of_scanStartTag h
    cases hm
    exact resolved

/-! ## Elements -/

/-- an element that comes from start tags which can stand after these declarations, with all elements inside it -/
inductive Element.MadeIn (d : Doctype) : Element → Prop where
  | mk {t : StartTag} {text tail : String} {children : List Element} (start : t.Reached d)
      (inner : ∀ c ∈ children, MadeIn d c) : MadeIn d (.mk t.tag t.attributes text children tail)

theorem Piece.madeIn_of_mem_elements {d : Doctype} {pieces : List Piece} (h : ∀ e, .element e ∈ pieces → e.MadeIn d) :
    ∀ e ∈ elements pieces, e.MadeIn d := by
  induction pieces with
  | nil => simp [elements]
  | cons piece pieces ih =>
    have hrest := ih fun e he => h e (List.mem_cons_of_mem _ he)
    cases piece with
    | text cs => exact hrest
    | element e =>
      obtain ⟨tag, attributes, text, children, tail⟩ := e
      rw [elements, List.forall_mem_cons]
      cases h _ List.mem_cons_self with
      | mk start inner => exact ⟨.mk start inner, hrest⟩

namespace Open

variable {d : Doctype} {o : Open}

/-- an element whose start tag and whose elements so far can stand after these declarations -/
structure MadeIn (d : Doctype) (o : Open) : Prop where
  start : o.start.Reached d
  inner : ∀ e, .element e ∈ o.pieces → e.MadeIn d

theorem madeIn_start {t : StartTag} (h : t.Reached d) : MadeIn d ⟨t, []⟩ :=
  ⟨h, by simp⟩

theorem MadeIn.add_text (h : o.MadeIn d) (cs : List Char) : (o.add (.text cs)).MadeIn d :=
  ⟨h.start, fun e he => h.inner e (by simpa [add] using he)⟩

theorem MadeIn.add_element (h : o.MadeIn d) {e : Element} (he : e.MadeIn d) : (o.add (.element e)).MadeIn d := by
  refine ⟨h.start, fun e' he' => ?_⟩
  rcases List.mem_cons.1 he' with same | later
  · cases same
    exact he
  · exact h.inner e' later

theorem MadeIn.close (h : o.MadeIn d) : o.close.MadeIn d := by
  refine .mk h.start (Piece.madeIn_of_mem_elements fun e he => ?_)
  exact h.inner e (List.mem_reverse.1 he)

/-- an element inside this one -/
theorem MadeIn.start_inside (h : o.MadeIn d) {here ss rest : List Symbol} {t : StartTag} {empty : Bool}
    (scanned : scanMarkup d o.start.scope here ss = .ok (.startTag t empty, rest)) : MadeIn d ⟨t, []⟩ :=
  madeIn_start (.inside h.start (resolvedIn_of_scanMarkup scanned))

end Open

section

variable {d : Doctype} {top : Open} {outer : List Open}

/-- what the end of an element leads to is made as before, if the open elements are -/
theorem madeIn_of_closeTop (htop : top.MadeIn d) (houter : ∀ o ∈ outer, o.MadeIn d) :
    (∀ e, closeTop top outer = .inl e → e.MadeIn d) ∧
      ∀ parent rest, closeTop top outer = .inr (parent, rest) → parent.MadeIn d ∧ ∀ o ∈ rest, o.MadeIn d := by
  cases outer with
  | nil =>
    refine ⟨fun e h => ?_, fun parent rest h => ?_⟩
    · cases h
      exact htop.close
    · cases h
  | cons parent outer =>
    refine ⟨fun e h => ?_, fun parent' rest h => ?_⟩
    · cases h
    · cases h
      obtain ⟨hparent, hrest⟩ := List.forall_mem_cons.1 houter
      exact ⟨hparent.add_element htop.close, hrest⟩

/-- every piece of content keeps what the open elements are made from, so the root element is made so too -/
theorem madeIn_of_readContent {odd : Bool} {fuel : Nat} {ss rest : List Symbol} {e : Element} (htop : top.MadeIn d)
    (houter : ∀ o ∈ outer, o.MadeIn d) (h : readContent odd d fuel top outer ss = .ok (e, rest)) : e.MadeIn d := by
  fun_induction readContent odd d fuel top outer ss with
  | case4 =>
    -- text in a section
    rename_i cs _ _ ih
    exact ih (htop.add_text cs) houter h
  | case5 =>
    rename_i ih
    exact ih htop houter h
  | case6 =>
    rename_i hmarkup ih
    exact ih (htop.start_inside hmarkup) (List.forall_mem_cons.2 ⟨htop, houter⟩) h
  | case7 =>
    -- an element that ends with its start tag
    rename_i hmarkup ih
    exact ih (htop.add_element (htop.start_inside hmarkup).close) houter h
  | case9 =>
    rename_i hclose
    cases h
    exact (madeIn_of_closeTop htop houter).1 e hclose
  | case10 =>
    rename_i parent outer' hclose ih
    obtain ⟨hparent, hrest⟩ := (madeIn_of_closeTop htop houter).2 parent outer' hclose
    exact ih hparent hrest h
  | case12 =>
    rename_i cs _ _ ih
    exact ih (htop.add_text cs) houter h
  | case14 =>
    rename_i cs _ _ ih
    exact ih (htop.add_text cs) houter h
  | _ => cases h

end

theorem madeIn_of_readRoot {odd : Bool} {d : Doctype} {here rest : List Symbol} {e : Element}
    (h : readRoot odd d here = .ok (e, rest)) : e.MadeIn d := by
  have hstart : ∀ {t empty after}, scanStartTag d Scope.initial here here.tail = .ok (.startTag t empty, after) →
      Open.MadeIn d ⟨t, []⟩ := by
    intro t empty after hscan
    obtain ⟨t', empty', hm, resolved⟩ := resolvedIn_of_scanStartTag hscan
    cases hm
    exact Open.madeIn_start (.outermost resolved)
  unfold readRoot at h
  split at h
  · cases h
  · rename_i hscan
    cases h
    exact (hstart hscan).close
  · rename_i hscan
    exact madeIn_of_readContent (hstart hscan) (by simp) h
  · cases h

/-! ## Documents -/

/-- what is declared before the root element of some document -/
def Doctype.FromProlog (d : Doctype) : Prop :=
  ∃ (text : Symbols) (standalone : Bool) (stop : Halt) (fuel : Nat) (here : List Symbol),
    readProlog stop ⟨standalone, false, true, []⟩ false fuel (tokensOf text.odd text.list).list = .ok (d, here)

theorem madeIn_of_readBody {standalone : Bool} {text : Symbols} {e : Element} (h : readBody standalone text = .ok e) :
    ∃ d : Doctype, d.FromProlog ∧ e.MadeIn d := by
  unfold readBody at h
  dsimp only at h
  split at h
  · cases h
  · rename_i d here hprolog
    split at h
    · cases h
    · rename_i root rest hroot
      cases hepilog : readEpilog (tokensOf text.odd rest).halt? (tokensOf text.odd rest).list with
      | error halt =>
        rw [hepilog] at h
        cases h
      | ok _ =>
        rw [hepilog] at h
        cases h
        exact ⟨d, ⟨text, standalone, _, _, here, hprolog⟩, madeIn_of_readRoot hroot⟩

theorem madeIn_of_readRest {standalone : Bool} {encoding : Encoding} {size : Nat} {bytes : List UInt8} {e : Element}
    (h : readRest standalone encoding size bytes = .ok e) : ∃ d : Doctype, d.FromProlog ∧ e.MadeIn d := by
  unfold readRest at h
  cases hbody : readBody standalone (encoding.symbols (bytes.drop size)) with
  | error halt =>
    rw [hbody] at h
    cases h
  | ok root =>
    rw [hbody] at h
    cases h
    exact madeIn_of_readBody hbody

theorem madeIn_of_readBytes {asText : Bool} {bytes : List UInt8} {e : Element} (h : readBytes asText bytes = .ok e) :
    ∃ d : Doctype, d.FromProlog ∧ e.MadeIn d := by
  unfold readBytes at h
  dsimp only at h
  split at h
  · cases h
  · split at h
    · exact madeIn_of_readRest h
    · split at h
      · cases h
      · split at h
        · cases h
        · exact madeIn_of_readRest h

/-- all elements of a document that is read come from start tags which can stand after what the document declares -/
theorem madeIn_of_decodeXml {content : Data} {e : Element} (h : Document.decodeXml content = .ok e) :
    ∃ d : Doctype, d.FromProlog ∧ e.MadeIn d := by
  unfold Document.decodeXml at h
  dsimp only at h
  split at h
  · cases h
  · rename_i root hread
    cases h
    cases content with
    | str s => exact madeIn_of_readBytes (Option.some.inj hread)
    | bytes bs => exact madeIn_of_readBytes (Option.some.inj hread)
    | _ => cases hread
  · cases h

/-! ## Tags -/

/-- an element of a document that is read, with all elements inside it -/
inductive Element.Read : Element → Prop where
  | mk {tag text tail : String} {attributes : List (String × String)} {children : List Element} (named : ReadTag tag)
      (inner : ∀ c ∈ children, Read c) : Read (.mk tag attributes text children tail)

theorem Element.MadeIn.read {d : Doctype} {e : Element} (made : e.MadeIn d) : e.Read := by
  induction made with
  | mk start _ ih => exact .mk start.read.named ih

/-- every element of a document that is read has the tag of a read document -/
theorem read_of_decodeXml {content : Data} {e : Element} (h : Document.decodeXml content = .ok e) : e.Read := by
  obtain ⟨d, -, made⟩ := madeIn_of_decodeXml h
  exact made.read

end Harvest.Xml
