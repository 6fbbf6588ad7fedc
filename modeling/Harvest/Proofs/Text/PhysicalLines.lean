/-
The lines of a text as they stand in it. A line carries what makes it one: no line ends inside it, and a line without an end
has at least a character. Lines one after the other are the lines of a text unless the end of one would be read together with
the next line: only the last line can lack its end, and `\r` does not stand right before `\n`.

- `isChain_cons_iff`: this is what it takes that each line ends where the next one begins.
- `exists_lines`, `eq_of_textOf_eq`: every text is made up of lines in exactly one way.
- `splitLines_textOf`: cutting a text gives these lines, each with `\n` for its end.
- `exists_replaced`: a line of a text is replaced by other characters.
-/
import Harvest.Proofs.Text.Lines
import Harvest.Text.Cut
import Mathlib.Data.List.Chain
import Mathlib.Data.List.TakeWhile

namespace Harvest.Text

/-- what ends a line -/
inductive Terminator where
  | newline
  | carriageReturn
  | pair
  deriving DecidableEq, Repr

def Terminator.chars : Terminator → List Char
  | newline => ['\n']
  | carriageReturn => ['\r']
  | pair => ['\r', '\n']

/-- a line as it stands in a text -/
structure Line where
  chars : List Char
  terminator? : Option Terminator
  unbroken : Unbroken chars
  nonempty : terminator? = none → chars ≠ []

namespace Line

/-- what ends the line, if anything does -/
def ending (line : Line) : List Char :=
  (line.terminator?.map Terminator.chars).getD []

/-- the line as it is written -/
def written (line : Line) : List Char :=
  line.chars ++ line.ending

/-- the line with `\n` for its end -/
def unified (line : Line) : List Char :=
  line.chars ++ (line.terminator?.map fun _ => '\n').toList

/-- the other line can stand below: this one has an end, and the end of the other one is not a part of it -/
structure Precedes (line below : Line) : Prop where
  ended : line.terminator? ≠ none
  apart : line.terminator? = some .carriageReturn → below.chars = [] → below.terminator? ≠ some .newline

instance : DecidableRel Precedes := fun line below =>
  decidable_of_iff (line.terminator? ≠ none ∧
      (line.terminator? = some .carriageReturn → below.chars = [] → below.terminator? ≠ some .newline))
    ⟨fun h => ⟨h.1, h.2⟩, fun h => ⟨h.ended, h.apart⟩⟩

/-- the line ends where the rest of a text begins -/
def Ends (line : Line) (rest : List Char) : Prop :=
  match line.terminator? with
  | none => rest = []
  | some t => LineEnd t.chars rest

theorem written_ne_nil (line : Line) : line.written ≠ [] := by
  intro h
  obtain ⟨hchars, hending⟩ := List.append_eq_nil_iff.1 h
  cases hterminator : line.terminator? with
  | none => exact line.nonempty hterminator hchars
  | some t =>
    rw [ending, hterminator] at hending
    cases t <;> cases hending

end Line

/-- lines one after the other -/
def textOf (lines : List Line) : List Char :=
  lines.flatMap Line.written

theorem textOf_cons (line : Line) (lines : List Line) :
    textOf (line :: lines) = line.chars ++ (line.ending ++ textOf lines) := by
  rw [textOf, List.flatMap_cons, Line.written, List.append_assoc]
  rfl

theorem textOf_eq_nil_iff {lines : List Line} : textOf lines = [] ↔ lines = [] := by
  cases lines with
  | nil => simp [textOf]
  | cons line lines => simp [textOf, line.written_ne_nil]

/-! ## Ends of lines -/

theorem lineEnd_iff {t : Terminator} {rest : List Char} :
    LineEnd t.chars rest ↔ (t = .carriageReturn → rest.head? ≠ some '\n') := by
  constructor
  · rintro h rfl
    cases h with
    | carriageReturn alone => exact alone
  · intro h
    cases t with
    | newline => exact .newline rest
    | carriageReturn => exact .carriageReturn (h rfl)
    | pair => exact .pair rest

/-- only an empty line that `\n` ends begins with `\n` -/
theorem head?_textOf_cons {line : Line} {lines : List Line} (below : line.terminator? = none → lines = []) :
    (textOf (line :: lines)).head? = some '\n' ↔ line.chars = [] ∧ line.terminator? = some .newline := by
  obtain ⟨chars, terminator?, unbroken, nonempty⟩ := line
  rw [textOf_cons]
  cases chars with
  | nil =>
    cases terminator? with
    | none => exact absurd rfl (nonempty rfl)
    | some t => cases t <;> simp [Line.ending, Terminator.chars]
  | cons c chars =>
    have hc : c ≠ '\n' := by
      rintro rfl
      cases unbroken '\n' List.mem_cons_self
    simp [hc]

/-- nothing stands below a line without an end -/
theorem eq_nil_of_isChain {line : Line} {lines : List Line} (chain : (line :: lines).IsChain Line.Precedes)
    (unended : line.terminator? = none) : lines = [] := by
  cases lines with
  | nil => rfl
  | cons below lines =>
    have hprecedes : line.Precedes below := (List.isChain_cons_cons.1 chain).1
    exact absurd unended hprecedes.ended

/-- lines stand one after the other iff each ends where the next one begins -/
theorem isChain_cons_iff {line : Line} {lines : List Line} :
    (line :: lines).IsChain Line.Precedes ↔ line.Ends (textOf lines) ∧ lines.IsChain Line.Precedes := by
  rw [List.isChain_cons, and_congr_left_iff]
  intro chain
  cases lines with
  | nil =>
    have hends : line.Ends (textOf []) := by
      unfold Line.Ends
      split
      · rfl
      · exact lineEnd_iff.2 fun _ h => nomatch h
    simp [hends]
  | cons below lines =>
    have hhead : (textOf (below :: lines)).head? = some '\n' ↔ below.chars = [] ∧ below.terminator? = some .newline :=
      head?_textOf_cons (eq_nil_of_isChain chain)
    simp only [List.head?_cons, Option.mem_some_iff, forall_eq']
    unfold Line.Ends
    split
    · rename_i hopen
      have hsome : textOf (below :: lines) ≠ [] := fun h => List.cons_ne_nil _ _ (textOf_eq_nil_iff.1 h)
      exact ⟨fun h => absurd hopen h.ended, fun h => absurd h hsome⟩
    · rename_i t hterminator
      rw [lineEnd_iff, ne_eq, hhead, not_and]
      constructor
      · rintro h rfl
        exact h.apart hterminator
      · intro h
        refine ⟨by simp [hterminator], fun hreturn => h ?_⟩
        rw [hterminator] at hreturn
        exact Option.some.inj hreturn

/-! ## Every text, in one way -/

/-- a text begins with the end of a line if it begins with a character that ends one -/
theorem exists_terminator {c : Char} (ends : isLineEnd c = true) (more : List Char) :
    ∃ t rest, c :: more = Terminator.chars t ++ rest ∧ LineEnd t.chars rest := by
  rcases isLineEnd_iff.1 ends with rfl | rfl
  · exact ⟨.newline, more, rfl, .newline more⟩
  · by_cases hpair : more.head? = some '\n'
    · obtain ⟨rest, rfl⟩ := List.head?_eq_some_iff.1 hpair
      exact ⟨.pair, rest, rfl, .pair rest⟩
    · exact ⟨.carriageReturn, more, rfl, .carriageReturn hpair⟩

/-- every text begins with a line -/
theorem exists_firstLine {cs : List Char} (nonempty : cs ≠ []) :
    ∃ (line : Line) (rest : List Char), line.written ++ rest = cs ∧ line.Ends rest := by
  obtain ⟨chars, rest, rfl, hunbroken, hrest⟩ : ∃ chars rest, chars ++ rest = cs ∧ Unbroken chars ∧
      ∀ c ∈ rest.head?, isLineEnd c = true := by
    refine ⟨_, _, List.takeWhile_append_dropWhile (p := fun c => !isLineEnd c), fun c hc => ?_, fun c hc => ?_⟩
    · simpa using List.mem_takeWhile_imp hc
    · have hhead := List.head?_dropWhile_not (fun c => !isLineEnd c) cs
      rw [Option.mem_def.1 hc] at hhead
      simpa using hhead
  cases rest with
  | nil =>
    rw [List.append_nil] at nonempty
    exact ⟨⟨chars, none, hunbroken, fun _ => nonempty⟩, [], by simp [Line.written, Line.ending], rfl⟩
  | cons c more =>
    obtain ⟨t, rest, hmore, ends⟩ := exists_terminator (hrest c rfl) more
    refine ⟨⟨chars, some t, hunbroken, fun h => nomatch h⟩, rest, ?_, ends⟩
    rw [hmore, Line.written, List.append_assoc]
    rfl

/-- every text is made up of lines; the induction is on its length -/
theorem exists_lines (cs : List Char) : ∃ lines : List Line, lines.IsChain Line.Precedes ∧ textOf lines = cs := by
  induction hlength : cs.length using Nat.strong_induction_on generalizing cs with
  | _ n ih =>
    by_cases hempty : cs = []
    · exact ⟨[], .nil, hempty.symm⟩
    · obtain ⟨line, rest, rfl, ends⟩ := exists_firstLine hempty
      have hpositive : 0 < line.written.length := List.length_pos_iff.2 line.written_ne_nil
      have hshorter : rest.length < n := by
        rw [List.length_append] at hlength
        omega
      obtain ⟨lines, chain, rfl⟩ := ih _ hshorter rest rfl
      exact ⟨line :: lines, isChain_cons_iff.2 ⟨ends, chain⟩, rfl⟩

theorem LineEnd.eq_of_append_eq {t u : Terminator} {rest more : List Char} (ht : LineEnd t.chars rest)
    (hu : LineEnd u.chars more) (h : t.chars ++ rest = u.chars ++ more) : t = u ∧ rest = more := by
  rw [lineEnd_iff] at ht hu
  cases t <;> cases u <;> grind [Terminator.chars]

/-- the characters of a line go on up to the first character that ends one -/
theorem Line.cut {line : Line} {rest : List Char} (ends : line.Ends rest) :
    (line.written ++ rest).takeWhile (fun c => !isLineEnd c) = line.chars ∧
      (line.written ++ rest).dropWhile (fun c => !isLineEnd c) = line.ending ++ rest := by
  rw [written, List.append_assoc]
  refine takeWhile_append_ends (fun c hc => by rw [line.unbroken c hc]; rfl) _ fun c hc => ?_
  unfold Ends at ends
  cases hterminator : line.terminator? with
  | none =>
    rw [hterminator] at ends
    rw [ending, hterminator, ends] at hc
    cases hc
  | some t =>
    rw [ending, hterminator] at hc
    cases t <;> cases hc <;> rfl

/-- no text can be begun by two lines that end in it -/
theorem Line.eq_of_append_eq {line other : Line} {rest more : List Char} (hline : line.Ends rest) (hother : other.Ends more)
    (h : line.written ++ rest = other.written ++ more) : line = other ∧ rest = more := by
  have hcut := cut hline
  rw [h, (cut hother).1, (cut hother).2] at hcut
  obtain ⟨hchars, hending⟩ := hcut
  obtain ⟨chars, terminator?, _, _⟩ := line
  obtain ⟨chars', terminator?', _, _⟩ := other
  obtain rfl : chars' = chars := hchars
  cases terminator? with
  | none =>
    cases terminator?' with
    | none => exact ⟨rfl, hline.trans hother.symm⟩
    | some u =>
      obtain rfl : rest = [] := hline
      cases u <;> cases hending
  | some t =>
    cases terminator?' with
    | none =>
      obtain rfl : more = [] := hother
      cases t <;> cases hending
    | some u =>
      obtain ⟨rfl, rfl⟩ := LineEnd.eq_of_append_eq hline hother hending.symm
      exact ⟨rfl, rfl⟩

theorem eq_of_textOf_eq {lines others : List Line} (hlines : lines.IsChain Line.Precedes)
    (hothers : others.IsChain Line.Precedes) (h : textOf lines = textOf others) : lines = others := by
  induction lines generalizing others with
  | nil => exact (textOf_eq_nil_iff.1 h.symm).symm
  | cons line lines ih =>
    cases others with
    | nil => exact textOf_eq_nil_iff.1 h
    | cons other others =>
      obtain ⟨hends, hbelow⟩ := isChain_cons_iff.1 hlines
      obtain ⟨hends', hbelow'⟩ := isChain_cons_iff.1 hothers
      obtain ⟨rfl, hrest⟩ := Line.eq_of_append_eq hends hends' h
      rw [ih hbelow hbelow' hrest]

/-! ## Cutting -/

/-- with one end for all lines, a text is cut into its lines -/
theorem splitLines_textOf {lines : List Line} (chain : lines.IsChain Line.Precedes) :
    splitLines (unifyLineEnds (textOf lines)) = lines.map Line.unified := by
  induction lines with
  | nil => rfl
  | cons line lines ih =>
    obtain ⟨ends, below⟩ := isChain_cons_iff.1 chain
    unfold Line.Ends at ends
    rw [List.map_cons, ← ih below, textOf_cons, Line.ending, Line.unified]
    cases hterminator : line.terminator? with
    | none =>
      rw [hterminator] at ends
      have hsplit := splitLines_unbroken line.unbroken (line.nonempty hterminator)
      simp [ends, unifyLineEnds_unbroken line.unbroken, hsplit, unifyLineEnds, splitLines]
    | some t =>
      rw [hterminator] at ends
      have hrest : unifyLineEnds (t.chars ++ textOf lines) = '\n' :: unifyLineEnds (textOf lines) :=
        unifyLineEnds_ending ends
      rw [unifyLineEnds_append line.unbroken, Option.map_some, Option.getD_some, hrest,
        splitLines_append line.unbroken]
      rfl

/-- the lines make up the text with one end for all lines -/
theorem flatten_unified {lines : List Line} (chain : lines.IsChain Line.Precedes) :
    (lines.map Line.unified).flatten = unifyLineEnds (textOf lines) := by
  rw [← splitLines_textOf chain, flatten_splitLines]

/-! ## Replacing a line -/

/-- the text with other characters on the line; the end of the line stays -/
def replacedText (before : List Line) (line : Line) (chars : List Char) (after : List Line) : List Char :=
  textOf before ++ (chars ++ line.ending) ++ textOf after

/-- with these characters, the end of the line stays apart from the end of the line above -/
def StaysApart (before : List Line) (line : Line) (chars : List Char) : Prop :=
  chars = [] → line.terminator? = some .newline → ∀ above ∈ before.getLast?, above.terminator? ≠ some .carriageReturn

/-- the characters of a line are replaced; without characters and without an end, there is no line any more -/
theorem exists_replaced {before after : List Line} {line : Line} {chars : List Char}
    (chain : (before ++ line :: after).IsChain Line.Precedes) (unbroken : Unbroken chars)
    (apart : StaysApart before line chars) :
    ∃ own : Option Line, (before ++ own.toList ++ after).IsChain Line.Precedes ∧
      textOf (before ++ own.toList ++ after) = replacedText before line chars after ∧
      (own = none → after = []) := by
  obtain ⟨hbefore, hbelow, habove⟩ := List.isChain_append.1 chain
  by_cases hgone : line.terminator? = none ∧ chars = []
  · obtain ⟨hopen, rfl⟩ := hgone
    obtain rfl := eq_nil_of_isChain hbelow hopen
    refine ⟨none, ?_, ?_, fun _ => rfl⟩
    · simpa using hbefore
    · simp [textOf, replacedText, Line.ending, hopen]
  · have hnonempty : line.terminator? = none → chars ≠ [] := fun hopen hempty => hgone ⟨hopen, hempty⟩
    refine ⟨some ⟨chars, line.terminator?, unbroken, hnonempty⟩, ?_, ?_, fun h => nomatch h⟩
    · rw [Option.toList_some, List.append_assoc, List.singleton_append, List.isChain_append]
      obtain ⟨hfirst, hafter⟩ := List.isChain_cons.1 hbelow
      refine ⟨hbefore, List.isChain_cons.2 ⟨fun below hmem => ?_, hafter⟩, ?_⟩
      · exact ⟨(hfirst below hmem).ended, (hfirst below hmem).apart⟩
      · intro above hmem own hown
        obtain rfl := Option.some.inj hown
        have hended := (habove above hmem line rfl).ended
        exact ⟨hended, fun hreturn hempty hnewline => apart hempty hnewline above hmem hreturn⟩
    · simp [textOf, replacedText, Line.written, Line.ending]

end Harvest.Text
