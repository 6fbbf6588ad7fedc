/-
Lines of a text, put together and taken apart. A line without a line end inside, a line end and the rest of a text are cut into
that line, ended by `\n` whatever ended it, and the lines of the rest.
-/
import Harvest.Text.Lines

namespace Harvest.Text

/-- a character that ends a line, alone or with another -/
def isLineEnd (c : Char) : Bool :=
  c == '\n' || c == '\r'

theorem isLineEnd_iff {c : Char} : isLineEnd c = true ↔ c = '\n' ∨ c = '\r' := by
  rw [isLineEnd, Bool.or_eq_true, beq_iff_eq, beq_iff_eq]

theorem isLineEnd_eq_false {c : Char} (newline : c ≠ '\n') (carriageReturn : c ≠ '\r') : isLineEnd c = false := by
  simp [isLineEnd, newline, carriageReturn]

/-- no line ends inside -/
def Unbroken (line : List Char) : Prop :=
  ∀ c ∈ line, isLineEnd c = false

instance (line : List Char) : Decidable (Unbroken line) :=
  List.decidableBAll (isLineEnd · = false) line

/-- what ends a line before the rest of a text; a lone `\r` does not stand before `\n` -/
inductive LineEnd : (ending rest : List Char) → Prop where
  | newline (rest : List Char) : LineEnd ['\n'] rest
  | pair (rest : List Char) : LineEnd ['\r', '\n'] rest
  | carriageReturn {rest : List Char} (alone : rest.head? ≠ some '\n') : LineEnd ['\r'] rest

theorem unifyLineEnds_cons {c : Char} (plain : isLineEnd c = false) (rest : List Char) :
    unifyLineEnds (c :: rest) = c :: unifyLineEnds rest := by
  have hreturn : c ≠ '\r' := by
    rintro rfl
    cases plain
  simp [unifyLineEnds, hreturn]

/-- a line is kept as it is -/
theorem unifyLineEnds_append {line : List Char} (unbroken : Unbroken line) (rest : List Char) :
    unifyLineEnds (line ++ rest) = line ++ unifyLineEnds rest := by
  induction line with
  | nil => rfl
  | cons c line ih =>
    obtain ⟨plain, hline⟩ := List.forall_mem_cons.1 unbroken
    rw [List.cons_append, unifyLineEnds_cons plain, ih hline, List.cons_append]

theorem unifyLineEnds_unbroken {line : List Char} (unbroken : Unbroken line) : unifyLineEnds line = line := by
  have happend := unifyLineEnds_append unbroken []
  rwa [List.append_nil, unifyLineEnds, List.append_nil] at happend

theorem unifyLineEnds_ending {ending rest : List Char} (h : LineEnd ending rest) :
    unifyLineEnds (ending ++ rest) = '\n' :: unifyLineEnds rest := by
  cases h with
  | newline => simp [unifyLineEnds]
  | pair => rfl
  | carriageReturn alone =>
    rw [List.singleton_append, unifyLineEnds]
    · rfl
    · rintro more - rfl
      exact alone rfl

/-- a text is cut after its first line -/
theorem splitLines_append {line : List Char} (unbroken : Unbroken line) (rest : List Char) :
    splitLines (line ++ '\n' :: rest) = (line ++ ['\n']) :: splitLines rest := by
  induction line with
  | nil => simp [splitLines]
  | cons c line ih =>
    obtain ⟨plain, hline⟩ := List.forall_mem_cons.1 unbroken
    have hnewline : c ≠ '\n' := by
      rintro rfl
      cases plain
    rw [List.cons_append, splitLines, ih hline]
    simp [hnewline]

/-- the last line of a text can lack its line end -/
theorem splitLines_unbroken {line : List Char} (unbroken : Unbroken line) (nonempty : line ≠ []) :
    splitLines line = [line] := by
  induction line with
  | nil => exact absurd rfl nonempty
  | cons c line ih =>
    obtain ⟨plain, hline⟩ := List.forall_mem_cons.1 unbroken
    have hnewline : c ≠ '\n' := by
      rintro rfl
      cases plain
    rw [splitLines]
    cases line with
    | nil => simp [splitLines, hnewline]
    | cons d line =>
      rw [ih hline (List.cons_ne_nil d line)]
      simp [hnewline]

end Harvest.Text
