/-
Comma-separated values, read back. What is written for a table is a text from which its rows can be told: a reader that knows
of commas, line ends and quotes, and of nothing else, gets the names of the columns, and the text of each cell.

- `rowsFrom_field`: the reader gets a field as it was before it was written, quoted or not.
- `rowsFrom_csvLine`: and so the fields of a line.
- `readRows_csv`: and so all of a table.
-/
import Harvest.Table.Csv

namespace Harvest.Table

/-! ## A reader -/

/-- where a reader stands in a field -/
inductive FieldPart where
  | plain
  /-- inside quotes -/
  | quoted
  /-- after a quote inside quotes: it ends them, or is the first of two that stand for one -/
  | closing

/-- the rows of a text from some place on; `cell` is what is read of the field there, and `row` are the fields before it -/
def rowsFrom (part : FieldPart) (cell : List Char) (row : List (List Char)) : List Char → List (List (List Char))
  | [] => if cell.isEmpty && row.isEmpty then [] else [row ++ [cell]]
  | c :: rest =>
    match part with
    | .plain =>
      if c == ',' then rowsFrom .plain [] (row ++ [cell]) rest
      else if c == '\n' then (row ++ [cell]) :: rowsFrom .plain [] [] rest
      else if c == '"' && cell.isEmpty then rowsFrom .quoted [] row rest
      else rowsFrom .plain (cell ++ [c]) row rest
    | .quoted =>
      if c == '"' then rowsFrom .closing cell row rest
      else rowsFrom .quoted (cell ++ [c]) row rest
    | .closing =>
      if c == ',' then rowsFrom .plain [] (row ++ [cell]) rest
      else if c == '\n' then (row ++ [cell]) :: rowsFrom .plain [] [] rest
      else if c == '"' then rowsFrom .quoted (cell ++ [c]) row rest
      else rowsFrom .plain (cell ++ [c]) row rest

/-- the rows of a text, field by field -/
def readRows (cs : List Char) : List (List (List Char)) :=
  rowsFrom .plain [] [] cs

/-! ## Fields -/

variable {cell cs rest : List Char} {row : List (List Char)}

theorem rowsFrom_plain (plain : cs.any needsQuotes = false) :
    rowsFrom .plain cell row (cs ++ rest) = rowsFrom .plain (cell ++ cs) row rest := by
  induction cs generalizing cell with
  | nil => simp
  | cons c cs ih =>
    simp only [List.any_cons, Bool.or_eq_false_iff, needsQuotes] at plain
    obtain ⟨⟨⟨hcomma, hquote⟩, hend⟩, hcs⟩ := plain
    have hstep : rowsFrom .plain cell row (c :: (cs ++ rest)) = rowsFrom .plain (cell ++ [c]) row (cs ++ rest) := by
      simp [rowsFrom, hcomma, hquote, hend]
    rw [List.cons_append, hstep, ih hcs, List.append_assoc, List.singleton_append]

/-- inside quotes, a quote is written twice -/
theorem rowsFrom_quoted :
    rowsFrom .quoted cell row (cs.flatMap (fun c => if c == '"' then ['"', '"'] else [c]) ++ rest) =
      rowsFrom .quoted (cell ++ cs) row rest := by
  induction cs generalizing cell with
  | nil => simp
  | cons c cs ih =>
    rw [List.flatMap_cons, List.append_assoc, List.append_cons cell c cs, ← ih]
    by_cases hc : c = '"'
    · subst hc
      rfl
    · simp [rowsFrom, hc]

/-- a field ends at a comma or at the end of a line -/
def EndsField (c : Char) : Prop :=
  c = ',' ∨ c = '\n'

theorem rowsFrom_field {c : Char} (ends : EndsField c) :
    rowsFrom .plain [] row (field cs ++ c :: rest) = rowsFrom .plain cs row (c :: rest) := by
  cases hquotes : cs.any needsQuotes with
  | false =>
    rw [field, hquotes]
    exact rowsFrom_plain hquotes
  | true =>
    have hopen : rowsFrom .plain [] row (quoteField cs ++ c :: rest) =
        rowsFrom .quoted [] row (cs.flatMap (fun c => if c == '"' then ['"', '"'] else [c]) ++ ('"' :: c :: rest)) := by
      simp [quoteField, rowsFrom]
    rw [field, hquotes, if_pos rfl, hopen, rowsFrom_quoted]
    rcases ends with rfl | rfl <;> simp [rowsFrom]

/-! ## Lines -/

theorem rowsFrom_fields {fields : List (List Char)} (some : fields ≠ []) :
    rowsFrom .plain [] row ([','].intercalate (fields.map field) ++ '\n' :: rest) =
      (row ++ fields) :: rowsFrom .plain [] [] rest := by
  induction fields generalizing row with
  | nil => exact absurd rfl some
  | cons cell others ih =>
    cases others with
    | nil =>
      rw [List.map_singleton, List.intercalate_singleton, rowsFrom_field (.inr rfl)]
      simp [rowsFrom]
    | cons next others =>
      rw [List.map_cons, List.map_cons, List.intercalate_cons_cons, List.append_assoc, List.append_assoc,
        List.singleton_append, rowsFrom_field (.inl rfl)]
      have hstep : ∀ rest, rowsFrom .plain cell row (',' :: rest) = rowsFrom .plain [] (row ++ [cell]) rest := by
        intro rest
        simp [rowsFrom]
      rw [hstep, ← List.map_cons, ih (by simp), List.append_assoc, List.singleton_append]

theorem rowsFrom_csvLine {fields : List (List Char)} (some : fields ≠ []) :
    rowsFrom .plain [] [] (csvLine fields ++ rest) = fields :: rowsFrom .plain [] [] rest := by
  unfold csvLine
  split
  · simp [quoteField, rowsFrom]
  · rw [List.append_assoc, List.singleton_append, rowsFrom_fields some, List.nil_append]

/-! ## Tables -/

/-- **A table is read back.** A reader gets the names of the columns and the text of each cell, in order. A line without fields
would be no line, so there must be a column. -/
theorem readRows_csv {t : Table} (columns : t.columns ≠ []) (rows : ∀ row ∈ t.rows, row ≠ []) :
    readRows t.csv = t.columns.map String.toList :: t.rows.map fun row => row.map cellText := by
  have hrows : ∀ rows : List (List Data), (∀ row ∈ rows, row ≠ []) →
      rowsFrom .plain [] [] (rows.flatMap fun row => csvLine (row.map cellText)) = rows.map fun row => row.map cellText := by
    intro rows
    induction rows with
    | nil => intro; rfl
    | cons row rest ih =>
      intro hrows
      obtain ⟨hrow, hrest⟩ := List.forall_mem_cons.1 hrows
      rw [List.flatMap_cons, rowsFrom_csvLine (by simpa using hrow), ih hrest, List.map_cons]
  rw [readRows, csv, rowsFrom_csvLine (by simpa using columns), hrows t.rows rows]

/-- the table of failures is read back: a row with the name and the report of each failed record, in order -/
theorem readRows_ofFailures (failures : List (String × String)) :
    readRows (ofFailures failures).csv =
      ["record".toList, "error".toList] :: failures.map fun f => [f.1.toList, f.2.toList] := by
  have hrows : ∀ row ∈ (ofFailures failures).rows, row ≠ [] := List.forall_mem_map.2 fun f _ => List.cons_ne_nil _ _
  rw [readRows_csv (List.cons_ne_nil _ _) hrows]
  simp [ofFailures, cellText, Data.text]

end Harvest.Table
