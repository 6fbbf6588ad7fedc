/-
Lines of a text. Three line ends are read as one: `\n`, `\r` and `\r\n`; no other character ends a line.
-/
namespace Harvest.Text

/-- every line end becomes `\n` -/
def unifyLineEnds : List Char → List Char
  | [] => []
  | '\r' :: '\n' :: rest => '\n' :: unifyLineEnds rest
  | c :: rest => (if c == '\r' then '\n' else c) :: unifyLineEnds rest

/-- cut after every `\n`; only the last line can lack one, and none is empty -/
def splitLines : List Char → List (List Char)
  | [] => []
  | c :: rest =>
    if c == '\n' then ['\n'] :: splitLines rest
    else
      match splitLines rest with
      | [] => [[c]]
      | line :: lines => (c :: line) :: lines

theorem flatten_splitLines (cs : List Char) : (splitLines cs).flatten = cs := by
  induction cs with
  | nil => rfl
  | cons c rest ih =>
    unfold splitLines
    split
    · simp_all
    · split <;> simp_all

/-- the `\n` of a text are counted by its complete lines -/
def lineNumber (before : List Char) : Nat :=
  before.count '\n' + 1

/-- how far the last line of a text reaches -/
def columnAfter (before : List Char) : Nat :=
  (before.reverse.takeWhile (· != '\n')).length

end Harvest.Text
