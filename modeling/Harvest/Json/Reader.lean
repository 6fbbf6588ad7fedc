/-
Reading a JSON text. The reader is a family of functions on the characters still to be read; each returns what it read and
the characters after it, or a failure that names the rule broken and where it was broken, as the characters from that point
on. A failure's position in the text is therefore the length of the text less the length of those characters.

White space is space, tab, `\n` and `\r`. `NaN`, `Infinity` and `-Infinity` are numbers. Of repeated keys the last value
wins, at the place of the first. A text holds characters only, so an escape that is half a pair, and is not followed by the other
half, is read as U+FFFD.
-/
import Harvest.Data.Basic
import Harvest.Number.Numeral
import Harvest.Text.Hex
import Harvest.Text.Lines

namespace Harvest.Json

open Harvest.Number Harvest.Text

/-- the rule that a text breaks -/
inductive Reason where
  | byteOrderMark
  | expectingValue
  | expectingKey
  | expectingColon
  | expectingComma
  | extraData
  | unterminatedString
  | controlCharacter
  | badEscape
  | badUnicodeEscape
  deriving DecidableEq, Repr

def Reason.message : Reason → String
  | .byteOrderMark => "Unexpected UTF-8 BOM (decode using utf-8-sig)"
  | .expectingValue => "Expecting value"
  | .expectingKey => "Expecting property name enclosed in double quotes"
  | .expectingColon => "Expecting ':' delimiter"
  | .expectingComma => "Expecting ',' delimiter"
  | .extraData => "Extra data"
  | .unterminatedString => "Unterminated string starting at"
  | .controlCharacter => "Invalid control character at"
  | .badEscape => "Invalid \\escape"
  | .badUnicodeEscape => "Invalid \\uXXXX escape"

/-- a broken rule, and the characters from the place where it was broken -/
structure Failure where
  reason : Reason
  here : List Char
  deriving Repr

/-- what was read, and the characters after it -/
abbrev Read (α : Type) := Except Failure (α × List Char)

def isSpace (c : Char) : Bool :=
  c == ' ' || c == '\t' || c == '\n' || c == '\r'

def skipSpace (cs : List Char) : List Char :=
  cs.dropWhile isSpace

theorem skipSpace_cons {c : Char} (h : isSpace c = false) (rest : List Char) : skipSpace (c :: rest) = c :: rest :=
  List.dropWhile_cons_of_neg (by simp [h])

theorem skipSpace_space {c : Char} (h : isSpace c = true) (rest : List Char) : skipSpace (c :: rest) = skipSpace rest :=
  List.dropWhile_cons_of_pos h

theorem length_skipSpace (cs : List Char) : (skipSpace cs).length ≤ cs.length :=
  (List.dropWhile_suffix _).length_le

/-! ## Strings -/

/-- the character that a one-letter escape stands for -/
def escaped? (c : Char) : Option Char :=
  if c == '"' || c == '\\' || c == '/' then some c
  else if c == 'b' then some '\x08'
  else if c == 'f' then some '\x0c'
  else if c == 'n' then some '\n'
  else if c == 'r' then some '\r'
  else if c == 't' then some '\t'
  else none

/-- the number that four hexadecimal digits write -/
def hexQuad? (cs : List Char) : Option Nat :=
  if cs.length < 4 then none
  else (cs.take 4).foldl (fun n? c => n?.bind fun n => (hexValue? c).map (16 * n + ·)) (some 0)

def isHighSurrogate (n : Nat) : Bool := 0xD800 ≤ n && n ≤ 0xDBFF

def isLowSurrogate (n : Nat) : Bool := 0xDC00 ≤ n && n ≤ 0xDFFF

/-- the character of a code point; half a pair alone is no character, and is replaced -/
def charOfCode (n : Nat) : Char :=
  if 0xD800 ≤ n && n ≤ 0xDFFF then '\uFFFD' else Char.ofNat n

/-- what follows `\u`: four digits, and a second escape when the two make a pair; something must follow the digits -/
def readUnicodeEscape (cs : List Char) : Read Char :=
  let failure : Failure := ⟨.badUnicodeEscape, 'u' :: cs⟩
  if cs.length ≤ 4 then .error failure
  else
    match hexQuad? cs with
    | none => .error failure
    | some high =>
      let rest := cs.drop 4
      match isHighSurrogate high && 6 < rest.length, rest with
      | true, '\\' :: 'u' :: more =>
        match hexQuad? more with
        | none => .error ⟨.badUnicodeEscape, 'u' :: more⟩
        | some low =>
          if isLowSurrogate low then
            .ok (Char.ofNat (0x10000 + (high - 0xD800) * 0x400 + (low - 0xDC00)), more.drop 4)
          else .ok (charOfCode high, rest)
      | _, _ => .ok (charOfCode high, rest)

/-- what follows a backslash -/
def readEscape (opening cs : List Char) : Read Char :=
  match cs with
  | [] => .error ⟨.unterminatedString, opening⟩
  | 'u' :: rest => readUnicodeEscape rest
  | c :: rest =>
    match escaped? c with
    | some image => .ok (image, rest)
    | none => .error ⟨.badEscape, '\\' :: cs⟩

/-- the characters of a string up to its closing quote, at most `fuel` of them; `opening` starts at its opening quote -/
def readCharacters (opening : List Char) : Nat → List Char → Read (List Char)
  | 0, _ => .error ⟨.unterminatedString, opening⟩
  | _ + 1, [] => .error ⟨.unterminatedString, opening⟩
  | fuel + 1, c :: rest =>
    if c == '"' then .ok ([], rest)
    else if c == '\\' then
      match readEscape opening rest with
      | .error e => .error e
      | .ok (image, rest) =>
        match readCharacters opening fuel rest with
        | .error e => .error e
        | .ok (cs, rest) => .ok (image :: cs, rest)
    else if c.toNat < 0x20 then .error ⟨.controlCharacter, c :: rest⟩
    else
      match readCharacters opening fuel rest with
      | .error e => .error e
      | .ok (cs, rest) => .ok (c :: cs, rest)

/-- a string, after its opening quote -/
def readString (cs : List Char) : Read String :=
  match readCharacters ('"' :: cs) (cs.length + 1) cs with
  | .error e => .error e
  | .ok (text, rest) => .ok (String.ofList text, rest)

/-! ## Values -/

/-- the words that stand for a value, longest first where one starts another -/
def words : List (List Char × Data) := [
  ("null".toList, .null),
  ("true".toList, .bool true),
  ("false".toList, .bool false),
  ("NaN".toList, .float .nan),
  ("Infinity".toList, .float (.infinity false)),
  ("-Infinity".toList, .float (.infinity true))]

/-- a word at the front of the text -/
def readWord? (cs : List Char) : Option (Data × List Char) :=
  words.findSome? fun w => if w.1.isPrefixOf cs then some (w.2, cs.drop w.1.length) else none

/-- the value of a numeral -/
def numeralValue (n : Numeral) : Data :=
  match n.toInt? with
  | some i => .int i
  | none => .float n.toBinary64

/-- a value that is neither a string nor a list nor a mapping -/
def readScalar (cs : List Char) : Read Data :=
  match readWord? cs with
  | some found => .ok found
  | none =>
    match Numeral.split cs with
    | some (n, rest) => .ok (numeralValue n, rest)
    | none => .error ⟨.expectingValue, cs⟩

mutual

/-- a value whose first character is at the front of the text -/
def readValue : Nat → List Char → Read Data
  | 0, cs => .error ⟨.expectingValue, cs⟩
  | fuel + 1, cs =>
    match cs with
    | '"' :: rest =>
      match readString rest with
      | .error e => .error e
      | .ok (s, rest) => .ok (.str s, rest)
    | '[' :: rest =>
      match skipSpace rest with
      | ']' :: rest => .ok (.list [], rest)
      | rest =>
        match readItems fuel rest with
        | .error e => .error e
        | .ok (items, rest) => .ok (.list items, rest)
    | '\x7b' :: rest =>
      match skipSpace rest with
      | '\x7d' :: rest => .ok (.dict [], rest)
      | rest =>
        match readEntries fuel rest with
        | .error e => .error e
        | .ok (entries, rest) => .ok (.dict (Entries.ofList entries), rest)
    | cs => readScalar cs

/-- one or more items, and the bracket that closes them -/
def readItems : Nat → List Char → Read (List Data)
  | 0, cs => .error ⟨.expectingValue, cs⟩
  | fuel + 1, cs =>
    match readValue fuel cs with
    | .error e => .error e
    | .ok (item, rest) =>
      match skipSpace rest with
      | ']' :: rest => .ok ([item], rest)
      | ',' :: rest =>
        match readItems fuel (skipSpace rest) with
        | .error e => .error e
        | .ok (items, rest) => .ok (item :: items, rest)
      | rest => .error ⟨.expectingComma, rest⟩

/-- one or more entries, and the brace that closes them -/
def readEntries : Nat → List Char → Read (List (String × Data))
  | 0, cs => .error ⟨.expectingKey, cs⟩
  | fuel + 1, cs =>
    match cs with
    | '"' :: rest =>
      match readString rest with
      | .error e => .error e
      | .ok (key, rest) =>
        match skipSpace rest with
        | ':' :: rest =>
          match readValue fuel (skipSpace rest) with
          | .error e => .error e
          | .ok (value, rest) =>
            match skipSpace rest with
            | '\x7d' :: rest => .ok ([(key, value)], rest)
            | ',' :: rest =>
              match readEntries fuel (skipSpace rest) with
              | .error e => .error e
              | .ok (entries, rest) => .ok ((key, value) :: entries, rest)
            | rest => .error ⟨.expectingComma, rest⟩
        | rest => .error ⟨.expectingColon, rest⟩
    | cs => .error ⟨.expectingKey, cs⟩

end

/-- a whole text: one value with white space around it -/
def readText (cs : List Char) : Except Failure Data :=
  match cs with
  | '\uFEFF' :: _ => .error ⟨.byteOrderMark, cs⟩
  | cs =>
    let start := skipSpace cs
    match readValue (2 * start.length + 1) start with
    | .error e => .error e
    | .ok (value, rest) =>
      match skipSpace rest with
      | [] => .ok value
      | rest => .error ⟨.extraData, rest⟩

/-! ## Positions -/

/-- a failure with its place in the text: characters before it, its line from 1, its column from 1 -/
structure Error where
  reason : Reason
  offset : Nat
  line : Nat
  column : Nat
  deriving DecidableEq, Repr

def Failure.locate (e : Failure) (text : List Char) : Error :=
  let offset := text.length - e.here.length
  let before := text.take offset
  ⟨e.reason, offset, lineNumber before, columnAfter before + 1⟩

def Error.message (e : Error) : String :=
  e.reason.message ++ ": line " ++ Nat.repr e.line ++ " column " ++ Nat.repr e.column ++ " (char "
    ++ Nat.repr e.offset ++ ")"

/-- the value that a text writes -/
def read (text : String) : Except Error Data :=
  match readText text.toList with
  | .ok value => .ok value
  | .error e => .error (e.locate text.toList)

end Harvest.Json
