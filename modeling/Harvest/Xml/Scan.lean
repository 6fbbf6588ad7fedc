/-
The pieces of XML markup. A scanner takes the symbols still to be read and gives what it found with the symbols after it,
or halts: a rule is broken at a place, given as the symbols from that place on.

Scanners of a construct know `w`, where its token starts and which rule is broken when the document ends inside it.
-/
import Harvest.Text.DecimalDigit
import Harvest.Text.Hex
import Harvest.Xml.Error
import Harvest.Xml.Symbol

namespace Harvest.Xml

open Harvest.Text

/-- why reading ends before the document is read -/
inductive Halt where
  | broken (rule : Rule) (here : List Symbol)
  | undeclared (name : List Char) (here : List Symbol)
  | declaration (name : List Char) (systemId publicId : Option (List Char))
  | encoding (name : List Char) (fault : EncodingFault)
  deriving Repr

/-- what was found, and the symbols after it -/
abbrev Scan (α : Type) := Except Halt (α × List Symbol)

/-- the token that is being scanned: its start, and the rule that an end of the text inside it breaks -/
structure Within where
  start : List Symbol
  rule : Rule := .tokenEnd

namespace Within

/-- the text ends inside the token -/
def atEnd (w : Within) : Halt := .broken w.rule w.start

/-- the token cannot go on with these symbols, as the first unit of the first one tells -/
def misplaced (w : Within) : List Symbol → Halt
  | [] => w.atEnd
  | s :: rest => .broken .token (s :: rest)

/-- the token cannot go on with these symbols; the first one is looked at as a whole -/
def misfit (w : Within) : List Symbol → Halt
  | [] => w.atEnd
  | s :: rest => if s.isCutOff then .broken .wholeCharacter w.start else .broken .token (s :: rest)

end Within

/-! ## Names -/

/-- a character that starts a name -/
def scanNameStart (w : Within) (ss : List Symbol) : Scan Char :=
  match ss with
  | [] => .error w.atEnd
  | s :: rest => if s.startsName then .ok (s.char, rest) else .error (w.misfit ss)

/-- a name without a colon -/
def scanName (w : Within) (ss : List Symbol) : Scan (List Char) :=
  match scanNameStart w ss with
  | .error e => .error e
  | .ok (c, rest) => .ok (c :: charsOf (rest.takeWhile Symbol.inName), rest.dropWhile Symbol.inName)

/-- a name with at most one colon, which has a name on both sides -/
def scanQualifiedName (w : Within) (ss : List Symbol) : Scan (List Char) :=
  match scanName w ss with
  | .error e => .error e
  | .ok (first, ⟨':', _⟩ :: rest) =>
    match scanName w rest with
    | .error e => .error e
    | .ok (second, rest) => .ok (first ++ ':' :: second, rest)
  | .ok (first, rest) => .ok (first, rest)

/-! ## References -/

/-- a reference to an entity by name, or to a character by number -/
inductive Reference where
  | named (name : List Char)
  | numbered (n : Nat)
  deriving Repr

/-- the digits of a character number and the semicolon after them -/
def scanNumber (w : Within) (base : Nat) (digit? : Char → Option Nat) (ss : List Symbol) : Scan Reference :=
  let isDigit (s : Symbol) := (digit? s.char).isSome
  match charsOf (ss.takeWhile isDigit), ss.dropWhile isDigit with
  | c :: digits, ⟨';', _⟩ :: rest =>
    .ok (.numbered ((c :: digits).foldl (fun n c => base * n + (digit? c).getD 0) 0), rest)
  | _, rest => .error (w.misplaced rest)

def asciiDigit? (c : Char) : Option Nat :=
  if isAsciiDigit c then some (c.toNat - '0'.toNat) else none

/-- a name and the semicolon after it -/
def scanNameEnd (w : Within) (ss : List Symbol) : Scan (List Char) :=
  match scanName w ss with
  | .error e => .error e
  | .ok (name, ⟨';', _⟩ :: rest) => .ok (name, rest)
  | .ok (_, rest) => .error (w.misfit rest)

/-- a reference, after its ampersand -/
def scanReference (w : Within) (ss : List Symbol) : Scan Reference :=
  match ss with
  | ⟨'#', _⟩ :: ⟨'x', _⟩ :: rest => scanNumber w 16 hexValue? rest
  | ⟨'#', _⟩ :: rest => scanNumber w 10 asciiDigit? rest
  | ss => (scanNameEnd w ss).map fun s => (.named s.1, s.2)

/-- the character with a number, if a document may hold it -/
def characterNumbered? (n : Nat) : Option Char :=
  if 0x110000 ≤ n || (0xD800 ≤ n && n ≤ 0xDFFF) || isForbiddenCode n then none else some (Char.ofNat n)

/-- entities that need no declaration -/
def predefined : List (List Char × Char) := [
  ("lt".toList, '<'), ("gt".toList, '>'), ("amp".toList, '&'), ("quot".toList, '"'), ("apos".toList, '\'')]

/-! ## Comments, instructions, sections -/

/-- the rest of a comment, after its second hyphen -/
def scanComment (w : Within) : List Symbol → Except Halt (List Symbol)
  | [] => .error w.atEnd
  | ⟨'-', _⟩ :: ⟨'-', _⟩ :: ⟨'>', _⟩ :: rest => .ok rest
  | ⟨'-', _⟩ :: ⟨'-', _⟩ :: rest => .error (w.misplaced rest)
  | s :: rest => if s.isMalformed || s.isCutOff then .error (w.misfit (s :: rest)) else scanComment w rest

/-- a comment, after its first hyphen -/
def scanCommentOpening (w : Within) (ss : List Symbol) : Except Halt (List Symbol) :=
  match ss with
  | ⟨'-', _⟩ :: rest => scanComment w rest
  | rest => .error (w.misplaced rest)

/-- the end of a processing instruction -/
def scanInstructionEnd (w : Within) : List Symbol → Except Halt (List Symbol)
  | [] => .error w.atEnd
  | ⟨'?', _⟩ :: ⟨'>', _⟩ :: rest => .ok rest
  | s :: rest => if s.isMalformed || s.isCutOff then .error (w.misfit (s :: rest)) else scanInstructionEnd w rest

/-- the target of an instruction is `xml` in any case -/
def isXmlName (name : List Char) : Bool :=
  name.map Char.toLower == "xml".toList

/-- a processing instruction, after `<?`; true if it is an XML declaration -/
def scanInstruction (w : Within) (ss : List Symbol) : Scan Bool :=
  match scanName w ss with
  | .error e => .error e
  | .ok (target, rest) =>
    let declares := target == "xml".toList
    match rest with
    | [] => .error w.atEnd
    | s :: after =>
      if (s.isSpace || s.char == '?') && isXmlName target && !declares then .error (.broken .token rest)
      else if s.isSpace then (scanInstructionEnd w after).map fun rest => (declares, rest)
      else if s.char == '?' then
        match after with
        | ⟨'>', _⟩ :: rest => .ok (declares, rest)
        | after => .error (w.misplaced after)
      else .error (w.misfit rest)

/-- the symbols of a section that holds its characters as they are, up to its end; line ends become `\n` -/
def scanSection : List Symbol → Scan (List Char)
  | [] => .error (.broken .cdataEnd [])
  | ⟨']', _⟩ :: ⟨']', _⟩ :: ⟨'>', _⟩ :: rest => .ok ([], rest)
  | [⟨']', a⟩, ⟨']', b⟩] => .error (.broken .cdataEnd [⟨']', a⟩, ⟨']', b⟩])
  | [⟨']', a⟩] => .error (.broken .cdataEnd [⟨']', a⟩])
  | [⟨'\r', a⟩] => .error (.broken .cdataEnd [⟨'\r', a⟩])
  | ⟨'\r', _⟩ :: ⟨'\n', _⟩ :: rest => (scanSection rest).map fun s => ('\n' :: s.1, s.2)
  | s :: rest =>
    if s.isMalformed then .error (.broken .token (s :: rest))
    else if s.isCutOff then .error (.broken .wholeCharacter (s :: rest))
    else (scanSection rest).map fun found => ((if s.char == '\r' then '\n' else s.char) :: found.1, found.2)

/-- the word that opens such a section, after `<![`; without as many units it is not looked at -/
def scanSectionOpening (w : Within) (ss : List Symbol) : Except Halt (List Symbol) :=
  let word := "CDATA[".toList
  if (ss.take word.length).foldl (fun units s => units + s.form.units) 0 < word.length then .error w.atEnd
  else
    let agreed := ((ss.zip word).takeWhile fun p => p.1.char == p.2).length
    if agreed == word.length then .ok (ss.drop agreed) else .error (.broken .token (ss.drop agreed))

/-! ## Tags -/

/-- an attribute as written, with the places of its name and of its value -/
structure RawAttribute where
  name : List Char
  nameHere : List Symbol
  quote : Char
  valueHere : List Symbol

/-- an attribute value up to its closing quote; only its form is checked -/
def scanValue (w : Within) (quote : Char) : Nat → List Symbol → Except Halt (List Symbol)
  | 0, _ => .error w.atEnd
  | _ + 1, [] => .error w.atEnd
  | fuel + 1, s :: rest =>
    if s.char == quote then .ok rest
    else if s.char == '&' then
      match scanReference w rest with
      | .error e => .error e
      | .ok (_, rest) => scanValue w quote fuel rest
    else if s.char == '<' || s.isMalformed || s.isCutOff then .error (w.misfit (s :: rest))
    else scanValue w quote fuel rest

/-- the equals sign after the name of an attribute, with the white space before it -/
def scanEquals (w : Within) (ss : List Symbol) : Except Halt (List Symbol) :=
  match ss with
  | [] => .error w.atEnd
  | s :: rest =>
    if s.char == '=' then .ok rest
    else if s.isSpace then
      match skipSpace rest with
      | ⟨'=', _⟩ :: rest => .ok rest
      | rest => .error (w.misplaced rest)
    else .error (w.misfit ss)

/-- an attribute: a name, an equals sign, a value in quotes -/
def scanAttribute (w : Within) (ss : List Symbol) : Scan RawAttribute :=
  match scanQualifiedName w ss with
  | .error e => .error e
  | .ok (name, rest) =>
    match scanEquals w rest with
    | .error e => .error e
    | .ok rest =>
      match skipSpace rest with
      | [] => .error w.atEnd
      | s :: rest =>
        if s.char == '"' || s.char == '\'' then
          match scanValue w s.char (rest.length + 1) rest with
          | .error e => .error e
          | .ok after => .ok (⟨name, ss, s.char, rest⟩, after)
        else .error (w.misplaced (s :: rest))

/-- the attributes of a tag and its end; true if the tag ends its element at once -/
def scanAttributes (w : Within) : Nat → List Symbol → Scan (List RawAttribute × Bool)
  | 0, _ => .error w.atEnd
  | fuel + 1, ss =>
    match ss with
    | [] => .error w.atEnd
    | ⟨'>', _⟩ :: rest => .ok (([], false), rest)
    | ⟨'/', _⟩ :: ⟨'>', _⟩ :: rest => .ok (([], true), rest)
    | ⟨'/', _⟩ :: rest => .error (w.misplaced rest)
    | s :: _ =>
      if s.isSpace then
        match skipSpace ss with
        | [] => .error w.atEnd
        | ⟨'>', _⟩ :: rest => .ok (([], false), rest)
        | ⟨'/', a⟩ :: rest => scanAttributes w fuel (⟨'/', a⟩ :: rest)
        | rest =>
          match scanAttribute w rest with
          | .error e => .error e
          | .ok (found, rest) =>
            match scanAttributes w fuel rest with
            | .error e => .error e
            | .ok ((more, empty), rest) => .ok ((found :: more, empty), rest)
      else .error (w.misplaced ss)

/-- an end tag, after `</`: its name -/
def scanEndTag (w : Within) (ss : List Symbol) : Scan (List Char) :=
  match scanNameStart w ss with
  | .error e => .error e
  | .ok (c, rest) =>
    let inName (s : Symbol) := s.inName || s.char == ':'
    let name := c :: charsOf (rest.takeWhile inName)
    match rest.dropWhile inName with
    | [] => .error w.atEnd
    | ⟨'>', _⟩ :: after => .ok (name, after)
    | s :: after =>
      if s.isSpace then
        match skipSpace after with
        | ⟨'>', _⟩ :: after => .ok (name, after)
        | after => .error (w.misplaced after)
      else .error (w.misfit (s :: after))

end Harvest.Xml
