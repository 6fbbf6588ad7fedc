/-
From the bytes of an XML document to its symbols. The encoding is found from the first bytes, and may be named by the
document's own declaration.
-/
import Harvest.Text.Utf8
import Harvest.Xml.EncodingName
import Harvest.Xml.Symbol

namespace Harvest.Xml

open Harvest.Text

inductive Encoding where
  | utf8
  | utf16 (bigEndian : Bool)
  /-- one byte a character, with the symbol of each byte -/
  | single (symbols : List Symbol)
  deriving DecidableEq, Repr

/-- the symbols of a document; `odd` if half a code unit is left at its end -/
structure Symbols where
  list : List Symbol
  odd : Bool
  deriving Repr

namespace Encoding

/-! ## UTF-8 -/

/-- how many bytes a character with this lead byte takes -/
def utf8Size (lead : UInt8) : Nat :=
  if lead < 0xC0 then 1 else if lead < 0xE0 then 2 else if lead < 0xF0 then 3 else if lead < 0xF5 then 4 else 1

/-- the symbol at the front of bytes that start with `lead` -/
def utf8Symbol (lead : UInt8) (bytes : List UInt8) : Symbol :=
  let size := utf8Size lead
  if lead < 0x80 then .narrow (Char.ofNat lead.toNat)
  else if size == 1 then .broken 1 false
  else if bytes.length < size then .unfinished bytes.length
  else
    match Utf8.split bytes with
    | .char c _ => ⟨c, .ofChar c size true⟩
    | _ => .broken size true

def utf8Symbols : Nat → List UInt8 → List Symbol
  | 0, _ => []
  | _ + 1, [] => []
  | fuel + 1, lead :: rest =>
    utf8Symbol lead ((lead :: rest).take (utf8Size lead)) :: utf8Symbols fuel ((lead :: rest).drop (utf8Size lead))

/-! ## UTF-16 -/

/-- the symbol of one of the first 256 characters in such an encoding -/
def tableSymbol (c : Char) : Symbol :=
  if h : isTableLetter c then ⟨c, ⟨.nameStart, 1, false, fun _ => by simp [inSomeName, h]⟩⟩ else .narrow c

/-- the two bytes of a unit in their order -/
def unit (bigEndian : Bool) (a b : UInt8) : Nat :=
  if bigEndian then a.toNat * 0x100 + b.toNat else b.toNat * 0x100 + a.toNat

/-- a unit that is a whole character, or none -/
def unitSymbol (n : Nat) : Symbol :=
  if n < 0x100 then tableSymbol (Char.ofNat n)
  else if (0xDC00 ≤ n && n < 0xE000) || isForbiddenCode n then .broken 1 false
  else ⟨Char.ofNat n, .ofChar (Char.ofNat n) 1 true⟩

/-- the character of a pair of units; the second one gives its low bits, whatever it is -/
def pairSymbol (high low : Nat) : Symbol :=
  ⟨Char.ofNat (0x10000 + (high - 0xD800) * 0x400 + low % 0x400), { role := .plain, units := 2, wide := true }⟩

def utf16Symbols (bigEndian : Bool) : List UInt8 → Symbols
  | [] => ⟨[], false⟩
  | [_] => ⟨[], true⟩
  | a :: b :: rest =>
    let n := unit bigEndian a b
    if 0xD800 ≤ n && n < 0xDC00 then
      match rest with
      | c :: d :: rest =>
        let more := utf16Symbols bigEndian rest
        ⟨pairSymbol n (unit bigEndian c d) :: more.list, more.odd⟩
      | rest => ⟨[.unfinished 1], !rest.isEmpty⟩
    else
      let more := utf16Symbols bigEndian rest
      ⟨unitSymbol n :: more.list, more.odd⟩

/-! ## Any encoding -/

/-- one byte a character, as a table of characters says -/
def ofPage (page : Codepage) : Encoding :=
  single (page.characters.map fun
    | some c => .narrow c
    | none => .broken 1 false)

/-- the encoding of the first 256 characters by single bytes -/
def latinOne : Encoding :=
  single ((List.range 0x100).map fun n => tableSymbol (Char.ofNat n))

/-- the symbols of a byte sequence -/
def symbols (encoding : Encoding) (bytes : List UInt8) : Symbols :=
  match encoding with
  | utf8 => ⟨utf8Symbols bytes.length bytes, false⟩
  | utf16 bigEndian => utf16Symbols bigEndian bytes
  | single table => ⟨bytes.map fun b => table.getD b.toNat (.broken 1 false), false⟩

/-- the encoding that the first bytes show, and the size of the mark that shows it; none if they are too few to tell -/
def detect : List UInt8 → Option (Encoding × Nat)
  | [] => some (utf8, 0)
  | [a] => if [0xFE, 0xFF, 0xEF, 0x00, 0x3C].contains a then none else some (utf8, 0)
  | a :: b :: rest =>
    if a == 0xFE && b == 0xFF then some (utf16 true, 2)
    else if a == 0xFF && b == 0xFE then some (utf16 false, 2)
    else if a == 0xEF && b == 0xBB then
      match rest with
      | [] => none
      | c :: _ => some (utf8, if c == 0xBF then 3 else 0)
    else if a == 0x00 then some (utf16 true, 0)
    else if b == 0x00 then some (utf16 false, 0)
    else some (utf8, 0)

/-- how many bytes a code unit takes -/
def width : Encoding → Nat
  | utf16 _ => 2
  | _ => 1

/-- what a document's declaration of its encoding leads to -/
inductive Choice where
  | use (encoding : Encoding)
  /-- the document is not written in the encoding -/
  | conflict
  /-- the encoding is not one that documents can be written in -/
  | foreign
  | faulty (fault : EncodingFault)

/-- the encoding with a name, for a document that is being read with another one -/
def choose (current : Encoding) (name : List Char) : Choice :=
  let fit (encoding : Encoding) : Choice := if encoding.width == current.width then .use encoding else .conflict
  match String.ofList (name.map Char.toUpper) with
  | "UTF-8" => fit utf8
  | "ISO-8859-1" => fit latinOne
  | "US-ASCII" => fit (ofPage .ascii)
  | "UTF-16" => if current.width == 2 then .use current else .conflict
  | "UTF-16BE" => if current == utf16 true then .use current else .conflict
  | "UTF-16LE" => if current == utf16 false then .use current else .conflict
  | _ =>
    match NamedEncoding.ofName? name with
    | none => .faulty .unknown
    | some (.page page) => .use (ofPage page)
    | some .foreign => .foreign
    | some (.faulty fault) => .faulty fault

end Encoding

end Harvest.Xml
