/-
Texts and bytes in quotes, for display. A text is quoted with `'`, or with `"` when it holds `'` and no `"`; the quote, the
backslash and every hidden character is escaped.
-/
import Harvest.Text.Hex
import Harvest.Text.Printable

namespace Harvest.Text

/-- the quote for a text whose characters are `cs` -/
def chooseQuote (cs : List Char) : Char :=
  if cs.contains '\'' && !cs.contains '"' then '"' else '\''

/-- the shortest escape that holds the code point -/
def codeEscape (n : Nat) : List Char :=
  if n < 0x100 then '\\' :: 'x' :: hexDigits 2 n
  else if n < 0x10000 then '\\' :: 'u' :: hexDigits 4 n
  else '\\' :: 'U' :: hexDigits 8 n

/-- a character inside quotes -/
def quoteChar (quote c : Char) : List Char :=
  if c == quote || c == '\\' then ['\\', c]
  else if c == '\t' then ['\\', 't']
  else if c == '\n' then ['\\', 'n']
  else if c == '\r' then ['\\', 'r']
  else if isPrintable c then [c]
  else codeEscape c.toNat

def quoteChars (cs : List Char) : List Char :=
  let quote := chooseQuote cs
  quote :: cs.flatMap (quoteChar quote) ++ [quote]

/-- a text in quotes -/
def quoted (s : String) : String :=
  String.ofList (quoteChars s.toList)

/-- a byte inside quotes: an ASCII character, or an escape -/
def quoteByte (quote : Char) (b : UInt8) : List Char :=
  if b.toNat < 0x7F then quoteChar quote (Char.ofNat b.toNat) else codeEscape b.toNat

/-- bytes in quotes -/
def quotedBytes (bytes : List UInt8) : String :=
  let quote := chooseQuote (bytes.map fun b => Char.ofNat b.toNat)
  String.ofList ('b' :: quote :: bytes.flatMap (quoteByte quote) ++ [quote])

end Harvest.Text
