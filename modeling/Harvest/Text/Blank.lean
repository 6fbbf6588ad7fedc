/-
Blank characters: the white space of every script, with the four information separators U+001C to U+001F. `strip` drops
them at both ends of a text.
-/
import Harvest.Text.Ranges

namespace Harvest.Text

/-- code points of blank characters -/
def blanks : List CodeRange := [
  (9, 0xD), (0x1C, 0x20), (0x85, 0x85), (0xA0, 0xA0), (0x1680, 0x1680), (0x2000, 0x200A), (0x2028, 0x2029),
  (0x202F, 0x202F), (0x205F, 0x205F), (0x3000, 0x3000)]

def isBlank (c : Char) : Bool :=
  inRanges blanks c.toNat

/-- drop the blank characters at the end -/
def stripEnd (cs : List Char) : List Char :=
  cs.foldr (fun c rest => if isBlank c && rest.isEmpty then [] else c :: rest) []

/-- drop the blank characters at both ends -/
def stripChars (cs : List Char) : List Char :=
  stripEnd (cs.dropWhile isBlank)

/-- drop the blank characters at both ends -/
def strip (s : String) : String :=
  String.ofList (stripChars s.toList)

/-- nothing but blank characters -/
def allBlank (s : String) : Bool :=
  s.toList.all isBlank

end Harvest.Text
