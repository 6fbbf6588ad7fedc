/-
Writing plain data as JSON text on one line: `, ` between items, `: ` after a key, every character as it is unless it must
be escaped. Bytes and objects have no JSON form, so data that holds one is not written.
-/
import Harvest.Data.Display
import Harvest.Text.Hex

namespace Harvest.Json

open Harvest.Number Harvest.Text

/-- a character inside a string -/
def escapeChar (c : Char) : List Char :=
  if c == '"' then ['\\', '"']
  else if c == '\\' then ['\\', '\\']
  else if c == '\n' then ['\\', 'n']
  else if c == '\r' then ['\\', 'r']
  else if c == '\t' then ['\\', 't']
  else if c == '\x0c' then ['\\', 'f']
  else if c == '\x08' then ['\\', 'b']
  else if c.toNat < 0x20 then '\\' :: 'u' :: hexDigits 4 c.toNat
  else [c]

def writeString (s : String) : List Char :=
  '"' :: s.toList.flatMap escapeChar ++ ['"']

/-- a floating-point number; those that are not finite are words -/
def writeFloat (x : Binary64) : List Char :=
  match x.magnitude with
  | .nan => "NaN".toList
  | .infinite => (if x.isNegative then "-Infinity" else "Infinity").toList
  | .finite _ _ => x.text.toList

mutual

/-- the text of a value, or the part of it that has none -/
def write : Data → Except Data (List Char)
  | .null => .ok "null".toList
  | .bool b => .ok (if b then "true" else "false").toList
  | .int n => .ok (Data.intText n).toList
  | .float x => .ok (writeFloat x)
  | .str s => .ok (writeString s)
  | .bytes bs => .error (.bytes bs)
  | .object cls properties => .error (.object cls properties)
  | .list items => (writeItems items).map fun parts => '[' :: ", ".toList.intercalate parts ++ [']']
  | .dict entries => (writeEntries entries).map fun parts => '\x7b' :: ", ".toList.intercalate parts ++ ['\x7d']

def writeItems : List Data → Except Data (List (List Char))
  | [] => .ok []
  | x :: xs =>
    match write x with
    | .error part => .error part
    | .ok text => (writeItems xs).map (text :: ·)

def writeEntries : List (String × Data) → Except Data (List (List Char))
  | [] => .ok []
  | (k, x) :: es =>
    match write x with
    | .error part => .error part
    | .ok text => (writeEntries es).map ((writeString k ++ ':' :: ' ' :: text) :: ·)

end

end Harvest.Json
