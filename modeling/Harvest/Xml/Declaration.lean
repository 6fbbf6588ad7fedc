/-
The XML declaration: version, encoding and standalone in this order, the last two optional. A fault has a place, the
symbols from there to the end of the declaration.
-/
import Harvest.Text.DecimalDigit
import Harvest.Xml.Symbol

namespace Harvest.Xml

open Harvest.Text

/-- what an XML declaration says -/
structure Declaration where
  /-- the encoding's name, and the symbols from there on -/
  encoding? : Option (List Char × List Symbol)
  standalone : Bool
  deriving Repr

namespace Declaration

/-- one of the settings of a declaration, with the places of its name and its value -/
structure Setting where
  name : List Char
  nameHere : List Symbol
  value : List Char
  valueHere : List Symbol

def isAscii (c : Char) : Bool :=
  c.toNat < 0x80

def isValueChar (c : Char) : Bool :=
  c.isAlphanum || c == '.' || c == '-' || c == '_'

/-- the value of a setting, after its equals sign: the value, its place and what follows -/
def readValue (ss : List Symbol) : Except (List Symbol) (List Char × List Symbol × List Symbol) :=
  match skipSpace ss with
  | [] => .error []
  | quote :: start =>
    if quote.char == '"' || quote.char == '\'' then
      let inValue (s : Symbol) := isValueChar s.char
      match start.dropWhile inValue with
      | [] => .error []
      | s :: rest =>
        if s.char == quote.char then .ok (charsOf (start.takeWhile inValue), start, rest) else .error (s :: rest)
    else .error (quote :: start)

/-- a setting at the front, after the white space that must precede it; none at the end of the declaration -/
def readSetting (ss : List Symbol) : Except (List Symbol) (Option Setting × List Symbol) :=
  match ss with
  | [] => .ok (none, [])
  | s :: _ =>
    if !s.isSpace then .error ss
    else
      match skipSpace ss with
      | [] => .ok (none, ss)
      | start =>
        let inName (s : Symbol) := isAscii s.char && s.char != '=' && !s.isSpace
        match skipSpace (start.dropWhile inName) with
        | ⟨'=', _⟩ :: rest =>
          if (start.takeWhile inName).isEmpty then .error start
          else
            match readValue rest with
            | .error here => .error here
            | .ok (value, valueHere, rest) =>
              .ok (some ⟨charsOf (start.takeWhile inName), start, value, valueHere⟩, rest)
        | rest => .error rest

/-- the end of a declaration -/
def readEnd (d : Declaration) (ss : List Symbol) : Except (List Symbol) Declaration :=
  match skipSpace ss with
  | [] => .ok d
  | rest => .error rest

/-- the setting `standalone`, if there is a setting, and the end -/
def readStandalone (encoding? : Option (List Char × List Symbol)) (setting? : Option Setting) (ss : List Symbol) :
    Except (List Symbol) Declaration :=
  match setting? with
  | none => .ok ⟨encoding?, false⟩
  | some s =>
    if s.name != "standalone".toList then .error s.nameHere
    else if s.value == "yes".toList then readEnd ⟨encoding?, true⟩ ss
    else if s.value == "no".toList then readEnd ⟨encoding?, false⟩ ss
    else .error s.valueHere

/-- the settings after the version -/
def readOptional (setting? : Option Setting) (ss : List Symbol) : Except (List Symbol) Declaration :=
  match setting? with
  | none => .ok ⟨none, false⟩
  | some s =>
    if s.name == "encoding".toList then
      match s.value with
      | [] => .error s.valueHere
      | c :: _ =>
        if !c.isAlpha then .error s.valueHere
        else
          match readSetting ss with
          | .error here => .error here
          | .ok (next?, rest) => readStandalone (some (s.value, s.valueHere)) next? rest
    else readStandalone none (some s) ss

/-- the declaration between `<?xml` and `?>` -/
def read (ss : List Symbol) : Except (List Symbol) Declaration :=
  match readSetting ss with
  | .error here => .error here
  | .ok (none, rest) => .error rest
  | .ok (some version, rest) =>
    if version.name != "version".toList then .error version.nameHere
    else
      match readSetting rest with
      | .error here => .error here
      | .ok (next?, rest) => readOptional next? rest

end Declaration

end Harvest.Xml
