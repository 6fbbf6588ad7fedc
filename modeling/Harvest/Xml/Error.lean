/-
Why a text is not an acceptable XML document: a broken rule with its place, an entity that was not declared, an entity
declaration, which is never accepted, or an encoding that cannot be read.
-/
import Harvest.Text.Quoted

namespace Harvest.Xml

open Harvest.Text

/-- the rule that a document breaks -/
inductive Rule where
  | elementExpected
  | token
  | tokenEnd
  | wholeCharacter
  | matchingTag
  | distinctAttributes
  | oneRoot
  | parameterReference
  | knownEntity
  | characterNumber
  | cdataEnd
  | knownEncoding
  | matchingEncoding
  | declarationPlace
  | declarationForm
  | grammar
  | publicId
  | boundPrefix
  | keptPrefix
  | xmlPrefix
  | xmlnsPrefix
  | reservedNamespace
  deriving DecidableEq, Repr

/-- the report of a broken rule -/
def Rule.message : Rule → String
  | .elementExpected => "no element found"
  | .token => "not well-formed (invalid token)"
  | .tokenEnd => "unclosed token"
  | .wholeCharacter => "partial character"
  | .matchingTag => "mismatched tag"
  | .distinctAttributes => "duplicate attribute"
  | .oneRoot => "junk after document element"
  | .parameterReference => "illegal parameter entity reference"
  | .knownEntity => "undefined entity"
  | .characterNumber => "reference to invalid character number"
  | .cdataEnd => "unclosed CDATA section"
  | .knownEncoding => "unknown encoding"
  | .matchingEncoding => "encoding specified in XML declaration is incorrect"
  | .declarationPlace => "XML or text declaration not at start of entity"
  | .declarationForm => "XML declaration not well-formed"
  | .grammar => "syntax error"
  | .publicId => "illegal character(s) in public id"
  | .boundPrefix => "unbound prefix"
  | .keptPrefix => "must not undeclare prefix"
  | .xmlPrefix => "reserved prefix (xml) must not be undeclared or bound to another namespace name"
  | .xmlnsPrefix => "reserved prefix (xmlns) must not be declared or undeclared"
  | .reservedNamespace => "prefix must not be bound to one of the reserved namespace names"

/-- why a document cannot be read in the encoding that it names -/
inductive EncodingFault where
  | unknown
  /-- the name stands for a way to recode bytes, not for one to write text -/
  | noText
  /-- a character can take several bytes -/
  | severalBytes
  /-- bytes that are no text cannot be left out -/
  | strict
  /-- the name stands for an encoding that decodes nothing -/
  | undefined
  /-- bytes above ASCII cannot be left out -/
  | asciiOnly
  deriving DecidableEq, Repr

/-- the report of a fault of the encoding with a name -/
def EncodingFault.message (name : String) : EncodingFault → String
  | unknown => "unknown encoding: " ++ name
  | noText =>
    "'" ++ String.ofList (name.toList.take 400)
      ++ "' is not a text encoding; use codecs.decode() to handle arbitrary codecs"
  | severalBytes => "multi-byte encodings are not supported"
  | strict => "decoding with '" ++ name ++ "' codec failed (UnicodeError: Unsupported error handling replace)"
  | undefined => "decoding with '" ++ name ++ "' codec failed (UnicodeError: undefined encoding)"
  | asciiOnly => "'ascii' codec can't decode byte 0x80 in position 82: ordinal not in range(128)"

/-- why a document is refused; lines count from 1, columns from 0 -/
inductive Error where
  | broken (rule : Rule) (line column : Nat)
  | undeclaredEntity (name : String) (line column : Nat)
  | entityDeclaration (name : String) (systemId publicId : Option String)
  | encoding (name : String) (fault : EncodingFault)
  deriving DecidableEq, Repr

/-- an identifier in quotes, or the word for its absence -/
def identifierText : Option String → String
  | none => "None"
  | some s => quoted s

def placeText (line column : Nat) : String :=
  ": line " ++ Nat.repr line ++ ", column " ++ Nat.repr column

def Error.message : Error → String
  | .broken rule line column => rule.message ++ placeText line column
  | .undeclaredEntity name line column => "undefined entity &" ++ name ++ ";" ++ placeText line column
  | .entityDeclaration name systemId publicId =>
    "EntitiesForbidden(name='" ++ name ++ "', system_id=" ++ identifierText systemId ++ ", public_id="
      ++ identifierText publicId ++ ")"
  | .encoding name fault => fault.message name

end Harvest.Xml
