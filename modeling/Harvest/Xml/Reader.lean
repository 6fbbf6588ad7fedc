/-
Reading an XML document: its encoding, the declarations before the root element, the root element, and nothing but
comments and instructions after it. The text of a document that comes as text is read as UTF-8, whatever the document says
about its encoding.
-/
import Harvest.Text.Lines
import Harvest.Xml.Content
import Harvest.Xml.Declaration
import Harvest.Xml.Encoding

namespace Harvest.Xml

open Harvest.Text

/-- the line of the symbol after these, and how many symbols stand before it in its line -/
def placeAfter (before : List Symbol) : Nat × Nat :=
  let unified := unifyLineEnds (charsOf before)
  (lineNumber unified, columnAfter unified)

/-- the report of a halt in a document whose symbols are `all` -/
def Halt.error (all : List Symbol) : Halt → Error
  | broken rule here =>
    let place := placeAfter (all.take (all.length - here.length))
    .broken rule place.1 place.2
  | undeclared name here =>
    let place := placeAfter (all.take (all.length - here.length))
    .undeclaredEntity (String.ofList name) place.1 place.2
  | declaration name systemId publicId =>
    .entityDeclaration (String.ofList name) (systemId.map String.ofList) (publicId.map String.ofList)
  | encoding name fault => .encoding (String.ofList name) fault

/-- the start of the root element, and what was declared before it -/
def readProlog (stop : Halt) (d : Doctype) : Bool → Nat → List Token → Except Halt (Doctype × List Symbol)
  | _, 0, _ => .error stop
  | _, _ + 1, [] => .error stop
  | declared, fuel + 1, t :: rest =>
    match t.kind with
    | .comment => readProlog stop d declared fuel rest
    | .instruction => readProlog stop d declared fuel rest
    | .element => .ok (d, t.here)
    | .declaration =>
      if declared || t.text != "<!DOCTYPE".toList then .error (refuse t)
      else
        match takeDoctype stop d.standalone rest with
        | .error e => .error e
        | .ok (d, rest) => readProlog stop d true fuel rest
    | _ => .error (refuse t)

/-- what follows the root element holds only comments and instructions -/
def readEpilog (halt? : Option Halt) : List Token → Except Halt Unit
  | [] =>
    match halt? with
    | none => .ok ()
    | some e => .error e
  | t :: rest =>
    match t.kind with
    | .comment => readEpilog halt? rest
    | .instruction => readEpilog halt? rest
    | _ => .error (.broken .oneRoot t.here)

/-- the document after its XML declaration -/
def readBody (standalone : Bool) (text : Symbols) : Except Halt Element :=
  let prolog := tokensOf text.odd text.list
  match readProlog prolog.halt ⟨standalone, false, true, []⟩ false (prolog.list.length + 1) prolog.list with
  | .error e => .error e
  | .ok (d, here) =>
    match readRoot text.odd d here with
    | .error e => .error e
    | .ok (root, rest) =>
      let epilog := tokensOf text.odd rest
      (readEpilog epilog.halt? epilog.list).map fun _ => root

/-- the XML declaration at the front of a text, without its brackets, and what follows it with the closing one -/
def cutDeclaration? (ss : List Symbol) : Option (List Symbol × List Symbol) :=
  match ss with
  | ⟨'<', _⟩ :: ⟨'?', _⟩ :: rest =>
    match scanInstruction ⟨ss, .tokenEnd⟩ rest with
    | .ok (true, after) =>
      let size := rest.length - "xml".length - after.length - "?>".length
      some ((rest.drop "xml".length).take size, rest.drop ("xml".length + size))
    | _ => none
  | _ => none

/-- the encoding after an XML declaration; `closing` follows the declaration -/
def encodingAfter (asText : Bool) (current : Encoding) (d : Declaration) (closing : List Symbol) : Except Halt Encoding :=
  match d.encoding? with
  | none => .ok current
  | some (name, nameHere) =>
    if asText then .ok current
    else
      match Encoding.choose current name with
      | .use encoding => .ok encoding
      | .conflict => .error (.broken .matchingEncoding (nameHere ++ closing))
      | .foreign => .error (.broken .knownEncoding (nameHere ++ closing))
      | .faulty fault => .error (.encoding name fault)

/-- read the rest of a document in an encoding, after a declaration and a mark that take `size` bytes -/
def readRest (standalone : Bool) (encoding : Encoding) (size : Nat) (bytes : List UInt8) : Except Error Element :=
  (readBody standalone (encoding.symbols (bytes.drop size))).mapError (Halt.error (encoding.symbols bytes).list)

/-- read the bytes of a document; text is given as its UTF-8 bytes -/
def readBytes (asText : Bool) (bytes : List UInt8) : Except Error Element :=
  match Encoding.detect bytes with
  | none => .error (.broken .tokenEnd 1 0)
  | some (encoding, markSize) =>
    let all := (encoding.symbols bytes).list
    let text := (encoding.symbols (bytes.drop markSize)).list
    match cutDeclaration? text with
    | none => readRest false encoding markSize bytes
    | some (inside, closing) =>
      match Declaration.read inside with
      | .error here => .error ((Halt.broken .declarationForm (here ++ closing)).error all)
      | .ok d =>
        match encodingAfter asText encoding d closing with
        | .error e => .error (e.error all)
        | .ok next =>
          let units := text.length - (closing.length - "?>".length)
          readRest d.standalone next (markSize + encoding.width * units) bytes

/-- read a document that comes as text -/
def readText (s : String) : Except Error Element :=
  readBytes true (Utf8.encode s)

/-- read a document that comes as bytes -/
def read (bytes : List UInt8) : Except Error Element :=
  readBytes false bytes

end Harvest.Xml
