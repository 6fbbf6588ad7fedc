/-
The root element: start tags, end tags and what stands between them. Elements whose end has not been reached are kept on a
stack, each with the pieces of its content so far.
-/
import Harvest.Xml.Element
import Harvest.Xml.StartTag

namespace Harvest.Xml

/-- a piece of an element's content -/
inductive Piece where
  | text (cs : List Char)
  | element (e : Element)

namespace Piece

/-- the text in front of the first element -/
def leadingText : List Piece → List Char
  | text cs :: rest => cs ++ leadingText rest
  | _ => []

/-- the elements, each with the text after it as its tail -/
def elements : List Piece → List Element
  | [] => []
  | text _ :: rest => elements rest
  | element (.mk tag attributes inner children _) :: rest =>
    .mk tag attributes inner children (String.ofList (leadingText rest)) :: elements rest

end Piece

/-- an element whose end has not been reached, with its content in reverse order -/
structure Open where
  start : StartTag
  pieces : List Piece

namespace Open

def add (o : Open) (piece : Piece) : Open :=
  { o with pieces := piece :: o.pieces }

/-- the element, complete -/
def close (o : Open) : Element :=
  let pieces := o.pieces.reverse
  .mk o.start.tag o.start.attributes (String.ofList (Piece.leadingText pieces)) (Piece.elements pieces) ""

end Open

/-- the characters up to the next markup or reference; line ends become `\n` -/
def scanText : List Symbol → Scan (List Char)
  | [] => .ok ([], [])
  | ⟨']', _⟩ :: ⟨']', _⟩ :: ⟨'>', a⟩ :: rest => .error (.broken .token (⟨'>', a⟩ :: rest))
  | [⟨']', _⟩, ⟨']', _⟩] => .error (.broken .elementExpected [])
  | [⟨']', _⟩] => .error (.broken .elementExpected [])
  | [⟨'\r', a⟩] => .error (.broken .elementExpected [⟨'\r', a⟩])
  | ⟨'\r', _⟩ :: ⟨'\n', _⟩ :: rest => (scanText rest).map fun s => ('\n' :: s.1, s.2)
  | s :: rest =>
    if s.char == '<' || s.char == '&' then .ok ([], s :: rest)
    else if s.isMalformed then .error (.broken .token (s :: rest))
    else if s.isCutOff then .error (.broken .wholeCharacter (s :: rest))
    else (scanText rest).map fun found => ((if s.char == '\r' then '\n' else s.char) :: found.1, found.2)

/-- a reference in content, after its ampersand, which stands at `here` -/
def scanContentReference (d : Doctype) (here ss : List Symbol) : Scan (List Char) :=
  match scanReference ⟨here, .tokenEnd⟩ ss with
  | .error e => .error e
  | .ok (.numbered n, rest) =>
    match characterNumbered? n with
    | none => .error (.broken .characterNumber here)
    | some c => .ok ([c], rest)
  | .ok (.named name, rest) =>
    match predefined.lookup name with
    | some c => .ok ([c], rest)
    | none => .error (if d.requiresEntities then .broken .knownEntity here else .undeclared name here)

/-- what stands at the front of content that starts with `<` -/
inductive Markup where
  /-- text in a section -/
  | text (cs : List Char)
  /-- a comment or an instruction -/
  | skipped
  | startTag (tag : StartTag) (empty : Bool)
  | endTag (name : List Char) (nameHere : List Symbol)

/-- a start tag at `here`, after its `<` -/
def scanStartTag (d : Doctype) (scope : Scope) (here ss : List Symbol) : Scan Markup :=
  let w : Within := ⟨here, .tokenEnd⟩
  match scanQualifiedName w ss with
  | .error e => .error e
  | .ok (name, rest) =>
    if (rest.head?.map Symbol.isCutOff).getD false then .error (w.misfit rest)
    else
      match scanAttributes w (rest.length + 1) rest with
      | .error e => .error e
      | .ok ((raws, empty), rest) =>
        match StartTag.resolve d scope here name raws with
        | .error e => .error e
        | .ok tag => .ok (.startTag tag empty, rest)

/-- a comment or a section at `here`, after its `<!` -/
def scanSpecial (here ss : List Symbol) : Scan Markup :=
  let w : Within := ⟨here, .tokenEnd⟩
  match ss with
  | ⟨'-', _⟩ :: rest => (scanCommentOpening w rest).map fun rest => (.skipped, rest)
  | ⟨'[', _⟩ :: rest =>
    match scanSectionOpening w rest with
    | .error e => .error e
    | .ok rest => (scanSection rest).map fun s => (.text s.1, s.2)
  | rest => .error (w.misplaced rest)

/-- the markup at `here`, after its `<` -/
def scanMarkup (d : Doctype) (scope : Scope) (here ss : List Symbol) : Scan Markup :=
  let w : Within := ⟨here, .tokenEnd⟩
  match ss with
  | ⟨'/', _⟩ :: rest => (scanEndTag w rest).map fun s => (.endTag s.1 rest, s.2)
  | ⟨'!', _⟩ :: rest => scanSpecial here rest
  | ⟨'?', _⟩ :: rest =>
    match scanInstruction w rest with
    | .error e => .error e
    | .ok (true, _) => .error (.broken .declarationPlace here)
    | .ok (false, rest) => .ok (.skipped, rest)
  | ss => scanStartTag d scope here ss

/-- what the end of an element leads to: more content, or the end of the root element -/
def closeTop (top : Open) : List Open → Element ⊕ Open × List Open
  | [] => .inl top.close
  | parent :: outer => .inr (parent.add (.element top.close), outer)

/-- the rest of the root element; `odd` if half a unit follows the symbols -/
def readContent (odd : Bool) (d : Doctype) : Nat → Open → List Open → List Symbol → Scan Element
  | 0, _, _, ss => .error (.broken .elementExpected ss)
  | _ + 1, _, _, [] => .error (.broken (if odd then .tokenEnd else .elementExpected) [])
  | fuel + 1, top, outer, s :: rest =>
    let here := s :: rest
    if s.char == '<' then
      match scanMarkup d top.start.scope here rest with
      | .error e => .error e
      | .ok (.text cs, rest) => readContent odd d fuel (top.add (.text cs)) outer rest
      | .ok (.skipped, rest) => readContent odd d fuel top outer rest
      | .ok (.startTag tag false, rest) => readContent odd d fuel ⟨tag, []⟩ (top :: outer) rest
      | .ok (.startTag tag true, rest) =>
        readContent odd d fuel (top.add (.element (Open.close ⟨tag, []⟩))) outer rest
      | .ok (.endTag name nameHere, rest) =>
        if name != top.start.name then .error (.broken .matchingTag nameHere)
        else
          match closeTop top outer with
          | .inl e => .ok (e, rest)
          | .inr (parent, outer) => readContent odd d fuel parent outer rest
    else if s.char == '&' then
      match scanContentReference d here rest with
      | .error e => .error e
      | .ok (cs, rest) => readContent odd d fuel (top.add (.text cs)) outer rest
    else
      match scanText here with
      | .error e => .error e
      | .ok (cs, rest) => readContent odd d fuel (top.add (.text cs)) outer rest

/-- the root element at `here`, and what follows it -/
def readRoot (odd : Bool) (d : Doctype) (here : List Symbol) : Scan Element :=
  match scanStartTag d Scope.initial here here.tail with
  | .error e => .error e
  | .ok (.startTag tag true, rest) => .ok (Open.close ⟨tag, []⟩, rest)
  | .ok (.startTag tag false, rest) => readContent odd d (rest.length + 1) ⟨tag, []⟩ [] rest
  | .ok (_, _) => .error (.broken .tokenEnd here)

end Harvest.Xml
