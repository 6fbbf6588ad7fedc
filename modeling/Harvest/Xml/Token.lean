/-
Tokens of what comes before and after the root element: the document type declaration, comments, instructions and white
space.
-/
import Harvest.Xml.Scan

namespace Harvest.Xml

inductive TokenKind where
  | space
  | name
  | qualifiedName
  | nameToken
  /-- a name with `?`, `*` or `+` -/
  | countedName
  | declaration
  | xmlDeclaration
  | instruction
  | comment
  /-- the start of the root element -/
  | element
  | literal
  | percent
  | parameterReference
  | comma
  | bar
  | openBracket
  | closeBracket
  | openSection
  | closeSection
  | openGroup
  | closeGroup
  /-- a closing parenthesis with `?`, `*` or `+` -/
  | countedGroup (count : Char)
  | close
  | hashName
  deriving DecidableEq, Repr

/-- a token of this kind might go on, or is told apart by what follows -/
def TokenKind.isOpenEnded : TokenKind → Bool
  | name => true
  | qualifiedName => true
  | nameToken => true
  | literal => true
  | closeBracket => true
  | closeGroup => true
  | hashName => true
  | _ => false

/-- a token with its symbols and its place -/
structure Token where
  kind : TokenKind
  symbols : List Symbol
  here : List Symbol
  deriving Repr

/-- the characters of a token -/
def Token.text (t : Token) : List Char :=
  charsOf t.symbols

/-- what a token is, and the symbols after it -/
abbrev ScanKind := Scan TokenKind

/-- a character that can stand after a name without space -/
def endsName (c : Char) : Bool :=
  isSpace c || c == '>' || c == ')' || c == ',' || c == '|' || c == '[' || c == '%'

/-- a name, a name token or a counted name, after its first character -/
def scanNameToken (w : Within) : Nat → TokenKind → List Symbol → ScanKind
  | 0, kind, ss => .ok (kind, ss)
  | fuel + 1, kind, ss =>
    match ss.dropWhile Symbol.inName with
    | [] => .ok (kind, [])
    | s :: rest =>
      if endsName s.char then .ok (kind, s :: rest)
      else if s.char == ':' then
        match kind, rest with
        | .name, [] => .error w.atEnd
        | .name, t :: more =>
          if t.inName then scanNameToken w fuel .qualifiedName rest
          else if t.form.wide then .error (w.misfit (t :: more))
          else scanNameToken w fuel .nameToken rest
        | _, rest => scanNameToken w fuel .nameToken rest
      else if (s.char == '+' || s.char == '*' || s.char == '?') && kind != .nameToken then .ok (.countedName, rest)
      else .error (w.misfit (s :: rest))

/-- a literal, after its opening quote -/
def scanLiteral (w : Within) (quote : Char) : List Symbol → ScanKind
  | [] => .error w.atEnd
  | s :: rest =>
    if s.isMalformed || s.isCutOff then .error (w.misfit (s :: rest))
    else if s.char == quote then
      match rest with
      | [] => .ok (.literal, [])
      | t :: _ =>
        if t.isSpace || t.char == '>' || t.char == '%' || t.char == '[' then .ok (.literal, rest)
        else .error (w.misplaced rest)
    else scanLiteral w quote rest

/-- a percent sign alone or a reference to a parameter entity, after the sign -/
def scanPercent (w : Within) (ss : List Symbol) : ScanKind :=
  match ss with
  | [] => .error w.atEnd
  | s :: _ =>
    if s.isSpace || s.char == '%' then .ok (.percent, ss)
    else (scanNameEnd w ss).map fun found => (.parameterReference, found.2)

/-- a keyword with `#`, after the sign -/
def scanHashName (w : Within) (ss : List Symbol) : ScanKind :=
  match scanName w ss with
  | .error e => .error e
  | .ok (_, []) => .ok (.hashName, [])
  | .ok (_, s :: rest) =>
    if s.isSpace || s.char == ')' || s.char == '>' || s.char == '%' || s.char == '|' then .ok (.hashName, s :: rest)
    else .error (w.misfit (s :: rest))

/-- a declaration's keyword, a comment or a section, after `<!` -/
def scanDeclaration (w : Within) (ss : List Symbol) : ScanKind :=
  match ss with
  | ⟨'-', _⟩ :: rest => (scanCommentOpening w rest).map fun rest => (.comment, rest)
  | ⟨'[', _⟩ :: rest => .ok (.openSection, rest)
  | [] => .error w.atEnd
  | s :: rest =>
    if !s.inKeyword then .error (w.misplaced ss)
    else
      match rest.dropWhile Symbol.inKeyword with
      | [] => .error w.atEnd
      | [⟨'%', _⟩] => .error w.atEnd
      | ⟨'%', a⟩ :: t :: after =>
        if t.isSpace || t.char == '%' then .error (w.misplaced (⟨'%', a⟩ :: t :: after))
        else .ok (.declaration, ⟨'%', a⟩ :: t :: after)
      | t :: after => if t.isSpace then .ok (.declaration, t :: after) else .error (w.misplaced (t :: after))

/-- markup after its `<`, which stands at `here` -/
def scanOpening (w : Within) (here ss : List Symbol) : ScanKind :=
  match ss with
  | [] => .error w.atEnd
  | ⟨'!', _⟩ :: rest => scanDeclaration w rest
  | ⟨'?', _⟩ :: rest => (scanInstruction w rest).map fun s => (if s.1 then .xmlDeclaration else .instruction, s.2)
  | s :: rest => if s.opensTag then .ok (.element, here) else .error (w.misplaced (s :: rest))

/-- a closing parenthesis, after it -/
def scanGroupEnd (w : Within) (ss : List Symbol) : ScanKind :=
  match ss with
  | [] => .ok (.closeGroup, [])
  | s :: rest =>
    if s.char == '*' || s.char == '?' || s.char == '+' then .ok (.countedGroup s.char, rest)
    else if s.isSpace || s.char == '>' || s.char == ',' || s.char == '|' || s.char == ')' then .ok (.closeGroup, ss)
    else .error (w.misplaced ss)

/-- the kind of the token at the front of a text that is not empty -/
def scanKind (w : Within) (ss : List Symbol) : ScanKind :=
  match ss with
  | [] => .error w.atEnd
  | ⟨'<', _⟩ :: rest => scanOpening w ss rest
  | ⟨'"', _⟩ :: rest => scanLiteral w '"' rest
  | ⟨'\'', _⟩ :: rest => scanLiteral w '\'' rest
  | ⟨'%', _⟩ :: rest => scanPercent w rest
  | ⟨',', _⟩ :: rest => .ok (.comma, rest)
  | ⟨'|', _⟩ :: rest => .ok (.bar, rest)
  | ⟨'[', _⟩ :: rest => .ok (.openBracket, rest)
  | [⟨']', _⟩, ⟨']', _⟩] => .error w.atEnd
  | ⟨']', _⟩ :: ⟨']', _⟩ :: ⟨'>', _⟩ :: rest => .ok (.closeSection, rest)
  | ⟨']', _⟩ :: rest => .ok (.closeBracket, rest)
  | ⟨'(', _⟩ :: rest => .ok (.openGroup, rest)
  | ⟨')', _⟩ :: rest => scanGroupEnd w rest
  | ⟨'>', _⟩ :: rest => .ok (.close, rest)
  | ⟨'#', _⟩ :: rest => scanHashName w rest
  | s :: rest =>
    if s.isSpace then .ok (.space, skipSpace rest)
    else if s.startsName then scanNameToken w (rest.length + 1) .name rest
    else if s.inName || s.char == ':' then scanNameToken w (rest.length + 1) .nameToken rest
    else .error (w.misfit ss)

/-- the token at the front of a text that is not empty -/
def scanToken (ss : List Symbol) : Scan Token :=
  match scanKind ⟨ss, .tokenEnd⟩ ss with
  | .error e => .error e
  | .ok (kind, rest) => .ok (⟨kind, ss.take (ss.length - rest.length), ss⟩, rest)

/-- what can be read of the tokens before or after the root element -/
structure Tokens where
  /-- all but white space, up to the start of the root element -/
  list : List Token
  /-- why there are no more, unless the text is over or the root element starts -/
  halt? : Option Halt

/-- the last token of a text, if it is open-ended; half a unit after it belongs to it, unless it ends with a quote -/
def Token.last (t : Token) (odd : Bool) : Token :=
  if odd && t.kind != .literal then { t with symbols := t.symbols ++ [.half] } else t

def tokensWithin (odd : Bool) : Nat → List Symbol → Tokens
  | 0, _ => ⟨[], none⟩
  | _ + 1, [] => ⟨[], if odd then some (.broken .tokenEnd []) else none⟩
  | fuel + 1, ss =>
    match scanToken ss with
    | .error e => ⟨[], some e⟩
    | .ok (token, rest) =>
      if token.kind == .element then ⟨[token], none⟩
      else if rest.isEmpty && token.kind.isOpenEnded then ⟨[token.last odd], none⟩
      else
        let more := tokensWithin odd fuel rest
        if token.kind == .space then more else ⟨token :: more.list, more.halt?⟩

/-- the tokens at the front of a text; `odd` if half a unit follows its symbols -/
def tokensOf (odd : Bool) (ss : List Symbol) : Tokens :=
  tokensWithin odd (ss.length + 1) ss

/-- the way to halt when a token is needed and there is none -/
def Tokens.halt (ts : Tokens) : Halt :=
  ts.halt?.getD (.broken .elementExpected [])

end Harvest.Xml
