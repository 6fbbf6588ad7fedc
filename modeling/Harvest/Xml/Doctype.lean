/-
Document type declarations. They are checked for their form; what is kept of one is the attributes it declares. Entity
declarations are refused. `incomplete` says that declarations may stand where they cannot be read, so that an entity may be
declared after all; once a parameter entity has been left out, declarations are taken in only if the document stands alone.
-/
import Harvest.Xml.AttributeValue
import Harvest.Xml.Token

namespace Harvest.Xml

/-- a declared attribute of an element -/
structure AttributeRule where
  element : List Char
  name : List Char
  plainText : Bool
  value? : Option (List Char)
  deriving Repr

structure Doctype where
  /-- the document claims to need no declarations from elsewhere -/
  standalone : Bool
  incomplete : Bool := false
  takesIn : Bool := true
  rules : List AttributeRule := []
  deriving Repr

namespace Doctype

/-- an entity without declaration breaks a rule -/
def requiresEntities (d : Doctype) : Bool :=
  d.standalone || !d.incomplete

/-- the first rule for an attribute of an element -/
def rule? (d : Doctype) (element name : List Char) : Option AttributeRule :=
  d.rules.find? fun r => r.element == element && r.name == name

/-- how the value of an attribute is read -/
def valueRules (d : Doctype) (element name : List Char) : ValueRules :=
  ⟨((d.rule? element name).map (·.plainText)).getD true, !d.requiresEntities⟩

/-- add a rule; a default value for an attribute that has a rule is left out -/
def addRule (d : Doctype) (r : AttributeRule) : Doctype :=
  if !d.takesIn || (r.value?.isSome && (d.rule? r.element r.name).isSome) then d
  else { d with rules := d.rules ++ [r] }

end Doctype

/-! ## Single tokens -/

/-- a token that cannot stand where it does -/
def refuse (t : Token) : Halt :=
  match t.kind with
  | .xmlDeclaration => .broken .declarationPlace t.here
  | .parameterReference => .broken .parameterReference t.here
  | _ => .broken .grammar t.here

/-- what was read from the front of tokens, and the tokens after it -/
abbrev Take (α : Type) := Except Halt (α × List Token)

/-- a token with a property -/
def takeToken (stop : Halt) (fits : Token → Bool) : List Token → Take Token
  | [] => .error stop
  | t :: rest => if fits t then .ok (t, rest) else .error (refuse t)

def takeKind (stop : Halt) (kind : TokenKind) (ts : List Token) : Take Token :=
  takeToken stop (fun t => t.kind == kind) ts

def isAnyName (t : Token) : Bool :=
  t.kind == .name || t.kind == .qualifiedName

/-- a name token that is the given word -/
def Token.isWord (t : Token) (word : String) : Bool :=
  t.kind == .name && t.text == word.toList

/-- what stands between the quotes of a literal -/
def Token.inner (t : Token) : List Symbol :=
  t.symbols.tail.dropLast

/-- what follows the inside of a literal -/
def Token.afterInner (t : Token) : List Symbol :=
  t.here.drop (t.symbols.length - 1)

/-! ## External identifiers -/

/-- a character of a public identifier -/
def isPublicIdChar (c : Char) : Bool :=
  c.isAlphanum || " \r\n-'()+,./:=?;!*#@$_%".toList.contains c

/-- the place of the first character of a literal that cannot stand in a public identifier -/
def publicIdFault? (t : Token) : Option Halt :=
  match t.inner.dropWhile fun s => isPublicIdChar s.char with
  | [] => none
  | bad => some (.broken .publicId (bad ++ t.afterInner))

/-- white space between words becomes one space, and none at the ends -/
def plainPublicId (cs : List Char) : List Char :=
  let words := cs.foldr
    (fun c (ws : List (List Char)) =>
      if isSpace c then [] :: ws
      else match ws with
        | [] => [[c]]
        | w :: ws => (c :: w) :: ws) [[]]
  [' '].intercalate (words.filter (!·.isEmpty))

/-- a literal that is a public identifier -/
def takePublicId (stop : Halt) (ts : List Token) : Take (List Char) :=
  match takeKind stop .literal ts with
  | .error e => .error e
  | .ok (t, rest) =>
    match publicIdFault? t with
    | some e => .error e
    | none => .ok (plainPublicId (charsOf t.inner), rest)

/-- a system identifier, after the public one if the word before it asks for one -/
def takeExternalId (stop : Halt) (isPublic : Bool) (ts : List Token) : Take (Option (List Char) × List Char) :=
  match (if isPublic then (takePublicId stop ts).map fun s => (some s.1, s.2) else .ok (none, ts)) with
  | .error e => .error e
  | .ok (publicId, ts) =>
    match takeKind stop .literal ts with
    | .error e => .error e
    | .ok (t, rest) => .ok ((publicId, charsOf t.inner), rest)

/-! ## Entities and notations -/

/-- what is wrong with the replacement text of an entity -/
def entityValueFault? : Nat → List Symbol → Option ValueFault
  | 0, _ => none
  | _ + 1, [] => none
  | fuel + 1, s :: rest =>
    let here := s :: rest
    if s.char == '&' then
      match scanReference ⟨here, .token⟩ rest with
      | .error e => some (.ofHalt e)
      | .ok (.numbered n, after) =>
        if (characterNumbered? n).isNone then some (.broken .characterNumber here) else entityValueFault? fuel after
      | .ok (.named _, after) => entityValueFault? fuel after
    else if s.char == '%' then
      match scanNameEnd ⟨here, .token⟩ rest with
      | .error e => some (.ofHalt e)
      | .ok _ => some (.broken .parameterReference here)
    else entityValueFault? fuel rest

/-- an entity declaration with a replacement text: refused, unless it declares nothing new -/
def entityValue (stop : Halt) (d : Doctype) (name : List Char) (isNew : Bool) (value : Token) (ts : List Token) :
    Except Halt (List Token) :=
  if d.takesIn && isNew then .error (.declaration name none none)
  else
    match (if d.takesIn then entityValueFault? (value.symbols.length + 1) value.inner else none) with
    | some fault => .error (fault.halt value.afterInner value.here)
    | none => (takeKind stop .close ts).map Prod.snd

/-- an entity declaration with an external identifier, after the identifier -/
def entityEnd (stop : Halt) (isGeneral : Bool) (refused : Option Halt) (ts : List Token) : Except Halt (List Token) :=
  let finish (ts : List Token) := match refused with
    | some e => .error e
    | none => .ok ts
  match ts with
  | [] => .error stop
  | t :: rest =>
    if t.kind == .close then finish rest
    else if isGeneral && t.isWord "NDATA" then
      match takeKind stop .name rest with
      | .error e => .error e
      | .ok (_, rest) =>
        match finish rest with
        | .error e => .error e
        | .ok rest => (takeKind stop .close rest).map Prod.snd
    else .error (refuse t)

/-- the sign that marks the declaration of a parameter entity is dropped; true if there is none -/
def takeGeneral : List Token → Bool × List Token
  | [] => (true, [])
  | t :: rest => if t.kind == .percent then (false, rest) else (true, t :: rest)

/-- an entity declaration, after its keyword -/
def takeEntity (stop : Halt) (d : Doctype) (ts : List Token) : Except Halt (List Token) :=
  let isGeneral := (takeGeneral ts).1
  match takeKind stop .name (takeGeneral ts).2 with
  | .error e => .error e
  | .ok (_, []) => .error stop
  | .ok (name, t :: rest) =>
    let isNew := !isGeneral || (predefined.lookup name.text).isNone
    if t.kind == .literal then entityValue stop d name.text isNew t rest
    else if t.isWord "SYSTEM" || t.isWord "PUBLIC" then
      match takeExternalId stop (t.isWord "PUBLIC") rest with
      | .error e => .error e
      | .ok ((publicId, systemId), rest) =>
        entityEnd stop isGeneral
          (if d.takesIn && isNew then some (.declaration name.text (some systemId) publicId) else none) rest
    else .error (refuse t)

/-- a notation declaration, after its keyword -/
def takeNotation (stop : Halt) (ts : List Token) : Except Halt (List Token) :=
  match takeKind stop .name ts with
  | .error e => .error e
  | .ok (_, []) => .error stop
  | .ok (_, t :: rest) =>
    if t.isWord "SYSTEM" then
      match takeKind stop .literal rest with
      | .error e => .error e
      | .ok (_, rest) => (takeKind stop .close rest).map Prod.snd
    else if t.isWord "PUBLIC" then
      match takePublicId stop rest with
      | .error e => .error e
      | .ok (_, []) => .error stop
      | .ok (_, t :: rest) =>
        if t.kind == .literal then (takeKind stop .close rest).map Prod.snd
        else if t.kind == .close then .ok rest
        else .error (refuse t)
    else .error (refuse t)

/-! ## Elements -/

/-- the names of mixed content, after `#PCDATA` -/
def takeMixed (stop : Halt) (first : Bool) : List Token → Except Halt (List Token)
  | [] => .error stop
  | t :: rest =>
    if t.kind == .countedGroup '*' || (first && t.kind == .closeGroup) then .ok rest
    else if t.kind == .bar then
      match rest with
      | [] => .error stop
      | t :: rest => if isAnyName t then takeMixed stop false rest else .error (refuse t)
    else .error (refuse t)

/-- what can come next in a content model -/
inductive ModelState where
  | item
  | afterItem
  deriving DecidableEq

/-- a content model inside its groups, each with the connector it uses so far -/
def takeModel (stop : Halt) : ModelState → List (Option TokenKind) → List Token → Except Halt (List Token)
  | _, [], ts => .ok ts
  | _, _ :: _, [] => .error stop
  | .item, groups, t :: rest =>
    if t.kind == .openGroup then takeModel stop .item (none :: groups) rest
    else if isAnyName t || t.kind == .countedName then takeModel stop .afterItem groups rest
    else .error (refuse t)
  | .afterItem, connector :: outer, t :: rest =>
    match t.kind with
    | .closeGroup => takeModel stop .afterItem outer rest
    | .countedGroup _ => takeModel stop .afterItem outer rest
    | .comma => if connector == some .bar then .error (refuse t) else takeModel stop .item (some .comma :: outer) rest
    | .bar => if connector == some .comma then .error (refuse t) else takeModel stop .item (some .bar :: outer) rest
    | _ => .error (refuse t)

/-- the content of an element declaration -/
def takeContent (stop : Halt) : List Token → Except Halt (List Token)
  | [] => .error stop
  | t :: rest =>
    if t.isWord "EMPTY" || t.isWord "ANY" then .ok rest
    else if t.kind == .openGroup then
      match rest with
      | [] => .error stop
      | u :: more =>
        if u.kind == .hashName && u.text == "#PCDATA".toList then takeMixed stop true more
        else takeModel stop .item [none] rest
    else .error (refuse t)

/-- an element declaration, after its keyword -/
def takeElement (stop : Halt) (ts : List Token) : Except Halt (List Token) :=
  match takeToken stop isAnyName ts with
  | .error e => .error e
  | .ok (_, rest) =>
    match takeContent stop rest with
    | .error e => .error e
    | .ok rest => (takeKind stop .close rest).map Prod.snd

/-! ## Attributes -/

/-- the choices of an attribute that is one of several words -/
def takeChoices (stop : Halt) (fits : Token → Bool) : List Token → Except Halt (List Token)
  | t :: u :: rest =>
    if !fits t then .error (refuse t)
    else if u.kind == .closeGroup then .ok rest
    else if u.kind == .bar then takeChoices stop fits rest
    else .error (refuse u)
  | [t] => .error (if fits t then stop else refuse t)
  | [] => .error stop

/-- types of attributes that are lists of words -/
def wordTypes : List String := ["ID", "IDREF", "IDREFS", "ENTITY", "ENTITIES", "NMTOKEN", "NMTOKENS"]

/-- the type of an attribute; true if it is plain text -/
def takeType (stop : Halt) : List Token → Take Bool
  | [] => .error stop
  | t :: rest =>
    if t.isWord "CDATA" then .ok (true, rest)
    else if wordTypes.any t.isWord then .ok (false, rest)
    else if t.isWord "NOTATION" then
      match takeKind stop .openGroup rest with
      | .error e => .error e
      | .ok (_, rest) => (takeChoices stop (fun t => t.kind == .name) rest).map fun rest => (false, rest)
    else if t.kind == .openGroup then
      (takeChoices stop (fun t => isAnyName t || t.kind == .nameToken) rest).map fun rest => (false, rest)
    else .error (refuse t)

/-- the literal of a default value, if there is one -/
def takeDefault (stop : Halt) : List Token → Take (Option Token)
  | [] => .error stop
  | t :: rest =>
    let isHash (word : String) := t.kind == .hashName && t.text == word.toList
    if t.kind == .literal then .ok (some t, rest)
    else if isHash "#IMPLIED" || isHash "#REQUIRED" then .ok (none, rest)
    else if isHash "#FIXED" then (takeKind stop .literal rest).map fun s => (some s.1, s.2)
    else .error (refuse t)

/-- the rule that a declared attribute with a default makes -/
def Doctype.declare (d : Doctype) (element name : List Char) (plainText : Bool) (default? : Option Token) :
    Except Halt Doctype :=
  match default? with
  | none => .ok (d.addRule ⟨element, name, plainText, none⟩)
  | some t =>
    if !d.takesIn then .ok d
    else
      match attributeValue ⟨plainText, !d.requiresEntities⟩ t.inner with
      | .error fault => .error (fault.halt t.afterInner t.here)
      | .ok value => .ok (d.addRule ⟨element, name, plainText, some value⟩)

/-- the attributes of an attribute list declaration -/
def takeAttributes (stop : Halt) (element : List Char) : Nat → Doctype → List Token → Take Doctype
  | 0, _, _ => .error stop
  | _ + 1, _, [] => .error stop
  | fuel + 1, d, t :: rest =>
    if t.kind == .close then .ok (d, rest)
    else if isAnyName t then
      match takeType stop rest with
      | .error e => .error e
      | .ok (plainText, rest) =>
        match takeDefault stop rest with
        | .error e => .error e
        | .ok (default?, rest) =>
          match d.declare element t.text plainText default? with
          | .error e => .error e
          | .ok d => takeAttributes stop element fuel d rest
    else .error (refuse t)

/-- an attribute list declaration, after its keyword -/
def takeAttributeList (stop : Halt) (d : Doctype) (ts : List Token) : Take Doctype :=
  match takeToken stop isAnyName ts with
  | .error e => .error e
  | .ok (element, rest) => takeAttributes stop element.text (rest.length + 1) d rest

/-! ## The whole declaration -/

/-- one declaration, after the token that opens it -/
def takeDeclaration (stop : Halt) (d : Doctype) (opening : Token) (ts : List Token) : Take Doctype :=
  match String.ofList (opening.text.drop 2) with
  | "ENTITY" => (takeEntity stop d ts).map fun rest => (d, rest)
  | "ATTLIST" => takeAttributeList stop d ts
  | "ELEMENT" => (takeElement stop ts).map fun rest => (d, rest)
  | "NOTATION" => (takeNotation stop ts).map fun rest => (d, rest)
  | _ => .error (refuse opening)

/-- declarations up to the bracket that closes them -/
def takeSubset (stop : Halt) : Nat → Doctype → List Token → Take Doctype
  | 0, _, _ => .error stop
  | _ + 1, _, [] => .error stop
  | fuel + 1, d, t :: rest =>
    match t.kind with
    | .closeBracket => .ok (d, rest)
    | .comment => takeSubset stop fuel d rest
    | .instruction => takeSubset stop fuel d rest
    | .parameterReference => takeSubset stop fuel { d with incomplete := true, takesIn := d.standalone } rest
    | .declaration =>
      match takeDeclaration stop d t rest with
      | .error e => .error e
      | .ok (d, rest) => takeSubset stop fuel d rest
    | _ => .error (refuse t)

/-- the brackets, if there are any, and the end -/
def takeDoctypeEnd (stop : Halt) (d : Doctype) : List Token → Take Doctype
  | [] => .error stop
  | t :: rest =>
    if t.kind == .close then .ok (d, rest)
    else if t.kind == .openBracket then
      match takeSubset stop (rest.length + 1) d rest with
      | .error e => .error e
      | .ok (d, rest) => (takeKind stop .close rest).map fun s => (d, s.2)
    else .error (refuse t)

/-- a document type declaration, after its keyword -/
def takeDoctype (stop : Halt) (standalone : Bool) (ts : List Token) : Take Doctype :=
  match takeToken stop isAnyName ts with
  | .error e => .error e
  | .ok (_, []) => .error stop
  | .ok (_, t :: rest) =>
    if t.isWord "SYSTEM" || t.isWord "PUBLIC" then
      match takeExternalId stop (t.isWord "PUBLIC") rest with
      | .error e => .error e
      | .ok (_, rest) => takeDoctypeEnd stop ⟨standalone, true, true, []⟩ rest
    else takeDoctypeEnd stop ⟨standalone, false, true, []⟩ (t :: rest)

end Harvest.Xml
