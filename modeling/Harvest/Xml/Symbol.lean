/-
Symbols: what the bytes of a document are cut into before it is read. Most are characters; a symbol can also stand for
bytes that are no character, or for the first bytes of a character at the end of the document. An encoding gives every
symbol its role, since encodings differ in which letters they let into names; none lets in more than `inSomeName` says.
-/
import Harvest.Xml.Character

namespace Harvest.Xml

/-- what a symbol can do -/
inductive Role where
  /-- it starts a name -/
  | nameStart
  /-- it goes on in a name, but starts none -/
  | namePart
  | plain
  /-- it is no character, or one that no document may hold -/
  | malformed
  /-- the document ends inside it -/
  | cutOff
  deriving DecidableEq, Repr

/-- the symbol can stand in a name -/
def Role.inName : Role → Bool
  | nameStart => true
  | namePart => true
  | _ => false

/-- letters that only encodings with a table of the first 256 characters let into names -/
def isTableLetter (c : Char) : Bool :=
  c == 'ª' || c == 'µ' || c == 'º'

/-- a character that some encoding lets into names -/
def inSomeName (c : Char) : Bool :=
  isNameChar c || isTableLetter c

/-- how a symbol is written in its encoding -/
structure Form (c : Char) where
  role : Role
  /-- the code units that it takes -/
  units : Nat := 1
  /-- its first unit alone does not tell what it is -/
  wide : Bool := false
  inSomeName_of_role : role.inName = true → inSomeName c = true := by
    intro h
    cases h
  deriving DecidableEq, Repr

structure Symbol where
  char : Char
  form : Form char
  deriving DecidableEq, Repr

/-- the role of a character -/
def roleOf (c : Char) : Role :=
  if isForbidden c then .malformed
  else if isNameStart c then .nameStart
  else if isNameChar c then .namePart
  else .plain

theorem inSomeName_of_roleOf {c : Char} (h : (roleOf c).inName = true) : inSomeName c = true := by
  have hpart : isNameStart c = true → isNameChar c = true := fun hstart => by simp [isNameChar, hstart]
  unfold roleOf at h
  split at h
  · cases h
  · split at h
    · rename_i hstart
      simp [inSomeName, hpart hstart]
    · split at h
      · rename_i hname
        simp [inSomeName, hname]
      · cases h

/-- the form of a character with the role that it has in most encodings -/
def Form.ofChar (c : Char) (units : Nat) (wide : Bool) : Form c :=
  ⟨roleOf c, units, wide, inSomeName_of_roleOf⟩

namespace Symbol

/-- the character of a symbol that is none -/
def noCharacter : Char := '\uFFFF'

/-- units that are no character -/
def broken (units : Nat) (wide : Bool) : Symbol := ⟨noCharacter, { role := .malformed, units, wide }⟩

/-- the first units of a character, of which the last ones are missing -/
def unfinished (units : Nat) : Symbol := ⟨noCharacter, { role := .cutOff, units, wide := true }⟩

/-- half a code unit at the end of a document -/
def half : Symbol := ⟨noCharacter, { role := .cutOff, units := 0 }⟩

/-- a character of one code unit that tells it apart -/
def narrow (c : Char) : Symbol := ⟨c, .ofChar c 1 false⟩

def startsName (s : Symbol) : Bool :=
  s.form.role == .nameStart

def inName (s : Symbol) : Bool :=
  s.form.role.inName

theorem inSomeName_of_inName {s : Symbol} (h : s.inName = true) : inSomeName s.char = true :=
  s.form.inSomeName_of_role h

theorem inName_of_startsName {s : Symbol} (h : s.startsName = true) : s.inName = true := by
  rw [startsName, beq_iff_eq] at h
  simp [inName, h, Role.inName]

def isMalformed (s : Symbol) : Bool :=
  s.form.role == .malformed

def isCutOff (s : Symbol) : Bool :=
  s.form.role == .cutOff

def isSpace (s : Symbol) : Bool :=
  Xml.isSpace s.char

/-- the symbol can follow the `<` of a tag, as far as its first unit tells -/
def opensTag (s : Symbol) : Bool :=
  s.form.wide || s.startsName

/-- the symbol can stand in the keyword of a declaration -/
def inKeyword (s : Symbol) : Bool :=
  !s.form.wide && s.startsName

end Symbol

def charsOf (ss : List Symbol) : List Char :=
  ss.map Symbol.char

def skipSpace (ss : List Symbol) : List Symbol :=
  ss.dropWhile Symbol.isSpace

end Harvest.Xml
