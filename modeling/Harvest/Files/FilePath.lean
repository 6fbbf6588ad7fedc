/-
File paths as lists of components, read from texts with a slash between them. Empty components and single dots say nothing
and are dropped; two dots are kept, since only the files decide where they lead.

A path that starts with exactly two slashes leads where it would lead with one, but is another path.
-/
import Harvest.Failure
import Harvest.Text.Cut

namespace Harvest

open Harvest.Text

/-- where a path starts -/
inductive PathStart where
  | workingDirectory
  | top
  /-- the top, written with two slashes -/
  | twoSlashes
  deriving DecidableEq, Repr, Inhabited

namespace PathStart

/-- the start of a path that begins with so many slashes -/
def ofSlashes : Nat → PathStart
  | 0 => workingDirectory
  | 2 => twoSlashes
  | _ => top

def text : PathStart → String
  | workingDirectory => ""
  | top => "/"
  | twoSlashes => "//"

/-- the directory that paths with this start lead from -/
def directory : PathStart → PathStart
  | workingDirectory => workingDirectory
  | top => top
  | twoSlashes => top

end PathStart

structure FilePath where
  start : PathStart := .workingDirectory
  parts : List String
  deriving DecidableEq, Repr, Inhabited

namespace FilePath

/-- the path starts at the top of all files -/
def isRooted (p : FilePath) : Bool :=
  p.start != .workingDirectory

/-- a component that is kept -/
def isPart (piece : List Char) : Bool :=
  piece != [] && piece != ['.']

def ofText (text : String) : FilePath :=
  ⟨.ofSlashes (text.toList.takeWhile (· == '/')).length, ((pieces '/' text.toList).filter isPart).map String.ofList⟩

/-- the displayed path; a dot where there are no components -/
def text (p : FilePath) : String :=
  if p.parts.isEmpty && !p.isRooted then "." else p.start.text ++ "/".intercalate p.parts

/-- the last component, if there is one -/
def name (p : FilePath) : String :=
  p.parts.getLast?.getD ""

/-- the path without its last component -/
def parent (p : FilePath) : FilePath :=
  { p with parts := p.parts.dropLast }

/-- one path after the other -/
def join (p q : FilePath) : FilePath :=
  if q.isRooted then q else { p with parts := p.parts ++ q.parts }

def child (p : FilePath) (name : String) : FilePath :=
  { p with parts := p.parts ++ [name] }

/-- one directory up; above the working directory there are only further ups -/
def up (p : FilePath) : FilePath :=
  match p.parts.getLast? with
  | none => if p.isRooted then p else { parts := [".."] }
  | some last => if last == ".." then p.child ".." else p.parent

/-- nothing but ups -/
def isAbove (p : FilePath) : Bool :=
  p.parts.all (· == "..")

/-- the order of paths: the first component that differs decides, and a path stands before those that go on from it -/
def partsLe : List String → List String → Bool
  | [], _ => true
  | _ :: _, [] => false
  | a :: as, b :: bs => if a == b then partsLe as bs else decide (a ≤ b)

/-- what follows `root` in a path that starts with it -/
def below? (root p : FilePath) : Option FilePath :=
  if p.start == root.start && root.parts.isPrefixOf p.parts then some { parts := p.parts.drop root.parts.length }
  else none

/-- what follows `root` in a path that starts with it -/
def below (root p : FilePath) : Except Failure FilePath :=
  match root.below? p with
  | some q => .ok q
  | none => .error (.notBelow p.text root.text)

/-! ## Limits -/

/-- how many bytes a component can have -/
def longestPart : Nat := 255

/-- how many bytes a displayed path can have -/
def longestPath : Nat := 4095

def byteCount (text : String) : Nat :=
  (Utf8.encode text).length

/-- the files can be asked for the path -/
def check (p : FilePath) : Except Failure Unit :=
  if p.text.toList.contains '\x00' then .error .zeroByte
  else if longestPath < byteCount p.text then .error (.nameTooLong p.text)
  else .ok ()

/-! ## Endings -/

/-- the end of a name from its last dot on, unless nothing stands before or after that dot -/
def extensionOf (name : List Char) : List Char :=
  let after := name.reverse.takeWhile (· != '.')
  match name.reverse.dropWhile (· != '.') with
  | [] => []
  | dot :: before => if after.isEmpty || before.isEmpty then [] else dot :: after.reverse

def extension (p : FilePath) : String :=
  String.ofList (extensionOf p.name.toList)

theorem below?_join {p q : FilePath} (h : q.isRooted = false) : p.below? (p.join q) = some q := by
  obtain ⟨start, parts⟩ := q
  obtain rfl : start = .workingDirectory := by
    simpa [isRooted] using h
  simp [below?, join, isRooted, List.isPrefixOf_iff_prefix]

end FilePath

end Harvest
