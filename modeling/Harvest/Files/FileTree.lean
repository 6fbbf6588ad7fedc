/-
Trees of files: what stands at each location. A location is a path without steps up, except that one above the working
directory starts with them; the directories above are always there. A path is followed component by component, so a step
up leads where the directories before it say.
-/
import Harvest.Files.FilePath

namespace Harvest

/-- what stands at a location -/
inductive FileEntry where
  | file (bytes : List UInt8)
  | directory
  deriving DecidableEq, Inhabited

structure FileTree where
  entries : List (FilePath × FileEntry)
  deriving Inhabited

namespace FileTree

def empty : FileTree := ⟨[]⟩

/-- what stands at a location -/
def find? (t : FileTree) (location : FilePath) : Option FileEntry :=
  if location.isAbove then some .directory else t.entries.lookup location

/-- put a file or a directory at a location -/
def put (t : FileTree) (location : FilePath) (e : FileEntry) : FileTree :=
  ⟨(location, e) :: t.entries.filter fun other => other.1 != location⟩

/-! ## Following paths -/

/-- follow components from a directory; only the last one can lead to a file, or to nothing. `whole` is the path reported -/
def follow (t : FileTree) (whole : String) : FilePath → List String → Except Failure (FilePath × Option FileEntry)
  | here, [] => .ok (here, some .directory)
  | here, part :: rest =>
    if part == ".." then follow t whole here.up rest
    else
      if FilePath.longestPart < FilePath.byteCount part then .error (.nameTooLong whole)
      else
        match t.find? (here.child part), rest with
        | some .directory, _ => follow t whole (here.child part) rest
        | found, [] => .ok (here.child part, found)
        | some (.file _), _ => .error (.notDirectory whole)
        | none, _ => .error (.missingFile whole)

/-- the location that a path leads to, and what stands there -/
def locate (t : FileTree) (p : FilePath) : Except Failure (FilePath × Option FileEntry) :=
  match p.check with
  | .error e => .error e
  | .ok () => t.follow p.text ⟨p.start.directory, []⟩ p.parts

/-- what a path leads to, if it leads anywhere; only a path that is too long cannot be looked up -/
def lookup (t : FileTree) (p : FilePath) : Except Failure (Option (FilePath × FileEntry)) :=
  match t.locate p with
  | .ok (location, some e) => .ok (some (location, e))
  | .ok (_, none) => .ok none
  | .error (.nameTooLong path) => .error (.nameTooLong path)
  | .error _ => .ok none

def isDirectory (t : FileTree) (p : FilePath) : Except Failure Bool :=
  (t.lookup p).map fun
    | some (_, .directory) => true
    | _ => false

def pathExists (t : FileTree) (p : FilePath) : Except Failure Bool :=
  (t.lookup p).map Option.isSome

/-- the content of a file -/
def read (t : FileTree) (p : FilePath) : Except Failure (List UInt8) :=
  match t.locate p with
  | .error e => .error e
  | .ok (_, none) => .error (.missingFile p.text)
  | .ok (_, some .directory) => .error (.isDirectory p.text)
  | .ok (_, some (.file bytes)) => .ok bytes

/-! ## Changes -/

/-- write a file into a directory that is there -/
def write (t : FileTree) (p : FilePath) (bytes : List UInt8) : Except Failure FileTree :=
  match t.locate p with
  | .error e => .error e
  | .ok (_, some .directory) => .error (.isDirectory p.text)
  | .ok (location, _) => .ok (t.put location (.file bytes))

/-- make a directory inside a directory that is there; one that is there already is kept -/
def makeDirectory (t : FileTree) (p : FilePath) : Except Failure FileTree :=
  match t.locate p with
  | .error e => .error e
  | .ok (location, none) => .ok (t.put location .directory)
  | .ok (_, some .directory) => .ok t
  | .ok (_, some (.file _)) => .error (.fileExists p.text)

/-- make a directory, and before it the directories that lead to it; the path is given from its last component to its first -/
def makeDirectoriesTo (t : FileTree) (start : PathStart) : List String → Except Failure FileTree
  | [] => .ok t
  | name :: outer =>
    let p : FilePath := ⟨start, (name :: outer).reverse⟩
    match t.makeDirectory p with
    | .error (.missingFile _) => (makeDirectoriesTo t start outer).bind fun t => t.makeDirectory p
    | result => result

/-- make a directory, and before it the directories that lead to it -/
def makeDirectories (t : FileTree) (p : FilePath) : Except Failure FileTree :=
  t.makeDirectoriesTo p.start p.parts.reverse

/-- write a file, and make the directories that lead to it -/
def writeDeep (t : FileTree) (p : FilePath) (bytes : List UInt8) : Except Failure FileTree :=
  (t.makeDirectories p.parent).bind fun t => t.write p bytes

/-! ## Listings -/

/-- paths in the order of their components -/
def sortPaths (paths : List FilePath) : List FilePath :=
  paths.mergeSort fun a b => FilePath.partsLe a.parts b.parts

/-- the files below a location, by the paths that lead from it to them; a path that leads up is not below it -/
def filesBelow (t : FileTree) (location : FilePath) : List FilePath :=
  sortPaths (t.entries.filterMap fun e =>
    match e.2 with
    | .file _ => (location.below? e.1).filter fun q => q.parts.head? != some ".."
    | .directory => none)

/-- the files that are new since `before`, or have another content, in the order of their displayed paths -/
def changesSince (t before : FileTree) : List (FilePath × List UInt8) :=
  (t.entries.filterMap fun e =>
    match e.2 with
    | .file bytes => if before.find? e.1 == some e.2 then none else some (e.1, bytes)
    | .directory => none).mergeSort fun a b => decide (a.1.text ≤ b.1.text)

/-! ## Laws -/

theorem find?_put_self (t : FileTree) {location : FilePath} (e : FileEntry) (h : location.isAbove = false) :
    (t.put location e).find? location = some e := by
  simp [find?, put, h]

theorem lookup_filter_ne (entries : List (FilePath × FileEntry)) {a b : FilePath} (h : b ≠ a) :
    (entries.filter fun other => other.1 != a).lookup b = entries.lookup b := by
  induction entries with
  | nil => rfl
  | cons e es ih =>
    obtain ⟨c, entry⟩ := e
    by_cases ha : c = a
    · simp [ha, List.lookup_cons, beq_eq_false_iff_ne.2 h, ih]
    · by_cases hb : b = c
      · subst hb
        simp [ha]
      · simp [ha, List.lookup_cons, beq_eq_false_iff_ne.2 hb, ih]

theorem find?_put_of_ne (t : FileTree) {location other : FilePath} (e : FileEntry) (h : other ≠ location) :
    (t.put location e).find? other = t.find? other := by
  simp [find?, put, List.lookup_cons, beq_eq_false_iff_ne.2 h, lookup_filter_ne _ h]

end FileTree

end Harvest
