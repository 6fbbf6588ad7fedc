/-
Files of records, by the ends of their names: a `.json` file holds one record or a list of records, a `.jsonl` file one
record on each line that is not blank, and an `.xml` file one record. A record is named by its file and its place in it.
-/
import Harvest.Files.FileTree
import Harvest.Record
import Harvest.Text.Blank
import Harvest.Text.Case
import Harvest.Text.Lines

namespace Harvest

open Harvest.Text

/-- how records stand in a file -/
inductive RecordLayout where
  | json
  | jsonLines
  | xml
  deriving DecidableEq, Repr, Inhabited

namespace RecordLayout

def all : List RecordLayout := [json, jsonLines, xml]

/-- the end of the name of a file in this layout -/
def ending : RecordLayout → String
  | json => ".json"
  | jsonLines => ".jsonl"
  | xml => ".xml"

/-- the layout whose ending a name has, whatever its case -/
def ofName? (name : String) : Option RecordLayout :=
  all.find? fun layout => layout.ending.toList.isSuffixOf (lowerCase name).toList

/-- the layout of the files with an extension, whatever its case -/
def ofExtension? (extension : String) : Option RecordLayout :=
  all.find? fun layout => layout.ending == lowerCase extension

end RecordLayout

/-! ## Reading records -/

/-- a record for each line that is not blank; lines are counted from one -/
def lineRecords (name : String) (cs : List Char) : List Record :=
  ((splitLines (unifyLineEnds cs)).zipIdx 1).filterMap fun line =>
    if line.1.all isBlank then none
    else some (.harvested (.str (String.ofList line.1)) (some (name ++ ":" ++ Nat.repr line.2)))

/-- a record for each item of a list, or one record -/
def treeRecords (name : String) : Data → List Record
  | .list items =>
    items.zipIdx.map fun item => .harvested item.1 (some (name ++ "[" ++ Nat.repr item.2 ++ "]"))
  | tree => [.harvested tree (some name)]

/-- the records of a file with a name and a content -/
def RecordLayout.records (layout : RecordLayout) (name : String) (bytes : List UInt8) : Except Failure (List Record) :=
  match layout with
  | .xml => .ok [.harvested (.bytes bytes) (some name)]
  | .jsonLines =>
    match Utf8.decode bytes with
    | .error m => .error (.badText m)
    | .ok cs => .ok (lineRecords name cs)
  | .json =>
    match Utf8.decode bytes with
    | .error m => .error (.badText m)
    | .ok cs =>
      match Json.read (String.ofList (unifyLineEnds cs)) with
      | .error e => .error (.badFile name e)
      | .ok tree => .ok (treeRecords name tree)

namespace FileTree

/-- the records of a file -/
def records (t : FileTree) (p : FilePath) : Except Failure (List Record) :=
  match RecordLayout.ofExtension? p.extension with
  | none => .error (.unsupportedInput p.text)
  | some layout => (t.read p).bind (layout.records p.name)

theorem records_of_layout {t : FileTree} {p : FilePath} {layout : RecordLayout} {bytes : List UInt8}
    (h : RecordLayout.ofExtension? p.extension = some layout) (content : t.read p = .ok bytes) :
    t.records p = layout.records p.name bytes := by
  simp only [records, h, content, Except.bind]

/-- the files of records that a path leads to: the file itself, or all below the directory -/
def recordFiles (t : FileTree) (p : FilePath) : Except Failure (List FilePath) :=
  (t.lookup p).map fun
    | some (_, .file _) => [p].filter fun q => (RecordLayout.ofName? q.name).isSome
    | some (location, .directory) =>
      ((t.filesBelow location).filter fun q => (RecordLayout.ofName? q.name).isSome).map p.join
    | none => []

end FileTree

end Harvest
