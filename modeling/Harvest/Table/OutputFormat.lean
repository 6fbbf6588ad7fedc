/-
Formats that tables are written in, by name, with the ends of the names of their files, and what files can be packed with.

One of the formats is no text, and no packing is. How their bytes come about is left open: tools give them, or say why there are
none.
-/
import Harvest.Files.FilePath
import Harvest.Table.Csv
import Harvest.Table.JsonLines
import Harvest.Text.Case

namespace Harvest

open Harvest.Text

inductive OutputFormat where
  | jsonLines
  | csv
  | parquet
  deriving DecidableEq, Repr, Inhabited

namespace OutputFormat

def all : List OutputFormat := [jsonLines, csv, parquet]

def name : OutputFormat → String
  | jsonLines => "jsonl"
  | csv => "csv-gzip"
  | parquet => "parquet"

/-- the end of the name of a file in this format -/
def ending : OutputFormat → String
  | jsonLines => ".jsonl"
  | csv => ".csv.gz"
  | parquet => ".parquet"

def ofName? (label : String) : Option OutputFormat :=
  all.find? fun f => f.name == label

theorem ofName?_name (f : OutputFormat) : ofName? f.name = some f := by
  cases f <;> rfl

end OutputFormat

/-- what the content of a file can be packed with -/
inductive Packing where
  | gzip
  | bzip2
  | zip
  | xz
  | zstandard
  | tar
  deriving DecidableEq, Repr

/-- how the names of packed files end; if a name has several of these endings, the first one counts -/
def Packing.endings : List (String × Packing) := [
  (".tar", tar), (".tar.gz", tar), (".tar.bz2", tar), (".tar.xz", tar), (".gz", gzip), (".bz2", bzip2), (".zip", zip),
  (".xz", xz), (".zst", zstandard)]

/-- what the file at a path is packed with, if its name says so -/
def Packing.ofPath? (path : FilePath) : Option Packing :=
  (endings.find? fun e => e.1.toList.isSuffixOf (lowerCase path.text).toList).map Prod.snd

/-- what tables are written with -/
structure TableTools where
  /-- the bytes of a table in the format that is no text, or a report why there are none -/
  parquet : Table → Except String (List UInt8)
  /-- the bytes of a packed file, given its path and its content, or a report why there are none -/
  pack : Packing → FilePath → List UInt8 → Except String (List UInt8)

/-- the bytes of the file at a path with a text: packed, if its name says so -/
def TableTools.bytesAt (tools : TableTools) (path : FilePath) (cs : List Char) : Except Failure (List UInt8) :=
  match Packing.ofPath? path with
  | some packing => (tools.pack packing path (Utf8.encode (String.ofList cs))).mapError .unwritable
  | none => .ok (Utf8.encode (String.ofList cs))

/-- the bytes of the file at a path with a table in a format -/
def Table.write (tools : TableTools) (t : Table) (path : FilePath) : OutputFormat → Except Failure (List UInt8)
  | .jsonLines => t.jsonLines.map fun cs => Utf8.encode (String.ofList cs)
  | .csv => (tools.pack .gzip path (Utf8.encode (String.ofList t.csv))).mapError .unwritable
  | .parquet => (tools.parquet t).mapError .unwritable

/-- the bytes of the file at a path with a table in the format with a name -/
def Table.writeNamed (tools : TableTools) (t : Table) (path : FilePath) (label : String) :
    Except Failure (List UInt8) :=
  match OutputFormat.ofName? label with
  | some format => t.write tools path format
  | none => .error (.unsupportedOutput label)

end Harvest
