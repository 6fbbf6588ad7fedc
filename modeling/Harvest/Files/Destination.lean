/-
Where the table of a file of records is written: under the output directory, at the place that the file has under the input
directory, and with another ending.
-/
import Harvest.Files.RecordFile

namespace Harvest

open Harvest.Text

/-- a text without the ending of a layout of records -/
def dropEnding (text : String) : String :=
  match RecordLayout.ofName? text with
  | none => text
  | some layout => String.ofList (text.toList.take (text.length - layout.ending.length))

namespace FileTree

/-- the place of a file under the input; where the input is no directory, the file's name -/
def placeUnder (t : FileTree) (root file : FilePath) : Except Failure FilePath :=
  (t.isDirectory root).bind fun inside =>
    if inside then root.below file else .ok { parts := file.parts.getLast?.toList }

/-- the name of the output of a file, under the output directory -/
def outputName (t : FileTree) (root file : FilePath) (ending : String) : Except Failure FilePath :=
  (t.placeUnder root file).map fun place => FilePath.ofText (dropEnding place.text ++ ending)

/-- the path of the output of a file -/
def destination (t : FileTree) (root output file : FilePath) (ending : String) : Except Failure FilePath :=
  (t.outputName root file ending).map output.join

end FileTree

end Harvest
