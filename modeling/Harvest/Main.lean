/-
The program: a command works on the files that its arguments name, and what it changes is written back. Definitions files
are JSON documents; of the formats that are no text, only one container is written.
-/
import Harvest.CommandLine.Report
import Harvest.Files.Gzip
import Harvest.Mapping.Vocabulary

namespace Harvest.CommandLine

open Harvest.Text

/-- definitions in a JSON document -/
def jsonDefinitions : DefinitionReader where
  ending := RecordLayout.json.ending
  read bytes :=
    match (Utf8.decode bytes).toOption.bind fun cs => (Json.read (String.ofList cs)).toOption with
    | some (.list ds) => some fun defaults => Vocabulary.registerAll {} defaults .empty ds
    | _ => none

/-- tables can be packed in one container -/
def storing : TableTools where
  parquet _ := .error "no writer of this format"
  pack
    | .gzip, _, bytes => .ok (Gzip.store bytes)
    | _, _, _ => .error "no such container"

/-- the paths that arguments name -/
def namedPaths (arguments : List String) : List FilePath :=
  match readArguments arguments with
  | .ok (.map a) =>
    [a.definitions, a.input, a.output].filterMap fun
      | .given p => some p
      | .mark => none
  | _ => []

/-- add what stands at a path to a tree -/
partial def load (t : FileTree) (p : FilePath) : IO FileTree := do
  let here := (← IO.currentDir) / p.text
  if ← here.isDir then
    (← here.readDir).foldlM (fun t e => load t (p.child e.fileName)) ((t.makeDirectories p).toOption.getD t)
  else if ← here.pathExists then
    return (t.writeDeep p (← IO.FS.readBinFile here).toList).toOption.getD t
  else return t

/-- write a file of a tree -/
def save (file : FilePath × List UInt8) : IO Unit := do
  let here := (← IO.currentDir) / file.1.text
  if let some folder := here.parent then IO.FS.createDirAll folder
  IO.FS.writeBinFile here ⟨file.2.toArray⟩

/-- run a command; a command that is stopped exits with one -/
def execute (arguments : List String) : IO UInt32 := do
  let t ← (namedPaths arguments).foldlM load .empty
  let report := run ⟨jsonDefinitions, storing⟩ t arguments
  (report.tree.changesSince t).forM save
  IO.print report.output
  match report.ending with
  | .usage e => IO.eprintln e.line
  | .stopped e => IO.eprintln e.message
  | _ => pure ()
  return UInt32.ofNat (report.ending.exitCode?.getD 1)

end Harvest.CommandLine

def main (arguments : List String) : IO UInt32 :=
  Harvest.CommandLine.execute arguments
