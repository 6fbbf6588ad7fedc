/-
Mapping the files of a command one after the other. A file that holds no valid JSON is skipped, and counts as one record
that failed; any other failure to read a file, and a failure that stops a batch, ends the command.
-/
import Harvest.CommandLine.Arguments
import Harvest.Files.Destination
import Harvest.Mapping.Definition
import Harvest.Table.OutputFormat

namespace Harvest.CommandLine

open Harvest.Text

/-- what is done with each file -/
structure Job where
  tools : TableTools
  registry : Registry
  /-- the name of the mapping -/
  name : String
  input : FilePath
  output : Value FilePath
  format : Value OutputFormat

/-- the format that a table is written in where none is given -/
def Job.formatOrFirst (job : Job) : OutputFormat :=
  match job.format with
  | .given format => format
  | .mark => .jsonLines

/-- how far a command has come -/
structure Progress where
  tree : FileTree
  /-- the records that the mapping was run on -/
  past : List Record := []
  /-- the printed lines -/
  lines : List String := []
  total : Nat := 0
  /-- the records that failed, with the reports of their failures -/
  failures : List (String × String) := []

/-- the failed records of a batch with the reports of their failures -/
def failuresOf (outcomes : List Outcome) : List (String × String) :=
  outcomes.filterMap fun o =>
    match o.result with
    | .ok _ => none
    | .error e => some (o.record.name, e.message)

/-- the objects of a batch -/
def objectsOf (outcomes : List Outcome) : List Data :=
  outcomes.filterMap fun o => o.result.toOption

/-- what comes of a file -/
inductive FileResult where
  /-- the file holds no records -/
  | skipped (e : Failure)
  | mapped (outcomes : List Outcome)

/-- read a file and map its records, after the records of the past -/
def Job.mapFile (job : Job) (past : List Record) (t : FileTree) (file : FilePath) : Except Failure FileResult :=
  match t.records file with
  | .error (.badFile name e) => .ok (.skipped (.badFile name e))
  | .error e => .error e
  | .ok records => (job.registry.map job.name past records).outcome.map .mapped

/-- where the table of a file is written -/
def Job.destination (job : Job) (t : FileTree) (file : FilePath) : Except Failure FilePath :=
  match t.outputName job.input file job.formatOrFirst.ending, job.output with
  | .error e, _ => .error e
  | .ok _, .mark => .error (.notFolder Value.absent.kindName)
  | .ok name, .given output => .ok (output.join name)

/-- write the table of a file; gives the tree and the path of the table -/
def Job.save (job : Job) (t : FileTree) (file : FilePath) (outcomes : List Outcome) :
    Except Failure (FileTree × FilePath) :=
  match job.destination t file with
  | .error e => .error e
  | .ok path =>
    match Table.ofObjects (objectsOf outcomes) with
    | .error e => .error e
    | .ok table =>
      match t.makeDirectories path.parent with
      | .error e => .error e
      | .ok t =>
        match (job.format.get (.unsupportedOutput Value.absent.display)).bind (table.write job.tools path) with
        | .error e => .error e
        | .ok bytes => (t.write path bytes).map fun t => (t, path)

/-- do a step for one item after the other; a failure ends it, and is given with the state before it -/
def untilFailure {σ α : Type} (step : σ → α → Except Failure σ) (s : σ) : List α → σ × Option Failure
  | [] => (s, none)
  | a :: rest =>
    match step s a with
    | .error e => (s, some e)
    | .ok s => untilFailure step s rest

namespace Progress

/-- map one more file -/
def advance (job : Job) (p : Progress) (file : FilePath) : Except Failure Progress :=
  match job.mapFile p.past p.tree file with
  | .error e => .error e
  | .ok (.skipped e) =>
    .ok { p with
      lines := p.lines ++ ["Skipped: " ++ file.text ++ " (" ++ e.message ++ ")"]
      total := p.total + 1
      failures := p.failures ++ [(file.text, e.message)] }
  | .ok (.mapped outcomes) =>
    match job.save p.tree file outcomes with
    | .error e => .error e
    | .ok (tree, path) =>
      .ok {
        tree
        past := p.past ++ outcomes.map Outcome.record
        lines := p.lines ++ ["Processed: " ++ file.text ++ " -> " ++ path.text]
        total := p.total + outcomes.length
        failures := p.failures ++ failuresOf outcomes }

/-- map files in order; a failure ends it, and is given with the progress before it -/
def run (job : Job) (p : Progress) (files : List FilePath) : Progress × Option Failure :=
  untilFailure (advance job) p files

/-- the line that sums up -/
def summary (name : String) (p : Progress) : String :=
  "Done. Mapped " ++ Nat.repr (p.total - p.failures.length) ++ " of " ++ Nat.repr p.total ++ " record(s) with '" ++ name
    ++ "'."

/-- write the table of failures -/
def saveFailures (tools : TableTools) (p : Progress) (path : FilePath) : Except Failure Progress :=
  match tools.bytesAt path (Table.ofFailures p.failures).csv with
  | .error e => .error e
  | .ok bytes =>
    (p.tree.writeDeep path bytes).map fun tree =>
      { p with tree, lines := p.lines ++ ["Errors written to: " ++ path.text] }

end Progress

end Harvest.CommandLine
