/-
The command line as a whole: a command takes a tree of files to another one, prints lines, and ends in one of four ways.
Before any file is mapped, the definitions file, the input and the mapping must be there; the first that is not is a usage
error.
-/
import Harvest.CommandLine.Progress

namespace Harvest.CommandLine

/-- how definitions files are read -/
structure DefinitionReader where
  /-- how the names of definitions files end -/
  ending : String
  /-- how the names of files end that hold definitions in a form that is not read -/
  closedEndings : List String := []
  /-- what a definitions file with a content registers, given defaults; nothing if it is no list of definitions -/
  read : List UInt8 → Option (Defaults → Except Failure Registry)

/-- what a command has at hand: how definitions files are read, and what tables are written with -/
structure Toolbox where
  reader : DefinitionReader
  tables : TableTools

/-- how a command ends -/
inductive Ending where
  | help
  | usage (e : UsageError)
  | stopped (e : Failure)
  /-- all files are mapped or skipped; `clean` if no record failed -/
  | finished (clean : Bool)

/-- the exit code, unless the command is stopped -/
def Ending.exitCode? : Ending → Option Nat
  | help => some 0
  | usage _ => some 2
  | stopped _ => none
  | finished clean => some (if clean then 0 else 1)

structure Report where
  tree : FileTree
  lines : List String
  ending : Ending

/-- the printed text -/
def Report.output (r : Report) : String :=
  String.join (r.lines.map (· ++ "\n"))

/-- the mappings that a definitions file registers -/
def DefinitionReader.load (reader : DefinitionReader) (t : FileTree) (path : FilePath) (defaults : Defaults) :
    Except Failure Registry :=
  let endsWith (ending : String) : Bool := ending.toList.isSuffixOf path.text.toList
  if reader.closedEndings.any endsWith then (t.read path).bind fun _ => .error (.closedDefinitions path.text)
  else if !endsWith reader.ending then .error (.unloadableDefinitions path.text)
  else
    match t.read path with
    | .error e => .error e
    | .ok bytes =>
      match reader.read bytes with
      | none => .error (.noDefinitions path.text)
      | some register => register defaults

/-- the root path as an argument of records -/
def rootArgument : Value String → Data
  | .given path => .str path
  | .mark => Value.absent

/-- the defaults of definitions -/
def Settings.defaults (s : Settings) : Except Failure Defaults :=
  (s.format.get (.notKey Value.absent.kindName)).map fun format => { format, arguments := [rootArgument s.rootPath] }

/-- a place that must be given -/
def place {α : Type} (v : Value α) (capability : Capability) : Except Ending α :=
  (v.get (.noCapability Value.absent.kindName capability)).mapError .stopped

/-- the job of a command and the files that it maps, if the command can begin -/
def Arguments.prepare (tools : Toolbox) (t : FileTree) (a : Arguments) : Except Ending (Job × List FilePath) := do
  let definitions ← place a.definitions "exists"
  if !(← (t.pathExists definitions).mapError .stopped) then throw (.usage (.noDefinitions definitions.text))
  let input ← place a.input "is_file"
  let files ← (t.recordFiles input).mapError .stopped
  if files.isEmpty then throw (.usage .noInput)
  let defaults ← a.settings.defaults.mapError .stopped
  let registry ← (tools.reader.load t definitions defaults).mapError .stopped
  let name ← (a.name.get (.notKey Value.absent.kindName)).mapError .stopped
  if !registry.contains name then throw (.usage (.unknownMapping name registry.names))
  return (⟨tools.tables, registry, name, input, a.output, a.settings.outputFormat⟩, files)

/-- the end of a command whose files are all mapped or skipped -/
def Progress.report (p : Progress) (job : Job) (errors? : Option (Value FilePath)) : Report :=
  let p := { p with lines := p.lines ++ [p.summary job.name] }
  let ending := Ending.finished p.failures.isEmpty
  match errors? with
  | none => ⟨p.tree, p.lines, ending⟩
  | some errors =>
    match (errors.get (.noCapability Value.absent.kindName "parent")).bind (p.saveFailures job.tools) with
    | .error e => ⟨p.tree, p.lines, .stopped e⟩
    | .ok p => ⟨p.tree, p.lines, ending⟩

/-- map files and report -/
def Job.report (job : Job) (t : FileTree) (files : List FilePath) (errors? : Option (Value FilePath)) :
    Report :=
  match Progress.run job { tree := t } files with
  | (p, some e) => ⟨p.tree, p.lines, .stopped e⟩
  | (p, none) => p.report job errors?

/-- what a command does to a tree of files -/
def run (tools : Toolbox) (t : FileTree) (arguments : List String) : Report :=
  match readArguments arguments with
  | .error e => ⟨t, [], .usage e⟩
  | .ok .help => ⟨t, [usage], .help⟩
  | .ok (.map a) =>
    match a.prepare tools t with
    | .error ending => ⟨t, [], ending⟩
    | .ok (job, files) => job.report t files a.settings.errors?

end Harvest.CommandLine
