/-
The flags of the command line, and what can be wrong with its arguments.
-/
import Harvest.Format
import Harvest.Table.OutputFormat
import Harvest.Text.Quoted

namespace Harvest.CommandLine

open Harvest.Text

inductive Flag where
  | help
  | parser
  | rootPath
  | outputFormat
  | errors
  | logLevel
  deriving DecidableEq, Repr, Inhabited

namespace Flag

/-- how flags are written -/
def spellings : List (String × Flag) := [
  ("-h", help), ("--help", help), ("--parser", parser), ("--root-path", rootPath), ("--output-format", outputFormat),
  ("--errors", errors), ("--log-level", logLevel)]

/-- all spellings of a flag -/
def display (f : Flag) : String :=
  "/".intercalate ((spellings.filter fun s => s.2 == f).map Prod.fst)

end Flag

/-- the names of the arguments that have no flag, in order -/
def placeNames : List String := ["definitions", "name", "input_path", "output_path"]

def levelNames : List String := ["DEBUG", "INFO", "WARNING", "ERROR"]

inductive UsageError where
  /-- a shortened flag that several flags start with -/
  | ambiguous (argument : String) (candidates : List String)
  | lacksValue (f : Flag)
  /-- a value for a flag that takes none -/
  | needlessValue (f : Flag) (value : String)
  | badOutputFormat (value : String)
  | badChoice (f : Flag) (value : String) (choices : List String)
  | missing (names : List String)
  | unrecognized (arguments : List String)
  | noDefinitions (path : String)
  | noInput
  | unknownMapping (name : String) (known : List String)
  deriving DecidableEq, Repr

namespace UsageError

/-- a complaint about the value of a flag -/
def aboutFlag (f : Flag) (complaint : String) : String :=
  "argument " ++ f.display ++ ": " ++ complaint

def message : UsageError → String
  | ambiguous argument candidates =>
    "ambiguous option: " ++ argument ++ " could match " ++ ", ".intercalate candidates
  | lacksValue f => aboutFlag f "expected one argument"
  | needlessValue f value => aboutFlag f ("ignored explicit argument " ++ quoted value)
  | badOutputFormat value => aboutFlag .outputFormat ("invalid FileFormat value: " ++ quoted value)
  | badChoice f value choices =>
    aboutFlag f ("invalid choice: " ++ quoted value ++ " (choose from " ++ ", ".intercalate (choices.map quoted) ++ ")")
  | missing names => "the following arguments are required: " ++ ", ".intercalate names
  | unrecognized arguments => "unrecognized arguments: " ++ " ".intercalate arguments
  | noDefinitions path => "Definitions file not found: " ++ path
  | noInput => "No supported input files found (.json, .jsonl, .xml)."
  | unknownMapping name known =>
    "Mapping '" ++ name ++ "' is not defined. Defined mappings: "
      ++ if known.isEmpty then "none" else ", ".intercalate known

end UsageError

def programName : String := "record-mapper"

/-- the line that reports a usage error -/
def UsageError.line (e : UsageError) : String :=
  programName ++ ": error: " ++ e.message

/-- how the program is called -/
def usage : String :=
  "usage: " ++ programName ++ " [options] " ++ " ".intercalate placeNames ++ "\noptions: "
    ++ ", ".intercalate (Flag.spellings.map Prod.fst)

end Harvest.CommandLine
