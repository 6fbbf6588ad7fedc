/-
Reading the arguments of the command line. An argument that starts with a dash is a flag, unless it is a lone dash, a
negative number, or holds a space; a long flag can be shortened as long as one flag only starts with it. The value of a
flag is the next argument, or stands after an equals sign. After `--` nothing is a flag.

Where a place is taken by a further `--`, it has no value, and neither has a flag with `--` after its equals sign.
-/
import Harvest.CommandLine.Flag
import Harvest.Files.FilePath
import Harvest.Path.Basic
import Harvest.Text.DecimalDigit

namespace Harvest.CommandLine

open Harvest.Text

/-! ## Tokens -/

inductive Token where
  | plain (text : String)
  /-- the first `--` -/
  | separator
  /-- a flag with its full spelling, and the value that stands in the same argument -/
  | flag (f : Flag) (spelling : String) (value? : Option String)
  /-- a short flag with more letters in the same argument -/
  | letters (f : Flag) (letter : Char) (rest : List Char)
  | unknown (text : String)
  deriving Repr

/-- a dash and digits, with at most one dot that digits follow; a line end may come last -/
def isNegativeNumber (cs : List Char) : Bool :=
  let cs := if cs.getLast? == some '\n' then cs.dropLast else cs
  match cs with
  | '-' :: rest =>
    let fraction := rest.dropWhile isDecimalDigit
    match fraction with
    | [] => !rest.isEmpty
    | '.' :: digits => !digits.isEmpty && digits.all isDecimalDigit
    | _ => false
  | _ => false

/-- the flags that an argument can be short for, with their spellings and the value in the argument -/
def candidates (argument : List Char) : List Token :=
  match argument with
  | '-' :: '-' :: _ =>
    let (stem, value?) := match cutFirst? '=' argument with
      | none => (argument, none)
      | some (before, after) => (before, some (String.ofList after))
    (Flag.spellings.filter fun s => stem.isPrefixOf s.1.toList).map fun s => .flag s.2 s.1 value?
  | '-' :: letter :: rest =>
    (Flag.spellings.filter fun s => s.1.toList == ['-', letter]).map fun s => .letters s.2 letter rest
  | _ => []

/-- a flag that is spelled out before an equals sign; what follows a short flag there are letters, if there is anything -/
def valued? (argument : List Char) : Option Token :=
  (cutFirst? '=' argument).bind fun (before, after) =>
    (Flag.spellings.lookup (String.ofList before)).map fun f =>
      match before, after with
      | ['-', letter], _ :: _ => .letters f letter after
      | _, _ => .flag f (String.ofList before) (some (String.ofList after))

/-- the spelling of a flag token -/
def Token.spelling : Token → String
  | flag _ spelling _ => spelling
  | letters _ letter _ => String.ofList ['-', letter]
  | plain text => text
  | separator => "--"
  | unknown text => text

/-- an argument before any `--` -/
def tokenOf (argument : String) : Except UsageError Token :=
  let cs := argument.toList
  if cs.head? != some '-' then .ok (.plain argument)
  else
    match Flag.spellings.lookup argument with
    | some f => .ok (.flag f argument none)
    | none =>
      if cs == ['-'] then .ok (.plain argument)
      else
        match valued? cs, candidates cs with
        | some token, _ => .ok token
        | none, [token] => .ok token
        | none, [] =>
          .ok (if isNegativeNumber cs || cs.contains ' ' then .plain argument else .unknown argument)
        | none, several => .error (.ambiguous argument (several.map Token.spelling))

def tokens : List String → Except UsageError (List Token)
  | [] => .ok []
  | argument :: rest =>
    if argument == "--" then .ok (.separator :: rest.map .plain)
    else
      match tokenOf argument with
      | .error e => .error e
      | .ok token => (tokens rest).map (token :: ·)

/-! ## Values -/

/-- what stands at a place or after a flag; the mark `--` stands for no value -/
inductive Value (α : Type) where
  | given (a : α)
  | mark
  deriving Repr, DecidableEq

instance {α : Type} : Inhabited (Value α) := ⟨.mark⟩

namespace Value

variable {α β : Type}

def map (f : α → β) : Value α → Value β
  | given a => given (f a)
  | mark => mark

/-- the value, or a failure where there is none -/
def get (v : Value α) (e : Failure) : Except Failure α :=
  match v with
  | given a => .ok a
  | mark => .error e

/-- the data that stands for a value that is not given -/
def absent : Data := .list []

/-- a text, unless it is the mark -/
def ofText (text : String) : Value String :=
  if text == "--" then mark else given text

end Value

/-! ## Settings -/

/-- what the flags say -/
structure Settings where
  format : Value Format := .given .json
  rootPath : Value String := .given Path.root.expression
  outputFormat : Value OutputFormat := .given .jsonLines
  errors? : Option (Value FilePath) := none
  deriving Inhabited

/-- a choice that is there, or a complaint -/
def choose {α : Type} (choice? : Option α) (complaint : UsageError) : Except UsageError α :=
  match choice? with
  | some a => .ok a
  | none => .error complaint

/-- set what a flag with a value says -/
def Settings.set (s : Settings) (f : Flag) : Value String → Except UsageError Settings
  | .mark =>
    match f with
    | .help => .ok s
    | .parser => .ok { s with format := .mark }
    | .rootPath => .ok { s with rootPath := .mark }
    | .outputFormat => .ok { s with outputFormat := .mark }
    | .errors => .ok { s with errors? := some .mark }
    | .logLevel => .ok s
  | .given text =>
    match f with
    | .help => .ok s
    | .parser =>
      (choose (Format.ofName text).toOption (.badChoice .parser text Format.names)).map fun format =>
        { s with format := .given format }
    | .rootPath => .ok { s with rootPath := .given text }
    | .outputFormat =>
      (choose (OutputFormat.ofName? text) (.badOutputFormat text)).map fun outputFormat =>
        { s with outputFormat := .given outputFormat }
    | .errors => .ok { s with errors? := some (.given (.ofText text)) }
    | .logLevel => (choose (levelNames.find? (· == text)) (.badChoice .logLevel text levelNames)).map fun _ => s

/-! ## Requests -/

/-- what has been read so far -/
structure Reading where
  settings : Settings := {}
  places : List (Value String) := []
  extras : List String := []
  /-- the last argument took a place -/
  afterPlace : Bool := false
  /-- the next plain argument is taken as it is -/
  verbatim : Bool := false

namespace Reading

def isFull (r : Reading) : Bool :=
  placeNames.length ≤ r.places.length

/-- take an argument that has no place -/
def addExtra (r : Reading) (text : String) : Reading :=
  { r with extras := r.extras ++ [text], afterPlace := false }

/-- take a plain argument: for the next place, or as one too many -/
def take (r : Reading) (text : String) : Reading :=
  if r.isFull then r.addExtra text
  else
    let v := if r.verbatim then .given text else Value.ofText text
    { r with places := r.places ++ [v], afterPlace := true, verbatim := false }

/-- take the separator: it belongs to the argument before it if that took a place, else to the next argument that does -/
def separate (r : Reading) : Reading :=
  if r.afterPlace then { r with afterPlace := false }
  else if r.isFull then r.addExtra "--"
  else { r with verbatim := true }

/-- take a flag with its value -/
def setFlag (r : Reading) (f : Flag) (value : String) : Except UsageError Reading :=
  (r.settings.set f (Value.ofText value)).map fun settings => { r with settings, afterPlace := false }

end Reading

/-- letters after a short flag, which takes no value: only its own letter can stand there, again and again -/
def checkLetters (f : Flag) (letter : Char) (letters : List Char) : Except UsageError Unit :=
  match letters.dropWhile (· == letter) with
  | [] => .ok ()
  | rest => .error (.needlessValue f (String.ofList rest))

/-- read tokens in order; the flag for help ends the reading with nothing -/
def readTokens (r : Reading) : List Token → Except UsageError (Option Reading)
  | [] => .ok (some r)
  | .plain text :: rest => readTokens (r.take text) rest
  | .separator :: rest => readTokens r.separate rest
  | .unknown text :: rest => readTokens (r.addExtra text) rest
  | .letters f letter letters :: _ => (checkLetters f letter letters).map fun _ => none
  | .flag .help _ none :: _ => .ok none
  | .flag .help _ (some value) :: _ => .error (.needlessValue .help value)
  | .flag f _ (some value) :: rest =>
    match r.setFlag f value with
    | .error e => .error e
    | .ok r => readTokens r rest
  | .flag f _ none :: .plain value :: rest =>
    match r.setFlag f value with
    | .error e => .error e
    | .ok r => readTokens r rest
  | .flag f _ none :: _ => .error (.lacksValue f)

structure Arguments where
  definitions : Value FilePath
  name : Value String
  input : Value FilePath
  output : Value FilePath
  settings : Settings
  deriving Inhabited

/-- what is asked for -/
inductive Request where
  | help
  | map (a : Arguments)

/-- a reading is complete when all places are taken and nothing is left -/
def Reading.request (r : Reading) : Except UsageError Request :=
  match r.places, r.extras with
  | [definitions, name, input, output], [] =>
    .ok (.map ⟨definitions.map .ofText, name, input.map .ofText, output.map .ofText, r.settings⟩)
  | [_, _, _, _], extras => .error (.unrecognized extras)
  | places, _ => .error (.missing (placeNames.drop places.length))

/-- read the arguments of the command line -/
def readArguments (arguments : List String) : Except UsageError Request :=
  match tokens arguments with
  | .error e => .error e
  | .ok ts =>
    match readTokens {} ts with
    | .error e => .error e
    | .ok none => .ok .help
    | .ok (some r) => r.request

end Harvest.CommandLine
