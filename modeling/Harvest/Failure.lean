/-
Everything that can go wrong while a mapping is defined or applied, by its cause. `message` is the report of a failure.
-/
import Harvest.Json.Reader
import Harvest.Path.Basic
import Harvest.Text.Utf8
import Harvest.Xml.Error

namespace Harvest

open Harvest.Text

/-- what a thing is asked for, by the name it goes under -/
abbrev Capability := String

inductive Failure where
  /-- a record whose content is not valid JSON -/
  | badJson (e : Json.Error)
  /-- a record whose content is not valid XML -/
  | badXml (e : Xml.Error)
  /-- a file whose content is not valid JSON -/
  | badFile (name : String) (e : Json.Error)
  /-- bytes that are no text -/
  | badText (m : Utf8.Malformed)
  | badPath (e : PathError)
  /-- the attributes of a JSON node, or one of them -/
  | noAttributes (name : Option String)
  /-- a transform does not support the displayed value -/
  | unsupportedValue (text : String)
  /-- a transform cannot handle the displayed value -/
  | unhandledValue (text : String)
  | unknownMapping (name : String) (known : List String)
  | duplicateMapping (name : String)
  | unknownFormat (name : String) (known : List String)
  | unsupportedInput (path : String)
  | unsupportedOutput (name : String)
  /-- a table or a packed file that has no bytes, with the report of what makes them -/
  | unwritable (report : String)
  | unloadableDefinitions (path : String)
  /-- definitions in a form that is not read -/
  | closedDefinitions (path : String)
  | noDefinitions (path : String)
  /-- a document of a kind that is neither text nor bytes -/
  | notDocument (kind : String)
  /-- namespaces of a kind that has no entries -/
  | notNamespaces (kind : String)
  /-- a root path or a name of a kind that cannot be looked up -/
  | notKey (kind : String)
  /-- an output directory of a kind that cannot be one -/
  | notFolder (kind : String)
  /-- more arguments than a reader of documents takes -/
  | extraArguments (reader : String) (most given : Nat)
  /-- a part of a mapping that has no JSON form -/
  | notWritable (kind : String)
  /-- a change of case of something that is not text -/
  | notText (change kind : String)
  /-- a join of something that has no items -/
  | noItems
  /-- a join of items one of which is not text -/
  | notTextItem (index : Nat) (kind : String)
  | noLength (kind : String)
  /-- a thing that cannot do what is asked of it -/
  | noCapability (kind : String) (capability : Capability)
  /-- something that is asked to act, but is data -/
  | notCallable (kind : String)
  /-- a class of an object that is set to data -/
  | notClass (name kind : String)
  /-- all properties of an object that are set to something other than a mapping -/
  | notMapping (name kind : String)
  /-- what an object keeps for itself and cannot be set -/
  | notWritableProperty (name cls : String)
  /-- a row of something that has no properties -/
  | noProperties (kind : String)
  | outOfRange
  | notFound
  | missingFile (path : String)
  | isDirectory (path : String)
  | notDirectory (path : String)
  | fileExists (path : String)
  | nameTooLong (path : String)
  /-- a path that holds the character zero -/
  | zeroByte
  /-- a path that does not lie below another one -/
  | notBelow (path root : String)
  deriving Repr

namespace Failure

def message : Failure → String
  | badJson e => "Record content is not valid JSON: " ++ e.message
  | badXml (.encoding name fault) => fault.message name
  | badXml e => "Record content is not valid XML: " ++ e.message
  | badFile name e => name ++ " is not valid JSON: " ++ e.message
  | badText m => m.message
  | badPath e => e.message
  | noAttributes none => "Attributes are not supported for JSON"
  | noAttributes (some name) => "Attributes are not supported for JSON; got attribute `" ++ name ++ "`"
  | unsupportedValue text => "unsupported " ++ text
  | unhandledValue text => "cannot handle " ++ text
  | unknownMapping name known =>
    "Unknown mapping '" ++ name ++ "'."
      ++ if known.isEmpty then "" else " Registered mappings: " ++ ", ".intercalate known
  | duplicateMapping name => "Mapping '" ++ name ++ "' is already registered."
  | unknownFormat name known => "Unknown parser '" ++ name ++ "'. Supported parsers: " ++ ", ".intercalate known
  | unsupportedInput path => "Unsupported input format: " ++ path
  | unsupportedOutput name => "Unsupported output format: " ++ name
  | unwritable report => report
  | unloadableDefinitions path => "Cannot load mapping definitions from " ++ path
  | closedDefinitions path => "Cannot read the form of the definitions in " ++ path
  | noDefinitions path => path ++ " does not define a register(mapper) function"
  | notDocument kind => "a bytes-like object is required, not '" ++ kind ++ "'"
  | notNamespaces kind => "'" ++ kind ++ "' object is not a mapping"
  | notKey kind => "unhashable type: '" ++ kind ++ "'"
  | notFolder kind => "'" ++ kind ++ "' is no directory"
  | extraArguments reader most given =>
    reader ++ "() takes from 2 to " ++ Nat.repr (most + 2) ++ " positional arguments but " ++ Nat.repr (given + 2)
      ++ " were given"
  | notWritable kind => "Object of type " ++ kind ++ " is not JSON serializable"
  | notText change kind =>
    "descriptor '" ++ change ++ "' for 'str' objects doesn't apply to a '" ++ kind ++ "' object"
  | noItems => "can only join an iterable"
  | notTextItem index kind =>
    "sequence item " ++ Nat.repr index ++ ": expected str instance, " ++ kind ++ " found"
  | noLength kind => "object of type '" ++ kind ++ "' has no len()"
  | noCapability kind capability => "'" ++ kind ++ "' object has no attribute '" ++ capability ++ "'"
  | notCallable kind => "'" ++ kind ++ "' object is not callable"
  | notClass name kind => name ++ " must be set to a class, not '" ++ kind ++ "' object"
  | notMapping name kind => name ++ " must be set to a dictionary, not a '" ++ kind ++ "'"
  | notWritableProperty name cls => "attribute '" ++ name ++ "' of '" ++ cls ++ "' objects is not writable"
  | noProperties kind => "'" ++ kind ++ "' has no properties"
  | outOfRange => "index out of range"
  | notFound => "not in list"
  | missingFile path => "No such file or directory: " ++ quoted path
  | isDirectory path => "Is a directory: " ++ quoted path
  | notDirectory path => "Not a directory: " ++ quoted path
  | nameTooLong path => "File name too long: " ++ quoted path
  | zeroByte => "embedded null byte"
  | fileExists path => "File exists: " ++ quoted path
  | notBelow path root => quoted path ++ " is not in the subpath of " ++ quoted root

/-- a failure that stops a batch: something was asked that the format does not support -/
def stopsBatch : Failure → Bool
  | noAttributes _ => true
  | unsupportedValue _ => true
  | _ => false

end Failure

theorem Failure.eq_ok_of_toOption {α : Type} {x : Except Failure α} {a : α} (h : x.toOption = some a) : x = .ok a := by
  cases x with
  | error e => cases h
  | ok b => exact congrArg Except.ok (Option.some.inj h)

end Harvest
