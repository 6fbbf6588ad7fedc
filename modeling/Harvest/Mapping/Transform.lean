/-
Functions that a property's value goes through before it is assigned. Any function of data that may fail is one; the named
ones are those that descriptions of mappings know.
-/
import Harvest.Data.Display
import Harvest.Data.Equality
import Harvest.Failure
import Harvest.Text.Case

namespace Harvest

open Harvest.Text

/-- a function of a value, under the name that it is reported by -/
structure Transform where
  name : String
  apply : Data → Except Failure Data

namespace Transform

/-- the texts in a list of data, the first of which has the index `i` -/
def textsFrom (i : Nat) : List Data → Except Failure (List String)
  | [] => .ok []
  | .str s :: rest => (textsFrom (i + 1) rest).map (s :: ·)
  | d :: _ => .error (.notTextItem i d.kindName)

/-- the texts that data is joined from: characters, items or keys -/
def parts : Data → Except Failure (List String)
  | .str s => .ok (s.toList.map fun c => String.ofList [c])
  | .list items => textsFrom 0 items
  | .dict entries => .ok (Entries.keys entries)
  | .bytes [] => .ok []
  | .bytes (_ :: _) => .error (.notTextItem 0 (Data.int 0).kindName)
  | _ => .error .noItems

/-- how many parts data has -/
def lengthOf : Data → Except Failure Nat
  | .str s => .ok s.length
  | .list items => .ok items.length
  | .dict entries => .ok entries.length
  | .bytes bs => .ok bs.length
  | d => .error (.noLength d.kindName)

/-- change the case of a text -/
def changeCase (label : String) (change : String → String) : Data → Except Failure Data
  | .str s => .ok (.str (change s))
  | d => .error (.notText label d.kindName)

/-! ## Named transforms -/

def lower : Transform := ⟨"lower", changeCase "lower" lowerCase⟩

def upper : Transform := ⟨"upper", changeCase "upper" upperCase⟩

def join (separator : String) : Transform := ⟨"join", fun d => (parts d).map fun ps => .str (separator.intercalate ps)⟩

def length : Transform := ⟨"len", fun d => (lengthOf d).map fun n => .int n⟩

def wrap : Transform := ⟨"wrap", fun d => .ok (.list [d])⟩

def kind : Transform := ⟨"type", fun d => .ok (.str d.kindName)⟩

def null : Transform := ⟨"null", fun _ => .ok .null⟩

def const (c : Data) : Transform := ⟨"const", fun _ => .ok c⟩

def fail : Transform := ⟨"fail", fun d => .error (.unhandledValue d.text)⟩

def failIf (c : Data) : Transform := ⟨"fail_if", fun d => if d.same c then .error (.unhandledValue d.text) else .ok d⟩

def unsupported : Transform := ⟨"unsupported", fun d => .error (.unsupportedValue d.text)⟩

instance : Inhabited Transform := ⟨null⟩

end Transform

end Harvest
