/-
Elements of an XML document. A tag or an attribute name in a namespace is written `{uri}local`. The text before the first
child stands in `text`, the text after an element and before the next one in that element's `tail`.

`value` is the text of an element for reading: its text runs stripped of blank characters at both ends, the empty ones left
out, joined by single spaces.
-/
import Harvest.Text.Blank

namespace Harvest.Xml

open Harvest.Text

inductive Element where
  | mk (tag : String) (attributes : List (String × String)) (text : String) (children : List Element) (tail : String)
  deriving Inhabited

namespace Element

def tag : Element → String
  | mk t _ _ _ _ => t

def attributes : Element → List (String × String)
  | mk _ as _ _ _ => as

def text : Element → String
  | mk _ _ t _ _ => t

def children : Element → List Element
  | mk _ _ _ cs _ => cs

def tail : Element → String
  | mk _ _ _ _ t => t

mutual

/-- the text runs of an element in document order, its own tail left out -/
def texts : Element → List String
  | mk _ _ text children _ => text :: textsOf children

/-- the text runs of elements in order, each followed by its tail -/
def textsOf : List Element → List String
  | [] => []
  | mk tag as text children tail :: rest => texts (mk tag as text children tail) ++ tail :: textsOf rest

end

/-- the non-empty stripped texts, joined by single spaces -/
def joinTexts (runs : List String) : String :=
  " ".intercalate ((runs.map strip).filter (· != ""))

/-- the text of an element for reading -/
def value (e : Element) : String :=
  if e.children.isEmpty then strip e.text else joinTexts e.texts

/-- the text before the first child is not blank -/
def hasText (e : Element) : Bool :=
  strip e.text != ""

/-- an element that stands for a missing one -/
def missing : Element :=
  mk "empty" [] "" [] ""

end Element

end Harvest.Xml
