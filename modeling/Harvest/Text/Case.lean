/-
Changing the case of a text, character by character: by the runs of `CaseTable`, by an expansion where one character
becomes several, and for a capital sigma by what surrounds it.
-/
import Harvest.Text.CaseTable

namespace Harvest.Text

/-- the image of a code point under an expansion or a run, itself where neither applies -/
def mapCase (expansions : List (Nat × List Nat)) (runs : List CaseRun) (c : Char) : List Char :=
  match expansions.lookup c.toNat with
  | some codes => codes.map Char.ofNat
  | none => [((runs.findSome? fun run => run.apply? c.toNat).map Char.ofNat).getD c]

def upperChar : Char → List Char := mapCase upperExpansions upperRuns

def lowerChar : Char → List Char := mapCase lowerExpansions lowerRuns

/-- the nearest character that is not skipped is a letter with a case -/
def meetsCased (cs : List Char) : Bool :=
  match cs.dropWhile fun c => inRanges caseIgnorable c.toNat with
  | [] => false
  | c :: _ => inRanges cased c.toNat

/-- lower case of what follows `before`, which is given from its last character to its first -/
def lowerFrom : List Char → List Char → List Char
  | _, [] => []
  | before, c :: rest =>
    let image := if c == 'Σ' then [if meetsCased before && !meetsCased rest then 'ς' else 'σ'] else lowerChar c
    image ++ lowerFrom (c :: before) rest

/-- the text in lower case; a sigma that ends a word takes its final shape -/
def lowerCase (s : String) : String :=
  String.ofList (lowerFrom [] s.toList)

/-- the text in upper case -/
def upperCase (s : String) : String :=
  String.ofList (s.toList.flatMap upperChar)

end Harvest.Text
