/-
Moving inside a tree of plain data. Every move also gives the place of what it finds, as the indices that lead to it: an
item has its index in the list, an entry its index in the mapping.
-/
import Harvest.Data.Basic

namespace Harvest.Data

/-- the items of a list with their indices -/
def numbered {α : Type} (items : List α) : List (Nat × α) :=
  items.zipIdx.map Prod.swap

mutual

/-- the first leaf of nested lists, in order; data that is no list is its own leaf -/
def firstLeaf? : Data → Option (List Nat × Data)
  | list items => firstLeafFrom? 0 items
  | d => some ([], d)

def firstLeafFrom? (i : Nat) : List Data → Option (List Nat × Data)
  | [] => none
  | x :: xs =>
    match firstLeaf? x with
    | some (place, d) => some (i :: place, d)
    | none => firstLeafFrom? (i + 1) xs

end

def isNull : Data → Bool
  | null => true
  | _ => false

def isFloat : Data → Bool
  | float _ => true
  | _ => false

/-- the items of a list; null items are left out -/
def elements (items : List Data) : List (List Nat × Data) :=
  ((numbered items).filter fun e => !e.2.isNull).map fun e => ([e.1], e.2)

/-- the value of a key, spread out if it is a list; null is left out -/
def spread (place : List Nat) : Data → List (List Nat × Data)
  | list items => ((numbered items).filter fun e => !e.2.isNull).map fun e => (place ++ [e.1], e.2)
  | d => if d.isNull then [] else [(place, d)]

/-- the children under a key; a list is looked up through its first leaf -/
def childrenNamed (d : Data) (name : String) : List (List Nat × Data) :=
  match d.firstLeaf? with
  | some (place, dict entries) =>
    match (numbered entries).find? fun e => e.2.1 == name with
    | some (i, _, child) => spread (place ++ [i]) child
    | none => []
  | _ => []

/-- the keys of a mapping -/
def childNames : Data → List String
  | dict entries => Entries.keys entries
  | _ => []

/-- data that counts as a value: not null, not a mapping, not an empty list or text -/
def hasValue : Data → Bool
  | null => false
  | dict _ => false
  | list items => !items.isEmpty
  | str s => s != ""
  | _ => true

end Harvest.Data
