/-
Conditions on every part of a tree of plain data, and those that every document meets.

A mapping that a program holds has each of its keys once. That is a condition on data here, since entries are lists; whatever is
put entry by entry meets it.
-/
import Harvest.Data.Basic

namespace Harvest.Data

mutual

/-- the condition holds of the data and of all items and values inside it, at any depth -/
def all (p : Data → Bool) : Data → Bool
  | list items => p (list items) && allItems p items
  | dict entries => p (dict entries) && allEntries p entries
  | d => p d

def allItems (p : Data → Bool) : List Data → Bool
  | [] => true
  | x :: xs => x.all p && allItems p xs

def allEntries (p : Data → Bool) : List (String × Data) → Bool
  | [] => true
  | (_, x) :: es => x.all p && allEntries p es

end

variable {p : Data → Bool}

theorem allItems_iff {items : List Data} : allItems p items = true ↔ ∀ d ∈ items, d.all p = true := by
  induction items with
  | nil => simp [allItems]
  | cons x xs ih => simp [allItems, ih]

theorem allEntries_iff {entries : List (String × Data)} : allEntries p entries = true ↔ ∀ e ∈ entries, e.2.all p = true := by
  induction entries with
  | nil => simp [allEntries]
  | cons e es ih => simp [allEntries, ih]

theorem all_list_iff {items : List Data} :
    (list items).all p = true ↔ p (list items) = true ∧ ∀ d ∈ items, d.all p = true := by
  rw [all, Bool.and_eq_true, allItems_iff]

theorem all_dict_iff {entries : List (String × Data)} :
    (dict entries).all p = true ↔ p (dict entries) = true ∧ ∀ e ∈ entries, e.2.all p = true := by
  rw [all, Bool.and_eq_true, allEntries_iff]

theorem of_all {d : Data} (h : d.all p = true) : p d = true := by
  cases d with
  | list items => exact (all_list_iff.1 h).1
  | dict entries => exact (all_dict_iff.1 h).1
  | _ => exact h

/-! ## Keys -/

/-- a mapping has each key once -/
def hasEachKeyOnce : Data → Bool
  | dict entries => decide (Entries.keys entries).Nodup
  | _ => true

/-- every mapping in the tree has each key once -/
def isKeyed (d : Data) : Bool :=
  d.all hasEachKeyOnce

theorem isKeyed_dict_iff {entries : List (String × Data)} :
    (dict entries).isKeyed = true ↔ (Entries.keys entries).Nodup ∧ ∀ e ∈ entries, e.2.isKeyed = true := by
  simp [isKeyed, all_dict_iff, hasEachKeyOnce]

/-! ## Kinds -/

/-- what a JSON text can write: no bytes and no object -/
def isJsonPart : Data → Bool
  | bytes _ | object _ _ => false
  | _ => true

/-- a tree of null, truth values, numbers, texts, lists and mappings -/
def isJson (d : Data) : Bool :=
  d.all isJsonPart

theorem isJson_list_iff {items : List Data} : (list items).isJson = true ↔ ∀ d ∈ items, d.isJson = true := by
  simp [isJson, all_list_iff, isJsonPart]

theorem isJson_dict_iff {entries : List (String × Data)} :
    (dict entries).isJson = true ↔ ∀ e ∈ entries, e.2.isJson = true := by
  simp [isJson, all_dict_iff, isJsonPart]

end Harvest.Data
