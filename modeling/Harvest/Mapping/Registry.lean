/-
Mappings by name. A name is registered once and for all; the names are listed in alphabetical order.
-/
import Harvest.Mapping.Basic

namespace Harvest

/-- registered mappings in the order of their registration -/
structure Registry where
  entries : List (String × Mapping)
  distinct : (Entries.keys entries).Nodup

namespace Registry

def empty : Registry := ⟨[], List.nodup_nil⟩

instance : Inhabited Registry := ⟨empty⟩

def find? (r : Registry) (name : String) : Option Mapping :=
  r.entries.lookup name

def contains (r : Registry) (name : String) : Bool :=
  (r.find? name).isSome

def size (r : Registry) : Nat :=
  r.entries.length

/-- the registered names, in alphabetical order -/
def names (r : Registry) : List String :=
  (Entries.keys r.entries).mergeSort fun a b => decide (a ≤ b)

/-- the mapping with a name -/
def get (r : Registry) (name : String) : Except Failure Mapping :=
  match r.find? name with
  | some m => .ok m
  | none => .error (.unknownMapping name r.names)

theorem find?_eq_none_iff {r : Registry} {name : String} : r.find? name = none ↔ name ∉ Entries.keys r.entries := by
  unfold find?
  induction r.entries with
  | nil => simp [Entries.keys]
  | cons e es ih =>
    obtain ⟨key, m⟩ := e
    by_cases h : name = key
    · simp [Entries.keys, h]
    · simp [List.lookup_cons, Entries.keys, h, beq_eq_false_iff_ne.2 h] at ih ⊢
      exact ih

/-- add a mapping under a name that is free -/
def add (r : Registry) (name : String) (m : Mapping) (free : r.find? name = none) : Registry where
  entries := r.entries ++ [(name, m)]
  distinct := by
    have h := find?_eq_none_iff.1 free
    simp only [Entries.keys, List.map_append, List.map_cons, List.map_nil] at h ⊢
    exact List.nodup_append.2 ⟨r.distinct, by simp, by simp; exact fun a b hb e => h (by simp [← e]; exact ⟨b, hb⟩)⟩

/-- register a mapping, unless its name is taken -/
def register (r : Registry) (name : String) (m : Mapping) : Run Registry :=
  if free : r.find? name = none then ⟨[.registered name m.cls], .ok (r.add name m free)⟩
  else ⟨[], .error (.duplicateMapping name)⟩

end Registry

end Harvest
