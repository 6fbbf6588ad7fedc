/-
What is read from a JSON text. A tree that is read is made of null, truth values, numbers, texts, lists and mappings, and each
mapping has each key once: of a repeated key the last value is kept.

- `all_of_read_text`: what holds of such parts holds of every part of the tree that a text writes.
- `met_hasEachKeyOnce`, `met_isJsonPart`: such parts have each key once, and are no bytes and no objects.
-/
import Harvest.Proofs.Data.Entries
import Harvest.Proofs.Data.Parts
import Harvest.Proofs.Json.Steps

namespace Harvest.Json

/-- a condition that all parts meet that a reader can make -/
structure MetByReading (p : Data → Bool) : Prop where
  null : p .null = true
  bool : ∀ b, p (.bool b) = true
  int : ∀ n, p (.int n) = true
  float : ∀ x, p (.float x) = true
  str : ∀ s, p (.str s) = true
  list : ∀ items, p (.list items) = true
  dict : ∀ entries, (Entries.keys entries).Nodup → p (.dict entries) = true

variable {p : Data → Bool} (met : MetByReading p)

include met

theorem all_of_readScalar {cs rest : List Char} {d : Data} (h : readScalar cs = .ok (d, rest)) : d.all p = true := by
  unfold readScalar at h
  split at h
  · rename_i found hword
    cases h
    obtain ⟨w, hw, hfound⟩ := List.exists_of_findSome?_eq_some hword
    have hwords : ∀ w ∈ words, w.2.all p = true := by
      simp [words, Data.all, met.null, met.bool, met.float]
    split at hfound
    · cases hfound
      exact hwords w hw
    · cases hfound
  · split at h
    · cases h
      unfold numeralValue
      split
      · exact met.int _
      · exact met.float _
    · cases h

/-- the induction is on the fuel that the three readers hand to each other -/
theorem all_of_read (fuel : Nat) :
    (∀ cs d rest, readValue fuel cs = .ok (d, rest) → d.all p = true) ∧
    (∀ cs items rest, readItems fuel cs = .ok (items, rest) → ∀ d ∈ items, d.all p = true) ∧
    (∀ cs entries rest, readEntries fuel cs = .ok (entries, rest) → ∀ e ∈ entries, e.2.all p = true) := by
  induction fuel with
  | zero =>
    refine ⟨fun cs d rest h => ?_, fun cs items rest h => ?_, fun cs entries rest h => ?_⟩
    · cases h
    · cases h
    · cases h
  | succ fuel ih =>
    obtain ⟨ihValue, ihItems, ihEntries⟩ := ih
    refine ⟨fun cs d rest h => ?_, fun cs items rest h => ?_, fun cs entries rest h => ?_⟩
    · cases readValue_iff.1 h with
      | str => exact met.str _
      | list inside =>
        cases inside with
        | empty => exact Data.all_list_iff.2 ⟨met.list _, by simp⟩
        | parts _ items => exact Data.all_list_iff.2 ⟨met.list _, ihItems _ _ _ items⟩
      | dict inside =>
        cases inside with
        | empty => exact Data.all_dict_iff.2 ⟨met.dict _ (Entries.nodup_keys_ofList []), List.forall_mem_nil _⟩
        | parts _ entries =>
          exact Data.all_dict_iff.2 ⟨met.dict _ (Entries.nodup_keys_ofList _),
            Entries.forall_mem_ofList (ihEntries _ _ _ entries)⟩
      | scalar _ scalar => exact all_of_readScalar met scalar
    · obtain ⟨item, after, hitem, continues⟩ := readItems_iff.1 h
      have hfirst := ihValue _ _ _ hitem
      cases continues with
      | last => exact List.forall_mem_singleton.2 hfirst
      | more _ others => exact List.forall_mem_cons.2 ⟨hfirst, ihItems _ _ _ others⟩
    · obtain ⟨_, key, _, _, _, value, -, -, -, hvalue, continues⟩ := readEntries_iff.1 h
      have hfirst := ihValue _ _ _ hvalue
      cases continues with
      | last => exact List.forall_mem_singleton.2 hfirst
      | more _ others => exact List.forall_mem_cons.2 ⟨hfirst, ihEntries _ _ _ others⟩

/-- what a text writes meets the condition in all its parts -/
theorem all_of_read_text {text : String} {d : Data} (h : read text = .ok d) : d.all p = true := by
  obtain ⟨-, rest, hvalue, -⟩ := readText_ok_iff.1 (read_ok_iff.1 h)
  exact (all_of_read met _).1 _ _ _ hvalue

omit met

theorem met_hasEachKeyOnce : MetByReading Data.hasEachKeyOnce :=
  ⟨rfl, fun _ => rfl, fun _ => rfl, fun _ => rfl, fun _ => rfl, fun _ => rfl, fun _ distinct => decide_eq_true distinct⟩

theorem met_isJsonPart : MetByReading Data.isJsonPart :=
  ⟨rfl, fun _ => rfl, fun _ => rfl, fun _ => rfl, fun _ => rfl, fun _ => rfl, fun _ _ => rfl⟩

end Harvest.Json
