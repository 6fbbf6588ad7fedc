/-
Plain data: what a decoded document, a literal, a property and a table cell hold. A mapping keeps its entries in the order
they were put in, and an object is a class with properties in the order of their first assignment.

Entry lists behave as maps: `put` keeps one entry for each key, at the place of the first.
-/
import Harvest.Number.Binary64

namespace Harvest

/-- a class of domain objects, which start without properties; the objects of a `bag` class are compared and converted by their
properties -/
structure ObjectClass where
  name : String
  bag : Bool := true
  deriving DecidableEq, Repr, Inhabited

inductive Data where
  | null
  | bool (b : Bool)
  | int (n : Int)
  | float (x : Number.Binary64)
  | str (s : String)
  | bytes (bs : List UInt8)
  | list (items : List Data)
  | dict (entries : List (String × Data))
  | object (cls : ObjectClass) (properties : List (String × Data))
  deriving Inhabited

namespace Data

/-- data that stands for nothing -/
def isEmpty : Data → Bool
  | null => true
  | bool b => !b
  | int n => n == 0
  | float x => x.numericEq (Number.Binary64.zero false)
  | str s => s == ""
  | bytes bs => bs.isEmpty
  | list items => items.isEmpty
  | dict entries => entries.isEmpty
  | object _ _ => false

end Data

namespace Entries

variable {α : Type}

/-- set the value of a key: in place if the key is there, else at the end -/
def put : List (String × α) → String → α → List (String × α)
  | [], k, v => [(k, v)]
  | e :: es, k, v => if e.1 == k then (k, v) :: es else e :: put es k v

/-- put the given entries one after the other -/
def ofList (entries : List (String × α)) : List (String × α) :=
  entries.foldl (fun es e => put es e.1 e.2) []

def keys (es : List (String × α)) : List String :=
  es.map Prod.fst

theorem lookup_put_self (es : List (String × α)) (k : String) (v : α) : (put es k v).lookup k = some v := by
  induction es with
  | nil => simp [put]
  | cons e es ih =>
    obtain ⟨k₀, v₀⟩ := e
    by_cases h : k₀ = k
    · simp [put, h]
    · simp [put, h, List.lookup_cons, beq_eq_false_iff_ne.2 (Ne.symm h), ih]

theorem lookup_put_of_ne (es : List (String × α)) {k k' : String} (v : α) (h : k' ≠ k) :
    (put es k v).lookup k' = es.lookup k' := by
  induction es with
  | nil => simp [put, List.lookup_cons, beq_eq_false_iff_ne.2 h]
  | cons e es ih =>
    obtain ⟨k₀, v₀⟩ := e
    by_cases he : k₀ = k
    · simp [put, he, List.lookup_cons, beq_eq_false_iff_ne.2 h]
    · by_cases hk : k' = k₀
      · subst hk
        simp [put, he]
      · simp [put, he, List.lookup_cons, beq_eq_false_iff_ne.2 hk, ih]

theorem keys_put (es : List (String × α)) (k : String) (v : α) :
    keys (put es k v) = if k ∈ keys es then keys es else keys es ++ [k] := by
  induction es with
  | nil => simp [put, keys]
  | cons e es ih =>
    by_cases h : e.1 = k
    · simp [put, keys, h]
    · have hk : ¬k = e.1 := fun hk => h hk.symm
      simp only [keys] at ih
      by_cases hm : k ∈ List.map Prod.fst es <;> simp_all [put, keys]

theorem nodup_keys_put {es : List (String × α)} (h : (keys es).Nodup) (k : String) (v : α) :
    (keys (put es k v)).Nodup := by
  rw [keys_put]
  split
  · exact h
  · rename_i absent
    refine List.nodup_append.2 ⟨h, by simp, ?_⟩
    intro a ha b hb
    obtain rfl := List.mem_singleton.1 hb
    exact fun same => absent (same ▸ ha)

/-- no key is there twice, however often it was put -/
theorem nodup_keys_ofList (entries : List (String × α)) : (keys (ofList entries)).Nodup := by
  have h : ∀ (more es : List (String × α)), (keys es).Nodup →
      (keys (more.foldl (fun es e => put es e.1 e.2) es)).Nodup := by
    intro more
    induction more with
    | nil => exact fun _ h => h
    | cons e more ih => exact fun es h => ih _ (nodup_keys_put h e.1 e.2)
  exact h entries [] List.nodup_nil

end Entries

end Harvest
