/-
Entries that are put one after the other. Of a repeated key the last value counts, at the place of the first.

- `lookup_ofList`: the value of a key is the last one that was put.
- `keys_ofList`: the keys stand in the order in which each was put first.
- `ofList_perm`: putting entries in another order that keeps the order of those with the same key gives the same entries, up
  to their order.
-/
import Harvest.Data.Basic
import Mathlib.Data.List.Induction
import Mathlib.Data.List.Nodup
import Mathlib.Data.List.Perm.Basic

namespace Harvest.Entries

variable {α : Type}

theorem ofList_append_singleton (es : List (String × α)) (e : String × α) :
    ofList (es ++ [e]) = put (ofList es) e.1 e.2 := by
  rw [ofList, List.foldl_append]
  rfl

/-- a key that is not there comes last -/
theorem put_of_absent {es : List (String × α)} {k : String} (absent : k ∉ keys es) (v : α) : put es k v = es ++ [(k, v)] := by
  induction es with
  | nil => rfl
  | cons e es ih =>
    obtain ⟨hfirst, hrest⟩ := not_or.1 (mt List.mem_cons.2 absent)
    have hne : (e.1 == k) = false := beq_eq_false_iff_ne.2 (Ne.symm hfirst)
    rw [put, hne, ih hrest]
    rfl

/-- the last value that was put for a key counts -/
theorem lookup_ofList (es : List (String × α)) (k : String) : (ofList es).lookup k = es.reverse.lookup k := by
  induction es using List.reverseRecOn with
  | nil => rfl
  | append_singleton es e ih =>
    rw [ofList_append_singleton, List.reverse_append, List.reverse_singleton, List.singleton_append]
    obtain ⟨key, v⟩ := e
    by_cases h : k = key
    · rw [h, lookup_put_self, List.lookup_cons_self]
    · rw [lookup_put_of_ne _ _ h, ih, List.lookup_cons, beq_eq_false_iff_ne.2 h]

/-- keys stand in the order in which each was put first -/
theorem keys_ofList (es : List (String × α)) : keys (ofList es) = (keys es).eraseDups := by
  induction es using List.reverseRecOn with
  | nil => rfl
  | append_singleton es e ih =>
    have hkeys : keys (es ++ [e]) = keys es ++ [e.1] := List.map_append
    rw [ofList_append_singleton, keys_put, ih, hkeys, List.eraseDups_append]
    by_cases h : e.1 ∈ keys es
    · simp [h, List.removeAll]
    · simp [h, List.removeAll, List.eraseDups_cons]

/-- what is true of all entries that are put is true of those that are kept -/
theorem forall_mem_put {P : String × α → Prop} {es : List (String × α)} {k : String} {v : α}
    (hes : ∀ e ∈ es, P e) (h : P (k, v)) : ∀ e ∈ put es k v, P e := by
  induction es with
  | nil => simpa [put] using h
  | cons first rest ih =>
    obtain ⟨hfirst, hrest⟩ := List.forall_mem_cons.1 hes
    rw [put]
    split
    · exact List.forall_mem_cons.2 ⟨h, hrest⟩
    · exact List.forall_mem_cons.2 ⟨hfirst, ih hrest⟩

theorem forall_mem_ofList {P : String × α → Prop} {es : List (String × α)} (h : ∀ e ∈ es, P e) :
    ∀ e ∈ ofList es, P e := by
  induction es using List.reverseRecOn with
  | nil => exact h
  | append_singleton es e ih =>
    rw [ofList_append_singleton]
    exact forall_mem_put (ih fun x hx => h x (List.mem_append_left _ hx)) (h e (by simp))

/-- entries without repeated keys are put as they stand -/
theorem ofList_of_nodup {es : List (String × α)} (distinct : (keys es).Nodup) : ofList es = es := by
  induction es using List.reverseRecOn with
  | nil => rfl
  | append_singleton es e ih =>
    have hkeys : keys (es ++ [e]) = keys es ++ [e.1] := List.map_append
    rw [hkeys] at distinct
    obtain ⟨hes, -, apart⟩ := List.nodup_append.1 distinct
    have absent : e.1 ∉ keys es := fun h => apart e.1 h e.1 (List.mem_singleton.2 rfl) rfl
    rw [ofList_append_singleton, ih hes, put_of_absent absent]

/-! ## Keys without repetition -/

theorem mem_of_lookup {es : List (String × α)} {k : String} {v : α} (h : es.lookup k = some v) : (k, v) ∈ es := by
  obtain ⟨before, after, rfl, -⟩ := List.lookup_eq_some_iff.1 h
  exact List.mem_append_right _ List.mem_cons_self

theorem lookup_of_mem {es : List (String × α)} (distinct : (keys es).Nodup) {k : String} {v : α} (h : (k, v) ∈ es) :
    es.lookup k = some v := by
  induction es with
  | nil => cases h
  | cons e es ih =>
    obtain ⟨key, w⟩ := e
    obtain ⟨absent, distinct⟩ := List.nodup_cons.1 distinct
    rcases List.mem_cons.1 h with same | later
    · cases same
      exact List.lookup_cons_self
    · have hk : k ≠ key := by
        intro same
        exact absent (List.mem_map.2 ⟨(k, v), later, same⟩)
      rw [List.lookup_cons, beq_eq_false_iff_ne.2 hk]
      exact ih distinct later

theorem isSome_lookup_iff {es : List (String × α)} {k : String} : (es.lookup k).isSome ↔ k ∈ keys es := by
  induction es with
  | nil => simp [keys]
  | cons e es ih =>
    obtain ⟨key, v⟩ := e
    by_cases hk : k = key
    · simp [hk, keys]
    · have := ih
      simp only [keys] at this
      simp [List.lookup_cons, beq_eq_false_iff_ne.2 hk, keys, hk, this]

theorem nodup_of_nodup_keys {es : List (String × α)} (distinct : (keys es).Nodup) : es.Nodup :=
  List.Nodup.of_map Prod.fst distinct

/-- entries without repeated keys are the same up to order if every key has the same value -/
theorem perm_of_lookup_eq {es fs : List (String × α)} (hes : (keys es).Nodup) (hfs : (keys fs).Nodup)
    (same : ∀ k, es.lookup k = fs.lookup k) : es.Perm fs := by
  refine (List.perm_ext_iff_of_nodup (nodup_of_nodup_keys hes) (nodup_of_nodup_keys hfs)).2 ?_
  rintro ⟨k, v⟩
  constructor
  · intro h
    exact mem_of_lookup (same k ▸ lookup_of_mem hes h)
  · intro h
    exact mem_of_lookup ((same k).symm ▸ lookup_of_mem hfs h)

/-! ## The order of putting -/

/-- only the entries of a key matter for its value -/
theorem lookup_filter_key (es : List (String × α)) (k : String) :
    (es.filter fun e => e.1 == k).lookup k = es.lookup k := by
  induction es with
  | nil => rfl
  | cons e es ih =>
    obtain ⟨key, v⟩ := e
    by_cases h : key = k
    · simp [h]
    · have hk : ¬k = key := fun same => h same.symm
      simp [h, ih, List.lookup_cons, beq_eq_false_iff_ne.2 hk]

theorem lookup_ofList_congr {es fs : List (String × α)} {k : String}
    (h : (es.filter fun e => e.1 == k) = fs.filter fun e => e.1 == k) : (ofList es).lookup k = (ofList fs).lookup k := by
  rw [lookup_ofList, lookup_ofList, ← lookup_filter_key es.reverse, ← lookup_filter_key fs.reverse, List.filter_reverse,
    List.filter_reverse, h]

theorem ofList_perm {es fs : List (String × α)}
    (h : ∀ k, (es.filter fun e => e.1 == k) = fs.filter fun e => e.1 == k) : (ofList es).Perm (ofList fs) :=
  perm_of_lookup_eq (nodup_keys_ofList es) (nodup_keys_ofList fs) fun k => lookup_ofList_congr (h k)

end Harvest.Entries
