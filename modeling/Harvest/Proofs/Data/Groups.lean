/-
Groups: entries that hold lists, and whose items know the key that they are under. With all keys different, the keys alone give
the groups back, in the order of the items.

- `filter_groups`: the items that name a key are its group.
- `flatMap_lookup_groups`: looking up some of the groups in turn gives their items.
- `flatMap_lookup_eraseDups`: so does looking up the keys that items name, each once.
- `perm_byKey`: items key by key are all the items.
-/
import Harvest.Proofs.Data.Entries

namespace Harvest.Entries

variable {α : Type} {key : α → String} {groups : List (String × List α)}

/-- the items that name a key are its group -/
theorem filter_groups (distinct : (keys groups).Nodup) (named : ∀ g ∈ groups, ∀ a ∈ g.2, key a = g.1) (k : String) :
    ((groups.flatMap Prod.snd).filter fun a => key a == k) = (groups.lookup k).getD [] := by
  induction groups with
  | nil => rfl
  | cons g rest ih =>
    obtain ⟨name, items⟩ := g
    obtain ⟨absent, distinct⟩ := List.nodup_cons.1 distinct
    have hitems : ∀ a ∈ items, key a = name := named (name, items) List.mem_cons_self
    have hrest := ih distinct fun g hg => named g (List.mem_cons_of_mem _ hg)
    rw [List.flatMap_cons, List.filter_append, hrest]
    by_cases hk : k = name
    · have hnone : rest.lookup name = none := by
        rw [← Option.not_isSome_iff_eq_none, isSome_lookup_iff]
        exact absent
      have hall : (items.filter fun a => key a == name) = items :=
        List.filter_eq_self.2 fun a ha => beq_iff_eq.2 (hitems a ha)
      rw [hk, List.lookup_cons_self, hnone, hall]
      exact List.append_nil items
    · have hnil : (items.filter fun a => key a == k) = [] := by
        refine List.filter_eq_nil_iff.2 fun a ha same => hk ?_
        rw [← hitems a ha, beq_iff_eq.1 same]
      rw [List.lookup_cons, beq_eq_false_iff_ne.2 hk, hnil]
      rfl

/-- looking up some of the groups in turn gives their items -/
theorem flatMap_lookup_groups (distinct : (keys groups).Nodup) {chosen : List (String × List α)}
    (among : ∀ g ∈ chosen, g ∈ groups) :
    ((keys chosen).flatMap fun k => (groups.lookup k).getD []) = chosen.flatMap Prod.snd := by
  rw [keys, List.flatMap_map]
  refine List.flatMap_congr fun g hg => ?_
  rw [lookup_of_mem distinct (among g hg)]
  rfl

theorem eraseDups_replicate {k : String} {n : Nat} (h : n ≠ 0) : (List.replicate n k).eraseDups = [k] := by
  obtain ⟨m, rfl⟩ := Nat.exists_eq_succ_of_ne_zero h
  rw [List.replicate_succ, List.eraseDups_cons, List.filter_replicate]
  simp

/-- the keys that items name, each once, are those of the groups that are not empty -/
theorem eraseDups_groups (distinct : (keys groups).Nodup) (named : ∀ g ∈ groups, ∀ a ∈ g.2, key a = g.1) :
    ((groups.flatMap Prod.snd).map key).eraseDups = keys (groups.filter fun g => !g.2.isEmpty) := by
  induction groups with
  | nil => rfl
  | cons g rest ih =>
    obtain ⟨name, items⟩ := g
    obtain ⟨absent, distinct⟩ := List.nodup_cons.1 distinct
    have hitems : ∀ a ∈ items, key a = name := named (name, items) List.mem_cons_self
    have hlater : ∀ g ∈ rest, ∀ a ∈ g.2, key a = g.1 := fun g hg => named g (List.mem_cons_of_mem _ hg)
    have hrest := ih distinct hlater
    have hkeys : items.map key = List.replicate items.length name := List.map_eq_replicate_iff.2 hitems
    rw [List.flatMap_cons, List.map_append, hkeys]
    cases items with
    | nil => exact hrest
    | cons a more =>
      have hremove : ((rest.flatMap Prod.snd).map key).removeAll (List.replicate (a :: more).length name) =
          (rest.flatMap Prod.snd).map key := by
        refine List.filter_eq_self.2 fun k hk => ?_
        obtain ⟨b, hb, rfl⟩ := List.mem_map.1 hk
        obtain ⟨g, hg, hbg⟩ := List.mem_flatMap.1 hb
        have hne : key b ≠ name := by
          intro same
          exact absent (List.mem_map.2 ⟨g, hg, (hlater g hg b hbg).symm.trans same⟩)
        simp [hne]
      rw [List.eraseDups_append, hremove, hrest, eraseDups_replicate (by simp)]
      rfl

/-- looking up the keys that items name, each once, gives the items -/
theorem flatMap_lookup_eraseDups (distinct : (keys groups).Nodup) (named : ∀ g ∈ groups, ∀ a ∈ g.2, key a = g.1) :
    (((groups.flatMap Prod.snd).map key).eraseDups.flatMap fun k => (groups.lookup k).getD []) =
      groups.flatMap Prod.snd := by
  rw [eraseDups_groups distinct named, flatMap_lookup_groups distinct fun g hg => List.mem_of_mem_filter hg,
    List.flatMap_def, List.flatMap_def, ← List.flatten_filter_not_isEmpty (L := groups.map Prod.snd), List.filter_map]
  rfl

/-! ## Items key by key -/

/-- the items with each key in turn, the keys in order of first appearance -/
def byKey {α : Type} (key : α → String) (items : List α) : List α :=
  (items.map key).eraseDups.flatMap fun k => items.filter fun a => key a == k

/-- items key by key are all the items, each as often as it was there -/
theorem perm_byKey (key : α → String) : ∀ items : List α, (byKey key items).Perm items
  | [] => .refl []
  | a :: rest => by
    have hothers : ((rest.map key).filter fun k => !k == key a) = (rest.filter fun b => !key b == key a).map key := by
      rw [List.filter_map]
      rfl
    have hlater : ((a :: rest).map key).eraseDups.flatMap (fun k => (a :: rest).filter fun b => key b == k) =
        ((a :: rest).filter fun b => key b == key a) ++ byKey key (rest.filter fun b => !key b == key a) := by
      rw [List.map_cons, List.eraseDups_cons, List.flatMap_cons, hothers, byKey]
      refine congrArg _ (List.flatMap_congr fun k hk => ?_)
      obtain ⟨b, hb, rfl⟩ := List.mem_map.1 (List.mem_eraseDups.1 hk)
      have hne : key b ≠ key a := by simpa using (List.mem_filter.1 hb).2
      rw [List.filter_filter, List.filter_cons_of_neg (by simpa using Ne.symm hne)]
      refine List.filter_congr fun c _ => ?_
      by_cases hc : key c = key b
      · simp [hc, hne]
      · simp [hc]
    have hfirst : ((a :: rest).filter fun b => !key b == key a) = rest.filter fun b => !key b == key a := by
      simp
    rw [byKey, hlater]
    refine ((perm_byKey key _).append_left _).trans ?_
    rw [← hfirst]
    exact List.filter_append_perm (fun b => key b == key a) (a :: rest)
termination_by items => items.length
decreasing_by
  exact Nat.lt_succ_of_le (List.length_filter_le _ _)

/-- names that are told apart are written once each, in the same order -/
theorem eraseDups_map {names : List String} {f : String → String} (apart : ∀ a ∈ names, ∀ b ∈ names, f a = f b → a = b) :
    (names.map f).eraseDups = names.eraseDups.map f := by
  induction names using List.reverseRecOn with
  | nil => rfl
  | append_singleton names a ih =>
    have hnames := ih fun b hb c hc => apart b (List.mem_append_left _ hb) c (List.mem_append_left _ hc)
    have hmem : f a ∈ names.map f ↔ a ∈ names := by
      refine ⟨fun h => ?_, List.mem_map_of_mem⟩
      obtain ⟨b, hb, same⟩ := List.mem_map.1 h
      exact apart b (List.mem_append_left _ hb) a (by simp) same ▸ hb
    have hlast : (List.removeAll [f a] (names.map f)) = ((List.removeAll [a] names).map f) := by
      by_cases h : a ∈ names
      · have hf := hmem.2 h
        simp only [List.removeAll, List.filter_cons, List.filter_nil, List.elem_eq_mem, h, hf, decide_true, Bool.not_true,
          Bool.false_eq_true, if_false, List.map_nil]
      · have hf := mt hmem.1 h
        simp only [List.removeAll, List.filter_cons, List.filter_nil, List.elem_eq_mem, h, hf, decide_false, Bool.not_false,
          if_true, List.map_cons, List.map_nil]
    rw [List.map_append, List.map_singleton, List.eraseDups_append, List.eraseDups_append, List.map_append, hnames, hlast]
    by_cases h : a ∈ names <;> simp [List.removeAll, h, List.eraseDups_cons]

end Harvest.Entries
