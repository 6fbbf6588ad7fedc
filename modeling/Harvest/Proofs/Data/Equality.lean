/-
Equality of data is an equivalence that the order of entries does not touch. Data is compared part by part: items by their index, values
by their keys. Keys are there once, so two mappings are equal iff every key has equal values in both, or none in both; from this
form all laws follow by induction on the data.

- `sameEntries_iff`: equal entries are equal key by key.
- `IsComparable.refl`, `.symm`, `.trans`: the laws of an equivalence.
- `Reordered.same`: putting the entries at some place in another order gives equal data.
- `same_plain`: equal data is converted to equal data.
- `same_congruence`: all of this for objects, and when an object has a mapping.
-/
import Harvest.Data.Equality
import Harvest.Proofs.Data.Conversion
import Harvest.Proofs.Data.Entries
import Mathlib.Logic.Relation

namespace Harvest.Data

/-- data made of null, truth values, integers, texts, lists, and mappings and objects of bag classes that have each key once -/
inductive IsComparable : Data → Prop
  | null : IsComparable null
  | bool (b : Bool) : IsComparable (bool b)
  | int (n : Int) : IsComparable (int n)
  | str (s : String) : IsComparable (str s)
  | list {items : List Data} (each : ∀ x ∈ items, IsComparable x) : IsComparable (list items)
  | dict {entries : List (String × Data)} (distinct : (Entries.keys entries).Nodup) (each : ∀ e ∈ entries, IsComparable e.2) :
      IsComparable (dict entries)
  | object {cls : ObjectClass} {properties : List (String × Data)} (bag : cls.bag = true)
      (distinct : (Entries.keys properties).Nodup) (each : ∀ e ∈ properties, IsComparable e.2) :
      IsComparable (object cls properties)

/-! ## Heads and children -/

/-- what is seen of data without what is inside: truth values are numbers, and an object shows its class -/
inductive Head where
  | null
  | number (n : Int)
  | text (s : String)
  | list
  | mapping
  | object (cls : ObjectClass)
  /-- anything else -/
  | closed

def head : Data → Head
  | null => .null
  | bool b => .number b.toNat
  | int n => .number n
  | str s => .text s
  | list _ => .list
  | dict _ => .mapping
  | object cls _ => .object cls
  | _ => .closed

/-- the data inside at an index of a list, or under a key -/
def child? : Data → Nat ⊕ String → Option Data
  | list items, .inl i => items[i]?
  | dict entries, .inr k => entries.lookup k
  | object _ properties, .inr k => properties.lookup k
  | _, _ => none

theorem mem_inner_of_child? {d x : Data} {key : Nat ⊕ String} (h : d.child? key = some x) : x ∈ d.inner := by
  unfold child? at h
  split at h
  · exact List.mem_of_getElem? h
  · exact List.mem_map_of_mem (Entries.mem_of_lookup h)
  · exact List.mem_map_of_mem (Entries.mem_of_lookup h)
  · cases h

theorem IsComparable.child {d x : Data} (comparable : d.IsComparable) {key : Nat ⊕ String} (h : d.child? key = some x) :
    x.IsComparable := by
  have hmem := mem_inner_of_child? h
  cases comparable with
  | list each => exact each x hmem
  | dict distinct each =>
    obtain ⟨e, he, rfl⟩ := List.mem_map.1 hmem
    exact each e he
  | object bag distinct each =>
    obtain ⟨e, he, rfl⟩ := List.mem_map.1 hmem
    exact each e he
  | _ => cases hmem

/-- equality as it is between items -/
def Same (a b : Data) : Prop :=
  sameItem a b = true

/-- the same keys lead to something in both, and to related data -/
def SameChildren (a b : Data) : Prop :=
  ∀ key, Option.Rel Same (a.child? key) (b.child? key)

theorem sameChildren_list {xs ys : List Data} :
    (list xs).SameChildren (list ys) ↔ ∀ i : Nat, Option.Rel Same xs[i]? ys[i]? := by
  simp [SameChildren, Sum.forall, child?]

theorem sameChildren_dict {es fs : List (String × Data)} :
    (dict es).SameChildren (dict fs) ↔ ∀ k, Option.Rel Same (es.lookup k) (fs.lookup k) := by
  simp [SameChildren, Sum.forall, child?]

theorem sameChildren_object {c d : ObjectClass} {ps qs : List (String × Data)} :
    (object c ps).SameChildren (object d qs) ↔ ∀ k, Option.Rel Same (ps.lookup k) (qs.lookup k) := by
  simp [SameChildren, Sum.forall, child?]

theorem sameItems_iff {xs ys : List Data} : sameItems xs ys = true ↔ ∀ i : Nat, Option.Rel Same xs[i]? ys[i]? := by
  induction xs generalizing ys with
  | nil =>
    cases ys with
    | nil => simp [sameItems]
    | cons y ys =>
      refine ⟨fun h => (by cases h), fun h => ?_⟩
      cases h 0
  | cons x xs ih =>
    cases ys with
    | nil =>
      refine ⟨fun h => (by cases h), fun h => ?_⟩
      cases h 0
    | cons y ys =>
      rw [sameItems, Bool.and_eq_true, ih]
      constructor
      · rintro ⟨hfirst, hrest⟩ i
        cases i with
        | zero => exact .some hfirst
        | succ i => simpa using hrest i
      · intro h
        refine ⟨?_, fun i => by simpa using h (i + 1)⟩
        cases h 0 with
        | some hfirst => exact hfirst

theorem sameEntries_iff_forall {es fs : List (String × Data)} :
    sameEntries es fs = true ↔ ∀ e ∈ es, ∃ y, fs.lookup e.1 = some y ∧ Same e.2 y := by
  induction es with
  | nil => simp [sameEntries]
  | cons e es ih =>
    obtain ⟨k, x⟩ := e
    rw [sameEntries, Bool.and_eq_true, List.forall_mem_cons, ih]
    cases fs.lookup k <;> simp [Same]

theorem keys_subset_of_sameEntries {es fs : List (String × Data)} (h : sameEntries es fs = true) :
    Entries.keys es ⊆ Entries.keys fs := by
  intro k hk
  obtain ⟨e, he, rfl⟩ := List.mem_map.1 hk
  obtain ⟨y, hy, -⟩ := sameEntries_iff_forall.1 h e he
  exact Entries.isSome_lookup_iff.1 (by rw [hy]; rfl)

/-- entries with each key once are equal iff every key has equal values in both, or none in both -/
theorem sameEntries_iff {es fs : List (String × Data)} (hes : (Entries.keys es).Nodup) (hfs : (Entries.keys fs).Nodup) :
    es.length = fs.length ∧ sameEntries es fs = true ↔ ∀ k, Option.Rel Same (es.lookup k) (fs.lookup k) := by
  constructor
  · rintro ⟨hlength, h⟩ k
    have hkeys : (Entries.keys es).Perm (Entries.keys fs) :=
      (List.subperm_of_subset hes (keys_subset_of_sameEntries h)).perm_of_length_le (by simp [Entries.keys, hlength])
    cases hx : es.lookup k with
    | none =>
      have habsent : ¬(fs.lookup k).isSome := by
        rw [Entries.isSome_lookup_iff, ← hkeys.mem_iff, ← Entries.isSome_lookup_iff, hx]
        simp
      rw [Option.not_isSome_iff_eq_none.1 habsent]
      exact .none
    | some x =>
      obtain ⟨y, hy, hxy⟩ := sameEntries_iff_forall.1 h (k, x) (Entries.mem_of_lookup hx)
      rw [hy]
      exact .some hxy
  · intro related
    have hkeys : (Entries.keys es).Perm (Entries.keys fs) := by
      refine (List.perm_ext_iff_of_nodup hes hfs).2 fun k => ?_
      rw [← Entries.isSome_lookup_iff, ← Entries.isSome_lookup_iff, isSome_eq_of_rel (related k)]
    refine ⟨by simpa [Entries.keys] using hkeys.length_eq, sameEntries_iff_forall.2 fun e he => ?_⟩
    have hrel := related e.1
    rw [Entries.lookup_of_mem hes he] at hrel
    exact exists_of_rel hrel

/-- data is equal iff it has the same head and equal children -/
theorem same_iff {a b : Data} (ha : a.IsComparable) (hb : b.IsComparable) : a.Same b ↔ a.head = b.head ∧ a.SameChildren b := by
  cases ha with
  | list each =>
    cases hb with
    | list each' => simp [Same, sameItem, head, sameChildren_list, sameItems_iff]
    | _ => simp [Same, sameItem, scalarSame, wholeNumber?, head]
  | dict distinct each =>
    cases hb with
    | dict distinct' each' => simp [Same, sameItem, head, sameChildren_dict, ← sameEntries_iff distinct distinct']
    | _ => simp [Same, sameItem, scalarSame, wholeNumber?, head]
  | object bag distinct each =>
    cases hb with
    | object bag' distinct' each' =>
      simp [Same, sameItem, head, sameChildren_object, ← sameEntries_iff distinct distinct', bag, and_assoc]
    | _ => simp [Same, sameItem, scalarSame, wholeNumber?, head]
  | _ => cases hb <;> simp [Same, sameItem, scalarSame, wholeNumber?, head, SameChildren, child?]

/-! ## An equivalence -/

/-- under a key there is nothing in both, or something that is equal -/
theorem SameChildren.cases {a b : Data} (h : a.SameChildren b) (key : Nat ⊕ String) :
    (a.child? key = none ∧ b.child? key = none) ∨ ∃ x y, a.child? key = some x ∧ b.child? key = some y ∧ x.Same y := by
  have hrel := h key
  cases hx : a.child? key with
  | none => exact .inl ⟨rfl, eq_none_of_rel (hx ▸ hrel)⟩
  | some x =>
    obtain ⟨y, hy, hxy⟩ := exists_of_rel (hx ▸ hrel)
    exact .inr ⟨x, y, rfl, hy, hxy⟩

namespace IsComparable

variable {a b c : Data}

theorem refl (ha : a.IsComparable) : a.Same a := by
  induction a using induct with
  | step a ih =>
    refine (same_iff ha ha).2 ⟨rfl, fun key => ?_⟩
    cases hx : a.child? key with
    | none => exact .none
    | some x => exact .some (ih x (mem_inner_of_child? hx) (ha.child hx))

theorem symm (ha : a.IsComparable) (hb : b.IsComparable) (h : a.Same b) : b.Same a := by
  induction a using induct generalizing b with
  | step a ih =>
    obtain ⟨hhead, hchildren⟩ := (same_iff ha hb).1 h
    refine (same_iff hb ha).2 ⟨hhead.symm, fun key => ?_⟩
    rcases hchildren.cases key with ⟨hx, hy⟩ | ⟨x, y, hx, hy, hxy⟩
    · rw [hx, hy]
      exact .none
    · rw [hx, hy]
      exact .some (ih x (mem_inner_of_child? hx) (ha.child hx) (hb.child hy) hxy)

theorem trans (ha : a.IsComparable) (hb : b.IsComparable) (hc : c.IsComparable) (hab : a.Same b) (hbc : b.Same c) :
    a.Same c := by
  induction a using induct generalizing b c with
  | step a ih =>
    obtain ⟨hhead, hchildren⟩ := (same_iff ha hb).1 hab
    obtain ⟨hhead', hchildren'⟩ := (same_iff hb hc).1 hbc
    refine (same_iff ha hc).2 ⟨hhead.trans hhead', fun key => ?_⟩
    rcases hchildren.cases key with ⟨hx, hy⟩ | ⟨x, y, hx, hy, hxy⟩
    · rcases hchildren'.cases key with ⟨-, hz⟩ | ⟨y', -, hy', -, -⟩
      · rw [hx, hz]
        exact .none
      · cases hy.symm.trans hy'
    · rcases hchildren'.cases key with ⟨hy', -⟩ | ⟨y', z, hy', hz, hyz⟩
      · cases hy.symm.trans hy'
      · obtain rfl : y = y' := Option.some.inj (hy.symm.trans hy')
        rw [hx, hz]
        exact .some (ih x (mem_inner_of_child? hx) (ha.child hx) (hb.child hy) (hc.child hz) hxy hyz)

end IsComparable

/-! ## The order of entries -/

/-- the same data with the entries of one mapping, or the properties of one object, at any depth, in another order -/
inductive Reordered : Data → Data → Prop
  | dict {es fs : List (String × Data)} (order : es.Perm fs) : Reordered (dict es) (dict fs)
  | object {cls : ObjectClass} {ps qs : List (String × Data)} (order : ps.Perm qs) : Reordered (object cls ps) (object cls qs)
  | item {before after : List Data} {x y : Data} (inside : Reordered x y) :
      Reordered (list (before ++ x :: after)) (list (before ++ y :: after))
  | value {before after : List (String × Data)} {k : String} {x y : Data} (inside : Reordered x y) :
      Reordered (dict (before ++ (k, x) :: after)) (dict (before ++ (k, y) :: after))
  | property {cls : ObjectClass} {before after : List (String × Data)} {k : String} {x y : Data} (inside : Reordered x y) :
      Reordered (object cls (before ++ (k, x) :: after)) (object cls (before ++ (k, y) :: after))

/-- entries with the same keys in the same order have related values under every key -/
theorem rel_lookup {R : Data → Data → Prop} {es fs : List (String × Data)}
    (related : List.Forall₂ (fun e f => e.1 = f.1 ∧ R e.2 f.2) es fs) (k : String) :
    Option.Rel R (es.lookup k) (fs.lookup k) := by
  induction related with
  | nil => exact .none
  | @cons e f es fs hef _ ih =>
    obtain ⟨key, x⟩ := e
    obtain ⟨key', y⟩ := f
    obtain ⟨rfl, hxy⟩ := hef
    by_cases h : k = key
    · rw [h, List.lookup_cons_self, List.lookup_cons_self]
      exact .some hxy
    · rw [List.lookup_cons, List.lookup_cons, beq_eq_false_iff_ne.2 h]
      exact ih

theorem forall₂_replace {α : Type} {R : α → α → Prop} {before after : List α} {x y : α}
    (rest : ∀ a, a ∈ before ∨ a ∈ after → R a a) (h : R x y) : List.Forall₂ R (before ++ x :: after) (before ++ y :: after) :=
  List.rel_append (List.forall₂_same.2 fun a ha => rest a (.inl ha)) (.cons h (List.forall₂_same.2 fun a ha => rest a (.inr ha)))

theorem forall_mem_replace {α : Type} {P : α → Prop} {before after : List α} {x y : α} (h : ∀ a ∈ before ++ x :: after, P a)
    (hy : P y) : ∀ a ∈ before ++ y :: after, P a := by
  simp only [List.forall_mem_append, List.forall_mem_cons] at h ⊢
  exact ⟨h.1, hy, h.2.2⟩

/-- entries that can be compared, and entries with the same keys and equal values under them -/
structure ReplacesEntries (es fs : List (String × Data)) : Prop where
  distinct : (Entries.keys fs).Nodup
  each : ∀ f ∈ fs, f.2.IsComparable
  same : ∀ k, Option.Rel Same (es.lookup k) (fs.lookup k)

section

variable {es fs before after : List (String × Data)} {k : String} {x y : Data}

theorem replacesEntries_of_perm (distinct : (Entries.keys es).Nodup) (each : ∀ e ∈ es, e.2.IsComparable)
    (order : es.Perm fs) : ReplacesEntries es fs := by
  have hfs : (Entries.keys fs).Nodup := (order.map Prod.fst).nodup_iff.1 distinct
  refine ⟨hfs, fun f hf => each f (order.mem_iff.2 hf), fun k => ?_⟩
  cases hx : es.lookup k with
  | some x =>
    have hmem := Entries.mem_of_lookup hx
    rw [Entries.lookup_of_mem hfs (order.mem_iff.1 hmem)]
    exact .some (each (k, x) hmem).refl
  | none =>
    cases hy : fs.lookup k with
    | none => exact .none
    | some y => cases hx.symm.trans (Entries.lookup_of_mem distinct (order.mem_iff.2 (Entries.mem_of_lookup hy)))

theorem replacesEntries_of_value (distinct : (Entries.keys (before ++ (k, x) :: after)).Nodup)
    (each : ∀ e ∈ before ++ (k, x) :: after, e.2.IsComparable) (hy : y.IsComparable) (same : x.Same y) :
    ReplacesEntries (before ++ (k, x) :: after) (before ++ (k, y) :: after) := by
  have hkeys : Entries.keys (before ++ (k, y) :: after) = Entries.keys (before ++ (k, x) :: after) := by
    simp [Entries.keys]
  refine ⟨hkeys ▸ distinct, forall_mem_replace each hy, rel_lookup (forall₂_replace ?_ ⟨rfl, same⟩)⟩
  simp only [List.forall_mem_append, List.forall_mem_cons] at each
  rintro e (he | he)
  · exact ⟨rfl, (each.1 e he).refl⟩
  · exact ⟨rfl, (each.2.2 e he).refl⟩

theorem ReplacesEntries.dict (replaces : ReplacesEntries es fs) (h : (Data.dict es).IsComparable) :
    (Data.dict fs).IsComparable ∧ (Data.dict es).Same (.dict fs) :=
  have hfs : (Data.dict fs).IsComparable := .dict replaces.distinct replaces.each
  ⟨hfs, (same_iff h hfs).2 ⟨rfl, sameChildren_dict.2 replaces.same⟩⟩

theorem ReplacesEntries.object {cls : ObjectClass} (replaces : ReplacesEntries es fs) (bag : cls.bag = true)
    (h : (Data.object cls es).IsComparable) :
    (Data.object cls fs).IsComparable ∧ (Data.object cls es).Same (.object cls fs) :=
  have hfs : (Data.object cls fs).IsComparable := .object bag replaces.distinct replaces.each
  ⟨hfs, (same_iff h hfs).2 ⟨rfl, sameChildren_object.2 replaces.same⟩⟩

end

/-- data that can be compared is equal to the same data in another order, which can be compared too -/
theorem Reordered.same {a b : Data} (reordered : a.Reordered b) (ha : a.IsComparable) : b.IsComparable ∧ a.Same b := by
  induction reordered with
  | dict order =>
    have h := ha
    cases ha with
    | dict distinct each => exact (replacesEntries_of_perm distinct each order).dict h
  | object order =>
    have h := ha
    cases ha with
    | object bag distinct each => exact (replacesEntries_of_perm distinct each order).object bag h
  | @item before after x y inside ih =>
    cases ha with
    | list each =>
      obtain ⟨hy, hxy⟩ := ih (each x (by simp))
      have hb : IsComparable (.list (before ++ y :: after)) := .list (forall_mem_replace each hy)
      refine ⟨hb, (same_iff (.list each) hb).2 ⟨rfl, sameChildren_list.2 (rel_getElem? (forall₂_replace ?_ hxy))⟩⟩
      simp only [List.forall_mem_append, List.forall_mem_cons] at each
      rintro z (hz | hz)
      · exact (each.1 z hz).refl
      · exact (each.2.2 z hz).refl
  | @value before after k x y inside ih =>
    have h := ha
    cases ha with
    | dict distinct each =>
      obtain ⟨hy, hxy⟩ := ih (each (k, x) (by simp))
      exact (replacesEntries_of_value distinct each hy hxy).dict h
  | @property cls before after k x y inside ih =>
    have h := ha
    cases ha with
    | object bag distinct each =>
      obtain ⟨hy, hxy⟩ := ih (each (k, x) (by simp))
      exact (replacesEntries_of_value distinct each hy hxy).object bag h

/-! ## The conversion -/

section

variable {a b d r : Data}

theorem IsComparable.exists_key (comparable : d.IsComparable) {x : Data} (h : x ∈ d.inner) : ∃ key, d.child? key = some x := by
  cases comparable with
  | list each =>
    obtain ⟨i, hi⟩ := List.getElem?_of_mem h
    exact ⟨.inl i, hi⟩
  | dict distinct each =>
    obtain ⟨⟨k, y⟩, he, rfl⟩ := List.mem_map.1 h
    exact ⟨.inr k, Entries.lookup_of_mem distinct he⟩
  | object bag distinct each =>
    obtain ⟨⟨k, y⟩, he, rfl⟩ := List.mem_map.1 h
    exact ⟨.inr k, Entries.lookup_of_mem distinct he⟩
  | _ => cases h

/-- the head of what the conversion makes of data that it goes into -/
theorem head_plain (entered : d.isEntered = true) (h : d.plain = .ok r) :
    r.head = match d.head with
      | .list => .list
      | _ => .mapping := by
  cases d with
  | list items =>
    obtain ⟨converted, -, rfl⟩ := exists_of_map h
    rfl
  | object cls properties =>
    rw [plain_object entered] at h
    obtain ⟨entries, -, rfl⟩ := exists_of_map h
    rfl
  | _ => cases entered

/-- the conversion keeps the keys of what it goes into -/
theorem child?_plain (entered : d.isEntered = true) (h : d.plain = .ok r) (key : Nat ⊕ String) :
    Option.Rel (fun x y => x.plain = .ok y) (d.child? key) (r.child? key) := by
  cases d with
  | list items =>
    obtain ⟨converted, hitems, rfl⟩ := exists_of_map h
    cases key with
    | inl i => exact rel_getElem? (plainItems_ok_iff.1 hitems) i
    | inr k => exact .none
  | object cls properties =>
    rw [plain_object entered] at h
    obtain ⟨entries, hmapping, rfl⟩ := exists_of_map h
    cases key with
    | inl i => exact .none
    | inr k => exact rel_lookup ((toMapping_ok_iff entered).1 hmapping).2 k
  | _ => cases entered

theorem exists_child_plain (entered : d.isEntered = true) (h : d.plain = .ok r) {key : Nat ⊕ String} {x : Data}
    (hx : d.child? key = some x) : ∃ y, r.child? key = some y ∧ x.plain = .ok y :=
  exists_of_rel (hx ▸ child?_plain entered h key)

theorem child?_plain_eq_none (entered : d.isEntered = true) (h : d.plain = .ok r) {key : Nat ⊕ String}
    (hx : d.child? key = none) : r.child? key = none :=
  eq_none_of_rel (hx ▸ child?_plain entered h key)

/-- what can be compared can be compared after the conversion -/
theorem IsComparable.plain (comparable : d.IsComparable) (h : d.plain = .ok r) : r.IsComparable := by
  induction d using induct generalizing r with
  | step d ih =>
    cases entered : d.isEntered with
    | false =>
      obtain rfl : d = r := Except.ok.inj ((plain_of_not_isEntered entered).symm.trans h)
      exact comparable
    | true =>
      have hinner := inner_plain entered h
      cases comparable with
      | list each =>
        obtain ⟨converted, -, rfl⟩ := exists_of_map h
        exact .list (forall_of_forall₂ hinner fun x hx y => ih x hx (each x hx))
      | @object cls properties bag distinct each =>
        rw [plain_object bag] at h
        obtain ⟨entries, hmapping, rfl⟩ := exists_of_map h
        obtain ⟨-, hrelated⟩ := (toMapping_ok_iff bag).1 hmapping
        refine .dict ?_ (forall_of_forall₂ hrelated fun e he f hef => ?_)
        · rwa [keys_plainEntries (plainEntries_ok_iff.2 hrelated)]
        · exact ih e.2 (List.mem_map_of_mem he) (each e he) hef.2
      | _ => cases entered

theorem isEntered_iff_head (comparable : d.IsComparable) :
    d.isEntered = true ↔ d.head = .list ∨ ∃ cls, d.head = .object cls := by
  cases comparable <;> simp_all [isEntered, isBag, head]

theorem isEntered_eq (ha : a.IsComparable) (hb : b.IsComparable) (h : a.head = b.head) : a.isEntered = b.isEntered := by
  rw [Bool.eq_iff_iff, isEntered_iff_head ha, isEntered_iff_head hb, h]

/-- a property answers for equal objects under the same names -/
theorem isShadowed_eq (ha : a.IsComparable) (hb : b.IsComparable) (h : a.Same b) : a.isShadowed = b.isShadowed := by
  obtain ⟨hhead, hchildren⟩ := (same_iff ha hb).1 h
  have hproperty := hchildren (.inr conversion)
  cases ha with
  | @object cls ps bag distinct each =>
    cases hb with
    | @object cls' qs bag' distinct' each' =>
      simp only [child?] at hproperty
      simp only [isShadowed, bag, bag', Bool.true_and]
      exact isSome_eq_of_rel hproperty
    | _ => cases hhead
  | _ =>
    cases hb with
    | object bag distinct each => cases hhead
    | _ => rfl

/-- equal data can be converted alike, and what is made of it is equal -/
theorem same_plain (ha : a.IsComparable) (hb : b.IsComparable) (h : a.Same b) (hr : a.plain = .ok r) :
    ∃ s, b.plain = .ok s ∧ r.Same s := by
  induction a using induct generalizing b r with
  | step a ih =>
    obtain ⟨hhead, hchildren⟩ := (same_iff ha hb).1 h
    have hentered := (isEntered_eq ha hb hhead).symm
    cases entered : a.isEntered with
    | false =>
      rw [entered] at hentered
      obtain rfl : a = r := Except.ok.inj ((plain_of_not_isEntered entered).symm.trans hr)
      exact ⟨b, plain_of_not_isEntered hentered, h⟩
    | true =>
      rw [entered] at hentered
      have hopen : b.isShadowed = false := by
        rw [← isShadowed_eq ha hb h]
        exact ((exists_plain_of_inner entered).1 ⟨r, hr⟩).1
      -- each part of `b` has an equal in `a` under its key, and that one is converted
      have hparts : ∀ y ∈ b.inner, ∃ s, y.plain = .ok s := by
        intro y hy
        obtain ⟨key, hkey⟩ := hb.exists_key hy
        rcases hchildren.cases key with ⟨-, hnone⟩ | ⟨x, y', hx, hy', hxy⟩
        · cases hkey.symm.trans hnone
        · obtain rfl : y = y' := Option.some.inj (hkey.symm.trans hy')
          obtain ⟨x', -, hx'⟩ := exists_child_plain entered hr hx
          obtain ⟨s, hs, -⟩ := ih x (mem_inner_of_child? hx) (ha.child hx) (hb.child hy') hxy hx'
          exact ⟨s, hs⟩
      obtain ⟨s, hs⟩ := (exists_plain_of_inner hentered).2 ⟨hopen, hparts⟩
      refine ⟨s, hs, (same_iff (ha.plain hr) (hb.plain hs)).2 ⟨?_, fun key => ?_⟩⟩
      · rw [head_plain entered hr, head_plain hentered hs, hhead]
      · rcases hchildren.cases key with ⟨hx, hy⟩ | ⟨x, y, hx, hy, hxy⟩
        · rw [child?_plain_eq_none entered hr hx, child?_plain_eq_none hentered hs hy]
          exact .none
        · obtain ⟨x', hx', hplain⟩ := exists_child_plain entered hr hx
          obtain ⟨y', hy', hplain'⟩ := exists_child_plain hentered hs hy
          obtain ⟨y'', hplain'', hsame⟩ := ih x (mem_inner_of_child? hx) (ha.child hx) (hb.child hy) hxy hplain
          obtain rfl : y' = y'' := Except.ok.inj (hplain'.symm.trans hplain'')
          rw [hx', hy']
          exact .some hsame

end

/-! ## Objects -/

theorem same_eq_true_iff {a b : Data} (ha : a.IsComparable) : a.same b = true ↔ a.Same b := by
  cases ha <;> rfl

/-- two numbers are equal iff they stand for the same integer, truth values too -/
theorem same_number_iff {a b : Data} {m n : Int} (ha : a.wholeNumber? = some m) (hb : b.wholeNumber? = some n) :
    a.same b = true ↔ m = n := by
  unfold wholeNumber? at ha hb
  split at ha <;> cases ha <;> split at hb <;> cases hb <;> simp [same, sameItem, scalarSame, wholeNumber?]

/-- in any number of changes of order data stays equal to itself -/
theorem same_of_reordered {a b : Data} (reordered : Relation.ReflTransGen Reordered a b) (ha : a.IsComparable) :
    b.IsComparable ∧ a.Same b := by
  induction reordered with
  | refl => exact ⟨ha, ha.refl⟩
  | tail _ last ih =>
    obtain ⟨hb, hab⟩ := ih
    obtain ⟨hc, hbc⟩ := last.same hb
    exact ⟨hc, ha.trans hb hc hab hbc⟩

theorem same_reordered {a a' b : Data} (ha : a.IsComparable) (hb : b.IsComparable)
    (reordered : Relation.ReflTransGen Reordered a a') : a.same b = a'.same b ∧ b.same a = b.same a' := by
  obtain ⟨ha', same⟩ := same_of_reordered reordered ha
  have hback := ha.symm ha' same
  constructor
  · rw [Bool.eq_iff_iff, same_eq_true_iff ha, same_eq_true_iff ha']
    exact ⟨fun h => ha'.trans ha hb hback h, fun h => ha.trans ha' hb same h⟩
  · rw [Bool.eq_iff_iff, same_eq_true_iff hb, same_eq_true_iff hb]
    exact ⟨fun h => hb.trans ha ha' h same, fun h => hb.trans ha' ha h hback⟩

theorem cls_eq_of_same {c d : ObjectClass} {ps qs : List (String × Data)} (h : (object c ps).same (object d qs) = true) :
    c = d := by
  simp only [same, sameItem, Bool.and_eq_true, beq_iff_eq] at h
  exact h.1.1.2

/-- equal objects have equal mappings, if they have any -/
theorem same_toMapping {c d : ObjectClass} {ps qs es : List (String × Data)} (ho : (object c ps).IsComparable)
    (hp : (object d qs).IsComparable) (same : (object c ps).same (object d qs) = true)
    (h : (object c ps).toMapping = .ok es) : ∃ fs, (object d qs).toMapping = .ok fs ∧ (dict es).same (dict fs) = true := by
  cases ho with
  | object bag distinct each =>
    cases hp with
    | object bag' distinct' each' =>
      obtain ⟨s, hs, hsame⟩ := same_plain (.object bag distinct each) (.object bag' distinct' each')
        ((same_eq_true_iff (.object bag distinct each)).1 same) ((plain_eq_dict_iff bag).2 h)
      rw [plain_object bag'] at hs
      obtain ⟨fs, hfs, rfl⟩ := exists_of_map hs
      exact ⟨fs, hfs, hsame⟩

/-- **Equality of objects is a congruence.** On data made of null, truth values, integers, texts, lists, mappings and objects, equality
is an equivalence, two numbers are equal iff they stand for the same integer, and the order of the entries of mappings and of the
properties of objects is of no account, at any depth. Objects of different classes are never equal. Of two equal objects either both
have a mapping, and then the mappings are equal, or none has; an object has one iff the conversion comes to no object with a property
under the name that objects are asked for their mappings by. -/
theorem same_congruence {a b : Data} (ha : a.IsComparable) (hb : b.IsComparable) :
    a.same a = true ∧ a.same b = b.same a ∧
    (∀ c : Data, c.IsComparable → a.same b = true → b.same c = true → a.same c = true) ∧
    (∀ m n : Int, a.wholeNumber? = some m → b.wholeNumber? = some n → (a.same b = true ↔ m = n)) ∧
    (∀ a' : Data, Relation.ReflTransGen Reordered a a' → a.same b = a'.same b ∧ b.same a = b.same a') ∧
    ∀ (c d : ObjectClass) (ps qs : List (String × Data)), a = object c ps → b = object d qs → a.same b = true →
      c = d ∧
      ((∃ es, a.toMapping = .ok es) ↔ ∃ fs, b.toMapping = .ok fs) ∧
      ((∃ es, a.toMapping = .ok es) ↔
        ∀ place x, a.reaches place = true → a.part? place = some x → x.isShadowed = false) ∧
      ∀ es fs, a.toMapping = .ok es → b.toMapping = .ok fs → (dict es).same (dict fs) = true := by
  refine ⟨(same_eq_true_iff ha).2 ha.refl, ?_, fun c hc hab hbc => ?_, fun m n => same_number_iff,
    fun a' => same_reordered ha hb, ?_⟩
  · rw [Bool.eq_iff_iff, same_eq_true_iff ha, same_eq_true_iff hb]
    exact ⟨ha.symm hb, hb.symm ha⟩
  · rw [same_eq_true_iff ha] at hab ⊢
    exact ha.trans hb hc hab ((same_eq_true_iff hb).1 hbc)
  · rintro c d ps qs rfl rfl same
    refine ⟨cls_eq_of_same same, ⟨?_, ?_⟩, ?_, fun es fs hes hfs => ?_⟩
    · rintro ⟨es, hes⟩
      obtain ⟨fs, hfs, -⟩ := same_toMapping ha hb same hes
      exact ⟨fs, hfs⟩
    · rintro ⟨fs, hfs⟩
      have hback := (same_eq_true_iff hb).2 (ha.symm hb ((same_eq_true_iff ha).1 same))
      obtain ⟨es, hes, -⟩ := same_toMapping hb ha hback hfs
      exact ⟨es, hes⟩
    · cases ha with
      | object bag distinct each => exact exists_toMapping_iff bag ps
    · obtain ⟨fs', hfs', hsame⟩ := same_toMapping ha hb same hes
      obtain rfl : fs = fs' := Except.ok.inj (hfs.symm.trans hfs')
      exact hsame

/-- an edition with its pages -/
def edition : Data :=
  object ⟨"Edition", true⟩ [("title", str "Notes"), ("pages", dict [("first", bool true), ("last", int 9)])]

/-- the same with the title last -/
def turnedEdition : Data :=
  object ⟨"Edition", true⟩ [("pages", dict [("first", bool true), ("last", int 9)]), ("title", str "Notes")]

/-- with the last page first, and the first page an integer -/
def reprint : Data :=
  object ⟨"Edition", true⟩ [("pages", dict [("last", int 9), ("first", int 1)]), ("title", str "Notes")]

/-- the three are equal, and so are their mappings -/
theorem reprint_congruent :
    (edition.IsComparable ∧ turnedEdition.IsComparable ∧ reprint.IsComparable) ∧
      Relation.ReflTransGen Reordered edition turnedEdition ∧ edition.same edition = edition.same turnedEdition ∧
      (bool true).same (int 1) = true ∧ turnedEdition.same reprint = true ∧ edition.same reprint = true ∧
      edition.same reprint = reprint.same edition ∧
      ∃ es fs, edition.toMapping = .ok es ∧ reprint.toMapping = .ok fs ∧ (dict es).same (dict fs) = true := by
  have pages : IsComparable (dict [("first", bool true), ("last", int 9)]) :=
    .dict (by decide) (by simp [IsComparable.bool, IsComparable.int])
  have numbered : IsComparable (dict [("last", int 9), ("first", int 1)]) := .dict (by decide) (by simp [IsComparable.int])
  have first : edition.IsComparable := .object rfl (by decide) (by simp [pages, IsComparable.str])
  have second : turnedEdition.IsComparable := .object rfl (by decide) (by simp [pages, IsComparable.str])
  have third : reprint.IsComparable := .object rfl (by decide) (by simp [numbered, IsComparable.str])
  have turned : Relation.ReflTransGen Reordered edition turnedEdition := .single (.object (.swap _ _ []))
  obtain ⟨reflexive, -, -, -, order, -⟩ := same_congruence first first
  have horder := (order turnedEdition turned).2
  have hequal : edition.same turnedEdition = true := horder.symm.trans reflexive
  obtain ⟨-, -, transitive, -, -, -⟩ := same_congruence first second
  have hreprint : edition.same reprint = true := transitive reprint third hequal rfl
  obtain ⟨-, symmetric, -, -, -, mappings⟩ := same_congruence first third
  obtain ⟨-, -, -, hmappings⟩ := mappings _ _ _ _ rfl rfl hreprint
  obtain ⟨-, -, -, numbers, -⟩ := same_congruence (.bool true) (.int 1)
  exact ⟨⟨first, second, third⟩, turned, horder, (numbers 1 1 rfl rfl).2 rfl, rfl, hreprint, symmetric, _, _, rfl, rfl,
    hmappings _ _ rfl rfl⟩

/-- an object with a property under the name that objects are asked for their mappings by -/
def labelled : Data :=
  object ⟨"Resource", true⟩ [(conversion, int 1)]

/-- the object equals itself, yet it has no mapping -/
theorem labelled_without_mapping :
    labelled.IsComparable ∧ labelled.same labelled = true ∧ ¬∃ entries, labelled.toMapping = .ok entries := by
  refine ⟨.object rfl (by decide) (by simp [IsComparable.int]), rfl, ?_⟩
  rintro ⟨entries, h⟩
  cases h

end Harvest.Data
