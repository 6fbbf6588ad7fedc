/-
The order of assignments. A mapping goes through its assignments in order, and of those to one property the last that finds
something to give decides.

- `build_ok_iff`, `build_error_iff`: the object of an opened record has the entries that the assignments give alone, and the
  mapping fails where the first of them does.
- `process_in_order`: the same said property by property, with the order of properties, and for assignments in any other
  order that keeps those to one property in order.
-/
import Harvest.Proofs.Mapping.Assignment

namespace Harvest

open Run

/-! ## Entries of assignments -/

namespace Assignment

variable {record : String} {context : Node}

theorem entries_append (as bs : List (Assignment Path)) :
    entries record context (as ++ bs) = entries record context as ++ entries record context bs :=
  List.filterMap_append

theorem isSome_value? {a : Assignment Path} (h : (a.evaluate record context).Succeeds) :
    (a.value? record context).isSome = a.resolves context := by
  obtain ⟨v?, hv⟩ := h
  rw [value?_of_ok hv, isSome_of_evaluate hv]

/-- the entries stand under the names of the assignments that find something -/
theorem keys_entries {as : List (Assignment Path)} (h : ∀ a ∈ as, (a.evaluate record context).Succeeds) :
    Entries.keys (entries record context as) = (as.filter (·.resolves context)).map name := by
  induction as with
  | nil => rfl
  | cons a rest ih =>
    have ha := isSome_value? (h a List.mem_cons_self)
    have hrest := ih fun b hb => h b (List.mem_cons_of_mem a hb)
    rw [Entries.keys] at hrest
    rw [entries_cons, Entries.keys, List.map_append, hrest, List.filter_cons, ← ha]
    cases a.value? record context <;> rfl

/-- the value under a name is what the last assignment to it that finds something gives -/
theorem lookup_entries {before after : List (Assignment Path)} {a : Assignment Path} (ha : (a.value? record context).isSome)
    (hafter : ∀ b ∈ after, b.name = a.name → b.value? record context = none) :
    (Entries.ofList (entries record context (before ++ a :: after))).lookup a.name = a.value? record context := by
  have hnone : (entries record context after).reverse.lookup a.name = none := by
    rw [List.lookup_eq_none_iff]
    intro e he
    obtain ⟨b, hb, hbe⟩ := List.mem_filterMap.1 (List.mem_reverse.1 he)
    obtain ⟨d, hd, rfl⟩ := Option.map_eq_some_iff.1 hbe
    have hne : b.name ≠ a.name := fun same => by simp [hafter b hb same] at hd
    simpa using hne.symm
  obtain ⟨d, hd⟩ := Option.isSome_iff_exists.1 ha
  rw [Entries.lookup_ofList, entries_append, entries_cons, List.reverse_append, List.reverse_append, List.append_assoc,
    List.lookup_append, hnone, hd]
  simp

/-- only the assignments to a name give entries under it -/
theorem filter_entries (as : List (Assignment Path)) (n : String) :
    ((entries record context as).filter fun e => e.1 == n) = entries record context (as.filter fun a => a.name == n) := by
  induction as with
  | nil => rfl
  | cons a rest ih =>
    rw [entries_cons, List.filter_append, ih, List.filter_cons]
    by_cases h : a.name = n
    · rw [if_pos (by simpa using h), entries_cons]
      cases a.value? record context <;> simp [h]
    · rw [if_neg (by simpa using h)]
      cases a.value? record context <;> simp [h]

end Assignment

/-! ## Building an object -/

namespace Mapping

theorem process_of_opened {m : Mapping} {record : Record} {d : Document}
    (opened : Document.ofRecord 0 m.format record m.arguments = .ok d) : m.process record = m.build d := by
  rw [process, opened]
  exact done_bind d m.build

theorem build_eq_each {m : Mapping} (ordinary : ∀ a ∈ m.assignments, ObjectClass.isReserved a.name = false) (d : Document) :
    m.build d = (each (Assignment.evaluate d.record d.root) m.assignments).map fun _ =>
      .object m.cls (Entries.ofList (Assignment.entries d.record d.root m.assignments)) := by
  rw [build, Assignment.applyAll_eq_each d.record d.root m.cls ordinary, map_map]
  rfl

theorem build_ok_iff {m : Mapping} (ordinary : ∀ a ∈ m.assignments, ObjectClass.isReserved a.name = false) (d : Document)
    (value : Data) :
    (m.build d).outcome = .ok value ↔ (∀ a ∈ m.assignments, (a.evaluate d.record d.root).Succeeds) ∧
      value = .object m.cls (Entries.ofList (Assignment.entries d.record d.root m.assignments)) := by
  rw [build_eq_each ordinary, map_ok_iff, ← each_succeeds_iff]
  constructor
  · rintro ⟨values, h, rfl⟩
    exact ⟨⟨values, h⟩, rfl⟩
  · rintro ⟨⟨values, h⟩, rfl⟩
    exact ⟨values, h, rfl⟩

theorem build_error_iff {m : Mapping} (ordinary : ∀ a ∈ m.assignments, ObjectClass.isReserved a.name = false) (d : Document)
    (e : Failure) :
    (m.build d).outcome = .error e ↔
      ∃ before a, FirstFails (Assignment.evaluate d.record d.root) m.assignments before a e := by
  rw [build_eq_each ordinary, map_error_iff, each_error_iff]

theorem build_succeeds_iff {m : Mapping} (ordinary : ∀ a ∈ m.assignments, ObjectClass.isReserved a.name = false)
    (d : Document) : (m.build d).Succeeds ↔ ∀ a ∈ m.assignments, (a.evaluate d.record d.root).Succeeds := by
  rw [build_eq_each ordinary, map_succeeds_iff, each_succeeds_iff]

/-! ## What a mapping gives, property by property -/

/-- the properties of an object are what the last assignments that find something give, in the order of the first ones -/
structure Decides (m : Mapping) (d : Document) (properties : List (String × Data)) : Prop where
  /-- a property is there iff some assignment to it finds something -/
  has : ∀ n, (properties.lookup n).isSome ↔ ∃ a ∈ m.assignments, a.name = n ∧ a.resolves d.root = true
  /-- its value is what the last such assignment gives on its own, whatever assignments that find nothing follow -/
  last : ∀ before a after, m.assignments = before ++ a :: after → a.resolves d.root = true →
    (∀ b ∈ after, b.name = a.name → b.resolves d.root = false) →
      (a.evaluate d.record d.root).outcome = .ok (properties.lookup a.name)
  /-- the properties stand in the order of the first such assignments -/
  order : Entries.keys properties = ((m.assignments.filter (·.resolves d.root)).map Assignment.name).eraseDups

theorem decides_entries {m : Mapping} {d : Document} (h : ∀ a ∈ m.assignments, (a.evaluate d.record d.root).Succeeds) :
    m.Decides d (Entries.ofList (Assignment.entries d.record d.root m.assignments)) := by
  refine ⟨?_, ?_, ?_⟩
  · intro n
    rw [Entries.isSome_lookup_iff, Entries.keys_ofList, List.mem_eraseDups, Assignment.keys_entries h, List.mem_map]
    constructor
    · rintro ⟨a, ha, rfl⟩
      obtain ⟨hmem, hres⟩ := List.mem_filter.1 ha
      exact ⟨a, hmem, rfl, hres⟩
    · rintro ⟨a, hmem, rfl, hres⟩
      exact ⟨a, List.mem_filter.2 ⟨hmem, hres⟩, rfl⟩
  · intro before a after hsplit hres hlast
    have hmem : ∀ b ∈ a :: after, b ∈ m.assignments := fun b hb => hsplit ▸ List.mem_append_right _ hb
    obtain ⟨v?, hv⟩ := h a (hmem a List.mem_cons_self)
    have hsome : (a.value? d.record d.root).isSome := by
      rw [Assignment.isSome_value? ⟨v?, hv⟩, hres]
    have hafter : ∀ b ∈ after, b.name = a.name → b.value? d.record d.root = none := by
      intro b hb same
      have hb' := Assignment.isSome_value? (h b (hmem b (List.mem_cons_of_mem a hb)))
      rw [hlast b hb same] at hb'
      simpa using hb'
    rw [hsplit, Assignment.lookup_entries hsome hafter, Assignment.value?_of_ok hv, hv]
  · rw [Entries.keys_ofList, Assignment.keys_entries h]

/-- the assignments are those of the mapping in an order that keeps the order of those to one property -/
def Reorders (m : Mapping) (others : List (Assignment Path)) : Prop :=
  ∀ n, (others.filter fun a => a.name == n) = m.assignments.filter fun a => a.name == n

theorem Reorders.mem_iff {m : Mapping} {others : List (Assignment Path)} (h : m.Reorders others) {a : Assignment Path} :
    a ∈ others ↔ a ∈ m.assignments := by
  have hiff : ∀ as : List (Assignment Path), a ∈ as ↔ a ∈ as.filter fun b => b.name == a.name := by
    intro as
    simp [List.mem_filter]
  rw [hiff others, h, ← hiff]

theorem Reorders.entries_perm {m : Mapping} {others : List (Assignment Path)} (h : m.Reorders others) (record : String)
    (context : Node) :
    (Entries.ofList (Assignment.entries record context others)).Perm
      (Entries.ofList (Assignment.entries record context m.assignments)) := by
  refine Entries.ofList_perm fun n => ?_
  rw [Assignment.filter_entries, Assignment.filter_entries, h n]

/-- **Assignments in order.** An opened record is mapped iff each assignment succeeds alone, and else with the failure of the
first that fails. The last assignment to a property that finds something decides its value; the order of assignments to
different properties decides the order of properties only. -/
theorem process_in_order {m : Mapping} {record : Record} {d : Document}
    (ordinary : ∀ a ∈ m.assignments, ObjectClass.isReserved a.name = false)
    (opened : Document.ofRecord 0 m.format record m.arguments = .ok d) :
    ((m.process record).Succeeds ↔ ∀ a ∈ m.assignments, (a.evaluate d.record d.root).Succeeds) ∧
    (∀ e, (m.process record).outcome = .error e ↔
      ∃ before a, FirstFails (Assignment.evaluate d.record d.root) m.assignments before a e) ∧
    (∀ value, (m.process record).outcome = .ok value →
      ∃ properties, value = .object m.cls properties ∧ m.Decides d properties) ∧
    ∀ others, m.Reorders others →
      (({ m with assignments := others }.process record).Succeeds ↔ (m.process record).Succeeds) ∧
      ∀ ps qs, (m.process record).outcome = .ok (.object m.cls ps) →
        ({ m with assignments := others }.process record).outcome = .ok (.object m.cls qs) → qs.Perm ps := by
  have hm : m.process record = m.build d := process_of_opened opened
  refine ⟨?_, ?_, ?_, ?_⟩
  · rw [hm]
    exact build_succeeds_iff ordinary d
  · intro e
    rw [hm]
    exact build_error_iff ordinary d e
  · intro value h
    rw [hm] at h
    obtain ⟨hall, rfl⟩ := (build_ok_iff ordinary d value).1 h
    exact ⟨_, rfl, decides_entries hall⟩
  · intro others hothers
    have ordinary' : ∀ a ∈ others, ObjectClass.isReserved a.name = false :=
      fun a ha => ordinary a (hothers.mem_iff.1 ha)
    have hm' : { m with assignments := others }.process record = { m with assignments := others }.build d :=
      process_of_opened (m := { m with assignments := others }) opened
    rw [hm, hm']
    refine ⟨?_, ?_⟩
    · rw [build_succeeds_iff ordinary d, build_succeeds_iff (m := { m with assignments := others }) ordinary' d]
      exact ⟨fun h a ha => h a (hothers.mem_iff.2 ha), fun h a ha => h a (hothers.mem_iff.1 ha)⟩
    · intro ps qs hps hqs
      obtain ⟨-, hps⟩ := (build_ok_iff ordinary d _).1 hps
      obtain ⟨-, hqs⟩ := (build_ok_iff (m := { m with assignments := others }) ordinary' d _).1 hqs
      cases hps
      cases hqs
      exact hothers.entries_perm d.record d.root

/-- a title is assigned three times, the last time from nothing -/
def titledMapping : Mapping :=
  ⟨⟨"Aggregation", true⟩, .json, [],
    [.property "title" (.path ⟨"$.headline", [.child "headline"]⟩) none false,
      .property "language" (.literal (.str "en")) none false,
      .property "title" (.path ⟨"$.subtitle", [.child "subtitle"]⟩) none false,
      .property "title" (.path ⟨"$.missing", [.child "missing"]⟩) none false]⟩

def atlasRecord : Record := .harvested (.dict [("headline", .str "Maps"), ("subtitle", .str "Atlases")]) none

/-- the title is the second one, at the place of the first -/
theorem titled_in_order :
    ∃ d, Document.ofRecord 0 titledMapping.format atlasRecord titledMapping.arguments = .ok d ∧
      titledMapping.Decides d [("title", .str "Atlases"), ("language", .str "en")] := by
  refine ⟨_, rfl, ?_⟩
  have opened : Document.ofRecord 0 titledMapping.format atlasRecord titledMapping.arguments = .ok _ := rfl
  obtain ⟨properties, same, decides⟩ := (process_in_order (by decide) opened).2.2.1 _ rfl
  cases same
  exact decides

end Mapping

end Harvest
