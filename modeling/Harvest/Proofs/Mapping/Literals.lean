/-
Literals. What stands for itself is assigned as it is: nothing of the record, of the context or of other assignments decides
it. The one exception is the empty list, which is taken for a source that finds nothing.

A literal under the name that stands for all properties is left out here. It is lent to the object and holds what is set on that
afterwards, so it does not stay what it was.

- `evaluate_literal`: the value of a property with a literal.
- `applyAll_append`, `lookup_of_applyAll`: assignments in order, and what those to other properties keep.
- `literals_assigned`: wherever it stands, a literal other than the empty list is assigned, or handed to the transform once.
- `empty_list_skipped`: an assignment of the empty list does nothing.
-/
import Harvest.Proofs.Data.Entries
import Harvest.Proofs.Mapping.Trace
import Harvest.Proofs.Results

namespace Harvest

open Run

/-- what a literal is assigned as: a list as it is, anything else in a list of its own if many values are asked for -/
def Data.assigned (many : Bool) : Data → Data
  | .list items => .list items
  | d => if many then .list [d] else d

/-- a literal is one as it is written, unless it is a text that starts as a path -/
theorem Source.compile_ofData {v : Data} (h : ∀ s, v = .str s → Path.isRooted s = false) :
    (Source.ofData v).compile = .ok (.literal v) := by
  cases v with
  | str s =>
    rw [ofData, h s rfl]
    rfl
  | _ => rfl

theorem Resolved.unwrap_literal {v : Data} (present : v ≠ .list []) (many : Bool) :
    (Resolved.plain v).unwrap many = .ok (some (v.assigned many)) := by
  cases v with
  | list items =>
    cases items with
    | nil => exact absurd rfl present
    | cons d ds => rfl
  | _ => rfl

/-- a transform is called once, on what it is handed -/
theorem calls_transformed (transform? : Option Transform) (d : Data) :
    (transformed transform? d).calls = (transform?.map fun t => (t, d)).toList := by
  cases transform? with
  | none => rfl
  | some t => rfl

namespace Assignment

variable {record : String} {context : Node} {cls : ObjectClass}

/-- a property with a literal gets the literal in every context -/
theorem evaluate_literal {v : Data} (present : v ≠ .list []) (record : String) (context : Node) (name : String)
    (transform? : Option Transform) (many : Bool) :
    (property name (.literal v) transform? many).evaluate record context =
      (transformed transform? (v.assigned many)).map some := by
  rw [evaluate, propertyValue, Source.evaluate, ofExcept_ok_bind, Resolved.unwrap_literal present, ofExcept_ok_bind]

/-! ## Assignments in order -/

theorem applyAll_append (as bs : List (Assignment Path)) (ps : List (String × Data)) :
    applyAll record context cls (as ++ bs) ps =
      (applyAll record context cls as ps).bind (applyAll record context cls bs) := by
  induction as generalizing ps with
  | nil =>
    rw [List.nil_append, applyAll]
    exact (done_bind ps _).symm
  | cons a rest ih =>
    rw [List.cons_append, applyAll, applyAll, bind_assoc]
    congr 1
    funext v?
    rw [bind_assoc]
    congr 1
    funext qs
    exact ih qs

/-- setting another property keeps this one -/
theorem lookup_of_set {name other : String} {ps qs : List (String × Data)} {d : Data} (apart : other ≠ name)
    (kept : other ≠ ObjectClass.propertiesSlot) (h : cls.set ps other d = .ok qs) : qs.lookup name = ps.lookup name := by
  unfold ObjectClass.set at h
  split at h
  · cases h
  · rw [if_neg (by simpa using kept)] at h
    split at h
    · cases h
    · cases h
      exact Entries.lookup_put_of_ne ps d apart.symm

/-- assignments to other properties keep this one -/
theorem lookup_of_applyAll {name : String} {as : List (Assignment Path)} {ps qs : List (String × Data)}
    (apart : ∀ a ∈ as, a.name ≠ name ∧ a.name ≠ ObjectClass.propertiesSlot)
    (h : (applyAll record context cls as ps).outcome = .ok qs) : qs.lookup name = ps.lookup name := by
  induction as generalizing ps with
  | nil =>
    rw [applyAll] at h
    cases h
    rfl
  | cons a rest ih =>
    obtain ⟨⟨hname, hslot⟩, hrest⟩ := List.forall_mem_cons.1 apart
    rw [applyAll] at h
    obtain ⟨v?, -, h⟩ := bind_ok_iff.1 h
    obtain ⟨rs, hset, h⟩ := bind_ok_iff.1 h
    rw [ih hrest h]
    cases v? with
    | none =>
      cases hset
      rfl
    | some d => exact lookup_of_set hname hslot hset

/-! ## Assignments of literals -/

/-- where a block with a literal at its end leads to -/
theorem applyAll_literal {v : Data} (present : v ≠ .list []) (name : String) (transform? : Option Transform) (many : Bool)
    {before : List (Assignment Path)} {ps qs : List (String × Data)}
    (reached : (applyAll record context cls before ps).outcome = .ok qs) :
    applyAll record context cls (before ++ [property name (.literal v) transform? many]) ps =
      ⟨(applyAll record context cls before ps).events ++ (transformed transform? (v.assigned many)).events,
        (transformed transform? (v.assigned many)).outcome.bind (cls.set qs name)⟩ := by
  have hlast : applyAll record context cls [property name (.literal v) transform? many] qs =
      (transformed transform? (v.assigned many)).bind fun w => ofExcept (cls.set qs name w) := by
    have hend : applyAll record context cls [] = Run.done := by
      funext rs
      rw [applyAll]
    rw [applyAll, evaluate_literal present, Run.map_bind, hend]
    congr 1
    funext w
    exact Run.bind_done _
  rw [applyAll_append, Run.bind_of_ok reached, hlast, events_bind_ofExcept, outcome_bind_ofExcept]

/-- wherever the assignment stands, it hands `d` to its transform once, and sets its property to what comes of that -/
structure Assigns (a : Assignment Path) (transform? : Option Transform) (d : Data) : Prop where
  /-- after the assignments before it there is one call more, of the transform on `d`, or none if there is no transform -/
  calls : ∀ record context cls before ps qs, (applyAll record context cls before ps).outcome = .ok qs →
    (applyAll record context cls (before ++ [a]) ps).calls =
      (applyAll record context cls before ps).calls ++ (transform?.map fun t => (t, d)).toList
  /-- the property is set to what the transform gives, or to `d` -/
  sets : ∀ record context cls before ps qs, (applyAll record context cls before ps).outcome = .ok qs →
    (applyAll record context cls (before ++ [a]) ps).outcome =
      (transformed transform? d).outcome.bind (cls.set qs a.name)
  /-- without a transform, a property is `d` then -/
  plain : transform? = none → ObjectClass.isReserved a.name = false → ∀ record context cls before ps qs,
    (applyAll record context cls before ps).outcome = .ok qs →
      ∃ rs, (applyAll record context cls (before ++ [a]) ps).outcome = .ok rs ∧ rs.lookup a.name = some d
  /-- assignments to other properties keep what a property is set to, if none in the block takes the place of all properties -/
  keeps : ObjectClass.isReserved a.name = false → ∀ record context cls before after ps rs,
    (∀ b ∈ before ++ after, b.name ≠ ObjectClass.propertiesSlot) → (∀ b ∈ after, b.name ≠ a.name) →
      (applyAll record context cls (before ++ a :: after) ps).outcome = .ok rs →
        ∃ w, (transformed transform? d).outcome = .ok w ∧ rs.lookup a.name = some w

/-- wherever the assignment stands, all goes on as if it were not there, with a note -/
def IsSkipped (a : Assignment Path) : Prop :=
  ∀ record context cls before after ps,
    (applyAll record context cls (before ++ a :: after) ps).Matches (applyAll record context cls (before ++ after) ps)

theorem assigns_literal {v : Data} (present : v ≠ .list []) (name : String) (transform? : Option Transform) (many : Bool) :
    (property name (.literal v) transform? many).Assigns transform? (v.assigned many) := by
  have hsets : ∀ record context cls before ps qs, (applyAll record context cls before ps).outcome = .ok qs →
      (applyAll record context cls (before ++ [property name (.literal v) transform? many]) ps).outcome =
        (transformed transform? (v.assigned many)).outcome.bind (cls.set qs name) :=
    fun record context cls before ps qs reached => by rw [applyAll_literal present name transform? many reached]
  refine ⟨?_, hsets, ?_, ?_⟩
  · intro record context cls before ps qs reached
    rw [applyAll_literal present name transform? many reached, Run.calls, Run.calls, List.filterMap_append]
    exact congrArg _ (calls_transformed transform? _)
  · rintro rfl ordinary record context cls before ps qs reached
    refine ⟨Entries.put qs name (v.assigned many), ?_, Entries.lookup_put_self qs name _⟩
    rw [hsets record context cls before ps qs reached]
    exact ObjectClass.set_of_not_reserved ordinary cls qs (v.assigned many)
  · intro (ordinary : ObjectClass.isReserved name = false) record context cls before after ps rs singly apart h
    have hafter : ∀ b ∈ after, b.name ≠ name ∧ b.name ≠ ObjectClass.propertiesSlot :=
      fun b hb => ⟨apart b hb, singly b (List.mem_append_right before hb)⟩
    rw [List.append_cons, applyAll_append] at h
    obtain ⟨here, hhere, h⟩ := bind_ok_iff.1 h
    -- the assignment is reached, so the property is set here
    have hreached := hhere
    rw [applyAll_append] at hreached
    obtain ⟨qs, hqs, -⟩ := bind_ok_iff.1 hreached
    rw [hsets record context cls before ps qs hqs] at hhere
    obtain ⟨w, hw, hset⟩ := exists_of_bind hhere
    rw [ObjectClass.set_of_not_reserved ordinary] at hset
    cases hset
    exact ⟨w, hw, (lookup_of_applyAll hafter h).trans (Entries.lookup_put_self qs name w)⟩

theorem isSkipped_emptyList (name : String) (transform? : Option Transform) (many : Bool) :
    (property name (.literal (.list [])) transform? many).IsSkipped := by
  intro record context cls before after ps
  rw [applyAll_append, applyAll_append]
  refine (Run.Matches.refl _).bind fun qs => ?_
  have hnone : (property name (.literal (.list [])) transform? many).evaluate record context =
      ⟨[.noValue name record], .ok none⟩ := rfl
  rw [applyAll, hnone]
  exact ⟨rfl, rfl⟩

/-- **Literals are assigned as they are, all but the empty list.** A literal is data that is wrapped as one, or written as it
is, if it is not a text that starts as a path. Wherever it stands, in any block for an object of any class, for any record and
any context, and under any name but that of all properties: its transform is called once, on the literal, or on a list of its
own with it if many values are asked for; and the property is set to what the transform gives, or to the literal, and in a
block that nowhere assigns all properties at once it keeps that until it is assigned again. The empty list is taken for a source
that finds nothing: all goes on as if it were not assigned. -/
theorem literals_assigned (v : Data) (name : String) (transform? : Option Transform) (many : Bool) :
    ∃ a, (property name (.literal v) transform? many).compile = .ok a ∧
      ((∀ s, v = .str s → Path.isRooted s = false) → (property name (.ofData v) transform? many).compile = .ok a) ∧
      a.name = name ∧
      (v ≠ .list [] → name ≠ ObjectClass.propertiesSlot → a.Assigns transform? (v.assigned many)) ∧
      (v = .list [] → a.IsSkipped) := by
  refine ⟨property name (.literal v) transform? many, rfl, fun plain => ?_, rfl, fun present _ => ?_, ?_⟩
  · rw [compile, Source.compile_ofData plain]
    rfl
  · exact assigns_literal present name transform? many
  · rintro rfl
    exact isSkipped_emptyList name transform? many

/-- a list of nothing but null takes the place of a number -/
theorem nullList_assigned :
    ∃ a, (property "x" (.ofData (.list [.null])) none true).compile = .ok a ∧ Data.list [.null] ≠ .list [] ∧
      ∃ rs, (applyAll "r" ⟨0, [], .json .null, none⟩ ⟨"Aggregation", true⟩
          ([property "x" (.literal (.int 1)) none false] ++ [a]) []).outcome = .ok rs ∧
        rs.lookup "x" = some (.list [.null]) := by
  have present : Data.list [.null] ≠ .list [] := fun h => by cases h
  obtain ⟨a, -, hwritten, hname, hassigns, -⟩ := literals_assigned (.list [.null]) "x" none true
  have ordinary : ObjectClass.isReserved a.name = false := by
    rw [hname]
    decide
  have hset := (hassigns present (by decide)).plain rfl ordinary "r" ⟨0, [], .json .null, none⟩ ⟨"Aggregation", true⟩
    [property "x" (.literal (.int 1)) none false] [] [("x", .int 1)] rfl
  rw [hname] at hset
  exact ⟨a, hwritten (fun s h => by cases h), present, hset⟩

end Assignment

namespace Mapping

/-- the empty list alone, and for a transform -/
def emptyLists : Mapping :=
  ⟨⟨"Aggregation", true⟩, .json, [],
    [.property "x" (.literal (.list [])) none false, .property "y" (.literal (.list [])) (some .length) true]⟩

/-- neither property is set, and the transform is not called -/
theorem emptyLists_not_assigned :
    (emptyLists.process (.harvested (.str "\x7b\x7d") none)).outcome = .ok (.object ⟨"Aggregation", true⟩ []) ∧
      (emptyLists.process (.harvested (.str "\x7b\x7d") none)).calls = [] := by
  constructor
  · rfl
  · rfl

end Mapping

end Harvest
