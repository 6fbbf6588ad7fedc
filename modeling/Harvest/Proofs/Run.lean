/-
Laws of runs: what a run for each of several items ends in, and what happens in it, said item by item.

- `each_ok_iff`: it succeeds iff the run for every item does, and gives their results in order.
- `each_error_iff`: it fails with `e` iff some item's run fails and the first of these fails with `e`.
- `events_each_of_succeed`, `events_each_of_firstFails`: its events are those of the items in order, up to and including the
  first one whose run fails. What stands after that one does not matter.
- `effect_bind`, `effect_each_flatMap`: what happens in a run, without its result, is put together from what happens in its
  parts.
-/
import Harvest.Mapping.Run
import Mathlib.Data.List.Forall2

namespace Harvest.Run

variable {α β γ : Type}

/-- the run ends in a result -/
def Succeeds (x : Run α) : Prop := ∃ a, x.outcome = .ok a

/-- the runs for the items of `before` succeed, and the run for the item `a` next to them fails with `e` -/
def FirstFails (f : α → Run β) (items before : List α) (a : α) (e : Failure) : Prop :=
  (∃ after, items = before ++ a :: after) ∧ (∀ b ∈ before, (f b).Succeeds) ∧ (f a).outcome = .error e

theorem succeeds_or_fails (x : Run α) : x.Succeeds ∨ ∃ e, x.outcome = .error e := by
  cases h : x.outcome with
  | error e => exact Or.inr ⟨e, rfl⟩
  | ok a => exact Or.inl ⟨a, h⟩

theorem not_succeeds_of_error {x : Run α} {e : Failure} (h : x.outcome = .error e) : ¬x.Succeeds := by
  rintro ⟨a, ha⟩
  rw [h] at ha
  cases ha

/-! ## One run after another -/

theorem bind_ok_iff {x : Run α} {f : α → Run β} {b : β} :
    (x.bind f).outcome = .ok b ↔ ∃ a, x.outcome = .ok a ∧ (f a).outcome = .ok b := by
  cases h : x.outcome with
  | error e => simp [bind_of_error h]
  | ok a => simp [bind_of_ok h]

theorem bind_error_iff {x : Run α} {f : α → Run β} {e : Failure} :
    (x.bind f).outcome = .error e ↔
      x.outcome = .error e ∨ ∃ a, x.outcome = .ok a ∧ (f a).outcome = .error e := by
  cases h : x.outcome with
  | error e' => simp [bind_of_error h]
  | ok a => simp [bind_of_ok h]

theorem map_ok_iff {x : Run α} {f : α → β} {b : β} :
    (x.map f).outcome = .ok b ↔ ∃ a, x.outcome = .ok a ∧ f a = b := by
  cases h : x.outcome <;> simp [map, h, Except.map]

theorem map_error_iff {x : Run α} {f : α → β} {e : Failure} :
    (x.map f).outcome = .error e ↔ x.outcome = .error e := by
  cases h : x.outcome <;> simp [map, h, Except.map]

theorem map_succeeds_iff {x : Run α} {f : α → β} : (x.map f).Succeeds ↔ x.Succeeds := by
  constructor
  · rintro ⟨b, hb⟩
    obtain ⟨a, ha, _⟩ := map_ok_iff.1 hb
    exact ⟨a, ha⟩
  · rintro ⟨a, ha⟩
    exact ⟨f a, map_ok_iff.2 ⟨a, ha, rfl⟩⟩

theorem bind_map (x : Run α) (f : α → Run β) (g : β → γ) : (x.bind f).map g = x.bind fun a => (f a).map g := by
  cases h : x.outcome <;> simp [bind, map, h, Except.map]

theorem map_map (x : Run α) (f : α → β) (g : β → γ) : (x.map f).map g = x.map fun a => g (f a) := by
  cases h : x.outcome <;> simp [map, h, Except.map]

theorem map_self (x : Run α) : x.map (fun a => a) = x := by
  obtain ⟨events, outcome⟩ := x
  cases outcome <;> rfl

theorem map_bind (x : Run α) (f : α → β) (g : β → Run γ) : (x.map f).bind g = x.bind fun a => g (f a) := by
  cases h : x.outcome <;> simp [bind, map, h, Except.map]

theorem bind_done (x : Run α) : x.bind done = x := by
  obtain ⟨events, outcome⟩ := x
  cases outcome <;> simp [bind, done]

theorem events_bind_ofExcept (x : Run α) (f : α → Except Failure β) : (x.bind fun a => ofExcept (f a)).events = x.events := by
  cases h : x.outcome <;> simp [bind, ofExcept, h]

theorem outcome_bind_ofExcept (x : Run α) (f : α → Except Failure β) :
    (x.bind fun a => ofExcept (f a)).outcome = x.outcome.bind f := by
  cases h : x.outcome <;> simp [bind, ofExcept, h, Except.bind]

theorem ofExcept_map_bind (x : Except Failure α) (f : α → β) (g : β → Run γ) :
    (ofExcept (x.map f)).bind g = (ofExcept x).bind fun a => g (f a) := by
  cases x <;> rfl

theorem ofExcept_bind_bind (x : Except Failure α) (f : α → Except Failure β) (g : β → Run γ) :
    ((ofExcept x).bind fun a => (ofExcept (f a)).bind g) = (ofExcept (x.bind f)).bind g := by
  cases x <;> rfl

theorem ofExcept_ok_bind (a : α) (f : α → Run β) : (ofExcept (.ok a)).bind f = f a :=
  done_bind a f

/-- what comes after turns on the outcome only -/
theorem outcome_bind_congr {x y : Run α} {f g : α → Run β} (h : x.outcome = y.outcome)
    (hfg : ∀ a, (f a).outcome = (g a).outcome) : (x.bind f).outcome = (y.bind g).outcome := by
  cases hx : x.outcome with
  | error e => rw [bind_of_error hx, bind_of_error (h ▸ hx)]
  | ok a =>
    rw [bind_of_ok hx, bind_of_ok (h ▸ hx)]
    exact hfg a

/-! ## A run for each item -/

theorem FirstFails.here {f : α → Run β} {a : α} {e : Failure} (h : (f a).outcome = .error e) (rest : List α) :
    FirstFails f (a :: rest) [] a e :=
  ⟨⟨rest, rfl⟩, by simp, h⟩

theorem FirstFails.cons {f : α → Run β} {items before : List α} {a b : α} {e : Failure} (hb : (f b).Succeeds)
    (h : FirstFails f items before a e) : FirstFails f (b :: items) (b :: before) a e := by
  obtain ⟨⟨after, rfl⟩, hbefore, ha⟩ := h
  refine ⟨⟨after, rfl⟩, ?_, ha⟩
  intro c hc
  rcases List.mem_cons.1 hc with rfl | hc
  · exact hb
  · exact hbefore c hc

theorem FirstFails.mem {f : α → Run β} {items before : List α} {a : α} {e : Failure}
    (h : FirstFails f items before a e) : a ∈ items := by
  obtain ⟨⟨after, rfl⟩, -⟩ := h
  simp

theorem each_ok_iff {f : α → Run β} {items : List α} {results : List β} :
    (each f items).outcome = .ok results ↔ List.Forall₂ (fun a b => (f a).outcome = .ok b) items results := by
  induction items generalizing results with
  | nil => simp [each, done, eq_comm]
  | cons a rest ih =>
    rw [each, bind_ok_iff, List.forall₂_cons_left_iff]
    simp only [map_ok_iff, ih, eq_comm (b := results)]
    constructor
    · rintro ⟨b, hb, bs, hbs, rfl⟩
      exact ⟨b, bs, hb, hbs, rfl⟩
    · rintro ⟨b, bs, hb, hbs, rfl⟩
      exact ⟨b, hb, bs, hbs, rfl⟩

theorem each_error_iff {f : α → Run β} {items : List α} {e : Failure} :
    (each f items).outcome = .error e ↔ ∃ before a, FirstFails f items before a e := by
  induction items with
  | nil => simp [each, done, FirstFails]
  | cons a rest ih =>
    rw [each, bind_error_iff]
    simp only [map_error_iff, ih]
    constructor
    · rintro (ha | ⟨b, hb, before, c, hc⟩)
      · exact ⟨[], a, .here ha rest⟩
      · exact ⟨a :: before, c, hc.cons ⟨b, hb⟩⟩
    · rintro ⟨before, c, ⟨after, hsplit⟩, hbefore, hc⟩
      cases before with
      | nil =>
        obtain ⟨rfl, rfl⟩ := List.cons.inj hsplit
        exact Or.inl hc
      | cons b before =>
        obtain ⟨rfl, rfl⟩ := List.cons.inj hsplit
        obtain ⟨r, hr⟩ := hbefore a (by simp)
        exact Or.inr ⟨r, hr, before, c, ⟨after, rfl⟩, fun d hd => hbefore d (by simp [hd]), hc⟩

theorem outcome_each_congr {f g : α → Run β} {items : List α} (h : ∀ a ∈ items, (f a).outcome = (g a).outcome) :
    (each f items).outcome = (each g items).outcome := by
  induction items with
  | nil => rfl
  | cons a rest ih =>
    refine outcome_bind_congr (h a List.mem_cons_self) fun b => congrArg (Except.map _) (ih fun c hc => ?_)
    exact h c (List.mem_cons_of_mem a hc)

theorem each_succeeds_iff {f : α → Run β} {items : List α} :
    (each f items).Succeeds ↔ ∀ a ∈ items, (f a).Succeeds := by
  induction items with
  | nil => simp [Succeeds, each, done]
  | cons a rest ih =>
    rw [List.forall_mem_cons, ← ih]
    simp only [Succeeds, each, bind_ok_iff, map_ok_iff]
    constructor
    · rintro ⟨_, b, hb, bs, hbs, -⟩
      exact ⟨⟨b, hb⟩, bs, hbs⟩
    · rintro ⟨⟨b, hb⟩, bs, hbs⟩
      exact ⟨b :: bs, b, hb, bs, hbs, rfl⟩

/-- without a first failure there is none -/
theorem succeed_or_firstFails (f : α → Run β) (items : List α) :
    (∀ a ∈ items, (f a).Succeeds) ∨ ∃ before a e, FirstFails f items before a e := by
  rcases succeeds_or_fails (each f items) with h | ⟨e, he⟩
  · exact Or.inl (each_succeeds_iff.1 h)
  · obtain ⟨before, a, h⟩ := each_error_iff.1 he
    exact Or.inr ⟨before, a, e, h⟩

/-- the run without its result: what happens in it, and how it fails if it does -/
def effect (x : Run α) : Run Unit :=
  x.map fun _ => ()

theorem effect_unit (x : Run Unit) : x.effect = x :=
  map_self x

theorem effect_map (x : Run α) (f : α → β) : (x.map f).effect = x.effect :=
  map_map x f fun _ => ()

/-- if what follows has one effect for all results, it does not matter which result there is -/
theorem effect_bind {x : Run α} {f : α → Run β} {y : Run Unit} (h : ∀ a, x.outcome = .ok a → (f a).effect = y) :
    (x.bind f).effect = x.effect.bind fun _ => y := by
  cases hx : x.outcome with
  | error e => simp [bind, effect, map, hx, Except.map]
  | ok a =>
    rw [← h a hx]
    simp [bind, effect, map, hx, Except.map]

theorem effect_each_cons (f : α → Run β) (a : α) (rest : List α) :
    (each f (a :: rest)).effect = (f a).effect.bind fun _ => (each f rest).effect := by
  rw [each]
  exact effect_bind fun b _ => effect_map _ _

theorem effect_each_singleton (f : α → Run β) (a : α) : (each f [a]).effect = (f a).effect := by
  rw [effect_each_cons]
  cases h : (f a).outcome <;> simp [each, done, bind, effect, map, h, Except.map]

theorem effect_each_append (f : α → Run β) (items more : List α) :
    (each f (items ++ more)).effect = (each f items).effect.bind fun _ => (each f more).effect := by
  induction items with
  | nil => exact (done_bind () fun _ => (each f more).effect).symm
  | cons a rest ih => rw [List.cons_append, effect_each_cons, effect_each_cons, ih, bind_assoc]

/-- runs for items in groups are runs for all of them in order -/
theorem effect_each_flatMap (f : β → Run γ) (g : α → List β) (items : List α) :
    (each f (items.flatMap g)).effect = (each (fun a => each f (g a)) items).effect := by
  induction items with
  | nil => rfl
  | cons a rest ih => rw [List.flatMap_cons, effect_each_append, effect_each_cons, ih]

theorem effect_each_congr {f : α → Run β} {g : α → Run γ} {items : List α}
    (h : ∀ a ∈ items, (f a).effect = (g a).effect) : (each f items).effect = (each g items).effect := by
  induction items with
  | nil => rfl
  | cons a rest ih =>
    obtain ⟨hfirst, hrest⟩ := List.forall_mem_cons.1 h
    rw [effect_each_cons, effect_each_cons, hfirst, ih hrest]

end Harvest.Run
