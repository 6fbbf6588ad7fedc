/-
Results of computations in steps, taken apart: what ends in a result has come through each of its steps, and each of several
results comes from its item.
-/
import Mathlib.Data.List.Forall2

namespace Harvest

variable {ε α β : Type} {b : β}

theorem exists_of_bind {x : Except ε α} {f : α → Except ε β} (h : (x >>= f) = .ok b) : ∃ a, x = .ok a ∧ f a = .ok b := by
  cases x with
  | error e => cases h
  | ok a => exact ⟨a, rfl, h⟩

theorem exists_of_map {x : Except ε α} {f : α → β} (h : x.map f = .ok b) : ∃ a, x = .ok a ∧ f a = b := by
  cases x with
  | error e => cases h
  | ok a => exact ⟨a, rfl, Except.ok.inj h⟩

theorem of_mapError {ε' : Type} {x : Except ε β} {f : ε → ε'} (h : x.mapError f = .ok b) : x = .ok b := by
  cases x with
  | error e => cases h
  | ok a => exact congrArg Except.ok (Except.ok.inj h)

/-- a check that throws under a condition is passed -/
theorem of_unless {condition : Prop} [Decidable condition] {e : ε} {next : PUnit → Except ε β}
    (h : (if condition then throw e >>= next else next ⟨⟩) = .ok b) : ¬condition ∧ next ⟨⟩ = .ok b := by
  split at h
  · cases h
  · exact ⟨‹_›, h⟩

/-- what holds of all items on one side, and of what each of them is related to, holds of all items on the other side -/
theorem forall_of_forall₂ {R : α → β → Prop} {P : β → Prop} {as : List α} {bs : List β}
    (related : List.Forall₂ R as bs) (kept : ∀ a ∈ as, ∀ b, R a b → P b) : ∀ b ∈ bs, P b := by
  induction related with
  | nil => simp
  | cons hab _ ih =>
    obtain ⟨hfirst, hrest⟩ := List.forall_mem_cons.1 kept
    exact List.forall_mem_cons.2 ⟨hfirst _ hab, ih hrest⟩

/-! ## Values that are there or not -/

section

variable {R : α → β → Prop} {a : α} {a? : Option α} {b? : Option β}

theorem exists_of_rel (h : Option.Rel R (some a) b?) : ∃ b, b? = some b ∧ R a b := by
  cases h with
  | some hab => exact ⟨_, rfl, hab⟩

theorem eq_none_of_rel (h : Option.Rel R none b?) : b? = none := by
  cases h
  rfl

theorem isSome_eq_of_rel (h : Option.Rel R a? b?) : a?.isSome = b?.isSome := by
  cases h <;> rfl

end

/-! ## Failures -/

/-- a result is no failure of another kind -/
def FailsOnly (kind : ε → Prop) (x : Except ε α) : Prop :=
  ∀ e, x = .error e → kind e

namespace FailsOnly

variable {kind other : ε → Prop} {x : Except ε α} {e : ε}

theorem ok (a : α) : FailsOnly kind (.ok a) := nofun

theorem error (h : kind e) : FailsOnly kind (.error e : Except ε α) := by
  rintro _ ⟨⟩
  exact h

theorem mono (h : FailsOnly kind x) (weaker : ∀ e, kind e → other e) : FailsOnly other x :=
  fun e he => weaker e (h e he)

/-- a failure that is handed on is of the same kind -/
theorem handOn (h : FailsOnly kind x) (he : x = .error e) : FailsOnly kind (.error e : Except ε β) :=
  .error (h e he)

theorem bind {f : α → Except ε β} (first : FailsOnly kind x) (next : ∀ a, FailsOnly kind (f a)) :
    FailsOnly kind (x.bind f) := by
  cases x with
  | error e => exact first.handOn rfl
  | ok a => exact next a

theorem map {f : α → β} (h : FailsOnly kind x) : FailsOnly kind (x.map f) := by
  cases x with
  | error e => exact h.handOn rfl
  | ok a => exact ok _

end FailsOnly

/-! ## Two results -/

/-- two results agree: they are one failure, or values that are related -/
inductive Agree {α β : Type} (R : α → β → Prop) : Except ε α → Except ε β → Prop
  | ok {a : α} {b : β} (related : R a b) : Agree R (.ok a) (.ok b)
  | error (e : ε) : Agree R (.error e) (.error e)

namespace Agree

variable {γ δ : Type} {R : α → β → Prop} {S : γ → δ → Prop} {x : Except ε α} {y : Except ε β}

theorem map {f : α → γ} {g : β → δ} (agree : Agree R x y) (kept : ∀ a b, R a b → S (f a) (g b)) :
    Agree S (x.map f) (y.map g) := by
  cases agree with
  | ok related => exact .ok (kept _ _ related)
  | error e => exact .error e

/-- what holds of one failure, and of any two values that are related, holds of results that agree -/
@[elab_as_elim]
theorem both {P : Except ε α → Except ε β → Prop} (agree : Agree R x y) (error : ∀ e, P (.error e) (.error e))
    (ok : ∀ a b, R a b → P (.ok a) (.ok b)) : P x y := by
  cases agree with
  | ok related => exact ok _ _ related
  | error e => exact error e

theorem of_eq {R : α → α → Prop} {x y : Except ε α} (same : x = y) (refl : ∀ a, R a a) : Agree R x y := by
  subst same
  cases x with
  | error e => exact .error e
  | ok a => exact .ok (refl a)

theorem eq {x y : Except ε α} (agree : Agree Eq x y) : x = y := by
  cases agree with
  | ok related => rw [related]
  | error e => rfl

end Agree

end Harvest
