/-
Segments of path expressions as they are written. A segment carries what makes it one: a name without quotes has a character
and no separator, a name in quotes lacks its quote, and an index has a digit.

- `readSegment?_text`: reading gives a written segment's step back, if what follows cannot belong to the segment.
- `exists_of_readSegment?`: whatever is read is the step of a written segment.
- `eq_of_append_eq`: so no text can be begun by two segments.
-/
import Harvest.Path.Parser
import Harvest.Text.Cut
import Mathlib.Data.List.Induction
import Mathlib.Data.List.TakeWhile
import Mathlib.Data.Nat.Digits.Defs

namespace Harvest.Path

open Harvest.Text

/-- the characters that a name without quotes lacks -/
def separators : List Char := ['.', '[', ']', '\'', '"']

/-- the marks that a name can stand between -/
inductive Quote where
  | single
  | double
  deriving DecidableEq, Repr

def Quote.mark : Quote → Char
  | single => '\''
  | double => '"'

/-- a segment as it is written -/
inductive Segment where
  /-- `.name`, by its characters -/
  | name (first : Char) (more : List Char) (plain : ∀ c ∈ first :: more, c ∉ separators)
  /-- `['name']` or `["name"]` -/
  | quoted (quote : Quote) (inner : List Char) (closed : quote.mark ∉ inner)
  /-- `[n]` or `[-n]`, by its digits -/
  | index (negative : Bool) (first : Char) (more : List Char) (decimal : ∀ c ∈ first :: more, isDecimalDigit c = true)
  /-- `[*]` -/
  | each

/-- the number that decimal digits of any script write -/
def numberOf (digits : List Char) : Nat :=
  Nat.ofDigits 10 (digits.reverse.map fun c => (digitValue? c).getD 0)

namespace Segment

def text : Segment → List Char
  | name first more _ => '.' :: first :: more
  | quoted quote inner _ => '[' :: quote.mark :: (inner ++ [quote.mark, ']'])
  | index true first more _ => '[' :: '-' :: first :: (more ++ [']'])
  | index false first more _ => '[' :: first :: (more ++ [']'])
  | each => ['[', '*', ']']

/-- the step that a segment stands for -/
def step : Segment → Step
  | name first more _ => if first :: more = ['*'] then .wildcard else .child (String.ofList (first :: more))
  | quoted _ inner _ => .child (String.ofList inner)
  | index negative first more _ => .index (if negative then -numberOf (first :: more) else numberOf (first :: more))
  | each => .each

/-- what follows the segment cannot belong to it; only a name without quotes could go on -/
def Ends (s : Segment) (rest : List Char) : Prop :=
  match s with
  | name .. => ∀ c ∈ rest.head?, c ∈ separators
  | _ => True

/-- a segment starts with a separator -/
theorem exists_text_eq_cons (s : Segment) : ∃ c cs, s.text = c :: cs ∧ c ∈ separators := by
  rcases s with _ | _ | ⟨negative, _, _, _⟩ | _
  · exact ⟨_, _, rfl, by decide⟩
  · exact ⟨_, _, rfl, by decide⟩
  · cases negative <;> exact ⟨_, _, rfl, by decide⟩
  · exact ⟨_, _, rfl, by decide⟩

theorem text_ne_nil (s : Segment) : s.text ≠ [] := by
  obtain ⟨c, cs, htext, -⟩ := s.exists_text_eq_cons
  rw [htext]
  exact List.cons_ne_nil c cs

theorem length_text_pos (s : Segment) : 0 < s.text.length :=
  List.length_pos_iff.2 s.text_ne_nil

/-- a segment with nothing after it ends there -/
theorem ends_nil (s : Segment) : s.Ends [] := by
  cases s <;> simp [Ends]

/-- a segment ends where another one begins -/
theorem ends_text_append (s t : Segment) (rest : List Char) : s.Ends (t.text ++ rest) := by
  obtain ⟨c, cs, htext, hc⟩ := t.exists_text_eq_cons
  cases s with
  | name => simpa [Ends, htext] using hc
  | _ => trivial

end Segment

/-! ## Characters -/

theorem isNameChar_iff {c : Char} : isNameChar c = true ↔ c ∉ separators := by
  simp [isNameChar, separators, and_assoc]

/-- a name without quotes goes on up to a separator -/
theorem head_dropWhile_isNameChar (cs : List Char) : ∀ c ∈ (cs.dropWhile isNameChar).head?, c ∈ separators := by
  intro c hc
  have hhead := List.head?_dropWhile_not isNameChar cs
  rw [Option.mem_def.1 hc] at hhead
  exact not_not.1 (mt isNameChar_iff.2 (by simpa using hhead))

theorem decimalValue_eq_numberOf (digits : List Char) : decimalValue digits = numberOf digits := by
  induction digits using List.reverseRecOn with
  | nil => rfl
  | append_singleton digits c ih =>
    rw [decimalValue_append_singleton, ih, numberOf, numberOf, List.reverse_append, List.reverse_singleton,
      List.singleton_append, List.map_cons, Nat.ofDigits_cons]
    exact Nat.add_comm _ _

/-- the marks of paths are no digits in any script -/
theorem ne_of_isDecimalDigit {c mark : Char} (digit : isDecimalDigit c = true) (h : isDecimalDigit mark = false) :
    c ≠ mark := by
  rintro rfl
  rw [digit] at h
  cases h

/-! ## Reading a written segment -/

/-- a name without quotes is read up to the first separator -/
theorem readSegment?_name {first : Char} {more rest : List Char} (plain : ∀ c ∈ first :: more, c ∉ separators)
    (ends : ∀ c ∈ rest.head?, c ∈ separators) :
    readSegment? ('.' :: (first :: more ++ rest)) = some (nameStep (first :: more), rest) := by
  have hsplit := takeWhile_append_ends (p := isNameChar) (fun c hc => isNameChar_iff.2 (plain c hc)) rest
    fun c hc => by simpa using mt isNameChar_iff.1 (not_not.2 (ends c hc))
  rw [readSegment?, hsplit.1, hsplit.2]

theorem readQuoted?_name {quote : Char} {name : List Char} (closed : quote ∉ name) (rest : List Char) :
    readQuoted? quote (name ++ quote :: ']' :: rest) = some (.child (String.ofList name), rest) := by
  have hinside : ∀ c ∈ name, (c != quote) = true := fun c hc => bne_iff_ne.2 fun same => closed (same ▸ hc)
  have hsplit := takeWhile_append_ends hinside (quote :: ']' :: rest) (by simp)
  simp only [readQuoted?, hsplit.1, hsplit.2]

theorem readIndex?_digits (negative : Bool) {first : Char} {more : List Char}
    (decimal : ∀ c ∈ first :: more, isDecimalDigit c = true) (rest : List Char) :
    readIndex? negative (first :: (more ++ ']' :: rest)) =
      some (.index (if negative then -numberOf (first :: more) else numberOf (first :: more)), rest) := by
  have hsplit := takeWhile_append_ends decimal (']' :: rest) fun c hc => by
    obtain rfl : ']' = c := Option.some.inj hc
    decide
  rw [List.cons_append] at hsplit
  rw [readIndex?, hsplit.1, hsplit.2]
  simp only [decimalValue_eq_numberOf]

/-- reading a written segment gives its step and what follows it -/
theorem readSegment?_text {s : Segment} {rest : List Char} (ends : s.Ends rest) :
    readSegment? (s.text ++ rest) = some (s.step, rest) := by
  cases s with
  | name first more plain =>
    have hstep : (Segment.name first more plain).step = nameStep (first :: more) := by
      simp [Segment.step, nameStep]
    rw [hstep]
    exact readSegment?_name plain ends
  | quoted quote inner closed =>
    have hquoted := readQuoted?_name closed rest
    cases quote <;> simpa [Segment.text, Segment.step, Quote.mark, readSegment?] using hquoted
  | index negative first more decimal =>
    have hindex := readIndex?_digits negative decimal rest
    cases negative with
    | true => simpa [Segment.text, Segment.step, readSegment?] using hindex
    | false =>
      -- a digit is none of the characters that begin the other segments in brackets
      have hfirst : isDecimalDigit first = true := decimal first List.mem_cons_self
      have hne : ∀ mark, isDecimalDigit mark = false → first ≠ mark := fun mark => ne_of_isDecimalDigit hfirst
      have hbranch : readSegment? ('[' :: first :: (more ++ ']' :: rest)) =
          readIndex? false (first :: (more ++ ']' :: rest)) := by
        rw [readSegment?]
        all_goals
          intro _ same
          simp only [List.cons.injEq] at same
          exact absurd same.1 (hne _ (by decide))
      simpa [Segment.text, Segment.step, hbranch] using hindex
  | each => rfl

/-! ## Every segment that is read -/

theorem exists_of_readQuoted? (quote : Quote) {cs rest : List Char} {step : Step}
    (h : readQuoted? quote.mark cs = some (step, rest)) :
    ∃ s : Segment, '[' :: quote.mark :: cs = s.text ++ rest ∧ s.step = step ∧ s.Ends rest := by
  rw [readQuoted?] at h
  split at h
  · rename_i mark after hdrop
    cases h
    have hmark : mark = quote.mark := by
      have hhead := List.head?_dropWhile_not (· != quote.mark) cs
      rw [hdrop] at hhead
      simpa using hhead
    have hclosed : quote.mark ∉ cs.takeWhile (· != quote.mark) := by
      intro hmem
      simpa using List.mem_takeWhile_imp hmem
    refine ⟨.quoted quote (cs.takeWhile (· != quote.mark)) hclosed, ?_, rfl, trivial⟩
    have hcs := List.takeWhile_append_dropWhile (p := (· != quote.mark)) (l := cs)
    rw [hdrop, hmark] at hcs
    simpa [Segment.text] using hcs.symm
  · cases h

theorem exists_of_readIndex? (negative : Bool) {cs rest : List Char} {step : Step}
    (h : readIndex? negative cs = some (step, rest)) :
    ∃ s : Segment, '[' :: (if negative then '-' :: cs else cs) = s.text ++ rest ∧ s.step = step ∧ s.Ends rest := by
  rw [readIndex?] at h
  split at h
  · rename_i first more after hdigits hdrop
    cases h
    have hdecimal : ∀ c ∈ first :: more, isDecimalDigit c = true := by
      intro c hc
      rw [← hdigits] at hc
      exact List.mem_takeWhile_imp hc
    have hcs := List.takeWhile_append_dropWhile (p := isDecimalDigit) (l := cs)
    rw [hdigits, hdrop] at hcs
    refine ⟨.index negative first more hdecimal, ?_, ?_, trivial⟩
    · cases negative <;> simpa [Segment.text] using hcs.symm
    · simp only [Segment.step, decimalValue_eq_numberOf]
  · cases h

/-- whatever is read is the step of a written segment, which ends where reading stops -/
theorem exists_of_readSegment? {cs rest : List Char} {step : Step} (h : readSegment? cs = some (step, rest)) :
    ∃ s : Segment, cs = s.text ++ rest ∧ s.step = step ∧ s.Ends rest := by
  unfold readSegment? at h
  split at h
  · rename_i after
    cases hname : after.takeWhile isNameChar with
    | nil => simp [hname] at h
    | cons first more =>
      simp only [hname, Option.some.injEq, Prod.mk.injEq] at h
      obtain ⟨rfl, rfl⟩ := h
      have hplain : ∀ c ∈ first :: more, c ∉ separators := by
        intro c hc
        rw [← hname] at hc
        exact isNameChar_iff.1 (List.mem_takeWhile_imp hc)
      refine ⟨.name first more hplain, ?_, ?_, ?_⟩
      · have hafter := List.takeWhile_append_dropWhile (p := isNameChar) (l := after)
        rw [hname] at hafter
        simpa [Segment.text] using hafter.symm
      · simp [Segment.step, nameStep]
      · exact head_dropWhile_isNameChar after
  · exact exists_of_readQuoted? .single h
  · exact exists_of_readQuoted? .double h
  · cases h
    exact ⟨.each, rfl, rfl, trivial⟩
  · exact exists_of_readIndex? true h
  · exact exists_of_readIndex? false h
  · cases h

/-! ## Segments are told apart by their texts -/

theorem Quote.mark_injective : Function.Injective Quote.mark := by
  intro a b h
  cases a <;> cases b <;> first | rfl | exact absurd h (by decide)

namespace Segment

theorem step_eq_of_text_eq {s t : Segment} (h : s.text = t.text) : s.step = t.step := by
  have hs := readSegment?_text s.ends_nil
  rw [h, readSegment?_text t.ends_nil] at hs
  simpa using hs.symm

theorem text_injective : Function.Injective text := by
  intro s t h
  -- the steps are the same too, which leaves only segments of one kind, or a name with a dot and one in brackets
  have hstep := step_eq_of_text_eq h
  cases s with
  | name first more plain =>
    cases t with
    | name => simpa [text] using h
    | index negative => cases negative <;> simp [text] at h
    | _ => simp [text] at h
  | quoted quote inner closed =>
    cases t with
    | name => simp [text] at h
    | quoted quote' inner' closed' =>
      simp only [text, List.cons.injEq, true_and] at h
      obtain rfl := Quote.mark_injective h.1
      obtain rfl := List.append_cancel_right h.2
      rfl
    | _ => cases hstep
  | index negative first more decimal =>
    cases t with
    | name => cases negative <;> simp [text] at h
    | index negative' first' more' decimal' =>
      have hfirst : first ≠ '-' := ne_of_isDecimalDigit (decimal first List.mem_cons_self) (by decide)
      have hfirst' : '-' ≠ first' := (ne_of_isDecimalDigit (decimal' first' List.mem_cons_self) (by decide)).symm
      cases negative <;> cases negative' <;> simp_all [text]
    | _ => cases hstep
  | each =>
    cases t with
    | name => simp [text] at h
    | each => rfl
    | _ => cases hstep

/-- no text can be begun by two segments that end in it -/
theorem eq_of_append_eq {s t : Segment} {rest rest' : List Char} (hs : s.Ends rest) (ht : t.Ends rest')
    (h : s.text ++ rest = t.text ++ rest') : s = t ∧ rest = rest' := by
  have hread := readSegment?_text hs
  rw [h, readSegment?_text ht] at hread
  obtain rfl : rest' = rest := congrArg Prod.snd (Option.some.inj hread)
  exact ⟨text_injective (List.append_cancel_right h), rfl⟩

/-- what a segment begins is begun by one that ends there, and is no shorter -/
theorem exists_longest (t : Segment) (rest : List Char) :
    ∃ s after, t.text ++ rest = text s ++ after ∧ s.Ends after ∧ t.text.length ≤ s.text.length := by
  cases t with
  | name first more plain =>
    have hplain : ∀ c ∈ first :: (more ++ rest.takeWhile isNameChar), c ∉ separators := by
      intro c hc
      rcases List.mem_append.1 (List.cons_append .. ▸ hc) with hc | hc
      · exact plain c hc
      · exact isNameChar_iff.1 (List.mem_takeWhile_imp hc)
    refine ⟨.name first (more ++ rest.takeWhile isNameChar) hplain, rest.dropWhile isNameChar, ?_, ?_, ?_⟩
    · simp [text]
    · exact head_dropWhile_isNameChar rest
    · simp [text]
  | quoted quote inner closed => exact ⟨.quoted quote inner closed, rest, rfl, trivial, le_rfl⟩
  | index negative first more decimal => exact ⟨.index negative first more decimal, rest, rfl, trivial, le_rfl⟩
  | each => exact ⟨.each, rest, rfl, trivial, le_rfl⟩

end Segment

end Harvest.Path
