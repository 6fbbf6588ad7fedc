/-
The grammar of path expressions: `$` and then segments, and nothing else. Reading cuts segments off the front, as long as it
can; since no text can be begun by two segments, this is the only way to take an expression apart.

- `Cut.readSegments`: what reading gives, said by the segments that are cut off and by what is left.
- `Cut.length_le`: no other segments reach further into the text.
- `read_by_grammar`: the paths are the expressions of segments, in one way each; every other expression that starts with `$` is
  refused where its longest path ends.
-/
import Harvest.Proofs.Path.Segment

namespace Harvest.Path

open Harvest.Text

/-- the expression that segments make up -/
def written (segments : List Segment) : String :=
  String.ofList ('$' :: segments.flatMap Segment.text)

theorem toList_written (segments : List Segment) :
    (written segments).toList = '$' :: segments.flatMap Segment.text :=
  String.toList_ofList

theorem length_written (segments : List Segment) :
    (written segments).length = (segments.flatMap Segment.text).length + 1 := by
  rw [← String.length_toList, toList_written, List.length_cons]

/-! ## Segments one after the other -/

/-- where other segments follow, or nothing, every segment ends -/
theorem ends_flatMap (s : Segment) (segments : List Segment) : s.Ends (segments.flatMap Segment.text) := by
  cases segments with
  | nil => exact s.ends_nil
  | cons t more => exact s.ends_text_append t (more.flatMap Segment.text)

theorem flatMap_text_injective {segments others : List Segment}
    (h : segments.flatMap Segment.text = others.flatMap Segment.text) : segments = others := by
  induction segments generalizing others with
  | nil =>
    cases others with
    | nil => rfl
    | cons t others => exact absurd (List.append_eq_nil_iff.1 h.symm).1 t.text_ne_nil
  | cons s segments ih =>
    cases others with
    | nil => exact absurd (List.append_eq_nil_iff.1 h).1 s.text_ne_nil
    | cons t others =>
      rw [List.flatMap_cons, List.flatMap_cons] at h
      obtain ⟨rfl, hrest⟩ := Segment.eq_of_append_eq (ends_flatMap s segments) (ends_flatMap t others) h
      rw [ih hrest]

theorem written_injective : Function.Injective written := by
  intro segments others h
  have hlist := congrArg String.toList h
  rw [toList_written, toList_written] at hlist
  exact flatMap_text_injective (List.cons.inj hlist).2

/-! ## Cutting segments off -/

/-- segments are cut off the front of a text, until none can be -/
inductive Cut : List Char → List Segment → List Char → Prop where
  | stuck {left : List Char} (refused : readSegment? left = none) : Cut left [] left
  | segment {s : Segment} {segments : List Segment} {rest left : List Char} (ends : s.Ends rest)
      (more : Cut rest segments left) : Cut (s.text ++ rest) (s :: segments) left

theorem exists_cut (cs : List Char) : ∃ segments left, Cut cs segments left := by
  induction hlength : cs.length using Nat.strong_induction_on generalizing cs with
  | _ n ih =>
    cases hread : readSegment? cs with
    | none => exact ⟨[], cs, .stuck hread⟩
    | some found =>
      obtain ⟨step, rest⟩ := found
      obtain ⟨s, rfl, -, ends⟩ := exists_of_readSegment? hread
      have hshorter : rest.length < n := by
        have := s.length_text_pos
        rw [List.length_append] at hlength
        omega
      obtain ⟨segments, left, more⟩ := ih _ hshorter rest rfl
      exact ⟨s :: segments, left, .segment ends more⟩

namespace Cut

variable {cs left : List Char} {segments : List Segment}

theorem eq_append (cut : Cut cs segments left) : cs = segments.flatMap Segment.text ++ left := by
  induction cut with
  | stuck => rfl
  | segment _ _ ih => rw [List.flatMap_cons, List.append_assoc, ← ih]

/-- the segments of an expression are all cut off -/
theorem of_segments (segments : List Segment) : Cut (segments.flatMap Segment.text) segments [] := by
  induction segments with
  | nil => exact .stuck rfl
  | cons s segments ih => exact .segment (ends_flatMap s segments) ih

/-- reading gives the steps of the segments that are cut off, unless something is left -/
theorem readSegments (cut : Cut cs segments left) {fuel : Nat} (h : cs.length ≤ fuel) :
    Path.readSegments fuel cs = if left = [] then .ok (segments.map Segment.step) else .error left := by
  induction cut generalizing fuel with
  | @stuck left refused =>
    cases left with
    | nil => cases fuel <;> rfl
    | cons c left =>
      cases fuel with
      | zero => rfl
      | succ fuel => simp [Path.readSegments, refused]
  | @segment s segments rest left ends _ ih =>
    have hpos := s.length_text_pos
    rw [List.length_append] at h
    obtain ⟨fuel, rfl⟩ : ∃ n, fuel = n + 1 := ⟨fuel - 1, by omega⟩
    have hne : s.text ++ rest ≠ [] := fun hnil => s.text_ne_nil (List.append_eq_nil_iff.1 hnil).1
    have hmore := ih (show rest.length ≤ fuel by omega)
    rw [Path.readSegments.eq_3 _ _ hne, readSegment?_text ends]
    by_cases hleft : left = [] <;> simp [hmore, hleft]

/-- no other segments reach further into the text than those that are cut off -/
theorem length_le (cut : Cut cs segments left) {others : List Segment} {tail : List Char}
    (h : others.flatMap Segment.text ++ tail = cs) :
    (others.flatMap Segment.text).length ≤ (segments.flatMap Segment.text).length := by
  induction cut generalizing others tail with
  | stuck refused =>
    cases others with
    | nil => exact le_rfl
    | cons t more =>
      rw [List.flatMap_cons, List.append_assoc] at h
      obtain ⟨s, after, htext, ends, -⟩ := t.exists_longest (more.flatMap Segment.text ++ tail)
      rw [← h, htext, readSegment?_text ends] at refused
      cases refused
  | @segment s segments rest left ends _ ih =>
    cases others with
    | nil => exact Nat.zero_le _
    | cons t more =>
      rw [List.flatMap_cons, List.append_assoc] at h
      rw [List.flatMap_cons, List.flatMap_cons, List.length_append, List.length_append]
      cases more with
      | nil =>
        -- the last segment may be a name that goes on in the text
        obtain ⟨s', after, htext, ends', hlength⟩ := t.exists_longest tail
        obtain ⟨rfl, -⟩ := Segment.eq_of_append_eq ends ends' (h.symm.trans htext)
        simp only [List.flatMap_nil, List.length_nil]
        omega
      | cons u more =>
        have hu : t.Ends ((u :: more).flatMap Segment.text ++ tail) := by
          rw [List.flatMap_cons, List.append_assoc]
          exact t.ends_text_append u _
        obtain ⟨rfl, hrest⟩ := Segment.eq_of_append_eq ends hu h.symm
        exact Nat.add_le_add_left (ih hrest.symm) _

end Cut

/-! ## Whole expressions -/

/-- what an expression reads as, said by the segments that are cut off after its `$` -/
theorem read_of_cut {e : String} {rest left : List Char} {segments : List Segment} (rooted : e.toList = '$' :: rest)
    (cut : Cut rest segments left) :
    read e = if left = [] then .ok ⟨e, segments.map Segment.step⟩ else .error (.unexpected e (written segments).length) := by
  have hsegments := cut.readSegments le_rfl
  rw [read]
  split
  · rename_i after hafter
    obtain rfl : rest = after := (List.cons.inj (rooted.symm.trans hafter)).2
    have hlength : rest.length = (segments.flatMap Segment.text).length + left.length := by
      rw [← List.length_append, ← cut.eq_append]
    by_cases hleft : left = []
    · simp [hsegments, hleft]
    · rw [length_written, if_neg hleft]
      simp only [hsegments, if_neg hleft, Except.error.injEq, PathError.unexpected.injEq, true_and]
      omega
  · rename_i hnone
    exact absurd rooted (hnone rest)

/-- the expression of segments reads as their steps -/
theorem read_written (segments : List Segment) :
    read (written segments) = .ok ⟨written segments, segments.map Segment.step⟩ := by
  rw [read_of_cut (toList_written segments) (Cut.of_segments segments), if_pos rfl]

theorem toList_eq_cons_of_isRooted {e : String} (h : isRooted e = true) : ∃ rest, e.toList = '$' :: rest := by
  rw [isRooted, beq_iff_eq] at h
  exact List.head?_eq_some_iff.1 h

theorem read_of_not_isRooted {e : String} (h : isRooted e = false) : read e = .error (.notRooted e) := by
  rw [read]
  split
  · rename_i rest hrest
    simp [isRooted, hrest] at h
  · rfl

/-- an expression reads as a path just if segments make it up; the path has their steps -/
theorem read_ok_iff {e : String} {p : Path} :
    read e = .ok p ↔ p.expression = e ∧ ∃ segments, e = written segments ∧ p.steps = segments.map Segment.step := by
  constructor
  · intro h
    cases hroot : isRooted e with
    | false =>
      rw [read_of_not_isRooted hroot] at h
      cases h
    | true =>
      obtain ⟨rest, hrest⟩ := toList_eq_cons_of_isRooted hroot
      obtain ⟨segments, left, cut⟩ := exists_cut rest
      rw [read_of_cut hrest cut] at h
      split at h
      · rename_i hleft
        cases h
        refine ⟨rfl, segments, String.toList_injective ?_, rfl⟩
        rw [hrest, toList_written, cut.eq_append, hleft, List.append_nil]
      · cases h
  · rintro ⟨rfl, segments, hwritten, hsteps⟩
    obtain ⟨expression, steps⟩ := p
    subst hsteps
    subst hwritten
    exact read_written segments

/-! ## Expressions for steps -/

/-- every number is written by some digits -/
theorem exists_digits (n : Nat) :
    ∃ first more, (∀ c ∈ first :: more, isDecimalDigit c = true) ∧ numberOf (first :: more) = n := by
  have hdigit : ∀ d ∈ Nat.digits 10 n, digitValue? (Nat.digitChar d) = some d :=
    fun d hd => digitValue?_digitChar d (Nat.digits_lt_base (by decide) hd)
  -- the leading zero makes the digits of zero digits too
  refine ⟨'0', ((Nat.digits 10 n).map Nat.digitChar).reverse, ?_, ?_⟩
  · intro c hc
    rcases List.mem_cons.1 hc with rfl | hc
    · decide
    · obtain ⟨d, hd, rfl⟩ := List.mem_map.1 (List.mem_reverse.1 hc)
      simp [isDecimalDigit, hdigit d hd]
  · have hvalues : ((Nat.digits 10 n).map Nat.digitChar).map (fun c => (digitValue? c).getD 0) = Nat.digits 10 n := by
      rw [List.map_map]
      exact (List.map_congr_left fun d hd => by simp [hdigit d hd]).trans (List.map_id _)
    rw [numberOf, List.reverse_cons, List.reverse_reverse, List.map_append, hvalues]
    exact (Nat.ofDigits_append_zero (Nat.digits 10 n)).trans (Nat.ofDigits_digits 10 n)

/-- every step can be written, unless it names a child by a name with both kinds of quote -/
theorem exists_segment (step : Step) (h : ∀ name, step = .child name → '\'' ∉ name.toList ∨ '"' ∉ name.toList) :
    ∃ s : Segment, s.step = step := by
  cases step with
  | child name =>
    rcases h name rfl with hsingle | hdouble
    · exact ⟨.quoted .single name.toList hsingle, by simp [Segment.step]⟩
    · exact ⟨.quoted .double name.toList hdouble, by simp [Segment.step]⟩
  | wildcard => exact ⟨.name '*' [] (List.forall_mem_singleton.2 (by decide)), rfl⟩
  | each => exact ⟨.each, rfl⟩
  | index i =>
    obtain ⟨first, more, decimal, hnumber⟩ := exists_digits i.natAbs
    refine ⟨.index (decide (i < 0)) first more decimal, ?_⟩
    rw [Segment.step, hnumber, Step.index.injEq]
    simp only [decide_eq_true_eq]
    split <;> omega

theorem exists_segments (steps : List Step)
    (h : ∀ name, .child name ∈ steps → '\'' ∉ name.toList ∨ '"' ∉ name.toList) :
    ∃ segments : List Segment, segments.map Segment.step = steps := by
  induction steps with
  | nil => exact ⟨[], rfl⟩
  | cons step steps ih =>
    obtain ⟨s, hs⟩ := exists_segment step fun name hname => h name (hname ▸ List.mem_cons_self)
    obtain ⟨segments, hsegments⟩ := ih fun name hname => h name (List.mem_cons_of_mem _ hname)
    exact ⟨s :: segments, by rw [List.map_cons, hs, hsegments]⟩

/-! ## The grammar -/

/-- **Reading accepts exactly the grammar.** An expression reads as a path just if some segments make it up, and then the path
has their steps; no other segments make it up. Any steps are those of a path, if no name among them has both kinds of quote.
An expression that does not start with `$` is refused as such. Every other one that is no path is refused at a position: the
number of characters of its longest prefix that is a path. -/
theorem read_by_grammar :
    (∀ (e : String) (p : Path), read e = .ok p ↔
      p.expression = e ∧ ∃ segments, e = written segments ∧ p.steps = segments.map Segment.step) ∧
    (∀ segments others : List Segment, written segments = written others → segments = others) ∧
    (∀ steps : List Step, (∀ name, .child name ∈ steps → '\'' ∉ name.toList ∨ '"' ∉ name.toList) →
      ∃ e p, read e = .ok p ∧ p.steps = steps) ∧
    (∀ e : String, isRooted e = false → read e = .error (.notRooted e)) ∧
    (∀ e : String, isRooted e = true → (¬∃ p, read e = .ok p) →
      ∃ longest : String, longest.toList <+: e.toList ∧ (∃ p, read longest = .ok p) ∧
        (∀ other p, other.toList <+: e.toList → read other = .ok p → other.length ≤ longest.length) ∧
        read e = .error (.unexpected e longest.length)) := by
  refine ⟨fun e p => read_ok_iff, fun a b h => written_injective h, ?_, fun e => read_of_not_isRooted, ?_⟩
  · intro steps h
    obtain ⟨segments, rfl⟩ := exists_segments steps h
    exact ⟨written segments, _, read_written segments, rfl⟩
  · intro e hroot refused
    obtain ⟨rest, hrest⟩ := toList_eq_cons_of_isRooted hroot
    obtain ⟨segments, left, cut⟩ := exists_cut rest
    have hread := read_of_cut hrest cut
    have hleft : left ≠ [] := fun hnil => refused ⟨_, hread.trans (if_pos hnil)⟩
    refine ⟨written segments, ?_, ⟨_, read_written segments⟩, ?_, hread.trans (if_neg hleft)⟩
    · rw [hrest, toList_written, cut.eq_append]
      exact ⟨left, rfl⟩
    · intro other p hprefix hother
      obtain ⟨-, others, rfl, -⟩ := read_ok_iff.1 hother
      obtain ⟨tail, htail⟩ := hprefix
      rw [hrest, toList_written] at htail
      rw [length_written, length_written]
      exact Nat.add_le_add_right (cut.length_le (List.cons.inj htail).2) 1

/-- steps that take an index from the end, two names for quotes, and every child -/
def awkwardSteps : List Step := [.index (-34), .child "it's", .child "*", .wildcard, .each]

/-- two segments, and then brackets with neither a number nor quotes -/
def tornExpression : String := "$.a.*b[x]"

/-- some expression has the awkward steps, and the torn one is refused where its longest path ends -/
theorem awkward_written_torn_refused :
    (∃ e p, read e = .ok p ∧ p.steps = awkwardSteps) ∧
    isRooted tornExpression = true ∧ (¬∃ p, read tornExpression = .ok p) ∧
    ∃ longest : String, longest.length = 6 ∧ longest.toList <+: tornExpression.toList ∧ ∃ p, read longest = .ok p := by
  obtain ⟨-, -, hsteps, -, hrefused⟩ := read_by_grammar
  have hquotes : ∀ name, .child name ∈ awkwardSteps → '\'' ∉ name.toList ∨ '"' ∉ name.toList := by
    intro name h
    simp only [awkwardSteps, List.mem_cons, List.not_mem_nil, Step.child.injEq, reduceCtorEq, false_or, or_false] at h
    rcases h with rfl | rfl <;> decide
  have hread : read tornExpression = .error (.unexpected tornExpression 6) := rfl
  have hnone : ¬∃ p, read tornExpression = .ok p := by
    rintro ⟨p, hp⟩
    rw [hread] at hp
    cases hp
  obtain ⟨longest, hprefix, hvalid, -, herror⟩ := hrefused tornExpression rfl hnone
  refine ⟨hsteps awkwardSteps hquotes, rfl, hnone, longest, ?_, hprefix, hvalid⟩
  rw [hread, Except.error.injEq, PathError.unexpected.injEq] at herror
  exact herror.2.symm

end Harvest.Path
