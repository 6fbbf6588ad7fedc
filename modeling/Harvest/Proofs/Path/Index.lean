/-
Indices and elements. Behind any path, `[*]` leads to the elements of all arrays that the path finds, and `[n]` picks one of
these by its number in the whole, from the first one on or from the last one back.

- `enumerates_pick?`: the items of a list, one by one by their indices.
- `content_elements`: nulls are not among the elements, and what is no array is its own element.
- `exists_followed`, `exists_index`: an expression goes on with a segment, and every integer is written by one.
- `indices_enumerate`: behind any path, the indices enumerate what `[*]` finds.
-/
import Harvest.Node.Resolve
import Harvest.Proofs.Number.Numeral
import Harvest.Proofs.Path.Grammar
import Mathlib.Data.List.Basic

namespace Harvest

open Harvest.Text

/-! ## Items by index -/

/-- the lists for indices enumerate the items: each item stands alone at its index, counted from the first item on or from the
last one back, and nothing stands out of this range; in order, the lists are the items -/
structure Enumerates {α : Type} (picked : Int → List α) (items : List α) : Prop where
  fromFirst : ∀ (i : Nat) (h : i < items.length), picked i = [items[i]]
  fromLast : ∀ (i : Nat) (h : i < items.length), picked (i - items.length) = [items[i]]
  outside : ∀ i : Int, i < -items.length ∨ items.length ≤ i → picked i = []
  inOrder : (List.range items.length).flatMap (fun i : Nat => picked i) = items

section

variable {α : Type} {items : List α}

theorem pick?_natCast (items : List α) (i : Nat) : pick? items i = items[i]? := by
  rw [pick?, if_pos (Int.natCast_nonneg i), Int.toNat_natCast]

theorem pick?_fromLast {i : Nat} (h : i < items.length) : pick? items (i - items.length) = items[i]? := by
  have hnegative : ¬(0 : Int) ≤ i - items.length := by omega
  have hback : (-((i : Int) - items.length)).toNat = items.length - i := by omega
  have hforth : items.length - (items.length - i) = i := by omega
  rw [pick?, if_neg hnegative, hback, if_pos (Nat.sub_le _ _), hforth]

theorem pick?_outside {i : Int} (h : i < -items.length ∨ items.length ≤ i) : pick? items i = none := by
  by_cases hi : 0 ≤ i
  · have hlength : items.length ≤ i.toNat := by omega
    rw [pick?, if_pos hi, List.getElem?_eq_none hlength]
  · have hback : ¬(-i).toNat ≤ items.length := by omega
    rw [pick?, if_neg hi, if_neg hback]

/-- the items up to each index, by induction on the index -/
theorem flatMap_range_getElem? (items : List α) (n : Nat) :
    (List.range n).flatMap (fun i => items[i]?.toList) = items.take n := by
  induction n with
  | zero => rfl
  | succ n ih => rw [List.range_succ, List.flatMap_append, ih, List.flatMap_singleton, List.take_add_one]

theorem enumerates_pick? (items : List α) : Enumerates (fun i => (pick? items i).toList) items := by
  refine ⟨?_, ?_, ?_, ?_⟩
  · intro i h
    simp only [pick?_natCast, List.getElem?_eq_getElem h, Option.toList_some]
  · intro i h
    simp only [pick?_fromLast h, List.getElem?_eq_getElem h, Option.toList_some]
  · intro i h
    simp only [pick?_outside h, Option.toList_none]
  · simp only [pick?_natCast, flatMap_range_getElem?, List.take_length]

end

/-! ## Elements -/

/-- the items of an array without the nulls among them; what is no array is its own item -/
def Content.items : Content → List Content
  | json (.list items) => (items.filter fun d => !d.isNull).map json
  | c => [c]

theorem Data.map_snd_numbered {α : Type} (items : List α) : (numbered items).map Prod.snd = items := by
  rw [numbered, List.map_map]
  exact List.zipIdx_map_fst 0 items

theorem Node.content_elements (n : Node) : n.elements.map Node.content = n.content.items := by
  unfold Node.elements
  split
  · rename_i items hlist
    have hpresent : ((Data.numbered items).filter fun e => !e.2.isNull).map Prod.snd = items.filter fun d => !d.isNull := by
      conv_rhs => rw [← Data.map_snd_numbered items, List.filter_map]
      rfl
    rw [hlist, Content.items, ← hpresent, Data.elements, List.map_map, List.map_map, List.map_map]
    rfl
  · rename_i hother
    rw [List.map_singleton, Content.items]
    exact hother

namespace Path

/-! ## Expressions -/

/-- an expression goes on with a segment -/
def followed (e : String) (s : Segment) : String :=
  e ++ String.ofList s.text

theorem followed_written (segments : List Segment) (s : Segment) :
    followed (written segments) s = written (segments ++ [s]) := by
  refine String.toList_injective ?_
  rw [followed, String.toList_append, String.toList_ofList, toList_written, toList_written, List.flatMap_append,
    List.flatMap_singleton, List.cons_append]

/-- the path goes on with the step of the segment, from all that it finds -/
theorem exists_followed {e : String} {p : Path} (valid : read e = .ok p) (s : Segment) :
    ∃ q, read (followed e s) = .ok q ∧ ∀ context, q.resolve context = s.step.apply (p.resolve context) := by
  obtain ⟨-, segments, rfl, hsteps⟩ := read_ok_iff.1 valid
  have hread := read_written (segments ++ [s])
  rw [← followed_written] at hread
  refine ⟨_, hread, fun context => ?_⟩
  rw [resolve, List.map_append, List.map_singleton, ← hsteps, resolveSteps_append, resolveSteps_cons]
  rfl

theorem isDecimalDigit_of_mem_toDigits {n : Nat} {c : Char} (h : c ∈ Nat.toDigits 10 n) : isDecimalDigit c = true := by
  have hascii := Number.isAsciiDigit_of_mem_toDigits h
  simp only [isAsciiDigit, Bool.and_eq_true, decide_eq_true_eq] at hascii
  have hlow : '0'.toNat ≤ c.toNat := hascii.1
  have hhigh : c.toNat ≤ '9'.toNat := hascii.2
  have hvalue : c.toNat < '0'.toNat + 10 := Nat.lt_succ_of_le hhigh
  rw [isDecimalDigit, digitValue?, Option.isSome_map, List.find?_isSome]
  refine ⟨'0'.toNat, by decide, ?_⟩
  rw [Bool.and_eq_true, decide_eq_true_eq, decide_eq_true_eq]
  exact ⟨hlow, hvalue⟩

/-- every integer is written by a segment, in decimal digits -/
theorem exists_index (i : Int) :
    ∃ s : Segment, s.step = .index i ∧ ∀ e, followed e s = e ++ "[" ++ Data.intText i ++ "]" := by
  obtain ⟨first, more, hdigits, -⟩ := Number.exists_toDigits_eq_cons i.natAbs
  have hdecimal : ∀ c ∈ first :: more, isDecimalDigit c = true := by
    rw [← hdigits]
    exact fun c => isDecimalDigit_of_mem_toDigits
  have hnumber : numberOf (first :: more) = i.natAbs := by
    rw [← decimalValue_eq_numberOf, ← hdigits, Number.decimalValue_toDigits]
  refine ⟨.index (decide (i < 0)) first more hdecimal, ?_, fun e => String.toList_injective ?_⟩
  · rw [Segment.step, hnumber, Step.index.injEq]
    simp only [decide_eq_true_eq]
    split <;> omega
  · by_cases hi : i < 0 <;>
      simp [followed, Segment.text, Data.intText, hdigits, hi]

/-! ## Indices -/

/-- **Indices enumerate the elements.** Behind any path stand `[*]` and, for every integer, `[n]`. From any node, `[*]` finds the
items of all arrays that the path finds, without the nulls, and what the path finds that is no array; the indices enumerate
what it finds, over all of these in order. -/
theorem indices_enumerate {e : String} {p : Path} (valid : read e = .ok p) :
    ∃ (each : Path) (index : Int → Path), read (e ++ "[*]") = .ok each ∧
      (∀ i, read (e ++ "[" ++ Data.intText i ++ "]") = .ok (index i)) ∧
      ∀ context : Node,
        (each.resolve context).map Node.content = (p.resolve context).flatMap (fun n => n.content.items) ∧
        Enumerates (fun i => (index i).resolve context) (each.resolve context) := by
  obtain ⟨each, heach, hfound⟩ := exists_followed valid .each
  have hindex : ∀ i, ∃ q, read (e ++ "[" ++ Data.intText i ++ "]") = .ok q ∧
      ∀ context, q.resolve context = (pick? (each.resolve context) i).toList := by
    intro i
    obtain ⟨s, hstep, htext⟩ := exists_index i
    obtain ⟨q, hread, hpicked⟩ := exists_followed valid s
    refine ⟨q, htext e ▸ hread, fun context => ?_⟩
    rw [hpicked, hstep, hfound]
    rfl
  choose index hread hpicked using hindex
  refine ⟨each, index, heach, hread, fun context => ⟨?_, ?_⟩⟩
  · have helements : each.resolve context = (p.resolve context).flatMap Node.elements := hfound context
    rw [helements, List.map_flatMap]
    exact List.flatMap_congr fun n _ => n.content_elements
  · rw [funext fun i => hpicked i context]
    exact enumerates_pick? (each.resolve context)

/-- a row inside a row, with a gap -/
def nestedRow : Node :=
  { document := 0, place := [], content := .json (.dict [("row", .list [.list [.int 1, .null, .int 2], .int 3])]) }

/-- the gap does not count: the second to last of the three elements is the second one of the inner row -/
theorem nestedRow_enumerated :
    read "$.row" = .ok ⟨"$.row", [.child "row"]⟩ ∧
      ∃ (each : Path) (index : Int → Path), read "$.row[*]" = .ok each ∧ read "$.row[-2]" = .ok (index (-2)) ∧
        (each.resolve nestedRow).map Node.content = [.json (.int 1), .json (.int 2), .json (.int 3)] ∧
        ((index (-2)).resolve nestedRow).map Node.content = [.json (.int 2)] ∧
        (index 3).resolve nestedRow = [] ∧ (index (-4)).resolve nestedRow = [] := by
  have hread : read "$.row" = .ok ⟨"$.row", [.child "row"]⟩ := rfl
  obtain ⟨each, index, heach, hindex, hresolve⟩ := indices_enumerate hread
  obtain ⟨hcontent, henumerates⟩ := hresolve nestedRow
  have hitems : (each.resolve nestedRow).map Node.content = [.json (.int 1), .json (.int 2), .json (.int 3)] := hcontent
  obtain ⟨first, second, third, hthree⟩ : ∃ a b c, each.resolve nestedRow = [a, b, c] := by
    rw [← List.length_eq_three, ← List.length_map Node.content, hitems]
    rfl
  have hvalues := hitems
  rw [hthree] at henumerates hvalues
  have hsecond : (index (-2)).resolve nestedRow = [second] := henumerates.fromLast 1 (by simp)
  have hcount : second.content = .json (.int 2) := (List.cons.inj (List.cons.inj hvalues).2).1
  have hwritten : "$.row" ++ "[" ++ Data.intText (-2) ++ "]" = "$.row[-2]" := by decide
  refine ⟨hread, each, index, heach, hwritten ▸ hindex (-2), hitems, ?_, henumerates.outside 3 (by simp),
    henumerates.outside (-4) (by simp)⟩
  rw [hsecond, List.map_singleton, hcount]

end Path

end Harvest
