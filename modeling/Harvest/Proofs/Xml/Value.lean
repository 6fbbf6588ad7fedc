/-
The text of an element for reading. It is put together from what stands in the element: its own text, and for each child the
text of the child for reading, then its tail. How deep the texts stand does not matter.

- `textsOf_eq`, `value_eq_joinTexts`: the text runs of an element, and that all of them are joined, whether there are children or
  not.
- `value_eq_joined`: the text for reading, from those of the children.
- `value_eq_empty_iff`: it is empty iff all texts inside the element are blank.
-/
import Harvest.Proofs.Node.Wildcard
import Harvest.Proofs.Text.Joined

namespace Harvest.Xml.Element

open Harvest.Text

theorem textsOf_eq (children : List Element) : textsOf children = children.flatMap fun c => c.texts ++ [c.tail] := by
  induction children with
  | nil => rfl
  | cons c rest ih =>
    obtain ⟨tag, attributes, text, children, tail⟩ := c
    rw [textsOf, ih, List.flatMap_cons, List.append_assoc]
    rfl

theorem texts_eq (e : Element) : e.texts = e.text :: e.children.flatMap fun c => c.texts ++ [c.tail] := by
  obtain ⟨tag, attributes, text, children, tail⟩ := e
  rw [texts, textsOf_eq]
  rfl

/-- an element without children is no special case -/
theorem value_eq_joinTexts (e : Element) : e.value = joinTexts e.texts := by
  rw [value]
  split
  · rename_i childless
    rw [texts_eq, List.isEmpty_iff.1 childless]
    exact (joined_singleton (strip e.text)).symm
  · rfl

/-- the text for reading, from those of the children -/
theorem value_eq_joined (e : Element) :
    e.value = joined (strip e.text :: e.children.flatMap fun c => [c.value, strip c.tail]) := by
  have hchild : ∀ c : Element, joined ((c.texts ++ [c.tail]).map strip) = joined [c.value, strip c.tail] := by
    intro c
    rw [List.map_append, joined_append, value_eq_joinTexts c]
    exact congrArg (fun s => joined [_, s]) (joined_singleton (strip c.tail))
  calc e.value = joined (e.texts.map strip) := value_eq_joinTexts e
    _ = joined (strip e.text :: e.children.flatMap fun c => (c.texts ++ [c.tail]).map strip) := by
      rw [texts_eq, List.map_cons, List.map_flatMap]
    _ = joined (strip e.text :: e.children.flatMap fun c => [c.value, strip c.tail]) := by
      simp only [joined_cons (strip e.text), joined_flatMap, hchild]

theorem unpadded_value (e : Element) : Unpadded e.value := by
  rw [value_eq_joinTexts]
  refine unpadded_joined fun part hpart => ?_
  obtain ⟨run, -, rfl⟩ := List.mem_map.1 hpart
  exact unpadded_strip run

/-! ## Blank elements -/

/-- the text for reading is empty iff the own text is blank, what each child is read as is empty, and what follows it is blank -/
theorem value_eq_empty_iff_children {e : Element} :
    e.value = "" ↔ allBlank e.text = true ∧ ∀ c ∈ e.children, c.value = "" ∧ allBlank c.tail = true := by
  rw [value_eq_joined, joined_eq_empty_iff, List.forall_mem_cons, strip_eq_empty_iff]
  refine and_congr_right fun _ => ?_
  simp only [List.forall_mem_flatMap, List.forall_mem_cons, List.not_mem_nil, false_implies, implies_true, and_true,
    strip_eq_empty_iff]

theorem Inside.of_child {e c d : Element} (child : c ∈ e.children) (inside : c.Inside d) : e.Inside d := by
  induction inside with
  | here => exact .deeper .here child
  | deeper _ inner ih => exact .deeper ih inner

/-- only blank texts stand in the element: its own, those of all elements inside it, and what follows these -/
def HoldsBlanks (e : Element) : Prop :=
  ∀ d, e.Inside d → allBlank d.text = true ∧ ∀ c ∈ d.children, allBlank c.tail = true

theorem holdsBlanks_of_value {e : Element} (nothing : e.value = "") : e.HoldsBlanks := by
  intro d inside
  have hvalue : d.value = "" := by
    induction inside with
    | here => exact nothing
    | deeper _ child ih => exact ((value_eq_empty_iff_children.1 ih).2 _ child).1
  obtain ⟨htext, hchildren⟩ := value_eq_empty_iff_children.1 hvalue
  exact ⟨htext, fun c child => (hchildren c child).2⟩

theorem value_of_holdsBlanks (e : Element) (blanks : e.HoldsBlanks) : e.value = "" := by
  obtain ⟨htext, htails⟩ := blanks e .here
  refine value_eq_empty_iff_children.2 ⟨htext, fun c child => ⟨?_, htails c child⟩⟩
  exact value_of_holdsBlanks c fun d inside => blanks d (.of_child child inside)
termination_by sizeOf e
decreasing_by
  obtain ⟨tag, attributes, text, children, tail⟩ := e
  have hsize : sizeOf c < sizeOf children := List.sizeOf_lt_of_mem child
  rw [mk.sizeOf_spec]
  omega

/-! ## The text for reading -/

theorem hasText_iff {e : Element} : e.hasText = true ↔ allBlank e.text = false := by
  rw [hasText, bne_iff_ne, ne_eq, strip_eq_empty_iff, Bool.not_eq_true]

theorem value_ne_empty_of_hasText {e : Element} (text : e.hasText = true) : e.value ≠ "" := by
  intro nothing
  rw [hasText_iff, (value_eq_empty_iff_children.1 nothing).1] at text
  cases text

/-- **The text of an element for reading is made of those of its children.** It is what is left of the own text when it is
stripped, and then for each child what the child is read as, and what is left of its tail: all that is not empty, with single
spaces between. Elements without children are no special case. There is no blank character at its ends, and it is empty iff all
texts inside the element are blank. An element with a text of its own is read as something, and one without children is only
then. -/
theorem value_of_parts (e : Element) :
    e.value = joined (strip e.text :: e.children.flatMap fun c => [c.value, strip c.tail]) ∧
    e.value = joinTexts e.texts ∧
    Unpadded e.value ∧
    (e.value = "" ↔ e.HoldsBlanks) ∧
    (e.hasText = true → e.value ≠ "") ∧
    (e.children = [] → (e.hasText = true ↔ e.value ≠ "")) := by
  refine ⟨value_eq_joined e, value_eq_joinTexts e, unpadded_value e, ⟨holdsBlanks_of_value, value_of_holdsBlanks e⟩,
    value_ne_empty_of_hasText, fun childless => ⟨value_ne_empty_of_hasText, fun present => ?_⟩⟩
  rw [hasText_iff]
  by_contra blank
  exact present (value_eq_empty_iff_children.2 ⟨by simpa using blank, by simp [childless]⟩)

/-- a note with blank texts in it, and an element without any text -/
def mixedNote : Element :=
  mk "p" [] " Maps\n" [mk "b" [] "of " [mk "i" [] "" [] "\u2003"] " Europe ", mk "u" [] "\t" [] "\n"] "tail"

/-- what is inside is read up to the tail; the last child is read as nothing -/
theorem mixedNote_of_parts :
    mixedNote.hasText = true ∧ mixedNote.value ≠ "" ∧ mixedNote.value = "Maps of Europe" ∧
      ∃ u ∈ mixedNote.children, u.children = [] ∧ u.hasText = false ∧ u.value = "" ∧ u.HoldsBlanks := by
  have htext : mixedNote.hasText = true := by decide
  obtain ⟨hparts, -, -, -, hpresent, -⟩ := value_of_parts mixedNote
  refine ⟨htext, hpresent htext, hparts.trans (by decide +kernel), mk "u" [] "\t" [] "\n", by simp [mixedNote, children], rfl,
    by decide, ?_⟩
  obtain ⟨-, -, -, hblanks, -, hleaf⟩ := value_of_parts (mk "u" [] "\t" [] "\n")
  have hnothing : (mk "u" [] "\t" [] "\n").value = "" := by
    by_contra present
    exact absurd ((hleaf rfl).2 present) (by decide)
  exact ⟨hnothing, hblanks.1 hnothing⟩

end Harvest.Xml.Element
