/-
Nodes that are alike: they have one content, wherever they stand. Names, steps and paths look at contents only, so from nodes
that are alike they lead to nodes that are alike. In two mappings that differ under one key, every other name leads to children
that are alike.

- `Node.Alike.children`, `Node.Alike.elements`: what is found in nodes that are alike.
- `resolveSteps_alike`: what steps make of arrays of nodes that are alike.
- `Node.AlikeBeside.resolveSteps`: what steps lead to that start with a name, from mappings that differ elsewhere.
-/
import Harvest.Node.Resolve
import Mathlib.Data.List.Forall2

namespace Harvest

/-- the nodes have one content -/
def Node.Alike (m n : Node) : Prop :=
  m.content = n.content

/-- arrays of nodes that are alike one by one -/
abbrev AlikeNodes : List Node → List Node → Prop :=
  List.Forall₂ Node.Alike

theorem alikeNodes_iff {ms ns : List Node} : AlikeNodes ms ns ↔ ms.map Node.content = ns.map Node.content := by
  rw [← List.forall₂_eq_eq_eq, List.forall₂_map_left_iff, List.forall₂_map_right_iff]
  rfl

/-- nodes that are made of the same parts below any nodes are alike -/
theorem alikeNodes_below (m n : Node) {α : Type} (place place' : α → List Nat) (content : α → Content) (parts : List α) :
    AlikeNodes (parts.map fun c => m.below (place c) (content c)) (parts.map fun c => n.below (place' c) (content c)) := by
  refine List.forall₂_map_left_iff.2 (List.forall₂_map_right_iff.2 ?_)
  exact List.forall₂_same.2 fun c _ => rfl

/-! ## Steps -/

namespace Node

variable {m n : Node}

theorem Alike.children (alike : m.Alike n) (name : String) : AlikeNodes (m.children name) (n.children name) := by
  unfold Node.children
  rw [show m.content = n.content from alike]
  split
  · exact alikeNodes_below m n _ _ _ _
  · exact alikeNodes_below m n _ _ _ _

theorem Alike.elements (alike : m.Alike n) : AlikeNodes m.elements n.elements := by
  unfold Node.elements
  rw [show m.content = n.content from alike]
  split
  · exact alikeNodes_below m n _ _ _ _
  · exact .cons alike .nil

theorem Alike.childNames (alike : m.Alike n) : m.childNames = n.childNames := by
  unfold Node.childNames
  rw [show m.content = n.content from alike]

theorem Alike.value (alike : m.Alike n) : m.value = n.value := by
  unfold Node.value
  rw [show m.content = n.content from alike]

theorem Alike.attribute (alike : m.Alike n) (name : String) : m.attributeValue name = n.attributeValue name := by
  unfold Node.attributeValue
  rw [show m.content = n.content from alike]

end Node

theorem flatMap_alike {α : Type} {R : α → α → Prop} {f : α → List Node} {g : α → List Node} {as bs : List α}
    (related : List.Forall₂ R as bs) (each : ∀ a b, R a b → AlikeNodes (f a) (g b)) :
    AlikeNodes (as.flatMap f) (bs.flatMap g) :=
  List.rel_flatMap related fun _ _ h => each _ _ h

theorem Step.apply_alike (step : Step) {ms ns : List Node} (alike : AlikeNodes ms ns) :
    AlikeNodes (step.apply ms) (step.apply ns) := by
  have helements : AlikeNodes (ms.flatMap Node.elements) (ns.flatMap Node.elements) :=
    flatMap_alike alike fun _ _ h => h.elements
  cases step with
  | child name => exact flatMap_alike alike fun _ _ h => h.children name
  | wildcard =>
    refine flatMap_alike alike fun m n h => ?_
    rw [h.childNames]
    exact flatMap_alike (List.forall₂_same.2 fun _ _ => rfl) fun a b (hab : a = b) => hab ▸ h.children a
  | each => exact helements
  | index i =>
    -- an index picks by the position alone
    rw [alikeNodes_iff] at helements ⊢
    have hpick := pick?_map Node.content (ms.flatMap Node.elements) i
    rw [helements, pick?_map] at hpick
    simp only [Step.apply, ← Option.toList_map, hpick]

theorem resolveSteps_alike (steps : List Step) {ms ns : List Node} (alike : AlikeNodes ms ns) :
    AlikeNodes (resolveSteps steps ms) (resolveSteps steps ns) := by
  induction steps generalizing ms ns with
  | nil => exact alike
  | cons step rest ih =>
    rw [resolveSteps_cons, resolveSteps_cons]
    exact ih (step.apply_alike alike)

theorem Path.resolve_alike (p : Path) {m n : Node} (alike : m.Alike n) : AlikeNodes (p.resolve m) (p.resolve n) :=
  resolveSteps_alike p.steps (.cons alike .nil)

/-! ## Mappings that differ under one key -/

/-- the mappings have the same value under every other key, wherever its entry stands -/
def Entries.SameBeside (k : String) (es fs : List (String × Data)) : Prop :=
  ∀ name, name ≠ k → es.lookup name = fs.lookup name

namespace Entries

theorem sameBeside_put (es : List (String × Data)) (k : String) (v : Data) : SameBeside k es (put es k v) :=
  fun _ hne => (lookup_put_of_ne es v hne).symm

theorem sameBeside_filter (es : List (String × Data)) (k : String) : SameBeside k es (es.filter fun e => e.1 != k) := by
  intro name hne
  induction es with
  | nil => rfl
  | cons e rest ih =>
    obtain ⟨key, v⟩ := e
    rw [List.filter_cons]
    by_cases hkey : key = k
    · have hname : (name == key) = false := beq_eq_false_iff_ne.2 fun same => hne (same.trans hkey)
      rw [if_neg (by simp [hkey]), List.lookup_cons, hname]
      exact ih
    · rw [if_pos (by simpa using hkey), List.lookup_cons, List.lookup_cons, ih]

/-- looking a key up by number finds its value -/
theorem find?_numbered (es : List (String × Data)) (name : String) (i : Nat) :
    (((es.zipIdx i).map Prod.swap).find? fun e : Nat × String × Data => e.2.1 == name).map (fun e => e.2.2) =
      es.lookup name := by
  induction es generalizing i with
  | nil => rfl
  | cons e rest ih =>
    obtain ⟨key, v⟩ := e
    rw [List.lookup_cons, ← ih (i + 1)]
    by_cases h : key = name
    · simp [h]
    · have hname : (name == key) = false := beq_eq_false_iff_ne.2 fun same => h same.symm
      simp [h, hname]

end Entries

/-- what is spread does not depend on the place -/
theorem Data.map_snd_spread (place other : List Nat) (d : Data) :
    (d.spread place).map Prod.snd = (d.spread other).map Prod.snd := by
  cases d with
  | list items =>
    simp only [spread, List.map_map]
    rfl
  | null => rfl
  | _ => rfl

/-- the children in a mapping are what the value under the key spreads to -/
theorem Data.map_snd_childrenNamed (entries : List (String × Data)) (name : String) :
    ((Data.dict entries).childrenNamed name).map Prod.snd =
      ((entries.lookup name).map fun d => (d.spread []).map Prod.snd).getD [] := by
  have hfind := Entries.find?_numbered entries name 0
  have hleaf : (Data.dict entries).firstLeaf? = some ([], .dict entries) := rfl
  rw [childrenNamed, hleaf]
  dsimp only
  rw [numbered]
  cases hentry : (entries.zipIdx.map Prod.swap).find? fun e : Nat × String × Data => e.2.1 == name with
  | none =>
    rw [hentry] at hfind
    rw [← hfind]
    rfl
  | some e =>
    rw [hentry] at hfind
    rw [← hfind]
    exact map_snd_spread _ _ _

/-- the nodes are JSON mappings that have the same value under every key other than `k` -/
def Node.AlikeBeside (k : String) (m n : Node) : Prop :=
  ∃ es fs, m.content = .json (.dict es) ∧ n.content = .json (.dict fs) ∧ Entries.SameBeside k es fs

namespace Node.AlikeBeside

variable {m n : Node} {k name : String}

/-- any other name leads to children that are alike -/
theorem children (beside : AlikeBeside k m n) (other : name ≠ k) : AlikeNodes (m.children name) (n.children name) := by
  obtain ⟨es, fs, hm, hn, same⟩ := beside
  have hcontents : ∀ (x : Node) (entries : List (String × Data)), x.content = .json (.dict entries) →
      (x.children name).map Node.content =
        (((Data.dict entries).childrenNamed name).map Prod.snd).map Content.json := by
    intro x entries hx
    simp only [Node.children, hx, List.map_map]
    rfl
  rw [alikeNodes_iff, hcontents m es hm, hcontents n fs hn, Data.map_snd_childrenNamed, Data.map_snd_childrenNamed,
    same name other]

/-- so do steps that start with any other name -/
theorem resolveSteps (beside : AlikeBeside k m n) (other : name ≠ k) (rest : List Step) :
    AlikeNodes (Harvest.resolveSteps (.child name :: rest) [m]) (Harvest.resolveSteps (.child name :: rest) [n]) := by
  rw [resolveSteps_cons, resolveSteps_cons]
  refine resolveSteps_alike rest ?_
  rw [Step.apply, Step.apply, List.flatMap_singleton, List.flatMap_singleton]
  exact beside.children other

end Node.AlikeBeside

end Harvest
