/-
Neutral trees: what every format can hold in the same way. A tree is a text or an object; a key of an object holds one tree
or many. As JSON a key that holds many trees is a list, as XML every tree is an element of its own, named by its key.

A spot is a tree inside another one, with its place in both forms. What a step finds in a tree is told here by spots, without
any format.

- `tree_fits_of_within`: the trees inside a tree that fits every format fit them too.
- `mem_apply_within`: steps stay inside the tree.
-/
import Harvest.Data.Tree
import Harvest.Node.Resolve
import Harvest.Proofs.Data.Entries
import Harvest.Xml.Element

namespace Harvest.Neutral

open Harvest.Text

/-! ## Trees -/

mutual

inductive Tree where
  | text (s : String)
  | object (entries : List (String × Branch))

/-- what a key holds -/
inductive Branch where
  | one (t : Tree)
  | many (ts : List Tree)

end

/-- the trees that a key holds, in order -/
def Branch.items : Branch → List Tree
  | one t => [t]
  | many ts => ts

/-- a name that is written as it is in XML too: no prefix, no namespace -/
def isPlainName (name : String) : Bool :=
  !name.toList.contains ':' && name.toList.head? != some '\x7b'

mutual

/-- every format can hold the tree: texts have no blank ends, an object has each key once, and keys are plain names -/
def Tree.fits : Tree → Bool
  | .text s => strip s == s
  | .object entries => decide (Entries.keys entries).Nodup && entriesFit entries

def Branch.fits : Branch → Bool
  | .one t => t.fits
  | .many ts => itemsFit ts

def entriesFit : List (String × Branch) → Bool
  | [] => true
  | (name, b) :: rest => isPlainName name && b.fits && entriesFit rest

def itemsFit : List Tree → Bool
  | [] => true
  | t :: rest => t.fits && itemsFit rest

end

/-! ## Forms -/

mutual

/-- the tree as decoded JSON -/
def Tree.data : Tree → Data
  | .text s => .str s
  | .object entries => .dict (entriesData entries)

def Branch.data : Branch → Data
  | .one t => t.data
  | .many ts => .list (itemsData ts)

def entriesData : List (String × Branch) → List (String × Data)
  | [] => []
  | (name, b) :: rest => (name, b.data) :: entriesData rest

def itemsData : List Tree → List Data
  | [] => []
  | t :: rest => t.data :: itemsData rest

end

mutual

/-- the tree as an XML element -/
def Tree.element (tag : String) : Tree → Xml.Element
  | .text s => .mk tag [] s [] ""
  | .object entries => .mk tag [] "" (entriesElements entries) ""

def Branch.elements (tag : String) : Branch → List Xml.Element
  | .one t => [t.element tag]
  | .many ts => itemsElements tag ts

def entriesElements : List (String × Branch) → List Xml.Element
  | [] => []
  | (name, b) :: rest => b.elements name ++ entriesElements rest

def itemsElements (tag : String) : List Tree → List Xml.Element
  | [] => []
  | t :: rest => t.element tag :: itemsElements tag rest

end

/-! ## Spots -/

/-- a tree inside another one: the key that it stands under, and its place in the JSON form and in the XML form -/
structure Spot where
  tag : String
  tree : Tree
  inData : List Nat
  inElement : List Nat

/-- the spots under a key, which is entry `i` of an object; `k` elements come before them -/
def Branch.spots (above : Spot) (name : String) (i k : Nat) : Branch → List Spot
  | one t => [⟨name, t, above.inData ++ [i], above.inElement ++ [k]⟩]
  | many ts =>
    (Data.numbered ts).map fun e => ⟨name, e.2, above.inData ++ [i, e.1], above.inElement ++ [k + e.1]⟩

/-- the spots under each key of an object, from entry `i` and element `k` on -/
def groupsFrom (above : Spot) (i k : Nat) : List (String × Branch) → List (String × List Spot)
  | [] => []
  | (name, b) :: rest => (name, b.spots above name i k) :: groupsFrom above (i + 1) (k + b.items.length) rest

namespace Spot

/-- the spot of a whole tree -/
def root (tag : String) (t : Tree) : Spot :=
  ⟨tag, t, [], []⟩

/-- the spots right below a spot, by their keys -/
def groups (s : Spot) : List (String × List Spot) :=
  match s.tree with
  | .text _ => []
  | .object entries => groupsFrom s 0 0 entries

/-- the spots right below a spot -/
def children (s : Spot) : List Spot :=
  s.groups.flatMap Prod.snd

/-- the spots right below a spot under a key -/
def childrenNamed (s : Spot) (name : String) : List Spot :=
  (s.groups.lookup name).getD []

/-- the spots inside the tree of a spot, with itself -/
inductive Within (top : Spot) : Spot → Prop where
  | here : Within top top
  | deeper {s c : Spot} (inside : Within top s) (child : c ∈ s.children) : Within top c

/-- what a step makes of spots -/
def apply (step : Step) (spots : List Spot) : List Spot :=
  match step with
  | .child name => spots.flatMap fun s => s.childrenNamed name
  | .wildcard => spots.flatMap children
  | .each => spots
  | .index i => (pick? spots i).toList

/-- what the steps of a path make of spots -/
def resolve (p : Path) (spots : List Spot) : List Spot :=
  p.steps.foldl (fun found step => apply step found) spots

end Spot

/-! ## Trees that fit -/

theorem fits_of_mem_items {b : Branch} (h : b.fits = true) {t : Tree} (ht : t ∈ b.items) : t.fits = true := by
  cases b with
  | one u =>
    obtain rfl := List.mem_singleton.1 ht
    exact h
  | many ts =>
    rw [Branch.fits] at h
    change t ∈ ts at ht
    induction ts with
    | nil => cases ht
    | cons u rest ih =>
      simp only [itemsFit, Bool.and_eq_true] at h
      rcases List.mem_cons.1 ht with rfl | later
      · exact h.1
      · exact ih h.2 later

theorem fits_of_mem_entries {entries : List (String × Branch)} (h : entriesFit entries = true) {e : String × Branch}
    (he : e ∈ entries) : isPlainName e.1 = true ∧ e.2.fits = true := by
  induction entries with
  | nil => cases he
  | cons first rest ih =>
    simp only [entriesFit, Bool.and_eq_true] at h
    rcases List.mem_cons.1 he with rfl | later
    · exact h.1
    · exact ih h.2 later

theorem fits_object_iff {entries : List (String × Branch)} :
    (Tree.object entries).fits = true ↔ (Entries.keys entries).Nodup ∧ entriesFit entries = true := by
  rw [Tree.fits, Bool.and_eq_true, decide_eq_true_iff]

/-! ## Groups of spots -/

theorem keys_groupsFrom (above : Spot) (i k : Nat) (entries : List (String × Branch)) :
    Entries.keys (groupsFrom above i k entries) = Entries.keys entries := by
  induction entries generalizing i k with
  | nil => rfl
  | cons e rest ih => exact congrArg (e.1 :: ·) (ih (i + 1) (k + e.2.items.length))

/-- every spot of a branch stands under its key and holds one of its trees -/
theorem mem_spots {above : Spot} {name : String} {i k : Nat} {b : Branch} {c : Spot} (h : c ∈ b.spots above name i k) :
    c.tag = name ∧ c.tree ∈ b.items := by
  cases b with
  | one t =>
    obtain rfl := List.mem_singleton.1 h
    exact ⟨rfl, List.mem_singleton.2 rfl⟩
  | many ts =>
    obtain ⟨⟨j, t⟩, he, rfl⟩ := List.mem_map.1 h
    obtain ⟨⟨u, _⟩, hu, same⟩ := List.mem_map.1 he
    cases same
    exact ⟨rfl, List.fst_mem_of_mem_zipIdx hu⟩

theorem mem_groupsFrom {above : Spot} {i k : Nat} {entries : List (String × Branch)} {g : String × List Spot}
    (h : g ∈ groupsFrom above i k entries) : ∃ b j l, (g.1, b) ∈ entries ∧ g.2 = b.spots above g.1 j l := by
  induction entries generalizing i k with
  | nil => cases h
  | cons e rest ih =>
    rcases List.mem_cons.1 h with rfl | later
    · exact ⟨e.2, i, k, List.mem_cons_self, rfl⟩
    · obtain ⟨b, j, l, hb, hg⟩ := ih later
      exact ⟨b, j, l, List.mem_cons_of_mem _ hb, hg⟩

namespace Spot

/-- the keys of the groups of a tree that fits are plain and all different -/
theorem groups_of_fits {s : Spot} (fits : s.tree.fits = true) :
    (Entries.keys s.groups).Nodup ∧
      ∀ g ∈ s.groups, isPlainName g.1 = true ∧ ∀ c ∈ g.2, c.tag = g.1 ∧ c.tree.fits = true := by
  obtain ⟨tag, tree, inData, inElement⟩ := s
  cases tree with
  | text s => exact ⟨List.nodup_nil, fun g hg => absurd hg List.not_mem_nil⟩
  | object entries =>
    obtain ⟨distinct, hentries⟩ := fits_object_iff.1 fits
    refine ⟨?_, ?_⟩
    · rw [groups, keys_groupsFrom]
      exact distinct
    · intro g hg
      obtain ⟨b, i, k, hb, hspots⟩ := mem_groupsFrom hg
      have hfits := fits_of_mem_entries hentries hb
      refine ⟨hfits.1, ?_⟩
      intro c hc
      rw [hspots] at hc
      have hmem := mem_spots hc
      exact ⟨hmem.1, fits_of_mem_items hfits.2 hmem.2⟩

theorem mem_children_iff {s c : Spot} : c ∈ s.children ↔ ∃ g ∈ s.groups, c ∈ g.2 :=
  List.mem_flatMap

theorem isPlainName_of_mem_children {s c : Spot} (fits : s.tree.fits = true) (h : c ∈ s.children) :
    isPlainName c.tag = true := by
  obtain ⟨g, hg, hc⟩ := mem_children_iff.1 h
  have hgroup := (groups_of_fits fits).2 g hg
  rw [(hgroup.2 c hc).1]
  exact hgroup.1

theorem mem_children_of_mem_named {s c : Spot} {name : String} (h : c ∈ s.childrenNamed name) : c ∈ s.children := by
  rw [childrenNamed] at h
  cases hlookup : s.groups.lookup name with
  | none =>
    rw [hlookup] at h
    exact absurd h List.not_mem_nil
  | some group =>
    rw [hlookup] at h
    exact mem_children_iff.2 ⟨(name, group), Entries.mem_of_lookup hlookup, h⟩

/-- the trees inside a tree that fits fit too -/
theorem tree_fits_of_within {top s : Spot} (fits : top.tree.fits = true) (inside : Within top s) :
    s.tree.fits = true := by
  induction inside with
  | here => exact fits
  | deeper _ child ih =>
    obtain ⟨g, hg, hc⟩ := mem_children_iff.1 child
    exact (((groups_of_fits ih).2 g hg).2 _ hc).2

/-! ## Steps -/

/-- a step stays inside the tree -/
theorem mem_apply_within {top : Spot} (step : Step) {spots : List Spot} (inside : ∀ s ∈ spots, Within top s) :
    ∀ c ∈ apply step spots, Within top c := by
  intro c hc
  cases step with
  | child name =>
    obtain ⟨s, hs, hchild⟩ := List.mem_flatMap.1 hc
    exact .deeper (inside s hs) (mem_children_of_mem_named hchild)
  | wildcard =>
    obtain ⟨s, hs, hchild⟩ := List.mem_flatMap.1 hc
    exact .deeper (inside s hs) hchild
  | each => exact inside c hc
  | index i =>
    have hpick : pick? spots i = some c := Option.mem_toList.1 hc
    exact inside c (mem_of_pick? hpick)

end Spot

end Harvest.Neutral
