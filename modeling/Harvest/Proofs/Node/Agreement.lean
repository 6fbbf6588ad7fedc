/-
One path syntax for every format. The JSON form and the XML form of a neutral tree are two views of its spots, and every step
finds in a view what it finds by spots. So a path leads to the same spots in both forms, in the same order.

- `resolve_of_shows`: what a path finds in a view that shows every spot.
- `resolve_agrees`: the nodes that a path finds in the two forms are those of the same spots.
-/
import Harvest.Proofs.Node.Forms

namespace Harvest.Neutral

namespace Spot

/-- a step finds in a view what it finds by spots -/
theorem apply_of_shows {view : Spot → Node} (step : Step) {spots : List Spot} (shows : ∀ s ∈ spots, Shows view s) :
    step.apply (spots.map view) = (apply step spots).map view := by
  have helements : (spots.map view).flatMap Node.elements = spots.map view := by
    rw [List.flatMap_map, List.flatMap_congr fun s hs => (shows s hs).single]
    exact List.map_eq_flatMap.symm
  cases step with
  | child name =>
    rw [Step.apply, List.flatMap_map]
    exact flatMap_of_eq_map fun s hs => (shows s hs).named name
  | wildcard =>
    rw [Step.apply, List.flatMap_map]
    exact flatMap_of_eq_map fun s hs => (shows s hs).every
  | each => exact helements
  | index i =>
    rw [Step.apply, helements, pick?_map, apply]
    cases pick? spots i <;> rfl

/-- a path finds in a view what it finds by spots, if the view shows every spot inside the tree -/
theorem resolve_of_shows {view : Spot → Node} {top : Spot} (p : Path) (shows : ∀ s, Within top s → Shows view s) :
    p.resolve (view top) = (resolve p [top]).map view ∧ ∀ s ∈ resolve p [top], Within top s := by
  have hsteps : ∀ (steps : List Step) (spots : List Spot), (∀ s ∈ spots, Within top s) →
      steps.foldl (fun found step => step.apply found) (spots.map view) =
        (steps.foldl (fun found step => apply step found) spots).map view ∧
      ∀ s ∈ steps.foldl (fun found step => apply step found) spots, Within top s := by
    intro steps
    induction steps with
    | nil => exact fun spots inside => ⟨rfl, inside⟩
    | cons step rest ih =>
      intro spots inside
      rw [List.foldl_cons, List.foldl_cons, apply_of_shows step fun s hs => shows s (inside s hs)]
      exact ih (apply step spots) (mem_apply_within step inside)
  have htop : ∀ s ∈ [top], Within top s := by
    intro s hs
    obtain rfl := List.mem_singleton.1 hs
    exact .here
  rw [Path.resolve, resolveSteps_eq_foldl]
  exact hsteps p.steps [top] htop

end Spot

/-- **Paths mean the same in every format.** For every tree that fits every format and every path there are spots inside the
tree such that the path finds their nodes, one for each and in their order, in the JSON form and in the XML form of the tree.
Where a spot is a text, both nodes have it as their value. -/
theorem resolve_agrees (p : Path) {t : Tree} (fits : t.fits = true) (tag : String) (d e : Nat) :
    ∃ spots : List Spot, (∀ s ∈ spots, (Spot.root tag t).Within s) ∧
      p.resolve { document := d, place := [], content := .json t.data } = spots.map (Spot.jsonNode d) ∧
      p.resolve { document := e, place := [], content := .xml (Xml.Namespaces.ofEntries []) (t.element tag) } =
        spots.map (Spot.xmlNode e) ∧
      ∀ s ∈ spots, ∀ text, s.tree = .text text →
        (s.jsonNode d).value = .ok (.str text) ∧ (s.xmlNode e).value = .ok (.str text) := by
  have hfits : ∀ s, (Spot.root tag t).Within s → s.tree.fits = true := fun s => Spot.tree_fits_of_within fits
  obtain ⟨hjson, hinside⟩ := Spot.resolve_of_shows p fun s hs => Spot.shows_json d (hfits s hs)
  obtain ⟨hxml, -⟩ := Spot.resolve_of_shows p fun s hs => Spot.shows_xml e (hfits s hs)
  refine ⟨Spot.resolve p [Spot.root tag t], hinside, hjson, hxml, ?_⟩
  intro s hs text htext
  exact Spot.values_of_text (hfits s (hinside s hs)) htext d e

/-- an atlas with two parts, one of which has a list of pages, and no notes -/
def atlasTree : Tree :=
  .object [("title", .one (.text "Atlas")),
    ("part", .many [.object [("page", .many [.text "1", .text "2"])], .object [("page", .one (.text "3"))]]),
    ("note", .many [])]

/-- the pages below any key -/
def anyPage : Path := ⟨"$.*.page", [.wildcard, .child "page"]⟩

/-- the three pages are found in both forms of the atlas -/
theorem atlas_pages_agree :
    atlasTree.fits = true ∧ ∃ spots : List Spot,
      anyPage.resolve { document := 0, place := [], content := .json atlasTree.data } = spots.map (Spot.jsonNode 0) ∧
      anyPage.resolve { document := 1, place := [], content := .xml (Xml.Namespaces.ofEntries []) (atlasTree.element "atlas") } =
        spots.map (Spot.xmlNode 1) ∧
      spots.length = 3 := by
  have hfits : atlasTree.fits = true := by decide
  obtain ⟨spots, -, hjson, hxml, -⟩ := resolve_agrees anyPage hfits "atlas" 0 1
  refine ⟨hfits, spots, hjson, hxml, ?_⟩
  have hlength := congrArg List.length hjson
  rw [List.length_map] at hlength
  exact hlength.symm.trans rfl

end Harvest.Neutral
