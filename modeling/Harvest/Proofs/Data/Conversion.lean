/-
Objects as plain data. The conversion of an object goes into its properties, into lists and into the objects that it finds there, and
leaves everything else as it is, mappings with all that they hold too. So what it makes of an object is told place by place: where the
conversion comes to, an object has given way to its own mapping, and everywhere else stands what stood there.

- `plainItems_ok_iff`, `plainEntries_ok_iff`: the conversion of several parts is that of each.
- `part?_plain`: what stands at a place after the conversion.
- `exists_plain_iff`: when an object can be converted.
- `toMapping_by_places`: both for the mapping of an object, and when it still holds an object.
-/
import Harvest.Data.Object
import Harvest.Proofs.Results

namespace Harvest.Data

/-! ## Places -/

/-- what is directly inside data, in order: items, or the values of entries or properties -/
def inner : Data → List Data
  | list items => items
  | dict entries => entries.map Prod.snd
  | object _ properties => properties.map Prod.snd
  | _ => []

/-- the part at a place, the indices that lead to it -/
def part? (d : Data) : List Nat → Option Data
  | [] => some d
  | i :: rest => d.inner[i]?.bind fun x => x.part? rest

theorem sizeOf_lt_of_mem_values {entries : List (String × Data)} {x : Data} (h : x ∈ entries.map Prod.snd) :
    sizeOf x < sizeOf entries := by
  obtain ⟨⟨k, y⟩, he, rfl⟩ := List.mem_map.1 h
  have hentry := List.sizeOf_lt_of_mem he
  simp only [Prod.mk.sizeOf_spec] at hentry ⊢
  omega

theorem sizeOf_lt_of_mem_inner {d x : Data} (h : x ∈ d.inner) : sizeOf x < sizeOf d := by
  cases d with
  | list items =>
    have hitem : sizeOf x < sizeOf items := List.sizeOf_lt_of_mem h
    simp only [list.sizeOf_spec]
    omega
  | dict entries =>
    have hvalue : sizeOf x < sizeOf entries := sizeOf_lt_of_mem_values h
    simp only [dict.sizeOf_spec]
    omega
  | object cls properties =>
    have hvalue : sizeOf x < sizeOf properties := sizeOf_lt_of_mem_values h
    simp only [object.sizeOf_spec]
    omega
  | _ => cases h

/-- what holds of data wherever it holds of all that is directly inside holds of all data -/
@[elab_as_elim]
theorem induct {P : Data → Prop} (d : Data) (step : ∀ d : Data, (∀ x ∈ d.inner, P x) → P d) : P d :=
  step d fun x _ => induct x step
termination_by sizeOf d
decreasing_by exact sizeOf_lt_of_mem_inner ‹_›

/-! ## Where the conversion comes to -/

/-- an object of a class of bags -/
def isBag : Data → Bool
  | object cls _ => cls.bag
  | _ => false

/-- the conversion goes into the data -/
def isEntered : Data → Bool
  | list _ => true
  | d => d.isBag

/-- the conversion comes to the place: it goes into all that leads there, so no mapping does -/
def reaches (d : Data) : List Nat → Bool
  | [] => true
  | i :: rest => d.isEntered && d.inner[i]?.any fun x => x.reaches rest

/-- an object with a property under the name that objects are asked for their mappings by -/
def isShadowed : Data → Bool
  | object cls properties => cls.bag && (properties.lookup conversion).isSome
  | _ => false

/-- what the conversion leaves in the place of data that it comes to: the mapping of an object with the same names, a list of the same
length, and anything else as it is -/
inductive GivesWayTo : Data → Data → Prop
  | object {cls : ObjectClass} {properties entries : List (String × Data)} (bag : cls.bag = true)
      (own : (object cls properties).toMapping = .ok entries) (names : Entries.keys entries = Entries.keys properties) :
      GivesWayTo (object cls properties) (dict entries)
  | list {items converted : List Data} (length : converted.length = items.length) : GivesWayTo (list items) (list converted)
  | kept {d : Data} (other : d.isEntered = false) : GivesWayTo d d

theorem reaches_cons_iff {d : Data} {i : Nat} {rest : List Nat} :
    d.reaches (i :: rest) = true ↔ d.isEntered = true ∧ ∃ x, d.inner[i]? = some x ∧ x.reaches rest = true := by
  simp [reaches, Option.any_eq_true]

theorem part?_cons_eq_some {d x : Data} {i : Nat} {rest : List Nat} :
    d.part? (i :: rest) = some x ↔ ∃ y, d.inner[i]? = some y ∧ y.part? rest = some x :=
  Option.bind_eq_some_iff

/-- what holds of all that the conversion comes to holds of the data, and of all that it comes to inside if it goes into the data -/
theorem forall_reached_iff {P : Data → Prop} {d : Data} :
    (∀ place x, d.reaches place = true → d.part? place = some x → P x) ↔
      P d ∧ (d.isEntered = true → ∀ y ∈ d.inner, ∀ place x, y.reaches place = true → y.part? place = some x → P x) := by
  constructor
  · refine fun h => ⟨h [] d rfl rfl, fun entered y hy place x reached part => ?_⟩
    obtain ⟨i, hi⟩ := List.getElem?_of_mem hy
    exact h (i :: place) x (reaches_cons_iff.2 ⟨entered, y, hi, reached⟩) (part?_cons_eq_some.2 ⟨y, hi, part⟩)
  · rintro ⟨here, inside⟩ place x reached part
    cases place with
    | nil =>
      cases part
      exact here
    | cons i rest =>
      obtain ⟨entered, y, hi, hreached⟩ := reaches_cons_iff.1 reached
      obtain ⟨z, hz, hpart⟩ := part?_cons_eq_some.1 part
      obtain rfl : y = z := Option.some.inj (hi.symm.trans hz)
      exact inside entered y (List.mem_of_getElem? hi) rest x hreached hpart

/-! ## One part after the other -/

theorem plainItems_ok_iff {items converted : List Data} :
    plainItems items = .ok converted ↔ List.Forall₂ (fun x y => x.plain = .ok y) items converted := by
  induction items generalizing converted with
  | nil => simp [plainItems, eq_comm]
  | cons x xs ih =>
    rw [plainItems, List.forall₂_cons_left_iff]
    cases hx : x.plain with
    | error e => simp
    | ok y =>
      constructor
      · intro h
        obtain ⟨ys, hys, rfl⟩ := exists_of_map h
        exact ⟨y, ys, rfl, ih.1 hys, rfl⟩
      · rintro ⟨z, ys, hz, hys, rfl⟩
        cases hz
        simp only [ih.2 hys, Except.map]

theorem plainEntries_ok_iff {entries converted : List (String × Data)} :
    plainEntries entries = .ok converted ↔
      List.Forall₂ (fun e f => e.1 = f.1 ∧ e.2.plain = .ok f.2) entries converted := by
  induction entries generalizing converted with
  | nil => simp [plainEntries, eq_comm]
  | cons e es ih =>
    obtain ⟨k, x⟩ := e
    rw [plainEntries, List.forall₂_cons_left_iff]
    cases hx : x.plain with
    | error e => simp
    | ok y =>
      constructor
      · intro h
        obtain ⟨fs, hfs, rfl⟩ := exists_of_map h
        exact ⟨(k, y), fs, ⟨rfl, rfl⟩, ih.1 hfs, rfl⟩
      · rintro ⟨⟨k', z⟩, fs, ⟨hk, hz⟩, hfs, rfl⟩
        obtain rfl : k = k' := hk
        obtain rfl : y = z := Except.ok.inj hz
        simp only [ih.2 hfs, Except.map]

/-- what stands on one side of related lists is related to what stands at the same index on the other side, if anything does -/
theorem rel_getElem? {α β : Type} {R : α → β → Prop} {as : List α} {bs : List β} (related : List.Forall₂ R as bs) (i : Nat) :
    Option.Rel R as[i]? bs[i]? := by
  induction related generalizing i with
  | nil => exact .none
  | cons hab _ ih =>
    cases i with
    | zero => exact .some hab
    | succ i => simpa using ih i

theorem exists_forall₂_iff {α β : Type} {R : α → β → Prop} {as : List α} :
    (∃ bs, List.Forall₂ R as bs) ↔ ∀ a ∈ as, ∃ b, R a b := by
  induction as with
  | nil => simp
  | cons a as ih =>
    rw [List.forall_mem_cons, ← ih]
    constructor
    · rintro ⟨bs, h⟩
      cases h with
      | cons hab hrest => exact ⟨⟨_, hab⟩, _, hrest⟩
    · rintro ⟨⟨b, hab⟩, bs, hrest⟩
      exact ⟨b :: bs, .cons hab hrest⟩

/-! ## The conversion -/

variable {d r : Data}

/-- what the conversion does not go into stays as it is -/
theorem plain_of_not_isEntered (h : d.isEntered = false) : d.plain = .ok d := by
  cases d with
  | list items => cases h
  | object cls properties =>
    have hcls : cls.bag = false := h
    rw [plain, hcls]
    rfl
  | _ => rfl

/-- an object of bags is converted to its own mapping -/
theorem plain_object {cls : ObjectClass} (bag : cls.bag = true) (properties : List (String × Data)) :
    (object cls properties).plain = (object cls properties).toMapping.map dict := by
  obtain ⟨name, kind⟩ := cls
  obtain rfl : kind = true := bag
  rw [plain]
  cases h : properties.lookup conversion <;> simp [toMapping, property?, refusal, h, Except.map]

theorem toMapping_ok_iff {cls : ObjectClass} (bag : cls.bag = true) {properties entries : List (String × Data)} :
    (object cls properties).toMapping = .ok entries ↔
      (object cls properties).isShadowed = false ∧
        List.Forall₂ (fun e f => e.1 = f.1 ∧ e.2.plain = .ok f.2) properties entries := by
  obtain ⟨name, kind⟩ := cls
  obtain rfl : kind = true := bag
  rw [← plainEntries_ok_iff]
  cases h : properties.lookup conversion <;> simp [toMapping, property?, isShadowed, h]

/-- what the conversion goes into is converted part by part -/
theorem inner_plain (entered : d.isEntered = true) (h : d.plain = .ok r) :
    List.Forall₂ (fun x y => x.plain = .ok y) d.inner r.inner := by
  cases d with
  | list items =>
    obtain ⟨converted, hitems, rfl⟩ := exists_of_map h
    exact plainItems_ok_iff.1 hitems
  | object cls properties =>
    rw [plain_object entered] at h
    obtain ⟨entries, hmapping, rfl⟩ := exists_of_map h
    rw [inner, inner, List.forall₂_map_left_iff, List.forall₂_map_right_iff]
    exact ((toMapping_ok_iff entered).1 hmapping).2.imp fun e f hef => hef.2
  | _ => cases entered

/-- data that the conversion goes into can be converted if it is no object that answers for itself, and all inside can be -/
theorem exists_plain_of_inner (entered : d.isEntered = true) :
    (∃ r, d.plain = .ok r) ↔ d.isShadowed = false ∧ ∀ x ∈ d.inner, ∃ y, x.plain = .ok y := by
  cases d with
  | list items =>
    rw [inner, ← exists_forall₂_iff]
    simp only [← plainItems_ok_iff, isShadowed, true_and]
    constructor
    · rintro ⟨r, h⟩
      obtain ⟨converted, hitems, -⟩ := exists_of_map h
      exact ⟨converted, hitems⟩
    · rintro ⟨converted, hitems⟩
      exact ⟨list converted, by rw [plain, hitems]; rfl⟩
  | object cls properties =>
    have hvalues : (∀ x ∈ properties.map Prod.snd, ∃ y, x.plain = .ok y) ↔
        ∀ e ∈ properties, ∃ f : String × Data, e.1 = f.1 ∧ e.2.plain = .ok f.2 := by
      rw [List.forall_mem_map]
      exact forall₂_congr fun e _ => ⟨fun ⟨y, hy⟩ => ⟨(e.1, y), rfl, hy⟩, fun ⟨f, _, hf⟩ => ⟨f.2, hf⟩⟩
    rw [inner, hvalues, ← exists_forall₂_iff, plain_object entered]
    constructor
    · rintro ⟨r, h⟩
      obtain ⟨entries, hmapping, -⟩ := exists_of_map h
      obtain ⟨open_, heach⟩ := (toMapping_ok_iff entered).1 hmapping
      exact ⟨open_, entries, heach⟩
    · rintro ⟨open_, entries, heach⟩
      exact ⟨dict entries, by rw [(toMapping_ok_iff entered).2 ⟨open_, heach⟩]; rfl⟩
  | _ => cases entered

theorem isShadowed_of_not_isEntered (h : d.isEntered = false) : d.isShadowed = false := by
  cases d with
  | object cls properties =>
    have hcls : cls.bag = false := h
    rw [isShadowed, hcls, Bool.false_and]
  | _ => rfl

/-- data can be converted unless the conversion comes to an object that answers for itself -/
theorem exists_plain_iff (d : Data) :
    (∃ r, d.plain = .ok r) ↔ ∀ place x, d.reaches place = true → d.part? place = some x → x.isShadowed = false := by
  induction d using induct with
  | step d ih =>
    rw [forall_reached_iff (P := fun x => x.isShadowed = false)]
    cases entered : d.isEntered with
    | false => simp [plain_of_not_isEntered entered, isShadowed_of_not_isEntered entered]
    | true =>
      rw [exists_plain_of_inner entered]
      have hinner := forall₂_congr ih
      simp only [hinner, true_implies]

/-- after the conversion stands at a place that it comes to what is made of what stood there, and at any other place what stood
there -/
theorem part?_plain (h : d.plain = .ok r) (place : List Nat) :
    (d.reaches place = true → ∃ x y, d.part? place = some x ∧ r.part? place = some y ∧ x.plain = .ok y) ∧
      (d.reaches place = false → r.part? place = d.part? place) := by
  induction place generalizing d r with
  | nil => exact ⟨fun _ => ⟨d, r, rfl, rfl, h⟩, fun missed => by cases missed⟩
  | cons i rest ih =>
    cases entered : d.isEntered with
    | false =>
      obtain rfl : d = r := Except.ok.inj ((plain_of_not_isEntered entered).symm.trans h)
      simp [reaches, entered]
    | true =>
      have hinner := rel_getElem? (inner_plain entered h) i
      simp only [part?, reaches, entered, Bool.true_and]
      cases hx : d.inner[i]? with
      | none =>
        rw [hx] at hinner
        rw [eq_none_of_rel hinner]
        exact ⟨fun reached => (by cases reached), fun _ => rfl⟩
      | some x =>
        rw [hx] at hinner
        obtain ⟨y, hy, hxy⟩ := exists_of_rel hinner
        rw [hy]
        exact ih hxy

/-! ## Mappings of objects -/

theorem plain_eq_dict_iff {cls : ObjectClass} (bag : cls.bag = true) {properties entries : List (String × Data)} :
    (object cls properties).plain = .ok (dict entries) ↔ (object cls properties).toMapping = .ok entries := by
  rw [plain_object bag]
  cases (object cls properties).toMapping <;> simp [Except.map]

/-- an object has a mapping unless the conversion comes to an object that answers for itself -/
theorem exists_toMapping_iff {cls : ObjectClass} (bag : cls.bag = true) (properties : List (String × Data)) :
    (∃ entries, (object cls properties).toMapping = .ok entries) ↔
      ∀ place x, (object cls properties).reaches place = true → (object cls properties).part? place = some x →
        x.isShadowed = false := by
  rw [← exists_plain_iff, plain_object bag]
  constructor
  · rintro ⟨entries, h⟩
    exact ⟨dict entries, by rw [h]; rfl⟩
  · rintro ⟨r, h⟩
    obtain ⟨entries, hentries, -⟩ := exists_of_map h
    exact ⟨entries, hentries⟩

theorem givesWayTo_of_plain (h : d.plain = .ok r) : d.GivesWayTo r := by
  cases entered : d.isEntered with
  | false =>
    obtain rfl : d = r := Except.ok.inj ((plain_of_not_isEntered entered).symm.trans h)
    exact .kept entered
  | true =>
    cases d with
    | list items =>
      obtain ⟨converted, hitems, rfl⟩ := exists_of_map h
      exact .list (plainItems_ok_iff.1 hitems).length_eq.symm
    | object cls properties =>
      rw [plain_object entered] at h
      obtain ⟨entries, hmapping, rfl⟩ := exists_of_map h
      exact .object entered hmapping (keys_plainEntries (plainEntries_ok_iff.2 ((toMapping_ok_iff entered).1 hmapping).2))
    | _ => cases entered

theorem GivesWayTo.isBag_eq_false (h : d.GivesWayTo r) : r.isBag = false := by
  cases h with
  | object bag own names => rfl
  | list length => rfl
  | kept other =>
    cases d with
    | object cls properties => exact other
    | _ => rfl

/-- after the conversion a place holds an object only if it held it before and the conversion did not come to it -/
theorem isBag_of_part?_plain (h : d.plain = .ok r) :
    (∀ place x, r.part? place = some x → x.isBag = false) ↔
      ∀ place x, d.part? place = some x → x.isBag = true → d.reaches place = true := by
  constructor
  · intro free place x part bag
    by_contra missed
    have hpart := (part?_plain h place).2 (Bool.eq_false_iff.2 missed)
    exact Bool.false_ne_true ((free place x (hpart.trans part)).symm.trans bag)
  · intro within place x part
    cases reached : d.reaches place with
    | true =>
      obtain ⟨y, z, -, hz, hplain⟩ := (part?_plain h place).1 reached
      obtain rfl : z = x := Option.some.inj (hz.symm.trans part)
      exact (givesWayTo_of_plain hplain).isBag_eq_false
    | false =>
      have hpart := ((part?_plain h place).2 reached).symm.trans part
      exact Bool.eq_false_iff.2 fun bag => Bool.false_ne_true (reached.symm.trans (within place x hpart bag))

/-- **The mapping of an object, place by place.** An object has a mapping unless the conversion comes to an object, this one included,
with a property under the name that objects are asked for their mappings by. The mapping has the names of the properties in their order.
At every place that the conversion comes to, an object has given way to its own mapping, a list to one of the same length, and all else
stands as it stood; so does all that stands at other places. These are the places inside mappings and inside objects of classes that are
no bags, and the mapping is free of objects at any depth iff none of them stands there. -/
theorem toMapping_by_places {cls : ObjectClass} (bag : cls.bag = true) (properties : List (String × Data)) :
    ((∃ entries, (object cls properties).toMapping = .ok entries) ↔
      ∀ place x, (object cls properties).reaches place = true → (object cls properties).part? place = some x →
        x.isShadowed = false) ∧
    ∀ entries, (object cls properties).toMapping = .ok entries →
      Entries.keys entries = Entries.keys properties ∧
      (∀ place, (object cls properties).reaches place = true →
        ∃ x r, (object cls properties).part? place = some x ∧ (dict entries).part? place = some r ∧ x.GivesWayTo r) ∧
      (∀ place, (object cls properties).reaches place = false →
        (dict entries).part? place = (object cls properties).part? place) ∧
      ((∀ place r, (dict entries).part? place = some r → r.isBag = false) ↔
        ∀ place x, (object cls properties).part? place = some x → x.isBag = true →
          (object cls properties).reaches place = true) := by
  refine ⟨exists_toMapping_iff bag properties, fun entries mapped => ?_⟩
  have hplain := (plain_eq_dict_iff bag).2 mapped
  refine ⟨?_, fun place reached => ?_, fun place => (part?_plain hplain place).2, isBag_of_part?_plain hplain⟩
  · exact keys_plainEntries (plainEntries_ok_iff.2 ((toMapping_ok_iff bag).1 mapped).2)
  · obtain ⟨x, r, hx, hr, hxr⟩ := (part?_plain hplain place).1 reached
    exact ⟨x, r, hx, hr, givesWayTo_of_plain hxr⟩

/-- an article with an author and a text in a list, pages in a mapping, and its rights -/
def article : Data :=
  object ⟨"Article", true⟩ [("by", list [object ⟨"Agent", true⟩ [("name", str "Ada")], str "anonymous"]),
    ("pages", dict [("first", int 3)]), ("rights", object ⟨"Resource", true⟩ [])]

/-- the mapping of the article -/
def articleEntries : List (String × Data) :=
  [("by", list [dict [("name", str "Ada")], str "anonymous"]), ("pages", dict [("first", int 3)]), ("rights", dict [])]

/-- the author has given way to a mapping, the pages stay as they are -/
theorem article_by_places :
    article.toMapping = .ok articleEntries ∧ Entries.keys articleEntries = ["by", "pages", "rights"] ∧
      article.reaches [0, 0] = true ∧
      (∃ x r, article.part? [0, 0] = some x ∧ (dict articleEntries).part? [0, 0] = some r ∧ x.GivesWayTo r) ∧
      article.reaches [1, 0] = false ∧ (dict articleEntries).part? [1, 0] = article.part? [1, 0] := by
  have hmapping : article.toMapping = .ok articleEntries := rfl
  obtain ⟨hkeys, hreached, hmissed, -⟩ := (toMapping_by_places rfl _).2 articleEntries hmapping
  exact ⟨hmapping, hkeys, rfl, hreached [0, 0] rfl, rfl, hmissed [1, 0] rfl⟩

/-- an object with another object in a mapping -/
def illustrated : Data :=
  object ⟨"Resource", true⟩ [("covers", dict [("front", object ⟨"Agent", true⟩ [("name", str "Ada")])])]

/-- the mapping of the object still holds the other one -/
theorem illustrated_holds_object :
    ∃ entries x, illustrated.toMapping = .ok entries ∧ (dict entries).part? [0, 0] = some x ∧ x.isBag = true :=
  ⟨_, _, rfl, rfl, rfl⟩

end Harvest.Data
