/-
Domain objects: setting their properties, and objects as plain data. `Data.plain` turns an object of a bag class into the
mapping of its properties, and so every such object in a list; a mapping is kept as it is. `toRow` is what an object gives
to a table.

An object is asked for its mapping by a name, and a property under that name answers in its place. No property can do what
is asked, so such an object has no mapping. Three other names are no properties: what they stand for belongs to the object.
-/
import Harvest.Data.Display
import Harvest.Failure

namespace Harvest

/-! ## Properties -/

namespace ObjectClass

/-- the class of bags that all others are made from -/
def bagName : String := "Resource"

/-- the name of the class that says what objects keep for themselves -/
def root (c : ObjectClass) : String :=
  if c.bag then bagName else c.name

/-- the name that stands for the class of an object -/
def classSlot : String := "__class__"

/-- the name that stands for all properties of an object -/
def propertiesSlot : String := "__dict__"

/-- the name that stands for the references to an object -/
def referencesSlot : String := "__weakref__"

/-- the properties of an object of the class after one is set; a mapping that takes the place of all properties is
copied here, and `Lending` says what becomes of literals -/
def set (c : ObjectClass) (properties : List (String × Data)) (name : String) (d : Data) :
    Except Failure (List (String × Data)) :=
  if name == classSlot then .error (.notClass name d.kindName)
  else if name == propertiesSlot then
    match d with
    | .dict entries => .ok entries
    | d => .error (.notMapping name d.kindName)
  else if name == referencesSlot then .error (.notWritableProperty name c.root)
  else .ok (Entries.put properties name d)

/-- a name that stands for something that objects keep for themselves, and so is no property -/
def isReserved (name : String) : Bool :=
  name == classSlot || name == propertiesSlot || name == referencesSlot

theorem set_of_not_reserved {name : String} (h : isReserved name = false) (c : ObjectClass)
    (properties : List (String × Data)) (d : Data) : c.set properties name d = .ok (Entries.put properties name d) := by
  simp only [isReserved, Bool.or_eq_false_iff] at h
  simp [set, h]

/-- no list can be set under such a name -/
theorem set_list_of_reserved {name : String} (h : isReserved name = true) (c : ObjectClass)
    (properties : List (String × Data)) (items : List Data) : ∃ e, c.set properties name (.list items) = .error e := by
  unfold set
  simp only [isReserved, Bool.or_eq_true] at h
  split
  · exact ⟨_, rfl⟩
  · split
    · exact ⟨_, rfl⟩
    · split
      · exact ⟨_, rfl⟩
      · simp_all

/-- the properties of an object of the class after these are set in order -/
def setAll (c : ObjectClass) (properties : List (String × Data)) :
    List (String × Data) → Except Failure (List (String × Data))
  | [] => .ok properties
  | (name, d) :: rest => (c.set properties name d).bind fun properties => setAll c properties rest

end ObjectClass

namespace Data

/-- the property of an object with a name -/
def property? (d : Data) (name : String) : Option Data :=
  match d with
  | object _ properties => properties.lookup name
  | _ => none

/-- the property with a name, of data that must have it -/
def property (d : Data) (name : Capability) : Except Failure Data :=
  match d.property? name with
  | some value => .ok value
  | none => .error (.noCapability d.kindName name)

/-- what comes of asking data to act: a property under the name of the act cannot, and nothing else is there -/
def refusal (d : Data) (act : Capability) : Failure :=
  match d.property? act with
  | some value => .notCallable value.kindName
  | none => .noCapability d.kindName act

/-! ## Conversion -/

/-- the name that objects are asked for their mappings by -/
def conversion : Capability := "to_dict"

mutual

/-- objects become mappings, also inside lists and properties -/
def plain : Data → Except Failure Data
  | object cls properties =>
    if cls.bag then
      match properties.lookup conversion with
      | some value => .error (.notCallable value.kindName)
      | none => (plainEntries properties).map dict
    else .ok (object cls properties)
  | list items => (plainItems items).map list
  | d => .ok d

def plainItems : List Data → Except Failure (List Data)
  | [] => .ok []
  | x :: xs =>
    match plain x with
    | .error e => .error e
    | .ok y => (plainItems xs).map (y :: ·)

def plainEntries : List (String × Data) → Except Failure (List (String × Data))
  | [] => .ok []
  | (k, x) :: es =>
    match plain x with
    | .error e => .error e
    | .ok y => (plainEntries es).map ((k, y) :: ·)

end

/-- the mapping of an object -/
def toMapping (d : Data) : Except Failure (List (String × Data)) :=
  match d, d.property? conversion with
  | object ⟨_, true⟩ properties, none => plainEntries properties
  | d, _ => .error (d.refusal conversion)

/-- what an object gives to a table: its mapping, or its properties as they are if its class has none; nothing else has a
row -/
def toRow (d : Data) : Except Failure (List (String × Data)) :=
  match d, d.property? conversion with
  | object ⟨_, false⟩ properties, none => .ok properties
  | object cls properties, _ => (object cls properties).toMapping
  | d, _ => .error (.noProperties d.kindName)

/-- the conversion keeps the names of properties -/
theorem keys_plainEntries {es fs : List (String × Data)} (h : plainEntries es = .ok fs) :
    Entries.keys fs = Entries.keys es := by
  induction es generalizing fs with
  | nil =>
    simp only [plainEntries, Except.ok.injEq] at h
    rw [← h]
  | cons e es ih =>
    obtain ⟨k, x⟩ := e
    rw [plainEntries] at h
    split at h
    · cases h
    · rename_i y hy
      cases hs : plainEntries es with
      | error e => simp [hs, Except.map] at h
      | ok gs =>
        simp only [hs, Except.map, Except.ok.injEq] at h
        have := ih hs
        simp only [Entries.keys] at this
        rw [← h]
        simp [Entries.keys, this]

end Data

end Harvest
