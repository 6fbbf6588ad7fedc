/-
Sessions: any number of registries, and mappers that define and apply mappings in one of them. Two mappers can share a
registry. A command that fails changes no registry.

A mapping is one and the same wherever it is registered again. A session keeps the records that each mapping was run on, since
objects to come can share literals with theirs.
-/
import Harvest.Mapping.Definition

namespace Harvest

/-- a mapper: the number of its registry, and the defaults of its definitions -/
structure Mapper where
  registry : Nat
  defaults : Defaults
  deriving Inhabited

/-- a registration, by the number of its registry and its name -/
abbrev Origin := Nat × String

structure Session where
  registries : List Registry
  /-- the numbers of the registries that have a name -/
  named : List (String × Nat)
  mappers : List (String × Mapper)
  /-- for each mapping that was registered again, where it was registered first -/
  origins : List (Origin × Origin) := []
  /-- the records that mappings were run on, in order, by where the mappings were registered first -/
  past : List (Origin × Record) := []

/-- where a registry is found -/
inductive Place where
  | ofMapper (name : String)
  | registry (name : String)
  deriving Repr

inductive Command where
  | addRegistry (name : String)
  /-- a mapper with a named registry that it shares, or with one of its own -/
  | addMapper (name : String) (shared? : Option String) (defaults : Defaults)
  | define (mapper name : String) (definition : Definition)
  /-- a definition by a decorator, which gives back the block that it decorates -/
  | decorate (mapper name : String) (definition : Definition)
  | registerMapping (place : Place) (name : String) (m : Mapping)
  /-- register a mapping again in another place -/
  | register (place : Place) (name : String) (source : Place) (sourceName : String)
  | map (place : Place) (name : String) (records : Records)
  | process (place : Place) (name : String) (record : Record)

/-- what a command answers -/
inductive Reply where
  | nothing
  | mapping (m : Mapping)
  | outcomes (os : List Outcome)
  | value (d : Data)

namespace Session

/-- one mapper, `m`, with an empty registry of its own -/
def initial : Session := { registries := [.empty], named := [], mappers := [("m", ⟨0, {}⟩)] }

def mapper (s : Session) (name : String) : Mapper :=
  (s.mappers.lookup name).getD default

/-- the number of the registry at a place -/
def index (s : Session) : Place → Nat
  | .ofMapper name => (s.mapper name).registry
  | .registry name => (s.named.lookup name).getD 0

/-- the registry at a place -/
def registry (s : Session) (place : Place) : Registry :=
  s.registries.getD (s.index place) .empty

/-- where the mapping with a name was registered first -/
def origin (s : Session) (place : Place) (name : String) : Origin :=
  (s.origins.lookup (s.index place, name)).getD (s.index place, name)

/-- the records that the mapping with a name was run on -/
def pastOf (s : Session) (place : Place) (name : String) : List Record :=
  (s.past.filter fun e => e.1 == s.origin place name).map Prod.snd

/-- replace the registry at a place -/
def setRegistry (s : Session) (place : Place) (r : Registry) : Session :=
  { s with registries := s.registries.set (s.index place) r }

/-- add an empty registry; its number is the count of those before it -/
def grow (s : Session) : Session :=
  { s with registries := s.registries ++ [.empty] }

/-- add a mapper whose registry has a number -/
def withMapper (s : Session) (name : String) (registry : Nat) (defaults : Defaults) : Session :=
  { s with mappers := Entries.put s.mappers name ⟨registry, defaults⟩ }

/-- register a mapping at a place -/
def register (s : Session) (place : Place) (name : String) (m : Mapping) : Run Session :=
  ((s.registry place).register name m).map (s.setRegistry place)

/-- define a mapping with a mapper, and register it where the mapper does -/
def define (s : Session) (mapper name : String) (definition : Definition) : Run (Session × Mapping) :=
  (definition.register (s.mapper mapper).defaults (s.registry (.ofMapper mapper)) name).map
    fun (r, m) => (s.setRegistry (.ofMapper mapper) r, m)

/-- what a command does: the session after it, and its answer -/
def perform (s : Session) : Command → Run (Session × Reply)
  | .addRegistry name =>
    .done ({ s.grow with named := Entries.put s.named name s.registries.length }, .nothing)
  | .addMapper name (some registry) defaults => .done (s.withMapper name (s.index (.registry registry)) defaults, .nothing)
  | .addMapper name none defaults => .done (s.grow.withMapper name s.registries.length defaults, .nothing)
  | .define mapper name definition => (s.define mapper name definition).map fun (s, m) => (s, .mapping m)
  | .decorate mapper name definition => (s.define mapper name definition).map fun (s, _) => (s, .nothing)
  | .registerMapping place name m => (s.register place name m).map fun s => (s, .mapping m)
  | .register place name source sourceName =>
    (Run.ofExcept ((s.registry source).get sourceName)).bind fun m => (s.register place name m).map fun s => (s, .nothing)
  | .map place name records =>
    ((s.registry place).map name (s.pastOf place name) records.toList).map fun os => (s, .outcomes os)
  | .process place name record =>
    (Run.ofExcept ((s.registry place).get name)).bind fun m =>
      (m.processAfter (s.pastOf place name) record).map fun d => (s, .value d)

/-- the registration that a command makes of a mapping that is registered already, with the first one of that mapping -/
def repeated (s : Session) : Command → List (Origin × Origin)
  | .register place name source sourceName => [((s.index place, name), s.origin source sourceName)]
  | _ => []

/-- the records that a command runs a mapping on, be it that it fails -/
def touched (s : Session) : Command → List (Origin × Record)
  | .map place name records =>
    match (s.registry place).find? name with
    | some m => (m.tried records.toList).map (s.origin place name, ·)
    | none => []
  | .process place name record =>
    if (s.registry place).contains name then [(s.origin place name, record)] else []
  | _ => []

/-- the session after a command -/
def step (s : Session) (c : Command) : Session :=
  match (s.perform c).outcome with
  | .ok (next, _) => { next with origins := s.origins ++ s.repeated c, past := s.past ++ s.touched c }
  | .error _ => { s with past := s.past ++ s.touched c }

/-- the session after commands in order -/
def run (s : Session) (cs : List Command) : Session :=
  cs.foldl step s

end Session

end Harvest
