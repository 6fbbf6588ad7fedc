/-
Definitions of mappings, as they are written: what one leaves open is taken from defaults.
-/
import Harvest.Mapping.Registry

namespace Harvest

/-- what mappings use that do not say otherwise -/
structure Defaults where
  cls : ObjectClass := ⟨"Aggregation", true⟩
  format : Format := .json
  arguments : List Data := []
  deriving Inhabited

structure Definition where
  block : List (Assignment String)
  cls? : Option ObjectClass := none
  format? : Option Format := none
  arguments? : Option (List Data) := none
  deriving Inhabited

namespace Definition

/-- the mapping that a definition describes -/
def compile (defaults : Defaults) (d : Definition) : Except Failure Mapping :=
  match Assignment.compileAll d.block with
  | .error e => .error (.badPath e)
  | .ok assignments =>
    .ok ⟨d.cls?.getD defaults.cls, d.format?.getD defaults.format, d.arguments?.getD defaults.arguments, assignments⟩

/-- compile a definition and register it under a name; gives the registry and the mapping -/
def register (defaults : Defaults) (r : Registry) (name : String) (d : Definition) : Run (Registry × Mapping) :=
  (Run.ofExcept (d.compile defaults)).bind fun m => (r.register name m).map fun r => (r, m)

end Definition

/-- map records with the mapping that is registered under a name, after the records of the past -/
def Registry.map (r : Registry) (name : String) (past records : List Record) : Run (List Outcome) :=
  (Run.ofExcept (r.get name)).bind fun m => m.batch name past records

end Harvest
