/-
Harvested records. A record is a document with an identifier that reports use to name it. A bare value can be handed over
too: an object with a property `content` is a record with that content, anything else has no content.
-/
import Harvest.Data.Object
import Harvest.Failure

namespace Harvest

inductive Record where
  | harvested (content : Data) (identifier : Option String)
  | bare (value : Data)
  deriving Inhabited

namespace Record

/-- how reports name the record -/
def name : Record → String
  | harvested _ none => "<anonymous record>"
  | harvested _ (some identifier) => if identifier == "" then "<anonymous record>" else identifier
  | bare value => value.text

/-- the property of an object that is the content of a record -/
def contentProperty : String := "content"

/-- the document of the record -/
def content : Record → Except Failure Data
  | harvested content _ => .ok content
  | bare value => value.property contentProperty

end Record

/-- what is handed over for mapping: a sequence of records, or one record -/
inductive Records where
  | sequence (records : List Record)
  | single (record : Record)

/-- the records that are handed over; a bare list is a sequence -/
def Records.toList : Records → List Record
  | sequence records => records
  | single (.bare (.list items)) => items.map .bare
  | single record => [record]

end Harvest
