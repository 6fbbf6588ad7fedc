/-
Parts of sequences, and equality of arrays of nodes. In arrays a node also equals what is marked as the same node.
-/
import Harvest.Node.Resolve

namespace Harvest

/-- a bound counted from the end if it is negative, kept within a sequence of `size` items -/
def clampBound (size : Nat) (i : Int) : Nat :=
  if i < 0 then (i + size).toNat else min size i.toNat

/-- the items from `start` up to `stop`; without a bound, from the first or to the last -/
def slice {α : Type} (start? stop? : Option Int) (items : List α) : List α :=
  let size := items.length
  let start := (start?.map (clampBound size)).getD 0
  let stop := (stop?.map (clampBound size)).getD size
  (items.take stop).drop start

/-- arrays are equal node by node -/
def sameNodes : List Node → List Node → Bool
  | [], [] => true
  | m :: ms, n :: ns => (m.isMarkedAs n || m.same n) && sameNodes ms ns
  | _, _ => false

/-- the position of the first node that equals a node -/
def positionOf? (n : Node) (nodes : List Node) : Option Nat :=
  nodes.findIdx? fun m => m.isMarkedAs n || m.same n

end Harvest
