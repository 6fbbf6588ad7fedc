/-
UTF-8. `split` cuts one character off the front of a byte sequence, or says why it cannot: the first bytes are no
character, or the bytes end inside one. `decode` reads a whole sequence and refuses it with the first bytes that are not
well formed.
-/
import Harvest.Text.Hex

namespace Harvest.Text.Utf8

/-- what stands at the front of a byte sequence -/
inductive Front where
  | done
  | char (c : Char) (rest : List UInt8)
  | malformed (rest : List UInt8)
  | cutOff (rest : List UInt8)
  deriving Repr

/-- how many bytes follow a lead byte, and the bounds of the first of them -/
def tailOf (lead : Nat) : Option (Nat × Nat × Nat) :=
  if lead < 0xC2 then none
  else if lead < 0xE0 then some (1, 0x80, 0xBF)
  else if lead == 0xE0 then some (2, 0xA0, 0xBF)
  else if lead == 0xED then some (2, 0x80, 0x9F)
  else if lead < 0xF0 then some (2, 0x80, 0xBF)
  else if lead == 0xF0 then some (3, 0x90, 0xBF)
  else if lead < 0xF4 then some (3, 0x80, 0xBF)
  else if lead == 0xF4 then some (3, 0x80, 0x8F)
  else none

/-- the bits that a lead byte gives to its character -/
def leadBits (lead count : Nat) : Nat :=
  match count with
  | 1 => lead % 0x20
  | 2 => lead % 0x10
  | _ => lead % 0x08

/-- read `count` bytes, the first between `low` and `high`, after the bits `n`; `rest` is where to go on after a failure -/
def splitTail (rest : List UInt8) : (count low high n : Nat) → List UInt8 → Front
  | 0, _, _, n, bytes => .char (Char.ofNat n) bytes
  | _ + 1, _, _, _, [] => .cutOff rest
  | count + 1, low, high, n, b :: bytes =>
    if low ≤ b.toNat && b.toNat ≤ high then splitTail rest count 0x80 0xBF (n * 0x40 + b.toNat % 0x40) bytes
    else .malformed rest

/-- cut one character off the front -/
def split : List UInt8 → Front
  | [] => .done
  | b :: rest =>
    if b.toNat < 0x80 then .char (Char.ofNat b.toNat) rest
    else
      match tailOf b.toNat with
      | none => .malformed rest
      | some (count, low, high) => splitTail rest count low high (leadBits b.toNat count) rest

/-- why a byte sequence is not well formed -/
inductive Fault where
  | start
  | continuation
  | cutOff
  deriving DecidableEq, Repr

/-- the first bytes that are no character: how many characters' bytes stand before them, and why -/
structure Malformed where
  position : Nat
  bytes : List UInt8
  fault : Fault
  deriving DecidableEq, Repr

/-- how many of the bytes after a lead byte can follow it -/
def tailLength : (count low high : Nat) → List UInt8 → Nat
  | 0, _, _, _ => 0
  | _ + 1, _, _, [] => 0
  | count + 1, low, high, b :: bytes =>
    if low ≤ b.toNat && b.toNat ≤ high then tailLength count 0x80 0xBF bytes + 1 else 0

/-- what is wrong at the front of a byte sequence that starts with no character -/
def malformedAt (position : Nat) (bytes : List UInt8) (cutOff : Bool) : Malformed :=
  match bytes with
  | [] => ⟨position, [], .cutOff⟩
  | b :: rest =>
    if cutOff then ⟨position, b :: rest, .cutOff⟩
    else
      match tailOf b.toNat with
      | none => ⟨position, [b], .start⟩
      | some (count, low, high) => ⟨position, b :: rest.take (tailLength count low high rest), .continuation⟩

/-- the first `fuel` characters, where `position` bytes stand before them -/
def decodeFrom : (fuel position : Nat) → List UInt8 → Except Malformed (List Char)
  | 0, _, _ => .ok []
  | fuel + 1, position, bytes =>
    match split bytes with
    | .done => .ok []
    | .char c rest =>
      match decodeFrom fuel (position + c.utf8Size) rest with
      | .error e => .error e
      | .ok cs => .ok (c :: cs)
    | .malformed _ => .error (malformedAt position bytes false)
    | .cutOff _ => .error (malformedAt position bytes true)

/-- the characters of a byte sequence, or the first bytes that are none -/
def decode (bytes : List UInt8) : Except Malformed (List Char) :=
  decodeFrom bytes.length 0 bytes

/-- the report of malformed bytes -/
def Malformed.message (m : Malformed) : String :=
  let reason := match m.fault with
    | .start => "invalid start byte"
    | .continuation => "invalid continuation byte"
    | .cutOff => "unexpected end of data"
  let place := match m.bytes with
    | [b] => "byte 0x" ++ String.ofList (hexDigits 2 b.toNat) ++ " in position " ++ Nat.repr m.position
    | bytes => "bytes in position " ++ Nat.repr m.position ++ "-" ++ Nat.repr (m.position + bytes.length - 1)
  "'utf-8' codec can't decode " ++ place ++ ": " ++ reason

/-- the bytes of a text -/
def encode (s : String) : List UInt8 :=
  s.toUTF8.toList

end Harvest.Text.Utf8
