/-
Bytes in a gzip container, stored in blocks as they are, with their checksum. The checksum is the cyclic redundancy check
of 32 bits: the remainder takes in one byte after the other, lowest bit first.
-/
namespace Harvest.Gzip

/-- the generating polynomial, lowest bit first -/
def polynomial : UInt32 := 0xEDB88320

/-- move the remainder by one bit -/
def shift (remainder : UInt32) : UInt32 :=
  if remainder &&& 1 == 1 then (remainder >>> 1) ^^^ polynomial else remainder >>> 1

/-- take a byte into the remainder -/
def takeByte (remainder : UInt32) (b : UInt8) : UInt32 :=
  (shift ∘ shift ∘ shift ∘ shift ∘ shift ∘ shift ∘ shift ∘ shift) (remainder ^^^ b.toUInt32)

def checksum (bytes : List UInt8) : UInt32 :=
  bytes.foldl takeByte 0xFFFFFFFF ^^^ 0xFFFFFFFF

/-- a number in bytes, the lowest first -/
def littleEndian : (width : Nat) → Nat → List UInt8
  | 0, _ => []
  | width + 1, n => UInt8.ofNat (n % 256) :: littleEndian width (n / 256)

/-- how many bytes a block can hold -/
def blockSize : Nat := 65535

/-- bytes in stored blocks; the last block is marked -/
def blocks (bytes : List UInt8) : List UInt8 :=
  let block := bytes.take blockSize
  let last := bytes.length ≤ blockSize
  (if last then 1 else 0) :: littleEndian 2 block.length ++ littleEndian 2 (blockSize - block.length) ++ block ++
    if last then [] else blocks (bytes.drop blockSize)
termination_by bytes.length
decreasing_by
  simp only [List.length_drop, blockSize] at *
  omega

/-- what a container starts with: no name, no time, any system -/
def header : List UInt8 := [0x1F, 0x8B, 8, 0, 0, 0, 0, 0, 0, 255]

/-- bytes in a container -/
def store (bytes : List UInt8) : List UInt8 :=
  header ++ blocks bytes ++ littleEndian 4 (checksum bytes).toNat ++ littleEndian 4 bytes.length

end Harvest.Gzip
