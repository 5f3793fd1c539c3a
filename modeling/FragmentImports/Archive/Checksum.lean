/-!
Checksums of 32 bits that are kept with data: cyclic redundancy checks, and sums of sums.
-/

namespace FragmentImports.Checksum

def shift (remainder : UInt32) : UInt32 :=
  if remainder % 2 = 1 then (remainder >>> 1) ^^^ 0xEDB88320 else remainder >>> 1

def addByte (remainder : UInt32) (byte : UInt8) : UInt32 :=
  (List.range 8).foldl (fun value _ => shift value) (remainder ^^^ byte.toUInt32)

def crc32 (data : ByteArray) : Nat := (data.foldl addByte 0xFFFFFFFF ^^^ 0xFFFFFFFF).toNat

def shiftHighFirst (remainder : UInt32) : UInt32 :=
  if 0x80000000 ≤ remainder then (remainder <<< 1) ^^^ 0x04C11DB7 else remainder <<< 1

def addByteHighFirst (remainder : UInt32) (byte : UInt8) : UInt32 :=
  (List.range 8).foldl (fun value _ => shiftHighFirst value) (remainder ^^^ (byte.toUInt32 <<< 24))

def crc32HighFirst (data : ByteArray) : Nat :=
  (data.foldl addByteHighFirst 0xFFFFFFFF ^^^ 0xFFFFFFFF).toNat

def adlerModulus : Nat := 65521

/-- The sum of all bytes and one, below the sum of all such sums. -/
def adler32 (data : ByteArray) : Nat :=
  let (sum, sums) := data.foldl (fun (sum, sums) byte =>
    let next := (sum + byte.toNat) % adlerModulus
    (next, (sums + next) % adlerModulus)) (1, 0)
  0x10000 * sums + sum

end FragmentImports.Checksum
