/-!
The two checksums of compressed bodies.
-/

namespace Scep.Checksum

def crcBit (remainder : UInt32) : UInt32 :=
  if remainder &&& 1 == 1 then (remainder >>> 1) ^^^ 0xEDB88320 else remainder >>> 1

def crcOctet (remainder : UInt32) (octet : UInt8) : UInt32 :=
  crcBit (crcBit (crcBit (crcBit (crcBit (crcBit (crcBit (crcBit
    (remainder ^^^ octet.toUInt32))))))))

def crc32 (octets : List UInt8) : Nat :=
  (octets.foldl crcOctet 0xFFFFFFFF ^^^ 0xFFFFFFFF).toNat

def adlerOctet (sums : Nat × Nat) (octet : UInt8) : Nat × Nat :=
  let low := (sums.1 + octet.toNat) % 65521
  (low, (sums.2 + low) % 65521)

end Scep.Checksum
