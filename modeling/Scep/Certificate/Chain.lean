import Scep.Certificate.Der

/-!
Several certificates in one message that is signed by nobody.
-/

namespace Scep.Chain

def signedData : Octets :=
  Der.encode Der.objectName [0x2A, 0x86, 0x48, 0x86, 0xF7, 0x0D, 0x01, 0x07, 0x02]

def plainData : Octets :=
  Der.encode Der.objectName [0x2A, 0x86, 0x48, 0x86, 0xF7, 0x0D, 0x01, 0x07, 0x01]

/-- Encodings in the order of a set, repeats being kept. -/
def inSetOrder (encodings : List Octets) : List Octets :=
  encodings.mergeSort Der.precedes

/-- Certificates in one message: its version is one, it has no content, no
algorithms and no signers. -/
def encode (certificates : List Octets) : Octets :=
  let inner :=
    Der.encode Der.whole [1] ++ Der.encode Der.set [] ++ Der.encode Der.sequence plainData ++
      Der.encode (Der.numbered true 0) (inSetOrder certificates).flatten ++ Der.encode Der.set []
  Der.encode Der.sequence
    (signedData ++ Der.encode (Der.numbered true 0) (Der.encode Der.sequence inner))

end Scep.Chain
