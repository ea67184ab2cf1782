/-!
# CRC-32

The checksum that keys are routed by: the reflected polynomial `0xEDB88320`, all bits set at the
start, inverted at the end. A table holds the effect of eight bit steps on each octet.
-/

namespace FrontierBus.Checksum

/-- One bit of the division. -/
def bitStep (remainder : UInt32) : UInt32 :=
  if remainder &&& 1 = 1 then (remainder >>> 1) ^^^ 0xEDB88320 else remainder >>> 1

/-- Eight bits of the division. -/
def octetStep (remainder : UInt32) : UInt32 :=
  bitStep (bitStep (bitStep (bitStep (bitStep (bitStep (bitStep (bitStep remainder)))))))

/-- The effect of eight bit steps on every octet. -/
def table : Array UInt32 :=
  (Array.range 256).map fun octet => octetStep octet.toUInt32

/-- The remainder after one more octet. -/
def update (remainder : UInt32) (octet : UInt8) : UInt32 :=
  (remainder >>> 8) ^^^ table.getD ((remainder ^^^ octet.toUInt32) &&& 0xFF).toNat 0

/-- The CRC-32 of a sequence of octets. -/
def crc32 (octets : ByteArray) : UInt32 :=
  octets.data.foldl update 0xFFFFFFFF ^^^ 0xFFFFFFFF

/-- The CRC-32 of a text in UTF-8. -/
def crc32Text (text : String) : UInt32 :=
  crc32 text.toUTF8

end FrontierBus.Checksum
