import FrontierBus.Checksum

/-!
# Checksums without the table

The table saves time only: an octet changes the remainder by eight steps, each of one bit.
-/

namespace FrontierBus.Checksum

/-- The remainder after one more octet, bit by bit. -/
def divide (remainder : UInt32) (octet : UInt8) : UInt32 :=
  (remainder >>> 8) ^^^ octetStep ((remainder ^^^ octet.toUInt32) &&& 0xFF)

theorem getD_table {value : UInt32} (small : value.toNat < 256) :
    table.getD value.toNat 0 = octetStep value := by
  simp [table, Array.getD, small]

theorem update_eq_divide : update = divide := by
  funext remainder octet
  have small : ((remainder ^^^ octet.toUInt32) &&& 0xFF).toNat < 256 := by
    rw [UInt32.toNat_and]
    exact Nat.lt_succ_of_le Nat.and_le_right
  rw [update, getD_table small, divide]

/-- A checksum is the remainder of a division bit by bit. -/
theorem crc32_eq_divide (octets : ByteArray) :
    crc32 octets = octets.data.toList.foldl divide 0xFFFFFFFF ^^^ 0xFFFFFFFF := by
  rw [crc32, ← Array.foldl_toList, update_eq_divide]

end FrontierBus.Checksum
