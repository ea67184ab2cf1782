/-!
# Words

Numbers that are kept in words of a fixed length, and how many of them there are.
-/

namespace FrontierBus.Word

/-- The numbers below it fit into 32 bits. -/
def count32 : Nat := 0x100000000

/-- The numbers below it fit into 64 bits. -/
def count64 : Nat := 0x10000000000000000

end FrontierBus.Word
