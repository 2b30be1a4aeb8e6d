/-!
The ranges of 64-bit integers.
-/

namespace PoolPage

/-- Unsigned 64-bit integers are below 2⁶⁴. -/
abbrev wordLimit : Nat := 0x10000000000000000

/-- Signed 64-bit integers are below 2⁶³ and not below -2⁶³. -/
abbrev signedLimit : Nat := 0x8000000000000000

end PoolPage
