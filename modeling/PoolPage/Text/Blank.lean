/-!
White space in the sense of Unicode, and texts without it at their ends.
-/

namespace PoolPage

/-- The code points with the property White_Space. -/
def Blank.ranges : List (Nat × Nat) :=
  [(0x09, 0x0D), (0x20, 0x20), (0x85, 0x85), (0xA0, 0xA0), (0x1680, 0x1680),
   (0x2000, 0x200A), (0x2028, 0x2029), (0x202F, 0x202F), (0x205F, 0x205F), (0x3000, 0x3000)]

def isBlank (c : Char) : Bool :=
  Blank.ranges.any fun (low, high) => low ≤ c.toNat && c.toNat ≤ high

theorem Blank.count : Blank.ranges.foldl (fun n (low, high) => n + (high + 1 - low)) 0 = 25 := rfl

def trimLeft (cs : List Char) : List Char := cs.dropWhile isBlank

def trimRight (cs : List Char) : List Char := (cs.reverse.dropWhile isBlank).reverse

def trimBlanks (cs : List Char) : List Char := trimRight (trimLeft cs)

/-- The part before the first blank, and the part after it; the second is empty when
there is no blank. -/
def splitAtBlank (cs : List Char) : List Char × List Char :=
  let word := cs.takeWhile (!isBlank ·)
  (word, (cs.dropWhile (!isBlank ·)).drop 1)

end PoolPage
