/-!
Punycode: domain labels with characters past ASCII, as letters, digits and hyphens.

The characters of a label that are ASCII come first.  The others follow in order of their code
points, each as the number of positions and code points skipped since the one before, in base 36
with digits whose number adapts.
-/

namespace PoolPage
namespace Punycode

/-- The thresholds of a digit: between 1 and 26, rising with its place. -/
def threshold (place bias : Nat) : Nat := min 26 (max 1 (place - bias))

/-- The bias after a number. -/
def adapt (delta count : Nat) (first : Bool) : Nat :=
  let delta := if first then delta / 700 else delta / 2
  reduce (delta + delta / count) 0 (delta.log2 + 2)
where
  reduce (delta shift : Nat) : Nat → Nat
    | 0 => shift
    | steps + 1 =>
      if 455 < delta then reduce (delta / 35) (shift + 36) steps
      else shift + 36 * delta / (delta + 38)

def digit (n : Nat) : Char := Char.ofNat (if n < 26 then 97 + n else 22 + n)

def writeNumber (bias : Nat) : (steps n place : Nat) → List Char
  | 0, _, _ => []
  | steps + 1, n, place =>
    let t := threshold place bias
    if n < t then [digit n]
    else digit (t + (n - t) % (36 - t)) :: writeNumber bias steps ((n - t) / (36 - t)) (place + 36)

/-- What has been written so far. -/
structure Writer where
  delta : Nat
  bias : Nat
  written : Nat
  first : Bool
  output : List Char

/-- Passes the characters of a label for one code point: smaller ones are counted, and the code
point itself is written. -/
def writeOccurrences (codePoint : Nat) (w : Writer) (label : List Char) : Writer :=
  label.foldl (fun w c =>
    if c.toNat < codePoint then { w with delta := w.delta + 1 }
    else if c.toNat = codePoint then
      { delta := 0
        bias := adapt w.delta (w.written + 1) w.first
        written := w.written + 1
        first := false
        output := w.output ++ writeNumber w.bias (w.delta.log2 + 2) w.delta 36 }
    else w) w

/-- Writes the code points of a sorted list. -/
def writeAll (label : List Char) : (previous : Nat) → Writer → List Nat → Writer
  | _, w, [] => w
  | previous, w, codePoint :: rest =>
    let w := { w with delta := w.delta + (codePoint - previous) * (w.written + 1) }
    let w := writeOccurrences codePoint w label
    writeAll label (codePoint + 1) { w with delta := w.delta + 1 } rest

def encode (label : List Char) : List Char :=
  let basic := label.filter fun c => c.toNat < 128
  let others := ((label.map Char.toNat).filter (128 ≤ ·)).mergeSort.eraseDups
  let output := if basic.isEmpty then [] else basic ++ ['-']
  (writeAll label 128 ⟨0, 72, basic.length, true, output⟩ others).output

/-! ### Decoding -/

def digitValue? (c : Char) : Option Nat :=
  if 'a' ≤ c ∧ c ≤ 'z' then some (c.toNat - 97)
  else if 'A' ≤ c ∧ c ≤ 'Z' then some (c.toNat - 65)
  else if c.isDigit then some (c.toNat - 22)
  else none

/-- A number at the front of a text, added to `i`. -/
def readNumber (bias : Nat) : (i weight place : Nat) → List Char → Option (Nat × List Char)
  | _, _, _, [] => none
  | i, weight, place, c :: rest => do
    let d ← digitValue? c
    let i := i + d * weight
    let t := threshold place bias
    if d < t then return (i, rest) else readNumber bias i (weight * (36 - t)) (place + 36) rest

/-- Inserts the encoded characters into those read so far. -/
def readAll : (steps codePoint i bias : Nat) → (output cs : List Char) → Option (List Char)
  | _, _, _, _, output, [] => some output
  | 0, _, _, _, _, _ :: _ => none
  | steps + 1, codePoint, i, bias, output, cs => do
    let (next, rest) ← readNumber bias i 1 36 cs
    let count := output.length + 1
    let codePoint := codePoint + next / count
    if !codePoint.isValidChar then none
    else
      let place := next % count
      readAll steps codePoint (place + 1) (adapt (next - i) count (i = 0))
        (output.take place ++ Char.ofNat codePoint :: output.drop place) rest

/-- The part before the last hyphen, and the part after it. -/
def splitLastHyphen (cs : List Char) : List Char × List Char :=
  let tail := cs.reverse.takeWhile (· ≠ '-')
  if tail.length = cs.length then ([], cs)
  else (cs.take (cs.length - tail.length - 1), tail.reverse)

def decode (cs : List Char) : Option (List Char) :=
  let (basic, encoded) := splitLastHyphen cs
  readAll encoded.length 128 0 72 basic encoded

end Punycode
end PoolPage
