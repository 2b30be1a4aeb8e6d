import PoolPage.Text.CombiningClass
import PoolPage.Text.Decomposition

/-!
Composed texts: of all ways to write a text with marks, the one that every other is brought to.

A text is taken apart, the marks behind each starting character are put in order, and then as many
characters as possible are put together.  This is the normalization form C of Unicode.
-/

namespace PoolPage

/-! ### Order of marks -/

/-- Puts a character in front of a text in order: behind the marks of smaller classes at its
start. -/
def placeMark (c : Char) : List Char → List Char
  | [] => [c]
  | d :: rest =>
    if 0 < combiningClass d ∧ combiningClass d < combiningClass c then d :: placeMark c rest
    else c :: d :: rest

def inMarkOrder (cs : List Char) : List Char := cs.foldr placeMark []

/-! ### Putting together -/

/-- The end of a text that is put together: a starting character and the marks behind it, the last
one first. -/
structure OpenCluster where
  start : Char
  marks : List Char

namespace OpenCluster

def toList (cluster : OpenCluster) : List Char := cluster.start :: cluster.marks.reverse

/-- Whether a character reaches the starting one: every mark between them is of a smaller class. -/
def reaches (cluster : OpenCluster) (c : Char) : Bool :=
  match cluster.marks with
  | [] => true
  | mark :: _ => combiningClass mark < combiningClass c

/-- The starting character put together with another one. -/
def join? (cluster : OpenCluster) (c : Char) : Option OpenCluster :=
  if cluster.reaches c then (compose? cluster.start c).map fun start => { cluster with start }
  else none

end OpenCluster

/-- Puts the rest of a text in order to the cluster in front of it. -/
def composeFrom (cluster : OpenCluster) : List Char → List Char
  | [] => cluster.toList
  | c :: rest =>
    match cluster.join? c with
    | some cluster => composeFrom cluster rest
    | none =>
      if combiningClass c = 0 then cluster.toList ++ composeFrom ⟨c, []⟩ rest
      else composeFrom { cluster with marks := c :: cluster.marks } rest

/-- Puts together a text in order.  Marks at its start have nothing to go with. -/
def compose (cs : List Char) : List Char :=
  let front := cs.takeWhile fun c => combiningClass c ≠ 0
  match cs.drop front.length with
  | [] => front
  | c :: rest => front ++ composeFrom ⟨c, []⟩ rest

def composed (cs : List Char) : List Char := compose (inMarkOrder (cs.flatMap decomposed))

end PoolPage
