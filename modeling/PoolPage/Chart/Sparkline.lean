import PoolPage.Figure
import PoolPage.Markup

/-!
Sparklines: small line drawings of a series without axes, with labels that show while the pointer
is over a point.

The points of a series are spread evenly over the width of the drawing, and its finite values over
the height, the largest at the top edge.  A value that is not finite leaves a gap.
-/

namespace PoolPage

/-- A drawing.  Its viewport attributes may be set after it was drawn. -/
structure Svg where
  width : Binary64
  height : Binary64
  viewBox : Option String
  preserveAspectRatio : Option String
  body : String
deriving DecidableEq

namespace Svg

/-- Sets one of the viewport attributes; other names are ignored. -/
def setAttribute (svg : Svg) (name value : String) : Svg :=
  if name = "viewBox" then { svg with viewBox := some value }
  else if name = "preserveAspectRatio" then { svg with preserveAspectRatio := some value }
  else svg

/-- The text of an attribute that is present. -/
def attributeText (name : String) : Option String → String
  | some value => " " ++ name ++ "=\"" ++ Markup.escape value ++ "\""
  | none => ""

def markup (svg : Svg) : String :=
  "<svg xmlns=\"http://www.w3.org/2000/svg\"" ++
    " width=\"" ++ String.ofList (Figure.positional svg.width) ++ "\"" ++
    " height=\"" ++ String.ofList (Figure.positional svg.height) ++ "\"" ++
    attributeText "viewBox" svg.viewBox ++
    attributeText "preserveAspectRatio" svg.preserveAspectRatio ++ ">" ++ svg.body ++ "</svg>"

end Svg

namespace Sparkline

def width : Binary64 := 200

def height : Binary64 := 100

def places : Nat := 2

/-- The smallest and the largest finite value; infinities the wrong way round if there is none. -/
def bounds (values : List Binary64) : Binary64 × Binary64 :=
  let finite := values.filter Binary64.isFinite
  (finite.foldl Binary64.min (.infinite false), finite.foldl Binary64.max (.infinite true))

/-- The distance of a value from the top edge.  Equal values are drawn halfway down. -/
def ordinate (low high value : Binary64) : Binary64 :=
  if low.lt high then height - (value - low) / (high - low) * height else height / 2

def step (count : Nat) : Binary64 :=
  if 1 < count then width / Binary64.ofNat (count - 1) else 0

def coordinate (x y : Binary64) : String :=
  Figure.halfEvenPlaces x places ++ "," ++ Figure.halfEvenPlaces y places

/-- The points of the line, one for each finite value. -/
def coordinates (values : List Binary64) : List String :=
  let (low, high) := bounds values
  let step := step values.length
  (values.zipIdx.filter fun (value, _) => value.isFinite).map fun (value, i) =>
    coordinate (Binary64.ofNat i * step) (ordinate low high value)

/-- The drawing of a series; nothing is drawn for a series without finite values. -/
def draw (values : List Binary64) : Svg :=
  let points := coordinates values
  { width, height
    viewBox := none
    preserveAspectRatio := none
    body :=
      if points.isEmpty then ""
      else "<polyline class=\"sparkline--line\" fill=\"none\" points=\"" ++
        String.intercalate " " points ++ "\"/>" }

end Sparkline

/-- Labels over the points of a sparkline.  While the pointer is over a point, the region `target`
shows its label, and `resting` otherwise. -/
structure Hover where
  target : String
  labels : List String
  resting : String
deriving DecidableEq

namespace Hover

/-- The region and its text while the pointer is over a point. -/
def over? (hover : Hover) (index : Nat) : Option (String × String) :=
  hover.labels[index]?.map fun label => (hover.target, label)

/-- The region and its text when the pointer has left. -/
def out (hover : Hover) : String × String := (hover.target, hover.resting)

end Hover
end PoolPage
