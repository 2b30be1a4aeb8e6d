import PoolPage.Chart.Line
import PoolPage.Chart.Sparkline
import PoolPage.Table

/-!
The page: named regions with text, table rows, sparklines and charts, and the alerts it raised.

Views do not touch a page.  They produce lists of `Update`s, and `Page.applyAll` makes them one
after the other.  A region may have several kinds of content at a time; `Page.toHtml` decides
which one is shown.  The flag `dirty` records that the shown document may have changed since it
was last taken.
-/

namespace PoolPage

/-- One change to a page. -/
inductive Update where
  | text (id text : String)
  | html (id html : String)
  | visible (id : String) (visible : Bool)
  | sparkline (id : String) (svg : Svg) (hover : Hover)
  | normalize (viewBox preserveAspectRatio : String)
  | chart (id : String) (chart : LineChart)
  | resizeChart (id : String)
  | alert (message : String)
deriving DecidableEq

namespace Update

/-- The region that an update is about; changes of all drawings and alerts have none. -/
def target? : Update → Option String
  | text id _ | html id _ | visible id _ | sparkline id _ _ | chart id _ | resizeChart id => some id
  | normalize _ _ | alert _ => none

end Update

/-- A chart on the page and how often it was laid out anew. -/
structure ChartSlot where
  chart : LineChart
  resizes : Nat
deriving DecidableEq

structure Page where
  text : Table String
  html : Table String
  visible : Table Bool
  sparklines : Table (Svg × Hover)
  charts : Table ChartSlot
  /-- How many charts were ever created. -/
  chartInits : Nat
  alerts : List String
  dirty : Bool

namespace Page

def blank : Page where
  text := .empty
  html := .empty
  visible := .empty
  sparklines := .empty
  charts := .empty
  chartInits := 0
  alerts := []
  dirty := false

/-- Sets the text of a region; the page is dirty if it is another text. -/
def setText (page : Page) (id text : String) : Page :=
  if page.text.get? id = some text then page
  else { page with text := page.text.insert id text, dirty := true }

/-- Sets whether a region is visible; the page is dirty if it was not set so before. -/
def setVisible (page : Page) (id : String) (visible : Bool) : Page :=
  { page with
    visible := page.visible.insert id visible
    dirty := page.dirty || page.visible.get? id != some visible }

def normalizeDrawings (page : Page) (viewBox preserveAspectRatio : String) : Page :=
  { page with
    sparklines := page.sparklines.map fun (svg, hover) =>
      ((svg.setAttribute "viewBox" viewBox).setAttribute "preserveAspectRatio" preserveAspectRatio,
        hover)
    dirty := true }

/-- Replaces the data of a chart, or creates it. -/
def setChart (page : Page) (id : String) (chart : LineChart) : Page :=
  match page.charts.get? id with
  | some slot => { page with charts := page.charts.insert id { slot with chart }, dirty := true }
  | none =>
    { page with
      charts := page.charts.insert id { chart, resizes := 0 }
      chartInits := page.chartInits + 1
      dirty := true }

def resizeChart (page : Page) (id : String) : Page :=
  match page.charts.get? id with
  | some slot =>
    { page with charts := page.charts.insert id { slot with resizes := slot.resizes + 1 } }
  | none => page

def apply (page : Page) : Update → Page
  | .text id text => page.setText id text
  | .html id html => { page with html := page.html.insert id html, dirty := true }
  | .visible id visible => page.setVisible id visible
  | .sparkline id svg hover =>
    { page with sparklines := page.sparklines.insert id (svg, hover), dirty := true }
  | .normalize viewBox preserveAspectRatio => page.normalizeDrawings viewBox preserveAspectRatio
  | .chart id chart => page.setChart id chart
  | .resizeChart id => page.resizeChart id
  | .alert message => { page with alerts := page.alerts ++ [message] }

def applyAll (page : Page) (updates : List Update) : Page := updates.foldl apply page

/-- The pointer is over a point of a sparkline: its region shows the label. -/
def pointerMove (page : Page) (id : String) (index : Nat) : Page :=
  match page.sparklines.get? id with
  | some (_, hover) =>
    match hover.over? index with
    | some (target, label) => page.setText target label
    | none => page
  | none => page

/-- The pointer has left a sparkline: its region shows the resting text. -/
def pointerOut (page : Page) (id : String) : Page :=
  match page.sparklines.get? id with
  | some (_, hover) => page.setText hover.out.1 hover.out.2
  | none => page

/-- The window has another size: every chart is laid out anew. -/
def resize (page : Page) : Page :=
  { page with charts := page.charts.map fun slot => { slot with resizes := slot.resizes + 1 } }

/-- The page when it is loaded: blank, and to be shown. -/
def loaded : Page := { blank with dirty := true }

/-- The flag, and the page with the flag down. -/
def takeDirty (page : Page) : Bool × Page := (page.dirty, { page with dirty := false })

end Page
end PoolPage
