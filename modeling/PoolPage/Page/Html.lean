import PoolPage.Page.Basic
import PoolPage.Text.Blank

/-!
The document of a page: one element for each region, in the order of their names.

Rows of a table are shown as a table.  Of the other kinds of content a region shows the first it
has of text, markup, sparkline and chart data.
-/

namespace PoolPage
namespace Page

def regionIds (page : Page) : List String :=
  let ids := page.text.names ++ page.html.names ++ page.visible.names ++ page.sparklines.names ++
    page.charts.names
  (Table.ofList (ids.map fun id => (id, ()))).names

/-- Markup that starts with a table row, after white space. -/
def isRows (html : String) : Bool := "<tr".toList.isPrefixOf (trimLeft html.toList)

/-- The data of a chart as a script element. -/
def chartScript (chart : LineChart) : String :=
  let data := Json.record
    [("option", chart.option), ("yTicks", .array (chart.yTicks.map .string))]
  "<script type=\"application/json\">" ++ Markup.escape data.render ++ "</script>"

/-- What a region shows that is no table. -/
def content (page : Page) (id : String) : String :=
  match page.text.get? id with
  | some text => Markup.escape text
  | none =>
    match page.html.get? id with
    | some html => html
    | none =>
      match page.sparklines.get? id with
      | some (svg, _) => svg.markup
      | none =>
        match page.charts.get? id with
        | some slot => chartScript slot.chart
        | none => ""

/-- The style of a region that was made invisible. -/
def hiddenStyle (page : Page) (id : String) : String :=
  if page.visible.get? id = some false then " style=\"display:none\"" else ""

def element (page : Page) (id : String) : String :=
  let hidden := page.hiddenStyle id
  let name := Markup.escape id
  match (page.html.get? id).filter isRows with
  | some rows =>
    "<table" ++ hidden ++ "><tbody id=\"" ++ name ++ "\">" ++ rows ++ "</tbody></table>\n"
  | none => "<div id=\"" ++ name ++ "\"" ++ hidden ++ ">" ++ page.content id ++ "</div>\n"

def documentHead : String :=
  "<!DOCTYPE html>\n<html>\n<head><meta charset=\"utf-8\"><title>pool dashboard</title></head>\n" ++
    "<body>\n"

def documentFoot : String := "</body>\n</html>\n"

def toHtml (page : Page) : String :=
  documentHead ++ String.join (page.regionIds.map page.element) ++ documentFoot

end Page
end PoolPage
