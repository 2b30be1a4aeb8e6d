/-!
Markup of table rows and links.
-/

namespace PoolPage
namespace Markup

/-- What stands for a character in text and in attribute values. -/
def escapeChar : Char → List Char
  | '&' => "&amp;".toList
  | '<' => "&lt;".toList
  | '>' => "&gt;".toList
  | '"' => "&quot;".toList
  | '\'' => "&#39;".toList
  | c => [c]

def escape (text : String) : String := String.ofList (text.toList.flatMap escapeChar)

/-- A link into an explorer, opening in a new tab. -/
def anchor (target text : String) : String :=
  "<a class=\"txhash\" href=\"" ++ escape target ++ "\" target=\"_blank\">" ++ escape text ++ "</a>"

/-- A table row.  Its cells are markup already. -/
def row (cells : List String) : String :=
  "<tr>" ++ String.join (cells.map fun cell => "<td>" ++ cell ++ "</td>") ++ "</tr>"

end Markup
end PoolPage
