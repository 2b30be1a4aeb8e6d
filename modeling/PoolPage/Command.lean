import PoolPage.Number.Natural
import PoolPage.Number.Word
import PoolPage.Text.Blank
import PoolPage.Text.Quoted

/-!
Commands: what a visitor does on the page, as typed lines.

A line is a word and, after white space, its argument.  White space around both is ignored.
-/

namespace PoolPage

inductive Command where
  | address (value : String)
  | hashRate (value : String)
  | navigate (hash : String)
  | pointerMove (chart : String) (index : Nat)
  | pointerOut (chart : String)
  | resize
  | reload
  | quit
deriving DecidableEq, Repr

namespace Command

/-- Why a line is no command. -/
inductive Error where
  | noChart
  | noIndex
  | badIndex (fault : NaturalFault)
  | unknown (line : String)
deriving DecidableEq, Repr

def Error.message : Error → String
  | noChart => "hover needs a chart id"
  | noIndex => "hover needs a point index"
  | badIndex fault => fault.message
  | unknown line => "unknown command " ++ quoted line

/-- Indices are below this limit. -/
def indexLimit : Nat := wordLimit

/-- The chart and the index of a pointer move; what follows them is ignored. -/
def readMove (argument : List Char) : Except Error Command :=
  let (chart, rest) := splitAtBlank (trimLeft argument)
  let (index, _) := splitAtBlank (trimLeft rest)
  if chart.isEmpty then .error .noChart
  else if index.isEmpty then .error .noIndex
  else do
    let index ← (readNatural indexLimit index).mapError Error.badIndex
    return pointerMove (String.ofList chart) index

def parse (line : String) : Except Error Command :=
  let line := trimBlanks line.toList
  let (word, rest) := splitAtBlank line
  let argument := trimBlanks rest
  match String.ofList word with
  | "addr" => .ok (address (String.ofList argument))
  | "hr" => .ok (hashRate (String.ofList argument))
  | "go" => .ok (navigate (String.ofList argument))
  | "hover" => readMove argument
  | "out" =>
    if argument.isEmpty then .error (.unknown (String.ofList line))
    else .ok (pointerOut (String.ofList argument))
  | "resize" => .ok resize
  | "reload" => .ok reload
  | "quit" | "exit" => .ok quit
  | _ => .error (.unknown (String.ofList line))

end Command
end PoolPage
