import PoolPage.Json.Value

/-!
Line charts: the data of one series over a category axis, in the form a charting widget takes.
-/

namespace PoolPage

structure LineChart where
  seriesName : String
  xLabels : List String
  values : List Binary64
  color : String
deriving DecidableEq

namespace LineChart

/-- The options of the chart.  The widget formats its value axis as hash rates. -/
def option (chart : LineChart) : Json :=
  let style := Json.record [("color", .string chart.color)]
  Json.record
    [("xAxis", Json.record
      [("type", .string "category"), ("data", .array (chart.xLabels.map .string))]),
     ("yAxis", Json.record
      [("type", .string "value"),
       ("axisLabel", Json.record [("formatter", .string "hashrate")])]),
     ("tooltip", Json.record [("trigger", .string "axis")]),
     ("series", .array
      [Json.record
        [("name", .string chart.seriesName),
         ("data", .array (chart.values.map .number)),
         ("type", .string "line"),
         ("showSymbol", .bool false),
         ("lineStyle", style),
         ("itemStyle", style)]])]

/-- The largest finite value, at least zero. -/
def maximum (values : List Binary64) : Binary64 :=
  (values.filter Binary64.isFinite).foldl Binary64.max 0

/-- Five evenly spaced labels from zero to the largest value. -/
def yTicks (chart : LineChart) : List String :=
  (List.range 5).map fun i => Figure.hashRate (maximum chart.values * Binary64.ofNat i / 4)

end LineChart
end PoolPage
