import PoolPage.Page.Html
import PoolPage.Proofs.Json.RoundTrip
import PoolPage.Proofs.Markup.Trees

/-!
# Chart data in the document

The data of a chart is the content of a script element.  Such content is raw text: it goes up to
the next `</script`, and no reference in it stands for a character (`Markup.rawText`).  The page
escapes the data like a text of its own, so what the script holds is no JSON; it is the data of the
chart once the references are replaced (`Page.chart_script`).
-/

namespace PoolPage

/-! ## Raw text -/

namespace Markup

/-- The content of a script, up to its closing tag in letters of either case. -/
def rawText : List Char → List Char
  | [] => []
  | c :: cs =>
    if c = '<' ∧ (cs.take 7).map Char.toLower = "/script".toList then [] else c :: rawText cs

theorem rawText_append {raw : List Char} (hraw : ∀ c ∈ raw, c ≠ '<') (rest : List Char) :
    rawText (raw ++ ("</script>".toList ++ rest)) = raw := by
  induction raw with
  | nil => exact if_pos ⟨rfl, rfl⟩
  | cons c raw ih =>
    obtain ⟨hc, hraw⟩ := List.forall_mem_cons.mp hraw
    rw [List.cons_append, rawText, if_neg fun h => hc h.1, ih hraw]

theorem rawText_escape (text rest : String) :
    rawText (escape text ++ "</script>" ++ rest).toList = (escape text).toList := by
  have hplain := List.all_eq_true.mp (isPlain_escape text)
  rw [String.toList_append, String.toList_append, List.append_assoc]
  refine rawText_append (fun c hc => ?_) _
  rintro rfl
  cases hplain '<' hc

end Markup

/-! ## Chart data -/

/-- An object has no member that begins with a reference. -/
theorem Doc.scanValue_brace_reference (fuel : Nat) (rest : List Char) :
    scanValue (fuel + 3) ('\x7b' :: '&' :: rest) = (.object [] (some .malformed), none) := by
  have hmember : scanMember (fuel + 1) ('&' :: rest) = (([], some .malformed), none) := by
    rw [scanMember, skipSpaces_cons rfl]
    rfl
  have hfirst : scanFirstMember (fuel + 2) ('&' :: rest) = (([], some .malformed), none) := by
    rw [scanFirstMember, skipSpaces_cons rfl]
    exact hmember
  rw [scanValue, skipSpaces_cons rfl]
  simp only [hfirst]

namespace Json

/-- A step into a value. -/
inductive Step where
  | member (name : String)
  | item (index : Nat)

/-- The value at the end of a path. -/
def at? (value : Json) : List Step → Option Json
  | [] => some value
  | .member name :: path => (value.member? name).bind (·.at? path)
  | .item index :: path => (value.array?.bind (·[index]?)).bind (·.at? path)

end Json

namespace LineChart

/-- A value holds the data of a chart. -/
structure IsData (chart : LineChart) (data : Json) : Prop where
  values : data.at? [.member "option", .member "series", .item 0, .member "data"] =
    some (.array (chart.values.map .number))
  name : data.at? [.member "option", .member "series", .item 0, .member "name"] =
    some (.string chart.seriesName)
  labels : data.at? [.member "option", .member "xAxis", .member "data"] =
    some (.array (chart.xLabels.map .string))
  ticks : data.at? [.member "yTicks"] = some (.array (chart.yTicks.map .string))

/-- The data that a page gives for a chart. -/
def data (chart : LineChart) : Json :=
  Json.record [("option", chart.option), ("yTicks", .array (chart.yTicks.map .string))]

theorem isData_data (chart : LineChart) : chart.IsData chart.data := by
  constructor <;>
    simp [data, option, Json.at?, Json.member?_record, Table.ofList, Json.array?]

theorem data_eq_object (chart : LineChart) :
    chart.data =
      .object [("option", chart.option), ("yTicks", .array (chart.yTicks.map .string))] := by
  have hlt : "option" < "yTicks" := by decide
  exact congrArg Json.object (Table.entries_ofList (List.pairwise_pair.mpr hlt))

theorem isReadable_data {chart : LineChart} (h : ∀ v ∈ chart.values, v.isFinite = true) :
    chart.data.IsReadable := by
  have hstrings (texts : List String) : (Json.array (texts.map .string)).IsReadable :=
    .array (List.forall_mem_map.mpr fun text _ => .string text)
  have hnumbers : (Json.array (chart.values.map .number)).IsReadable :=
    .array (List.forall_mem_map.mpr fun v hv => .number (h v hv))
  have hentry (name text : String) : (Json.record [(name, .string text)]).IsReadable :=
    Json.isReadable_record (by simp [Json.IsReadable.string])
  have hoption : chart.option.IsReadable := by
    refine Json.isReadable_record ?_
    simp only [List.forall_mem_cons]
    refine ⟨?_, ?_, ?_, ?_, nofun⟩
    · exact Json.isReadable_record (by simp [Json.IsReadable.string, hstrings])
    · exact Json.isReadable_record (by simp [Json.IsReadable.string, hentry])
    · exact hentry _ _
    · refine .array (List.forall_mem_singleton.mpr (Json.isReadable_record ?_))
      simp [Json.IsReadable.string, Json.IsReadable.bool, hnumbers, hentry]
  exact Json.isReadable_record (by simp [hoption, hstrings])

theorem exists_render_data (chart : LineChart) :
    ∃ rest, chart.data.render.toList = '\x7b' :: '"' :: rest := by
  have hmembers (first second : String × Json) :
      ∃ rest, Json.writeMembers [first, second] = '"' :: rest := by
    rw [Json.writeMembers]
    · exact ⟨_, rfl⟩
    · exact List.cons_ne_nil _ _
  obtain ⟨rest, hrest⟩ :=
    hmembers ("option", chart.option) ("yTicks", .array (chart.yTicks.map .string))
  rw [data_eq_object, Json.render, String.toList_ofList, Json.write, hrest]
  exact ⟨_, rfl⟩

/-- Escaped data is no JSON: behind its brace a reference stands in the place of a quote. -/
theorem parse?_escape_data (chart : LineChart) :
    Json.parse? (Markup.escape chart.data.render) = none := by
  obtain ⟨rest, hrest⟩ := chart.exists_render_data
  have hescape : ∃ rest, (Markup.escape chart.data.render).toList = '\x7b' :: '&' :: rest := by
    rw [Markup.escape, String.toList_ofList, hrest]
    exact ⟨_, rfl⟩
  obtain ⟨rest, hescape⟩ := hescape
  simp only [Json.parse?, Document.ofText, hescape, List.length_cons, Nat.mul_add,
    Doc.scanValue_brace_reference]
  rfl

end LineChart

/-! ## Scripts of a page -/

namespace Page

/-- The opening tag of a region that is no table. -/
def regionHead (page : Page) (id : String) : String :=
  "<div id=\"" ++ Markup.escape id ++ "\"" ++ page.hiddenStyle id ++ ">"

/-- The raw text of the script in a region, behind the regions before it. -/
def HasScript (page : Page) (id : String) (content : List Char) : Prop :=
  ∃ before after rest, page.regionIds = before ++ id :: after ∧
    page.toHtml = documentHead ++ String.join (before.map page.element) ++ page.regionHead id ++
      "<script type=\"application/json\">" ++ rest ∧
    content = Markup.rawText rest.toList

section

variable {page : Page} {id : String} {slot : ChartSlot}

theorem mem_regionIds (h : page.charts.get? id = some slot) : id ∈ page.regionIds := by
  have hname : id ∈ page.charts.names := Table.mem_names_iff.mpr (by rw [h]; rfl)
  simp [regionIds, Table.mem_names_ofList, hname]

/-- A region that is displayed as a chart. -/
structure ShowsChart (page : Page) (id : String) (slot : ChartSlot) : Prop where
  text : page.text.get? id = none
  html : page.html.get? id = none
  sparklines : page.sparklines.get? id = none
  charts : page.charts.get? id = some slot

theorem ShowsChart.hasScript_iff (h : page.ShowsChart id slot) (content : List Char) :
    page.HasScript id content ↔ content = (Markup.escape slot.chart.data.render).toList := by
  have helement : page.element id = page.regionHead id ++ chartScript slot.chart ++ "</div>\n" := by
    simp [element, Page.content, regionHead, h.text, h.html, h.sparklines, h.charts]
  have hsplit {before after : List String} (hids : page.regionIds = before ++ id :: after) :
      page.toHtml = documentHead ++ String.join (before.map page.element) ++ page.regionHead id ++
        "<script type=\"application/json\">" ++ (Markup.escape slot.chart.data.render ++
          "</script>" ++ ("</div>\n" ++ String.join (after.map page.element) ++ documentFoot)) := by
    have hscript : chartScript slot.chart = "<script type=\"application/json\">" ++
        Markup.escape slot.chart.data.render ++ "</script>" := rfl
    rw [toHtml, hids, List.map_append, List.map_cons, String.join_append, String.join_cons,
      helement, hscript]
    simp only [String.append_assoc]
  constructor
  · rintro ⟨before, after, rest, hids, hhtml, rfl⟩
    rw [hsplit hids, String.append_right_inj] at hhtml
    rw [← hhtml, Markup.rawText_escape]
  · intro hcontent
    obtain ⟨before, after, hids⟩ := List.append_of_mem (mem_regionIds h.charts)
    refine ⟨before, after, _, hids, hsplit hids, ?_⟩
    rw [hcontent, Markup.rawText_escape]

/-- The script of a chart with finite values holds no JSON.  With its references replaced it is the
data of the chart. -/
theorem chart_script (h : page.ShowsChart id slot)
    (hfinite : ∀ v ∈ slot.chart.values, v.isFinite = true) :
    ∃ content, (∀ other, page.HasScript id other ↔ other = content) ∧
      Json.parse? (String.ofList content) = none ∧
      ∃ data, Json.parse? (Markup.unescape content) = some data ∧ slot.chart.IsData data := by
  refine ⟨_, h.hasScript_iff, ?_, slot.chart.data, ?_, slot.chart.isData_data⟩
  · rw [String.ofList_toList]
    exact slot.chart.parse?_escape_data
  · rw [Markup.unescape_escape]
    exact Json.parse?_render (LineChart.isReadable_data hfinite)

end

/-! ### A chart of one value -/

def minerChart : LineChart where
  seriesName := "Your hashrate"
  xLabels := ["10:00:00"]
  values := [2000]
  color := "#2039c9"

def minerPage : Page := Page.blank.apply (.chart "minerChart" minerChart)

theorem showsChart_minerPage : minerPage.ShowsChart "minerChart" ⟨minerChart, 0⟩ :=
  ⟨rfl, rfl, rfl, rfl⟩

theorem isFinite_minerChart : ∀ v ∈ minerChart.values, v.isFinite = true := by decide +kernel

theorem chart_script_minerPage :
    minerPage.ShowsChart "minerChart" ⟨minerChart, 0⟩ ∧
      (∀ v ∈ minerChart.values, v.isFinite = true) ∧
      ∃ content, (∀ other, minerPage.HasScript "minerChart" other ↔ other = content) ∧
        Json.parse? (String.ofList content) = none ∧
        ∃ data, Json.parse? (Markup.unescape content) = some data ∧ minerChart.IsData data :=
  ⟨showsChart_minerPage, isFinite_minerChart,
    chart_script showsChart_minerPage isFinite_minerChart⟩

/-- The script of this page is not the data of its chart. -/
theorem not_isData_minerPage :
    minerPage.ShowsChart "minerChart" ⟨minerChart, 0⟩ ∧
      (∀ v ∈ minerChart.values, v.isFinite = true) ∧
      ¬∃ content data, minerPage.HasScript "minerChart" content ∧
        Json.parse? (String.ofList content) = some data ∧ minerChart.IsData data := by
  refine ⟨showsChart_minerPage, isFinite_minerChart, ?_⟩
  rintro ⟨content, data, hscript, hparse, -⟩
  rw [showsChart_minerPage.hasScript_iff] at hscript
  rw [hscript, String.ofList_toList, LineChart.parse?_escape_data] at hparse
  exact nomatch hparse

end Page
end PoolPage
