import PoolPage.Proofs.Markup.Tags
import PoolPage.Proofs.Page.Document
import PoolPage.Proofs.Page.Writers

/-!
# The tags of a document

The document of a page has the tags that its regions have, and these do not depend on the data that
is shown.  Every update of a panel is of the same shape as a plain one (`Update.Kind.plain`), which
is made from its kind, a number of rows and whether a series has values; pages that are written by
updates of the same shape have the `SameShape`, and so the same tags (`SameShape.toHtml`).
-/

namespace PoolPage

open Markup

/-! ## Tables -/

/-- Tables of the same names, with related values. -/
def Table.Alike {α β : Type} (r : α → β → Prop) (s : Table α) (t : Table β) : Prop :=
  ∀ name, Option.Rel r (s.get? name) (t.get? name)

namespace Table.Alike

variable {α β : Type} {r : α → β → Prop} {s : Table α} {t : Table β}

theorem empty : Table.Alike r (.empty : Table α) (.empty : Table β) := fun _ => .none

theorem insert (h : Table.Alike r s t) (name : String) {a : α} {b : β} (hab : r a b) :
    Table.Alike r (s.insert name a) (t.insert name b) := by
  intro other
  rw [get?_insert, get?_insert]
  split
  · exact .some hab
  · exact h other

theorem map (h : Table.Alike r s t) {f : α → α} {g : β → β} (hfg : ∀ a b, r a b → r (f a) (g b)) :
    Table.Alike r (s.map f) (t.map g) := by
  intro name
  have hname := h name
  rw [get?_map, get?_map]
  generalize s.get? name = x at hname ⊢
  generalize t.get? name = y at hname ⊢
  cases hname with
  | none => exact .none
  | some hab => exact .some (hfg _ _ hab)

theorem names_eq (h : Table.Alike r s t) : s.names = t.names := by
  have hunits : s.map (fun _ => ()) = t.map (fun _ => ()) := by
    refine ext_get? fun name => ?_
    have hname := h name
    rw [get?_map, get?_map]
    generalize s.get? name = x at hname ⊢
    generalize t.get? name = y at hname ⊢
    cases hname <;> rfl
  rw [← names_map (fun _ => ()) s, hunits, names_map]

end Table.Alike

/-! ## Pages of the same shape -/

/-- Markup with the same tags that is shown in the same way. -/
structure SameRows (html html' : String) : Prop where
  tags : SameTags html html'
  isRows : Page.isRows html = Page.isRows html'

/-- Drawings with the same attributes and the same tags. -/
structure Svg.SameShape (svg svg' : Svg) : Prop where
  viewBox : svg.viewBox.isSome = svg'.viewBox.isSome
  preserveAspectRatio : svg.preserveAspectRatio.isSome = svg'.preserveAspectRatio.isSome
  body : SameTags svg.body svg'.body

theorem Svg.SameShape.markup {svg svg' : Svg} (h : svg.SameShape svg') :
    SameTags svg.markup svg'.markup := by
  obtain ⟨tags, hbody, hbody'⟩ := h.body
  have hkept : kept svg.viewBox svg.preserveAspectRatio =
      kept svg'.viewBox svg'.preserveAspectRatio := by
    unfold kept attributeNames
    rw [h.viewBox, h.preserveAspectRatio]
  refine ⟨_, reads_markup svg hbody, ?_⟩
  rw [hkept]
  exact reads_markup svg' hbody'

theorem Svg.SameShape.reframe {drawing drawing' : Svg × Hover} (h : drawing.1.SameShape drawing'.1)
    (viewBox preserveAspectRatio viewBox' preserveAspectRatio' : String) :
    (Update.reframe viewBox preserveAspectRatio drawing).1.SameShape
      (Update.reframe viewBox' preserveAspectRatio' drawing').1 where
  viewBox := by simp [Update.reframe, setAttribute]
  preserveAspectRatio := by simp [Update.reframe, setAttribute]
  body := by simpa [Update.reframe, setAttribute] using h.body

/-- Updates of the same kind for the same region, whose markup and drawings have the same tags. -/
inductive Update.SameShape : Update → Update → Prop
  | text (id text text' : String) : Update.SameShape (.text id text) (.text id text')
  | html (id : String) {html html' : String} (h : SameRows html html') :
    Update.SameShape (.html id html) (.html id html')
  | visible (id : String) (visible : Bool) :
    Update.SameShape (.visible id visible) (.visible id visible)
  | sparkline (id : String) {svg svg' : Svg} (h : svg.SameShape svg') (hover hover' : Hover) :
    Update.SameShape (.sparkline id svg hover) (.sparkline id svg' hover')
  | normalize (viewBox preserveAspectRatio viewBox' preserveAspectRatio' : String) :
    Update.SameShape (.normalize viewBox preserveAspectRatio)
      (.normalize viewBox' preserveAspectRatio')
  | chart (id : String) (chart chart' : LineChart) :
    Update.SameShape (.chart id chart) (.chart id chart')
  | resizeChart (id : String) : Update.SameShape (.resizeChart id) (.resizeChart id)
  | alert (message message' : String) : Update.SameShape (.alert message) (.alert message')

namespace Page

/-- Pages with the same regions, each with the same kinds of content and the same tags. -/
structure SameShape (p q : Page) : Prop where
  text : Table.Alike (fun _ _ => True) p.text q.text
  html : Table.Alike SameRows p.html q.html
  visible : p.visible = q.visible
  sparklines : Table.Alike (fun a b => Svg.SameShape a.1 b.1) p.sparklines q.sparklines
  charts : Table.Alike (fun _ _ => True) p.charts q.charts

namespace SameShape

variable {p q : Page}

theorem blank : Page.blank.SameShape Page.blank :=
  ⟨.empty, .empty, rfl, .empty, .empty⟩

theorem apply (h : p.SameShape q) {u v : Update} (huv : u.SameShape v) :
    (p.apply u).SameShape (q.apply v) := by
  rw [apply_eq, apply_eq]
  cases huv with
  | text id new new' => exact { h with text := h.text.insert id trivial }
  | html id hrows => exact { h with html := h.html.insert id hrows }
  | visible id visible =>
    have hvisible : p.visible.insert id visible = q.visible.insert id visible := by rw [h.visible]
    exact { h with visible := hvisible }
  | sparkline id hsvg => exact { h with sparklines := h.sparklines.insert id hsvg }
  | normalize viewBox ratio viewBox' ratio' =>
    have hmap := h.sparklines.map fun _ _ hsvg => hsvg.reframe viewBox ratio viewBox' ratio'
    exact { h with sparklines := hmap }
  | chart id chart chart' => exact { h with charts := h.charts.insert id trivial }
  | resizeChart id =>
    have hcharts : Table.Alike (fun _ _ => True) ((Update.resizeChart id).onCharts p.charts)
        ((Update.resizeChart id).onCharts q.charts) := by
      have hid := h.charts id
      simp only [Update.onCharts]
      generalize p.charts.get? id = x at hid ⊢
      generalize q.charts.get? id = y at hid ⊢
      cases hid with
      | none => exact h.charts
      | some => exact h.charts.insert id trivial
    exact { h with charts := hcharts }
  | alert message message' => exact { h with }

theorem applyAll (h : p.SameShape q) {us : List Update} {plain : Update → Update}
    (hus : ∀ u ∈ us, u.SameShape (plain u)) :
    (p.applyAll us).SameShape (q.applyAll (us.map plain)) := by
  induction us generalizing p q with
  | nil => exact h
  | cons u us ih =>
    have hu := h.apply (hus u List.mem_cons_self)
    exact ih hu fun v hv => hus v (List.mem_cons_of_mem u hv)

/-! ### Elements -/

theorem regionIds_eq (h : p.SameShape q) : p.regionIds = q.regionIds := by
  unfold regionIds
  rw [h.text.names_eq, h.html.names_eq, h.visible, h.sparklines.names_eq, h.charts.names_eq]

theorem hiddenStyle_eq (h : p.SameShape q) (id : String) : p.hiddenStyle id = q.hiddenStyle id := by
  unfold hiddenStyle
  rw [h.visible]

end SameShape

theorem reads_chartScript (chart : LineChart) :
    Reads (chartScript chart) [⟨"script", ["type"]⟩, ⟨"/script", []⟩] := by
  have hopen : Reads "<script type=\"application/json\">" [⟨"script", ["type"]⟩] := by
    decide +kernel
  have hend : Reads "</script>" [⟨"/script", []⟩] := by decide +kernel
  exact (hopen.append (Reads.escape _)).append hend

namespace SameShape

variable {p q : Page}

theorem content (h : p.SameShape q) (id : String) : SameTags (p.content id) (q.content id) := by
  have htext := h.text id
  have hhtml := h.html id
  have hsparkline := h.sparklines id
  have hchart := h.charts id
  unfold Page.content
  generalize p.text.get? id = text at htext ⊢
  generalize q.text.get? id = text' at htext ⊢
  generalize p.html.get? id = html at hhtml ⊢
  generalize q.html.get? id = html' at hhtml ⊢
  generalize p.sparklines.get? id = drawing at hsparkline ⊢
  generalize q.sparklines.get? id = drawing' at hsparkline ⊢
  generalize p.charts.get? id = slot at hchart ⊢
  generalize q.charts.get? id = slot' at hchart ⊢
  cases htext with
  | some => exact ⟨[], Reads.escape _, Reads.escape _⟩
  | none =>
    cases hhtml with
    | some hrows => exact hrows.tags
    | none =>
      cases hsparkline with
      | some hsvg => exact hsvg.markup
      | none =>
        cases hchart with
        | some => exact ⟨_, reads_chartScript _, reads_chartScript _⟩
        | none => exact ⟨[], rfl, rfl⟩

end SameShape

theorem leads_hiddenStyle (page : Page) (id : String) (kept : List Char) :
    ∃ kept', Leads (.tag kept false) (page.hiddenStyle id) (.tag kept' false) := by
  unfold hiddenStyle
  split
  · have hname : Leads (.tag kept false) (" style=" ++ "\"")
        (.tag (kept ++ " style=".toList) true) :=
      Leads.append (scan_kept_of_isPlain (by decide) kept) rfl
    have hvalue : IsPlain "display:none".toList := by decide
    exact ⟨_, hname.quote hvalue⟩
  · exact ⟨kept, rfl⟩

theorem reads_divHead (page : Page) (id : String) :
    ∃ tags,
      Reads ("<div id=\"" ++ Markup.escape id ++ "\"" ++ page.hiddenStyle id ++ ">") tags := by
  have hopen : Leads .text "<div id=\"" (.tag "div id=".toList true) := by decide +kernel
  obtain ⟨kept, hstyle⟩ := leads_hiddenStyle page id "div id=".toList
  have hclose : Ends (.tag kept false) ">" [Tag.ofText kept] := rfl
  exact ⟨_, ((hopen.quote (isPlain_escape id)).append hstyle).ends hclose⟩

theorem reads_tableHead (page : Page) (id : String) :
    ∃ tags, Reads ("<table" ++ page.hiddenStyle id ++ "><tbody id=\"" ++ Markup.escape id ++ "\">")
      tags := by
  have hopen : Leads .text "<table" (.tag "table".toList false) := by decide +kernel
  obtain ⟨kept, hstyle⟩ := leads_hiddenStyle page id "table".toList
  have hclose : Ends (.tag kept false) ">" [Tag.ofText kept] := rfl
  have htable := (hopen.append hstyle).ends hclose
  have hbody : Leads .text "<tbody id=\"" (.tag "tbody id=".toList true) := by decide +kernel
  have hbodyClose : Ends (.tag "tbody id=".toList true) "\">" [⟨"tbody", ["id"]⟩] := by
    decide +kernel
  have htbody := (hbody.value (isPlain_escape id)).ends hbodyClose
  -- one literal of the document ends the first tag and begins the second
  have hsplit : "<table" ++ page.hiddenStyle id ++ "><tbody id=\"" ++ Markup.escape id ++ "\">" =
      "<table" ++ page.hiddenStyle id ++ ">" ++ ("<tbody id=\"" ++ Markup.escape id ++ "\">") := by
    have hliteral : "><tbody id=\"" = ">" ++ "<tbody id=\"" := rfl
    rw [hliteral]
    simp only [String.append_assoc]
  rw [hsplit]
  exact ⟨_, htable.append htbody⟩

namespace SameShape

variable {p q : Page}

theorem element (h : p.SameShape q) (id : String) : SameTags (p.element id) (q.element id) := by
  have hcontent := h.content id
  have hhtml := h.html id
  unfold Page.element
  rw [← h.hiddenStyle_eq id]
  have hdiv : SameTags
      ("<div id=\"" ++ Markup.escape id ++ "\"" ++ p.hiddenStyle id ++ ">" ++ p.content id ++
        "</div>\n")
      ("<div id=\"" ++ Markup.escape id ++ "\"" ++ p.hiddenStyle id ++ ">" ++ q.content id ++
        "</div>\n") := by
    obtain ⟨head, hhead⟩ := reads_divHead p id
    have hend : Reads "</div>\n" [⟨"/div", []⟩] := by decide +kernel
    exact (SameTags.append ⟨head, hhead, hhead⟩ hcontent).append ⟨_, hend, hend⟩
  -- both are tables or neither is, since related markup is rows in both or in neither
  generalize p.html.get? id = html at hhtml ⊢
  generalize q.html.get? id = html' at hhtml ⊢
  cases hhtml with
  | none => exact hdiv
  | @some html html' hrows =>
    cases hshown : isRows html with
    | false =>
      have hshown' : isRows html' = false := by rw [← hrows.isRows, hshown]
      simp only [Option.filter, hshown, hshown']
      exact hdiv
    | true =>
      have hshown' : isRows html' = true := by rw [← hrows.isRows, hshown]
      obtain ⟨head, hhead⟩ := reads_tableHead p id
      have hend : Reads "</tbody></table>\n" [⟨"/tbody", []⟩, ⟨"/table", []⟩] := by decide +kernel
      simp only [Option.filter, hshown, hshown']
      exact (SameTags.append ⟨head, hhead, hhead⟩ hrows.tags).append ⟨_, hend, hend⟩

/-- Pages of the same shape have documents with the same tags. -/
theorem toHtml (h : p.SameShape q) : SameTags p.toHtml q.toHtml := by
  have hhead : Reads documentHead
      [⟨"!DOCTYPE", ["html"]⟩, ⟨"html", []⟩, ⟨"head", []⟩, ⟨"meta", ["charset"]⟩, ⟨"title", []⟩,
        ⟨"/title", []⟩, ⟨"/head", []⟩, ⟨"body", []⟩] := by decide +kernel
  have hfoot : Reads documentFoot [⟨"/body", []⟩, ⟨"/html", []⟩] := by decide +kernel
  have helements := SameTags.join_map h.element p.regionIds
  unfold Page.toHtml
  rw [← h.regionIds_eq]
  exact (SameTags.append ⟨_, hhead, hhead⟩ helements).append ⟨_, hfoot, hfoot⟩

end SameShape
end Page
end PoolPage
