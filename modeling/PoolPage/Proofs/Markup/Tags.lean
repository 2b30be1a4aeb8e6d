import Mathlib.Data.List.Forall2
import PoolPage.Chart.Sparkline
import PoolPage.Text.Blank

/-!
# Tags of markup

`scan` reads the tags of a text from `<` to `>`, each with the names of its attributes; what stands
in quotes inside of a tag is passed over.  A text without angle brackets and quotes (`IsPlain`) adds
no tag, and stays in the quotes that it was put into.  Escaped text and numbers are plain, so that
the tags of links, rows and drawings do not depend on what is in them.
-/

namespace PoolPage

structure Tag where
  name : String
  attributes : List String
deriving DecidableEq, Repr

/-- The tag of what stands outside of quotes in it. -/
def Tag.ofText (text : List Char) : Tag :=
  let words := (text.splitOnP isBlank).map fun word => String.ofList (word.takeWhile (· ≠ '='))
  ⟨words.headD "", words.tail⟩

namespace Markup

/-! ## Scanning -/

/-- Where a scan is: between tags, or in a tag, which of it was kept so far, and whether it is
in quotes. -/
inductive Scan where
  | text
  | tag (kept : List Char) (quoted : Bool)
deriving DecidableEq

/-- What a character does to a scan, and the tag that it ends. -/
def Scan.step : Scan → Char → Option Tag × Scan
  | .text, c => (none, if c = '<' then .tag [] false else .text)
  | .tag kept quoted, c =>
    if c = '>' then (some (Tag.ofText kept), .text)
    else if c = '"' then (none, .tag kept !quoted)
    else if quoted then (none, .tag kept quoted)
    else (none, .tag (kept ++ [c]) quoted)

/-- The tags of a text, and where it leaves the scan. -/
def scan : Scan → List Char → List Tag × Scan
  | state, [] => ([], state)
  | state, c :: cs =>
    let (tag, next) := state.step c
    let (tags, last) := scan next cs
    (tag.toList ++ tags, last)

/-- The tags of a text with the names of their attributes. -/
def skeleton (markup : String) : List Tag := (scan .text markup.toList).1

theorem scan_append (state : Scan) (xs ys : List Char) :
    scan state (xs ++ ys) =
      ((scan state xs).1 ++ (scan (scan state xs).2 ys).1, (scan (scan state xs).2 ys).2) := by
  induction xs generalizing state with
  | nil => rfl
  | cons c xs ih => simp only [List.cons_append, scan, ih, List.append_assoc]

/-! ## Plain text -/

/-- A character that neither begins nor ends a tag or a quotation. -/
def isPlain (c : Char) : Bool := c ≠ '<' && c ≠ '>' && c ≠ '"'

abbrev IsPlain (text : List Char) : Prop := text.all isPlain = true

theorem IsPlain.append {xs ys : List Char} (hxs : IsPlain xs) (hys : IsPlain ys) :
    IsPlain (xs ++ ys) := by
  unfold IsPlain at hxs hys ⊢
  rw [List.all_append, hxs, hys]
  rfl

theorem scan_text_of_isPlain {text : List Char} (h : IsPlain text) :
    scan .text text = ([], .text) := by
  induction text with
  | nil => rfl
  | cons c cs ih =>
    obtain ⟨hc, hcs⟩ := (Bool.and_eq_true _ _).mp h
    have hne : c ≠ '<' := by
      rintro rfl
      exact nomatch hc
    simp only [scan, Scan.step, if_neg hne, ih hcs]
    rfl

theorem scan_quoted_of_isPlain {text : List Char} (h : IsPlain text) (kept : List Char) :
    scan (.tag kept true) text = ([], .tag kept true) := by
  induction text with
  | nil => rfl
  | cons c cs ih =>
    obtain ⟨hc, hcs⟩ := (Bool.and_eq_true _ _).mp h
    have hclose : c ≠ '>' := by
      rintro rfl
      exact nomatch hc
    have hquote : c ≠ '"' := by
      rintro rfl
      exact nomatch hc
    simp only [scan, Scan.step, if_neg hclose, if_neg hquote, if_true, ih hcs]
    rfl

theorem scan_kept_of_isPlain {text : List Char} (h : IsPlain text) (kept : List Char) :
    scan (.tag kept false) text = ([], .tag (kept ++ text) false) := by
  induction text generalizing kept with
  | nil => simp [scan]
  | cons c cs ih =>
    obtain ⟨hc, hcs⟩ := (Bool.and_eq_true _ _).mp h
    have hclose : c ≠ '>' := by
      rintro rfl
      exact nomatch hc
    have hquote : c ≠ '"' := by
      rintro rfl
      exact nomatch hc
    simp only [scan, Scan.step, if_neg hclose, if_neg hquote, Bool.false_eq_true, if_false, ih hcs]
    simp

theorem isPlain_escape (text : String) : IsPlain (escape text).toList := by
  have hchar : ∀ c, IsPlain (escapeChar c) := by
    intro c
    unfold escapeChar
    split
    next => decide
    next => decide
    next => decide
    next => decide
    next => decide
    next _ hlt hgt hquote _ =>
      have hlt : c ≠ '<' := hlt
      have hgt : c ≠ '>' := hgt
      have hquote : c ≠ '"' := hquote
      simp [isPlain, hlt, hgt, hquote]
  unfold escape
  rw [String.toList_ofList, IsPlain, List.all_flatMap, List.all_eq_true]
  intro c _
  exact hchar c

/-! ### Numbers -/

theorem isPlain_of_isDigit {c : Char} (h : c.isDigit = true) : isPlain c = true := by
  have hlt : c ≠ '<' := by
    rintro rfl
    exact nomatch h
  have hgt : c ≠ '>' := by
    rintro rfl
    exact nomatch h
  have hquote : c ≠ '"' := by
    rintro rfl
    exact nomatch h
  simp [isPlain, hlt, hgt, hquote]

theorem isPlain_digitsOf (n : Nat) : IsPlain (digitsOf n) := by
  rw [IsPlain, List.all_eq_true]
  intro c hc
  have hdigit : c.isDigit = true := Nat.isDigit_of_mem_toDigits (b := 10) (by decide) (by decide) hc
  exact isPlain_of_isDigit hdigit

theorem isPlain_toString (n : Nat) : IsPlain (toString n).toList := by
  show IsPlain (String.ofList (Nat.toDigits 10 n)).toList
  rw [String.toList_ofList]
  exact isPlain_digitsOf n

theorem isPlain_fixedDigits (n places : Nat) : IsPlain (fixedDigits n places) := by
  unfold fixedDigits
  split
  · exact isPlain_digitsOf n
  · have hzeros : ∀ count, IsPlain (List.replicate count '0') := by
      intro count
      rw [IsPlain, List.all_eq_true]
      intro c hc
      rw [List.eq_of_mem_replicate hc]
      decide
    exact (isPlain_digitsOf _).append ((hzeros _).append (isPlain_digitsOf _))

theorem isPlain_sign (negative : Bool) : IsPlain (Figure.sign negative) := by
  cases negative <;> decide

theorem isPlain_positional (x : Binary64) : IsPlain (Figure.positional x) := by
  cases x with
  | nan => decide
  | infinite negative => exact (isPlain_sign negative).append (by decide)
  | finite negative rank =>
    refine (isPlain_sign negative).append ?_
    split
    · decide
    · exact isPlain_fixedDigits _ _

theorem isPlain_halfEvenPlaces (x : Binary64) (places : Nat) :
    IsPlain (Figure.halfEvenPlaces x places).toList := by
  cases x with
  | finite negative rank =>
    show IsPlain (String.ofList _).toList
    rw [String.toList_ofList]
    exact (isPlain_sign negative).append (isPlain_fixedDigits _ _)
  | _ =>
    show IsPlain (String.ofList _).toList
    rw [String.toList_ofList]
    exact isPlain_positional _

/-! ## Whole pieces of markup -/

/-- A piece of markup ends no tag and leaves a scan in another state. -/
def Leads (state : Scan) (markup : String) (next : Scan) : Prop :=
  scan state markup.toList = ([], next)

instance (state next : Scan) (markup : String) : Decidable (Leads state markup next) :=
  inferInstanceAs (Decidable (_ = _))

/-- A piece of markup ends these tags and leaves a scan between tags. -/
def Ends (state : Scan) (markup : String) (tags : List Tag) : Prop :=
  scan state markup.toList = (tags, .text)

instance (state : Scan) (markup : String) (tags : List Tag) : Decidable (Ends state markup tags) :=
  inferInstanceAs (Decidable (_ = _))

/-- A piece of markup has these tags, and begins and ends between tags. -/
abbrev Reads (markup : String) (tags : List Tag) : Prop := Ends .text markup tags

theorem Leads.append {state next last : Scan} {before after : String}
    (hbefore : Leads state before next) (hafter : Leads next after last) :
    Leads state (before ++ after) last := by
  unfold Leads at hbefore hafter ⊢
  rw [String.toList_append, scan_append, hbefore, hafter]
  rfl

/-- A value in quotes is passed over. -/
theorem Leads.value {state : Scan} {before value : String} {kept : List Char}
    (hbefore : Leads state before (.tag kept true)) (hvalue : IsPlain value.toList) :
    Leads state (before ++ value) (.tag kept true) :=
  hbefore.append (scan_quoted_of_isPlain hvalue kept)

/-- A value with the quotes around it. -/
theorem Leads.quote {state : Scan} {before value : String} {kept : List Char}
    (hbefore : Leads state before (.tag kept true)) (hvalue : IsPlain value.toList) :
    Leads state (before ++ value ++ "\"") (.tag kept false) :=
  (hbefore.value hvalue).append rfl

theorem Leads.ends {state next : Scan} {before after : String} {tags : List Tag}
    (hbefore : Leads state before next) (hafter : Ends next after tags) :
    Ends state (before ++ after) tags := by
  unfold Leads at hbefore
  unfold Ends at hafter ⊢
  rw [String.toList_append, scan_append, hbefore, hafter]
  rfl

namespace Ends

variable {state : Scan} {markup more : String} {tags others : List Tag}

theorem append (h : Ends state markup tags) (hmore : Reads more others) :
    Ends state (markup ++ more) (tags ++ others) := by
  unfold Reads Ends at hmore
  unfold Ends at h ⊢
  rw [String.toList_append, scan_append, h, hmore]

end Ends

namespace Reads

variable {markup : String} {tags : List Tag}

theorem skeleton_eq (h : Reads markup tags) : skeleton markup = tags := congrArg Prod.fst h

theorem of_isPlain (h : IsPlain markup.toList) : Reads markup [] := scan_text_of_isPlain h

theorem escape (text : String) : Reads (Markup.escape text) [] := of_isPlain (isPlain_escape text)

theorem join {parts : List String} {tagss : List (List Tag)} (h : List.Forall₂ Reads parts tagss) :
    Reads (String.join parts) tagss.flatten := by
  induction h with
  | nil => rfl
  | cons hpart _ ih =>
    rw [String.join_cons, List.flatten_cons]
    exact hpart.append ih

/-- Parts that all have the same tags. -/
theorem join_map {α : Type} {f : α → String} {tags : List Tag} (h : ∀ a, Reads (f a) tags)
    (xs : List α) :
    Reads (String.join (xs.map f)) (List.replicate xs.length tags).flatten := by
  apply join
  induction xs with
  | nil => exact .nil
  | cons x xs ih => exact .cons (h x) ih

end Reads

/-- Two pieces of markup have the same tags, and begin and end between tags. -/
def SameTags (markup markup' : String) : Prop := ∃ tags, Reads markup tags ∧ Reads markup' tags

namespace SameTags

variable {a a' b b' : String}

theorem skeleton_eq (h : SameTags a a') : skeleton a = skeleton a' := by
  obtain ⟨tags, ha, ha'⟩ := h
  rw [ha.skeleton_eq, ha'.skeleton_eq]

theorem append (h : SameTags a a') (h' : SameTags b b') : SameTags (a ++ b) (a' ++ b') := by
  obtain ⟨tags, ha, ha'⟩ := h
  obtain ⟨others, hb, hb'⟩ := h'
  exact ⟨tags ++ others, ha.append hb, ha'.append hb'⟩

theorem join_map {α : Type} {f g : α → String} (h : ∀ a, SameTags (f a) (g a)) (xs : List α) :
    SameTags (String.join (xs.map f)) (String.join (xs.map g)) := by
  induction xs with
  | nil => exact ⟨[], rfl, rfl⟩
  | cons x xs ih =>
    rw [List.map_cons, List.map_cons, String.join_cons, String.join_cons]
    exact (h x).append ih

end SameTags

/-! ## Links and rows -/

def anchorTags : List Tag := [⟨"a", ["class", "href", "target"]⟩, ⟨"/a", []⟩]

theorem reads_anchor (target text : String) : Reads (anchor target text) anchorTags := by
  have hopen : Leads .text "<a class=\"txhash\" href=\"" (.tag "a class= href=".toList true) := by
    decide +kernel
  have hclose : Ends (.tag "a class= href=".toList true) "\" target=\"_blank\">"
      [⟨"a", ["class", "href", "target"]⟩] := by decide +kernel
  have htag := (hopen.value (isPlain_escape target)).ends hclose
  have hend : Reads "</a>" [⟨"/a", []⟩] := by decide +kernel
  exact (htag.append (Reads.escape text)).append hend

def cellTags (tags : List Tag) : List Tag := ⟨"td", []⟩ :: tags ++ [⟨"/td", []⟩]

def rowTags (cells : List (List Tag)) : List Tag :=
  ⟨"tr", []⟩ :: (cells.map cellTags).flatten ++ [⟨"/tr", []⟩]

theorem reads_row {cells : List String} {tagss : List (List Tag)}
    (h : List.Forall₂ Reads cells tagss) : Reads (row cells) (rowTags tagss) := by
  have hcells : List.Forall₂ Reads (cells.map fun cell => "<td>" ++ cell ++ "</td>")
      (tagss.map cellTags) := by
    induction h with
    | nil => exact .nil
    | cons hcell _ ih =>
      have hopen : Reads "<td>" [⟨"td", []⟩] := by decide +kernel
      have hend : Reads "</td>" [⟨"/td", []⟩] := by decide +kernel
      exact .cons ((hopen.append hcell).append hend) ih
  have hopen : Reads "<tr>" [⟨"tr", []⟩] := by decide +kernel
  have hend : Reads "</tr>" [⟨"/tr", []⟩] := by decide +kernel
  exact (hopen.append (Reads.join hcells)).append hend

/-- What would close the quotes and the link stays inside of them. -/
example : skeleton (row [anchor "\"><script>" "</a><b>"]) = rowTags [anchorTags] := by
  decide +kernel

/-- Not so without escapes. -/
example : skeleton ("<a href=\"" ++ "\"><script>" ++ "\">") =
    [⟨"a", ["href"]⟩, ⟨"script", []⟩] := by
  decide +kernel

/-! ## Drawings -/

end Markup

namespace Svg

open Markup

def attributeNames (name : String) (value : Option String) : List Char :=
  if value.isSome then (" " ++ name ++ "=").toList else []

theorem leads_attributeText {name : String} (hname : IsPlain (" " ++ name ++ "=").toList)
    (value : Option String) (kept : List Char) :
    Leads (.tag kept false) (attributeText name value)
      (.tag (kept ++ attributeNames name value) false) := by
  cases value with
  | none =>
    rw [attributeNames, if_neg (by simp), List.append_nil]
    rfl
  | some value =>
    have hequals : Leads (.tag kept false) (" " ++ name ++ "=" ++ "\"")
        (.tag (kept ++ (" " ++ name ++ "=").toList) true) :=
      Leads.append (scan_kept_of_isPlain hname kept) rfl
    have hquote := hequals.quote (isPlain_escape value)
    have hassoc : " " ++ name ++ "=" ++ "\"" = " " ++ name ++ "=\"" := by
      rw [String.append_assoc]
      rfl
    rwa [hassoc] at hquote

/-- What is kept of the tag of a drawing at its end. -/
def kept (viewBox preserveAspectRatio : Option String) : List Char :=
  "svg xmlns= width= height=".toList ++ attributeNames "viewBox" viewBox ++
    attributeNames "preserveAspectRatio" preserveAspectRatio

theorem reads_markup (svg : Svg) {tags : List Tag} (hbody : Reads svg.body tags) :
    Reads svg.markup
      (Tag.ofText (kept svg.viewBox svg.preserveAspectRatio) :: tags ++ [⟨"/svg", []⟩]) := by
  have hnumber : ∀ x, IsPlain (String.ofList (Figure.positional x)).toList := by
    intro x
    rw [String.toList_ofList]
    exact isPlain_positional x
  have hname : Leads .text ("<svg xmlns=\"http://www.w3.org/2000/svg\"" ++ " width=\"")
      (.tag "svg xmlns= width=".toList true) := by decide +kernel
  have hheight : Leads (.tag "svg xmlns= width=".toList false) " height=\""
      (.tag "svg xmlns= width= height=".toList true) := by decide +kernel
  have hsize := ((hname.quote (hnumber svg.width)).append hheight).quote (hnumber svg.height)
  have hviewBox : IsPlain (" " ++ "viewBox" ++ "=").toList := by decide
  have hratio : IsPlain (" " ++ "preserveAspectRatio" ++ "=").toList := by decide
  have hattributes := (hsize.append (leads_attributeText hviewBox svg.viewBox _)).append
    (leads_attributeText hratio svg.preserveAspectRatio _)
  have hclose : Ends (.tag (kept svg.viewBox svg.preserveAspectRatio) false) ">"
      [Tag.ofText (kept svg.viewBox svg.preserveAspectRatio)] := rfl
  have hopen := hattributes.ends hclose
  have hend : Reads "</svg>" [⟨"/svg", []⟩] := by decide +kernel
  exact (hopen.append hbody).append hend

end Svg

namespace Sparkline

open Markup

def bodyTags (values : List Binary64) : List Tag :=
  if values.any Binary64.isFinite then [⟨"polyline", ["class", "fill", "points"]⟩] else []

theorem isEmpty_coordinates (values : List Binary64) :
    (coordinates values).isEmpty = !values.any Binary64.isFinite := by
  have hany : values.any Binary64.isFinite =
      values.zipIdx.any fun pair => pair.1.isFinite := by
    conv_lhs => rw [← List.zipIdx_map_fst 0 values, List.any_map]
    rfl
  unfold coordinates
  rw [hany]
  simp only [List.isEmpty_map]
  generalize values.zipIdx = pairs
  induction pairs with
  | nil => rfl
  | cons pair pairs ih =>
    obtain ⟨value, i⟩ := pair
    cases hvalue : value.isFinite <;> simp [hvalue, ih]

theorem isPlain_coordinate (x y : Binary64) : IsPlain (coordinate x y).toList := by
  unfold coordinate
  rw [String.toList_append, String.toList_append]
  exact ((isPlain_halfEvenPlaces x places).append (by decide)).append
    (isPlain_halfEvenPlaces y places)

theorem isPlain_intercalate {parts : List String} (h : ∀ part ∈ parts, IsPlain part.toList) :
    IsPlain (String.intercalate " " parts).toList := by
  match parts with
  | [] => rfl
  | [part] => exact h part List.mem_cons_self
  | part :: next :: parts =>
    have hrest := isPlain_intercalate fun part hpart => h part (List.mem_cons_of_mem _ hpart)
    rw [String.intercalate_cons_cons, String.toList_append, String.toList_append]
    exact ((h part List.mem_cons_self).append (by decide)).append hrest

theorem reads_body (values : List Binary64) : Reads (draw values).body (bodyTags values) := by
  unfold draw bodyTags
  dsimp only
  rw [isEmpty_coordinates]
  cases values.any Binary64.isFinite with
  | false => rfl
  | true =>
    have hopen : Leads .text "<polyline class=\"sparkline--line\" fill=\"none\" points=\""
        (.tag "polyline class= fill= points=".toList true) := by decide +kernel
    have hclose : Ends (.tag "polyline class= fill= points=".toList true) "\"/>"
        [⟨"polyline", ["class", "fill", "points"]⟩] := by decide +kernel
    have hpoints : IsPlain (String.intercalate " " (coordinates values)).toList := by
      apply isPlain_intercalate
      intro point hpoint
      obtain ⟨_, _, rfl⟩ := List.mem_map.mp hpoint
      exact isPlain_coordinate _ _
    exact (hopen.value hpoints).ends hclose

end Sparkline
end PoolPage
