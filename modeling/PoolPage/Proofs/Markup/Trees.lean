import PoolPage.Proofs.Markup.Tags
import PoolPage.Proofs.Text.Gaps

/-!
# Trees of markup

Markup is a list of elements and of texts between them (`Spells`).  The reading is unique
(`Spells.unique`): a text ends at the next tag, and an element at the closing tag behind its
children.  In texts and in the values of attributes characters may be written as references, and
escaping is one way to do so (`unescape_escape`).
-/

namespace PoolPage
namespace Markup

/-! ## References -/

/-- Puts each character in the place of its reference. -/
def unescapeChars : List Char → List Char
  | '&' :: 'a' :: 'm' :: 'p' :: ';' :: cs => '&' :: unescapeChars cs
  | '&' :: 'l' :: 't' :: ';' :: cs => '<' :: unescapeChars cs
  | '&' :: 'g' :: 't' :: ';' :: cs => '>' :: unescapeChars cs
  | '&' :: 'q' :: 'u' :: 'o' :: 't' :: ';' :: cs => '"' :: unescapeChars cs
  | '&' :: '#' :: '3' :: '9' :: ';' :: cs => '\'' :: unescapeChars cs
  | c :: cs => c :: unescapeChars cs
  | [] => []

def unescape (raw : List Char) : String := String.ofList (unescapeChars raw)

theorem unescapeChars_cons {c : Char} (hne : c ≠ '&') (cs : List Char) :
    unescapeChars (c :: cs) = c :: unescapeChars cs := by
  rw [unescapeChars]
  all_goals
    intro _ hc
    exact absurd hc hne

theorem unescapeChars_append (c : Char) (cs : List Char) :
    unescapeChars (escapeChar c ++ cs) = c :: unescapeChars cs := by
  unfold escapeChar
  split
  next => rfl
  next => rfl
  next => rfl
  next => rfl
  next => rfl
  next hne _ _ _ _ => exact unescapeChars_cons hne cs

theorem unescape_escape (text : String) : unescape (escape text).toList = text := by
  have hchars (cs : List Char) : unescapeChars (cs.flatMap escapeChar) = cs := by
    induction cs with
    | nil => rfl
    | cons c cs ih => rw [List.flatMap_cons, unescapeChars_append, ih]
  rw [unescape, escape, String.toList_ofList, hchars, String.ofList_toList]

/-! ## Trees -/

/-- A text, or an element with its attributes and children. -/
inductive Node where
  | text (content : String)
  | element (name : String) (attributes : List (String × String)) (children : List Node)

/-- The name of an element or of an attribute. -/
structure IsName (name : String) : Prop where
  ne_nil : name.toList ≠ []
  all_isAlphanum : name.toList.all Char.isAlphanum = true

/-- Attributes in a tag, each behind white space and with its value in quotes. -/
inductive SpellsAttributes : List (String × String) → List Char → Prop
  | nil : SpellsAttributes [] []
  | cons {name : String} {attributes : List (String × String)} {gap raw rest : List Char}
    (hgap : IsGap gap) (hne : gap ≠ []) (hname : IsName name) (hraw : ∀ c ∈ raw, c ≠ '"')
    (hrest : SpellsAttributes attributes rest) :
    SpellsAttributes ((name, unescape raw) :: attributes)
      (gap ++ (name.toList ++ '=' :: '"' :: (raw ++ '"' :: rest)))

/-- Markup and what it consists of.  A text goes to the next tag. -/
inductive Spells : List Node → List Char → Prop
  | nil : Spells [] []
  | text {nodes : List Node} {raw rest : List Char} (hne : raw ≠ []) (hraw : ∀ c ∈ raw, c ≠ '<')
    (hend : ∀ c ∈ rest.head?, c = '<') (hrest : Spells nodes rest) :
    Spells (.text (unescape raw) :: nodes) (raw ++ rest)
  | element {name : String} {attributes : List (String × String)} {children nodes : List Node}
    {tag inner rest : List Char} (hname : IsName name) (htag : SpellsAttributes attributes tag)
    (hchildren : Spells children inner) (hrest : Spells nodes rest) :
    Spells (.element name attributes children :: nodes)
      ('<' :: (name.toList ++ (tag ++ '>' ::
        (inner ++ '<' :: '/' :: (name.toList ++ '>' :: rest)))))

section

variable {name name' : String} {attributes attributes' : List (String × String)}
  {nodes nodes' : List Node} {cs cs' front front' back back' raw rest stop stop' : List Char}

/-! ## Uniqueness -/

/-- A front of one kind ends where it ends. -/
theorem span_unique {p : Char → Bool} (h : front ++ back = front' ++ back')
    (hfront : ∀ c ∈ front, p c = true) (hfront' : ∀ c ∈ front', p c = true)
    (hback : ∀ c ∈ back.head?, p c = false) (hback' : ∀ c ∈ back'.head?, p c = false) :
    front = front' ∧ back = back' := by
  obtain ⟨htake, hdrop⟩ := span_append hfront hback
  obtain ⟨htake', hdrop'⟩ := span_append hfront' hback'
  rw [h] at htake hdrop
  exact ⟨htake.symm.trans htake', hdrop.symm.trans hdrop'⟩

theorem IsName.isAlphanum (h : IsName name) : ∀ c ∈ name.toList, c.isAlphanum = true :=
  List.all_eq_true.mp h.all_isAlphanum

theorem IsName.head (h : IsName name) (rest : List Char) :
    ∀ c ∈ (name.toList ++ rest).head?, c.isAlphanum = true := by
  intro c hc
  rw [List.head?_append_of_ne_nil _ h.ne_nil] at hc
  exact h.isAlphanum c (List.mem_of_mem_head? hc)

theorem gap_ne_close (hgap : IsGap front) (hne : front ≠ []) : '>' :: back ≠ front ++ back' := by
  obtain ⟨c, front, rfl⟩ := List.exists_cons_of_ne_nil hne
  intro h
  obtain ⟨rfl, -⟩ := List.cons.inj h
  exact Bool.false_ne_true (hgap '>' List.mem_cons_self)

theorem SpellsAttributes.unique (h : SpellsAttributes attributes cs)
    (h' : SpellsAttributes attributes' cs') (heq : cs ++ '>' :: stop = cs' ++ '>' :: stop') :
    attributes = attributes' ∧ stop = stop' := by
  induction h generalizing attributes' cs' with
  | nil =>
    cases h' with
    | nil => exact ⟨rfl, (List.cons.inj heq).2⟩
    | cons hgap hne =>
      rw [List.append_assoc] at heq
      exact absurd heq (gap_ne_close hgap hne)
  | @cons name attributes gap raw rest hgap hne hname hraw hrest ih =>
    cases h' with
    | nil =>
      rw [List.append_assoc] at heq
      exact absurd heq.symm (gap_ne_close hgap hne)
    | @cons name' attributes' gap' raw' rest' hgap' hne' hname' hraw' hrest' =>
      simp only [List.append_assoc, List.cons_append] at heq
      obtain ⟨-, hnames⟩ := span_unique (p := isBlank) heq hgap hgap'
        (fun c hc => isBlank_of_isAlphanum (hname.head _ c hc))
        (fun c hc => isBlank_of_isAlphanum (hname'.head _ c hc))
      obtain ⟨hsame, hvalues⟩ := span_unique (p := Char.isAlphanum) hnames hname.isAlphanum
        hname'.isAlphanum (by rintro _ ⟨⟩; rfl) (by rintro _ ⟨⟩; rfl)
      obtain ⟨hvalue, hmore⟩ := span_unique (p := (· ≠ '"'))
        (List.cons.inj (List.cons.inj hvalues).2).2 (by simpa using hraw) (by simpa using hraw')
        (by rintro _ ⟨⟩; rfl) (by rintro _ ⟨⟩; rfl)
      obtain ⟨hattributes, hstop⟩ := ih hrest' (List.cons.inj hmore).2
      exact ⟨by rw [String.toList_inj.mp hsame, hvalue, hattributes], hstop⟩

theorem SpellsAttributes.head (h : SpellsAttributes attributes cs) (stop : List Char) :
    ∀ c ∈ (cs ++ '>' :: stop).head?, c.isAlphanum = false := by
  cases h with
  | nil =>
    rintro _ ⟨⟩
    rfl
  | @cons _ _ gap _ _ hgap hne =>
    obtain ⟨c, gap, rfl⟩ := List.exists_cons_of_ne_nil hne
    rintro _ ⟨⟩
    refine Bool.eq_false_iff.mpr fun hc => ?_
    exact Bool.false_ne_true ((isBlank_of_isAlphanum hc).symm.trans (hgap c List.mem_cons_self))

/-- Where the children of an element end, or all of the markup does. -/
def IsEnd (stop : List Char) : Prop := stop = [] ∨ ∃ rest, stop = '<' :: '/' :: rest

theorem IsEnd.head (h : IsEnd stop) : ∀ c ∈ stop.head?, c = '<' := by
  rintro c hc
  obtain rfl | ⟨rest, rfl⟩ := h
  · cases hc
  · cases hc
    rfl

/-- A text and a tag begin differently. -/
theorem text_ne (hne : raw ≠ []) (hraw : ∀ c ∈ raw, c ≠ '<') (h : ∀ c ∈ stop.head?, c = '<') :
    raw ++ back ≠ stop := by
  obtain ⟨c, raw, rfl⟩ := List.exists_cons_of_ne_nil hne
  rintro rfl
  exact hraw c List.mem_cons_self (h c rfl)

theorem IsEnd.head_append (h : IsEnd stop) (hend : ∀ c ∈ rest.head?, c = '<') :
    ∀ c ∈ (rest ++ stop).head?, c = '<' := by
  cases rest with
  | nil => exact h.head
  | cons c rest => exact hend

theorem IsEnd.not_element (h : IsEnd stop) (hname : IsName name) :
    stop ≠ '<' :: (name.toList ++ back) := by
  rintro rfl
  obtain h | ⟨rest, h⟩ := h
  · cases h
  · have hslash : '/'.isAlphanum = true :=
      hname.head back '/' (by rw [(List.cons.inj h).2]; rfl)
    cases hslash

/-- Before an end markup is read in one way only. -/
theorem Spells.unique_append (h : Spells nodes cs) (h' : Spells nodes' cs') (hstop : IsEnd stop)
    (hstop' : IsEnd stop') (heq : cs ++ stop = cs' ++ stop') : nodes = nodes' ∧ stop = stop' := by
  -- What stands behind is left open, as the children of an element end at its closing tag.
  induction h generalizing nodes' cs' stop stop' with
  | nil =>
    cases h' with
    | nil => exact ⟨rfl, heq⟩
    | text hne hraw =>
      rw [List.append_assoc] at heq
      exact absurd heq.symm (text_ne hne hraw hstop.head)
    | element hname => exact absurd heq (by simpa using hstop.not_element hname)
  | @text nodes raw rest hne hraw hend hrest ih =>
    rw [List.append_assoc] at heq
    cases h' with
    | nil => exact absurd heq (text_ne hne hraw hstop'.head)
    | @text nodes' raw' rest' hne' hraw' hend' hrest' =>
      rw [List.append_assoc] at heq
      obtain ⟨hraws, hrests⟩ := span_unique (p := (· ≠ '<')) heq (by simpa using hraw)
        (by simpa using hraw') (by simpa using hstop.head_append hend)
        (by simpa using hstop'.head_append hend')
      obtain ⟨hnodes, hstops⟩ := ih hrest' hstop hstop' hrests
      exact ⟨by rw [hraws, hnodes], hstops⟩
    | element => exact absurd heq (text_ne hne hraw (by rintro _ ⟨⟩; rfl))
  | @element name attributes children nodes tag inner rest hname htag hchildren _ ihchildren ih =>
    cases h' with
    | nil => exact absurd heq.symm (by simpa using hstop'.not_element hname)
    | text hne hraw =>
      rw [List.append_assoc] at heq
      exact absurd heq.symm (text_ne hne hraw (by rintro _ ⟨⟩; rfl))
    | @element name' _ _ _ tag' inner' rest' hname' htag' hchildren' hrest' =>
      simp only [List.append_assoc, List.cons_append] at heq
      obtain ⟨hnames, htags⟩ := span_unique (p := Char.isAlphanum) (List.cons.inj heq).2
        hname.isAlphanum hname'.isAlphanum (htag.head _) (htag'.head _)
      obtain ⟨hattributes, hinner⟩ := htag.unique htag' htags
      obtain ⟨hchildren, hclose⟩ :=
        ihchildren hchildren' (.inr ⟨_, rfl⟩) (.inr ⟨_, rfl⟩) hinner
      rw [hnames] at hclose
      have hrests := List.append_cancel_left (List.cons.inj (List.cons.inj hclose).2).2
      obtain ⟨hnodes, hstops⟩ := ih hrest' hstop hstop' (List.cons.inj hrests).2
      exact ⟨by rw [String.toList_inj.mp hnames, hattributes, hchildren, hnodes], hstops⟩

/-- Markup has one reading. -/
theorem Spells.unique (h : Spells nodes cs) (h' : Spells nodes' cs) : nodes = nodes' :=
  (h.unique_append h' (.inl rfl) (.inl rfl) rfl).1

/-! ## Writing -/

/-- A text as a node; nothing is written for an empty one. -/
def textNodes (text : String) : List Node := if text = "" then [] else [.text text]

theorem spells_escape (text : String) : Spells (textNodes text) (escape text).toList := by
  unfold textNodes
  split_ifs with hempty
  · rw [hempty]
    exact .nil
  · have hplain := List.all_eq_true.mp (isPlain_escape text)
    have hne : (escape text).toList ≠ [] := by
      intro hnil
      have hread := unescape_escape text
      rw [hnil] at hread
      exact hempty hread.symm
    have hraw : ∀ c ∈ (escape text).toList, c ≠ '<' := by
      rintro _ hmem rfl
      cases hplain '<' hmem
    have htext : Spells [.text (unescape (escape text).toList)] ((escape text).toList ++ []) :=
      .text hne hraw nofun .nil
    rwa [unescape_escape, List.append_nil] at htext

/-- Markup of a single node. -/
def Writes (node : Node) (markup : String) : Prop :=
  ∀ nodes rest, Spells nodes rest → Spells (node :: nodes) (markup.toList ++ rest)

theorem Writes.spells {node : Node} {markup : String} (h : Writes node markup) :
    Spells [node] markup.toList := by
  have hone := h [] [] .nil
  rwa [List.append_nil] at hone

theorem spells_join {α : Type} {node : α → Node} {markup : α → String}
    (h : ∀ a, Writes (node a) (markup a)) (as : List α) :
    Spells (as.map node) (String.join (as.map markup)).toList := by
  induction as with
  | nil => exact .nil
  | cons a as ih =>
    rw [List.map_cons, List.map_cons, String.join_cons, String.toList_append]
    exact h a _ _ ih

theorem writes_element {markup : String} {children : List Node} {tag inner : List Char}
    (hname : IsName name) (htag : SpellsAttributes attributes tag) (hinner : Spells children inner)
    (hmarkup : markup.toList = '<' :: (name.toList ++ (tag ++ '>' ::
      (inner ++ '<' :: '/' :: (name.toList ++ ['>']))))) :
    Writes (.element name attributes children) markup := by
  intro nodes rest hrest
  have helement := Spells.element hname htag hinner hrest
  rw [hmarkup]
  simpa only [List.append_assoc, List.cons_append, List.nil_append] using helement

theorem toList_between (before text after : String) :
    (before ++ text ++ after).toList = before.toList ++ (text.toList ++ after.toList) := by
  rw [String.toList_append, String.toList_append, List.append_assoc]

theorem writes_cell {cell : String} {children : List Node} (h : Spells children cell.toList) :
    Writes (.element "td" [] children) ("<td>" ++ cell ++ "</td>") :=
  writes_element ⟨by decide, by decide⟩ .nil h (toList_between _ _ _)

/-- An attribute with an escaped value. -/
theorem SpellsAttributes.escape (hname : IsName name) (value : String)
    (hrest : SpellsAttributes attributes rest) :
    SpellsAttributes ((name, value) :: attributes)
      (' ' :: (name.toList ++ '=' :: '"' :: ((escape value).toList ++ '"' :: rest))) := by
  have hplain := List.all_eq_true.mp (isPlain_escape value)
  have hraw : ∀ c ∈ (Markup.escape value).toList, c ≠ '"' := by
    rintro _ hmem rfl
    cases hplain '"' hmem
  have hgap : IsGap [' '] := by decide
  have hvalue := SpellsAttributes.cons hgap (List.cons_ne_nil _ _) hname hraw hrest
  rwa [unescape_escape] at hvalue

/-- A link with its target and its text. -/
def linkNode (target text : String) : Node :=
  .element "a" [("class", "txhash"), ("href", target), ("target", "_blank")] (textNodes text)

theorem writes_anchor (target text : String) :
    Writes (linkNode target text) (anchor target text) := by
  have hclass : escape "txhash" = "txhash" := by decide
  have hblank : escape "_blank" = "_blank" := by decide
  have hname : IsName "class" := ⟨by decide, by decide⟩
  have hname' : IsName "href" := ⟨by decide, by decide⟩
  have hname'' : IsName "target" := ⟨by decide, by decide⟩
  have htag :=
    ((SpellsAttributes.nil.escape hname'' "_blank").escape hname' target).escape hname "txhash"
  rw [hclass, hblank] at htag
  have hopen : "<a class=\"txhash\" href=\"".toList = '<' :: ("a".toList ++ ' ' ::
      ("class".toList ++ '=' :: '"' :: ("txhash".toList ++ '"' :: ' ' ::
        ("href".toList ++ ['=', '"'])))) := by decide
  have hclose : "\" target=\"_blank\">".toList = '"' :: ' ' :: ("target".toList ++ '=' :: '"' ::
      ("_blank".toList ++ ['"', '>'])) := by decide
  have hend : "</a>".toList = '<' :: '/' :: ("a".toList ++ ['>']) := by decide
  have hparts (a b c d e : String) : (a ++ b ++ c ++ d ++ e).toList =
      a.toList ++ (b.toList ++ (c.toList ++ (d.toList ++ e.toList))) := by
    simp only [String.toList_append, List.append_assoc]
  refine writes_element ⟨by decide, by decide⟩ htag (spells_escape text)
    ((hparts _ _ _ _ _).trans ?_)
  rw [hopen, hclose, hend]
  simp only [List.append_assoc, List.cons_append, List.nil_append]

theorem writes_row {cells : List String} {childrens : List (List Node)}
    (h : List.Forall₂ (fun cell children => Spells children cell.toList) cells childrens) :
    Writes (.element "tr" [] (childrens.map (.element "td" []))) (row cells) := by
  have hcells : Spells (childrens.map (.element "td" []))
      (String.join (cells.map fun cell => "<td>" ++ cell ++ "</td>")).toList := by
    induction h with
    | nil => exact .nil
    | cons hcell _ ih =>
      rw [List.map_cons, List.map_cons, String.join_cons, String.toList_append]
      exact writes_cell hcell _ _ ih
  exact writes_element ⟨by decide, by decide⟩ .nil hcells (toList_between _ _ _)

end

end Markup
end PoolPage
