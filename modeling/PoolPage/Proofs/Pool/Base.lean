import PoolPage.Proofs.Json.Fields
import PoolPage.Proofs.Pool.Below
import PoolPage.Settings.Validation

/-!
# The base of the pool's interface

Settings are checked by the address of the interface as it is given, and what is asked for is added
to the address with a slash behind it.  `Settings.asksBelow_iff` says for which of the addresses
that pass the check the statistics are asked for below the address.  They are not where the slash
does not end the path: behind a query or a fragment, where the path loses its last segment, behind
spaces, which then stand in the path, or behind another slash.
-/

namespace PoolPage

open Url

theorem exists_ok_eq_iff {ε α : Type} {a : α} {property : α → Prop} :
    (∃ b, (Except.ok a : Except ε α) = .ok b ∧ property b) ↔ property a :=
  ⟨fun ⟨_, hb, h⟩ => Except.ok.inj hb ▸ h, fun h => ⟨a, rfl, h⟩⟩

section Endings

variable {cs : List Char} {url : Url} {f : Front} {text : List Char}

namespace Url

/-- The path of a URL has no empty segments in front that a file's would lose. -/
theorem Ending.rootedFront_eq (h : Ending cs url) {segments : List String}
    (hpath : url.path = .segments segments) :
    rootedFront (url.scheme = "file") segments.dropLast = segments.dropLast := by
  have hshort : ∀ {file : Bool} {segments : List String}, segments.dropLast = [] →
      rootedFront file segments.dropLast = segments.dropLast := by
    intro file segments hnil
    rw [hnil]
    cases file <;> rfl
  cases h with
  | path f text _ _ _ =>
    obtain rfl := Path.segments.inj hpath
    exact rootedFront_dropLast_readPath _ _ _
  | drive text _ _ _ _ =>
    obtain rfl := Path.segments.inj hpath
    exact rootedFront_dropLast_readPath _ _ _
  | root f _ _ _ _ _ =>
    obtain rfl := Path.segments.inj hpath
    exact rootedFront_dropLast_readPath _ _ _
  | tail f text hplain hnil _ _ =>
    replace hpath : pathAfterAuthority f.scheme (Tail.ofText text).path = .segments segments :=
      hpath
    rw [hnil] at hpath
    obtain rfl := Path.segments.inj hpath
    refine hshort ?_
    split <;> rfl
  | host f _ _ _ _ =>
    obtain rfl := Path.segments.inj hpath
    refine hshort ?_
    split <;> rfl
  | whole f text _ _ _ _ => cases hpath

/-! ## Behind a query or a fragment -/

/-- Behind a query or a fragment a slash does not reach the path. -/
theorem Ending.exists_samePlace (h : Ending cs url) (hopen : url.isOpen = true)
    {padding : List Char} (hpadding : IsPadding padding) :
    ∃ base, parseChars (cs ++ (padding ++ ['/'])) = .ok base ∧ SamePlace url base := by
  cases h with
  | path f text _ _ next =>
    have hpath := Tail.path_append ((isOpen_url f _ _ _).symm.trans hopen) (padding ++ ['/'])
    refine ⟨_, next padding hpadding, rfl, ?_, rfl, ?_⟩
    · simp only [Front.rooted, Front.url, hpath]
    · simp only [Front.rooted, Front.url, hpath]
  | tail f text _ _ isOpen next =>
    have hpath := Tail.path_append isOpen (padding ++ ['/'])
    refine ⟨_, next _, rfl, rfl, rfl, ?_⟩
    simp only [Front.after, Front.url, hpath]
  | whole f text _ _ next more =>
    have hpath := Tail.path_append ((isOpen_url f _ _ _).symm.trans hopen) (padding ++ ['/'])
    have hbase : parseChars (cs ++ (padding ++ ['/'])) =
        .ok (f.whole (text ++ (padding ++ ['/']))) := by
      by_cases hnone : padding = []
      · subst hnone
        have hne : text ≠ [] := by
          rintro rfl
          exact absurd ((isOpen_url f _ _ _).symm.trans hopen) (by decide)
        rw [List.nil_append, next, if_neg hne]
      · exact more padding hpadding hnone
    refine ⟨_, hbase, rfl, rfl, rfl, ?_⟩
    simp only [Front.whole, Front.url, hpath]
  | drive text _ isDrive _ _ =>
    rw [isOpen_rooted, not_isOpen_of_isDrive isDrive] at hopen
    cases hopen
  | host f _ _ _ _ => exact absurd ((isOpen_url f _ _ _).symm.trans hopen) (by decide)
  | root f _ _ _ _ _ => exact absurd ((isOpen_url f _ _ _).symm.trans hopen) (by decide)

/-! ## Behind a path -/

theorem getLast?_suffix (hsuffix : text <:+ cs) :
    text = [] ∨ text ≠ [] ∧ text.getLast? = cs.getLast? := by
  obtain ⟨before, rfl⟩ := hsuffix
  rcases List.eq_nil_or_concat text with rfl | ⟨front, last, rfl⟩
  · exact Or.inl rfl
  · rw [List.concat_eq_append, ← List.append_assoc, List.getLast?_concat, List.getLast?_concat]
    exact Or.inr ⟨List.append_ne_nil_of_right_ne_nil _ (List.cons_ne_nil _ _), rfl⟩

/-- A path that ends in a slash has no last segment, or an empty one. -/
theorem Ending.getLast?_of_slash (h : Ending cs url) (hopen : url.isOpen = false)
    (hslash : cs.getLast? = some '/') {segments : List String}
    (hpath : url.path = .segments segments) :
    segments = [] ∧ isSpecial url.scheme = false ∨ segments.getLast? = some "" := by
  cases h with
  | path f text suffix _ _ =>
    rw [isOpen_rooted] at hopen
    obtain rfl := Path.segments.inj ((path_rooted f text).symm.trans hpath)
    have hend : text = [] ∨ text.getLast?.any (isSlash (isSpecial f.scheme)) = true := by
      rcases getLast?_suffix suffix with hnil | ⟨-, hlast⟩
      · exact Or.inl hnil
      · rw [hlast, hslash]
        exact Or.inr rfl
    obtain ⟨front, hfront⟩ := readPath_of_slash OpenPath.isFresh_root hend
    right
    rw [Tail.path_of_not_isOpen hopen, hfront, List.getLast?_concat]
  | drive text suffix isDrive _ _ =>
    rcases getLast?_suffix suffix with rfl | ⟨-, hlast⟩
    · cases isDrive
    · have hmem := List.mem_of_getLast? (hlast.trans hslash)
      exact absurd (no_slash_of_isDrive isDrive true _ hmem) (by decide)
  | tail f text _ _ isOpen _ =>
    rw [isOpen_after, isOpen] at hopen
    cases hopen
  | host f _ _ _ _ =>
    obtain rfl := Path.segments.inj hpath
    split
    · exact Or.inr rfl
    next hplain => exact Or.inl ⟨rfl, Bool.not_eq_true _ ▸ hplain⟩
  | root f _ _ _ _ _ =>
    obtain rfl := Path.segments.inj ((path_rooted f []).symm.trans hpath)
    exact Or.inr (congrArg (fun read => read.1.getLast?) (readPath_nil f.scheme))
  | whole f text _ _ _ _ => cases hpath

/-! ## A slash behind a text -/

/-- A base with a slash at its end leads below an address just if the path of the address is its
own. -/
theorem statsBelow_rooted_iff (f : Front) (hopen : (Tail.ofText text).isOpen = false)
    {padding : List Char} (hpadding : IsPadding padding) :
    StatsBelow (f.rooted text) (f.rooted (text ++ (padding ++ ['/']))) ↔
      (f.rooted (text ++ (padding ++ ['/']))).host = (f.rooted text).host ∧
        pathChars (readPath f.scheme .root (text ++ padding ++ ['/'])).1 =
          slashed (pathChars (readPath f.scheme .root text).1) := by
  obtain ⟨front, hfront⟩ := exists_front_of_slash f.scheme (text ++ padding)
  have hlast : (readPath f.scheme .root (text ++ padding ++ ['/'])).1.getLast? = some "" := by
    rw [hfront, List.getLast?_concat]
  rw [statsBelow_iff_of_slash (path_rooted_slash f hopen hpadding)
    (rootedFront_dropLast_readPath _ _ _) hlast, toList_text_rooted f hopen]
  exact ⟨fun h => ⟨h.2.1, h.2.2.2⟩, fun h => ⟨rfl, h.1, rfl, h.2⟩⟩

/-- With padding in front of the slash a base does not lead below the address. -/
theorem not_statsBelow_rooted (f : Front) (hopen : (Tail.ofText text).isOpen = false)
    {padding : List Char} (hpadding : IsPadding padding) (hne : padding ≠ []) :
    ¬ StatsBelow (f.rooted text) (f.rooted (text ++ (padding ++ ['/']))) := by
  rw [statsBelow_rooted_iff f hopen hpadding]
  exact fun h => readPath_padding OpenPath.isFresh_root text hne hpadding h.2

/-- A slash leads below an address just if it ends a name, or is the first one of a file. -/
theorem statsBelow_rooted_slash_iff (f : Front) (hopen : (Tail.ofText text).isOpen = false) :
    StatsBelow (f.rooted text) (f.rooted (text ++ ['/'])) ↔
      text ≠ [] ∧ text.getLast?.any (isSlash (isSpecial f.scheme)) = false ∨
        f.scheme = "file" ∧ (f.rooted text).path.text = "/" := by
  have hpath : (Tail.ofText (text ++ ['/'])).path = text ++ ['/'] :=
    Tail.path_append_of_not_isOpen hopen (by decide) (by decide)
  have hiff := statsBelow_rooted_iff f hopen (fun c hc => nomatch hc : IsPadding [])
  rw [List.nil_append, List.append_nil, host_rooted, host_rooted, hpath,
    Tail.path_of_not_isOpen hopen] at hiff
  have htext : (f.rooted text).path.text = "/" ↔
      pathChars (readPath f.scheme .root text).1 = ['/'] := by
    rw [← toList_text_rooted f hopen, ← String.toList_inj]
    rfl
  rw [hiff, htext]
  by_cases hname : text ≠ [] ∧ text.getLast?.any (isSlash (isSpecial f.scheme)) = false
  · obtain ⟨hdrive, hchars⟩ := readPath_slash OpenPath.isFresh_root hname.1 hname.2
    rw [hdrive]
    exact iff_of_true ⟨rfl, hchars⟩ (Or.inl hname)
  · have hslash : text = [] ∨ text.getLast?.any (isSlash (isSpecial f.scheme)) = true := by
      rw [not_and_or, ne_eq, not_not, Bool.not_eq_false] at hname
      exact hname
    obtain ⟨hdrive, hchars⟩ := readPath_second_slash OpenPath.isFresh_root hslash
    rw [hdrive, hchars, or_iff_right hname]
    exact and_iff_right rfl

/-- The root of a host is below an address of it without a path. -/
theorem statsBelow_root {f : Front} (hscheme : url.scheme = f.scheme) (hhost : url.host = f.host)
    (hport : url.port = f.port) (htext : slashed url.path.text.toList = ['/']) :
    StatsBelow url (f.rooted []) := by
  have hread : (readPath f.scheme .root (Tail.ofText []).path) = ([""], false) := readPath_nil _
  have hpath : (f.rooted []).path = .segments [""] := by
    rw [path_rooted, hread]
  have hsame : (f.rooted []).host = f.host := by
    rw [host_rooted, hread, if_neg fun h => Bool.false_ne_true h.2]
  rw [statsBelow_iff_of_slash hpath (by simp [rootedFront]) rfl, htext, hsame, hhost, hscheme,
    hport]
  exact ⟨rfl, rfl, rfl, rfl⟩

/-- A slash behind the text of an address goes into its path, where it ends a name or is the first
one.  Behind a name without a slash before it there is no path yet, but an at sign needs a name. -/
def TakesSlash (cs : List Char) (url : Url) : Prop :=
  if url.path.text = "" then cs.dropWhile (· ≠ ':') ≠ "://@".toList
  else (∃ segments, url.path = .segments segments) ∧
    (cs.getLast?.any (isSlash (isSpecial url.scheme)) = false ∨
      url.scheme = "file" ∧ url.path.text = "/")

theorem takesSlash_rooted_iff (f : Front) (text : List Char) :
    TakesSlash cs (f.rooted text) ↔
      cs.getLast?.any (isSlash (isSpecial f.scheme)) = false ∨
        f.scheme = "file" ∧ (f.rooted text).path.text = "/" := by
  rw [TakesSlash, if_neg (text_rooted_ne_empty f text)]
  exact and_iff_right ⟨_, path_rooted f text⟩

theorem slashed_text_bare (f : Front) : slashed f.bare.path.text.toList = ['/'] := by
  rw [text_bare]
  cases isSpecial f.scheme <;> rfl

theorem takesSlash_bare_iff {f : Front} (hslash : isSpecial f.scheme = true →
      cs.getLast?.any (isSlash (isSpecial f.scheme)) = false ∨ f.scheme = "file") :
    TakesSlash cs f.bare ↔
      isSpecial f.scheme = true ∨ cs.dropWhile (· ≠ ':') ≠ "://@".toList := by
  rw [TakesSlash, text_bare]
  cases hspecial : isSpecial f.scheme with
  | true =>
    refine iff_of_true ⟨⟨_, rfl⟩, ?_⟩ (Or.inl rfl)
    exact (hslash hspecial).imp_right fun hfile => ⟨hfile, rfl⟩
  | false => exact (or_iff_right Bool.false_ne_true).symm

/-- With a slash behind its text an address that is not open leads to the statistics below it just
if it takes the slash. -/
theorem Ending.statsBelow_slash_iff (h : Ending cs url) (hopen : url.isOpen = false) :
    (∃ base, parseChars (cs ++ ['/']) = .ok base ∧ StatsBelow url base) ↔ TakesSlash cs url := by
  have hone : ∀ {base : Url}, parseChars (cs ++ ['/']) = .ok base →
      ((∃ base, parseChars (cs ++ ['/']) = .ok base ∧ StatsBelow url base) ↔
        StatsBelow url base) := by
    intro base hbase
    rw [hbase, exists_ok_eq_iff]
  cases h with
  | path f text suffix slash next =>
    rw [isOpen_rooted] at hopen
    rw [hone (next [] fun c hc => nomatch hc), List.nil_append, statsBelow_rooted_slash_iff f hopen,
      takesSlash_rooted_iff]
    rcases getLast?_suffix suffix with rfl | ⟨hne, hlast⟩
    · rw [text_rooted_nil]
      simpa using fun hcs => (slash rfl).resolve_left (by simp [hcs])
    · rw [hlast, and_iff_right hne]
  | drive text suffix isDrive next _ =>
    rw [isOpen_rooted] at hopen
    rw [hone next, statsBelow_rooted_slash_iff _ hopen, takesSlash_rooted_iff]
    rcases getLast?_suffix suffix with rfl | ⟨hne, hlast⟩
    · cases isDrive
    · rw [hlast, and_iff_right hne]
  | tail f text _ _ isOpen _ =>
    rw [isOpen_after, isOpen] at hopen
    cases hopen
  | host f slash next nameless _ =>
    rw [takesSlash_bare_iff slash]
    by_cases hnamed : isSpecial f.scheme = true ∨ cs.dropWhile (· ≠ ':') ≠ "://@".toList
    · rw [hone (next hnamed)]
      exact iff_of_true (statsBelow_root rfl rfl rfl (slashed_text_bare f)) hnamed
    · refine iff_of_false ?_ hnamed
      rintro ⟨base, hbase, -⟩
      rw [not_or, Bool.not_eq_true, ne_eq, not_not] at hnamed
      exact nameless hnamed.1 hnamed.2 base hbase
  | root f host isPlain slash moved _ =>
    have hfile := ne_file_of_plain isPlain
    refine iff_of_false ?_ ?_
    · rintro ⟨base, hbase, hbelow⟩
      refine not_statsBelow_of_host (fun hsame => moved base hbase ?_) hbelow
      rw [hsame, host_rooted, if_neg fun h => hfile h.1, host]
    · rw [takesSlash_rooted_iff, slash]
      rintro (hslash | ⟨hscheme, -⟩)
      · cases hslash
      · exact hfile hscheme
  | whole f text isPlain named next _ =>
    by_cases htext : text = []
    · subst htext
      have hempty : (f.whole []).path.text = "" := rfl
      rw [hone next, if_pos rfl, TakesSlash, if_pos hempty]
      exact iff_of_true (statsBelow_root rfl rfl rfl rfl) (named rfl)
    · rw [hone next, if_neg htext]
      refine iff_of_false (not_statsBelow_of_whole rfl) ?_
      rw [isOpen_whole] at hopen
      rw [TakesSlash, if_neg (text_whole_ne_empty f hopen htext)]
      rintro ⟨⟨segments, hsegments⟩, -⟩
      cases hsegments

/-- Padding in front of the slash leads elsewhere. -/
theorem Ending.not_statsBelow_padding (h : Ending cs url) (hopen : url.isOpen = false)
    {padding : List Char} (hpadding : IsPadding padding) (hne : padding ≠ []) {base : Url}
    (hbase : parseChars (cs ++ (padding ++ ['/'])) = .ok base) : ¬ StatsBelow url base := by
  cases h with
  | path f text _ _ next =>
    rw [isOpen_rooted] at hopen
    obtain rfl := Except.ok.inj ((next padding hpadding).symm.trans hbase)
    exact not_statsBelow_rooted f hopen hpadding hne
  | drive text _ _ _ refused => exact absurd hbase (refused padding hpadding hne base)
  | tail f text _ _ isOpen _ =>
    rw [isOpen_after, isOpen] at hopen
    cases hopen
  | host f _ _ _ moved => exact not_statsBelow_of_host (moved padding hpadding hne base hbase).2
  | root f _ _ _ _ next =>
    obtain rfl := Except.ok.inj ((next padding hpadding hne).symm.trans hbase)
    exact not_statsBelow_rooted f rfl hpadding hne
  | whole f text _ _ _ more =>
    obtain rfl := Except.ok.inj ((more padding hpadding hne).symm.trans hbase)
    exact not_statsBelow_of_whole rfl

theorem Ending.exists_segments (h : Ending cs url) (hspecial : isSpecial url.scheme = true) :
    ∃ segments, url.path = .segments segments := by
  cases h with
  | path f text _ _ _ => exact ⟨_, path_rooted f text⟩
  | drive text _ _ _ _ => exact ⟨_, path_rooted _ text⟩
  | host f _ _ _ _ => exact ⟨_, rfl⟩
  | root f _ _ _ _ _ => exact ⟨_, path_rooted f []⟩
  | tail f _ isPlain _ _ _ => exact absurd (isPlain.symm.trans hspecial) Bool.false_ne_true
  | whole f _ isPlain _ _ _ => exact absurd (isPlain.symm.trans hspecial) Bool.false_ne_true

/-- In a special scheme a path with a slash behind its text ends with an empty segment. -/
theorem Ending.exists_front (h : Ending cs url) (hopen : url.isOpen = false)
    (hspecial : isSpecial url.scheme = true) {padding : List Char} (hpadding : IsPadding padding)
    {base : Url} (hbase : parseChars (cs ++ (padding ++ ['/'])) = .ok base) :
    base.scheme = url.scheme ∧ ∃ front, base.path = .segments (front ++ [""]) := by
  have hrooted : ∀ {f : Front} {text : List Char} {padding : List Char}, IsPadding padding →
      (Tail.ofText text).isOpen = false →
      ∃ front, (f.rooted (text ++ (padding ++ ['/']))).path = .segments (front ++ [""]) := by
    intro f text padding hpadding hopen
    obtain ⟨front, hfront⟩ := exists_front_of_slash f.scheme (text ++ padding)
    exact ⟨front, by rw [path_rooted_slash f hopen hpadding, hfront]⟩
  have hplain : isSpecial url.scheme ≠ false := fun hfalse =>
    Bool.false_ne_true (hfalse.symm.trans hspecial)
  cases h with
  | path f text _ _ next =>
    rw [isOpen_rooted] at hopen
    obtain rfl := Except.ok.inj ((next padding hpadding).symm.trans hbase)
    exact ⟨rfl, hrooted hpadding hopen⟩
  | drive text _ _ next refused =>
    rw [isOpen_rooted] at hopen
    by_cases hne : padding = []
    · subst hne
      obtain rfl := Except.ok.inj (next.symm.trans hbase)
      exact ⟨rfl, hrooted hpadding hopen⟩
    · exact absurd hbase (refused padding hpadding hne base)
  | host f _ next _ moved =>
    by_cases hne : padding = []
    · subst hne
      obtain rfl := Except.ok.inj ((next (Or.inl hspecial)).symm.trans hbase)
      refine ⟨rfl, [], ?_⟩
      rw [path_rooted]
      exact congrArg (fun read => Path.segments read.1) (readPath_nil f.scheme)
    · exact absurd (moved padding hpadding hne base hbase).1 hplain
  | tail f _ isPlain _ _ _ => exact absurd isPlain hplain
  | root f _ isPlain _ _ _ => exact absurd isPlain hplain
  | whole f _ isPlain _ _ _ => exact absurd isPlain hplain

end Url

end Endings

/-! ## The base of an address -/

/-- The address of an interface that can be the base of what is asked for.  With a query or a
fragment the path itself has to end with a slash; otherwise the text ends with one, or takes one. -/
def IsBase (text : String) (url : Url) : Prop :=
  if url.isOpen = true then url.KeepsPath
  else if text.toList.getLast? = some '/' then ∃ segments, url.path = .segments segments
  else trailing text = [] ∧ TakesSlash (cleaned text) url

theorem isBase_iff_of_isOpen {text : String} {url : Url} (h : url.isOpen = true) :
    IsBase text url ↔ url.KeepsPath := by rw [IsBase, if_pos h]

theorem withSlash_of_slash {text : String} (h : text.toList.getLast? = some '/') :
    withSlash text = text := if_pos h

theorem withSlash_of_no_slash {text : String} (h : text.toList.getLast? ≠ some '/') :
    withSlash text = text ++ "/" := if_neg h

theorem cleaned_ne_nil {text : String} {url : Url} (h : Url.parse text = .ok url) :
    cleaned text ≠ [] := by
  intro hnil
  rw [parse_eq, hnil] at h
  cases h

/-- The base of an address leads to the statistics below the address just if the address is one for
a base. -/
theorem exists_base_iff {text : String} {url : Url} (hurl : Url.parse text = .ok url) :
    (∃ base, Endpoint.parseBase text = .ok base ∧ StatsBelow url base) ↔ IsBase text url := by
  have hfull := cleaned_ne_nil hurl
  rw [parse_eq] at hurl
  have hending := ending_of_parseChars hurl
  simp only [Endpoint.parseBase_eq_ok_iff]
  by_cases hslash : text.toList.getLast? = some '/'
  · rw [withSlash_of_slash hslash]
    simp only [parse_eq, hurl]
    rw [exists_ok_eq_iff,
      statsBelow_iff_of_samePlace ⟨rfl, rfl, rfl, rfl⟩ fun _ => hending.rootedFront_eq]
    cases hopen : url.isOpen with
    | true => exact (isBase_iff_of_isOpen hopen).symm
    | false =>
      rw [IsBase, hopen, if_neg Bool.false_ne_true, if_pos hslash]
      constructor
      · rintro ⟨segments, hpath, -⟩
        exact ⟨segments, hpath⟩
      · rintro ⟨segments, hpath⟩
        refine ⟨segments, hpath, ?_⟩
        rcases hending.getLast?_of_slash hopen (getLast?_cleaned hslash) hpath with
          ⟨hnil, -⟩ | hlast
        · exact Or.inl hnil
        · exact Or.inr (Or.inl hlast)
  · rw [withSlash_of_no_slash hslash]
    simp only [parse_eq, cleaned_slash hfull]
    have hpadding := isPadding_trailing text
    cases hopen : url.isOpen with
    | true =>
      obtain ⟨base, hbase, hsame⟩ := hending.exists_samePlace hopen hpadding
      rw [isBase_iff_of_isOpen hopen, hbase, exists_ok_eq_iff,
        statsBelow_iff_of_samePlace hsame fun _ => hending.rootedFront_eq]
    | false =>
      rw [IsBase, hopen, if_neg Bool.false_ne_true, if_neg hslash]
      by_cases htrailing : trailing text = []
      · rw [htrailing, List.nil_append, and_iff_right rfl]
        exact hending.statsBelow_slash_iff hopen
      · refine iff_of_false ?_ fun h => htrailing h.1
        rintro ⟨base, hbase, hbelow⟩
        exact hending.not_statsBelow_padding hopen hpadding htrailing hbase hbelow

/-- In a special scheme the path of a base ends with an empty segment. -/
theorem exists_front_of_base {text : String} {url base : Url} (hurl : Url.parse text = .ok url)
    (hopen : url.isOpen = false) (hspecial : isSpecial url.scheme = true)
    (hbase : Endpoint.parseBase text = .ok base) :
    base.scheme = url.scheme ∧ ∃ front, base.path = .segments (front ++ [""]) := by
  have hfull := cleaned_ne_nil hurl
  rw [parse_eq] at hurl
  rw [Endpoint.parseBase_eq_ok_iff] at hbase
  have hending := ending_of_parseChars hurl
  by_cases hslash : text.toList.getLast? = some '/'
  · rw [withSlash_of_slash hslash, parse_eq, hurl] at hbase
    obtain rfl := Except.ok.inj hbase
    obtain ⟨segments, hpath⟩ := hending.exists_segments hspecial
    rcases hending.getLast?_of_slash hopen (getLast?_cleaned hslash) hpath with ⟨-, hplain⟩ | hlast
    · exact absurd (hplain.symm.trans hspecial) Bool.false_ne_true
    · obtain ⟨front, rfl⟩ := List.getLast?_eq_some_iff.mp hlast
      exact ⟨rfl, front, hpath⟩
  · rw [withSlash_of_no_slash hslash, parse_eq, cleaned_slash hfull] at hbase
    exact hending.exists_front hopen hspecial (isPadding_trailing text) hbase

namespace Settings

theorem exists_url_of_validate {s : Settings} (h : s.validate = .ok ()) :
    ∃ url, Url.parse s.apiUrl = .ok url := by
  cases hurl : Url.parse s.apiUrl with
  | ok url => exact ⟨url, rfl⟩
  | error cause =>
    have hcheck : checkUrl s.apiUrl (.apiUrl s.apiUrl) = .error (.apiUrl s.apiUrl cause) := by
      rw [checkUrl, hurl]
    rw [validate, hcheck] at h
    cases h

/-- The statistics are asked for below the address of an interface that passes the check just if it
is the address of a base. -/
theorem asksBelow_iff {s : Settings} (h : s.validate = .ok ()) :
    ∃ url, Url.parse s.apiUrl = .ok url ∧
      ((∃ base asked, Endpoint.parseBase s.apiUrl = .ok base ∧
          Endpoint.resolve base Endpoint.stats = .ok asked ∧ AsksBelow url asked) ↔
        IsBase s.apiUrl url) := by
  obtain ⟨url, hurl⟩ := exists_url_of_validate h
  refine ⟨url, hurl, ?_⟩
  rw [← exists_base_iff hurl]
  constructor
  · rintro ⟨base, asked, hbase, hasked, hbelow⟩
    exact ⟨base, hbase, asked, hasked, hbelow⟩
  · rintro ⟨base, hbase, asked, hasked, hbelow⟩
    exact ⟨base, asked, hbase, hasked, hbelow⟩

theorem validate_standard : standard.validate = .ok () :=
  toOption_eq_some_iff.mp (by decide +kernel)

/-- The address of the interface that is used where no other is given. -/
def standardApi : Url where
  scheme := "https"
  username := ""
  password := ""
  host := some (.domain "api.xelpool.com")
  port := none
  path := .segments [""]
  query := none
  fragment := none

theorem parse_standard : Url.parse standard.apiUrl = .ok standardApi :=
  toOption_eq_some_iff.mp (by decide +kernel)

theorem isBase_standard : IsBase standard.apiUrl standardApi :=
  ⟨by decide +kernel, ⟨[""], rfl⟩, Or.inl (by decide +kernel)⟩

theorem asksBelow_standard :
    standard.validate = .ok () ∧ ∃ url base asked, Url.parse standard.apiUrl = .ok url ∧
      Endpoint.parseBase standard.apiUrl = .ok base ∧
      Endpoint.resolve base Endpoint.stats = .ok asked ∧ AsksBelow url asked := by
  refine ⟨validate_standard, ?_⟩
  obtain ⟨url, hurl, hiff⟩ := asksBelow_iff validate_standard
  obtain rfl := Except.ok.inj (parse_standard.symm.trans hurl)
  obtain ⟨base, asked, hbase, hasked, hbelow⟩ := hiff.mpr isBase_standard
  exact ⟨_, base, asked, hurl, hbase, hasked, hbelow⟩

/-- An address at `pool.example`. -/
def poolExample (segments : List String) (query : Option String) : Url where
  scheme := "https"
  username := ""
  password := ""
  host := some (.domain "pool.example")
  port := none
  path := .segments segments
  query := query
  fragment := none

/-- The address of an interface that is given with a key behind its path. -/
def keyed : Settings := { standard with apiUrl := "https://pool.example/api?key=1" }

/-- The key keeps the slash from the path, which loses its last segment. -/
theorem not_asksBelow_keyed :
    keyed.validate = .ok () ∧ ¬ ∃ url base asked, Url.parse keyed.apiUrl = .ok url ∧
      Endpoint.parseBase keyed.apiUrl = .ok base ∧
      Endpoint.resolve base Endpoint.stats = .ok asked ∧ AsksBelow url asked := by
  have hparse : Url.parse keyed.apiUrl = .ok (poolExample ["api"] (some "key=1")) :=
    toOption_eq_some_iff.mp (by decide +kernel)
  have hbase : Endpoint.parseBase keyed.apiUrl = .ok (poolExample ["api"] (some "key=1/")) :=
    toOption_eq_some_iff.mp (by decide +kernel)
  have hasked : Endpoint.resolve (poolExample ["api"] (some "key=1/")) Endpoint.stats =
      .ok (poolExample ["stats"] none) := toOption_eq_some_iff.mp (by decide +kernel)
  refine ⟨toOption_eq_some_iff.mp (by decide +kernel), ?_⟩
  rintro ⟨url, base, asked, hurl', hbase', hasked', hbelow⟩
  obtain rfl := Except.ok.inj (hparse.symm.trans hurl')
  obtain rfl := Except.ok.inj (hbase.symm.trans hbase')
  obtain rfl := Except.ok.inj (hasked.symm.trans hasked')
  exact absurd hbelow.path (by decide +kernel)

end Settings

end PoolPage
