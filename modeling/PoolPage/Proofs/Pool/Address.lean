import PoolPage.Dashboard.Answers
import PoolPage.Proofs.Pool.Base

/-!
# Asking for a miner

A miner is asked for with its address put behind the base as it is.  The address is read as part of
a URL then: `Settings.minerBelow_iff` says that it becomes one segment that stands for it just if it
has no slashes, marks of a query or a fragment and line ends, no control or space at its end, and no
escape (`IsOneSegment`).  Another address leads to a segment that stands for another text, to none
or to several, or to a query or a fragment.
-/

namespace PoolPage

open Url

/-! ## The text of a question -/

/-- What is left of characters at the end of a text that is cleaned. -/
def keptAtEnd (cs : List Char) : List Char :=
  ((cs.reverse.dropWhile isLow).reverse).filter (!isIgnoredInText ·)

theorem keptAtEnd_sublist (cs : List Char) : (keptAtEnd cs).Sublist cs := by
  have hprefix := (List.dropWhile_suffix (l := cs.reverse) isLow).sublist.reverse
  rw [List.reverse_reverse] at hprefix
  exact List.filter_sublist.trans hprefix

theorem keptAtEnd_eq_self_iff (cs : List Char) :
    keptAtEnd cs = cs ↔
      (∀ c ∈ cs, isIgnoredInText c = false) ∧ cs.getLast?.all (!isLow ·) = true := by
  constructor
  · intro h
    refine ⟨fun c hc => ?_, ?_⟩
    · rw [← h] at hc
      simpa using (List.mem_filter.mp hc).2
    · rcases List.eq_nil_or_concat cs with rfl | ⟨front, last, rfl⟩
      · rfl
      rw [List.concat_eq_append] at h ⊢
      rw [List.getLast?_concat, Option.all_some]
      cases hlow : isLow last with
      | false => rfl
      | true =>
        have hdrop : keptAtEnd (front ++ [last]) = keptAtEnd front := by
          rw [keptAtEnd, List.reverse_append]
          simp only [List.reverse_singleton, List.singleton_append, List.dropWhile_cons, hlow,
            if_true]
          rfl
        have hlength := (keptAtEnd_sublist front).length_le
        rw [← hdrop, h, List.length_append, List.length_singleton] at hlength
        omega
  · rintro ⟨hplain, hlast⟩
    have hdrop : cs.reverse.dropWhile isLow = cs.reverse := by
      rcases List.eq_nil_or_concat cs with rfl | ⟨front, last, rfl⟩
      · rfl
      rw [List.concat_eq_append] at hlast ⊢
      rw [List.getLast?_concat, Option.all_some] at hlast
      rw [List.reverse_append, List.reverse_singleton, List.singleton_append, List.dropWhile_cons,
        if_neg (by simpa using hlast)]
    rw [keptAtEnd, hdrop, List.reverse_reverse, List.filter_eq_self]
    exact fun c hc => by rw [hplain c hc]; rfl

theorem cleaned_stats_slash (address : String) :
    cleaned ("stats/" ++ address) = "stats".toList ++ '/' :: keptAtEnd address.toList := by
  have hchars : ("stats/" ++ address).toList = "stats/".toList ++ address.toList :=
    String.toList_append
  have hfront : ("stats/".toList ++ address.toList).dropWhile isLow =
      "stats/".toList ++ address.toList := rfl
  have hback : ("stats/".toList ++ address.toList).reverse.dropWhile isLow =
      address.toList.reverse.dropWhile isLow ++ "stats/".toList.reverse := by
    rw [List.reverse_append, List.dropWhile_append]
    split
    next hnil => rw [List.isEmpty_iff.mp hnil]; rfl
    next => rfl
  rw [cleaned_eq, hchars, hfront, hback, List.reverse_append, List.filter_append]
  rfl

namespace Endpoint

theorem relativePath_miner (address : String) :
    relativePath (miner address) = "stats/" ++ address := by
  have hchars : (miner address).toList = '/' :: ("stats/" ++ address).toList := by
    rw [miner, String.toList_append, String.toList_append, String.toList_append]
    rfl
  have hdrop : ("stats/" ++ address).toList.dropWhile (· = '/') = ("stats/" ++ address).toList := by
    rw [String.toList_append]
    rfl
  rw [relativePath, hchars, List.dropWhile_cons, if_pos (by decide), hdrop, String.ofList_toList]

/-- A slash behind characters of a scheme leaves a text without one. -/
theorem splitScheme_of_slash {front : List Char} (h : front.all isSchemeChar = true)
    (cs : List Char) : splitScheme (front ++ '/' :: cs) = none := by
  have hdrop : (front ++ '/' :: cs).dropWhile isSchemeChar = '/' :: cs :=
    List.dropWhile_append_of_pos (List.all_eq_true.mp h)
  cases hsplit : splitScheme (front ++ '/' :: cs) with
  | none => rfl
  | some parts =>
    obtain ⟨-, hcolon, -⟩ := splitScheme_eq_some_iff.mp hsplit
    rw [hdrop] at hcolon
    exact absurd (List.head_eq_of_cons_eq hcolon) (by decide)

/-- What is asked for goes on behind the segments of the base and `stats`. -/
theorem resolve_miner {base : Url} {front : List String}
    (hpath : base.path = .segments (front ++ [""])) (hfile : base.scheme ≠ "file")
    (address : String) :
    resolve base (miner address) = .ok (base.withTail
      (.segments (readPath base.scheme ⟨"stats" :: front.reverse, "", false⟩
        (Tail.ofText (keptAtEnd address.toList)).path).1)
      (Tail.ofText (keptAtEnd address.toList))) := by
  have hchars : ∀ cs, "stats".toList ++ '/' :: cs = 's' :: ("tats/".toList ++ cs) := fun _ => rfl
  have hcleaned : cleaned (relativePath (miner address)) =
      's' :: ("tats/".toList ++ keptAtEnd address.toList) := by
    rw [relativePath_miner, cleaned_stats_slash, hchars]
  have htail : Tail.ofText ('s' :: ("tats/".toList ++ keptAtEnd address.toList)) =
      { Tail.ofText (keptAtEnd address.toList) with
        path := "stats".toList ++ '/' :: (Tail.ofText (keptAtEnd address.toList)).path } := by
    rw [hchars, ← List.cons_append, Tail.ofText_append (by decide) (by decide)]
    rfl
  have hgoOn : goOn (base.scheme = "file") (front ++ [""]) = ⟨front.reverse, "", false⟩ := by
    rw [goOn_of_not_kept (by rw [decide_eq_false hfile]; rfl), List.dropLast_concat]
  have hstats : (⟨front.reverse, "", false⟩ : OpenPath).read (base.scheme = "file") true
      "stats".toList = ⟨"stats" :: front.reverse, "", false⟩ := by
    rw [decide_eq_false hfile]
    rfl
  have hscheme : splitScheme ('s' :: ("tats/".toList ++ keptAtEnd address.toList)) = none := by
    rw [← hchars]
    exact splitScheme_of_slash (by decide) _
  have hdrive : startsWithDrive ('s' :: ("tats/".toList ++ keptAtEnd address.toList)) = false := rfl
  rw [resolve_eq_ok_iff, join_eq hpath hcleaned hscheme (by decide) (by decide) (by decide) hdrive,
    htail, hgoOn]
  dsimp only
  rw [readPath_append_slash _ (no_slash_stats _), hstats]
  rfl

end Endpoint

/-! ## Segments that stand for an address -/

/-- The text that a segment stands for. -/
def unescaped (segment : String) : Option String :=
  String.fromUTF8? ⟨(unescapeBytes segment.toList).toArray⟩

theorem unescaped_eq_some_iff {segment text : String} :
    unescaped segment = some text ↔ unescapeBytes segment.toList = bytesOf text.toList :=
  fromUTF8?_eq_some_iff

/-- An address that is one segment of a path, and stays as it is at the end of a text. -/
structure IsOneSegment (address : String) : Prop where
  plain : ∀ c ∈ address.toList, c ∉ ['/', '\\', '?', '#', '\t', '\n', '\r']
  last : address.toList.getLast?.all (!isLow ·) = true
  escape : hasEscape address.toList = false

/-- What is asked for is the statistics of a miner below an address. -/
structure MinerBelow (url asked : Url) (address : String) : Prop where
  scheme : asked.scheme = url.scheme
  host : asked.host = url.host
  port : asked.port = url.port
  query : asked.query = none
  fragment : asked.fragment = none
  path : ∃ segment, '/' ∉ segment.toList ∧
    asked.path.text = withSlash url.path.text ++ "stats/" ++ segment ∧
    unescaped segment = some address

/-- Miners that are asked for at one path are one. -/
theorem MinerBelow.address_eq {url asked asked' : Url} {address other : String}
    (h : MinerBelow url asked address) (hother : MinerBelow url asked' other)
    (hpath : asked'.path = asked.path) : other = address := by
  obtain ⟨segment, -, htext, hsegment⟩ := h.path
  obtain ⟨segment', -, htext', hsegment'⟩ := hother.path
  have hsame : segment' = segment := by
    rw [hpath, htext, ← String.toList_inj] at htext'
    simp only [String.toList_append, List.append_cancel_left_eq] at htext'
    exact (String.toList_inj.mp htext').symm
  rw [hsame] at hsegment'
  exact Option.some.inj (hsegment'.symm.trans hsegment)

theorem utf8ByteSize_eq (text : String) : text.utf8ByteSize = (bytesOf text.toList).length := by
  have hbytes : text.toByteArray = (bytesOf text.toList).toByteArray :=
    String.utf8Encode_toList.symm
  show text.toByteArray.size = _
  rw [hbytes, List.size_toByteArray]

section Segments

variable {address : String}

theorem IsOneSegment.keptAtEnd (h : IsOneSegment address) :
    keptAtEnd address.toList = address.toList := by
  refine (keptAtEnd_eq_self_iff _).mpr ⟨fun c hc => ?_, h.last⟩
  have hplain := h.plain c hc
  simp only [List.mem_cons, not_or] at hplain
  simp [isIgnoredInText, hplain]

theorem IsOneSegment.no_slash (h : IsOneSegment address) (special : Bool) :
    ∀ c ∈ address.toList, isSlash special c = false := by
  intro c hc
  have hplain := h.plain c hc
  simp only [List.mem_cons, not_or] at hplain
  simp [isSlash, hplain]

theorem IsOneSegment.ofText (h : IsOneSegment address) :
    Tail.ofText address.toList = ⟨address.toList, none, none⟩ := by
  refine Tail.ofText_of_notMem (fun hmem => ?_) fun hmem => ?_
  · exact h.plain _ hmem (by decide)
  · exact h.plain _ hmem (by decide)

theorem toNat_of_toLower {c : Char} (h : c.toLower.toNat < 128) : c.toNat < 128 := by
  by_cases hcapital : c.val ≥ 'A'.val ∧ c.val ≤ 'Z'.val
  · have hle : c.toNat ≤ 90 := UInt32.le_iff_toNat_le.mp hcapital.2
    omega
  · rwa [toLower_of_not_capital hcapital] at h

/-- Dots have at most six bytes. -/
theorem length_bytesOf_of_isDots {cs : List Char} (h : OpenPath.isDots cs = true) :
    (bytesOf cs).length ≤ 6 := by
  have hshort : ∀ dots ∈ [['.', '.'], ['.', '%', '2', 'e'], ['%', '2', 'e', '.'],
      ['%', '2', 'e', '%', '2', 'e'], ['.'], ['%', '2', 'e']],
      dots.length ≤ 6 ∧ dots.all (·.toNat < 128) = true := by decide
  have hlower : cs.map Char.toLower ∈ [['.', '.'], ['.', '%', '2', 'e'], ['%', '2', 'e', '.'],
      ['%', '2', 'e', '%', '2', 'e'], ['.'], ['%', '2', 'e']] := by
    simp only [OpenPath.isDots, isDoubleDot, isSingleDot, Bool.or_eq_true, decide_eq_true_iff,
      List.contains_iff_mem] at h
    rcases h with hdouble | rfl | hsingle
    · exact List.mem_append_left [['.'], ['%', '2', 'e']] hdouble
    · decide
    · rw [hsingle]
      decide
  obtain ⟨hlength, hall⟩ := hshort _ hlower
  have hchars : ∀ c ∈ cs.map Char.toLower, c.toNat < 128 := fun c hc =>
    of_decide_eq_true (List.all_eq_true.mp hall c hc)
  have hones : ∀ ds : List Char, (∀ c ∈ ds, c.toNat < 128) → (bytesOf ds).length = ds.length := by
    intro ds hds
    induction ds with
    | nil => rfl
    | cons d ds ih =>
      have hd : d.val ≤ 127 := UInt32.le_iff_toNat_le.mpr (Nat.le_of_lt_succ (hds d (.head _)))
      rw [bytesOf_cons, List.length_append, ih fun c hc => hds c (.tail _ hc),
        String.length_utf8EncodeChar, Char.utf8Size_eq_one_iff.mpr hd, List.length_cons,
        Nat.add_comm]
  rw [hones cs fun c hc => toNat_of_toLower (hchars _ (List.mem_map_of_mem hc))]
  rwa [List.length_map] at hlength

end Segments

/-! ## Below a base -/

section Asking

variable {url base : Url} {front : List String} {address : String}

theorem isDots_of_long (hlong : Dashboard.isShort address = false) :
    OpenPath.isDots address.toList = false := by
  rw [Dashboard.isShort, decide_eq_false_iff_not, utf8ByteSize_eq] at hlong
  rw [← Bool.not_eq_true]
  intro hdots
  have hlength := length_bytesOf_of_isDots hdots
  exact hlong (hlength.trans (by decide))

theorem segmentOf_of_not_file {q : OpenPath} (h : q.IsFresh) (text : List Char) :
    q.segmentOf false text = String.ofList (escapeWhere isPathEscaped text) := by
  unfold OpenPath.segmentOf OpenPath.append
  rw [if_neg (by simp), h]
  exact String.empty_append

/-- The last segment of a path is where the path ends behind `stats`. -/
theorem text_eq_stats_iff {segment other : String} (hsegment : '/' ∉ segment.toList)
    (hother : '/' ∉ other.toList) (front : List String) (text : String) :
    (Path.segments (front ++ [segment])).text = withSlash text ++ "stats/" ++ other ↔
      pathChars front = slashed text.toList ++ "stats".toList ∧ segment = other := by
  have hstats : "stats/".toList ++ other.toList = "stats".toList ++ '/' :: other.toList := rfl
  rw [← String.toList_inj, toList_text_segments, pathChars_concat, String.toList_append,
    String.toList_append, toList_withSlash, List.append_assoc, hstats, ← List.append_assoc]
  constructor
  · intro h
    obtain ⟨hfront, hlast⟩ := eq_of_last_slash hsegment hother h
    exact ⟨hfront, String.toList_inj.mp hlast⟩
  · rintro ⟨hfront, rfl⟩
    rw [hfront]

theorem slash_notMem_escaped {text : List Char} (h : '/' ∉ text) :
    '/' ∉ (String.ofList (escapeWhere isPathEscaped text)).toList := by
  rw [String.toList_ofList]
  exact slash_notMem_escapeWhere h

theorem rootedFront_of_not_file {scheme : String} (h : scheme ≠ "file") (front : List String) :
    rootedFront (scheme = "file") front = front := by
  rw [decide_eq_false h]
  rfl

theorem resolve_miner_of_segment (hpath : base.path = .segments (front ++ [""]))
    (hfile : base.scheme ≠ "file") (hlong : Dashboard.isShort address = false)
    (h : IsOneSegment address) :
    Endpoint.resolve base (Endpoint.miner address) = .ok (base.withTail
      (.segments (front ++ ["stats"] ++
        [String.ofList (escapeWhere isPathEscaped address.toList)]))
      ⟨address.toList, none, none⟩) := by
  have hread : (readPath base.scheme ⟨"stats" :: front.reverse, "", false⟩ address.toList).1 =
      front ++ ["stats"] ++ [String.ofList (escapeWhere isPathEscaped address.toList)] := by
    have hfresh : (⟨"stats" :: front.reverse, "", false⟩ : OpenPath).IsFresh := rfl
    rw [readPath_name hfresh (h.no_slash _) (isDots_of_long hlong), decide_eq_false hfile,
      segmentOf_of_not_file hfresh, List.reverse_cons, List.reverse_reverse]
    rfl
  have hresolve := Endpoint.resolve_miner hpath hfile address
  rw [h.keptAtEnd, h.ofText] at hresolve
  dsimp only at hresolve
  rwa [hread] at hresolve

/-- An address of one segment is asked for below a base just if the statistics are. -/
theorem minerBelow_iff_statsBelow (hpath : base.path = .segments (front ++ [""]))
    (hfile : base.scheme ≠ "file") (hlong : Dashboard.isShort address = false)
    (h : IsOneSegment address) :
    ∃ asked, Endpoint.resolve base (Endpoint.miner address) = .ok asked ∧
      (MinerBelow url asked address ↔ StatsBelow url base) := by
  have hroot := rootedFront_of_not_file hfile (front ++ [""]).dropLast
  refine ⟨_, resolve_miner_of_segment hpath hfile hlong h, ?_⟩
  have hsegment := slash_notMem_escaped (notMem_of_no_slash (h.no_slash true))
  have hstats : pathChars (front ++ ["stats"]) = slashed url.path.text.toList ++ "stats".toList ↔
      pathChars (front ++ [""]) = slashed url.path.text.toList := by
    have hsplit : pathChars (front ++ ["stats"]) = pathChars (front ++ [""]) ++ "stats".toList := by
      rw [pathChars_concat, pathChars_concat, List.append_assoc]
      rfl
    rw [hsplit, List.append_cancel_right_eq]
  rw [statsBelow_iff_of_slash hpath hroot List.getLast?_concat, ← hstats]
  constructor
  · rintro ⟨hs, hh, hp, -, -, segment, hslash, htext, -⟩
    exact ⟨hs, hh, hp, ((text_eq_stats_iff hsegment hslash _ _).mp htext).1⟩
  · rintro ⟨hs, hh, hp, hchars⟩
    refine ⟨hs, hh, hp, rfl, rfl, _, hsegment, ?_, ?_⟩
    · exact (text_eq_stats_iff hsegment hsegment _ _).mpr ⟨hchars, rfl⟩
    · rw [unescaped_eq_some_iff, String.toList_ofList, unescapeBytes_escape_path,
        unescapeBytes_of_not_hasEscape h.escape]

theorem not_isOpen_of_withTail {path : Path} {tail : Tail}
    (hquery : (base.withTail path tail).query = none)
    (hfragment : (base.withTail path tail).fragment = none) : tail.isOpen = false := by
  have hq : tail.query = none := Option.map_eq_none_iff.mp hquery
  have hf : tail.fragment = none := Option.map_eq_none_iff.mp hfragment
  rw [Tail.isOpen, hq, hf]
  rfl

/-- A piece of an address that stands for the whole of it is all of it, without escapes: each escape
is longer than its byte, and what is cut off has bytes too. -/
theorem eq_of_unescapeBytes {last cs : List Char} (hsub : last.Sublist cs)
    (h : unescapeBytes last = bytesOf cs) : last = cs ∧ hasEscape cs = false := by
  have hescapes := hasEscape_toNat_add_length_le last
  have hbytes := length_bytesOf_le_of_sublist hsub
  rw [h] at hescapes
  obtain rfl := eq_of_sublist_of_length_bytesOf hsub (by omega)
  refine ⟨rfl, ?_⟩
  rw [← Bool.toNat_eq_zero]
  omega

/-- An address that is asked for below another one is one segment. -/
theorem isOneSegment_of_minerBelow (hpath : base.path = .segments (front ++ [""]))
    (hfile : base.scheme ≠ "file") (hspecial : isSpecial base.scheme = true)
    (hlong : Dashboard.isShort address = false) {asked : Url}
    (hasked : Endpoint.resolve base (Endpoint.miner address) = .ok asked)
    (h : MinerBelow url asked address) : IsOneSegment address := by
  rw [Endpoint.resolve_miner hpath hfile] at hasked
  obtain rfl := Except.ok.inj hasked
  obtain ⟨-, -, -, hquery, hfragment, segment, hslash, htext, hsegment⟩ := h
  have hopen := not_isOpen_of_withTail hquery hfragment
  obtain ⟨parents, found, hread, hfound⟩ := @exists_last_segment base.scheme
    ⟨"stats" :: front.reverse, "", false⟩ rfl (keptAtEnd address.toList)
  replace htext : (Path.segments (readPath base.scheme ⟨"stats" :: front.reverse, "", false⟩
      (Tail.ofText (keptAtEnd address.toList)).path).1).text =
        withSlash url.path.text ++ "stats/" ++ segment := htext
  rw [Tail.path_of_not_isOpen hopen, hread] at htext
  rw [unescaped_eq_some_iff] at hsegment
  rcases hfound with rfl | ⟨q, last, hq, hsuffix, hlast, rfl⟩
  · -- an empty segment stands for no address
    obtain ⟨-, rfl⟩ := (text_eq_stats_iff (by decide) hslash _ _).mp htext
    rw [Dashboard.isShort, decide_eq_false_iff_not, utf8ByteSize_eq, ← hsegment] at hlong
    exact absurd (Nat.zero_le _) hlong
  rw [decide_eq_false hfile, segmentOf_of_not_file hq] at htext
  have hescaped := slash_notMem_escaped (notMem_of_no_slash hlast)
  obtain ⟨-, rfl⟩ := (text_eq_stats_iff hescaped hslash _ _).mp htext
  rw [String.toList_ofList, unescapeBytes_escape_path] at hsegment
  have hkept := keptAtEnd_sublist address.toList
  obtain ⟨hwhole, hescape⟩ := eq_of_unescapeBytes (hsuffix.sublist.trans hkept) hsegment
  have hsame : keptAtEnd address.toList = address.toList :=
    hkept.antisymm (hwhole ▸ hsuffix.sublist)
  obtain ⟨hignored, hend⟩ := (keptAtEnd_eq_self_iff _).mp hsame
  rw [hsame] at hopen
  obtain ⟨hq, hf⟩ := Tail.notMem_of_not_isOpen hopen
  rw [hwhole, hspecial] at hlast
  refine ⟨fun c hc hmem => ?_, hend, hescape⟩
  have hslash := hlast c hc
  have hline := hignored c hc
  simp only [isSlash, isIgnoredInText, Bool.or_eq_false_iff, decide_eq_false_iff_not,
    Bool.true_and] at hslash hline
  simp only [List.mem_cons, List.not_mem_nil, or_false] at hmem
  rcases hmem with rfl | rfl | rfl | rfl | rfl | rfl | rfl
  · exact hslash.1 rfl
  · exact hslash.2 rfl
  · exact hq hc
  · exact hf hc
  · exact hline.1.1 rfl
  · exact hline.1.2 rfl
  · exact hline.2 rfl

theorem exists_miner_iff (hpath : base.path = .segments (front ++ [""]))
    (hfile : base.scheme ≠ "file") (hspecial : isSpecial base.scheme = true)
    (hlong : Dashboard.isShort address = false) (url : Url) :
    ∃ asked, Endpoint.resolve base (Endpoint.miner address) = .ok asked ∧
      (MinerBelow url asked address ↔ StatsBelow url base ∧ IsOneSegment address) := by
  by_cases hone : IsOneSegment address
  · obtain ⟨asked, hasked, hiff⟩ := minerBelow_iff_statsBelow hpath hfile hlong hone
    exact ⟨asked, hasked, hiff.trans (and_iff_left hone).symm⟩
  · have hasked := Endpoint.resolve_miner hpath hfile address
    refine ⟨_, hasked, iff_of_false (fun hbelow => hone ?_) fun h => hone h.2⟩
    exact isOneSegment_of_minerBelow hpath hfile hspecial hlong hasked hbelow

theorem statsBelow_self (hpath : base.path = .segments (front ++ [""]))
    (hfile : base.scheme ≠ "file") : StatsBelow base base := by
  have hroot := rootedFront_of_not_file hfile (front ++ [""]).dropLast
  rw [statsBelow_iff_of_slash hpath hroot List.getLast?_concat, hpath, toList_text_segments]
  exact ⟨rfl, rfl, rfl, (slashed_pathChars_empty front).symm⟩

end Asking

namespace Settings

/-- In an interface that is reached over the web a miner is asked for below the base just if the
address is one segment, and no other such address is asked for at its path.  That is below the
address of the interface, too, just if this is the address of a base. -/
theorem minerBelow_iff {s : Settings} {url : Url} (hurl : Url.parse s.apiUrl = .ok url)
    (hscheme : url.scheme = "http" ∨ url.scheme = "https") (hquery : url.query = none)
    (hfragment : url.fragment = none) {address : String}
    (hlong : Dashboard.isShort address = false) :
    (∀ base, Endpoint.parseBase s.apiUrl = .ok base →
      ∃ asked, Endpoint.resolve base (Endpoint.miner address) = .ok asked ∧
        (MinerBelow base asked address ↔ IsOneSegment address) ∧
        ∀ other asked', Dashboard.isShort other = false → IsOneSegment address →
          IsOneSegment other → Endpoint.resolve base (Endpoint.miner other) = .ok asked' →
          asked'.path = asked.path → other = address) ∧
    ((∃ base asked, Endpoint.parseBase s.apiUrl = .ok base ∧
        Endpoint.resolve base (Endpoint.miner address) = .ok asked ∧
        MinerBelow url asked address) ↔
      IsBase s.apiUrl url ∧ IsOneSegment address) := by
  have hopen : url.isOpen = false := by
    rw [Url.isOpen, hquery, hfragment]
    rfl
  have hspecial : isSpecial url.scheme = true ∧ url.scheme ≠ "file" := by
    rcases hscheme with hhttp | hhttps
    · rw [hhttp]
      decide
    · rw [hhttps]
      decide
  have hminer : ∀ base, Endpoint.parseBase s.apiUrl = .ok base → StatsBelow base base ∧
      ∀ address, Dashboard.isShort address = false → ∀ url, ∃ asked,
        Endpoint.resolve base (Endpoint.miner address) = .ok asked ∧
          (MinerBelow url asked address ↔ StatsBelow url base ∧ IsOneSegment address) := by
    intro base hbase
    obtain ⟨hsame, front, hpath⟩ := exists_front_of_base hurl hopen hspecial.1 hbase
    rw [← hsame] at hspecial
    exact ⟨statsBelow_self hpath hspecial.2, fun address hlong =>
      exists_miner_iff hpath hspecial.2 hspecial.1 hlong⟩
  constructor
  · intro base hbase
    obtain ⟨hself, hasks⟩ := hminer base hbase
    obtain ⟨asked, hasked, hiff⟩ := hasks address hlong base
    refine ⟨asked, hasked, hiff.trans (and_iff_right hself), ?_⟩
    intro other asked' hother hone hone' hasked' hpath
    obtain ⟨same, hsame, hiff'⟩ := hasks other hother base
    obtain rfl := Except.ok.inj (hsame.symm.trans hasked')
    exact (hiff.mpr ⟨hself, hone⟩).address_eq (hiff'.mpr ⟨hself, hone'⟩) hpath
  · rw [← exists_base_iff hurl]
    constructor
    · rintro ⟨base, asked, hbase, hasked, hbelow⟩
      obtain ⟨same, hsame, hiff⟩ := (hminer base hbase).2 address hlong url
      obtain rfl := Except.ok.inj (hsame.symm.trans hasked)
      exact ⟨⟨base, hbase, (hiff.mp hbelow).1⟩, (hiff.mp hbelow).2⟩
    · rintro ⟨⟨base, hbase, hstats⟩, hone⟩
      obtain ⟨asked, hasked, hiff⟩ := (hminer base hbase).2 address hlong url
      exact ⟨base, asked, hbase, hasked, hiff.mpr ⟨hstats, hone⟩⟩

theorem minerBelow_standard :
    Url.parse standard.apiUrl = .ok standardApi ∧ standardApi.scheme = "https" ∧
      standardApi.query = none ∧ standardApi.fragment = none ∧
      Dashboard.isShort "xel:aaaaaaaaaaaa" = false ∧
      ∃ base asked, Endpoint.parseBase standard.apiUrl = .ok base ∧
        Endpoint.resolve base (Endpoint.miner "xel:aaaaaaaaaaaa") = .ok asked ∧
        MinerBelow standardApi asked "xel:aaaaaaaaaaaa" := by
  have hlong : Dashboard.isShort "xel:aaaaaaaaaaaa" = false := by decide
  have hplain : "xel:aaaaaaaaaaaa".toList.all
      (fun c => !(List.contains ['/', '\\', '?', '#', '\t', '\n', '\r'] c)) = true := by decide
  have hone : IsOneSegment "xel:aaaaaaaaaaaa" :=
    ⟨fun c hc => by simpa using List.all_eq_true.mp hplain c hc, by decide, by decide⟩
  refine ⟨parse_standard, rfl, rfl, rfl, hlong, ?_⟩
  exact (minerBelow_iff parse_standard (Or.inr rfl) rfl rfl hlong).2.mpr ⟨isBase_standard, hone⟩

/-- An interface below a path. -/
def nested : Settings := { standard with apiUrl := "https://pool.example/api" }

/-- Dots in an address lead out of the base. -/
theorem not_minerBelow_nested :
    (∃ url, Url.parse nested.apiUrl = .ok url ∧ url.scheme = "https" ∧ url.query = none ∧
      url.fragment = none) ∧ Dashboard.isShort "../../admin/reset" = false ∧
      ¬ ∃ url base asked, Url.parse nested.apiUrl = .ok url ∧
        Endpoint.parseBase nested.apiUrl = .ok base ∧
        Endpoint.resolve base (Endpoint.miner "../../admin/reset") = .ok asked ∧
        (MinerBelow base asked "../../admin/reset" ∨ MinerBelow url asked "../../admin/reset") := by
  have hparse : Url.parse nested.apiUrl = .ok (poolExample ["api"] none) :=
    toOption_eq_some_iff.mp (by decide +kernel)
  have hbase : Endpoint.parseBase nested.apiUrl = .ok (poolExample ["api", ""] none) :=
    toOption_eq_some_iff.mp (by decide +kernel)
  have hasked : Endpoint.resolve (poolExample ["api", ""] none)
      (Endpoint.miner "../../admin/reset") = .ok (poolExample ["admin", "reset"] none) :=
    toOption_eq_some_iff.mp (by decide +kernel)
  have hout : ∀ segment : String, "/admin/reset" ≠ "/api/" ++ "stats/" ++ segment := by
    intro segment heq
    have hchars := congrArg (fun text : String => text.toList[2]?) heq
    rw [String.toList_append, String.toList_append] at hchars
    exact absurd hchars (by simp)
  refine ⟨⟨_, hparse, rfl, rfl, rfl⟩, by decide, ?_⟩
  rintro ⟨url, base, asked, hurl', hbase', hasked', hbelow⟩
  obtain rfl := Except.ok.inj (hparse.symm.trans hurl')
  obtain rfl := Except.ok.inj (hbase.symm.trans hbase')
  obtain rfl := Except.ok.inj (hasked.symm.trans hasked')
  rcases hbelow with hbelow | hbelow
  · obtain ⟨segment, -, hpath, -⟩ := hbelow.path
    exact hout segment hpath
  · obtain ⟨segment, -, hpath, -⟩ := hbelow.path
    exact hout segment hpath

end Settings

end PoolPage
