import PoolPage.Pool.Endpoint
import PoolPage.Proofs.Url.Relative

/-!
# What is asked for below a base

The statistics of the pool are asked for with a name that is added to the base of its interface.
The name goes on from the segments of the base but the last one, unless that is the drive of a file
(`Endpoint.statsSegments`).  So the path of the base is kept just if there is no last segment, or an
empty one, or a drive alone (`Endpoint.pathChars_statsSegments_iff`).
-/

namespace PoolPage

open Url

/-- A text with a slash at its end. -/
def withSlash (text : String) : String :=
  if text.toList.getLast? = some '/' then text else text ++ "/"

theorem toList_withSlash (text : String) : (withSlash text).toList = slashed text.toList := by
  unfold withSlash slashed
  split
  · rfl
  · exact String.toList_append

namespace Endpoint

variable {base : Url} {segments : List String}

theorem parseBase_eq (text : String) :
    parseBase text = (Url.parse (withSlash text)).mapError fun cause => ⟨text, cause⟩ := rfl

theorem mapError_eq_ok_iff {ε ε' α : Type} {outcome : Except ε α} {f : ε → ε'} {a : α} :
    outcome.mapError f = .ok a ↔ outcome = .ok a := by
  cases outcome with
  | error e => exact iff_of_false (fun h => nomatch h) fun h => nomatch h
  | ok b =>
    have hinj : ∀ {δ : Type}, (Except.ok b : Except δ α) = .ok a ↔ b = a :=
      ⟨Except.ok.inj, congrArg Except.ok⟩
    exact hinj.trans hinj.symm

theorem parseBase_eq_ok_iff {text : String} :
    parseBase text = .ok base ↔ Url.parse (withSlash text) = .ok base := by
  rw [parseBase_eq, mapError_eq_ok_iff]

theorem resolve_eq_ok_iff {path : String} {asked : Url} :
    resolve base path = .ok asked ↔ base.join (relativePath path) = .ok asked := mapError_eq_ok_iff

/-! ## Asking for the statistics -/

/-- The segments of the statistics. -/
def statsSegments (scheme : String) (segments : List String) : List String :=
  (readPath scheme (goOn (scheme = "file") segments) "stats".toList).1

theorem cleaned_stats : cleaned (relativePath stats) = 's' :: "tats".toList := by decide

theorem no_slash_stats (special : Bool) : ∀ c ∈ "stats".toList, isSlash special c = false := by
  have hnone : "stats".toList.any (isSlash special) = false := by
    cases special <;> decide
  exact fun c hc => Bool.not_eq_true _ ▸ List.any_eq_false.mp hnone c hc

theorem exists_resolve_stats (hpath : base.path = .segments segments) :
    ∃ asked, resolve base stats = .ok asked ∧ asked.scheme = base.scheme ∧
      asked.host = base.host ∧ asked.port = base.port ∧
      asked.path = .segments (statsSegments base.scheme segments) := by
  have hjoin := join_eq hpath cleaned_stats (by decide) (by decide) (by decide) (by decide)
    (by decide)
  exact ⟨_, resolve_eq_ok_iff.mpr hjoin, rfl, rfl, rfl, rfl⟩

theorem resolve_stats_ne_ok {whole : String} (hpath : base.path = .whole whole) (asked : Url) :
    resolve base stats ≠ .ok asked := by
  rw [ne_eq, resolve_eq_ok_iff, join_of_whole hpath cleaned_stats (by decide) (by decide)]
  exact fun h => nomatch h

variable {scheme : String}

theorem statsSegments_of_not_kept
    (h : (decide (scheme = "file") && segments.getLast?.any fun last => isPlainDrive last.toList) =
      false) :
    statsSegments scheme segments =
      rootedFront (scheme = "file") segments.dropLast ++ ["stats"] := by
  have hfresh : (⟨segments.dropLast.reverse, "", false⟩ : OpenPath).IsFresh := rfl
  have hsegment : (⟨segments.dropLast.reverse, "", false⟩ : OpenPath).segmentOf (scheme = "file")
      "stats".toList = "stats" := by
    rcases @OpenPath.segmentOf_eq (scheme = "file") _ hfresh "stats".toList with
      hsegment | ⟨hdrive, -⟩
    · rw [hsegment]
      decide
    · exact absurd hdrive (by decide)
  rw [statsSegments, goOn_of_not_kept h, readPath_name hfresh (no_slash_stats _) (by decide),
    hsegment, List.reverse_reverse]

/-- A drive is a letter and a colon. -/
theorem eq_of_isPlainDrive {cs : List Char} (h : isPlainDrive cs = true) :
    ∃ letter, letter.isAlpha = true ∧ cs = [letter, ':'] := by
  rw [isPlainDrive, Bool.and_eq_true, decide_eq_true_iff] at h
  match cs, h with
  | [letter, mark], ⟨hdrive, hmark⟩ =>
    obtain rfl : mark = ':' := Option.some.inj hmark
    exact ⟨letter, by simpa [isDrive] using hdrive, rfl⟩

theorem goOn_drive {drive : String} (hdrive : isPlainDrive drive.toList = true)
    (front : List String) : goOn true (front ++ [drive]) = ⟨front.reverse, drive, false⟩ := by
  unfold goOn OpenPath.ofSegments OpenPath.clear
  simp only [List.reverse_append, List.reverse_singleton, List.singleton_append, hdrive,
    Bool.and_self, if_true]

/-- Behind a drive alone a name is a segment of its own; behind another segment it goes on with the
drive. -/
theorem statsSegments_drive {drive : String} (hdrive : isPlainDrive drive.toList = true)
    (front : List String) :
    statsSegments "file" (front ++ [drive]) =
      if front = [] then [drive, "stats"] else rootedFront true front ++ [drive ++ "stats"] := by
  have hread : (⟨front.reverse, drive, false⟩ : OpenPath).read true false "stats".toList =
      if front = [] then ⟨[drive], "stats", false⟩
      else ⟨front.reverse, drive ++ "stats", false⟩ := by
    obtain ⟨hdouble, hsingle, hname⟩ : isDoubleDot "stats".toList = false ∧
      isSingleDot "stats".toList = false ∧ isDrive "stats".toList = false := by decide
    have hfull : "stats".toList.isEmpty = false := by decide
    have hescaped : String.ofList (escapeWhere isPathEscaped "stats".toList) = "stats" := by decide
    unfold OpenPath.read OpenPath.append
    generalize "stats".toList = text at hdouble hsingle hname hfull hescaped ⊢
    by_cases hfront : front = []
    · subst hfront
      simp only [List.reverse_nil, List.isEmpty_nil, hdrive, hfull, hdouble, hsingle, hname,
        hescaped, Bool.and_self, Bool.not_false, Bool.and_false, Bool.false_eq_true, if_true,
        if_false, OpenPath.slash, String.empty_append]
    · have hparents : front.reverse.isEmpty = false := by simpa using hfront
      simp only [hparents, hdouble, hsingle, hescaped, hfront, Bool.and_false, Bool.false_and,
        Bool.false_eq_true, if_false]
  have hpieces : splitSegments (isSpecial "file") "stats".toList = ["stats".toList] := by decide
  have hfull : drive ≠ "" := by
    rintro rfl
    cases hdrive
  rw [statsSegments, readPath_eq, hpieces]
  show rooted true ((goOn true (front ++ [drive])).read true false "stats".toList).toSegments = _
  rw [goOn_drive hdrive, hread]
  split
  · exact (rooted_concat [drive] "stats").trans
      (congrArg (· ++ ["stats"]) (rootedFront_concat hfull []))
  · rw [OpenPath.toSegments, List.reverse_cons, List.reverse_reverse, rooted_concat]

theorem slashed_drive {drive : String} (hdrive : isPlainDrive drive.toList = true)
    (front : List String) :
    slashed (pathChars (front ++ [drive])) = pathChars (front ++ [drive, ""]) := by
  obtain ⟨letter, hletter, hchars⟩ := eq_of_isPlainDrive hdrive
  refine slashed_pathChars (fun hempty => ?_) (fun hslash => ?_) front
  · rw [hempty] at hdrive
    cases hdrive
  · rw [hchars] at hslash
    rcases List.mem_cons.mp hslash with rfl | hmark
    · exact absurd hletter (by decide)
    · exact absurd hmark (by decide)

/-- The statistics are asked for below a path just if no segment of it is lost. -/
theorem pathChars_statsSegments_iff
    (hroot : rootedFront (scheme = "file") segments.dropLast = segments.dropLast) :
    pathChars (statsSegments scheme segments) =
        slashed (pathChars segments) ++ "stats".toList ↔
      segments = [] ∨ segments.getLast? = some "" ∨
        scheme = "file" ∧ ∃ drive, segments = [drive] ∧ isPlainDrive drive.toList = true := by
  rcases List.eq_nil_or_concat segments with rfl | ⟨front, last, rfl⟩
  · rw [statsSegments_of_not_kept (Bool.and_false _), hroot]
    exact iff_of_true rfl (Or.inl rfl)
  rw [List.concat_eq_append] at hroot ⊢
  rw [List.dropLast_concat] at hroot
  have hsplit : pathChars (front ++ [last, ""]) = pathChars (front ++ [last]) ++ ['/'] :=
    (congrArg pathChars (List.append_cons front last [""])).trans (pathChars_concat _ "")
  by_cases hkept : scheme = "file" ∧ isPlainDrive last.toList = true
  · obtain ⟨rfl, hdrive⟩ := hkept
    rw [statsSegments_drive hdrive, slashed_drive hdrive, hsplit]
    by_cases hfront : front = []
    · subst hfront
      rw [if_pos rfl]
      refine iff_of_true ?_ (Or.inr (Or.inr ⟨rfl, last, rfl, hdrive⟩))
      exact (pathChars_concat [last] "stats").trans (List.append_cons _ _ _)
    · rw [if_neg hfront]
      refine iff_of_false (fun heq => ?_) ?_
      · have hlength := congrArg List.length heq
        have hsame : rootedFront true front = front := hroot
        rw [hsame, pathChars_concat, pathChars_concat, String.toList_append] at hlength
        simp only [List.length_append, List.length_cons] at hlength
        omega
      · rintro (hnil | hlast | ⟨-, drive, hsingle, -⟩)
        · exact absurd hnil (List.append_ne_nil_of_right_ne_nil _ (List.cons_ne_nil _ _))
        · rw [List.getLast?_concat] at hlast
          rw [Option.some.inj hlast] at hdrive
          cases hdrive
        · cases front with
          | nil => exact hfront rfl
          | cons s front => simp at hsingle
  · have hlost : (decide (scheme = "file") && (front ++ [last]).getLast?.any
        fun last => isPlainDrive last.toList) = false := by
      rw [List.getLast?_concat, Option.any_some]
      simpa using hkept
    rw [statsSegments_of_not_kept hlost, List.dropLast_concat, hroot, pathChars_concat]
    by_cases hlast : last = ""
    · subst hlast
      rw [slashed_pathChars_empty, pathChars_concat, List.append_assoc]
      exact iff_of_true rfl (Or.inr (Or.inl List.getLast?_concat))
    · refine iff_of_false (fun heq => ?_) ?_
      · have hlength := congrArg List.length heq
        have hslashed := length_le_slashed (pathChars (front ++ [last]))
        have hpos : 0 < last.toList.length :=
          List.length_pos_iff.mpr fun hnil => hlast (String.toList_eq_nil_iff.mp hnil)
        rw [pathChars_concat] at hslashed hlength
        simp only [List.length_append, List.length_cons] at hlength hslashed
        omega
      · rintro (hnil | hempty | ⟨hfile, drive, hsingle, hdrive⟩)
        · exact absurd hnil (List.append_ne_nil_of_right_ne_nil _ (List.cons_ne_nil _ _))
        · rw [List.getLast?_concat] at hempty
          exact hlast (Option.some.inj hempty)
        · have heq := congrArg List.getLast? hsingle
          rw [List.getLast?_concat] at heq
          obtain rfl : last = drive := Option.some.inj heq
          exact hkept ⟨hfile, hdrive⟩

end Endpoint

/-! ## Below an address -/

/-- What is asked for is the statistics below an address. -/
structure AsksBelow (url asked : Url) : Prop where
  scheme : asked.scheme = url.scheme
  host : asked.host = url.host
  port : asked.port = url.port
  path : asked.path.text = withSlash url.path.text ++ "stats"

/-- A base leads to the statistics below an address. -/
def StatsBelow (url base : Url) : Prop :=
  ∃ asked, Endpoint.resolve base Endpoint.stats = .ok asked ∧ AsksBelow url asked

/-- Addresses with one front and path. -/
structure SamePlace (url other : Url) : Prop where
  scheme : other.scheme = url.scheme
  host : other.host = url.host
  port : other.port = url.port
  path : other.path = url.path

theorem path_text_eq_iff {url asked : Url} {segments : List String}
    (hpath : asked.path = .segments segments) :
    asked.path.text = withSlash url.path.text ++ "stats" ↔
      pathChars segments = slashed url.path.text.toList ++ "stats".toList := by
  rw [← String.toList_inj, hpath, toList_text_segments, String.toList_append, toList_withSlash]

/-- Nothing of the path is lost when a name is added. -/
def Url.KeepsPath (url : Url) : Prop :=
  ∃ segments, url.path = .segments segments ∧
    (segments = [] ∨ segments.getLast? = some "" ∨
      url.scheme = "file" ∧ ∃ drive, segments = [drive] ∧ isPlainDrive drive.toList = true)

section Asking

variable {url base : Url} {segments : List String}

theorem statsBelow_iff (hpath : base.path = .segments segments) :
    StatsBelow url base ↔
      base.scheme = url.scheme ∧ base.host = url.host ∧ base.port = url.port ∧
        pathChars (Endpoint.statsSegments base.scheme segments) =
          slashed url.path.text.toList ++ "stats".toList := by
  obtain ⟨asked, hasked, hscheme, hhost, hport, hsegments⟩ := Endpoint.exists_resolve_stats hpath
  rw [← path_text_eq_iff hsegments, ← hscheme, ← hhost, ← hport]
  constructor
  · rintro ⟨other, hother, hbelow⟩
    obtain rfl : asked = other := Except.ok.inj (hasked.symm.trans hother)
    exact ⟨hbelow.scheme, hbelow.host, hbelow.port, hbelow.path⟩
  · rintro ⟨hs, hh, hp, htext⟩
    exact ⟨asked, hasked, hs, hh, hp, htext⟩

/-- A base with a slash at its end asks below the address that its path belongs to. -/
theorem statsBelow_iff_of_slash (hpath : base.path = .segments segments)
    (hroot : rootedFront (base.scheme = "file") segments.dropLast = segments.dropLast)
    (hlast : segments.getLast? = some "") :
    StatsBelow url base ↔
      base.scheme = url.scheme ∧ base.host = url.host ∧ base.port = url.port ∧
        pathChars segments = slashed url.path.text.toList := by
  obtain ⟨front, rfl⟩ := List.getLast?_eq_some_iff.mp hlast
  have hkept := (Endpoint.pathChars_statsSegments_iff hroot).mpr (Or.inr (Or.inl hlast))
  rw [statsBelow_iff hpath, hkept, slashed_pathChars_empty, List.append_cancel_right_eq]

theorem not_statsBelow_of_whole {whole : String} (hpath : base.path = .whole whole) :
    ¬ StatsBelow url base := by
  rintro ⟨asked, hasked, -⟩
  exact Endpoint.resolve_stats_ne_ok hpath asked hasked

theorem not_statsBelow_of_host (hhost : base.host ≠ url.host) : ¬ StatsBelow url base := by
  cases hpath : base.path with
  | whole text => exact not_statsBelow_of_whole hpath
  | segments segments =>
    rw [statsBelow_iff hpath]
    exact fun h => hhost h.2.1

theorem statsBelow_iff_of_samePlace (hsame : SamePlace url base)
    (hroot : ∀ segments, url.path = .segments segments →
      rootedFront (url.scheme = "file") segments.dropLast = segments.dropLast) :
    StatsBelow url base ↔ url.KeepsPath := by
  obtain ⟨hscheme, hhost, hport, hpath⟩ := hsame
  cases hurl : url.path with
  | whole text =>
    refine iff_of_false (not_statsBelow_of_whole (hpath.trans hurl)) ?_
    rintro ⟨segments, hsegments, -⟩
    rw [hurl] at hsegments
    cases hsegments
  | segments segments =>
    rw [statsBelow_iff (hpath.trans hurl), hscheme, hurl, toList_text_segments,
      Endpoint.pathChars_statsSegments_iff (hroot segments hurl)]
    constructor
    · rintro ⟨-, -, -, hkeeps⟩
      exact ⟨segments, hurl, hkeeps⟩
    · rintro ⟨others, hothers, hkeeps⟩
      obtain rfl : segments = others := Path.segments.inj (hurl.symm.trans hothers)
      exact ⟨rfl, hhost, hport, hkeeps⟩

end Asking

end PoolPage
