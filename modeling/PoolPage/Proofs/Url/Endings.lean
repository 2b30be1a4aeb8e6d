import PoolPage.Proofs.Url.Hosts
import PoolPage.Proofs.Url.Tails

/-!
# How URLs end

What is read of a URL when a slash, or controls and spaces and a slash, are put behind its text
depends on the part that the text ends in (`Ending`): behind a path the slash goes into the path or
into what follows it, behind a host it starts a path, behind a host with controls and spaces no URL
of this host is left.  Every text of a URL ends in one of these ways (`ending_of_parseChars`).
-/

namespace PoolPage
namespace Url

variable {cs : List Char} {url : Url}

/-- Reads a text without padding around it. -/
def parseChars (cs : List Char) : Except Error Url :=
  match splitScheme cs with
  | some (scheme, rest) => parseWithScheme none scheme rest
  | none => .error .relativeWithoutBase

theorem parse_eq (text : String) : parse text = parseChars (cleaned text) := by
  unfold parse parseRelativeTo parseChars
  simp only
  cases splitScheme (cleaned text) with
  | none => rfl
  | some parts => rfl

/-! ## Ways to end -/

/-- The part of a URL that its text ends in. -/
inductive Ending (cs : List Char) : Url → Prop
  /-- The path from the root, or what follows it. -/
  | path (f : Front) (text : List Char) (suffix : text <:+ cs)
      (slash : text = [] →
        cs.getLast?.any (isSlash (isSpecial f.scheme)) = true ∨ f.scheme = "file")
      (next : ∀ padding, IsPadding padding →
        parseChars (cs ++ (padding ++ ['/'])) = .ok (f.rooted (text ++ (padding ++ ['/'])))) :
      Ending cs (f.rooted text)
  /-- A drive that stands where a file's host would. -/
  | drive (text : List Char) (suffix : text <:+ cs) (isDrive : isDrive text = true)
      (next : parseChars (cs ++ ['/']) = .ok ((fileFront noHost).rooted (text ++ ['/'])))
      (refused : ∀ padding, IsPadding padding → padding ≠ [] →
        ∀ base, parseChars (cs ++ (padding ++ ['/'])) ≠ .ok base) :
      Ending cs ((fileFront noHost).rooted text)
  /-- What follows an authority without a path. -/
  | tail (f : Front) (text : List Char) (isPlain : isSpecial f.scheme = false)
      (path : (Tail.ofText text).path = []) (isOpen : (Tail.ofText text).isOpen = true)
      (next : ∀ more, parseChars (cs ++ more) = .ok (f.after (text ++ more))) :
      Ending cs (f.after text)
  /-- The host, or the port. -/
  | host (f : Front)
      (slash : isSpecial f.scheme = true →
        cs.getLast?.any (isSlash (isSpecial f.scheme)) = false ∨ f.scheme = "file")
      (next : isSpecial f.scheme = true ∨ cs.dropWhile (· ≠ ':') ≠ "://@".toList →
        parseChars (cs ++ ['/']) = .ok (f.rooted []))
      (nameless : isSpecial f.scheme = false → cs.dropWhile (· ≠ ':') = "://@".toList →
        ∀ base, parseChars (cs ++ ['/']) ≠ .ok base)
      (moved : ∀ padding, IsPadding padding → padding ≠ [] →
        ∀ base, parseChars (cs ++ (padding ++ ['/'])) = .ok base →
          isSpecial f.scheme = false ∧ base.host ≠ f.host) :
      Ending cs f.bare
  /-- The slash behind the scheme. -/
  | root (f : Front) (host : f.host = none) (isPlain : isSpecial f.scheme = false)
      (slash : cs.getLast? = some '/')
      (moved : ∀ base, parseChars (cs ++ ['/']) = .ok base → base.host ≠ none)
      (next : ∀ padding, IsPadding padding → padding ≠ [] →
        parseChars (cs ++ (padding ++ ['/'])) = .ok (f.rooted (padding ++ ['/']))) :
      Ending cs (f.rooted [])
  /-- A path without structure. -/
  | whole (f : Front) (text : List Char) (isPlain : isSpecial f.scheme = false)
      (named : text = [] → cs.dropWhile (· ≠ ':') ≠ "://@".toList)
      (next : parseChars (cs ++ ['/']) =
        .ok (if text = [] then f.rooted [] else f.whole (text ++ ['/'])))
      (more : ∀ padding, IsPadding padding → padding ≠ [] →
        parseChars (cs ++ (padding ++ ['/'])) = .ok (f.whole (text ++ (padding ++ ['/'])))) :
      Ending cs (f.whole text)

/-! ## Authorities -/

section Authorities

variable {scheme : String} {rest : List Char}

theorem IsPadding.not_endsAuthority {padding : List Char} (h : IsPadding padding) :
    ∀ c ∈ padding, (!endsAuthority scheme c) = true := by
  intro c hc
  have hquery : c ≠ '?' := by
    rintro rfl
    exact h.notMem (by decide) hc
  have hfragment : c ≠ '#' := by
    rintro rfl
    exact h.notMem (by decide) hc
  simp [endsAuthority, h.no_slash c hc, hquery, hfragment]

/-- Behind the end of an authority everything goes into what follows it. -/
theorem parseAuthority_append (hstop : rest.dropWhile (!endsAuthority scheme ·) ≠ [])
    (h : parseAuthority scheme rest = .ok url) :
    ∃ (f : Front) (text : List Char), f.scheme = scheme ∧ text ≠ [] ∧ text <:+ rest ∧
      url = f.after text ∧
      ∀ more, parseAuthority scheme (rest ++ more) = .ok (f.after (text ++ more)) := by
  have hsplit : rest.takeWhile (!endsAuthority scheme ·) ++
      rest.dropWhile (!endsAuthority scheme ·) = rest := List.takeWhile_append_dropWhile
  have hmore : ∀ more, parseAuthority scheme (rest ++ more) =
      if isNameless (rest.takeWhile (!endsAuthority scheme ·)) = true then .error .emptyHost
      else (readFront scheme (rest.takeWhile (!endsAuthority scheme ·))).map fun f =>
        f.after ((afterPort (rest.takeWhile (!endsAuthority scheme ·)) ++
          rest.dropWhile (!endsAuthority scheme ·)) ++ more) := by
    intro more
    have hne : rest.dropWhile (!endsAuthority scheme ·) ++ more ≠ [] :=
      List.append_ne_nil_of_left_ne_nil hstop more
    rw [parseAuthority_eq, takeWhile_append_of_stop hstop, dropWhile_append_of_stop hstop]
    simp only [ne_eq, hne, not_false_eq_true, and_true, List.append_assoc]
  have hnone := hmore []
  rw [List.append_nil, List.append_nil, h] at hnone
  by_cases hnameless : isNameless (rest.takeWhile (!endsAuthority scheme ·)) = true
  · rw [if_pos hnameless] at hnone
    cases hnone
  rw [if_neg hnameless] at hnone
  cases hfront : readFront scheme (rest.takeWhile (!endsAuthority scheme ·)) with
  | error e =>
    rw [hfront] at hnone
    cases hnone
  | ok f =>
    rw [hfront] at hnone
    obtain ⟨-, -, -, hscheme, -⟩ := readFront_eq_ok hfront
    refine ⟨f, _, hscheme, List.append_ne_nil_of_right_ne_nil _ hstop, ?_, Except.ok.inj hnone,
      fun more => ?_⟩
    · obtain ⟨before, hbefore⟩ := afterPort_suffix (rest.takeWhile (!endsAuthority scheme ·))
      exact ⟨before, by rw [← List.append_assoc, hbefore, hsplit]⟩
    · rw [hmore, if_neg hnameless, hfront]
      rfl

theorem host_ne_none_of_parseAuthority (h : parseAuthority scheme rest = .ok url) :
    url.host ≠ none := by
  rw [parseAuthority_eq] at h
  split at h
  · cases h
  cases hfront : readFront scheme (rest.takeWhile (!endsAuthority scheme ·)) with
  | error e =>
    rw [hfront] at h
    cases h
  | ok f =>
    rw [hfront] at h
    obtain rfl : f.after _ = url := Except.ok.inj h
    obtain ⟨host, -, hhost, -⟩ := readFront_eq_ok hfront
    show f.host ≠ none
    rw [hhost]
    exact Option.some_ne_none host

/-- An authority without an end ends with a slash, and controls and spaces go into it. -/
theorem parseAuthority_of_no_end {padding : List Char}
    (hnone : rest.dropWhile (!endsAuthority scheme ·) = []) (hpadding : IsPadding padding) :
    parseAuthority scheme (rest ++ (padding ++ ['/'])) =
      if isNameless (rest ++ padding) = true then .error .emptyHost
      else (readFront scheme (rest ++ padding)).map fun f =>
        f.after (afterPort (rest ++ padding) ++ ['/']) := by
  have hkept : ∀ c ∈ rest ++ padding, (!endsAuthority scheme c) = true :=
    List.forall_mem_append.mpr ⟨List.dropWhile_eq_nil_iff.mp hnone, hpadding.not_endsAuthority⟩
  have htake : (rest ++ padding ++ ['/']).takeWhile (!endsAuthority scheme ·) =
      rest ++ padding := by
    rw [List.takeWhile_append_of_pos hkept]
    exact List.append_nil _
  have hdrop : (rest ++ padding ++ ['/']).dropWhile (!endsAuthority scheme ·) = ['/'] :=
    List.dropWhile_append_of_pos hkept
  rw [← List.append_assoc, parseAuthority_eq, htake, hdrop]
  simp only [ne_eq, List.cons_ne_nil, not_false_eq_true, and_true]

theorem parseAuthority_eq_of_no_end (hnone : rest.dropWhile (!endsAuthority scheme ·) = []) :
    parseAuthority scheme rest =
      (readFront scheme rest).map fun f => f.after (afterPort rest) := by
  have htake : rest.takeWhile (!endsAuthority scheme ·) = rest :=
    List.takeWhile_eq_self_iff.mpr (List.dropWhile_eq_nil_iff.mp hnone)
  rw [parseAuthority_eq, htake, hnone, if_neg fun h => h.2 rfl]
  simp only [List.append_nil]

/-- A backslash that ends a port ends it in a scheme that is not special. -/
theorem isSpecial_of_afterPort (hnone : rest.dropWhile (!endsAuthority scheme ·) = [])
    (hafter : afterPort rest ≠ []) :
    isSpecial scheme = false ∧ ∃ more, afterPort rest = '\\' :: more := by
  obtain ⟨c, more, hcons⟩ := List.exists_cons_of_ne_nil hafter
  have hback : c = '\\' := by
    rw [afterPort_eq] at hcons
    have hhead := List.head?_dropWhile_not (fun c => decide (c ≠ '\\')) ((portText rest).drop 1)
    rw [hcons] at hhead
    simpa using hhead
  subst hback
  refine ⟨?_, more, hcons⟩
  have hmem : '\\' ∈ rest := (afterPort_suffix rest).subset (by rw [hcons]; exact .head _)
  have hkept := List.dropWhile_eq_nil_iff.mp hnone _ hmem
  cases hspecial : isSpecial scheme with
  | false => rfl
  | true =>
    rw [endsAuthority, hspecial] at hkept
    exact absurd hkept (by decide)

/-- What stands behind two slashes, unless it is the host of a file. -/
structure Behind (scheme : String) (cs rest : List Char) : Prop where
  not_file : scheme ≠ "file"
  suffix : rest <:+ cs
  nameless : cs.dropWhile (· ≠ ':') = "://@".toList → rest = ['@']
  front : isSpecial scheme = false → rest = ['@'] → cs.dropWhile (· ≠ ':') = "://@".toList
  next : ∀ more, parseChars (cs ++ more) = parseAuthority scheme (rest ++ more)

section NoEnd

variable {f : Front} (hbehind : Behind f.scheme cs rest)
  (hnone : rest.dropWhile (!endsAuthority f.scheme ·) = [])
  (hfront : readFront f.scheme rest = .ok f)

include hbehind hnone hfront

theorem parseChars_slash (hafter : afterPort rest = []) :
    parseChars (cs ++ ['/']) =
      if rest = ['@'] then .error .emptyHost else .ok (f.rooted []) := by
  have hslash := (hbehind.next ['/']).trans
    (parseAuthority_of_no_end hnone (fun c hc => nomatch hc : IsPadding []))
  rw [List.append_nil, hfront, hafter] at hslash
  by_cases hat : rest = ['@']
  · rw [if_pos ((isNameless_iff rest).mpr hat)] at hslash
    rw [hslash, if_pos hat]
  · rw [if_neg fun hnameless => hat ((isNameless_iff rest).mp hnameless)] at hslash
    rw [hslash, if_neg hat]
    exact congrArg Except.ok (Front.after_slash hbehind.not_file (isSlash_slash _) [])

theorem host_ne_of_padding (hafter : afterPort rest = []) {padding : List Char}
    (hpadding : IsPadding padding) (hne : padding ≠ []) {base : Url}
    (hbase : parseChars (cs ++ (padding ++ ['/'])) = .ok base) :
    isSpecial f.scheme = false ∧ base.host ≠ f.host := by
  obtain ⟨host, hhost, hf, -, -, -⟩ := readFront_eq_ok hfront
  rw [hbehind.next, parseAuthority_of_no_end hnone hpadding] at hbase
  split at hbase
  · cases hbase
  cases hother : readFront f.scheme (rest ++ padding) with
  | error e =>
    rw [hother] at hbase
    cases hbase
  | ok g =>
    rw [hother] at hbase
    obtain rfl : g.after _ = base := Except.ok.inj hbase
    obtain ⟨other, hread, hg⟩ := readFront_append_of_padding hpadding hne hafter hother
    obtain ⟨hplain, hmoved⟩ := readHost_append_ne hpadding hne hhost hread
    refine ⟨hplain, ?_⟩
    show g.host ≠ f.host
    rw [hg, hf]
    exact fun heq => hmoved (Option.some.inj heq)

theorem ending_of_host (hafter : afterPort rest = []) : Ending cs f.bare := by
  obtain ⟨-, -, -, -, -, htext⟩ := readFront_eq_ok hfront
  have hslash := parseChars_slash hbehind hnone hfront hafter
  refine .host f (fun hspecial => Or.inl ?_) (fun hnamed => ?_) (fun hplain hat => ?_)
    fun padding hpadding hne base hbase =>
      host_ne_of_padding hbehind hnone hfront hafter hpadding hne hbase
  · have hne : rest ≠ [] := by
      rintro rfl
      exact htext hspecial rfl
    have hlast := List.dropWhile_eq_nil_iff.mp hnone _ (List.getLast_mem hne)
    obtain ⟨before, rfl⟩ := hbehind.suffix
    rw [List.getLast?_append, List.getLast?_eq_some_getLast hne]
    simp only [endsAuthority, Bool.not_eq_true', Bool.or_eq_false_iff] at hlast
    exact hlast.1.1
  · have hat : rest ≠ ['@'] := by
      rintro rfl
      cases hspecial : isSpecial f.scheme with
      | true => exact htext hspecial (by decide)
      | false =>
        rcases hnamed with htrue | hcs
        · rw [hspecial] at htrue
          cases htrue
        · exact hcs (hbehind.front hspecial rfl)
    rw [hslash, if_neg hat]
  · rw [hslash, if_pos (hbehind.nameless hat)]
    intro base hbase
    cases hbase

/-- What a backslash cuts off behind a port is a path. -/
theorem ending_of_backslash (hafter : afterPort rest ≠ []) :
    Ending cs (f.after (afterPort rest)) := by
  obtain ⟨hplain, more, hmore⟩ := isSpecial_of_afterPort hnone hafter
  have hsuffix := afterPort_suffix rest
  have hends : endsAuthority f.scheme '\\' = false := by
    rw [endsAuthority, hplain]
    rfl
  have hrooted : ∀ text, f.after (afterPort rest ++ text) = f.rooted (afterPort rest ++ text) := by
    intro text
    rw [hmore]
    exact Front.after_cons hbehind.not_file hends _
  have hempty := hrooted []
  rw [List.append_nil] at hempty
  rw [hempty]
  refine .path f _ (hsuffix.trans hbehind.suffix) (fun hnil => absurd hnil hafter)
    fun padding hpadding => ?_
  have hat : '@' ∉ padding := hpadding.notMem (by decide)
  have hcolon : ':' ∉ padding := hpadding.notMem (by decide)
  obtain ⟨hsame, hgrown⟩ := @readFront_append_of_afterPort f.scheme _ _ hat hcolon hafter
  have hnamed : ¬ isNameless (rest ++ padding) = true := by
    intro hnameless
    have hmem : '\\' ∈ rest ++ padding :=
      List.mem_append_left _ (hsuffix.subset (by rw [hmore]; exact .head _))
    rw [(isNameless_iff _).mp hnameless] at hmem
    exact absurd hmem (by decide)
  rw [hbehind.next, parseAuthority_of_no_end hnone hpadding, if_neg hnamed, hsame, hfront, hgrown,
    ← hrooted, ← List.append_assoc]
  rfl

end NoEnd

theorem ending_of_no_end (hbehind : Behind scheme cs rest)
    (hnone : rest.dropWhile (!endsAuthority scheme ·) = [])
    (h : parseAuthority scheme rest = .ok url) : Ending cs url := by
  rw [parseAuthority_eq_of_no_end hnone] at h
  cases hfront : readFront scheme rest with
  | error e =>
    rw [hfront] at h
    cases h
  | ok f =>
    rw [hfront] at h
    obtain rfl : f.after (afterPort rest) = url := Except.ok.inj h
    obtain ⟨-, -, -, rfl, -, -⟩ := readFront_eq_ok hfront
    by_cases hafter : afterPort rest = []
    · rw [hafter, Front.after_nil]
      exact ending_of_host hbehind hnone hfront hafter
    · exact ending_of_backslash hbehind hnone hfront hafter

theorem ending_of_authority (hbehind : Behind scheme cs rest)
    (h : parseAuthority scheme rest = .ok url) : Ending cs url := by
  by_cases hstop : rest.dropWhile (!endsAuthority scheme ·) = []
  · exact ending_of_no_end hbehind hstop h
  obtain ⟨hfile, suffix, -, -, next⟩ := hbehind
  obtain ⟨f, text, rfl, hne, hsuffix, rfl, hmore⟩ := parseAuthority_append hstop h
  obtain ⟨c, text, rfl⟩ := List.exists_cons_of_ne_nil hne
  have hnext : ∀ more, parseChars (cs ++ more) = .ok (f.after (c :: text ++ more)) := by
    intro more
    rw [next, hmore]
  have hcons : c :: text <:+ cs := hsuffix.trans suffix
  cases hslash : isSlash (isSpecial f.scheme) c with
  | true =>
    rw [Front.after_slash hfile hslash]
    refine .path f text ((List.suffix_cons c text).trans hcons) (fun hnil => ?_) fun padding _ => ?_
    · subst hnil
      obtain ⟨before, rfl⟩ := hcons
      rw [List.getLast?_concat]
      exact Or.inl hslash
    · rw [hnext, List.cons_append, Front.after_slash hfile hslash]
  | false =>
    by_cases hmark : c = '?' ∨ c = '#'
    · cases hspecial : isSpecial f.scheme with
      | true =>
        rw [Front.after_mark hfile hspecial hmark]
        refine .path f (c :: text) hcons (fun hnil => nomatch hnil) fun padding _ => ?_
        rw [hnext, List.cons_append, Front.after_mark hfile hspecial hmark]
      | false =>
        obtain ⟨hpath, hopen⟩ := Tail.ofText_of_mark hmark text
        exact .tail f (c :: text) hspecial hpath hopen hnext
    · have hends : endsAuthority f.scheme c = false := by
        rw [endsAuthority, hslash]
        simpa using hmark
      rw [Front.after_cons hfile hends]
      refine .path f (c :: text) hcons (fun hnil => nomatch hnil) fun padding _ => ?_
      rw [hnext, List.cons_append, Front.after_cons hfile hends]

end Authorities

/-! ## Files -/

section Files

variable {rest : List Char}

/-- The host of a file; nothing stands for an empty one. -/
def readFileHost (cs : List Char) : Except Error Host :=
  if cs.isEmpty then .ok (.domain "") else parseHost cs

/-- The URL with what follows a file's host. -/
def afterFileHost (host : Host) (text : List Char) : Url :=
  if host = .domain "" ∨ host = .domain "localhost" then (fileFront noHost).rooted text
  else (fileFront (some host)).rooted (if text.head?.any (isSlash true) then text.drop 1 else text)

theorem parseFileHost_eq (rest : List Char) :
    parseFileHost rest =
      if isDrive (rest.takeWhile (!endsAuthority "file" ·)) then
        .ok ((fileFront noHost).rooted rest)
      else (readFileHost (rest.takeWhile (!endsAuthority "file" ·))).map
        (afterFileHost · (rest.dropWhile (!endsAuthority "file" ·))) := by
  unfold parseFileHost
  extract_lets +onlyGivenNames ends hostText after
  have htext : rest.takeWhile (!endsAuthority "file" ·) = hostText := rfl
  have hafter : rest.dropWhile (!endsAuthority "file" ·) = after := rfl
  rw [htext, hafter]
  clear_value hostText after
  unfold readFileHost afterFileHost
  simp only [fileUrl_eq]
  by_cases hdrive : isDrive hostText = true
  · rw [if_pos hdrive, if_pos hdrive]
    rfl
  rw [if_neg hdrive, if_neg hdrive]
  by_cases hempty : hostText.isEmpty = true
  · rw [if_pos hempty, if_pos hempty]
    rfl
  rw [if_neg hempty, if_neg hempty]
  cases parseHost hostText with
  | error e => rfl
  | ok host =>
    simp only [Except.map, pure, Except.pure, bind, Except.bind]
    split <;> rfl

/-- What follows a file's host goes into its path. -/
theorem exists_afterFileHost (host : Host) :
    ∃ f : Front, f.scheme = "file" ∧ afterFileHost host [] = f.bare ∧
      afterFileHost host ['/'] = f.rooted [] ∧
      ∀ after, after ≠ [] → ∃ text, text <:+ after ∧
        ∀ more, afterFileHost host (after ++ more) = f.rooted (text ++ more) := by
  unfold afterFileHost
  split
  · exact ⟨fileFront noHost, rfl, rooted_file_nil _, rooted_file_slash _, fun after _ =>
      ⟨after, List.suffix_refl _, fun more => rfl⟩⟩
  · refine ⟨fileFront (some host), rfl, rooted_file_nil _, rfl, fun after hne => ?_⟩
    obtain ⟨c, after, rfl⟩ := List.exists_cons_of_ne_nil hne
    cases hc : isSlash true c with
    | true =>
      refine ⟨after, List.suffix_cons c after, fun more => ?_⟩
      rw [List.cons_append, List.head?_cons, Option.any_some, if_pos hc]
      rfl
    | false =>
      refine ⟨c :: after, List.suffix_refl _, fun more => ?_⟩
      rw [List.cons_append, List.head?_cons, Option.any_some, hc, if_neg Bool.false_ne_true]

theorem isDrive_append_of_padding {padding : List Char} (hpadding : IsPadding padding)
    (hne : padding ≠ []) (cs : List Char) : isDrive (cs ++ padding) = false := by
  have hlast : (cs ++ padding).getLast? = some (padding.getLast hne) := by
    rw [List.getLast?_append, List.getLast?_eq_some_getLast hne]
    rfl
  exact isDrive_of_padding hlast (hpadding _ (List.getLast_mem hne))

/-- A file's host without an end ends with a slash, and is refused with controls or spaces. -/
theorem ending_of_open_file_host (suffix : rest <:+ cs)
    (next : ∀ more, parseChars (cs ++ more) = parseFileHost (rest ++ more))
    (hnone : rest.dropWhile (!endsAuthority "file" ·) = [])
    (h : parseFileHost rest = .ok url) : Ending cs url := by
  have hall := List.dropWhile_eq_nil_iff.mp hnone
  have hnext : ∀ padding, IsPadding padding → parseChars (cs ++ (padding ++ ['/'])) =
      if isDrive (rest ++ padding) then
        .ok ((fileFront noHost).rooted (rest ++ (padding ++ ['/'])))
      else (readFileHost (rest ++ padding)).map (afterFileHost · ['/']) := by
    intro padding hpadding
    have hkept : ∀ c ∈ rest ++ padding, (!endsAuthority "file" c) = true :=
      List.forall_mem_append.mpr ⟨hall, hpadding.not_endsAuthority⟩
    have htake : (rest ++ padding ++ ['/']).takeWhile (!endsAuthority "file" ·) =
        rest ++ padding := by
      rw [List.takeWhile_append_of_pos hkept]
      exact List.append_nil _
    have hdrop : (rest ++ padding ++ ['/']).dropWhile (!endsAuthority "file" ·) = ['/'] :=
      List.dropWhile_append_of_pos hkept
    rw [next, ← List.append_assoc, parseFileHost_eq, htake, hdrop]
  have hslash := hnext [] (fun c hc => nomatch hc)
  rw [List.nil_append, List.append_nil] at hslash
  have hrefused : ∀ padding, IsPadding padding → padding ≠ [] →
      ∀ base, parseChars (cs ++ (padding ++ ['/'])) ≠ .ok base := by
    intro padding hpadding hne base hbase
    have hempty : (rest ++ padding).isEmpty = false := by
      simpa using fun _ => hne
    rw [hnext padding hpadding, isDrive_append_of_padding hpadding hne,
      if_neg Bool.false_ne_true, readFileHost, hempty, if_neg Bool.false_ne_true] at hbase
    cases hhost : parseHost (rest ++ padding) with
    | error e =>
      rw [hhost] at hbase
      cases hbase
    | ok host => exact parseHost_of_padding hpadding hne rest host hhost
  rw [parseFileHost_eq, List.takeWhile_eq_self_iff.mpr hall, hnone] at h
  split at h
  next hdrive =>
    obtain rfl := Except.ok.inj h
    rw [if_pos hdrive] at hslash
    exact .drive rest suffix hdrive hslash hrefused
  next hdrive =>
    cases hhost : readFileHost rest with
    | error e =>
      rw [hhost] at h
      cases h
    | ok host =>
      rw [hhost] at h
      obtain ⟨f, hfile, hbare, hrooted, -⟩ := exists_afterFileHost host
      obtain rfl : f.bare = url := hbare.symm.trans (Except.ok.inj h)
      rw [if_neg hdrive, hhost] at hslash
      refine .host f (fun _ => Or.inr hfile)
        (fun _ => hslash.trans (congrArg Except.ok hrooted)) (fun hplain => ?_)
        fun padding hpadding hne base hbase => absurd hbase (hrefused padding hpadding hne base)
      rw [hfile] at hplain
      exact absurd hplain (by decide)

theorem ending_of_file_host (suffix : rest <:+ cs)
    (next : ∀ more, parseChars (cs ++ more) = parseFileHost (rest ++ more))
    (h : parseFileHost rest = .ok url) : Ending cs url := by
  by_cases hstop : rest.dropWhile (!endsAuthority "file" ·) = []
  · exact ending_of_open_file_host suffix next hstop h
  have hnext : ∀ more, parseChars (cs ++ more) =
      if isDrive (rest.takeWhile (!endsAuthority "file" ·)) then
        .ok ((fileFront noHost).rooted (rest ++ more))
      else (readFileHost (rest.takeWhile (!endsAuthority "file" ·))).map
        (afterFileHost · (rest.dropWhile (!endsAuthority "file" ·) ++ more)) := by
    intro more
    rw [next, parseFileHost_eq, takeWhile_append_of_stop hstop, dropWhile_append_of_stop hstop]
  rw [parseFileHost_eq] at h
  split at h
  next hdrive =>
    obtain rfl := Except.ok.inj h
    refine .path _ rest suffix (fun _ => Or.inr rfl) fun padding _ => ?_
    rw [hnext, if_pos hdrive]
  next hdrive =>
    cases hhost : readFileHost (rest.takeWhile (!endsAuthority "file" ·)) with
    | error e =>
      rw [hhost] at h
      cases h
    | ok host =>
      rw [hhost] at h
      obtain ⟨f, hfile, -, -, hafter⟩ := exists_afterFileHost host
      obtain ⟨text, hsuffix, hmore⟩ := hafter _ hstop
      have hurl := hmore []
      rw [List.append_nil, List.append_nil] at hurl
      obtain rfl : f.rooted text = url := hurl.symm.trans (Except.ok.inj h)
      refine .path f text ((hsuffix.trans (List.dropWhile_suffix _)).trans suffix)
        (fun _ => Or.inr hfile) fun padding _ => ?_
      rw [hnext, if_neg hdrive, hhost, ← hmore]
      rfl

theorem parseFile_cons {a : Char} (ha : isSlash true a = false) (rest : List Char) :
    parseFile none (a :: rest) = .ok ((fileFront noHost).rooted (a :: rest)) := by
  rw [← fileUrl_eq]
  cases rest with
  | nil =>
    simp only [parseFile, ha, Bool.false_eq_true, if_false]
    rfl
  | cons b rest =>
    simp only [parseFile, ha, Bool.false_and, Bool.false_eq_true, if_false]
    rfl

theorem parseFile_slash {a b : Char} (ha : isSlash true a = true) (hb : isSlash true b = false)
    (rest : List Char) :
    parseFile none (a :: b :: rest) = .ok ((fileFront noHost).rooted (b :: rest)) := by
  simp only [← fileUrl_eq, parseFile, ha, hb, Bool.and_false, Bool.false_eq_true, if_false, if_true]
  rfl

theorem parseFile_slashes {a b : Char} (ha : isSlash true a = true) (hb : isSlash true b = true)
    (rest : List Char) : parseFile none (a :: b :: rest) = parseFileHost rest := by
  simp only [parseFile, ha, hb, Bool.and_true, if_true]

theorem parseFile_nil : parseFile none [] = .ok ((fileFront noHost).rooted []) :=
  congrArg Except.ok (fileUrl_eq _ _)

theorem parseFile_single {a : Char} (ha : isSlash true a = true) :
    parseFile none [a] = .ok ((fileFront noHost).rooted []) := by
  simp only [← fileUrl_eq, parseFile, ha, if_true]
  rfl

theorem ending_of_file (suffix : rest <:+ cs)
    (next : ∀ more, parseChars (cs ++ more) = parseFile none (rest ++ more))
    (h : parseFile none rest = .ok url) : Ending cs url := by
  -- what stands behind no slash or behind one goes into the path, and a slash alone starts it
  have hpath : ∀ text : List Char, text <:+ rest → url = (fileFront noHost).rooted text →
      (∀ padding, IsPadding padding → parseFile none (rest ++ (padding ++ ['/'])) =
        .ok ((fileFront noHost).rooted (text ++ (padding ++ ['/'])))) → Ending cs url := by
    rintro text hsuffix rfl hnext
    exact .path _ text (hsuffix.trans suffix) (fun _ => Or.inr rfl) fun padding hpadding =>
      (next _).trans (hnext padding hpadding)
  match rest with
  | [] =>
    rw [parseFile_nil] at h
    refine hpath [] (List.suffix_refl _) (Except.ok.inj h).symm fun padding hpadding => ?_
    match padding with
    | [] => exact parseFile_single rfl
    | p :: padding =>
      have hp : isSlash true p = false := hpadding.no_slash p (.head _)
      exact parseFile_cons hp _
  | [a] =>
    cases ha : isSlash true a with
    | true =>
      rw [parseFile_single ha] at h
      refine hpath [] (List.nil_suffix) (Except.ok.inj h).symm fun padding hpadding => ?_
      match padding with
      | [] => exact parseFile_slashes ha rfl []
      | p :: padding =>
        have hp : isSlash true p = false := hpadding.no_slash p (.head _)
        exact parseFile_slash ha hp _
    | false =>
      rw [parseFile_cons ha] at h
      exact hpath [a] (List.suffix_refl _) (Except.ok.inj h).symm fun padding _ =>
        parseFile_cons ha _
  | a :: b :: rest =>
    cases ha : isSlash true a with
    | false =>
      rw [parseFile_cons ha] at h
      exact hpath _ (List.suffix_refl _) (Except.ok.inj h).symm fun padding _ =>
        parseFile_cons ha _
    | true =>
      cases hb : isSlash true b with
      | false =>
        rw [parseFile_slash ha hb] at h
        exact hpath _ (List.suffix_cons a _) (Except.ok.inj h).symm fun padding _ =>
          parseFile_slash ha hb _
      | true =>
        have hbehind : rest <:+ cs :=
          ((List.suffix_cons b rest).trans (List.suffix_cons a _)).trans suffix
        refine ending_of_file_host hbehind (fun more => ?_)
          ((parseFile_slashes ha hb rest).symm.trans h)
        rw [next]
        exact parseFile_slashes ha hb (rest ++ more)

end Files

/-! ## Schemes that are not special -/

section Plain

variable {scheme : String} {rest : List Char}

/-- What stands in front of a path without an authority. -/
def plainFront (scheme : String) : Front := ⟨scheme, "", "", none, none⟩

theorem ne_file_of_plain (hplain : isSpecial scheme = false) : scheme ≠ "file" := by
  rintro rfl
  exact absurd hplain (by decide)

theorem parsePlain_slash (hplain : isSpecial scheme = false) (hrest : rest.head? ≠ some '/') :
    parsePlain scheme ('/' :: rest) = .ok ((plainFront scheme).rooted rest) := by
  have hfile : (plainFront scheme).scheme ≠ "file" := ne_file_of_plain hplain
  rw [Front.rooted_eq hfile]
  unfold parsePlain
  split
  next more heq =>
    obtain rfl := List.tail_eq_of_cons_eq heq
    exact absurd rfl hrest
  next more _ heq =>
    obtain rfl := List.tail_eq_of_cons_eq heq
    simp only [Front.url, plainFront, hplain]
  next h => exact absurd rfl (h rest)

theorem parsePlain_whole (hplain : isSpecial scheme = false) (hrest : rest.head? ≠ some '/') :
    parsePlain scheme rest = .ok ((plainFront scheme).whole rest) := by
  unfold parsePlain
  split
  · exact absurd rfl hrest
  · exact absurd rfl hrest
  · simp only [Front.whole, Front.url, plainFront, hplain]

theorem IsPadding.head?_ne {padding : List Char} (hpadding : IsPadding padding) (hne : padding ≠ [])
    (more : List Char) : (padding ++ more).head? ≠ some '/' := by
  obtain ⟨c, rest, rfl⟩ := List.exists_cons_of_ne_nil hne
  intro hhead
  obtain rfl : c = '/' := Option.some.inj hhead
  exact hpadding.notMem (by decide) (.head _)

theorem head?_append_ne (hne : rest ≠ []) (hrest : rest.head? ≠ some '/') (more : List Char) :
    (rest ++ more).head? ≠ some '/' := by
  obtain ⟨c, rest, rfl⟩ := List.exists_cons_of_ne_nil hne
  exact hrest

theorem ending_of_plain (hplain : isSpecial scheme = false) (suffix : rest <:+ cs)
    (front : cs.dropWhile (· ≠ ':') = ':' :: rest)
    (next : ∀ more, parseChars (cs ++ more) = parsePlain scheme (rest ++ more))
    (h : parsePlain scheme rest = .ok url) : Ending cs url := by
  by_cases hslash : rest.head? = some '/'
  · obtain ⟨after, rfl⟩ : ∃ after, rest = '/' :: after := by
      cases rest with
      | nil => cases hslash
      | cons c after => exact ⟨after, by rw [Option.some.inj hslash]⟩
    by_cases hslashes : after.head? = some '/'
    · obtain ⟨authority, rfl⟩ : ∃ authority, after = '/' :: authority := by
        cases after with
        | nil => cases hslashes
        | cons c authority => exact ⟨authority, by rw [Option.some.inj hslashes]⟩
      refine ending_of_authority ⟨ne_file_of_plain hplain, ?_, ?_, ?_, next⟩ h
      · exact ((List.suffix_cons _ authority).trans (List.suffix_cons _ _)).trans suffix
      · intro hat
        rw [front] at hat
        simpa using hat
      · rintro - rfl
        exact front
    · rw [parsePlain_slash hplain hslashes] at h
      obtain rfl := Except.ok.inj h
      by_cases hafter : after = []
      · subst hafter
        refine .root _ rfl hplain ?_ (fun base hbase => ?_) fun padding hpadding hne => ?_
        · obtain ⟨before, rfl⟩ := suffix
          exact List.getLast?_concat
        · rw [next] at hbase
          exact @host_ne_none_of_parseAuthority base scheme [] hbase
        · rw [next]
          exact parsePlain_slash hplain (hpadding.head?_ne hne _)
      · refine .path _ after ((List.suffix_cons _ after).trans suffix)
          (fun hnil => absurd hnil hafter) fun padding _ => ?_
        rw [next]
        exact parsePlain_slash hplain (head?_append_ne hafter hslashes _)
  · rw [parsePlain_whole hplain hslash] at h
    obtain rfl := Except.ok.inj h
    refine .whole _ rest hplain (fun hrest => ?_) ?_ fun padding hpadding hne => ?_
    · rw [front, hrest]
      decide
    · rw [next]
      by_cases hrest : rest = []
      · subst hrest
        exact parsePlain_slash hplain (fun hnil => nomatch hnil)
      · rw [if_neg hrest]
        exact parsePlain_whole hplain (head?_append_ne hrest hslash _)
    · rw [next]
      by_cases hrest : rest = []
      · subst hrest
        exact parsePlain_whole hplain (hpadding.head?_ne hne _)
      · exact parsePlain_whole hplain (head?_append_ne hrest hslash _)

end Plain

/-! ## All texts -/

section Schemes

variable {scheme : String} {rest : List Char}

theorem splitScheme_eq_some_iff :
    splitScheme cs = some (scheme, rest) ↔
      cs.head?.any Char.isAlpha = true ∧ cs.dropWhile isSchemeChar = ':' :: rest ∧
        String.ofList ((cs.takeWhile isSchemeChar).map Char.toLower) = scheme := by
  cases cs with
  | nil => exact iff_of_false (fun h => nomatch h) fun h => nomatch h.1
  | cons c cs =>
    rw [List.head?_cons, Option.any_some]
    unfold splitScheme
    cases hc : c.isAlpha with
    | false =>
      simp only [hc, Bool.false_eq_true, if_false, false_and]
      exact iff_of_false (fun h => nomatch h) id
    | true =>
      simp only [hc, if_true, true_and]
      split
      next after hafter =>
        rw [hafter, Option.some_inj, Prod.mk.injEq, List.cons.injEq]
        exact ⟨fun h => ⟨⟨rfl, h.2⟩, h.1⟩, fun h => ⟨h.2, h.1.2⟩⟩
      next hnone => exact iff_of_false (fun h => nomatch h) fun h => hnone rest h.1

theorem splitScheme_append (h : splitScheme cs = some (scheme, rest)) (more : List Char) :
    splitScheme (cs ++ more) = some (scheme, rest ++ more) := by
  obtain ⟨hhead, hdrop, htake⟩ := splitScheme_eq_some_iff.mp h
  have hstop : cs.dropWhile isSchemeChar ≠ [] := by
    rw [hdrop]
    exact List.cons_ne_nil _ _
  rw [splitScheme_eq_some_iff]
  refine ⟨?_, ?_, ?_⟩
  · cases cs with
    | nil => cases hhead
    | cons c cs => exact hhead
  · rw [dropWhile_append_of_stop hstop, hdrop]
    rfl
  · rw [takeWhile_append_of_stop hstop, htake]

theorem dropWhile_of_splitScheme (h : splitScheme cs = some (scheme, rest)) :
    cs.dropWhile (· ≠ ':') = ':' :: rest := by
  obtain ⟨-, hdrop, -⟩ := splitScheme_eq_some_iff.mp h
  have hkept : ∀ c ∈ cs.takeWhile isSchemeChar, decide (c ≠ ':') = true := by
    intro c hc
    have hscheme := List.mem_takeWhile_imp hc
    rw [decide_eq_true_iff]
    rintro rfl
    exact absurd hscheme (by decide)
  have hsplit := List.takeWhile_append_dropWhile (p := isSchemeChar) (l := cs)
  rw [← hsplit, List.dropWhile_append_of_pos hkept, hdrop]
  rfl

theorem drop_slashCount (cs : List Char) :
    cs.drop (slashCount cs) = cs.dropWhile (isSlash true) := drop_length_takeWhile _ cs

theorem ending_of_special (hspecial : isSpecial scheme = true) (hfile : scheme ≠ "file")
    (suffix : rest <:+ cs) (front : cs.dropWhile (· ≠ ':') = ':' :: rest)
    (next : ∀ more, parseChars (cs ++ more) =
      parseAuthority scheme ((rest ++ more).drop (slashCount (rest ++ more))))
    (h : parseAuthority scheme (rest.drop (slashCount rest)) = .ok url) : Ending cs url := by
  simp only [drop_slashCount] at h next
  -- without anything behind the slashes there would be no host
  have hstop : rest.dropWhile (isSlash true) ≠ [] := by
    intro hnil
    rw [hnil, parseAuthority_eq_of_no_end rfl] at h
    cases hfront : readFront scheme [] with
    | error e =>
      rw [hfront] at h
      cases h
    | ok f =>
      obtain ⟨-, -, -, -, -, htext⟩ := readFront_eq_ok hfront
      exact htext hspecial rfl
  refine ending_of_authority ⟨hfile, (List.dropWhile_suffix _).trans suffix, fun hat => ?_,
    fun hplain => ?_, fun more => ?_⟩ h
  · rw [front] at hat
    obtain rfl : rest = ['/', '/', '@'] := List.tail_eq_of_cons_eq hat
    decide
  · rw [hspecial] at hplain
    cases hplain
  · rw [next, dropWhile_append_of_stop hstop]

theorem ending_of_parseChars (h : parseChars cs = .ok url) : Ending cs url := by
  unfold parseChars at h
  cases hsplit : splitScheme cs with
  | none =>
    rw [hsplit] at h
    cases h
  | some parts =>
    obtain ⟨scheme, rest⟩ := parts
    have front := dropWhile_of_splitScheme hsplit
    have suffix : rest <:+ cs :=
      (List.suffix_cons ':' rest).trans (front ▸ List.dropWhile_suffix _)
    have next : ∀ more, parseChars (cs ++ more) = parseWithScheme none scheme (rest ++ more) := by
      intro more
      unfold parseChars
      rw [splitScheme_append hsplit]
    rw [hsplit] at h
    replace h : parseWithScheme none scheme rest = .ok url := h
    unfold parseWithScheme at h next
    by_cases hfile : scheme = "file"
    · simp only [if_pos hfile] at h next
      exact ending_of_file suffix next h
    simp only [if_neg hfile] at h next
    cases hspecial : isSpecial scheme with
    | true =>
      simp only [hspecial, if_true] at h next
      exact ending_of_special hspecial hfile suffix front next h
    | false =>
      simp only [hspecial, Bool.false_eq_true, if_false] at h next
      exact ending_of_plain hspecial suffix front next h

end Schemes

end Url
end PoolPage
