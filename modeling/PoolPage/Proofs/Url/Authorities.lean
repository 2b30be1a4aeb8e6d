import Mathlib.Data.List.TakeWhile
import PoolPage.Proofs.Url.Slashes
import PoolPage.Url.Parse

/-!
# Authorities and what follows them

An authority ends before the first slash, question mark or number sign (`parseAuthority_eq`), or
before a backslash behind its port.  So text behind such an end goes into the path or what follows
it, and text behind an authority without an end goes into its host or its port.
-/

namespace PoolPage
namespace Url

variable {scheme : String}

/-- What stands in front of the path of a URL. -/
structure Front where
  scheme : String
  username : String
  password : String
  host : Option Host
  port : Option Nat

namespace Front

/-- The URL with a path and what follows it. -/
def url (f : Front) (host : Option Host) (path : Path) (tail : Tail) : Url :=
  { scheme := f.scheme, username := f.username, password := f.password
    host, port := f.port, path
    query := tail.query.map (queryText (isSpecial f.scheme))
    fragment := tail.fragment.map fragmentText }

/-- The URL with a path from the root.  A drive at the front of a file's path leaves it without a
host. -/
def rooted (f : Front) (text : List Char) : Url :=
  let tail := Tail.ofText text
  let (segments, hasDrive) := readPath f.scheme .root tail.path
  f.url (if f.scheme = "file" ∧ hasDrive = true then noHost else f.host) (.segments segments) tail

/-- The URL with what follows an authority. -/
def after (f : Front) (text : List Char) : Url :=
  f.url f.host (pathAfterAuthority f.scheme (Tail.ofText text).path) (Tail.ofText text)

end Front

/-! ## Parts of an authority -/

/-- The host and the port of an authority. -/
def hostAndPort (authority : List Char) : List Char := (splitCredentials authority).2

def hostText (authority : List Char) : List Char :=
  (hostAndPort authority).take (hostLength false (hostAndPort authority))

/-- The port with the colon before it, and what follows it. -/
def portText (authority : List Char) : List Char :=
  (hostAndPort authority).drop (hostLength false (hostAndPort authority))

def portDigits (authority : List Char) : List Char :=
  ((portText authority).drop 1).takeWhile (· ≠ '\\')

/-- What a backslash cuts off behind a port. -/
def afterPort (authority : List Char) : List Char :=
  (portText authority).drop ((portDigits authority).length + 1)

/-- Whether there is an at sign without anything on either side. -/
def isNameless (authority : List Char) : Bool :=
  (splitCredentials authority).1 = some [] && (hostAndPort authority).isEmpty

def readHost (scheme : String) (cs : List Char) : Except Error Host :=
  if isSpecial scheme then parseHost cs else parsePlainHost cs

/-- What an authority says. -/
def readFront (scheme : String) (authority : List Char) : Except Error Front := do
  let credentials := (splitCredentials authority).1.getD []
  let username := String.ofList (escapeWhere isUserEscaped (credentials.takeWhile (· ≠ ':')))
  let password :=
    String.ofList (escapeWhere isUserEscaped ((credentials.dropWhile (· ≠ ':')).drop 1))
  if isSpecial scheme && (hostText authority).isEmpty then throw .emptyHost
  let host ← readHost scheme (hostText authority)
  if host = .domain "" ∧ !(portText authority).isEmpty then throw .emptyHost
  let port ← parsePort scheme (portDigits authority)
  if host = .domain "" ∧ (username ≠ "" ∨ password ≠ "") then throw .emptyHost
  return { scheme, username, password, host := some host, port }

/-- Whether a character ends an authority. -/
def endsAuthority (scheme : String) (c : Char) : Bool :=
  isSlash (isSpecial scheme) c || c = '?' || c = '#'

/-- An authority is read up to its end, and what follows with what follows. -/
theorem parseAuthority_eq (scheme : String) (cs : List Char) :
    parseAuthority scheme cs =
      if isNameless (cs.takeWhile (!endsAuthority scheme ·)) = true ∧
          cs.dropWhile (!endsAuthority scheme ·) ≠ [] then .error .emptyHost
      else (readFront scheme (cs.takeWhile (!endsAuthority scheme ·))).map fun f =>
        f.after (afterPort (cs.takeWhile (!endsAuthority scheme ·)) ++
          cs.dropWhile (!endsAuthority scheme ·)) := by
  unfold parseAuthority
  extract_lets special ends authority rest
  have hauthority : cs.takeWhile (!endsAuthority scheme ·) = authority := rfl
  have hrest : cs.dropWhile (!endsAuthority scheme ·) = rest := rfl
  rw [hauthority, hrest]
  clear_value authority rest
  unfold isNameless readFront afterPort portDigits portText hostText hostAndPort
  generalize splitCredentials authority = parts
  obtain ⟨credentials, host⟩ := parts
  dsimp only [special]
  generalize host.take (hostLength false host) = hostText
  generalize host.drop (hostLength false host) = portText
  by_cases hnameless : credentials = some [] ∧ host.isEmpty = true ∧ (!rest.isEmpty) = true
  · have hright : (decide (credentials = some []) && host.isEmpty) = true ∧ rest ≠ [] := by
      simpa [and_assoc] using hnameless
    rw [if_pos hnameless, if_pos hright]
    rfl
  have hright : ¬ ((decide (credentials = some []) && host.isEmpty) = true ∧ rest ≠ []) := by
    simpa [and_assoc] using hnameless
  rw [if_neg hnameless, if_neg hright]
  by_cases hempty : (isSpecial scheme && hostText.isEmpty) = true
  · rw [if_pos hempty, if_pos hempty]
    rfl
  rw [if_neg hempty, if_neg hempty]
  have hread : ∀ k : Host → Except Error Url,
      (if isSpecial scheme = true then parseHost hostText >>= k
        else parsePlainHost hostText >>= k) = readHost scheme hostText >>= k := by
    intro k
    unfold readHost
    split <;> rfl
  rw [hread]
  cases readHost scheme hostText with
  | error e => rfl
  | ok answer =>
    by_cases hport : answer = Host.domain "" ∧ (!portText.isEmpty) = true
    · simp only [bind, Except.bind, hport, and_self, if_true]
      rfl
    simp only [bind, Except.bind, hport, if_false]
    cases parsePort scheme ((portText.drop 1).takeWhile (· ≠ '\\')) with
    | error e => rfl
    | ok port =>
      simp only
      split <;> rfl

theorem splitCredentials_snd_suffix (authority : List Char) :
    (splitCredentials authority).2 <:+ authority := by
  unfold splitCredentials
  simp only
  split
  · exact List.suffix_refl _
  · have hprefix := List.takeWhile_prefix (p := fun c => decide (c ≠ '@')) (l := authority.reverse)
    rw [← List.reverse_suffix, List.reverse_reverse] at hprefix
    exact hprefix

theorem afterPort_suffix (authority : List Char) : afterPort authority <:+ authority :=
  ((List.drop_suffix _ _).trans (List.drop_suffix _ _)).trans
    (splitCredentials_snd_suffix authority)

/-- An at sign with nothing on either side is all of the authority. -/
theorem isNameless_iff (authority : List Char) :
    isNameless authority = true ↔ authority = ['@'] := by
  constructor
  · intro h
    rw [isNameless, Bool.and_eq_true, decide_eq_true_iff, List.isEmpty_iff, hostAndPort] at h
    obtain ⟨hcredentials, hhost⟩ := h
    unfold splitCredentials at hcredentials hhost
    simp only at hcredentials hhost
    split at hcredentials
    · cases hcredentials
    next hlength =>
      rw [if_neg hlength] at hhost
      replace hhost : (authority.reverse.takeWhile (· ≠ '@')).reverse = [] := hhost
      rw [hhost, List.length_nil] at hlength hcredentials
      have hshort : authority.length = 1 := by
        have htake := congrArg List.length (Option.some.inj hcredentials)
        rw [List.length_take, List.length_nil] at htake
        omega
      obtain ⟨c, rfl⟩ := List.length_eq_one_iff.mp hshort
      have hat := List.reverse_eq_nil_iff.mp hhost
      by_cases hc : c = '@'
      · rw [hc]
      · rw [List.reverse_singleton, List.takeWhile_cons, if_pos (by simpa using hc)] at hat
        cases hat
  · rintro rfl
    decide

/-! ## Text behind an authority -/

section Behind

variable {authority behind : List Char}

theorem splitCredentials_append (authority : List Char) (h : '@' ∉ behind) :
    splitCredentials (authority ++ behind) =
      ((splitCredentials authority).1, (splitCredentials authority).2 ++ behind) := by
  have hkept : ∀ c ∈ behind.reverse, decide (c ≠ '@') = true := by
    intro c hc
    rw [decide_eq_true_iff]
    rintro rfl
    exact h (List.mem_reverse.mp hc)
  unfold splitCredentials
  rw [List.reverse_append, List.takeWhile_append_of_pos hkept, List.reverse_append,
    List.reverse_reverse]
  have hle : (authority.reverse.takeWhile (· ≠ '@')).reverse.length ≤ authority.length := by
    rw [List.length_reverse, ← @List.length_reverse _ authority]
    exact (List.takeWhile_prefix _).length_le
  generalize (authority.reverse.takeWhile (· ≠ '@')).reverse = host at hle
  simp only [List.length_append]
  by_cases hall : host.length = authority.length
  · rw [if_pos (by omega), if_pos hall]
  · have htake : authority.length + behind.length - (host.length + behind.length) - 1 =
        authority.length - host.length - 1 := by omega
    rw [if_neg (by omega), if_neg hall, htake, List.take_append_of_le_length (by omega)]

theorem hostAndPort_append (authority : List Char) (h : '@' ∉ behind) :
    hostAndPort (authority ++ behind) = hostAndPort authority ++ behind := by
  rw [hostAndPort, splitCredentials_append authority h]
  rfl

theorem hostLength_le (brackets : Bool) (cs : List Char) : hostLength brackets cs ≤ cs.length := by
  induction cs generalizing brackets with
  | nil => exact Nat.le_refl _
  | cons c rest ih =>
    rw [hostLength]
    split
    · exact Nat.zero_le _
    · exact Nat.succ_le_succ (ih _)

theorem hostLength_of_no_colon (brackets : Bool) {cs : List Char} (h : ':' ∉ cs) :
    hostLength brackets cs = cs.length := by
  induction cs generalizing brackets with
  | nil => rfl
  | cons c rest ih =>
    rw [List.mem_cons, not_or] at h
    have hc : c ≠ ':' := fun heq => h.1 heq.symm
    rw [hostLength, if_neg (by simp [hc]), ih _ h.2, List.length_cons]

/-- A host ends where it did unless it went to the end. -/
theorem hostLength_append (brackets : Bool) (cs : List Char) (h : ':' ∉ behind) :
    hostLength brackets (cs ++ behind) =
      if hostLength brackets cs = cs.length then cs.length + behind.length
      else hostLength brackets cs := by
  induction cs generalizing brackets with
  | nil =>
    rw [List.nil_append, hostLength_of_no_colon brackets h]
    exact (Nat.zero_add _).symm
  | cons c rest ih =>
    rw [List.cons_append, hostLength, hostLength]
    split
    next hcolon => rw [if_neg (by simp)]
    next hcolon =>
      rw [ih]
      generalize hostLength _ rest = length
      simp only [List.length_cons]
      by_cases hall : length = rest.length
      · rw [if_pos hall, if_pos (by omega)]
        omega
      · rw [if_neg hall, if_neg (by omega)]

/-- A colon ends the host, so what stands behind a port is none of the host. -/
theorem portText_append (hat : '@' ∉ behind) (hcolon : ':' ∉ behind)
    (h : portText authority ≠ []) :
    portText (authority ++ behind) = portText authority ++ behind ∧
      hostText (authority ++ behind) = hostText authority := by
  have hshort : hostLength false (hostAndPort authority) ≠ (hostAndPort authority).length := by
    intro hall
    rw [portText, hall, List.drop_length] at h
    exact h rfl
  have hle := hostLength_le false (hostAndPort authority)
  unfold portText hostText
  rw [hostAndPort_append authority hat, hostLength_append false _ hcolon, if_neg hshort]
  exact ⟨List.drop_append_of_le_length hle, List.take_append_of_le_length hle⟩

/-- Without a port it goes into the host. -/
theorem hostText_append (hat : '@' ∉ behind) (hcolon : ':' ∉ behind)
    (h : portText authority = []) :
    portText (authority ++ behind) = [] ∧
      hostText (authority ++ behind) = hostText authority ++ behind := by
  have hle := hostLength_le false (hostAndPort authority)
  have hall : hostLength false (hostAndPort authority) = (hostAndPort authority).length := by
    have hdrop := List.drop_eq_nil_iff.mp h
    omega
  unfold portText hostText
  rw [hostAndPort_append authority hat, hostLength_append false _ hcolon, if_pos hall, hall,
    List.take_length, ← List.length_append, List.drop_length, List.take_length]
  exact ⟨rfl, rfl⟩

theorem drop_length_takeWhile (keep : Char → Bool) (cs : List Char) :
    cs.drop (cs.takeWhile keep).length = cs.dropWhile keep := by
  have hdrop := congrArg (List.drop (cs.takeWhile keep).length)
    (List.takeWhile_append_dropWhile (p := keep) (l := cs))
  rw [List.drop_left] at hdrop
  exact hdrop.symm

theorem takeWhile_append_of_stop {keep : Char → Bool} {cs : List Char}
    (h : cs.dropWhile keep ≠ []) (ds : List Char) :
    (cs ++ ds).takeWhile keep = cs.takeWhile keep := by
  have hsplit := congrArg List.length (List.takeWhile_append_dropWhile (p := keep) (l := cs))
  have hpos := List.length_pos_iff.mpr h
  rw [List.length_append] at hsplit
  rw [List.takeWhile_append, if_neg (by omega)]

theorem dropWhile_append_of_stop {keep : Char → Bool} {cs : List Char}
    (h : cs.dropWhile keep ≠ []) (ds : List Char) :
    (cs ++ ds).dropWhile keep = cs.dropWhile keep ++ ds := by
  rw [List.dropWhile_append, if_neg (by simpa using h)]

theorem afterPort_eq (authority : List Char) :
    afterPort authority = ((portText authority).drop 1).dropWhile (· ≠ '\\') := by
  rw [afterPort, Nat.add_comm, ← List.drop_drop, portDigits]
  exact drop_length_takeWhile _ _

/-- What a backslash has cut off grows, and the front stays as it was. -/
theorem readFront_append_of_afterPort (hat : '@' ∉ behind) (hcolon : ':' ∉ behind)
    (h : afterPort authority ≠ []) :
    readFront scheme (authority ++ behind) = readFront scheme authority ∧
      afterPort (authority ++ behind) = afterPort authority ++ behind := by
  have hport : portText authority ≠ [] := by
    intro hnil
    rw [afterPort_eq, hnil] at h
    exact h rfl
  obtain ⟨hportText, hhostText⟩ := portText_append hat hcolon hport
  have hdrop : (portText authority ++ behind).drop 1 = (portText authority).drop 1 ++ behind :=
    List.drop_append_of_le_length (List.length_pos_iff.mpr hport)
  rw [afterPort_eq] at h
  have hdigits : portDigits (authority ++ behind) = portDigits authority := by
    rw [portDigits, hportText, hdrop]
    exact takeWhile_append_of_stop h behind
  have hempty : (portText authority ++ behind).isEmpty = (portText authority).isEmpty := by
    obtain ⟨c, rest, hcons⟩ := List.exists_cons_of_ne_nil hport
    rw [hcons]
    rfl
  constructor
  · unfold readFront
    rw [splitCredentials_append authority hat, hhostText, hdigits, hportText, hempty]
  · rw [afterPort_eq, hportText, hdrop, dropWhile_append_of_stop h, afterPort_eq]

theorem readFront_eq_ok {f : Front} (h : readFront scheme authority = .ok f) :
    ∃ host, readHost scheme (hostText authority) = .ok host ∧ f.host = some host ∧
      f.scheme = scheme ∧ parsePort scheme (portDigits authority) = .ok f.port ∧
      (isSpecial scheme = true → hostText authority ≠ []) := by
  unfold readFront at h
  dsimp only at h
  by_cases hempty : (isSpecial scheme && (hostText authority).isEmpty) = true
  · rw [if_pos hempty] at h
    cases h
  rw [if_neg hempty] at h
  cases hhost : readHost scheme (hostText authority) with
  | error e =>
    rw [hhost] at h
    cases h
  | ok host =>
    simp only [hhost, bind, Except.bind] at h
    by_cases hunnamed : host = .domain "" ∧ (!(portText authority).isEmpty) = true
    · rw [if_pos hunnamed] at h
      cases h
    rw [if_neg hunnamed] at h
    cases hport : parsePort scheme (portDigits authority) with
    | error e =>
      rw [hport] at h
      cases h
    | ok port =>
      simp only [hport] at h
      split at h
      · cases h
      · obtain rfl := Except.ok.inj h
        refine ⟨host, rfl, rfl, rfl, rfl, fun hspecial hnil => hempty ?_⟩
        rw [hspecial, hnil]
        rfl

theorem isDigit_of_parsePort {digits : List Char} {port : Option Nat}
    (h : parsePort scheme digits = .ok port) : ∀ c ∈ digits, c.isDigit = true := by
  -- the fold goes on only at a digit
  have hfold : ∀ (n : Nat) (cs : List Char), (∀ c ∈ cs, c.isDigit = true) ∨
      cs.foldlM (fun n c =>
        if c.isDigit then
          let n := 10 * n + (c.toNat - 48)
          if n < 65536 then some n else none
        else none) n = none := by
    intro n cs
    induction cs generalizing n with
    | nil => exact Or.inl (List.forall_mem_nil _)
    | cons c rest ih =>
      rw [List.foldlM_cons]
      cases hc : c.isDigit with
      | false => exact Or.inr rfl
      | true =>
        simp only [if_true]
        split
        · exact (ih _).imp_left fun hrest => List.forall_mem_cons.mpr ⟨hc, hrest⟩
        · exact Or.inr rfl
  rcases hfold 0 digits with hdigits | hnone
  · exact hdigits
  · rw [parsePort, hnone] at h
    cases h

/-- Controls and spaces behind an authority go into its host: a port would not be read with them. -/
theorem readFront_append_of_padding {f : Front} (hpadding : IsPadding behind) (hne : behind ≠ [])
    (hafter : afterPort authority = []) (h : readFront scheme (authority ++ behind) = .ok f) :
    ∃ host, readHost scheme (hostText authority ++ behind) = .ok host ∧ f.host = some host := by
  have hat : '@' ∉ behind := hpadding.notMem (by decide)
  have hcolon : ':' ∉ behind := hpadding.notMem (by decide)
  obtain ⟨host, hhost, hf, -, hport, -⟩ := readFront_eq_ok h
  by_cases hportText : portText authority = []
  · rw [(hostText_append hat hcolon hportText).2] at hhost
    exact ⟨host, hhost, hf⟩
  have hdrop : (portText authority ++ behind).drop 1 = (portText authority).drop 1 ++ behind :=
    List.drop_append_of_le_length (List.length_pos_iff.mpr hportText)
  have hkept : ∀ c ∈ (portText authority).drop 1 ++ behind, decide (c ≠ '\\') = true := by
    rw [afterPort_eq, List.dropWhile_eq_nil_iff] at hafter
    refine List.forall_mem_append.mpr ⟨hafter, fun c hc => ?_⟩
    rw [decide_eq_true_iff]
    rintro rfl
    exact hpadding.notMem (by decide) hc
  have hdigits : portDigits (authority ++ behind) = (portText authority).drop 1 ++ behind := by
    rw [portDigits, (portText_append hat hcolon hportText).1, hdrop]
    exact List.takeWhile_eq_self_iff.mpr hkept
  have hlast := List.getLast_mem hne
  have hdigit : (behind.getLast hne).isDigit = true := by
    rw [hdigits] at hport
    exact isDigit_of_parsePort hport _ (List.mem_append_right _ hlast)
  have hbound : 48 ≤ (behind.getLast hne).toNat := by
    simp only [Char.isDigit, Bool.and_eq_true, decide_eq_true_eq, ge_iff_le,
      UInt32.le_iff_toNat_le] at hdigit
    exact hdigit.1
  have hlow := hpadding _ hlast
  omega

end Behind

end Url
end PoolPage
