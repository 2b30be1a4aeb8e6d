import PoolPage.Proofs.Number.Reading

/-!
# The longest numeral at the front of a text

The grammar of unsigned numerals (`Numeral.Spells`), and that the scan from left to right takes the
longest of them: what it takes is one (`Numeral.exists_of_scan?`), and behind any numeral at the
front of a text it leaves no more than what follows there (`Numeral.Spells.scan?_append`).
-/

namespace PoolPage

/-! ## Signs -/

/-- An optional sign, and whether it is a minus. -/
inductive IsSign : Bool → List Char → Prop
  | absent : IsSign false []
  | plus : IsSign false ['+']
  | minus : IsSign true ['-']

theorem exists_of_scanSign {cs rest : List Char} {negative : Bool}
    (h : scanSign cs = (negative, rest)) : ∃ sign, cs = sign ++ rest ∧ IsSign negative sign := by
  unfold scanSign at h
  split at h <;> cases h
  · exact ⟨['-'], rfl, .minus⟩
  · exact ⟨['+'], rfl, .plus⟩
  · exact ⟨[], rfl, .absent⟩

theorem IsSign.scanSign_append {negative : Bool} {sign rest : List Char} (h : IsSign negative sign)
    (hrest : ∀ c ∈ rest.head?, c ≠ '-' ∧ c ≠ '+') :
    scanSign (sign ++ rest) = (negative, rest) := by
  cases h with
  | plus => rfl
  | minus => rfl
  | absent =>
    rw [List.nil_append]
    unfold scanSign
    split
    · exact absurd rfl (hrest '-' rfl).1
    · exact absurd rfl (hrest '+' rfl).2
    · rfl

theorem ne_sign_of_isDigit {c : Char} (h : c.isDigit = true) : c ≠ '-' ∧ c ≠ '+' := by
  constructor <;> rintro rfl <;> exact nomatch h

/-! ## Digits -/

theorem scanDigits_eq (cs : List Char) :
    cs = (scanDigits cs).1 ++ (scanDigits cs).2 ∧ AllDigits (scanDigits cs).1 :=
  ⟨List.takeWhile_append_dropWhile.symm, List.all_eq_true.mp List.all_takeWhile⟩

/-- Digits in front are taken, with those that follow. -/
theorem scanDigits_append_left {digits : List Char} (h : AllDigits digits) (rest : List Char) :
    scanDigits (digits ++ rest) = (digits ++ (scanDigits rest).1, (scanDigits rest).2) := by
  unfold scanDigits
  rw [List.takeWhile_append_of_pos h, List.dropWhile_append_of_pos h]

theorem length_scanDigits_le (cs : List Char) : (scanDigits cs).2.length ≤ cs.length :=
  (List.dropWhile_suffix _).length_le

namespace Numeral

/-! ## The grammar -/

/-- The text of the digits before and behind a point.  The point may be left out if there are none
behind it, and there is a digit at least. -/
inductive IsMantissa : List Char → List Char → List Char → Prop
  | whole {ws : List Char} : AllDigits ws → ws ≠ [] → IsMantissa ws [] ws
  | pointed {ws fs : List Char} :
      AllDigits ws → ws ≠ [] → AllDigits fs → IsMantissa ws fs (ws ++ '.' :: fs)
  | bare {fs : List Char} : AllDigits fs → fs ≠ [] → IsMantissa [] fs ('.' :: fs)

/-- The text of an optional exponent. -/
inductive IsExponent : ℤ → List Char → Prop
  | absent : IsExponent 0 []
  | present {letter : Char} {negative : Bool} {sign digits : List Char} :
      letter = 'e' ∨ letter = 'E' → IsSign negative sign → AllDigits digits → digits ≠ [] →
        IsExponent (if negative then -(ofDigits digits : ℤ) else ofDigits digits)
          (letter :: (sign ++ digits))

/-- A text of the parts of a numeral. -/
def Spells (n : Numeral) (cs : List Char) : Prop :=
  ∃ mantissa exponent, IsMantissa n.whole n.fraction mantissa ∧ IsExponent n.exponent exponent ∧
    cs = mantissa ++ exponent

/-! ## What is taken -/

section

variable {whole fraction cs rest : List Char} {e : ℤ}

theorem exists_of_scanFraction (h : scanFraction whole cs = (fraction, rest)) :
    fraction = [] ∧ cs = rest ∨
      cs = '.' :: (fraction ++ rest) ∧ AllDigits fraction ∧ (whole = [] → fraction ≠ []) := by
  unfold scanFraction at h
  split at h
  · next after =>
    obtain ⟨hsplit, hdigits⟩ := scanDigits_eq after
    simp only at h
    split at h
    · next hempty =>
      cases h
      exact .inl ⟨rfl, rfl⟩
    · next hsome =>
      cases h
      refine .inr ⟨congrArg ('.' :: ·) hsplit, hdigits, ?_⟩
      rintro rfl hnil
      rw [hnil] at hsome
      exact hsome rfl
  · cases h
    exact .inl ⟨rfl, rfl⟩

theorem exists_of_exponentDigits? (h : exponentDigits? cs = some (e, rest)) :
    ∃ negative sign digits, cs = sign ++ (digits ++ rest) ∧ IsSign negative sign ∧
      AllDigits digits ∧ digits ≠ [] ∧
      e = if negative then -(ofDigits digits : ℤ) else ofDigits digits := by
  obtain ⟨⟨negative, unsigned⟩, hscan⟩ : ∃ r, scanSign cs = r := ⟨_, rfl⟩
  obtain ⟨sign, hcs, hsign⟩ := exists_of_scanSign hscan
  obtain ⟨hsplit, hdigits⟩ := scanDigits_eq unsigned
  simp only [exponentDigits?, hscan] at h
  split at h
  · exact nomatch h
  · next digits _ hne hfound =>
    cases h
    rw [hfound] at hsplit hdigits
    exact ⟨negative, sign, digits, by rw [hcs, hsplit], hsign, hdigits, hne, rfl⟩

theorem exists_of_scanExponent (h : scanExponent cs = (e, rest)) :
    ∃ exponent, cs = exponent ++ rest ∧ IsExponent e exponent := by
  have hnone (heq : (0, cs) = (e, rest)) :
      ∃ exponent, cs = exponent ++ rest ∧ IsExponent e exponent := by
    cases heq
    exact ⟨[], rfl, .absent⟩
  unfold scanExponent at h
  split at h
  · next letter after =>
    split at h
    · next hletter =>
      cases hfound : exponentDigits? after with
      | none =>
        rw [hfound] at h
        exact hnone h
      | some found =>
        rw [hfound] at h
        obtain ⟨negative, sign, digits, rfl, hsign, hdigits, hne, rfl⟩ :=
          exists_of_exponentDigits? (hfound.trans (congrArg some h))
        refine ⟨letter :: (sign ++ digits), ?_, .present hletter hsign hdigits hne⟩
        rw [List.cons_append, List.append_assoc]
    · exact hnone h
  · exact hnone h

/-- What is taken up to an exponent is a mantissa, if there is a digit. -/
theorem exists_mantissa (hwhole : AllDigits whole)
    (h : scanFraction whole cs = (fraction, rest)) (hsome : ¬(whole = [] ∧ fraction = [])) :
    ∃ mantissa, whole ++ cs = mantissa ++ rest ∧ IsMantissa whole fraction mantissa := by
  rcases exists_of_scanFraction h with ⟨rfl, rfl⟩ | ⟨rfl, hfraction, hne⟩
  · exact ⟨whole, rfl, .whole hwhole fun hnil => hsome ⟨hnil, rfl⟩⟩
  · refine ⟨whole ++ '.' :: fraction, by rw [List.append_assoc, List.cons_append], ?_⟩
    by_cases hnil : whole = []
    · rw [hnil]
      exact .bare hfraction (hne hnil)
    · exact .pointed hwhole hnil hfraction

theorem scan?_eq {after : List Char} (hwhole : scanDigits cs = (whole, after))
    (hfraction : scanFraction whole after = (fraction, rest)) :
    scan? cs =
      if whole = [] ∧ fraction = [] then none
      else some (⟨whole, fraction, (scanExponent rest).1⟩, (scanExponent rest).2) := by
  simp only [scan?, hwhole, hfraction, Bool.and_eq_true, List.isEmpty_iff]

/-- What is taken is a numeral with the parts that are found. -/
theorem exists_of_scan? {n : Numeral} (h : scan? cs = some (n, rest)) :
    ∃ text, cs = text ++ rest ∧ n.Spells text := by
  obtain ⟨⟨whole, after⟩, hwhole⟩ : ∃ r, scanDigits cs = r := ⟨_, rfl⟩
  obtain ⟨⟨fraction, behind⟩, hfraction⟩ : ∃ r, scanFraction whole after = r := ⟨_, rfl⟩
  obtain ⟨⟨e, last⟩, hexponent⟩ : ∃ r, scanExponent behind = r := ⟨_, rfl⟩
  obtain ⟨hsplit, hdigits⟩ := scanDigits_eq cs
  rw [hwhole] at hsplit hdigits
  rw [scan?_eq hwhole hfraction, hexponent] at h
  split at h
  · exact nomatch h
  · next hsome =>
    cases h
    obtain ⟨mantissa, hmantissa, hspelled⟩ := exists_mantissa hdigits hfraction hsome
    obtain ⟨exponent, rfl, hpresent⟩ := exists_of_scanExponent hexponent
    refine ⟨mantissa ++ exponent, ?_, mantissa, exponent, hspelled, hpresent, rfl⟩
    rw [hsplit, hmantissa, List.append_assoc]

end

/-! ## Nothing longer -/

section

variable {whole fraction cs mantissa exponent : List Char} {e : ℤ}

theorem length_scanFraction_le (whole cs : List Char) :
    (scanFraction whole cs).2.length ≤ cs.length := by
  obtain ⟨⟨fraction, rest⟩, h⟩ : ∃ r, scanFraction whole cs = r := ⟨_, rfl⟩
  rw [h]
  rcases exists_of_scanFraction h with ⟨-, rfl⟩ | ⟨rfl, -⟩
  · exact le_refl _
  · simp only [List.length_cons, List.length_append]
    omega

theorem length_scanExponent_le (cs : List Char) : (scanExponent cs).2.length ≤ cs.length := by
  obtain ⟨⟨e, rest⟩, h⟩ : ∃ r, scanExponent cs = r := ⟨_, rfl⟩
  obtain ⟨exponent, rfl, -⟩ := exists_of_scanExponent h
  rw [h, List.length_append]
  exact Nat.le_add_left _ _

/-- An exponent in front is taken, and only digits with it. -/
theorem IsExponent.scanExponent_append (h : IsExponent e exponent) (rest : List Char) :
    (scanExponent (exponent ++ rest)).2.length ≤ rest.length ∧
      (rest = [] → scanExponent (exponent ++ rest) = (e, [])) := by
  cases h with
  | absent => exact ⟨length_scanExponent_le rest, fun hnil => by rw [hnil]; rfl⟩
  | @present letter negative sign digits hletter hsign hdigits hne =>
    obtain ⟨d, ds, rfl⟩ := List.exists_cons_of_ne_nil hne
    have hscan : scanSign (sign ++ (d :: ds ++ rest)) = (negative, d :: ds ++ rest) :=
      hsign.scanSign_append fun c hc => by
        cases hc
        exact ne_sign_of_isDigit (hdigits d List.mem_cons_self)
    have hfound : exponentDigits? (sign ++ (d :: ds ++ rest)) =
        some (if negative then -(ofDigits (d :: ds ++ (scanDigits rest).1) : ℤ)
          else ofDigits (d :: ds ++ (scanDigits rest).1), (scanDigits rest).2) := by
      have htaken : scanDigits (d :: ds ++ rest) =
          (d :: (ds ++ (scanDigits rest).1), (scanDigits rest).2) :=
        scanDigits_append_left hdigits rest
      simp only [exponentDigits?, hscan, htaken]
      rfl
    have hexponent : scanExponent (letter :: (sign ++ d :: ds) ++ rest) =
        (if negative then -(ofDigits (d :: ds ++ (scanDigits rest).1) : ℤ)
          else ofDigits (d :: ds ++ (scanDigits rest).1), (scanDigits rest).2) := by
      rw [List.cons_append, List.append_assoc, scanExponent, if_pos hletter, hfound,
        Option.getD_some]
    rw [hexponent]
    refine ⟨length_scanDigits_le rest, ?_⟩
    rintro rfl
    have hnil : scanDigits [] = ([], []) := rfl
    rw [hnil, List.append_nil]

/-- An exponent in front of a text starts with its letter. -/
theorem IsExponent.head_append (h : IsExponent e exponent) {rest : List Char}
    (hstop : ¬(exponent = [] ∧ rest ≠ [])) :
    ∀ c ∈ (exponent ++ rest).head?, c.isDigit = false ∧ c ≠ '.' := by
  intro c hc
  cases h with
  | absent =>
    rw [not_and, not_not] at hstop
    rw [hstop rfl] at hc
    exact nomatch hc
  | present hletter =>
    cases hc
    rcases hletter with rfl | rfl <;> decide

/-- The three forms of a mantissa are two: without a point, and with one. -/
theorem IsMantissa.eq_or_eq (h : IsMantissa whole fraction mantissa) :
    AllDigits whole ∧ AllDigits fraction ∧
      (mantissa = whole ∧ fraction = [] ∧ whole ≠ [] ∨
        mantissa = whole ++ '.' :: fraction ∧ ¬(whole = [] ∧ fraction = [])) := by
  cases h with
  | whole hdigits hne => exact ⟨hdigits, nofun, .inl ⟨rfl, rfl, hne⟩⟩
  | pointed hdigits hne hfraction =>
    exact ⟨hdigits, hfraction, .inr ⟨rfl, fun hnil => hne hnil.1⟩⟩
  | bare hfraction hne => exact ⟨nofun, hfraction, .inr ⟨rfl, fun hnil => hne hnil.2⟩⟩

/-- A point and the digits in front are taken, with those that follow. -/
theorem scanFraction_point (hfraction : AllDigits fraction)
    (hne : ¬(whole = [] ∧ fraction = [])) (rest : List Char) :
    scanFraction whole ('.' :: (fraction ++ rest)) =
      (fraction ++ (scanDigits rest).1, (scanDigits rest).2) := by
  have hsome : ¬((whole.isEmpty && (fraction ++ (scanDigits rest).1).isEmpty) = true) := by
    rw [Bool.and_eq_true, List.isEmpty_iff, List.isEmpty_iff, List.append_eq_nil_iff]
    exact fun hnil => hne ⟨hnil.1, hnil.2.1⟩
  simp only [scanFraction, scanDigits_append_left hfraction rest]
  exact if_neg hsome

theorem scanDigits_point (hwhole : AllDigits whole) (rest : List Char) :
    scanDigits (whole ++ '.' :: rest) = (whole, '.' :: rest) :=
  scanDigits_append hwhole fun c hc => by cases hc; rfl

/-- A mantissa in front is taken as it is, if no digit and no point follows. -/
theorem IsMantissa.scan_append (h : IsMantissa whole fraction mantissa) {rest : List Char}
    (hrest : ∀ c ∈ rest.head?, c.isDigit = false ∧ c ≠ '.') :
    ∃ after, scanDigits (mantissa ++ rest) = (whole, after) ∧
      scanFraction whole after = (fraction, rest) := by
  obtain ⟨hwhole, hfraction, ⟨rfl, rfl, -⟩ | ⟨rfl, hne⟩⟩ := h.eq_or_eq
  · refine ⟨rest, scanDigits_append hwhole fun c hc => (hrest c hc).1, ?_⟩
    unfold scanFraction
    split
    · exact absurd rfl (hrest '.' rfl).2
    · rfl
  · have hstop : scanDigits rest = ([], rest) :=
      @scanDigits_append [] rest nofun fun c hc => (hrest c hc).1
    refine ⟨'.' :: (fraction ++ rest), ?_, ?_⟩
    · rw [List.append_assoc, List.cons_append, scanDigits_point hwhole]
    · rw [scanFraction_point hfraction hne, hstop, List.append_nil]

/-- A mantissa in front is taken, perhaps with more. -/
theorem IsMantissa.exists_scan_append (h : IsMantissa whole fraction mantissa)
    (rest : List Char) :
    ∃ whole' after fraction' behind, scanDigits (mantissa ++ rest) = (whole', after) ∧
      scanFraction whole' after = (fraction', behind) ∧ behind.length ≤ rest.length ∧
      ¬(whole' = [] ∧ fraction' = []) := by
  obtain ⟨hwhole, hfraction, ⟨rfl, rfl, hne⟩ | ⟨rfl, hne⟩⟩ := h.eq_or_eq
  · refine ⟨_, _, _, _, scanDigits_append_left hwhole rest, rfl, ?_, ?_⟩
    · exact (length_scanFraction_le _ _).trans (length_scanDigits_le rest)
    · exact fun hnil => hne (List.append_eq_nil_iff.mp hnil.1).1
  · refine ⟨whole, '.' :: (fraction ++ rest), _, _, ?_, scanFraction_point hfraction hne rest,
      length_scanDigits_le rest, ?_⟩
    · rw [List.append_assoc, List.cons_append, scanDigits_point hwhole]
    · exact fun hnil => hne ⟨hnil.1, (List.append_eq_nil_iff.mp hnil.2).1⟩

theorem IsMantissa.not_empty (h : IsMantissa whole fraction mantissa) :
    ¬(whole = [] ∧ fraction = []) := by
  obtain ⟨-, -, ⟨-, -, hne⟩ | ⟨-, hne⟩⟩ := h.eq_or_eq
  · exact fun hnil => hne hnil.1
  · exact hne

/-- A numeral starts with a digit or a point. -/
theorem Spells.exists_head {n : Numeral} {text : List Char} (h : n.Spells text) :
    ∃ c rest, text = c :: rest ∧ (c.isDigit = true ∨ c = '.') := by
  obtain ⟨mantissa, exponent, hmantissa, -, rfl⟩ := h
  obtain ⟨hwhole, -, hform⟩ := hmantissa.eq_or_eq
  cases hcs : n.whole with
  | nil =>
    rcases hform with ⟨-, -, hne⟩ | ⟨rfl, -⟩
    · exact absurd hcs hne
    · rw [hcs]
      exact ⟨_, _, rfl, .inr rfl⟩
  | cons c others =>
    have hdigit := hwhole c (by rw [hcs]; exact List.mem_cons_self)
    rcases hform with ⟨rfl, -, -⟩ | ⟨rfl, -⟩ <;> rw [hcs] <;> exact ⟨_, _, rfl, .inl hdigit⟩

/-- Behind a numeral at the front of a text no more is left than what follows there, and the text of
a numeral is read as its parts. -/
theorem Spells.scan?_append {n : Numeral} {text : List Char} (h : n.Spells text)
    (rest : List Char) :
    ∃ n' left, scan? (text ++ rest) = some (n', left) ∧ left.length ≤ rest.length ∧
      (rest = [] → n' = n) := by
  obtain ⟨mantissa, exponent, hmantissa, hexponent, rfl⟩ := h
  by_cases hshort : exponent = [] ∧ rest ≠ []
  · -- More digits, a point or an exponent may follow.
    obtain ⟨rfl, hne⟩ := hshort
    obtain ⟨whole, after, fraction, behind, hdigits, hfraction, hle, hsome⟩ :=
      hmantissa.exists_scan_append rest
    rw [List.append_nil]
    refine ⟨_, _, (scan?_eq hdigits hfraction).trans (if_neg hsome), ?_, fun hnil => ?_⟩
    · exact (length_scanExponent_le behind).trans hle
    · exact absurd hnil hne
  · obtain ⟨after, hdigits, hfraction⟩ := hmantissa.scan_append (hexponent.head_append hshort)
    obtain ⟨hle, hexact⟩ := hexponent.scanExponent_append rest
    rw [List.append_assoc]
    refine ⟨_, _, (scan?_eq hdigits hfraction).trans (if_neg hmantissa.not_empty), hle, ?_⟩
    intro hnil
    rw [hexact hnil]

end

end Numeral
end PoolPage
