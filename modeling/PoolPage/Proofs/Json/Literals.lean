import PoolPage.Json.Read
import PoolPage.Proofs.Figure.Plain
import PoolPage.Proofs.Figure.Precision
import PoolPage.Proofs.Number.Prefixes

/-!
# Numbers in JSON texts

A literal is a sign, digits without superfluous zeros, an optional point with digits behind it and
an optional exponent (`Literal.Spells`).  Where a value may end the scan takes all of it
(`Literal.Spells.scanValue_append`).  A finite number is written as a literal that reads back, with
a point or an exponent, so that it is not taken for an integer (`Json.exists_literal_number`).
-/

namespace PoolPage

/-! ## Literals -/

/-- The text of a literal.  It is integral if there is neither a point nor an exponent. -/
inductive Literal.Spells : Literal → List Char → Prop
  | mk {negative : Bool} {whole fraction exponent : List Char} {e : ℤ} (hwhole : IsCanonical whole)
    (hfraction : AllDigits fraction) (hexponent : Numeral.IsExponent e exponent) :
    Literal.Spells ⟨negative, fraction.isEmpty && exponent.isEmpty, ⟨whole, fraction, e⟩⟩
      (Figure.sign negative ++ (whole ++ (pointed fraction ++ exponent)))

namespace Doc

/-- What may stand behind a value: the end of the text or of what holds it, or a comma. -/
def Follows (rest : List Char) : Prop := ∀ c ∈ rest.head?, c = ',' ∨ c = ']' ∨ c = '\x7d'

section

variable {e : ℤ} {whole fraction exponent rest : List Char}

/-- Nothing that stands behind a value goes on with a number. -/
theorem Follows.head (h : Follows rest) :
    ∀ c ∈ rest.head?, c.isDigit = false ∧ c ≠ '.' ∧ c ≠ 'e' ∧ c ≠ 'E' := by
  intro c hc
  obtain rfl | rfl | rfl := h c hc <;> decide

theorem scanFraction_append (hfraction : AllDigits fraction)
    (hrest : ∀ c ∈ rest.head?, c.isDigit = false ∧ c ≠ '.') :
    scanFraction (pointed fraction ++ rest) = .ok (fraction, rest) := by
  cases fraction with
  | nil =>
    show scanFraction rest = _
    unfold scanFraction
    split
    · exact absurd rfl (hrest '.' rfl).2
    · rfl
  | cons d ds =>
    have hscan : scanDigits (d :: ds ++ rest) = (d :: ds, rest) :=
      scanDigits_append hfraction fun c hc => (hrest c hc).1
    show scanFraction ('.' :: (d :: ds ++ rest)) = _
    simp only [scanFraction, hscan]

theorem scanExponent_append {negative : Bool} {sign digits : List Char}
    (hsign : IsSign negative sign) (hdigits : AllDigits digits) (hne : digits ≠ [])
    (hrest : ∀ c ∈ rest.head?, c.isDigit = false) :
    scanExponent (sign ++ digits ++ rest) =
      .ok (if negative then -(ofDigits digits : ℤ) else ofDigits digits, rest) := by
  obtain ⟨d, ds, rfl⟩ := List.exists_cons_of_ne_nil hne
  have hscan : scanSign (sign ++ (d :: ds ++ rest)) = (negative, d :: ds ++ rest) :=
    hsign.scanSign_append fun c hc => by
      cases hc
      exact ne_sign_of_isDigit (hdigits d List.mem_cons_self)
  rw [List.append_assoc]
  simp only [scanExponent, hscan, scanDigits_append hdigits hrest]

/-- An exponent or what stands behind a number ends its digits. -/
theorem head_exponent_append (hexponent : Numeral.IsExponent e exponent) (hrest : Follows rest) :
    ∀ c ∈ (exponent ++ rest).head?, c.isDigit = false ∧ c ≠ '.' := by
  cases hexponent with
  | absent => exact fun c hc => ⟨(hrest.head c hc).1, (hrest.head c hc).2.1⟩
  | present hletter =>
    rintro _ ⟨⟩
    rcases hletter with rfl | rfl <;> decide

/-- A number without its sign is taken to its end. -/
theorem scanUnsigned_append (negative : Bool) (hwhole : IsCanonical whole)
    (hfraction : AllDigits fraction) (hexponent : Numeral.IsExponent e exponent)
    (hrest : Follows rest) :
    scanUnsigned negative (whole ++ (pointed fraction ++ (exponent ++ rest))) =
      .ok (⟨negative, fraction.isEmpty && exponent.isEmpty, ⟨whole, fraction, e⟩⟩, rest) := by
  have hstop := head_exponent_append hexponent hrest
  have hpoint : ∀ c ∈ (pointed fraction ++ (exponent ++ rest)).head?, c.isDigit = false := by
    cases fraction with
    | nil => exact fun c hc => (hstop c hc).1
    | cons =>
      rintro _ ⟨⟩
      rfl
  have hfound := scanFraction_append hfraction hstop
  unfold scanUnsigned
  rw [scanDigits_append hwhole.allDigits hpoint]
  split
  · next heq => exact absurd (congrArg Prod.fst heq) hwhole.ne_nil
  · next heq => exact absurd (congrArg Prod.fst heq) hwhole.ne_nil
  · next heq =>
    obtain ⟨rfl, -⟩ := Prod.mk.inj heq
    exact absurd rfl (hwhole.head (by simp))
  · next heq =>
    obtain ⟨rfl, rfl⟩ := Prod.mk.inj heq
    rw [hfound]
    cases hexponent with
    | absent =>
      rw [List.isEmpty_nil, Bool.and_true]
      cases rest with
      | nil => rfl
      | cons c rest =>
        have hletter := (hrest.head c rfl).2.2
        show (if c = 'e' ∨ c = 'E' then _ else _) = _
        rw [if_neg (not_or.mpr hletter)]
        rfl
    | @present letter _ sign digits hletter hsign hdigits hne =>
      have hscan := scanExponent_append hsign hdigits hne fun c hc => (hrest.head c hc).1
      rw [List.isEmpty_cons, Bool.and_false]
      show (if letter = 'e' ∨ letter = 'E' then
        scanExponent (sign ++ digits ++ rest) >>= _ else _) = _
      rw [if_pos hletter, hscan]
      rfl

/-! ### Values -/

theorem skipSpaces_cons {c : Char} (h : isSpace c = false) (rest : List Char) :
    skipSpaces (c :: rest) = c :: rest :=
  List.dropWhile_cons_of_neg (by rw [h]; exact Bool.false_ne_true)

theorem scanValue_of_isDigit {c : Char} (hc : c.isDigit = true) (fuel : Nat) (rest : List Char) :
    scanValue (fuel + 1) (c :: rest) = scanNumber false (c :: rest) := by
  have hspace : isSpace c = false := by
    refine Bool.eq_false_iff.mpr fun h => ?_
    simp only [isSpace, Bool.or_eq_true, decide_eq_true_eq] at h
    rcases h with ((rfl | rfl) | rfl) | rfl <;> exact nomatch hc
  rw [scanValue, skipSpaces_cons hspace]
  split
  case h_9 heq =>
    obtain ⟨rfl, rfl⟩ := List.cons.inj heq
    exact if_pos hc
  -- The other branches begin with a letter, a sign, a quote or a bracket.
  all_goals
    next heq => cases heq <;> exact nomatch hc

theorem scanValue_sign_append {negative : Bool} {cs : List Char}
    (hcs : ∃ c ∈ cs.head?, c.isDigit = true) (fuel : Nat) :
    scanValue (fuel + 1) (Figure.sign negative ++ cs) = scanNumber negative cs := by
  cases negative with
  | false =>
    obtain ⟨c, hhead, hc⟩ := hcs
    obtain ⟨more, rfl⟩ := List.head?_eq_some_iff.mp hhead
    exact scanValue_of_isDigit hc fuel more
  | true =>
    show scanValue (fuel + 1) ('-' :: cs) = _
    rw [scanValue, skipSpaces_cons rfl]
    rfl

end

end Doc

/-- A literal is a value to its end. -/
theorem Literal.Spells.scanValue_append {l : Literal} {cs rest : List Char} (h : l.Spells cs)
    (hrest : Doc.Follows rest) (fuel : Nat) :
    Doc.scanValue (fuel + 1) (cs ++ rest) = (.number l, some rest) := by
  obtain ⟨hwhole, hfraction, hexponent⟩ := h
  obtain ⟨c, more, rfl⟩ := List.exists_cons_of_ne_nil hwhole.ne_nil
  have hc := hwhole.allDigits c List.mem_cons_self
  rw [List.append_assoc, List.append_assoc, List.append_assoc,
    Doc.scanValue_sign_append ⟨c, rfl, hc⟩, Doc.scanNumber,
    Doc.scanUnsigned_append _ hwhole hfraction hexponent hrest]

/-! ## Writing -/

/-- A text of a number with a point or an exponent, and its value. -/
def IsPointed (x : ℚ) (cs : List Char) : Prop :=
  ∃ whole fraction exponent e, cs = whole ++ (pointed fraction ++ exponent) ∧
    IsCanonical whole ∧ AllDigits fraction ∧ Numeral.IsExponent e exponent ∧
    ¬(fraction = [] ∧ exponent = []) ∧ (Numeral.mk whole fraction e).toDecimal.value = x

section

variable {places n : Nat} {cs : List Char} {d : Decimal}

theorem Positional.isPointed (h : Positional places n cs) (hplaces : places ≠ 0) :
    IsPointed (n / (10 ^ places : ℕ)) cs := by
  obtain ⟨whole, fraction, rfl, hwhole, hfraction, rfl, rfl⟩ := h
  refine ⟨whole, fraction, [], 0, by rw [List.append_nil], hwhole, hfraction, .absent, ?_, ?_⟩
  · rintro ⟨rfl, -⟩
    exact hplaces rfl
  · rw [Numeral.toDecimal, Decimal.value, zero_sub, zpow_neg, zpow_natCast, Nat.cast_pow,
      Nat.cast_ofNat, div_eq_mul_inv]

/-- A whole number with a zero behind a point. -/
theorem Positional.point_zero (h : Positional 0 n cs) :
    Positional 1 (n * 10) (cs ++ ".0".toList) := by
  obtain ⟨whole, fraction, rfl, hwhole, -, hlength, rfl⟩ := h
  obtain rfl := List.length_eq_zero_iff.mp hlength
  refine ⟨whole, ['0'], ?_, hwhole, .replicate_zero 1, rfl, ?_⟩
  · rw [pointed, List.append_nil]
    rfl
  · rw [List.append_nil, ofDigits_append]
    rfl

theorem isPointed_positional (d : Decimal) :
    IsPointed d.value (d.positional ++ if 0 ≤ d.exponent then ".0".toList else []) := by
  have hpositional : Positional _ _ d.positional := positional_fixedDigits _ _
  rw [Decimal.value_eq]
  split_ifs with hexponent
  · have hplaces : (-d.exponent).toNat = 0 := by omega
    rw [hplaces] at hpositional ⊢
    have hvalue (n : ℕ) : (n : ℚ) / (10 ^ 0 : ℕ) = (n * 10 : ℕ) / (10 ^ 1 : ℕ) := by
      push_cast
      ring
    rw [hvalue]
    exact hpositional.point_zero.isPointed Nat.one_ne_zero
  · rw [List.append_nil]
    exact hpositional.isPointed (by omega)

theorem isExponent_written (e : ℤ) :
    Numeral.IsExponent e ('e' :: (if e < 0 then '-' else '+') :: digitsOf e.natAbs) := by
  have hdigits := AllDigits.digitsOf e.natAbs
  have hne := digitsOf_ne_nil e.natAbs
  split_ifs with hsign
  · have h := Numeral.IsExponent.present (.inl rfl) .minus hdigits hne
    have hvalue : -(e.natAbs : ℤ) = e := by omega
    rwa [ofDigits_digitsOf, if_pos rfl, hvalue] at h
  · have h := Numeral.IsExponent.present (.inl rfl) .plus hdigits hne
    have hvalue : (e.natAbs : ℤ) = e := by omega
    rwa [ofDigits_digitsOf, if_neg Bool.false_ne_true, hvalue] at h

theorem isPointed_writeScientific (h : 0 < d.significand) :
    IsPointed d.value (Json.writeScientific d) := by
  obtain ⟨digits, hdigits⟩ := exists_length_digitsOf d.significand
  obtain ⟨hlow, hhigh⟩ := le_of_length_digitsOf h hdigits
  obtain ⟨first, rest, hfirst, hmantissa⟩ := Figure.mantissa_eq (Nat.succ_pos digits) hlow hhigh
  have hall : AllDigits (first :: rest) := hfirst ▸ .digitsOf d.significand
  obtain ⟨hdigit, hrest⟩ := List.forall_mem_cons.mp hall
  have hlength : rest.length = digits := by
    rw [hfirst] at hdigits
    exact Nat.succ.inj hdigits
  refine ⟨[first], rest, _, d.order, ?_, ⟨?_, List.cons_ne_nil _ _, ?_⟩, hrest,
    isExponent_written d.order, ?_, ?_⟩
  · rw [Json.writeScientific, hdigits, hmantissa]
    rfl
  · exact List.forall_mem_singleton.mpr hdigit
  · exact fun hlength => absurd hlength (Nat.lt_irrefl 1)
  · rintro ⟨-, hnil⟩
    exact List.cons_ne_nil _ _ hnil
  · have horder : d.order - rest.length = d.exponent := by
      rw [Decimal.order, hdigits, hlength]
      omega
    rw [Numeral.toDecimal, horder, List.singleton_append, ← hfirst, ofDigits_digitsOf]

end

/-- The text of a magnitude is a number that is rounded to it. -/
theorem exists_isPointed (rank : Fin rankLimit) :
    ∃ x cs, IsNearestRank x rank ∧ IsPointed x cs ∧
      ∀ negative, Json.writeNumber (.finite negative rank) = Figure.sign negative ++ cs := by
  rcases Nat.eq_zero_or_pos rank.val with hzero | hrank
  · refine ⟨0, "0.0".toList, ?_, ?_, ?_⟩
    · rw [hzero, ← magnitude_zero]
      exact isNearestRank_magnitude 0
    · have hpositional : Positional 1 0 "0.0".toList := positional_fixedDigits 0 1
      have hpointed := hpositional.isPointed Nat.one_ne_zero
      rwa [Nat.cast_zero, zero_div] at hpointed
    · intro negative
      simp only [Json.writeNumber, if_pos hzero]
  · have hin := isIn_shortest .toEven hrank
    have hwrite (negative : Bool) : Json.writeNumber (.finite negative rank) =
        Figure.sign negative ++
          if -5 ≤ (shortest .toEven rank).order ∧ (shortest .toEven rank).order ≤ 15 then
            (shortest .toEven rank).positional ++
              if 0 ≤ (shortest .toEven rank).exponent then ".0".toList else []
          else Json.writeScientific (shortest .toEven rank) := by
      simp only [Json.writeNumber, if_neg hrank.ne']
    refine ⟨_, _, hin.isNearestRank, ?_, hwrite⟩
    split
    · exact isPointed_positional _
    · exact isPointed_writeScientific (hin.significand_pos hrank)

namespace Json

/-- A finite number has a text that reads back, and not as an integer. -/
theorem exists_literal_number {x : Binary64} (h : x.isFinite = true) :
    ∃ l : Literal, l.Spells (writeNumber x) ∧ ofLiteral? l = some (number x) := by
  cases x with
  | nan => exact nomatch h
  | infinite => exact nomatch h
  | finite negative rank =>
    obtain ⟨x, cs, hnearest, hcs, hwrite⟩ := exists_isPointed rank
    obtain ⟨whole, fraction, exponent, e, rfl, hwhole, hfraction, hexponent, hpointed, rfl⟩ := hcs
    rw [hwrite negative]
    refine ⟨_, .mk hwhole hfraction hexponent, ?_⟩
    have hintegral : (fraction.isEmpty && exponent.isEmpty) = false :=
      Bool.eq_false_iff.mpr (by simpa using hpointed)
    have hread : (Numeral.mk whole fraction e).toBinary64 negative = .finite negative rank := by
      obtain ⟨rank', hnearest', hread⟩ :=
        (Numeral.mk whole fraction e).toDecimal.exists_isNearestRank negative
      rw [Numeral.toBinary64, hread, hnearest'.unique hnearest]
      exact Binary64.ofRank_of_lt negative rank.isLt
    simp only [ofLiteral?, Literal.toInt?, hintegral, nearest?, hread]
    rfl

/-- The text of an integer. -/
theorem spells_digitsOf (negative : Bool) (n : Nat) :
    (Literal.mk negative true ⟨digitsOf n, [], 0⟩).Spells (Figure.sign negative ++ digitsOf n) := by
  have h : Literal.Spells _ (Figure.sign negative ++ (digitsOf n ++ (pointed [] ++ []))) :=
    .mk (isCanonical_digitsOf n) nofun .absent
  rwa [pointed, List.append_nil, List.append_nil] at h

/-- An integer in the range of 64-bit integers, signed or not, has a text that reads back. -/
theorem exists_literal_int {n : ℤ} (hlow : -(signedLimit : ℤ) ≤ n) (hhigh : n < wordLimit) :
    ∃ l : Literal, l.Spells (toString n).toList ∧ ofLiteral? l = some (int n) := by
  rw [Figure.toList_toString_int]
  refine ⟨_, spells_digitsOf _ _, ?_⟩
  have hint : Literal.toInt? ⟨n < 0, true, ⟨digitsOf n.natAbs, [], 0⟩⟩ = some n := by
    simp only [Literal.toInt?, ofDigits_digitsOf, Bool.not_true, Bool.false_eq_true, if_false]
    split
    · next hsign =>
      have hneg : n < 0 := of_decide_eq_true hsign
      rw [if_neg (by omega), Option.some_inj]
      omega
    · next hsign =>
      have hpos : ¬n < 0 := fun h => hsign (decide_eq_true h)
      rw [Option.some_inj]
      omega
  simp only [ofLiteral?, hint, if_pos (And.intro hlow hhigh)]

end Json
end PoolPage
