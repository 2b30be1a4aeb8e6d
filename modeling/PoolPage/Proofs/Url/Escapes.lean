import PoolPage.Url.Host

/-!
# Escapes and the bytes they stand for

To escape characters and to undo escapes leaves the bytes that undoing them would have given at
once (`unescapeBytes_escapeWhere`), as long as neither the mark of an escape nor a digit of one is
escaped itself.  A text without escapes is its own bytes, and with escapes in it fewer bytes are
left than it has (`hasEscape_toNat_add_length_le`).
-/

namespace PoolPage
namespace Url

/-- The bytes of characters. -/
def bytesOf (cs : List Char) : List UInt8 := cs.flatMap String.utf8EncodeChar

theorem bytesOf_cons (c : Char) (cs : List Char) :
    bytesOf (c :: cs) = String.utf8EncodeChar c ++ bytesOf cs := List.flatMap_cons

theorem length_utf8EncodeChar_pos (c : Char) : 0 < (String.utf8EncodeChar c).length :=
  List.length_pos_iff.mpr String.utf8EncodeChar_ne_nil

theorem length_bytesOf_le_of_sublist {front cs : List Char} (h : front.Sublist cs) :
    (bytesOf front).length ≤ (bytesOf cs).length := by
  induction h with
  | slnil => exact Nat.le_refl _
  | cons c _ ih => rw [bytesOf_cons, List.length_append]; omega
  | cons_cons c _ ih =>
    rw [bytesOf_cons, bytesOf_cons, List.length_append, List.length_append]
    omega

/-- A part of a text with as many bytes is all of it. -/
theorem eq_of_sublist_of_length_bytesOf {front cs : List Char} (h : front.Sublist cs)
    (hbytes : (bytesOf cs).length ≤ (bytesOf front).length) : front = cs := by
  induction h with
  | slnil => rfl
  | cons c hsub _ =>
    have hlength := length_bytesOf_le_of_sublist hsub
    have hpos := length_utf8EncodeChar_pos c
    rw [bytesOf_cons, List.length_append] at hbytes
    omega
  | cons_cons c _ ih =>
    rw [bytesOf_cons, bytesOf_cons, List.length_append, List.length_append] at hbytes
    rw [ih (by omega)]

/-- Bytes are a text just if they are those of its characters. -/
theorem fromUTF8?_eq_some_iff {bytes : List UInt8} {s : String} :
    String.fromUTF8? ⟨bytes.toArray⟩ = some s ↔ bytes = bytesOf s.toList := by
  have hbytes : (⟨bytes.toArray⟩ : ByteArray) = bytes.toByteArray := by
    rw [ByteArray.ext_iff, List.data_toByteArray]
  have hs : s.toByteArray = (bytesOf s.toList).toByteArray := String.utf8Encode_toList.symm
  rw [hbytes]
  constructor
  · intro h
    unfold String.fromUTF8? at h
    split at h
    · obtain rfl := Option.some.inj h
      exact List.toByteArray_inj.mp hs
    · cases h
  · rintro rfl
    rw [← hs, String.fromUTF8?, dif_pos s.isValidUTF8]
    rfl

/-! ## Digits -/

/-- Whether a character is a digit of an escape. -/
def isHexDigit (c : Char) : Bool := (digitIn? 16 c).isSome

/-- The digit of a number below sixteen is one, and gives it back. -/
theorem digitIn?_upperHexDigit {n : Nat} (h : n < 16) : digitIn? 16 (upperHexDigit n) = some n := by
  have hall : ∀ n : Fin 16, digitIn? 16 (upperHexDigit n) = some n.val := by decide
  exact hall ⟨n, h⟩

theorem upperHexDigit_ne_slash {n : Nat} (h : n < 16) : upperHexDigit n ≠ '/' := by
  have hall : ∀ n : Fin 16, upperHexDigit n ≠ '/' := by decide
  exact hall ⟨n, h⟩

theorem toNat_of_isHexDigit {c : Char} (h : isHexDigit c = true) :
    0x30 ≤ c.toNat ∧ c.toNat ≤ 0x66 := by
  rw [isHexDigit, digitIn?] at h
  by_cases hdigit : c.isDigit = true
  · simp only [Char.isDigit, Bool.and_eq_true, decide_eq_true_eq, ge_iff_le,
      UInt32.le_iff_toNat_le] at hdigit
    exact ⟨hdigit.1, Nat.le_trans hdigit.2 (by decide)⟩
  by_cases hsmall : 'a' ≤ c ∧ c ≤ 'f'
  · simp only [Char.le_def, UInt32.le_iff_toNat_le] at hsmall
    exact ⟨Nat.le_trans (by decide) hsmall.1, hsmall.2⟩
  by_cases hcapital : 'A' ≤ c ∧ c ≤ 'F'
  · simp only [Char.le_def, UInt32.le_iff_toNat_le] at hcapital
    exact ⟨Nat.le_trans (by decide) hcapital.1, Nat.le_trans hcapital.2 (by decide)⟩
  · simp [hdigit, hsmall, hcapital] at h

theorem isHexDigit_percent : isHexDigit '%' = false := by decide

/-- Whether a text starts with two digits. -/
def startsWithDigits : List Char → Bool
  | a :: b :: _ => isHexDigit a && isHexDigit b
  | _ => false

theorem startsWithDigits_cons (a : Char) (rest : List Char) :
    startsWithDigits (a :: rest) = (isHexDigit a && rest.head?.any isHexDigit) := by
  cases rest with
  | nil => exact (Bool.and_false _).symm
  | cons => rfl

/-- Whether an escape stands somewhere in a text: the mark with two digits behind it. -/
def hasEscape : List Char → Bool
  | [] => false
  | c :: rest => (c = '%' && startsWithDigits rest) || hasEscape rest

/-! ## Undoing escapes -/

theorem unescapeBytes_escape {a b : Char} {m n : Nat} (ha : digitIn? 16 a = some m)
    (hb : digitIn? 16 b = some n) (rest : List Char) :
    unescapeBytes ('%' :: a :: b :: rest) = UInt8.ofNat (16 * m + n) :: unescapeBytes rest := by
  rw [unescapeBytes, ha, hb]

theorem unescapeBytes_cons_of_ne {c : Char} (h : c ≠ '%') (rest : List Char) :
    unescapeBytes (c :: rest) = String.utf8EncodeChar c ++ unescapeBytes rest := by
  rw [unescapeBytes]
  intro a b tail hc
  exact absurd hc h

/-- A mark that is not followed by two digits stands for itself. -/
theorem unescapeBytes_percent {rest : List Char} (h : startsWithDigits rest = false) :
    unescapeBytes ('%' :: rest) = String.utf8EncodeChar '%' ++ unescapeBytes rest := by
  match rest with
  | [] => rw [unescapeBytes]; simp
  | [a] => rw [unescapeBytes]; simp
  | a :: b :: tail =>
    rw [startsWithDigits, isHexDigit, isHexDigit] at h
    have hbyte : [UInt8.ofNat '%'.toNat] = String.utf8EncodeChar '%' := by decide
    rw [unescapeBytes, ← hbyte]
    cases ha : digitIn? 16 a with
    | none => rfl
    | some m =>
      cases hb : digitIn? 16 b with
      | none => rfl
      | some n => simp [ha, hb] at h

/-- A text gives its characters one by one where no escape starts. -/
theorem unescapeBytes_cons {c : Char} {rest : List Char}
    (h : (c = '%' && startsWithDigits rest) = false) :
    unescapeBytes (c :: rest) = String.utf8EncodeChar c ++ unescapeBytes rest := by
  by_cases hc : c = '%'
  · subst hc
    exact unescapeBytes_percent (by simpa using h)
  · exact unescapeBytes_cons_of_ne hc rest

/-- A text is read from the front: an escape, or another character. -/
theorem unescapeBytes_induction {motive : List Char → Prop} (nil : motive [])
    (escape : ∀ a b rest, isHexDigit a = true → isHexDigit b = true → motive rest →
      motive ('%' :: a :: b :: rest))
    (cons : ∀ c rest, (c = '%' && startsWithDigits rest) = false → motive rest →
      motive (c :: rest)) : ∀ cs, motive cs
  | [] => nil
  | [c] => cons c [] (Bool.and_false _) nil
  | [c, a] => cons c [a] (Bool.and_false _) (cons a [] (Bool.and_false _) nil)
  | c :: a :: b :: rest => by
    cases hstart : (c = '%' && startsWithDigits (a :: b :: rest)) with
    | false => exact cons c _ hstart (unescapeBytes_induction nil escape cons (a :: b :: rest))
    | true =>
      obtain ⟨hc, ha, hb⟩ : c = '%' ∧ isHexDigit a = true ∧ isHexDigit b = true := by
        simpa [startsWithDigits] using hstart
      subst hc
      exact escape a b rest ha hb (unescapeBytes_induction nil escape cons rest)

theorem unescapeBytes_of_not_hasEscape {cs : List Char} (h : hasEscape cs = false) :
    unescapeBytes cs = bytesOf cs := by
  induction cs with
  | nil => rfl
  | cons c rest ih =>
    obtain ⟨hstart, hrest⟩ := Bool.or_eq_false_iff.mp h
    rw [unescapeBytes_cons hstart, ih hrest, bytesOf_cons]

/-- Every escape is longer than the byte it stands for. -/
theorem hasEscape_toNat_add_length_le (cs : List Char) :
    (hasEscape cs).toNat + (unescapeBytes cs).length ≤ (bytesOf cs).length := by
  induction cs using unescapeBytes_induction with
  | nil => exact Nat.le_refl _
  | escape a b rest ha hb ih =>
    obtain ⟨m, hm⟩ := Option.isSome_iff_exists.mp ha
    obtain ⟨n, hn⟩ := Option.isSome_iff_exists.mp hb
    have hlengths := length_utf8EncodeChar_pos a
    have hlengthb := length_utf8EncodeChar_pos b
    have hmark : (String.utf8EncodeChar '%').length = 1 := by decide
    have hone := Bool.toNat_le (hasEscape ('%' :: a :: b :: rest))
    rw [unescapeBytes_escape hm hn, bytesOf_cons, bytesOf_cons, bytesOf_cons]
    simp only [List.length_cons, List.length_append]
    omega
  | cons c rest hstart ih =>
    rw [unescapeBytes_cons hstart, bytesOf_cons, hasEscape, hstart, Bool.false_or]
    simp only [List.length_append]
    omega

/-- What stands behind an escape has no part in it. -/
theorem unescapeBytes_concat {c : Char} (hc : isHexDigit c = false) (cs : List Char) :
    unescapeBytes (cs ++ [c]) = unescapeBytes cs ++ String.utf8EncodeChar c := by
  induction cs using unescapeBytes_induction with
  | nil =>
    have hstart : (decide (c = '%') && startsWithDigits []) = false := Bool.and_false _
    rw [List.nil_append, unescapeBytes_cons hstart]
    exact List.append_nil _
  | escape a b rest ha hb ih =>
    obtain ⟨m, hm⟩ := Option.isSome_iff_exists.mp ha
    obtain ⟨n, hn⟩ := Option.isSome_iff_exists.mp hb
    rw [unescapeBytes_escape hm hn, List.cons_append, List.cons_append, List.cons_append,
      List.cons_append, unescapeBytes_escape hm hn, ih]
  | cons d rest hstart ih =>
    have hdigits : startsWithDigits (rest ++ [c]) = startsWithDigits rest := by
      match rest with
      | [] => rfl
      | [a] => simp [startsWithDigits, hc]
      | a :: b :: _ => rfl
    rw [unescapeBytes_cons hstart, List.cons_append, List.append_assoc, ← ih]
    exact unescapeBytes_cons (hdigits ▸ hstart)

/-! ## Escaping -/

section Escaping

variable {escaped : Char → Bool}

theorem escapeWhere_cons (c : Char) (cs : List Char) :
    escapeWhere escaped (c :: cs) =
      (if escaped c then escapeBytes c else [c]) ++ escapeWhere escaped cs := List.flatMap_cons

theorem escapeWhere_append (cs ds : List Char) :
    escapeWhere escaped (cs ++ ds) = escapeWhere escaped cs ++ escapeWhere escaped ds :=
  List.flatMap_append

theorem escapeBytes_eq_cons (c : Char) : ∃ rest, escapeBytes c = '%' :: rest := by
  obtain ⟨byte, bytes, hbytes⟩ :=
    List.exists_cons_of_ne_nil (String.utf8EncodeChar_ne_nil (c := c))
  exact ⟨_, by rw [escapeBytes, hbytes, List.flatMap_cons, List.cons_append]⟩

theorem length_escapeWhere_le (cs : List Char) : cs.length ≤ (escapeWhere escaped cs).length := by
  induction cs with
  | nil => exact Nat.le_refl _
  | cons c rest ih =>
    obtain ⟨bytes, hbytes⟩ := escapeBytes_eq_cons c
    rw [escapeWhere_cons, List.length_append]
    split
    · rw [hbytes]
      simp only [List.length_cons]
      omega
    · simp only [List.length_cons, List.length_nil]
      omega

theorem slash_notMem_escapeWhere {cs : List Char} (h : '/' ∉ cs) :
    '/' ∉ escapeWhere escaped cs := by
  intro hmem
  obtain ⟨c, hc, hmem⟩ := List.mem_flatMap.mp hmem
  split at hmem
  · obtain ⟨byte, -, hmem⟩ := List.mem_flatMap.mp hmem
    have hbyte := byte.toNat_lt
    simp only [List.mem_cons, List.not_mem_nil, or_false] at hmem
    rcases hmem with hmark | hhigh | hlow
    · exact absurd hmark (by decide)
    · exact upperHexDigit_ne_slash (by omega) hhigh.symm
    · exact upperHexDigit_ne_slash (by omega) hlow.symm
  · obtain rfl := List.mem_singleton.mp hmem
    exact h hc

theorem unescapeBytes_escapes (bytes : List UInt8) (rest : List Char) :
    unescapeBytes ((bytes.flatMap fun byte =>
        ['%', upperHexDigit (byte.toNat / 16), upperHexDigit (byte.toNat % 16)]) ++ rest) =
      bytes ++ unescapeBytes rest := by
  induction bytes with
  | nil => rfl
  | cons byte bytes ih =>
    have hbyte := byte.toNat_lt
    have hvalue : UInt8.ofNat (16 * (byte.toNat / 16) + byte.toNat % 16) = byte := by
      rw [Nat.div_add_mod, UInt8.ofNat_toNat]
    rw [List.flatMap_cons, List.append_assoc, List.cons_append, List.cons_append, List.cons_append,
      List.nil_append, unescapeBytes_escape (digitIn?_upperHexDigit (by omega))
        (digitIn?_upperHexDigit (by omega)), ih, hvalue, List.cons_append]

variable (hmark : escaped '%' = false) (hdigit : ∀ c, isHexDigit c = true → escaped c = false)

include hdigit in
/-- A character that is escaped is no digit, and neither is the mark that replaces it. -/
theorem isHexDigit_head_escapeWhere (cs : List Char) :
    (escapeWhere escaped cs).head?.any isHexDigit = cs.head?.any isHexDigit := by
  cases cs with
  | nil => rfl
  | cons c rest =>
    rw [escapeWhere_cons]
    split
    next hc =>
      obtain ⟨bytes, hbytes⟩ := escapeBytes_eq_cons c
      have hnone : isHexDigit c = false := by
        rw [← Bool.not_eq_true]
        intro h
        rw [hdigit c h] at hc
        cases hc
      rw [hbytes, List.cons_append, List.head?_cons, List.head?_cons, Option.any_some,
        Option.any_some, isHexDigit_percent, hnone]
    next => rfl

include hdigit in
/-- Escaping neither makes nor breaks the digits of an escape. -/
theorem startsWithDigits_escapeWhere (cs : List Char) :
    startsWithDigits (escapeWhere escaped cs) = startsWithDigits cs := by
  cases cs with
  | nil => rfl
  | cons c rest =>
    have hhead := isHexDigit_head_escapeWhere hdigit (c :: rest)
    rw [escapeWhere_cons] at hhead ⊢
    split at hhead
    next hc =>
      obtain ⟨bytes, hbytes⟩ := escapeBytes_eq_cons c
      rw [hbytes, List.cons_append] at hhead
      rw [if_pos hc, hbytes, List.cons_append, startsWithDigits_cons, startsWithDigits_cons]
      rw [List.head?_cons, List.head?_cons, Option.any_some, Option.any_some] at hhead
      rw [← hhead, isHexDigit_percent, Bool.false_and, Bool.false_and]
    next hc =>
      rw [if_neg hc, List.singleton_append, startsWithDigits_cons, startsWithDigits_cons,
        isHexDigit_head_escapeWhere hdigit]

include hmark hdigit in
theorem unescapeBytes_escapeWhere (cs : List Char) :
    unescapeBytes (escapeWhere escaped cs) = unescapeBytes cs := by
  induction cs using unescapeBytes_induction with
  | nil => rfl
  | escape a b rest ha hb ih =>
    obtain ⟨m, hm⟩ := Option.isSome_iff_exists.mp ha
    obtain ⟨n, hn⟩ := Option.isSome_iff_exists.mp hb
    have hkept : escapeWhere escaped ('%' :: a :: b :: rest) =
        '%' :: a :: b :: escapeWhere escaped rest := by
      simp [escapeWhere_cons, hmark, hdigit a ha, hdigit b hb]
    rw [hkept, unescapeBytes_escape hm hn, unescapeBytes_escape hm hn, ih]
  | cons c rest hstart ih =>
    rw [escapeWhere_cons, unescapeBytes_cons hstart, ← ih]
    split
    · exact unescapeBytes_escapes _ _
    · refine unescapeBytes_cons ?_
      show (decide (c = '%') && startsWithDigits (escapeWhere escaped rest)) = false
      rw [startsWithDigits_escapeWhere hdigit, hstart]

end Escaping

/-! ## Escapes in paths -/

/-- No digit of an escape is escaped in a path. -/
theorem isPathEscaped_of_isHexDigit (c : Char) (h : isHexDigit c = true) :
    isPathEscaped c = false := by
  have hbounds := toNat_of_isHexDigit h
  have hcontrol : isControl c = false := by
    rw [isControl, Bool.or_eq_false_iff, decide_eq_false_iff_not, decide_eq_false_iff_not]
    omega
  have hfragment : [' ', '"', '<', '>', '\x60'].any isHexDigit = false := by decide
  have hpath : ['#', '?', '\x7b', '\x7d'].any isHexDigit = false := by decide
  have hnot : ∀ ds : List Char, ds.any isHexDigit = false → ds.contains c = false := by
    intro ds hds
    rw [← Bool.not_eq_true, List.contains_iff_mem]
    exact fun hmem => List.any_eq_false.mp hds c hmem h
  rw [isPathEscaped, isFragmentEscaped, hcontrol, hnot _ hfragment, hnot _ hpath]
  rfl

theorem unescapeBytes_escape_path (cs : List Char) :
    unescapeBytes (escapeWhere isPathEscaped cs) = unescapeBytes cs :=
  unescapeBytes_escapeWhere (by decide) isPathEscaped_of_isHexDigit cs

end Url
end PoolPage
