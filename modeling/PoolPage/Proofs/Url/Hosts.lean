import PoolPage.Proofs.Url.Authorities
import PoolPage.Proofs.Url.Escapes

/-!
# Controls and spaces at the end of a host

A control or a space goes through everything that is done to a domain name: no escape takes it up
(`unescapeBytes_concat`), it stands for itself, it is not put together with what is in front of it
(`composed_concat`), and it stays at the end of the last label.  There it is forbidden, or no digit
of an encoded label.  So a host of a special scheme is refused with one at its end
(`parseHost_of_padding`), and another host gets longer (`readHost_append_ne`).
-/

namespace PoolPage

/-! ## Texts in normal form -/

section Composing

variable {c : Char}

theorem combiningClass_of_le_space (h : c.toNat ≤ 0x20) : combiningClass c = 0 := if_pos (by omega)

theorem decomposed_of_le_space (h : c.toNat ≤ 0x20) : decomposed c = [c] := if_pos (by omega)

theorem placeMark_concat (h : c.toNat ≤ 0x20) (d : Char) (cs : List Char) :
    placeMark d (cs ++ [c]) = placeMark d cs ++ [c] := by
  induction cs with
  | nil =>
    have hcons : placeMark d [c] = if 0 < combiningClass c ∧ combiningClass c < combiningClass d
        then c :: placeMark d [] else [d, c] := rfl
    rw [List.nil_append, hcons, combiningClass_of_le_space h, if_neg (by omega)]
    rfl
  | cons e rest ih =>
    rw [List.cons_append, placeMark, placeMark, ih]
    split <;> rfl

theorem inMarkOrder_concat (h : c.toNat ≤ 0x20) (cs : List Char) :
    inMarkOrder (cs ++ [c]) = inMarkOrder cs ++ [c] := by
  induction cs with
  | nil => rfl
  | cons d rest ih =>
    have hcons : ∀ e es, inMarkOrder (e :: es) = placeMark e (inMarkOrder es) := fun _ _ => rfl
    rw [List.cons_append, hcons, hcons, ih, placeMark_concat h]

theorem OpenCluster.join?_of_le_space (h : c.toNat ≤ 0x20) (cluster : OpenCluster) :
    cluster.join? c = none := by
  have hnone : compose? cluster.start c = none := if_pos (by omega)
  unfold join?
  split
  · rw [hnone]
    rfl
  · rfl

theorem composeFrom_concat (h : c.toNat ≤ 0x20) (cluster : OpenCluster) (cs : List Char) :
    composeFrom cluster (cs ++ [c]) = composeFrom cluster cs ++ [c] := by
  induction cs generalizing cluster with
  | nil =>
    simp only [List.nil_append, composeFrom, OpenCluster.join?_of_le_space h,
      combiningClass_of_le_space h, if_true]
    rfl
  | cons d rest ih =>
    rw [List.cons_append, composeFrom, composeFrom]
    split
    · exact ih _
    · split
      · rw [ih, List.append_assoc]
      · exact ih _

theorem compose_eq (cs : List Char) :
    compose cs = cs.takeWhile (fun d => combiningClass d ≠ 0) ++
      match cs.dropWhile (fun d => combiningClass d ≠ 0) with
      | [] => []
      | d :: rest => composeFrom ⟨d, []⟩ rest := by
  unfold compose
  simp only [Url.drop_length_takeWhile]
  cases cs.dropWhile (fun d => decide (combiningClass d ≠ 0)) with
  | nil => exact (List.append_nil _).symm
  | cons => rfl

theorem compose_concat (h : c.toNat ≤ 0x20) (cs : List Char) :
    compose (cs ++ [c]) = compose cs ++ [c] := by
  rw [compose_eq, compose_eq]
  by_cases hstop : cs.dropWhile (fun d => combiningClass d ≠ 0) = []
  · have hall := List.dropWhile_eq_nil_iff.mp hstop
    have hself := List.takeWhile_eq_self_iff.mpr hall
    have hstart : [c].takeWhile (fun d => decide (combiningClass d ≠ 0)) = [] := by
      simp [combiningClass_of_le_space h]
    have hrest : [c].dropWhile (fun d => decide (combiningClass d ≠ 0)) = [c] := by
      simp [combiningClass_of_le_space h]
    rw [List.takeWhile_append_of_pos hall, List.dropWhile_append_of_pos hall, hstart, hrest, hstop,
      hself, List.append_nil]
    rfl
  · rw [Url.takeWhile_append_of_stop hstop, Url.dropWhile_append_of_stop hstop]
    obtain ⟨d, rest, hcons⟩ := List.exists_cons_of_ne_nil hstop
    rw [hcons, List.append_assoc]
    exact congrArg _ (composeFrom_concat h _ _)

theorem composed_concat (h : c.toNat ≤ 0x20) (cs : List Char) :
    composed (cs ++ [c]) = composed cs ++ [c] := by
  unfold composed
  rw [List.flatMap_append, List.flatMap_singleton, decomposed_of_le_space h, inMarkOrder_concat h,
    compose_concat h]

end Composing

/-! ## Encoded labels -/

namespace Punycode

/-- What is read of a number are digits. -/
theorem exists_digits_of_readNumber {bias i weight place next : Nat} {cs rest : List Char}
    (h : readNumber bias i weight place cs = some (next, rest)) :
    ∃ digits, cs = digits ++ rest ∧ ∀ d ∈ digits, (digitValue? d).isSome = true := by
  induction cs generalizing i weight place with
  | nil => cases h
  | cons d cs ih =>
    rw [readNumber] at h
    cases hd : digitValue? d with
    | none =>
      rw [hd] at h
      cases h
    | some value =>
      have hdigit : (digitValue? d).isSome = true := by rw [hd]; rfl
      simp only [hd, Option.bind_eq_bind, Option.bind_some] at h
      split at h
      · obtain ⟨-, rfl⟩ := Prod.mk.inj (Option.some.inj h)
        exact ⟨[d], rfl, List.forall_mem_singleton.mpr hdigit⟩
      · obtain ⟨digits, rfl, hdigits⟩ := ih h
        exact ⟨d :: digits, rfl, List.forall_mem_cons.mpr ⟨hdigit, hdigits⟩⟩

/-- Only digits can be decoded. -/
theorem digits_of_readAll {steps codePoint i bias : Nat} {output cs decoded : List Char}
    (h : readAll steps codePoint i bias output cs = some decoded) :
    ∀ d ∈ cs, (digitValue? d).isSome = true := by
  induction steps generalizing codePoint i bias output cs with
  | zero =>
    cases cs with
    | nil => exact List.forall_mem_nil _
    | cons d cs => cases h
  | succ steps ih =>
    cases cs with
    | nil => exact List.forall_mem_nil _
    | cons d cs =>
      unfold readAll at h
      obtain ⟨⟨next, rest⟩, hread, h⟩ := Option.bind_eq_some_iff.mp h
      obtain ⟨digits, hcs, hdigits⟩ := exists_digits_of_readNumber hread
      simp only at h
      split at h
      · cases h
      · rw [hcs]
        exact List.forall_mem_append.mpr ⟨hdigits, ih h⟩

theorem decode_concat {c : Char} (h : c.toNat ≤ 0x20) (cs : List Char) :
    decode (cs ++ [c]) = none := by
  have hhyphen : decide (c ≠ '-') = true := by
    rw [decide_eq_true_iff]
    rintro rfl
    exact absurd h (by decide)
  have hdigit : digitValue? c = none := by
    have hbelow : ∀ d : Char, 0x20 < d.toNat → ¬ d ≤ c := by
      intro d hd hle
      rw [Char.le_def, UInt32.le_iff_toNat_le] at hle
      have hbound : d.toNat ≤ c.toNat := hle
      omega
    rw [digitValue?, if_neg fun hsmall => hbelow 'a' (by decide) hsmall.1,
      if_neg fun hcapital => hbelow 'A' (by decide) hcapital.1, if_neg]
    rw [Char.isDigit, Bool.and_eq_true, decide_eq_true_iff]
    exact fun hdigit => hbelow '0' (by decide) hdigit.1
  have hsplit : ∃ basic front, splitLastHyphen (cs ++ [c]) = (basic, front ++ [c]) := by
    unfold splitLastHyphen
    have hkept : (cs ++ [c]).reverse.takeWhile (fun d => decide (d ≠ '-')) =
        c :: cs.reverse.takeWhile (fun d => decide (d ≠ '-')) := by
      rw [List.reverse_append, List.reverse_singleton, List.singleton_append, List.takeWhile_cons,
        if_pos hhyphen]
    rw [hkept]
    simp only [List.reverse_cons]
    split
    · exact ⟨_, _, rfl⟩
    · exact ⟨_, _, rfl⟩
  obtain ⟨basic, front, hsplit⟩ := hsplit
  unfold decode
  rw [hsplit]
  simp only
  rw [Option.eq_none_iff_forall_ne_some]
  intro decoded hread
  have hsome := digits_of_readAll hread c (List.mem_append_right _ (List.mem_singleton_self c))
  rw [hdigit] at hsome
  cases hsome

end Punycode

/-! ## Domain names -/

namespace Domain

variable {c : Char}

theorem fold_of_le_space (h : c.toNat ≤ 0x20) : fold c = some [c] := by
  have hreplace : replace c = some [c] := by
    rw [replace, if_pos (by omega), Url.toLower_of_le_space h]
  rw [fold, decomposed_of_le_space h, List.mapM_cons, hreplace]
  rfl

/-- A control or a space at the end stays there. -/
theorem normalized?_concat (h : c.toNat ≤ 0x20) {cs ds : List Char}
    (hds : normalized? (cs ++ [c]) = some ds) : ∃ es, ds = es ++ [c] := by
  unfold normalized? at hds
  obtain ⟨folded, hfolded, hds⟩ := Option.bind_eq_some_iff.mp hds
  rw [List.mapM_append] at hfolded
  obtain ⟨front, hfront, hfolded⟩ := Option.bind_eq_some_iff.mp hfolded
  obtain ⟨last, hlast, hfolded⟩ := Option.bind_eq_some_iff.mp hfolded
  obtain rfl := Option.some.inj hfolded
  obtain rfl := Option.some.inj hds
  rw [List.mapM_cons, fold_of_le_space h] at hlast
  obtain rfl : [[c]] = last := Option.some.inj hlast
  exact ⟨composed front.flatten, by rw [List.flatten_append, ← composed_concat h]; rfl⟩

theorem isForbidden_of_le_space (h : c.toNat ≤ 0x20) : isForbidden c = true := by
  simp [isForbidden, h]

theorem any_isForbidden_concat (h : c.toNat ≤ 0x20) (text : List Char) :
    (text ++ [c]).any isForbidden = true := by
  rw [List.any_append, List.any_cons, isForbidden_of_le_space h, Bool.true_or, Bool.or_true]

theorem ofNormalized?_concat (h : c.toNat ≤ 0x20) (text : List Char) :
    Label.ofNormalized? (text ++ [c]) = none := by
  unfold Label.ofNormalized?
  split
  next hmark =>
    split
    next =>
      -- the mark has no control in it, so what follows it ends as the label does
      obtain ⟨rest, hrest⟩ := List.isPrefixOf_iff_prefix.mp hmark
      have hend : ∃ front, rest = front ++ [c] := by
        rcases List.eq_nil_or_concat rest with rfl | ⟨front, d, rfl⟩
        · have hlast := congrArg List.getLast? hrest
          rw [List.append_nil, List.getLast?_concat] at hlast
          obtain rfl : '-' = c := Option.some.inj hlast
          exact absurd h (by decide)
        · have hlast := congrArg List.getLast? hrest
          rw [List.concat_eq_append, ← List.append_assoc, List.getLast?_concat,
            List.getLast?_concat] at hlast
          exact ⟨front, by rw [List.concat_eq_append, Option.some.inj hlast]⟩
      obtain ⟨front, rfl⟩ := hend
      have hdecode : Label.decode? (front ++ [c]) = none := by
        unfold Label.decode?
        split
        · rfl
        · rw [Punycode.decode_concat h]
          rfl
      rw [← hrest, List.drop_left, hdecode]
      rfl
    next => rfl
  next =>
    split
    next => rw [if_pos (any_isForbidden_concat h text)]
    next =>
      have hallowed : Label.isAllowed (text ++ [c]) = false := by
        rw [Label.isAllowed, any_isForbidden_concat h text, Bool.not_true, Bool.and_false]
      rw [hallowed, Bool.false_and, if_neg Bool.false_ne_true]

/-- The last label of a name ends as the name does. -/
theorem exists_last_label (cs : List Char) :
    ∃ front last, ∀ c, c ≠ '.' → (cs ++ [c]).splitOn '.' = front ++ [last ++ [c]] := by
  induction hlength : cs.length using Nat.strongRecOn generalizing cs with
  | ind n ih =>
    by_cases hdot : '.' ∈ cs
    · obtain ⟨front, rest, rfl, hfront⟩ := List.eq_append_cons_of_mem hdot
      obtain ⟨labels, last, hrest⟩ := ih rest.length (by simp at hlength; omega) rest rfl
      refine ⟨front.splitOn '.' ++ labels, last, fun c hc => ?_⟩
      rw [List.append_assoc, List.cons_append, List.splitOn_append_cons_self, hrest c hc,
        List.append_assoc]
    · refine ⟨[], cs, fun c hc => List.splitOn_eq_singleton ?_⟩
      rw [List.mem_append, List.mem_singleton]
      rintro (hmem | heq)
      · exact hdot hmem
      · exact hc heq.symm

theorem toAscii?_concat (h : c.toNat ≤ 0x20) (cs : List Char) : toAscii? (cs ++ [c]) = none := by
  have hlabels : labels? (cs ++ [c]) = none := by
    unfold labels?
    cases hnormal : normalized? (cs ++ [c]) with
    | none => rfl
    | some ds =>
      obtain ⟨es, rfl⟩ := normalized?_concat h hnormal
      obtain ⟨front, last, hsplit⟩ := exists_last_label es
      have hdot : c ≠ '.' := by
        rintro rfl
        exact absurd h (by decide)
      have hnone : (front ++ [last ++ [c]]).mapM Label.ofNormalized? = none := by
        rw [List.mapM_append, List.mapM_cons, ofNormalized?_concat h]
        cases front.mapM Label.ofNormalized? <;> rfl
      simp only [Option.bind_eq_bind, Option.bind_some, hsplit c hdot, hnone]
      rfl
  rw [toAscii?, hlabels]
  rfl

end Domain

/-! ## Hosts -/

namespace Url

variable {c : Char}

theorem utf8EncodeChar_of_le_space (h : c.toNat ≤ 0x20) :
    String.utf8EncodeChar c = [UInt8.ofNat c.toNat] := by
  have hascii : c.val.toNat ≤ 0x7f := Nat.le_trans h (by decide)
  exact if_pos hascii

/-- Only an ASCII character ends with a byte below 128. -/
theorem getLast?_utf8EncodeChar (d : Char) :
    ∃ byte, (String.utf8EncodeChar d).getLast? = some byte ∧
      (byte.toNat < 0x80 → byte = UInt8.ofNat d.toNat ∧ d.toNat < 0x80) := by
  have hhigh : ∀ n, ¬ (UInt8.ofNat (n % 0x40 + 0x80)).toNat < 0x80 := by
    intro n
    rw [UInt8.toNat_ofNat']
    omega
  unfold String.utf8EncodeChar
  simp only
  split
  next hascii => exact ⟨_, rfl, fun _ => ⟨rfl, Nat.lt_of_le_of_lt hascii (by decide)⟩⟩
  next =>
    refine ⟨UInt8.ofNat (d.val.toNat % 0x40 + 0x80), ?_, fun hlow => absurd hlow (hhigh _)⟩
    split
    · rfl
    · split <;> rfl

/-- A text whose bytes end with that of a control or a space ends with it. -/
theorem exists_concat_of_bytesOf (h : c.toNat ≤ 0x20) {bytes : List UInt8} {cs : List Char}
    (hbytes : bytes ++ String.utf8EncodeChar c = bytesOf cs) : ∃ ds, cs = ds ++ [c] := by
  have hbyte : (UInt8.ofNat c.toNat).toNat = c.toNat := by
    rw [UInt8.toNat_ofNat']
    omega
  rw [utf8EncodeChar_of_le_space h] at hbytes
  rcases List.eq_nil_or_concat cs with rfl | ⟨ds, d, rfl⟩
  · exact absurd hbytes (List.append_ne_nil_of_right_ne_nil _ (List.cons_ne_nil _ _))
  · obtain ⟨byte, hlast, hlow⟩ := getLast?_utf8EncodeChar d
    have hends := congrArg List.getLast? hbytes
    rw [List.concat_eq_append, bytesOf, List.flatMap_append, List.flatMap_singleton,
      List.getLast?_concat, List.getLast?_append, hlast] at hends
    obtain rfl : UInt8.ofNat c.toNat = byte := Option.some.inj hends
    obtain ⟨heq, hd⟩ := hlow (by omega)
    have hvalue := congrArg UInt8.toNat heq
    rw [hbyte, UInt8.toNat_ofNat'] at hvalue
    have hchar : c = d := Char.toNat_inj.mp (by omega)
    exact ⟨ds, by rw [List.concat_eq_append, hchar]⟩

theorem isHexDigit_of_le_space (h : c.toNat ≤ 0x20) : isHexDigit c = false := by
  rw [← Bool.not_eq_true]
  intro hdigit
  have hbound := (toNat_of_isHexDigit hdigit).1
  omega

/-- A host of a special scheme is refused with controls or spaces at its end. -/
theorem parseHost_of_padding {padding : List Char} (hpadding : IsPadding padding)
    (hne : padding ≠ []) (cs : List Char) (host : Host) : parseHost (cs ++ padding) ≠ .ok host := by
  rcases List.eq_nil_or_concat padding with rfl | ⟨front, c, rfl⟩
  · exact absurd rfl hne
  rw [List.concat_eq_append, ← List.append_assoc]
  have hlow : c.toNat ≤ 0x20 := hpadding c (by simp)
  generalize cs ++ front = ds
  intro hparse
  unfold parseHost at hparse
  split at hparse
  next rest hcons =>
    have hlast : rest.getLast? ≠ some ']' := by
      intro hbracket
      have hends := congrArg List.getLast? hcons
      rw [List.getLast?_concat, List.getLast?_cons, hbracket] at hends
      obtain rfl : c = ']' := Option.some.inj hends
      exact absurd hlow (by decide)
    rw [if_neg hlast] at hparse
    cases hparse
  next =>
    cases hdomain : String.fromUTF8? ⟨(unescapeBytes (ds ++ [c])).toArray⟩ with
    | none =>
      rw [hdomain] at hparse
      cases hparse
    | some domain =>
      have hbytes := fromUTF8?_eq_some_iff.mp hdomain
      rw [unescapeBytes_concat (isHexDigit_of_le_space hlow)] at hbytes
      obtain ⟨es, hes⟩ := exists_concat_of_bytesOf hlow hbytes
      rw [hdomain] at hparse
      simp only [hes, Domain.toAscii?_concat hlow] at hparse
      cases hparse

/-- Controls and spaces do not leave a host as it was, and are refused in that of a special scheme.
-/
theorem readHost_append_ne {scheme : String} {padding cs : List Char} {host other : Host}
    (hpadding : IsPadding padding) (hne : padding ≠ []) (hhost : readHost scheme cs = .ok host)
    (hother : readHost scheme (cs ++ padding) = .ok other) :
    isSpecial scheme = false ∧ other ≠ host := by
  unfold readHost at hhost hother
  split at hother
  · exact absurd hother (parseHost_of_padding hpadding hne cs other)
  next hplain =>
    refine ⟨Bool.not_eq_true _ ▸ hplain, ?_⟩
    rw [if_neg hplain] at hhost
    unfold parsePlainHost at hother
    split at hother
    next rest hcons =>
      -- a bracket that is not closed at the end
      have hlast : rest.getLast? ≠ some ']' := by
        intro hbracket
        have hends := congrArg List.getLast? hcons
        rw [List.getLast?_append, List.getLast?_eq_some_getLast hne, List.getLast?_cons,
          hbracket] at hends
        have hend : padding.getLast hne = ']' := Option.some.inj hends
        exact hpadding.notMem (by decide) (hend ▸ List.getLast_mem hne)
      rw [if_neg hlast] at hother
      cases hother
    next hbracket =>
      split at hother
      · cases hother
      obtain rfl := Except.ok.inj hother
      rintro rfl
      unfold parsePlainHost at hhost
      split at hhost
      next rest => exact hbracket _ rfl
      next =>
        split at hhost
        · cases hhost
        have hname := Host.domain.inj (Except.ok.inj hhost)
        have hlength := congrArg (fun s : String => s.toList.length) hname
        have hlonger := @length_escapeWhere_le isControl padding
        have hpos := List.length_pos_iff.mpr hne
        simp only [String.toList_ofList, escapeWhere_append, List.length_append] at hlength
        omega

end Url

end PoolPage
