import Mathlib.Data.List.DropRight
import PoolPage.Proofs.Json.Literals

/-!
# JSON texts read back

The text of a value is read as that value (`Json.parse?_render`), if its numbers are finite, its
integers within the range of 64 bits and its members in the order of their names
(`Json.IsReadable`).  All values in front of a text are read to their end, and what follows is left
(`Json.Reads`); the induction is over the value, and its steps are those of the scan.
-/

namespace PoolPage
namespace Doc

open Json (escapeChar hexDigit)

/-! ## Strings -/

theorem hexValue?_hexDigit {n : Nat} (h : n < 16) : hexValue? (hexDigit n) = some n := by
  revert n
  decide

theorem utf8Size_hexDigit {n : Nat} (h : n < 16) : (hexDigit n).utf8Size = 1 := by
  revert n
  decide

theorem hexEscape_append {n : Nat} (h : n < 256) (rest : List Char) :
    hexEscape ('0' :: '0' :: hexDigit (n / 16) :: hexDigit (n % 16) :: rest) = .ok (n, rest) := by
  have hhigh : n / 16 < 16 := by omega
  have hlow : n % 16 < 16 := by omega
  have hzero : hexValue? '0' = some 0 := by decide
  have hsize : ¬(String.ofList
      (List.take 4 ('0' :: '0' :: hexDigit (n / 16) :: hexDigit (n % 16) :: rest))).utf8ByteSize <
        4 := by
    have hsize : "0".utf8ByteSize = 1 := by decide
    simp [hsize, utf8Size_hexDigit hhigh, utf8Size_hexDigit hlow]
  rw [hexEscape, if_neg hsize]
  simp only [hzero, hexValue?_hexDigit hhigh, hexValue?_hexDigit hlow, Except.ok.injEq,
    Prod.mk.injEq, and_true]
  omega

theorem escape_control {c : Char} (h : c.toNat < 32) (rest : List Char) :
    escape ('u' :: '0' :: '0' :: hexDigit (c.toNat / 16) :: hexDigit (c.toNat % 16) :: rest) =
      .char c rest := by
  have hhex := hexEscape_append (show c.toNat < 256 by omega) rest
  simp only [escape, hhex]
  rw [if_neg (by omega), if_neg (by omega), Char.ofNat_toNat]

/-- What stands for a character is read as the character. -/
theorem scanString_escapeChar (c : Char) (fuel : Nat) (before rest : List Char) :
    scanString (fuel + 1) (some before) (escapeChar c ++ rest) =
      scanString fuel (some (c :: before)) rest := by
  have hcontrol {n : Nat} (h : c.toNat = n) : c = Char.ofNat n := by rw [← h, Char.ofNat_toNat]
  unfold escapeChar
  split_ifs with hquote hbackslash hnewline hreturn htab hback hfeed hlow
  · rw [hquote]
    rfl
  · rw [hbackslash]
    rfl
  · rw [hnewline]
    rfl
  · rw [hreturn]
    rfl
  · rw [htab]
    rfl
  · rw [hcontrol hback]
    rfl
  · rw [hcontrol hfeed]
    rfl
  · have hescape := escape_control hlow rest
    show scanString (fuel + 1) (some before) ('\\' :: 'u' :: '0' :: '0' :: _ :: _ :: rest) = _
    rw [scanString, if_neg (by decide), if_pos rfl, hescape]
    rfl
  · show scanString (fuel + 1) (some before) (c :: rest) = _
    rw [scanString, if_neg hquote, if_neg hbackslash, if_neg hlow]
    rfl

theorem scanString_flatMap (text : List Char) {fuel : Nat} (before rest : List Char)
    (h : text.length ≤ fuel) :
    scanString (fuel + 1) (some before) (text.flatMap escapeChar ++ '"' :: rest) =
      .closed (some (String.ofList (before.reverse ++ text))) rest := by
  induction text generalizing fuel before with
  | nil =>
    rw [List.append_nil]
    rfl
  | cons c text ih =>
    cases fuel with
    | zero => exact nomatch h
    | succ fuel =>
      rw [List.flatMap_cons, List.append_assoc, scanString_escapeChar,
        ih _ (Nat.le_of_succ_le_succ h), List.reverse_cons, List.append_assoc,
        List.singleton_append]

/-- A string is read up to its closing quote. -/
theorem stringBody_append (text : String) (rest : List Char) :
    stringBody (text.toList.flatMap escapeChar ++ '"' :: rest) = .closed (some text) rest := by
  have hchar (c : Char) : 1 ≤ (escapeChar c).length := by
    unfold escapeChar
    split_ifs <;> simp
  have hlength : text.toList.length ≤ (text.toList.flatMap escapeChar).length := by
    have hsum := List.length_le_sum_of_one_le (text.toList.map fun c => (escapeChar c).length)
      (by simpa using fun c _ => hchar c)
    rwa [List.length_map, ← List.length_flatMap] at hsum
  rw [stringBody, scanString_flatMap, List.reverse_nil, List.nil_append, String.ofList_toList]
  rw [List.length_append]
  omega

/-! ## Steps of the scan -/

theorem Follows.cons {c : Char} (h : c = ',' ∨ c = ']' ∨ c = '\x7d') {cs : List Char} :
    Follows (c :: cs) := by
  rintro _ ⟨⟩
  exact h

section

variable {fuel : Nat} {doc : Doc} {items : List Doc} {cs rest : List Char}

theorem skipSpaces_skipSpaces (cs : List Char) : skipSpaces (skipSpaces cs) = skipSpaces cs :=
  List.dropWhile_idempotent _ _

/-- A value that is read took a step. -/
theorem fuel_pos_of_scanValue (h : scanValue fuel cs = (doc, some rest)) : 0 < fuel := by
  by_contra hzero
  rw [Nat.eq_zero_of_not_pos hzero, scanValue] at h
  cases h

/-- Where items can be read the array is not empty. -/
theorem scanFirstItem_of_scanItem (h : scanItem (fuel + 1) cs = ((items, none), some rest)) :
    scanFirstItem (fuel + 2) cs = ((items, none), some rest) := by
  have hvalue : ∃ doc after, scanValue fuel cs = (doc, some after) := by
    rw [scanItem] at h
    split at h
    · cases h
    · exact ⟨_, _, ‹_›⟩
  obtain ⟨doc, after, hvalue⟩ := hvalue
  obtain ⟨fuel, rfl⟩ := Nat.exists_eq_succ_of_ne_zero (fuel_pos_of_scanValue hvalue).ne'
  rw [scanFirstItem]
  split
  · next hnil =>
    rw [scanValue, hnil] at hvalue
    cases hvalue
  · next hclose =>
    rw [scanValue, hclose] at hvalue
    cases hvalue
  · rw [← h, scanItem, scanItem, scanValue, scanValue, skipSpaces_skipSpaces]

/-- The last item of an array. -/
theorem scanItem_of_close (h : scanValue fuel cs = (doc, some (']' :: rest))) :
    scanItem (fuel + 1) cs = (([doc], none), some rest) := by
  obtain ⟨fuel, rfl⟩ := Nat.exists_eq_succ_of_ne_zero (fuel_pos_of_scanValue h).ne'
  have hmore : scanMoreItems (fuel + 1) (']' :: rest) = (([], none), some rest) := by
    rw [scanMoreItems, skipSpaces_cons rfl]
    rfl
  simp only [scanItem, h, hmore]

/-- An item with others behind it. -/
theorem scanItem_of_comma {more : List Char}
    (h : scanValue (fuel + 1) cs = (doc, some (',' :: more)))
    (hmore : scanItem fuel more = ((items, none), some rest)) :
    scanItem (fuel + 2) cs = ((doc :: items, none), some rest) := by
  have hothers : scanMoreItems (fuel + 1) (',' :: more) = ((items, none), some rest) := by
    rw [scanMoreItems, skipSpaces_cons rfl]
    exact hmore
  simp only [scanItem, h, hothers]

end

section

variable {fuel : Nat} {doc : Doc} {members : List (Option String × Doc)} {name : String}
  {cs rest : List Char}

/-- Where members can be read the object is not empty. -/
theorem scanFirstMember_of_scanMember
    (h : scanMember (fuel + 1) cs = ((members, none), some rest)) :
    scanFirstMember (fuel + 2) cs = ((members, none), some rest) := by
  rw [scanFirstMember]
  split
  · next hclose =>
    rw [scanMember, hclose] at h
    cases h
  · rw [← h, scanMember, scanMember, skipSpaces_skipSpaces]

theorem scanMember_append (h : scanValue fuel cs = (doc, some rest)) :
    scanMember (fuel + 1) (Json.writeString name ++ ':' :: cs) =
      (match scanMoreMembers fuel rest with
      | ((members, cut), rest) => (((some name, doc) :: members, cut), rest)) := by
  have hname : Json.writeString name ++ ':' :: cs =
      '"' :: (name.toList.flatMap escapeChar ++ '"' :: ':' :: cs) := by
    simp [Json.writeString]
  rw [hname, scanMember, skipSpaces_cons rfl]
  simp only [stringBody_append, skipSpaces_cons (show isSpace ':' = false from rfl), h]

/-- The last member of an object. -/
theorem scanMember_of_close (h : scanValue fuel cs = (doc, some ('\x7d' :: rest))) :
    scanMember (fuel + 1) (Json.writeString name ++ ':' :: cs) =
      (([(some name, doc)], none), some rest) := by
  obtain ⟨fuel, rfl⟩ := Nat.exists_eq_succ_of_ne_zero (fuel_pos_of_scanValue h).ne'
  have hmore : scanMoreMembers (fuel + 1) ('\x7d' :: rest) = (([], none), some rest) := by
    rw [scanMoreMembers, skipSpaces_cons rfl]
    rfl
  rw [scanMember_append h]
  simp only [hmore]

/-- A member with others behind it. -/
theorem scanMember_of_comma {more : List Char}
    (h : scanValue (fuel + 1) cs = (doc, some (',' :: more)))
    (hmore : scanMember fuel more = ((members, none), some rest)) :
    scanMember (fuel + 2) (Json.writeString name ++ ':' :: cs) =
      (((some name, doc) :: members, none), some rest) := by
  have hothers : scanMoreMembers (fuel + 1) (',' :: more) = ((members, none), some rest) := by
    rw [scanMoreMembers, skipSpaces_cons rfl]
    exact hmore
  rw [scanMember_append h]
  simp only [hothers]

end

end Doc

namespace Json

/-! ## Values -/

/-- Values that their texts are read as. -/
inductive IsReadable : Json → Prop
  | null : IsReadable null
  | bool (b : Bool) : IsReadable (bool b)
  | int {n : ℤ} (hlow : -(signedLimit : ℤ) ≤ n) (hhigh : n < wordLimit) : IsReadable (int n)
  | number {x : Binary64} (hfinite : x.isFinite = true) : IsReadable (number x)
  | string (text : String) : IsReadable (string text)
  | array {items : List Json} (hitems : ∀ item ∈ items, IsReadable item) : IsReadable (array items)
  | object {members : List (String × Json)} (hsorted : members.Pairwise fun a b => a.1 < b.1)
    (hmembers : ∀ m ∈ members, IsReadable m.2) : IsReadable (object members)

/-- A value is read from its text up to the end of it, in no more than three steps for each
character. -/
def Reads (value : Json) : Prop :=
  ∀ fuel rest, 3 * value.write.length ≤ fuel → Doc.Follows rest →
    ∃ doc, Doc.scanValue fuel (value.write ++ rest) = (doc, some rest) ∧ ofDoc? doc = some value

/-- A value that is read in one step. -/
theorem reads_of_scanValue {value : Json} (doc : Doc)
    (h : ∀ fuel rest, Doc.Follows rest →
      Doc.scanValue (fuel + 1) (value.write ++ rest) = (doc, some rest))
    (hdoc : ofDoc? doc = some value) : Reads value := by
  intro fuel rest hfuel hrest
  have hne : value.write ≠ [] := by
    intro hnil
    have hempty := h 0 [] nofun
    rw [hnil, List.append_nil, Doc.scanValue] at hempty
    cases hempty
  have hpos := List.length_pos_iff.mpr hne
  obtain ⟨fuel, rfl⟩ : ∃ less, fuel = less + 1 := ⟨fuel - 1, by omega⟩
  exact ⟨doc, h fuel rest hrest, hdoc⟩

theorem reads_null : Reads null := by
  refine reads_of_scanValue .null (fun fuel rest _ => ?_) rfl
  rw [write]
  show Doc.scanValue (fuel + 1) ('n' :: 'u' :: 'l' :: 'l' :: rest) = _
  rw [Doc.scanValue, Doc.skipSpaces_cons rfl]
  rfl

theorem reads_bool (b : Bool) : Reads (bool b) := by
  refine reads_of_scanValue (.bool b) (fun fuel rest _ => ?_) rfl
  rw [write]
  cases b with
  | false =>
    show Doc.scanValue (fuel + 1) ('f' :: 'a' :: 'l' :: 's' :: 'e' :: rest) = _
    rw [Doc.scanValue, Doc.skipSpaces_cons rfl]
    rfl
  | true =>
    show Doc.scanValue (fuel + 1) ('t' :: 'r' :: 'u' :: 'e' :: rest) = _
    rw [Doc.scanValue, Doc.skipSpaces_cons rfl]
    rfl

theorem reads_literal {value : Json} {l : Literal} (h : l.Spells value.write)
    (hvalue : ofLiteral? l = some value) : Reads value :=
  reads_of_scanValue (.number l) (fun fuel _ hrest => h.scanValue_append hrest fuel) hvalue

theorem reads_string (text : String) : Reads (string text) := by
  refine reads_of_scanValue (.string (some text)) (fun fuel rest _ => ?_) rfl
  have hwrite : write (string text) ++ rest =
      '"' :: (text.toList.flatMap escapeChar ++ '"' :: rest) := by
    simp [write, writeString]
  rw [hwrite, Doc.scanValue, Doc.skipSpaces_cons rfl]
  simp only [Doc.stringBody_append]

/-- Items are read up to the closing bracket. -/
theorem reads_items {items : List Json} (h : ∀ item ∈ items, Reads item) (hne : items ≠ [])
    {fuel : Nat} (hfuel : 3 * (writeItems items).length ≤ fuel) (rest : List Char) :
    ∃ docs, Doc.scanItem (fuel + 1) (writeItems items ++ ']' :: rest) =
        ((docs, none), some rest) ∧ ofItems? docs = some items := by
  induction items generalizing fuel with
  | nil => exact absurd rfl hne
  | cons item items ih =>
    obtain ⟨hitem, hitems⟩ := List.forall_mem_cons.mp h
    cases items with
    | nil =>
      rw [writeItems] at hfuel ⊢
      obtain ⟨doc, hscan, hdoc⟩ := hitem fuel (']' :: rest) hfuel (.cons (.inr (.inl rfl)))
      refine ⟨[doc], Doc.scanItem_of_close hscan, ?_⟩
      rw [ofItems?, hdoc, ofItems?]
      rfl
    | cons next more =>
      have hwrite : writeItems (item :: next :: more) =
          item.write ++ ',' :: writeItems (next :: more) := by
        rw [writeItems]
        exact List.cons_ne_nil _ _
      rw [hwrite, List.length_append, List.length_cons] at hfuel
      -- One step leads to the item and one over the comma behind it.
      obtain ⟨fuel, rfl⟩ : ∃ less, fuel = less + 2 := ⟨fuel - 2, by omega⟩
      obtain ⟨docs, hmore, hdocs⟩ := @ih hitems (List.cons_ne_nil _ _) fuel (by omega)
      obtain ⟨doc, hscan, hdoc⟩ := hitem (fuel + 2)
        (',' :: (writeItems (next :: more) ++ ']' :: rest)) (by omega) (.cons (.inl rfl))
      refine ⟨doc :: docs, ?_, ?_⟩
      · rw [hwrite, List.append_assoc, List.cons_append]
        exact Doc.scanItem_of_comma hscan hmore
      · rw [ofItems?, hdoc, hdocs]
        rfl

/-- Members are read up to the closing brace. -/
theorem reads_members {members : List (String × Json)} (h : ∀ m ∈ members, Reads m.2)
    (hne : members ≠ []) {fuel : Nat} (hfuel : 3 * (writeMembers members).length ≤ fuel)
    (rest : List Char) :
    ∃ docs, Doc.scanMember (fuel + 1) (writeMembers members ++ '\x7d' :: rest) =
        ((docs, none), some rest) ∧ ofMembers? docs = some members := by
  induction members generalizing fuel with
  | nil => exact absurd rfl hne
  | cons member members ih =>
    obtain ⟨name, value⟩ := member
    obtain ⟨hvalue, hmembers⟩ : Reads value ∧ ∀ m ∈ members, Reads m.2 :=
      List.forall_mem_cons.mp h
    cases members with
    | nil =>
      have hwrite : writeMembers [(name, value)] = writeString name ++ ':' :: value.write := by
        rw [writeMembers]
      rw [hwrite, List.length_append, List.length_cons] at hfuel
      obtain ⟨doc, hscan, hdoc⟩ :=
        hvalue fuel ('\x7d' :: rest) (by omega) (.cons (.inr (.inr rfl)))
      refine ⟨[(some name, doc)], ?_, ?_⟩
      · rw [hwrite, List.append_assoc, List.cons_append]
        exact Doc.scanMember_of_close hscan
      · rw [ofMembers?, hdoc, ofMembers?]
        rfl
    | cons next more =>
      have hwrite : writeMembers ((name, value) :: next :: more) =
          writeString name ++ ':' :: (value.write ++ ',' :: writeMembers (next :: more)) := by
        rw [writeMembers, List.append_assoc, List.cons_append]
        exact List.cons_ne_nil _ _
      rw [hwrite] at hfuel
      simp only [List.length_append, List.length_cons] at hfuel
      obtain ⟨fuel, rfl⟩ : ∃ less, fuel = less + 2 := ⟨fuel - 2, by omega⟩
      obtain ⟨docs, hmore, hdocs⟩ := @ih hmembers (List.cons_ne_nil _ _) fuel (by omega)
      obtain ⟨doc, hscan, hdoc⟩ := hvalue (fuel + 2)
        (',' :: (writeMembers (next :: more) ++ '\x7d' :: rest)) (by omega) (.cons (.inl rfl))
      refine ⟨(some name, doc) :: docs, ?_, ?_⟩
      · rw [hwrite, List.append_assoc, List.cons_append, List.append_assoc, List.cons_append]
        exact Doc.scanMember_of_comma hscan hmore
      · rw [ofMembers?, hdoc, hdocs]
        rfl

/-- The items of an array, if it has any, are read behind its opening bracket. -/
theorem reads_allItems {items : List Json} (h : ∀ item ∈ items, Reads item) {fuel : Nat}
    (hfuel : 3 * (writeItems items).length ≤ fuel) (rest : List Char) :
    ∃ docs, Doc.scanFirstItem (fuel + 2) (writeItems items ++ ']' :: rest) =
        ((docs, none), some rest) ∧ ofItems? docs = some items := by
  by_cases hnil : items = []
  · refine ⟨[], ?_, by rw [hnil, ofItems?]⟩
    rw [hnil, writeItems, Doc.scanFirstItem]
    rfl
  · obtain ⟨docs, hscan, hdocs⟩ := reads_items h hnil hfuel rest
    exact ⟨docs, Doc.scanFirstItem_of_scanItem hscan, hdocs⟩

theorem reads_array {items : List Json} (h : ∀ item ∈ items, Reads item) :
    Reads (array items) := by
  intro fuel rest hfuel _
  have hwrite (rest : List Char) :
      write (array items) ++ rest = '[' :: (writeItems items ++ ']' :: rest) := by
    simp [write]
  have hlength : (write (array items)).length = (writeItems items).length + 2 := by
    simp [write]
  obtain ⟨fuel, rfl⟩ : ∃ less, fuel = less + 3 := ⟨fuel - 3, by omega⟩
  obtain ⟨docs, hscan, hdocs⟩ :=
    reads_allItems h (show 3 * (writeItems items).length ≤ fuel by omega) rest
  refine ⟨.array docs none, ?_, ?_⟩
  · rw [hwrite, Doc.scanValue, Doc.skipSpaces_cons rfl]
    simp only [hscan]
  · rw [ofDoc?, hdocs]
    rfl

/-- The members of an object, if it has any, are read behind its opening brace. -/
theorem reads_allMembers {members : List (String × Json)} (h : ∀ m ∈ members, Reads m.2)
    {fuel : Nat} (hfuel : 3 * (writeMembers members).length ≤ fuel) (rest : List Char) :
    ∃ docs, Doc.scanFirstMember (fuel + 2) (writeMembers members ++ '\x7d' :: rest) =
        ((docs, none), some rest) ∧ ofMembers? docs = some members := by
  by_cases hnil : members = []
  · refine ⟨[], ?_, by rw [hnil, ofMembers?]⟩
    rw [hnil, writeMembers, Doc.scanFirstMember]
    rfl
  · obtain ⟨docs, hscan, hdocs⟩ := reads_members h hnil hfuel rest
    exact ⟨docs, Doc.scanFirstMember_of_scanMember hscan, hdocs⟩

theorem reads_object {members : List (String × Json)} (h : ∀ m ∈ members, Reads m.2)
    (hsorted : members.Pairwise fun a b => a.1 < b.1) : Reads (object members) := by
  intro fuel rest hfuel _
  have hwrite (rest : List Char) :
      write (object members) ++ rest = '\x7b' :: (writeMembers members ++ '\x7d' :: rest) := by
    simp [write]
  have hlength : (write (object members)).length = (writeMembers members).length + 2 := by
    simp [write]
  obtain ⟨fuel, rfl⟩ : ∃ less, fuel = less + 3 := ⟨fuel - 3, by omega⟩
  obtain ⟨docs, hscan, hdocs⟩ :=
    reads_allMembers h (show 3 * (writeMembers members).length ≤ fuel by omega) rest
  refine ⟨.object docs none, ?_, ?_⟩
  · rw [hwrite, Doc.scanValue, Doc.skipSpaces_cons rfl]
    simp only [hscan]
  · rw [ofDoc?, hdocs]
    exact congrArg (some ∘ object) (Table.entries_ofList hsorted)

/-- Values with finite numbers, integers of 64 bits and members in order are read. -/
theorem IsReadable.reads {value : Json} (h : IsReadable value) : Reads value := by
  induction h with
  | null => exact reads_null
  | bool b => exact reads_bool b
  | int hlow hhigh =>
    obtain ⟨l, hspells, hvalue⟩ := exists_literal_int hlow hhigh
    exact reads_literal (by rwa [write]) hvalue
  | number hfinite =>
    obtain ⟨l, hspells, hvalue⟩ := exists_literal_number hfinite
    exact reads_literal (by rwa [write]) hvalue
  | string text => exact reads_string text
  | array _ ih => exact reads_array ih
  | object hsorted _ ih => exact reads_object ih hsorted

/-- The text of a value is read as the value. -/
theorem parse?_render {value : Json} (h : IsReadable value) :
    parse? value.render = some value := by
  obtain ⟨doc, hscan, hdoc⟩ := h.reads (3 * value.write.length + 3) [] (by omega) nofun
  rw [List.append_nil] at hscan
  simp only [parse?, Document.ofText, render, String.toList_ofList, hscan]
  exact hdoc

/-! ### Records -/

theorem isReadable_record {members : List (String × Json)}
    (h : ∀ m ∈ members, IsReadable m.2) : IsReadable (record members) :=
  .object (Table.ofList members).sorted fun m hm => h m (Table.mem_of_mem_ofList hm)

theorem member?_record (name : String) (members : List (String × Json)) :
    member? name (record members) = (Table.ofList members).get? name := by
  rw [record, member?, Table.get?]
  induction (Table.ofList members).entries with
  | nil => rfl
  | cons entry entries ih =>
    obtain ⟨other, value⟩ := entry
    rw [List.lookup_cons, Table.lookup, ih]
    by_cases heq : name = other
    · rw [if_pos heq, beq_iff_eq.mpr heq]
    · rw [if_neg heq, beq_false_of_ne heq]

end Json
end PoolPage
