import Mathlib
import PoolPage.Pool.Decoding
import PoolPage.Proofs.Json.Rewording

/-!
# What the answer about a miner is taken for

An answer is read completely first.  Then its `error` alone decides whether it is a failure
(`LookupFailure.isSome_ofDoc?_iff`), and if it is none, the other members alone decide whether they
are a miner's figures (`readObject_minerStats_eq`).  An answer with an `error` that cannot be read
is therefore taken for figures.
-/

namespace PoolPage

/-- Nothing is missing in a document, nothing is out of range or too deep, and nothing follows. -/
def Document.isWhole (document : Document) : Bool :=
  document.root.passes MinerLookup.maxDepth && !document.trailing

theorem MinerLookup.toOption_read (text : String) :
    (MinerLookup.read text).toOption =
      if (Document.ofText text).isWhole then MinerLookup.ofDoc? (Document.ofText text).root
      else none := by
  unfold MinerLookup.read Document.isWhole Doc.passes
  dsimp only
  rw [toOption_bind]
  cases (Document.ofText text).root.check maxDepth with
  | error fault => rfl
  | ok checked =>
    cases ofDoc? (Document.ofText text).root <;> cases (Document.ofText text).trailing <;> rfl

/-! ## Failures -/

def LookupFailure.ofFailed : failedFields.Values → LookupFailure
  | (failure, ()) => LookupFailure.ofValues failure

theorem LookupFailure.ofDoc?_object (members : List Doc.Member) (cut : Option Cut) :
    LookupFailure.ofDoc? (.object members cut) =
      (failedFields.readObject members cut).toOption.map LookupFailure.ofFailed := by
  -- the values of a record are those of its fields by definition only, which stops a rewrite
  have hmatch : ∀ outcome : Except Fault failedFields.Values,
      (match outcome with
        | .ok (failure, ()) => some (LookupFailure.ofValues failure)
        | .error _ => none) = outcome.toOption.map LookupFailure.ofFailed := by
    intro outcome
    cases outcome <;> rfl
  exact hmatch (failedFields.readObject members cut)

/-! ### Readable reasons -/

namespace Doc

/-- A number without point and exponent that fits 64 bits. -/
def IsInteger (doc : Doc) : Prop :=
  ∃ l n, doc = .number l ∧ l.toInt? = some n ∧ -(signedLimit : Int) ≤ n ∧ n < signedLimit

def IsText (doc : Doc) : Prop := ∃ text, doc = .string (some text)

def AtMostOne (p : Doc → Prop) : List Doc → Prop
  | [] => True
  | [value] => p value
  | _ :: _ :: _ => False

/-- An error that can be read: its code and its message, in an object or in an array, each of
which may be missing. -/
def IsReason : Doc → Prop
  | .object members _ =>
    AtMostOne IsInteger (valuesOf "code" members) ∧ AtMostOne IsText (valuesOf "message" members)
  | .array [] _ => True
  | .array [code] _ => code.IsInteger
  | .array [code, message] _ => code.IsInteger ∧ message.IsText
  | _ => False

theorem isSome_read_integer {doc : Doc} :
    (Schema.integer.read doc).toOption.isSome = true ↔ doc.IsInteger := by
  show (doc.readInteger (-(signedLimit : Int)) (signedLimit - 1)).toOption.isSome = true ↔ _
  cases doc with
  | number l =>
    unfold readInteger IsInteger
    dsimp only
    cases hl : l.toInt? with
    | none => simp [Except.toOption, hl]
    | some n =>
      by_cases hn : -(signedLimit : Int) ≤ n ∧ n ≤ signedLimit - 1
      · have hfits : -(signedLimit : Int) ≤ n ∧ n < signedLimit := by omega
        simp only [if_pos hn]
        exact ⟨fun _ => ⟨l, n, rfl, hl, hfits⟩, fun _ => rfl⟩
      · simp only [if_neg hn]
        constructor
        · simp [Except.toOption]
        · rintro ⟨_, m, heq, hm, hfits⟩
          obtain rfl := Doc.number.inj heq
          obtain rfl : n = m := Option.some.inj (hl.symm.trans hm)
          omega
  | _ => simp [readInteger, IsInteger, Except.toOption]

theorem isSome_read_text {doc : Doc} :
    (Schema.text.read doc).toOption.isSome = true ↔ doc.IsText := by
  show doc.readText.toOption.isSome = true ↔ _
  cases doc with
  | string text => cases text <;> simp [readText, IsText, Except.toOption]
  | _ => simp [readText, IsText, Except.toOption]

end Doc

theorem Field.isSome_pick_iff {f : Field} {p : Doc → Prop} (hrequired : f.required = false)
    (hp : ∀ {doc : Doc}, (f.schema.read doc).toOption.isSome = true ↔ p doc) (values : List Doc) :
    (f.pick values).isSome = true ↔ Doc.AtMostOne p values := by
  match values with
  | [] => simp [pick, hrequired, Doc.AtMostOne]
  | [value] => exact hp
  | _ :: _ :: _ => simp [pick, Doc.AtMostOne]

theorem isSome_readObject_lookupFailure {depth : Nat} {members : List Doc.Member}
    {cut : Option Cut} (h : Doc.passes depth (.object members cut) = true) :
    (lookupFailureFields.readObject members cut).toOption.isSome = true ↔
      Doc.AtMostOne Doc.IsInteger (Doc.valuesOf "code" members) ∧
        Doc.AtMostOne Doc.IsText (Doc.valuesOf "message" members) := by
  have hnames : lookupFailureFields.names.Nodup := by decide
  have hcode := Field.isSome_pick_iff (f := ⟨"code", false, .integer⟩) rfl
    Doc.isSome_read_integer (Doc.valuesOf "code" members)
  have hmessage := Field.isSome_pick_iff (f := ⟨"message", false, .text⟩) rfl
    Doc.isSome_read_text (Doc.valuesOf "message" members)
  rw [Fields.toOption_readObject_of_passes hnames h, Fields.isSome_build_iff, ← hcode, ← hmessage]
  constructor
  · intro hpicks
    exact ⟨hpicks _ (.head _), hpicks _ (.tail _ (.head _))⟩
  · rintro ⟨hcode, hmessage⟩ f hf
    rcases hf with _ | ⟨_, _ | ⟨_, hf⟩⟩
    · exact hcode
    · exact hmessage
    · exact absurd hf List.not_mem_nil

theorem isSome_readItems_lookupFailure (items : List Doc) :
    (lookupFailureFields.readItems items none).toOption.isSome = true ↔
      Doc.IsReason (.array items none) := by
  cases items with
  | nil => exact ⟨fun _ => trivial, fun _ => rfl⟩
  | cons code items =>
    rw [Fields.toOption_readItems_cons]
    cases items with
    | nil =>
      show _ ↔ code.IsInteger
      rw [← Doc.isSome_read_integer]
      cases (Schema.integer.read code).toOption <;> exact Iff.rfl
    | cons message items =>
      rw [Fields.toOption_readItems_cons]
      cases items with
      | nil =>
        show _ ↔ code.IsInteger ∧ message.IsText
        rw [← Doc.isSome_read_integer, ← Doc.isSome_read_text]
        cases (Schema.integer.read code).toOption with
        | none => simp
        | some n =>
          cases (Schema.text.read message).toOption with
          | none => simp
          | some text => exact ⟨fun _ => ⟨rfl, rfl⟩, fun _ => rfl⟩
      | cons third items =>
        show _ ↔ False
        cases (Schema.integer.read code).toOption <;>
          cases (Schema.text.read message).toOption <;>
            simp [Fields.readItems, Except.toOption]

/-- A complete value is an error that can be read just if it has a code and a message. -/
theorem Doc.isSome_read_lookupFailure {depth : Nat} {doc : Doc} (h : doc.passes depth = true) :
    ((Schema.record lookupFailureFields).read doc).toOption.isSome = true ↔ doc.IsReason := by
  cases doc with
  | object members cut => exact isSome_readObject_lookupFailure h
  | array items cut =>
    cases depth with
    | zero =>
      rw [passes_array_zero] at h
      cases h
    | succ depth =>
      rw [passes_array, Bool.and_eq_true, Option.isNone_iff_eq_none] at h
      rw [h.2]
      exact isSome_readItems_lookupFailure items
  | _ =>
    constructor
    · intro hread
      cases hread
    · intro hreason
      exact False.elim hreason

theorem LookupFailure.isSome_ofDoc?_iff {depth : Nat} {members : List Doc.Member}
    {cut : Option Cut} (h : Doc.passes (depth + 1) (.object members cut) = true) :
    (LookupFailure.ofDoc? (.object members cut)).isSome = true ↔
      ∃ reason, Doc.valuesOf "error" members = [reason] ∧ reason.IsReason := by
  have hnames : failedFields.names.Nodup := by decide
  have hvalues : ∀ value ∈ Doc.valuesOf "error" members, value.passes depth = true := by
    rw [Doc.passes_object, Bool.and_eq_true, List.all_eq_true] at h
    intro value hvalue
    have hpasses := h.1 _ (Doc.mem_valuesOf.mp hvalue)
    exact hpasses
  rw [ofDoc?_object, Option.isSome_map, Fields.toOption_readObject_of_passes hnames h,
    Fields.isSome_build_iff]
  have hpick : (∀ f ∈ failedFields.toList, ((Doc.object members cut).pick f).isSome = true) ↔
      (Field.pick ⟨"error", true, .record lookupFailureFields⟩
        (Doc.valuesOf "error" members)).isSome = true := by
    constructor
    · intro hpicks
      exact hpicks _ (.head _)
    · rintro herror f hf
      rcases hf with _ | ⟨_, hf⟩
      · exact herror
      · exact absurd hf List.not_mem_nil
  rw [hpick]
  match Doc.valuesOf "error" members, hvalues with
  | [], _ => simp [Field.pick]
  | [value], hvalues =>
    have hreason := Doc.isSome_read_lookupFailure (hvalues value List.mem_cons_self)
    constructor
    · intro hread
      exact ⟨value, rfl, hreason.mp hread⟩
    · rintro ⟨reason, heq, hread⟩
      obtain rfl : value = reason := List.head_eq_of_cons_eq heq
      exact hreason.mpr hread
  | _ :: _ :: _, _ => simp [Field.pick]

/-! ## Figures -/

/-- The figures do not depend on the members that are called `error`. -/
theorem readObject_minerStats_eq {depth : Nat} {members : List Doc.Member} {cut : Option Cut}
    (h : Doc.passes (depth + 1) (.object members cut) = true) :
    (minerStatsFields.readObject members cut).toOption =
      (minerStatsFields.readObject (members.filter (·.1 ≠ some "error")) none).toOption := by
  have hnames : minerStatsFields.names.Nodup := by decide
  have hothers : Doc.passes (depth + 1)
      (.object (members.filter (·.1 ≠ some "error")) none) = true := by
    rw [Doc.passes_object, Bool.and_eq_true, List.all_eq_true] at h ⊢
    exact ⟨fun m hm => h.1 m (List.mem_filter.mp hm).1, rfl⟩
  rw [Fields.toOption_readObject_of_passes hnames h,
    Fields.toOption_readObject_of_passes hnames hothers]
  apply Fields.build_congr
  intro f hf
  have hne : f.name ≠ "error" := by
    have hmem := Fields.name_mem_names hf
    rintro heq
    rw [heq] at hmem
    exact absurd hmem (by decide)
  show f.pick (Doc.valuesOf f.name members) = f.pick (Doc.valuesOf f.name _)
  rw [Doc.valuesOf_filter hne]

theorem MinerLookup.ofDoc?_eq (doc : Doc) :
    MinerLookup.ofDoc? doc =
      ((LookupFailure.ofDoc? doc).map MinerLookup.failed).or
        (((Schema.record minerStatsFields).read doc).toOption.map fun values =>
          .found (MinerStats.ofValues values)) := by
  unfold ofDoc?
  cases LookupFailure.ofDoc? doc with
  | some failure => rfl
  | none => cases (Schema.record minerStatsFields).read doc <;> rfl

theorem MinerLookup.exists_found_iff (doc : Doc) :
    (∃ stats, MinerLookup.ofDoc? doc = some (.found stats)) ↔
      (LookupFailure.ofDoc? doc).isSome = false ∧
        ((Schema.record minerStatsFields).read doc).toOption.isSome = true := by
  rw [ofDoc?_eq]
  cases LookupFailure.ofDoc? doc with
  | some failure => simp
  | none =>
    cases ((Schema.record minerStatsFields).read doc).toOption with
    | none =>
      constructor
      · rintro ⟨stats, hfound⟩
        cases hfound
      · rintro ⟨_, hread⟩
        cases hread
    | some values =>
      constructor
      · exact fun _ => ⟨rfl, rfl⟩
      · exact fun _ => ⟨MinerStats.ofValues values, rfl⟩

/-- An answer is not taken for figures just if it is not complete, or has one `error` and that can
be read, or its other members are no figures. -/
theorem MinerLookup.ne_found_iff {text : String} {members : List Doc.Member} {cut : Option Cut}
    (hroot : (Document.ofText text).root = .object members cut) :
    (∀ stats, MinerLookup.read text ≠ .ok (.found stats)) ↔
      (Document.ofText text).isWhole = false ∨
      (∃ reason, Doc.valuesOf "error" members = [reason] ∧ reason.IsReason) ∨
      ∀ values, (Schema.record minerStatsFields).read
        (.object (members.filter (·.1 ≠ some "error")) none) ≠ .ok values := by
  have hread : (∀ stats, MinerLookup.read text ≠ .ok (.found stats)) ↔
      ∀ stats, (MinerLookup.read text).toOption ≠ some (.found stats) := by
    simp only [ne_eq, toOption_eq_some_iff]
  rw [hread, toOption_read]
  cases hwhole : (Document.ofText text).isWhole with
  | false => simp
  | true =>
    have hpasses : Doc.passes maxDepth (.object members cut) = true := by
      rw [Document.isWhole, hroot, Bool.and_eq_true] at hwhole
      exact hwhole.1
    -- the figures are read from all members, but those that are called error do not count
    have hfigures : (∀ values, (Schema.record minerStatsFields).read
        (.object (members.filter (·.1 ≠ some "error")) none) ≠ .ok values) ↔
          ((Schema.record minerStatsFields).read (.object members cut)).toOption.isSome =
            false := by
      show (∀ values, minerStatsFields.readObject _ none ≠ .ok values) ↔
        (minerStatsFields.readObject members cut).toOption.isSome = false
      rw [readObject_minerStats_eq hpasses]
      cases minerStatsFields.readObject (members.filter (·.1 ≠ some "error")) none <;>
        simp [Except.toOption]
    rw [if_pos rfl, hroot, hfigures, ← LookupFailure.isSome_ofDoc?_iff hpasses]
    have hfound := exists_found_iff (.object members cut)
    rw [← not_iff_not, not_exists] at hfound
    rw [hfound]
    cases (LookupFailure.ofDoc? (.object members cut)).isSome <;> simp

theorem MinerLookup.ne_found_of_code :
    (Document.ofText "\x7b\"error\":\x7b\"code\":404\x7d\x7d").root =
      .object [(some "error", .object
        [(some "code", .number ⟨false, true, ⟨['4', '0', '4'], [], 0⟩⟩)] none)] none ∧
      ∀ stats, MinerLookup.read "\x7b\"error\":\x7b\"code\":404\x7d\x7d" ≠ .ok (.found stats) := by
  have hroot : (Document.ofText "\x7b\"error\":\x7b\"code\":404\x7d\x7d").root =
      .object [(some "error", .object
        [(some "code", .number ⟨false, true, ⟨['4', '0', '4'], [], 0⟩⟩)] none)] none := by
    cbv
  have hcode : Doc.IsInteger (.number ⟨false, true, ⟨['4', '0', '4'], [], 0⟩⟩) :=
    ⟨_, 404, rfl, by decide, by decide⟩
  exact ⟨hroot, (ne_found_iff hroot).mpr (.inr (.inl ⟨_, rfl, hcode, trivial⟩))⟩

/-- An `error` that cannot be read is passed over, and nothing else is missing in a miner's figures.
-/
theorem MinerLookup.found_of_unreadable_reason :
    MinerLookup.read "\x7b\"error\":\"not found\"\x7d" =
      .ok (.found ⟨.zero, .zero, .zero, .zero, none, none, []⟩) := by
  decide +kernel

end PoolPage
