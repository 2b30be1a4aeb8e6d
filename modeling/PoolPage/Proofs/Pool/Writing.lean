import PoolPage.Proofs.Json.Forms
import PoolPage.Proofs.Pool.Lookup

/-!
# Ways to write an answer

What the pool's answers are read as does not depend on how their objects are written: as arrays or
objects, in which order, with which other members, and with null for what is absent.
-/

namespace PoolPage

theorem isDistinct_poolStats : (Schema.record poolStatsFields).IsDistinct := by decide

theorem isDistinct_minerStats : (Schema.record minerStatsFields).IsDistinct := by decide

theorem PoolStats.toOption_read (text : String) :
    (PoolStats.read text).toOption =
      ((Schema.record poolStatsFields).readText text).toOption.map PoolStats.ofValues := by
  unfold PoolStats.read
  cases (Schema.record poolStatsFields).readText text <;> rfl

/-! ## Arrays and objects -/

/-- The records in the overall figures: the figures themselves, the charts and their points, the
found blocks, the newest block and the payments. -/
example : (Schema.record poolStatsFields).records =
    [poolStatsFields, poolChartsFields, ratePointFields, foundBlockFields, lastBlockFields,
      poolPaymentFields] := rfl

/-- Each record of the overall figures is read alike from its first values in an array and from the
same values under the names of its fields. -/
theorem toOption_readText_forms {fields : Fields}
    (hfields : fields ∈ (Schema.record poolStatsFields).records) {items items' : List Doc}
    (hitems : fields.Respelled items items') {text text' : String}
    (harray : (Document.ofText text).root = .array items none)
    (hobject : (Document.ofText text').root = .object (fields.label items') none)
    (htrailing : (Document.ofText text).trailing = (Document.ofText text').trailing) :
    ((Schema.record fields).readText text).toOption =
        ((Schema.record fields).readText text').toOption ∧
      (fields = poolStatsFields →
        (PoolStats.read text).toOption = (PoolStats.read text').toOption) := by
  have hdistinct : ∀ fields ∈ (Schema.record poolStatsFields).records,
      (Schema.record fields).IsDistinct := by decide
  have hread : ((Schema.record fields).readText text).toOption =
      ((Schema.record fields).readText text').toOption := by
    refine Schema.SameOutcome.readText ?_ htrailing
    rw [harray, hobject]
    exact hitems.sameOutcome (hdistinct fields hfields) none
  refine ⟨hread, ?_⟩
  rintro rfl
  rw [PoolStats.toOption_read, PoolStats.toOption_read, hread]

/-- A number of one digit. -/
def Doc.digit (c : Char) : Doc := .number ⟨false, true, ⟨[c], [], 0⟩⟩

theorem read_point_in_either_form :
    (PoolStats.read "[0,0,0,0,[[[7,2]]]]").toOption =
      (PoolStats.read ("\x7b\"pool_hr\":0,\"net_hr\":0,\"connected_addresses\":0," ++
        "\"connected_workers\":0,\"chart\":" ++
        "\x7b\"hashrate\":[\x7b\"t\":7,\"h\":2\x7d]\x7d\x7d")).toOption ∧
      (PoolStats.read "[0,0,0,0,[[[7,2]]]]").toOption.isSome = true := by
  have hpoint : Throughout (fun _ => Relabelling) 0 (.record ratePointFields)
      (.array [.digit '7', .digit '2'] none)
      (.object (ratePointFields.label [.digit '7', .digit '2']) none) :=
    .here (.intro (by decide) none)
  have hseries := Throughout.nullable (.item [] [] none hpoint)
  have hchart : Throughout (fun _ => Relabelling) 2 (.record poolChartsFields)
      (.array [.array [.array [.digit '7', .digit '2'] none] none] none)
      (.object [(some "hashrate", .array
        [.object (ratePointFields.label [.digit '7', .digit '2']) none] none)] none) :=
    .trans (.here (.intro (by decide) none)) (.member [] [] none (.head _) hseries)
  have hitems : poolStatsFields.Respelled
      [.digit '0', .digit '0', .digit '0', .digit '0',
        .array [.array [.array [.digit '7', .digit '2'] none] none] none]
      [.digit '0', .digit '0', .digit '0', .digit '0',
        .object [(some "hashrate", .array
          [.object (ratePointFields.label [.digit '7', .digit '2']) none] none)] none] :=
    .cons ⟨0, .refl⟩ <| .cons ⟨0, .refl⟩ <| .cons ⟨0, .refl⟩ <| .cons ⟨0, .refl⟩ <|
      .cons ⟨2, hchart⟩ .nil
  constructor
  · refine (toOption_readText_forms List.mem_cons_self hitems ?_ ?_ ?_).2 rfl
    · cbv
    · cbv
    · cbv
  · decide +kernel

/-! ## Rewording -/

/-- What may be null instead of absent in the overall figures, record by record. -/
example : (Schema.record poolStatsFields).records.map
    (fun fields => (fields.toList.filter Field.mayBeNull).map Field.name) =
      [["recent_blocks_found", "last_block", "pplns_window_seconds", "withdrawals",
          "pool_fee_percent", "payment_threshold"],
        ["hashrate", "workers", "addresses"], [], [], [], []] := by decide

theorem PoolStats.toOption_read_of_reworded {text text' : String} {depth : Nat}
    (h : (Schema.record poolStatsFields).Reworded (fun _ => Doc.skips) depth
      (Document.ofText text).root (Document.ofText text').root)
    (htrailing : (Document.ofText text).trailing = (Document.ofText text').trailing) :
    (PoolStats.read text).toOption = (PoolStats.read text').toOption := by
  have hagrees := Schema.Reworded.agrees h (fun _ _ hskips => hskips) isDistinct_poolStats
  rw [toOption_read, toOption_read, hagrees.outcome.readText htrailing]

/-- The known members of an answer about a miner: its error and the figures. -/
abbrev lookupFields : Fields :=
  .cons "error" true (.record lookupFailureFields) minerStatsFields

theorem isDistinct_lookup : (Schema.record lookupFields).IsDistinct := by decide

theorem failedFields_subset : failedFields.toList ⊆ lookupFields.toList := by
  intro f hf
  rw [List.mem_singleton.mp hf]
  exact List.mem_cons_self

/-- The fields by which the answer about a miner is read; an array has no error. -/
def MinerLookup.schema : Doc → Schema
  | .array .. => .record minerStatsFields
  | _ => .record lookupFields

theorem MinerLookup.ofDoc?_single {doc : Doc} (h : doc.kind = .single) :
    MinerLookup.ofDoc? doc = none := by
  cases doc with
  | array => exact nomatch h
  | object => exact nomatch h
  | _ => rfl

theorem MinerLookup.ofDoc?_array (items : List Doc) (cut : Option Cut) :
    MinerLookup.ofDoc? (.array items cut) =
      ((Schema.record minerStatsFields).read (.array items cut)).toOption.map fun values =>
        .found (MinerStats.ofValues values) := by
  rw [ofDoc?_eq]
  exact Option.none_or

theorem MinerLookup.ofDoc?_object (members : List Doc.Member) (cut : Option Cut) :
    MinerLookup.ofDoc? (.object members cut) =
      ((failedFields.readObject members cut).toOption.map fun values =>
        .failed (LookupFailure.ofFailed values)).or
          ((minerStatsFields.readObject members cut).toOption.map fun values =>
            .found (MinerStats.ofValues values)) := by
  rw [ofDoc?_eq, LookupFailure.ofDoc?_object, Option.map_map]
  rfl

/-- An answer in other words has the same outcome. -/
theorem MinerLookup.ofDoc?_eq_of_reworded {doc doc' : Doc}
    (h : (MinerLookup.schema doc).Reworded Doc.passes maxDepth doc doc')
    (hpasses : doc.passes maxDepth = true) : MinerLookup.ofDoc? doc = MinerLookup.ofDoc? doc' := by
  have hkind := Schema.Reworded.kind_eq h
  cases doc with
  | array items cut =>
    cases doc' with
    | array items' cut' =>
      have hread :=
        (Schema.Reworded.agrees h (fun _ _ => Doc.skips_of_passes) isDistinct_minerStats).outcome
      rw [ofDoc?_array, ofDoc?_array]
      exact congrArg _ hread
    | _ => exact nomatch hkind
  | object members cut =>
    cases doc' with
    | object members' cut' =>
      have hfailed : (failedFields.readObject members cut).toOption =
          (failedFields.readObject members' cut').toOption :=
        Schema.Reworded.toOption_readObject_eq h isDistinct_lookup hpasses (by decide)
          failedFields_subset
      have hfigures : (minerStatsFields.readObject members cut).toOption =
          (minerStatsFields.readObject members' cut').toOption :=
        Schema.Reworded.toOption_readObject_eq h isDistinct_lookup hpasses (by decide)
          (List.subset_cons_self _ _)
      rw [ofDoc?_object, ofDoc?_object, hfailed, hfigures]
    | _ => exact nomatch hkind
  | _ => rw [ofDoc?_single rfl, ofDoc?_single hkind.symm]

theorem MinerLookup.toOption_read_of_reworded {text text' : String}
    (h : (MinerLookup.schema (Document.ofText text).root).Reworded Doc.passes maxDepth
      (Document.ofText text).root (Document.ofText text').root)
    (htrailing : (Document.ofText text).trailing = (Document.ofText text').trailing) :
    (MinerLookup.read text).toOption = (MinerLookup.read text').toOption := by
  have hpasses := Schema.Reworded.passes_eq h
  rw [toOption_read, toOption_read, Document.isWhole, Document.isWhole, ← hpasses, ← htrailing]
  split
  next hwhole =>
    rw [Bool.and_eq_true] at hwhole
    exact ofDoc?_eq_of_reworded h hwhole.1
  next => rfl

/-! ## Repetition -/

theorem PoolStats.read_ne_ok_of_repeats {text : String}
    (h : (Schema.record poolStatsFields).Repeats (Document.ofText text).root) (stats : PoolStats) :
    PoolStats.read text ≠ .ok stats := by
  rw [ne_eq, ← toOption_eq_some_iff, toOption_read, Schema.toOption_readText,
    h.toOption_read isDistinct_poolStats, ite_self]
  exact fun hread => nomatch hread

theorem MinerLookup.read_ne_found_of_repeats {text : String}
    (h : (Schema.record minerStatsFields).Repeats (Document.ofText text).root)
    (stats : MinerStats) : MinerLookup.read text ≠ .ok (.found stats) := by
  rw [ne_eq, ← toOption_eq_some_iff, toOption_read, ofDoc?_eq,
    h.toOption_read isDistinct_minerStats]
  split
  · cases LookupFailure.ofDoc? (Document.ofText text).root with
    | none => exact fun hread => nomatch hread
    | some failure => exact fun hread => nomatch hread
  · exact fun hread => nomatch hread

theorem LookupFailure.ofDoc?_eq_none_of_repeats {doc : Doc}
    (h : (Schema.record failedFields).Repeats doc) : LookupFailure.ofDoc? doc = none := by
  have hdistinct : (Schema.record failedFields).IsDistinct := by decide
  have hread := h.toOption_read hdistinct
  cases doc with
  | object members cut =>
    rw [ofDoc?_object]
    exact congrArg (Option.map ofFailed) hread
  | _ => rfl

theorem MinerLookup.read_ne_failed_of_repeats {text : String}
    (h : (Schema.record failedFields).Repeats (Document.ofText text).root)
    (failure : LookupFailure) : MinerLookup.read text ≠ .ok (.failed failure) := by
  rw [ne_eq, ← toOption_eq_some_iff, toOption_read, ofDoc?_eq,
    LookupFailure.ofDoc?_eq_none_of_repeats h]
  split
  · cases ((Schema.record minerStatsFields).read (Document.ofText text).root).toOption with
    | none => exact fun hread => nomatch hread
    | some values => exact fun hread => nomatch hread
  · exact fun hread => nomatch hread

/-- Answers in other words have one outcome, and a repeated member is a fault wherever it is read:
always in the overall figures, in a miner's figures unless they are a failure, and in an error
unless it is passed over. -/
theorem read_in_other_words :
    (∀ text text' depth, (Document.ofText text).trailing = (Document.ofText text').trailing →
      (Schema.record poolStatsFields).Reworded (fun _ => Doc.skips) depth
        (Document.ofText text).root (Document.ofText text').root →
      (PoolStats.read text).toOption = (PoolStats.read text').toOption) ∧
    (∀ text text', (Document.ofText text).trailing = (Document.ofText text').trailing →
      (MinerLookup.schema (Document.ofText text).root).Reworded Doc.passes MinerLookup.maxDepth
        (Document.ofText text).root (Document.ofText text').root →
      (MinerLookup.read text).toOption = (MinerLookup.read text').toOption) ∧
    (∀ text, (Schema.record poolStatsFields).Repeats (Document.ofText text).root →
      ∀ stats, PoolStats.read text ≠ .ok stats) ∧
    (∀ text, (Schema.record minerStatsFields).Repeats (Document.ofText text).root →
      ∀ stats, MinerLookup.read text ≠ .ok (.found stats)) ∧
    (∀ text, (Schema.record failedFields).Repeats (Document.ofText text).root →
      ∀ failure, MinerLookup.read text ≠ .ok (.failed failure)) := by
  refine ⟨?_, ?_, ?_, ?_, ?_⟩
  · intro text text' depth htrailing h
    exact PoolStats.toOption_read_of_reworded h htrailing
  · intro text text' htrailing h
    exact MinerLookup.toOption_read_of_reworded h htrailing
  · intro text h stats
    exact PoolStats.read_ne_ok_of_repeats h stats
  · intro text h stats
    exact MinerLookup.read_ne_found_of_repeats h stats
  · intro text h failure
    exact MinerLookup.read_ne_failed_of_repeats h failure

/-- In other words: a null for the missing blocks, and a member with another name before the balance
and a null for the missing chart. Repeated: a reward, a balance and the code of an error. -/
theorem read_balance_in_other_words :
    (PoolStats.read "\x7b\"reward\":1\x7d").toOption =
        (PoolStats.read "\x7b\"recent_blocks_found\":null,\"reward\":1\x7d").toOption ∧
      (MinerLookup.read "\x7b\"balance\":1\x7d").toOption =
        (MinerLookup.read "\x7b\"x\":2,\"balance\":1,\"hr_chart\":null\x7d").toOption ∧
      (∀ stats, PoolStats.read "\x7b\"reward\":1,\"reward\":1\x7d" ≠ .ok stats) ∧
      (∀ stats, MinerLookup.read "\x7b\"balance\":1,\"balance\":1\x7d" ≠ .ok (.found stats)) ∧
      ∀ failure, MinerLookup.read "\x7b\"error\":\x7b\"code\":1,\"code\":1\x7d\x7d" ≠
        .ok (.failed failure) := by
  refine ⟨?_, ?_, ?_, ?_, ?_⟩
  · refine read_in_other_words.1 _ _ 1 (by cbv) ?_
    have hroot : (Document.ofText "\x7b\"reward\":1\x7d").root =
        .object [(some "reward", .digit '1')] none := by
      cbv
    have hroot' : (Document.ofText "\x7b\"recent_blocks_found\":null,\"reward\":1\x7d").root =
        .object [(some "recent_blocks_found", .null), (some "reward", .digit '1')] none := by
      cbv
    have hnull : poolStatsFields.Rewording Doc.skips [(some "reward", .digit '1')]
        [(some "recent_blocks_found", .null), (some "reward", .digit '1')] :=
      .null (f := ⟨"recent_blocks_found", false, .nullable (.list (.record foundBlockFields))⟩)
        (List.mem_of_getElem? (i := 6) rfl) rfl rfl
    rw [hroot, hroot']
    exact .here (.object hnull none)
  · refine read_in_other_words.2.1 _ _ (by cbv) ?_
    have hroot : (Document.ofText "\x7b\"balance\":1\x7d").root =
        .object [(some "balance", .digit '1')] none := by
      cbv
    have hroot' : (Document.ofText "\x7b\"x\":2,\"balance\":1,\"hr_chart\":null\x7d").root =
        .object [(some "x", .digit '2'), (some "balance", .digit '1'), (some "hr_chart", .null)]
          none := by
      cbv
    have hadded : lookupFields.Rewording (Doc.passes 126) [(some "balance", .digit '1')]
        [(some "x", .digit '2'), (some "balance", .digit '1')] :=
      .unknown (by decide) (by decide +kernel) _
    have hnull : lookupFields.Rewording (Doc.passes 126)
        [(some "x", .digit '2'), (some "balance", .digit '1')]
        [(some "hr_chart", .null), (some "x", .digit '2'), (some "balance", .digit '1')] :=
      .null (f := ⟨"hr_chart", false, .optional (.list (.record ratePointFields))⟩)
        (List.mem_of_getElem? (i := 6) rfl) rfl rfl
    have hmoved : lookupFields.Rewording (Doc.passes 126)
        [(some "hr_chart", .null), (some "x", .digit '2'), (some "balance", .digit '1')]
        [(some "x", .digit '2'), (some "balance", .digit '1'), (some "hr_chart", .null)] :=
      .permuted (List.perm_append_singleton _ _).symm
    rw [hroot, hroot']
    exact .trans (.here (.object hadded none))
      (.trans (.here (.object hnull none)) (.here (.object hmoved none)))
  · refine read_in_other_words.2.2.1 _ ?_
    have hroot : (Document.ofText "\x7b\"reward\":1,\"reward\":1\x7d").root =
        .object [(some "reward", .digit '1'), (some "reward", .digit '1')] none := by
      cbv
    rw [hroot]
    exact .here (f := ⟨"reward", false, .float⟩) (List.mem_of_getElem? (i := 9) rfl)
      (by decide) none
  · refine read_in_other_words.2.2.2.1 _ ?_
    have hroot : (Document.ofText "\x7b\"balance\":1,\"balance\":1\x7d").root =
        .object [(some "balance", .digit '1'), (some "balance", .digit '1')] none := by
      cbv
    rw [hroot]
    exact .here (f := ⟨"balance", false, .float⟩) (List.mem_of_getElem? (i := 1) rfl)
      (by decide) none
  · refine read_in_other_words.2.2.2.2 _ ?_
    have hroot : (Document.ofText "\x7b\"error\":\x7b\"code\":1,\"code\":1\x7d\x7d").root =
        .object [(some "error", .object [(some "code", .digit '1'), (some "code", .digit '1')]
          none)] none := by
      cbv
    have herror : (Schema.record lookupFailureFields).Repeats
        (.object [(some "code", .digit '1'), (some "code", .digit '1')] none) :=
      .here (List.mem_of_getElem? (i := 0) rfl) (by decide) none
    rw [hroot]
    exact .member (List.mem_singleton.mpr rfl) List.mem_cons_self none herror

/-- The other members of a failure are not looked at, so that a repeated one does not matter. -/
theorem failed_of_repeated_balance :
    (Schema.record minerStatsFields).Repeats
        (Document.ofText "\x7b\"error\":\x7b\x7d,\"balance\":1,\"balance\":2\x7d").root ∧
      MinerLookup.read "\x7b\"error\":\x7b\x7d,\"balance\":1,\"balance\":2\x7d" =
        .ok (.failed ⟨0, ""⟩) := by
  constructor
  · have hroot : (Document.ofText "\x7b\"error\":\x7b\x7d,\"balance\":1,\"balance\":2\x7d").root =
        .object [(some "error", .object [] none), (some "balance", .digit '1'),
          (some "balance", .digit '2')] none := by
      cbv
    rw [hroot]
    exact .here (f := ⟨"balance", false, .float⟩) (List.mem_of_getElem? (i := 1) rfl)
      (by decide) none
  · decide +kernel

end PoolPage
