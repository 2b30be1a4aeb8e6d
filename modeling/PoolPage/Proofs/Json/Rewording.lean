import PoolPage.Proofs.Json.Throughout

/-!
# Objects in other words

The members of an object may stand in another order, members without a field may be added, and a
field that may be absent or null may be one or the other (`Rewording`).  Throughout a document none
of this shows.  A second member for one field does: wherever it stands, the document is not read
(`Repeats.toOption_read`).
-/

namespace PoolPage

/-! ## Rewording -/

namespace Field

/-- Whether a field may be left out or be null instead. -/
def mayBeNull (f : Field) : Bool :=
  !f.required && match f.schema with
    | .optional _ | .nullable _ => true
    | _ => false

theorem pick_null {f : Field} (h : f.mayBeNull = true) : f.pick [.null] = f.pick [] := by
  obtain ⟨name, required, schema⟩ := f
  cases required with
  | true => exact nomatch h
  | false =>
    cases schema with
    | optional inner => rfl
    | nullable inner => rfl
    | _ => exact nomatch h

end Field

/-- Members in other words.  Those that are added have a name of no field and a fitting value. -/
inductive Fields.Rewording (fits : Doc → Bool) (fields : Fields) :
    List Doc.Member → List Doc.Member → Prop
  | permuted {members members' : List Doc.Member} (h : members.Perm members') :
    Fields.Rewording fits fields members members'
  | unknown {name : String} {value : Doc} (hname : name ∉ fields.names)
    (hvalue : fits value = true) (members : List Doc.Member) :
    Fields.Rewording fits fields members ((some name, value) :: members)
  | null {f : Field} {members : List Doc.Member} (hf : f ∈ fields.toList)
    (hnull : f.mayBeNull = true) (habsent : Doc.valuesOf f.name members = []) :
    Fields.Rewording fits fields members ((some f.name, .null) :: members)

/-- An object in other words, at a place where values may be nested to a depth. -/
inductive Schema.Rewording (fits : Nat → Doc → Bool) : Nat → Schema → Doc → Doc → Prop
  | object {depth : Nat} {fields : Fields} {members members' : List Doc.Member}
    (h : fields.Rewording (fits depth) members members') (cut : Option Cut) :
    Schema.Rewording fits (depth + 1) (.record fields) (.object members cut) (.object members' cut)

namespace Fields.Rewording

variable {fits : Doc → Bool} {fields : Fields} {members members' : List Doc.Member}

theorem pick_eq (h : fields.Rewording fits members members') (hnames : fields.names.Nodup)
    {f : Field} (hf : f ∈ fields.toList) :
    f.pick (Doc.valuesOf f.name members) = f.pick (Doc.valuesOf f.name members') := by
  cases h with
  | permuted h => exact Field.pick_perm (Doc.valuesOf_perm h)
  | @unknown name value hname =>
    have hne : name ≠ f.name := by
      rintro rfl
      exact hname (name_mem_names hf)
    rw [Doc.valuesOf_cons_of_ne hne]
  | @null g _ hg hnull habsent =>
    by_cases hname : g.name = f.name
    · obtain rfl := eq_of_name_eq hnames hg hf hname
      rw [Doc.valuesOf_cons_self, habsent, Field.pick_null hnull]
    · rw [Doc.valuesOf_cons_of_ne hname]

theorem all_admits_eq (h : fields.Rewording fits members members')
    (hfits : ∀ value, fits value = true → value.skips = true) :
    members.all fields.admits = members'.all fields.admits := by
  cases h with
  | permuted h => exact h.all_eq
  | unknown hname hvalue =>
    have hskips := hfits _ hvalue
    simp [admits, hskips]
  | null hf => rw [List.all_cons, admits_of_mem hf, Bool.true_and]

theorem all_memberPasses_eq {depth : Nat}
    (h : fields.Rewording (Doc.passes depth) members members') :
    members.all (Doc.memberPasses depth) = members'.all (Doc.memberPasses depth) := by
  cases h with
  | permuted h => exact h.all_eq
  | unknown hname hvalue => simp [Doc.memberPasses, hvalue]
  | null hf => rfl

end Fields.Rewording

/-- A document in other words, at any places. -/
abbrev Schema.Reworded (fits : Nat → Doc → Bool) (schema : Schema) (depth : Nat)
    (doc doc' : Doc) : Prop :=
  Throughout (Schema.Rewording fits) depth schema doc doc'

namespace Schema.Reworded

variable {fits : Nat → Doc → Bool} {schema : Schema} {depth : Nat} {doc doc' : Doc}

theorem agrees (h : schema.Reworded fits depth doc doc')
    (hfits : ∀ depth value, fits depth value = true → value.skips = true)
    (hdistinct : schema.IsDistinct) : schema.Agrees doc doc' := by
  refine Throughout.agrees ?_ h hdistinct
  intro depth schema doc doc' hdistinct h
  obtain ⟨h, cut⟩ := h
  have hadmits := h.all_admits_eq (hfits _)
  refine ⟨?_, by simp⟩
  exact SameOutcome.object hdistinct.names hadmits (fun _ hf => h.pick_eq hdistinct.names hf) cut

theorem passes_eq (h : schema.Reworded Doc.passes depth doc doc') :
    doc.passes depth = doc'.passes depth := by
  refine Throughout.passes_eq ?_ h
  intro depth schema doc doc' h
  obtain ⟨h, cut⟩ := h
  rw [Doc.passes_object, Doc.passes_object, h.all_memberPasses_eq]

end Schema.Reworded

/-! ### What an object shows -/

namespace Doc

inductive Kind where
  | single
  | array
  | object
deriving DecidableEq

def kind : Doc → Kind
  | array .. => .array
  | object .. => .object
  | _ => .single

/-- The value that a field has in an object. -/
def pick (f : Field) : Doc → Option f.schema.Value
  | object members _ => f.pick (valuesOf f.name members)
  | _ => none

end Doc

/-- A complete object is read by the values of the fields alone. -/
theorem Fields.toOption_readObject_of_passes {fields : Fields} (hnames : fields.names.Nodup)
    {depth : Nat} {members : List Doc.Member} {cut : Option Cut}
    (h : Doc.passes depth (.object members cut) = true) :
    (fields.readObject members cut).toOption =
      fields.build fun f => (Doc.object members cut).pick f := by
  cases depth with
  | zero => exact nomatch h
  | succ depth =>
    rw [Doc.passes_object, Bool.and_eq_true, Option.isNone_iff_eq_none] at h
    have hadmits := fields.all_admits_of_passes h.1
    rw [toOption_readObject hnames, if_pos ⟨h.2, hadmits⟩]
    rfl

namespace Schema.Reworded

variable {fits : Nat → Doc → Bool} {schema : Schema} {depth : Nat} {doc doc' : Doc}

theorem kind_eq (h : schema.Reworded fits depth doc doc') : doc.kind = doc'.kind := by
  induction h with
  | here h =>
    cases h
    rfl
  | refl => rfl
  | symm _ ih => exact ih.symm
  | trans _ _ ih ih' => exact ih.trans ih'
  | optional _ ih => exact ih
  | nullable _ ih => exact ih
  | item => rfl
  | place => rfl
  | member => rfl

/-- Every field has the same value in both, also where the record is not read in the end. -/
theorem pick_eq {fields : Fields} (h : (Schema.record fields).Reworded fits depth doc doc')
    (hfits : ∀ depth value, fits depth value = true → value.skips = true)
    (hdistinct : (Schema.record fields).IsDistinct) {f : Field} (hf : f ∈ fields.toList) :
    doc.pick f = doc'.pick f := by
  -- the schema is an index of the relation, and the fields are those of the whole document
  generalize hschema : Schema.record fields = schema at h
  induction h with
  | here h =>
    obtain ⟨h, cut⟩ := h
    obtain rfl := Schema.record.inj hschema
    exact h.pick_eq hdistinct.names hf
  | refl => rfl
  | symm _ ih => exact (ih hschema).symm
  | trans _ _ ih ih' => exact (ih hschema).trans (ih' hschema)
  | optional => exact nomatch hschema
  | nullable => exact nomatch hschema
  | item => exact nomatch hschema
  | place => rfl
  | member before after cut hg h =>
    obtain rfl := Schema.record.inj hschema
    have houtcome := (Reworded.agrees h hfits (hdistinct.field hg)).outcome
    exact Fields.pick_valuesOf_congr hdistinct.names hg hf houtcome before after

/-- Complete objects in other words are read alike also as a record with only some of the fields. -/
theorem toOption_readObject_eq {known fields : Fields} {members members' : List Doc.Member}
    {cut cut' : Option Cut}
    (h : (Schema.record known).Reworded Doc.passes depth (.object members cut)
      (.object members' cut'))
    (hdistinct : (Schema.record known).IsDistinct)
    (hpasses : Doc.passes depth (.object members cut) = true) (hnames : fields.names.Nodup)
    (hfields : fields.toList ⊆ known.toList) :
    (fields.readObject members cut).toOption = (fields.readObject members' cut').toOption := by
  have hpasses' : Doc.passes depth (.object members' cut') = true := by
    rw [← passes_eq h]
    exact hpasses
  rw [Fields.toOption_readObject_of_passes hnames hpasses,
    Fields.toOption_readObject_of_passes hnames hpasses']
  apply Fields.build_congr
  intro f hf
  exact pick_eq h (fun _ _ => Doc.skips_of_passes) hdistinct (hfields hf)

end Schema.Reworded

/-! ## Repetition -/

/-- A field has two members somewhere in a document that is read by a schema. -/
inductive Schema.Repeats : Schema → Doc → Prop
  | here {fields : Fields} {f : Field} {members : List Doc.Member} (hf : f ∈ fields.toList)
    (h : 2 ≤ (Doc.valuesOf f.name members).length) (cut : Option Cut) :
    Schema.Repeats (.record fields) (.object members cut)
  | member {fields : Fields} {f : Field} {members : List Doc.Member} {value : Doc}
    (hf : f ∈ fields.toList) (hvalue : value ∈ Doc.valuesOf f.name members) (cut : Option Cut)
    (h : Schema.Repeats f.schema value) : Schema.Repeats (.record fields) (.object members cut)
  | place {fields : Fields} {f : Field} {items : List Doc} {value : Doc} {i : Nat}
    (hf : fields.toList[i]? = some f) (hvalue : items[i]? = some value) (cut : Option Cut)
    (h : Schema.Repeats f.schema value) : Schema.Repeats (.record fields) (.array items cut)
  | item {schema : Schema} {items : List Doc} {value : Doc} (hvalue : value ∈ items)
    (cut : Option Cut) (h : Schema.Repeats schema value) :
    Schema.Repeats (.list schema) (.array items cut)
  | optional {schema : Schema} {doc : Doc} (h : Schema.Repeats schema doc) :
    Schema.Repeats (.optional schema) doc
  | nullable {schema : Schema} {doc : Doc} (h : Schema.Repeats schema doc) :
    Schema.Repeats (.nullable schema) doc

theorem Field.pick_eq_none_of_mem {f : Field} {values : List Doc} {value : Doc}
    (hvalue : value ∈ values) (h : (f.schema.read value).toOption = none) :
    f.pick values = none := by
  match values, hvalue with
  | [other], hvalue =>
    obtain rfl := List.mem_singleton.mp hvalue
    exact h
  | _ :: _ :: _, _ => rfl

theorem Fields.readObject_eq_none {fields : Fields} (hnames : fields.names.Nodup) {f : Field}
    (hf : f ∈ fields.toList) {members : List Doc.Member}
    (h : f.pick (Doc.valuesOf f.name members) = none) (cut : Option Cut) :
    (fields.readObject members cut).toOption = none := by
  rw [toOption_readObject hnames]
  split
  · exact build_eq_none hf h
  · rfl

theorem Fields.readItems_eq_none {fields : Fields} {f : Field} {i : Nat}
    (hf : fields.toList[i]? = some f) {items : List Doc} {value : Doc}
    (hvalue : items[i]? = some value) (h : (f.schema.read value).toOption = none)
    (cut : Option Cut) : (fields.readItems items cut).toOption = none := by
  match fields, items, i with
  | .nil, _, _ => exact nomatch hf
  | .cons .., [], _ => exact nomatch hvalue
  | .cons name required schema rest, item :: items, 0 =>
    obtain rfl : ⟨name, required, schema⟩ = f := Option.some.inj hf
    obtain rfl : item = value := Option.some.inj hvalue
    rw [toOption_readItems_cons, h]
    rfl
  | .cons name required schema rest, item :: items, i + 1 =>
    have hothers : (rest.readItems items cut).toOption = none :=
      readItems_eq_none (f := f) (i := i) hf hvalue h cut
    rw [toOption_readItems_cons, hothers]
    cases (schema.read item).toOption <;> rfl

theorem mapM_eq_none {α β : Type} {f : α → Option β} {xs : List α} {x : α} (hx : x ∈ xs)
    (h : f x = none) : xs.mapM f = none := by
  induction xs with
  | nil => exact absurd hx List.not_mem_nil
  | cons y ys ih =>
    rw [List.mapM_cons]
    rcases List.mem_cons.mp hx with rfl | hx
    · rw [h]
      rfl
    · rw [ih hx]
      cases f y <;> rfl

namespace Schema.Repeats

variable {schema : Schema} {doc : Doc}

theorem ne_null (h : schema.Repeats doc) : doc ≠ .null := by
  induction h with
  | here => simp
  | member => simp
  | place => simp
  | item => simp
  | optional _ ih => exact ih
  | nullable _ ih => exact ih

/-- A repeated field is a fault, wherever it stands. -/
theorem toOption_read (h : schema.Repeats doc) (hdistinct : schema.IsDistinct) :
    (schema.read doc).toOption = none := by
  induction h with
  | here hf h cut =>
    exact Fields.readObject_eq_none hdistinct.names hf (Field.pick_of_two_le h) cut
  | member hf hvalue cut _ ih =>
    have hpick := Field.pick_eq_none_of_mem hvalue (ih (hdistinct.field hf))
    exact Fields.readObject_eq_none hdistinct.names hf hpick cut
  | place hf hvalue cut _ ih =>
    have hvalueNone := ih (hdistinct.field (List.mem_of_getElem? hf))
    exact Fields.readItems_eq_none hf hvalue hvalueNone cut
  | item hvalue cut _ ih =>
    rw [toOption_read_list, mapM_eq_none hvalue (ih hdistinct)]
    rfl
  | optional h ih =>
    rw [toOption_read_optional h.ne_null, ih hdistinct]
    rfl
  | nullable h ih =>
    rw [read_nullable h.ne_null]
    exact ih hdistinct

end Schema.Repeats
end PoolPage
