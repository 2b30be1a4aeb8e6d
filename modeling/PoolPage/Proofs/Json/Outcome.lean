import Mathlib.Data.List.Nodup
import PoolPage.Proofs.Json.Fields

/-!
# Documents with the same outcome

Two documents have the same outcome under a schema if both are read as one value or neither is
read; the faults may differ.  Documents that differ in one place have the same outcome if what
stands in that place has: in an item of a list, under an optional or nullable schema, in a member
of an object, and in an item that stands for a field.
-/

namespace PoolPage

/-! ## The records of a schema -/

mutual

/-- The fields of all records that are read by a schema. -/
def Schema.records : Schema → List Fields
  | .optional inner | .list inner | .nullable inner => inner.records
  | .record fields => fields :: fields.records
  | _ => []

def Fields.records : Fields → List Fields
  | .nil => []
  | .cons _ _ schema rest => schema.records ++ rest.records

end

/-- No record has two fields of one name. -/
def Schema.IsDistinct (schema : Schema) : Prop := ∀ fields ∈ schema.records, fields.names.Nodup

instance (schema : Schema) : Decidable schema.IsDistinct :=
  inferInstanceAs (Decidable (∀ fields ∈ schema.records, fields.names.Nodup))

namespace Schema

theorem IsDistinct.names {fields : Fields} (h : (Schema.record fields).IsDistinct) :
    fields.names.Nodup :=
  h fields List.mem_cons_self

theorem records_subset {fields : Fields} {f : Field} (hf : f ∈ fields.toList) :
    f.schema.records ⊆ fields.records := by
  match fields with
  | .nil => exact absurd hf List.not_mem_nil
  | .cons name required schema rest =>
    intro record hrecord
    unfold Fields.records
    rcases List.mem_cons.mp hf with rfl | hf
    · exact List.mem_append_left _ hrecord
    · exact List.mem_append_right _ (records_subset hf hrecord)

theorem IsDistinct.field {fields : Fields} {f : Field} (h : (Schema.record fields).IsDistinct)
    (hf : f ∈ fields.toList) : f.schema.IsDistinct := by
  intro record hrecord
  exact h record (List.mem_cons_of_mem _ (records_subset hf hrecord))

/-! ## Same outcome -/

/-- Both documents are read as one value, or neither is read. -/
def SameOutcome (schema : Schema) (doc doc' : Doc) : Prop :=
  (schema.read doc).toOption = (schema.read doc').toOption

end Schema

theorem toOption_mapM {α β ε : Type} (f : α → Except ε β) (xs : List α) :
    (xs.mapM f).toOption = xs.mapM fun x => (f x).toOption := by
  induction xs with
  | nil => rfl
  | cons x xs ih =>
    rw [List.mapM_cons, List.mapM_cons, toOption_bind]
    cases (f x).toOption with
    | none => rfl
    | some y =>
      show (xs.mapM f >>= fun ys => pure (y :: ys)).toOption = _
      rw [toOption_bind, ih]
      cases xs.mapM fun x => (f x).toOption <;> rfl

namespace Schema

theorem toOption_read_list (schema : Schema) (items : List Doc) (cut : Option Cut) :
    ((Schema.list schema).read (.array items cut)).toOption =
      (items.mapM fun doc => (schema.read doc).toOption).bind fun values =>
        (Doc.endOf Cut.onRead cut).toOption.map fun _ => values := by
  rw [← toOption_mapM]
  show (items.mapM schema.read >>= fun values => Doc.endOf Cut.onRead cut >>= fun _ =>
    pure values).toOption = _
  rw [toOption_bind]
  cases cut <;> rfl

theorem toOption_read_optional {schema : Schema} {doc : Doc} (h : doc ≠ .null) :
    ((Schema.optional schema).read doc).toOption = (schema.read doc).toOption.map some := by
  cases doc with
  | null => exact absurd rfl h
  | _ =>
    show (schema.read _ >>= fun value => pure (some value)).toOption = _
    rw [toOption_bind]
    cases schema.read _ <;> rfl

theorem read_nullable {schema : Schema} {doc : Doc} (h : doc ≠ .null) :
    (Schema.nullable schema).read doc = schema.read doc := by
  cases doc with
  | null => exact absurd rfl h
  | _ => rfl

end Schema

namespace Field

/-- One document among those that a field sees may be put in place of another. -/
theorem pick_congr {f : Field} {value value' : Doc} (h : f.schema.SameOutcome value value')
    (before after : List Doc) :
    f.pick (before ++ value :: after) = f.pick (before ++ value' :: after) := by
  match before, after with
  | [], [] => exact h
  | [], _ :: _ => rfl
  | [_], _ => rfl
  | _ :: _ :: _, _ => rfl

end Field

namespace Fields

theorem toOption_readItems_cons {name : String} {required : Bool} {schema : Schema} {rest : Fields}
    (item : Doc) (items : List Doc) (cut : Option Cut) :
    (readItems (.cons name required schema rest) (item :: items) cut).toOption =
      (schema.read item).toOption.bind fun value =>
        (rest.readItems items cut).toOption.map (joinValues name required value) := by
  have hread : readItems (.cons name required schema rest) (item :: items) cut = (do
      let value ← schema.read item
      let others ← rest.readItems items cut
      return joinValues name required value others) := rfl
  rw [hread, toOption_bind]
  cases (schema.read item).toOption <;> cases rest.readItems items cut <;> rfl

theorem toOption_readItems_congr {fields : Fields} {f : Field} {before : List Doc}
    (hf : fields.toList[before.length]? = some f) {value value' : Doc}
    (h : f.schema.SameOutcome value value') (after : List Doc) (cut : Option Cut) :
    (fields.readItems (before ++ value :: after) cut).toOption =
      (fields.readItems (before ++ value' :: after) cut).toOption := by
  induction before generalizing fields with
  | nil =>
    match fields, hf with
    | .cons name required schema rest, hf =>
      obtain rfl : ⟨name, required, schema⟩ = f := Option.some.inj hf
      rw [List.nil_append, List.nil_append, toOption_readItems_cons, toOption_readItems_cons]
      rw [show (schema.read value).toOption = (schema.read value').toOption from h]
  | cons item before ih =>
    match fields, hf with
    | .cons name required schema rest, hf =>
      rw [List.cons_append, List.cons_append, toOption_readItems_cons, toOption_readItems_cons,
        ih hf]

end Fields

namespace Schema.SameOutcome

variable {schema : Schema} {doc doc' other value value' : Doc}

theorem refl (schema : Schema) (doc : Doc) : schema.SameOutcome doc doc := rfl

theorem symm (h : schema.SameOutcome doc doc') : schema.SameOutcome doc' doc := Eq.symm h

theorem trans (h : schema.SameOutcome doc doc') (h' : schema.SameOutcome doc' other) :
    schema.SameOutcome doc other :=
  Eq.trans h h'

theorem item (h : schema.SameOutcome value value') (before after : List Doc) (cut : Option Cut) :
    (Schema.list schema).SameOutcome (.array (before ++ value :: after) cut)
      (.array (before ++ value' :: after) cut) := by
  unfold SameOutcome at h ⊢
  rw [toOption_read_list, toOption_read_list, List.mapM_append, List.mapM_append, List.mapM_cons,
    List.mapM_cons, h]

theorem optional (h : schema.SameOutcome doc doc') (hnull : doc = .null ↔ doc' = .null) :
    (Schema.optional schema).SameOutcome doc doc' := by
  by_cases hdoc : doc = .null
  · rw [hdoc, hnull.mp hdoc]
    exact refl _ _
  · unfold SameOutcome at h ⊢
    rw [toOption_read_optional hdoc, toOption_read_optional (mt hnull.mpr hdoc), h]

theorem nullable (h : schema.SameOutcome doc doc') (hnull : doc = .null ↔ doc' = .null) :
    (Schema.nullable schema).SameOutcome doc doc' := by
  by_cases hdoc : doc = .null
  · rw [hdoc, hnull.mp hdoc]
    exact refl _ _
  · unfold SameOutcome at h ⊢
    rw [read_nullable hdoc, read_nullable (mt hnull.mpr hdoc)]
    exact h

/-- Members of an object that show each field the same. -/
theorem object {fields : Fields} {members members' : List Doc.Member}
    (hnames : fields.names.Nodup) (hadmits : members.all fields.admits = members'.all fields.admits)
    (hpicks : ∀ f ∈ fields.toList,
      f.pick (Doc.valuesOf f.name members) = f.pick (Doc.valuesOf f.name members'))
    (cut : Option Cut) :
    (Schema.record fields).SameOutcome (.object members cut) (.object members' cut) := by
  unfold SameOutcome
  rw [Fields.read_object, Fields.read_object]
  show (fields.readObject members cut).toOption = (fields.readObject members' cut).toOption
  rw [Fields.toOption_readObject hnames, Fields.toOption_readObject hnames, hadmits,
    Fields.build_congr hpicks]

theorem place {fields : Fields} {f : Field} {before : List Doc}
    (hf : fields.toList[before.length]? = some f) (h : f.schema.SameOutcome value value')
    (after : List Doc) (cut : Option Cut) :
    (Schema.record fields).SameOutcome (.array (before ++ value :: after) cut)
      (.array (before ++ value' :: after) cut) :=
  Fields.toOption_readItems_congr hf h after cut

end Schema.SameOutcome

/-! ## One member of an object -/

namespace Fields

theorem eq_of_name_eq {fields : Fields} (hnames : fields.names.Nodup) {f g : Field}
    (hf : f ∈ fields.toList) (hg : g ∈ fields.toList) (h : f.name = g.name) : f = g :=
  List.inj_on_of_nodup_map hnames hf hg h

theorem admits_of_mem {fields : Fields} {f : Field} (hf : f ∈ fields.toList) (value : Doc) :
    fields.admits (some f.name, value) = true := by
  simp [admits, name_mem_names hf]

theorem pick_valuesOf_congr {fields : Fields} (hnames : fields.names.Nodup) {f g : Field}
    (hf : f ∈ fields.toList) (hg : g ∈ fields.toList) {value value' : Doc}
    (h : f.schema.SameOutcome value value') (before after : List Doc.Member) :
    g.pick (Doc.valuesOf g.name (before ++ (some f.name, value) :: after)) =
      g.pick (Doc.valuesOf g.name (before ++ (some f.name, value') :: after)) := by
  rw [Doc.valuesOf_append, Doc.valuesOf_append]
  by_cases hname : f.name = g.name
  · obtain rfl := eq_of_name_eq hnames hf hg hname
    rw [Doc.valuesOf_cons_self, Doc.valuesOf_cons_self]
    exact Field.pick_congr h _ _
  · rw [Doc.valuesOf_cons_of_ne hname, Doc.valuesOf_cons_of_ne hname]

end Fields

theorem Schema.SameOutcome.member {fields : Fields} (hnames : fields.names.Nodup) {f : Field}
    (hf : f ∈ fields.toList) {value value' : Doc} (h : f.schema.SameOutcome value value')
    (before after : List Doc.Member) (cut : Option Cut) :
    (Schema.record fields).SameOutcome (.object (before ++ (some f.name, value) :: after) cut)
      (.object (before ++ (some f.name, value') :: after) cut) := by
  refine object hnames ?_ ?_ cut
  · simp [Fields.admits_of_mem hf]
  · intro g hg
    exact Fields.pick_valuesOf_congr hnames hf hg h before after

/-! ## Texts -/

theorem Schema.toOption_readText (schema : Schema) (text : String) :
    (schema.readText text).toOption =
      if (Document.ofText text).trailing then none
      else (schema.read (Document.ofText text).root).toOption := by
  unfold readText
  rw [toOption_bind]
  cases schema.read (Document.ofText text).root <;> cases (Document.ofText text).trailing <;> rfl

theorem Schema.SameOutcome.readText {schema : Schema} {text text' : String}
    (h : schema.SameOutcome (Document.ofText text).root (Document.ofText text').root)
    (htrailing : (Document.ofText text).trailing = (Document.ofText text').trailing) :
    (schema.readText text).toOption = (schema.readText text').toOption := by
  rw [toOption_readText, toOption_readText, htrailing]
  exact congrArg _ h

end PoolPage
