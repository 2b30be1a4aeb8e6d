import PoolPage.Proofs.Json.Throughout

/-!
# The two forms of a record

A record is written as an array of its first fields or as an object with a member for each of them.
Both forms have the same outcome (`toOption_readObject_label`), also where values inside are written
in either form (`Schema.Respelled`).
-/

namespace PoolPage
namespace Fields

/-- Items with the names of the fields in whose places they stand. -/
def label (fields : Fields) (items : List Doc) : List Doc.Member :=
  (fields.names.map some).zip items

section Label

variable {name : String} {required : Bool} {schema : Schema} {rest : Fields}

theorem label_cons (item : Doc) (items : List Doc) :
    (Fields.cons name required schema rest).label (item :: items) =
      (some name, item) :: rest.label items := rfl

@[simp] theorem label_nil (fields : Fields) : fields.label [] = [] := by
  simp [label]

theorem name_mem_of_mem_label {fields : Fields} {items : List Doc} {m : Doc.Member}
    (h : m ∈ fields.label items) : ∃ name ∈ fields.names, m.1 = some name := by
  obtain ⟨name, hname, heq⟩ := List.mem_map.mp (List.of_mem_zip h).1
  exact ⟨name, hname, heq.symm⟩

theorem all_admits_label (fields : Fields) (items : List Doc) :
    (fields.label items).all fields.admits = true := by
  rw [List.all_eq_true]
  intro m hm
  obtain ⟨name, hname, heq⟩ := name_mem_of_mem_label hm
  simp [admits, heq, hname]

theorem valuesOf_label_of_notMem {fields : Fields} {name : String} (h : name ∉ fields.names)
    (items : List Doc) : Doc.valuesOf name (fields.label items) = [] := by
  unfold Doc.valuesOf
  rw [List.filterMap_eq_nil_iff]
  intro m hm
  obtain ⟨other, hother, heq⟩ := name_mem_of_mem_label hm
  have hne : other ≠ name := by
    rintro rfl
    exact h hother
  simp [heq, hne]

theorem pick_label_self (hname : name ∉ rest.names) (item : Doc) (items : List Doc) :
    Field.pick ⟨name, required, schema⟩ (Doc.valuesOf name
      ((Fields.cons name required schema rest).label (item :: items))) =
        (schema.read item).toOption := by
  rw [label_cons, Doc.valuesOf_cons_self, valuesOf_label_of_notMem hname]
  rfl

theorem build_label_cons (hname : name ∉ rest.names) (item : Doc) (items : List Doc) :
    (rest.build fun f => f.pick (Doc.valuesOf f.name
      ((Fields.cons name required schema rest).label (item :: items)))) =
        rest.build fun f => f.pick (Doc.valuesOf f.name (rest.label items)) := by
  apply build_congr
  intro f hf
  have hne : name ≠ f.name := by
    rintro rfl
    exact hname (name_mem_names hf)
  rw [label_cons, Doc.valuesOf_cons_of_ne hne]

end Label

/-- The items of an array are the values of the fields in whose places they stand. -/
theorem toOption_readItems {fields : Fields} (hnames : fields.names.Nodup) {items : List Doc}
    (hlength : items.length ≤ fields.names.length) (cut : Option Cut) :
    (fields.readItems items cut).toOption =
      if cut = none then fields.build fun f => f.pick (Doc.valuesOf f.name (fields.label items))
      else none := by
  match fields, items with
  | .nil, [] => exact toOption_endOf Cut.onRead cut
  | .nil, _ :: _ => simp [names, toList] at hlength
  | .cons name required schema rest, item :: items =>
    -- the first item is the only value with the first name, and no other field sees it
    obtain ⟨hname, hrest⟩ := List.nodup_cons.mp hnames
    have hshorter : items.length ≤ rest.names.length := Nat.le_of_succ_le_succ hlength
    have hothers := toOption_readItems hrest hshorter cut
    rw [toOption_readItems_cons, hothers, build, pick_label_self hname, build_label_cons hname]
    by_cases hcut : cut = none
    · rw [if_pos hcut, if_pos hcut]
      generalize rest.build _ = others
      cases (schema.read item).toOption <;> cases others <;> rfl
    · rw [if_neg hcut, if_neg hcut]
      cases (schema.read item).toOption <;> rfl
  | .cons name required schema rest, [] =>
    cases cut with
    | some cut => rfl
    | none =>
      -- past the last item every field is absent in both forms
      obtain ⟨hname, hrest⟩ := List.nodup_cons.mp hnames
      have hempty : ([] : List Doc).length ≤ rest.names.length := Nat.zero_le _
      have hothers := toOption_readItems hrest hempty none
      rw [label_nil, if_pos rfl] at hothers ⊢
      cases required with
      | true => rfl
      | false =>
        have hread : readItems (.cons name false schema rest) [] none = (do
            let others ← rest.readItems [] none
            return joinValues name false schema.default others) := rfl
        rw [hread, toOption_bind, hothers]
        rfl

theorem toOption_readObject_label {fields : Fields} (hnames : fields.names.Nodup)
    {items : List Doc} (hlength : items.length ≤ fields.names.length) (cut : Option Cut) :
    (fields.readObject (fields.label items) cut).toOption =
      (fields.readItems items cut).toOption := by
  rw [toOption_readObject hnames, toOption_readItems hnames hlength]
  simp only [all_admits_label, and_true]

end Fields

/-! ## Respelling -/

/-- An array in the place of a record and the object that says the same. -/
inductive Relabelling : Schema → Doc → Doc → Prop
  | intro {fields : Fields} {items : List Doc} (hlength : items.length ≤ fields.names.length)
    (cut : Option Cut) :
    Relabelling (.record fields) (.array items cut) (.object (fields.label items) cut)

theorem Relabelling.agrees {schema : Schema} {doc doc' : Doc} (hdistinct : schema.IsDistinct)
    (h : Relabelling schema doc doc') : schema.Agrees doc doc' := by
  obtain ⟨hlength, cut⟩ := h
  refine ⟨?_, by simp⟩
  exact (Fields.toOption_readObject_label hdistinct.names hlength cut).symm

/-- One document says the same as another, with records in the other form at any places. -/
def Schema.Respelled (schema : Schema) (doc doc' : Doc) : Prop :=
  ∃ depth, Throughout (fun _ => Relabelling) depth schema doc doc'

theorem Schema.Respelled.sameOutcome {schema : Schema} {doc doc' : Doc}
    (h : schema.Respelled doc doc') (hdistinct : schema.IsDistinct) :
    schema.SameOutcome doc doc' := by
  obtain ⟨depth, h⟩ := h
  exact (h.agrees Relabelling.agrees hdistinct).outcome

/-- Items that say the same place by place, no more of them than there are fields. -/
inductive Fields.Respelled : Fields → List Doc → List Doc → Prop
  | nil {fields : Fields} : Fields.Respelled fields [] []
  | cons {name : String} {required : Bool} {schema : Schema} {rest : Fields} {item item' : Doc}
    {items items' : List Doc} (hitem : schema.Respelled item item')
    (hitems : Fields.Respelled rest items items') :
    Fields.Respelled (.cons name required schema rest) (item :: items) (item' :: items')

namespace Fields.Respelled

variable {fields : Fields} {items items' : List Doc}

theorem length_le (h : fields.Respelled items items') : items'.length ≤ fields.names.length := by
  induction h with
  | nil => exact Nat.zero_le _
  | cons _ _ ih => exact Nat.succ_le_succ ih

theorem toOption_readItems_eq (h : fields.Respelled items items')
    (hdistinct : ∀ f ∈ fields.toList, f.schema.IsDistinct) (cut : Option Cut) :
    (fields.readItems items cut).toOption = (fields.readItems items' cut).toOption := by
  induction h with
  | nil => rfl
  | @cons name required schema rest item item' items items' hitem _ ih =>
    have hfirst : (schema.read item).toOption = (schema.read item').toOption :=
      hitem.sameOutcome (hdistinct ⟨name, required, schema⟩ List.mem_cons_self)
    have hothers := ih fun f hf => hdistinct f (List.mem_cons_of_mem _ hf)
    rw [toOption_readItems_cons, toOption_readItems_cons, hfirst, hothers]

/-- An array has the outcome of the object that says the same. -/
theorem sameOutcome (h : fields.Respelled items items')
    (hdistinct : (Schema.record fields).IsDistinct) (cut : Option Cut) :
    (Schema.record fields).SameOutcome (.array items cut) (.object (fields.label items') cut) := by
  have hitems := h.toOption_readItems_eq (fun f hf => hdistinct.field hf) cut
  have hlabel := Fields.toOption_readObject_label hdistinct.names h.length_le cut
  exact hitems.trans hlabel.symm

end Fields.Respelled

end PoolPage
