import PoolPage.Json.Schema

/-!
# What a record is read from

A record is read from an object in the order of the text, up to the first fault.  Whether it is
read, and what its value is, do not depend on that order: each field sees the values of the
members with its name (`Doc.valuesOf`), and has a value if there is at most one of them
(`Field.pick`).  A member without a field has to be JSON and no more (`Fields.admits`).
`toOption_readObject` puts the record together from these.
-/

namespace PoolPage

theorem toOption_bind {ε α β : Type} (x : Except ε α) (f : α → Except ε β) :
    (x >>= f).toOption = x.toOption.bind fun a => (f a).toOption := by
  cases x <;> rfl

theorem toOption_eq_some_iff {ε α : Type} {x : Except ε α} {a : α} :
    x.toOption = some a ↔ x = .ok a := by
  cases x <;> simp [Except.toOption]

theorem toOption_endOf (fault : Cut → Fault) (cut : Option Cut) :
    (Doc.endOf fault cut).toOption = if cut = none then some () else none := by
  cases cut <;> rfl

namespace Doc

/-- A name, which may be no text, and a value. -/
abbrev Member := Option String × Doc

/-! ## Values of a name -/

/-- The values of all members with a name, in their order. -/
def valuesOf (name : String) (members : List Member) : List Doc :=
  members.filterMap fun m => if m.1 = some name then some m.2 else none

variable {name other : String} {value : Doc} {members members' : List Member}

theorem valuesOf_cons (m : Member) :
    valuesOf name (m :: members) =
      if m.1 = some name then m.2 :: valuesOf name members else valuesOf name members := by
  unfold valuesOf
  rw [List.filterMap_cons]
  by_cases h : m.1 = some name <;> simp [h]

@[simp] theorem valuesOf_cons_self :
    valuesOf name ((some name, value) :: members) = value :: valuesOf name members := by
  simp [valuesOf_cons]

theorem valuesOf_cons_of_ne (h : other ≠ name) :
    valuesOf name ((some other, value) :: members) = valuesOf name members := by
  simp [valuesOf_cons, h]

theorem valuesOf_append (name : String) (members members' : List Member) :
    valuesOf name (members ++ members') = valuesOf name members ++ valuesOf name members' :=
  List.filterMap_append

theorem valuesOf_filter (h : name ≠ other) :
    valuesOf name (members.filter (·.1 ≠ some other)) = valuesOf name members := by
  induction members with
  | nil => rfl
  | cons m members ih =>
    by_cases hm : m.1 = some other
    · have hne : m.1 ≠ some name := by
        rw [hm]
        exact fun heq => h (Option.some.inj heq).symm
      rw [List.filter_cons_of_neg (by simpa using hm), valuesOf_cons, if_neg hne, ih]
    · rw [List.filter_cons_of_pos (by simpa using hm), valuesOf_cons, valuesOf_cons, ih]

theorem valuesOf_perm (h : members.Perm members') :
    (valuesOf name members).Perm (valuesOf name members') :=
  h.filterMap _

theorem mem_valuesOf : value ∈ valuesOf name members ↔ (some name, value) ∈ members := by
  unfold valuesOf
  rw [List.mem_filterMap]
  constructor
  · rintro ⟨⟨other, found⟩, hmem, hfound⟩
    by_cases h : other = some name
    · simp only [h, if_pos, Option.some.injEq] at hfound
      rwa [h, hfound] at hmem
    · simp [h] at hfound
  · intro hmem
    exact ⟨(some name, value), hmem, by simp⟩

/-- Whether a value is JSON as far as skipping it shows. -/
def skips (doc : Doc) : Bool := doc.skip.isOk

end Doc

/-! ## Fields -/

structure Field where
  name : String
  required : Bool
  schema : Schema

namespace Field

/-- The value of a field that sees these documents. -/
def pick (f : Field) : List Doc → Option f.schema.Value
  | [] => if f.required then none else some f.schema.default
  | [value] => (f.schema.read value).toOption
  | _ :: _ :: _ => none

theorem pick_of_two_le {f : Field} {values : List Doc} (h : 2 ≤ values.length) :
    f.pick values = none := by
  match values, h with
  | _ :: _ :: _, _ => rfl

/-- The order of the values does not matter, since a second one leaves no value. -/
theorem pick_perm {f : Field} {values values' : List Doc} (h : values.Perm values') :
    f.pick values = f.pick values' := by
  match values, h with
  | [], h => rw [h.nil_eq]
  | [value], h => rw [← List.perm_singleton.mp h.symm]
  | _ :: _ :: _, h =>
    have hlength : 2 ≤ values'.length := by
      rw [← h.length_eq]
      simp
    rw [pick_of_two_le hlength]
    rfl

end Field

namespace Fields

def toList : Fields → List Field
  | .nil => []
  | .cons name required schema rest => ⟨name, required, schema⟩ :: rest.toList

def names (fields : Fields) : List String := fields.toList.map Field.name

@[simp] theorem names_cons (name : String) (required : Bool) (schema : Schema) (rest : Fields) :
    (Fields.cons name required schema rest).names = name :: rest.names := rfl

theorem name_mem_names {fields : Fields} {f : Field} (h : f ∈ fields.toList) :
    f.name ∈ fields.names :=
  List.mem_map_of_mem h

/-- The values of a record from the value of its first field and those of the others. -/
def joinValues (name : String) (required : Bool) {schema : Schema} {rest : Fields}
    (value : schema.Value) (others : rest.Values) :
    (Fields.cons name required schema rest).Values := (value, others)

def build : (fields : Fields) → ((f : Field) → Option f.schema.Value) → Option fields.Values
  | .nil, _ => some ()
  | .cons name required schema rest, values => do
    let value ← values ⟨name, required, schema⟩
    let others ← rest.build values
    return joinValues name required value others

theorem build_congr {fields : Fields} {values values' : (f : Field) → Option f.schema.Value}
    (h : ∀ f ∈ fields.toList, values f = values' f) :
    fields.build values = fields.build values' := by
  match fields with
  | .nil => rfl
  | .cons name required schema rest =>
    have hrest : rest.build values = rest.build values' :=
      build_congr fun f hf => h f (List.mem_cons_of_mem _ hf)
    unfold build
    rw [h _ List.mem_cons_self, hrest]

theorem build_eq_none {fields : Fields} {values : (f : Field) → Option f.schema.Value} {f : Field}
    (hf : f ∈ fields.toList) (h : values f = none) : fields.build values = none := by
  match fields with
  | .nil => exact absurd hf List.not_mem_nil
  | .cons name required schema rest =>
    unfold build
    rcases List.mem_cons.mp hf with rfl | hf
    · rw [h]
      rfl
    · rw [build_eq_none hf h]
      cases values ⟨name, required, schema⟩ <;> rfl

theorem isSome_build_iff {fields : Fields} {values : (f : Field) → Option f.schema.Value} :
    (fields.build values).isSome = true ↔ ∀ f ∈ fields.toList, (values f).isSome = true := by
  constructor
  · intro h f hf
    cases hvalue : values f with
    | some value => rfl
    | none => simp [build_eq_none hf hvalue] at h
  · intro h
    match fields with
    | .nil => rfl
    | .cons name required schema rest =>
      obtain ⟨value, hvalue⟩ := Option.isSome_iff_exists.mp (h _ List.mem_cons_self)
      obtain ⟨others, hothers⟩ := Option.isSome_iff_exists.mp
        (isSome_build_iff.mpr fun f hf => h f (List.mem_cons_of_mem _ hf))
      unfold build
      rw [hvalue, hothers]
      rfl

/-! ## Reading an object -/

/-- Whether a member stands in no field's way: it has one, or it is JSON. -/
def admits (fields : Fields) (m : Doc.Member) : Bool :=
  match m.1 with
  | some name => fields.names.contains name || m.2.skips
  | none => false

/-- Puts a member into its field; its name must be a text. -/
def storeMember (fields : Fields) (draft : fields.Draft) (m : Doc.Member) :
    Except Fault fields.Draft :=
  match m.1 with
  | some name => fields.store name m.2 draft
  | none => .error .malformed

/-- What a slot holds after more values for it.  It takes one value and no second one. -/
def fill {schema : Schema} : Option schema.Value → List Doc → Option (Option schema.Value)
  | slot, [] => some slot
  | some _, _ :: _ => none
  | none, [value] => (schema.read value).toOption.map some
  | none, _ :: _ :: _ => none

theorem fill_cons {schema : Schema} (slot : Option schema.Value) (value : Doc)
    (values : List Doc) :
    fill slot (value :: values) = (fill slot [value]).bind fun slot => fill slot values := by
  cases slot with
  | some old => cases values <;> rfl
  | none =>
    show _ = ((schema.read value).toOption.map some).bind _
    cases values with
    | nil => cases h : schema.read value <;> simp [fill, h, Except.toOption]
    | cons second values => cases schema.read value <;> rfl

def joinDraft (name : String) (required : Bool) {schema : Schema} {rest : Fields}
    (slot : Option schema.Value) (draft : rest.Draft) :
    (Fields.cons name required schema rest).Draft := (slot, draft)

section Cons

variable {name : String} {required : Bool} {schema : Schema} {rest : Fields}
variable (slot : Option schema.Value) (draft : rest.Draft)

theorem emptyDraft_cons :
    (Fields.cons name required schema rest).emptyDraft =
      joinDraft name required none rest.emptyDraft := rfl

theorem store_joinDraft (other : String) (value : Doc) :
    store _ other value (joinDraft name required slot draft) =
      if other = name then
        if slot.isSome then .error .unexpected
        else do
          let new ← schema.read value
          return joinDraft name required (some new) draft
      else do
        let draft ← rest.store other value draft
        return joinDraft name required slot draft := rfl

theorem toOption_storeMember_self (value : Doc) :
    (storeMember _ (joinDraft name required slot draft) (some name, value)).toOption =
      (fill slot [value]).map fun slot => joinDraft name required slot draft := by
  show (store _ name value (joinDraft name required slot draft)).toOption = _
  rw [store_joinDraft, if_pos rfl]
  cases slot with
  | some old => rfl
  | none =>
    rw [if_neg (by simp), toOption_bind]
    show _ = ((schema.read value).toOption.map some).map _
    cases schema.read value <;> rfl

theorem toOption_storeMember_of_ne {m : Doc.Member} (h : m.1 ≠ some name) :
    (storeMember _ (joinDraft name required slot draft) m).toOption =
      (rest.storeMember draft m).toOption.map (joinDraft name required slot) := by
  obtain ⟨other, value⟩ := m
  cases other with
  | none => rfl
  | some other =>
    have hne : other ≠ name := fun heq => h (congrArg some heq)
    show (store _ other value (joinDraft name required slot draft)).toOption =
      (rest.store other value draft).toOption.map _
    rw [store_joinDraft, if_neg hne, toOption_bind]
    cases rest.store other value draft <;> rfl

theorem finish_joinDraft :
    finish _ (joinDraft name required slot draft) =
      match slot with
      | some value => do
        let others ← rest.finish draft
        return joinValues name required value others
      | none =>
        if required then .error .unexpected
        else do
          let others ← rest.finish draft
          return joinValues name required schema.default others := by
  cases slot <;> rfl

end Cons

/-- The first field's slot and the others are filled independently of each other. -/
theorem toOption_foldlM_joinDraft {name : String} {required : Bool} {schema : Schema}
    {rest : Fields} (members : List Doc.Member) (slot : Option schema.Value) (draft : rest.Draft) :
    (members.foldlM (storeMember _) (joinDraft name required slot draft)).toOption =
      (fill slot (Doc.valuesOf name members)).bind fun slot =>
        ((members.filter (·.1 ≠ some name)).foldlM rest.storeMember draft).toOption.bind
          fun draft => some (joinDraft name required slot draft) := by
  induction members generalizing slot draft with
  | nil => rfl
  | cons m members ih =>
    rw [List.foldlM_cons, toOption_bind, Doc.valuesOf_cons]
    by_cases h : m.1 = some name
    · obtain ⟨other, value⟩ := m
      obtain rfl : other = some name := h
      rw [toOption_storeMember_self, if_pos rfl, fill_cons _ _ (Doc.valuesOf name members),
        Option.bind_assoc, Option.bind_map, List.filter_cons_of_neg (by simp)]
      exact congrArg _ (funext fun slot => ih slot draft)
    · rw [toOption_storeMember_of_ne slot draft h, if_neg h,
        List.filter_cons_of_pos (by simpa using h), List.foldlM_cons, toOption_bind]
      cases (rest.storeMember draft m).toOption with
      | none => cases fill slot (Doc.valuesOf name members) <;> rfl
      | some draft => exact ih slot draft

theorem pick_eq_bind_fill (f : Field) (values : List Doc) :
    f.pick values =
      (fill (none : Option f.schema.Value) values).bind fun slot =>
        slot.or (if f.required then none else some f.schema.default) := by
  match values with
  | [] => exact (Option.none_or ..).symm
  | [value] =>
    show (f.schema.read value).toOption = ((f.schema.read value).toOption.map some).bind _
    cases f.schema.read value <;> rfl
  | _ :: _ :: _ => rfl

theorem toOption_finish_joinDraft {name : String} {required : Bool} {schema : Schema}
    {rest : Fields} (slot : Option schema.Value) (draft : rest.Draft) :
    (finish _ (joinDraft name required slot draft)).toOption =
      (slot.or (if required then none else some schema.default)).bind fun value =>
        (rest.finish draft).toOption.map (joinValues name required value) := by
  rw [finish_joinDraft]
  cases slot with
  | some value => cases h : rest.finish draft <;> rfl
  | none => cases required <;> cases h : rest.finish draft <;> rfl

theorem admits_cons {name : String} {required : Bool} {schema : Schema} {rest : Fields}
    (members : List Doc.Member) :
    members.all (admits (.cons name required schema rest)) =
      (members.filter (·.1 ≠ some name)).all rest.admits := by
  induction members with
  | nil => rfl
  | cons m members ih =>
    rw [List.all_cons, ih]
    by_cases h : m.1 = some name
    · rw [List.filter_cons_of_neg (by simpa using h)]
      simp [admits, h]
    · rw [List.filter_cons_of_pos (by simpa using h), List.all_cons]
      congr 1
      unfold admits
      cases hname : m.1 with
      | none => rfl
      | some other =>
        have hne : other ≠ name := fun heq => h (hname.trans (congrArg some heq))
        simp [hne]

/-- What is read from members: the fields from the values of their names, in whatever order the
members stand. -/
theorem toOption_foldlM_finish {fields : Fields} (hnames : fields.names.Nodup)
    (members : List Doc.Member) :
    (members.foldlM fields.storeMember fields.emptyDraft >>= fields.finish).toOption =
      if members.all fields.admits then
        fields.build fun f => f.pick (Doc.valuesOf f.name members)
      else none := by
  match fields with
  | .nil =>
    induction members with
    | nil => rfl
    | cons m members ih =>
      obtain ⟨other, value⟩ := m
      rw [toOption_bind] at ih ⊢
      rw [List.foldlM_cons, toOption_bind, List.all_cons]
      cases other with
      | none => rfl
      | some other =>
        show ((value.skip).toOption.bind _).bind _ = if (value.skip.isOk && _) then _ else _
        cases value.skip with
        | error fault => rfl
        | ok _ => exact ih
  | .cons name required schema rest =>
    obtain ⟨hname, hrest⟩ := List.nodup_cons.mp hnames
    -- the other fields are read from the members that do not have the first one's name, and those
    -- that have it would not have shown in them
    have hothers := toOption_foldlM_finish hrest (members.filter (·.1 ≠ some name))
    have hpicks : ∀ f ∈ rest.toList,
        f.pick (Doc.valuesOf f.name (members.filter (·.1 ≠ some name))) =
          f.pick (Doc.valuesOf f.name members) := by
      intro f hf
      have hne : f.name ≠ name := by
        rintro rfl
        exact hname (name_mem_names (f := f) hf)
      rw [Doc.valuesOf_filter hne]
    rw [build_congr hpicks, toOption_bind] at hothers
    rw [toOption_bind, emptyDraft_cons, toOption_foldlM_joinDraft, admits_cons, build,
      pick_eq_bind_fill]
    -- what the first field holds and what the others are read as are put together from here on
    generalize fill (none : Option schema.Value) (Doc.valuesOf name members) = slot
    generalize (members.filter (·.1 ≠ some name)).all rest.admits = admitted at hothers ⊢
    generalize ((members.filter (·.1 ≠ some name)).foldlM rest.storeMember
      rest.emptyDraft).toOption = stored at hothers ⊢
    generalize rest.build (fun f => f.pick (Doc.valuesOf f.name members)) = others at hothers ⊢
    cases slot with
    | none => cases admitted <;> rfl
    | some slot =>
      simp only [Option.bind_some, Option.bind_assoc, toOption_finish_joinDraft]
      cases hvalue : slot.or (if required then none else some schema.default) with
      | none => cases admitted <;> cases stored <;> rfl
      | some value =>
        have hfirst : (stored.bind fun draft =>
            (rest.finish draft).toOption.map (joinValues name required value)) =
              (stored.bind fun draft => (rest.finish draft).toOption).map
                (joinValues name required value) := by
          cases stored <;> rfl
        simp only [Option.bind_some, hfirst, hothers]
        cases admitted <;> cases others <;> simp

def readObject (fields : Fields) (members : List Doc.Member) (cut : Option Cut) :
    Except Fault fields.Values := do
  let draft ← members.foldlM fields.storeMember fields.emptyDraft
  Doc.endOf Cut.onRead cut
  fields.finish draft

theorem read_object (fields : Fields) (members : List Doc.Member) (cut : Option Cut) :
    (Schema.record fields).read (.object members cut) = fields.readObject members cut := rfl

/-- A record is read from an object by its fields, each of which sees the values of its name. -/
theorem toOption_readObject {fields : Fields} (hnames : fields.names.Nodup)
    (members : List Doc.Member) (cut : Option Cut) :
    (fields.readObject members cut).toOption =
      if cut = none ∧ members.all fields.admits then
        fields.build fun f => f.pick (Doc.valuesOf f.name members)
      else none := by
  cases cut with
  | some cut =>
    unfold readObject
    rw [toOption_bind]
    cases (members.foldlM fields.storeMember fields.emptyDraft).toOption with
    | none => simp
    | some draft => simp [toOption_bind, toOption_endOf]
  | none =>
    show (members.foldlM fields.storeMember fields.emptyDraft >>= fields.finish).toOption = _
    rw [toOption_foldlM_finish hnames members]
    simp only [true_and]

end Fields
end PoolPage
