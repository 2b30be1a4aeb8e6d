import PoolPage.Proofs.Json.Outcome

/-!
# Changes at any place

A change of documents is given at a place: by the schema that reads it and by how deep values may
still be nested there.  `Throughout` is such a change, or several one after the other, forth or
back, at any places that are read.  What holds of a change at its own place holds of it for the
whole document: it can stand for the other (`Throughout.agrees`), and it is as complete as the other
(`Throughout.passes_eq`).
-/

namespace PoolPage
namespace Doc

/-! ## Complete values -/

/-- Whether a value can be read completely within a depth. -/
def passes (depth : Nat) (doc : Doc) : Bool := (doc.check depth).isOk

def memberPasses (depth : Nat) (m : Member) : Bool := m.1.isSome && m.2.passes depth

theorem isOk_bind {ε α : Type} (x : Except ε Unit) (y : Except ε α) :
    (x >>= fun _ => y).isOk = (x.isOk && y.isOk) := by
  cases x <;> rfl

theorem isOk_endOf (fault : Cut → Fault) (cut : Option Cut) :
    (endOf fault cut).isOk = cut.isNone := by
  cases cut <;> rfl

theorem isOk_checkItems (depth : Nat) (items : List Doc) :
    (checkItems depth items).isOk = items.all (passes depth) := by
  induction items with
  | nil => rfl
  | cons item items ih =>
    show (item.check depth >>= fun _ => checkItems depth items).isOk = _
    rw [isOk_bind, ih, List.all_cons]
    rfl

theorem isOk_checkMembers (depth : Nat) (members : List Member) :
    (checkMembers depth members).isOk = members.all (memberPasses depth) := by
  induction members with
  | nil => rfl
  | cons m members ih =>
    obtain ⟨name, value⟩ := m
    rw [List.all_cons, ← ih]
    cases name with
    | none => rfl
    | some name =>
      show (value.check depth >>= fun _ => checkMembers depth members).isOk = _
      rw [isOk_bind]
      rfl

theorem passes_array_zero (items : List Doc) (cut : Option Cut) :
    passes 0 (.array items cut) = false := rfl

theorem passes_array (depth : Nat) (items : List Doc) (cut : Option Cut) :
    passes (depth + 1) (.array items cut) = (items.all (passes depth) && cut.isNone) := by
  show (checkItems depth items >>= fun _ => endOf Cut.onRead cut).isOk = _
  rw [isOk_bind, isOk_checkItems, isOk_endOf]

theorem passes_object (depth : Nat) (members : List Member) (cut : Option Cut) :
    passes (depth + 1) (.object members cut) =
      (members.all (memberPasses depth) && cut.isNone) := by
  show (checkMembers depth members >>= fun _ => endOf Cut.onRead cut).isOk = _
  rw [isOk_bind, isOk_checkMembers, isOk_endOf]

mutual

/-- What can be read completely can be skipped. -/
theorem skip_isOk_of_passes : ∀ (doc : Doc) {depth : Nat}, doc.passes depth = true →
    doc.skip.isOk = true
  | .null, _, _ => rfl
  | .bool _, _, _ => rfl
  | .string _, _, _ => rfl
  | .number _, _, _ => rfl
  | .broken _, _, h => nomatch h
  | .array items cut, 0, h => nomatch h
  | .array items cut, depth + 1, h => by
    rw [passes_array, Bool.and_eq_true] at h
    have hitems := skipItems_isOk_of_passes items h.1
    show (skipItems items >>= fun _ => endOf Cut.onSkip cut).isOk = true
    rw [isOk_bind, isOk_endOf, hitems, h.2]
    rfl
  | .object members cut, 0, h => nomatch h
  | .object members cut, depth + 1, h => by
    rw [passes_object, Bool.and_eq_true] at h
    have hmembers := skipMembers_isOk_of_passes members h.1
    show (skipMembers members >>= fun _ => endOf Cut.onSkip cut).isOk = true
    rw [isOk_bind, isOk_endOf, hmembers, h.2]
    rfl

theorem skipItems_isOk_of_passes : ∀ (items : List Doc) {depth : Nat},
    items.all (passes depth) = true → (skipItems items).isOk = true
  | [], _, _ => rfl
  | item :: items, depth, h => by
    rw [List.all_cons, Bool.and_eq_true] at h
    have hitem := skip_isOk_of_passes item h.1
    have hitems := skipItems_isOk_of_passes items h.2
    show (item.skip >>= fun _ => skipItems items).isOk = true
    rw [isOk_bind, hitem, hitems]
    rfl

theorem skipMembers_isOk_of_passes : ∀ (members : List Member) {depth : Nat},
    members.all (memberPasses depth) = true → (skipMembers members).isOk = true
  | [], _, _ => rfl
  | (name, value) :: members, depth, h => by
    rw [List.all_cons, memberPasses, Bool.and_eq_true, Bool.and_eq_true] at h
    have hvalue := skip_isOk_of_passes value h.1.2
    have hmembers := skipMembers_isOk_of_passes members h.2
    show (value.skip >>= fun _ => skipMembers members).isOk = true
    rw [isOk_bind, hvalue, hmembers]
    rfl

end

theorem skips_of_passes {depth : Nat} {doc : Doc} (h : doc.passes depth = true) :
    doc.skips = true :=
  skip_isOk_of_passes doc h

end Doc

theorem Fields.all_admits_of_passes (fields : Fields) {depth : Nat} {members : List Doc.Member}
    (h : members.all (Doc.memberPasses depth) = true) : members.all fields.admits = true := by
  rw [List.all_eq_true] at h ⊢
  intro m hm
  obtain ⟨name, value⟩ := m
  have hpasses := h _ hm
  cases name with
  | none => exact nomatch hpasses
  | some name =>
    have hskips : value.skips = true := Doc.skips_of_passes hpasses
    simp [admits, hskips]

/-! ## Agreement -/

/-- One document can stand for another where it is read by a schema. -/
structure Schema.Agrees (schema : Schema) (doc doc' : Doc) : Prop where
  outcome : schema.SameOutcome doc doc'
  null : doc = .null ↔ doc' = .null

namespace Schema.Agrees

variable {schema : Schema} {doc doc' other value value' : Doc}

theorem refl (schema : Schema) (doc : Doc) : schema.Agrees doc doc where
  outcome := SameOutcome.refl schema doc
  null := Iff.rfl

theorem symm (h : schema.Agrees doc doc') : schema.Agrees doc' doc where
  outcome := h.outcome.symm
  null := h.null.symm

theorem trans (h : schema.Agrees doc doc') (h' : schema.Agrees doc' other) :
    schema.Agrees doc other where
  outcome := h.outcome.trans h'.outcome
  null := h.null.trans h'.null

theorem optional (h : schema.Agrees doc doc') : (Schema.optional schema).Agrees doc doc' where
  outcome := h.outcome.optional h.null
  null := h.null

theorem nullable (h : schema.Agrees doc doc') : (Schema.nullable schema).Agrees doc doc' where
  outcome := h.outcome.nullable h.null
  null := h.null

theorem item (h : schema.Agrees value value') (before after : List Doc) (cut : Option Cut) :
    (Schema.list schema).Agrees (.array (before ++ value :: after) cut)
      (.array (before ++ value' :: after) cut) where
  outcome := h.outcome.item before after cut
  null := by simp

theorem place {fields : Fields} {f : Field} {before : List Doc}
    (hf : fields.toList[before.length]? = some f) (h : f.schema.Agrees value value')
    (after : List Doc) (cut : Option Cut) :
    (Schema.record fields).Agrees (.array (before ++ value :: after) cut)
      (.array (before ++ value' :: after) cut) where
  outcome := SameOutcome.place hf h.outcome after cut
  null := by simp

theorem member {fields : Fields} (hnames : fields.names.Nodup) {f : Field}
    (hf : f ∈ fields.toList) (h : f.schema.Agrees value value')
    (before after : List Doc.Member) (cut : Option Cut) :
    (Schema.record fields).Agrees (.object (before ++ (some f.name, value) :: after) cut)
      (.object (before ++ (some f.name, value') :: after) cut) where
  outcome := SameOutcome.member hnames hf h.outcome before after cut
  null := by simp

end Schema.Agrees

/-! ## Changes throughout a document -/

/-- A change at any places of a document, any number of times, forth or back. -/
inductive Throughout (change : Nat → Schema → Doc → Doc → Prop) : Nat → Schema → Doc → Doc → Prop
  | here {depth schema doc doc'} (h : change depth schema doc doc') :
    Throughout change depth schema doc doc'
  | refl {depth schema doc} : Throughout change depth schema doc doc
  | symm {depth schema doc doc'} (h : Throughout change depth schema doc doc') :
    Throughout change depth schema doc' doc
  | trans {depth schema doc doc' other} (h : Throughout change depth schema doc doc')
    (h' : Throughout change depth schema doc' other) : Throughout change depth schema doc other
  | optional {depth schema doc doc'} (h : Throughout change depth schema doc doc') :
    Throughout change depth (.optional schema) doc doc'
  | nullable {depth schema doc doc'} (h : Throughout change depth schema doc doc') :
    Throughout change depth (.nullable schema) doc doc'
  | item {depth schema value value'} (before after : List Doc) (cut : Option Cut)
    (h : Throughout change depth schema value value') :
    Throughout change (depth + 1) (.list schema) (.array (before ++ value :: after) cut)
      (.array (before ++ value' :: after) cut)
  | place {depth value value'} {fields : Fields} {f : Field} (before after : List Doc)
    (cut : Option Cut) (hf : fields.toList[before.length]? = some f)
    (h : Throughout change depth f.schema value value') :
    Throughout change (depth + 1) (.record fields) (.array (before ++ value :: after) cut)
      (.array (before ++ value' :: after) cut)
  | member {depth value value'} {fields : Fields} {f : Field} (before after : List Doc.Member)
    (cut : Option Cut) (hf : f ∈ fields.toList)
    (h : Throughout change depth f.schema value value') :
    Throughout change (depth + 1) (.record fields)
      (.object (before ++ (some f.name, value) :: after) cut)
      (.object (before ++ (some f.name, value') :: after) cut)

namespace Throughout

variable {change : Nat → Schema → Doc → Doc → Prop} {depth : Nat} {schema : Schema}
variable {doc doc' : Doc}

/-- If what is changed can stand for what it was, then so can the whole document. -/
theorem agrees
    (hchange : ∀ {depth schema doc doc'}, schema.IsDistinct → change depth schema doc doc' →
      schema.Agrees doc doc')
    (h : Throughout change depth schema doc doc') (hdistinct : schema.IsDistinct) :
    schema.Agrees doc doc' := by
  induction h with
  | here h => exact hchange hdistinct h
  | refl => exact Schema.Agrees.refl _ _
  | symm _ ih => exact (ih hdistinct).symm
  | trans _ _ ih ih' => exact (ih hdistinct).trans (ih' hdistinct)
  | optional _ ih => exact (ih hdistinct).optional
  | nullable _ ih => exact (ih hdistinct).nullable
  | item before after cut _ ih => exact (ih hdistinct).item before after cut
  | place before after cut hf _ ih =>
    have hfield := hdistinct.field (List.mem_of_getElem? hf)
    exact Schema.Agrees.place hf (ih hfield) after cut
  | member before after cut hf _ ih =>
    exact Schema.Agrees.member hdistinct.names hf (ih (hdistinct.field hf)) before after cut

/-- If what is changed stays complete within its depth, then so does the whole document. -/
theorem passes_eq
    (hchange : ∀ {depth schema doc doc'}, change depth schema doc doc' →
      doc.passes depth = doc'.passes depth)
    (h : Throughout change depth schema doc doc') : doc.passes depth = doc'.passes depth := by
  induction h with
  | here h => exact hchange h
  | refl => rfl
  | symm _ ih => exact ih.symm
  | trans _ _ ih ih' => exact ih.trans ih'
  | optional _ ih => exact ih
  | nullable _ ih => exact ih
  | item _ _ _ _ ih => simp only [Doc.passes_array, List.all_append, List.all_cons, ih]
  | place _ _ _ _ _ ih => simp only [Doc.passes_array, List.all_append, List.all_cons, ih]
  | member _ _ _ _ _ ih =>
    simp only [Doc.passes_object, List.all_append, List.all_cons, Doc.memberPasses, ih]

end Throughout
end PoolPage
