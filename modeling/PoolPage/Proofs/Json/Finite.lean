import PoolPage.Json.Schema

/-!
# Finite values

Every number in a value that was read is finite: a literal out of range is a fault, and the number
of an absent field is zero (`Schema.allFinite_read`).
-/

namespace PoolPage

theorem bind_eq_ok_iff {ε α β : Type} {x : Except ε α} {f : α → Except ε β} {b : β} :
    (x >>= f) = .ok b ↔ ∃ a, x = .ok a ∧ f a = .ok b := by
  cases x with
  | error e => exact ⟨nofun, fun ⟨_, h, _⟩ => nomatch h⟩
  | ok a => exact ⟨fun h => ⟨a, rfl, h⟩, fun ⟨_, h, h'⟩ => by cases h; exact h'⟩

/-- What each step of a reading preserves is there at its end. -/
theorem foldlM_preserves {ε α β : Type} {P : β → Prop} {f : β → α → Except ε β}
    (hstep : ∀ b a b', P b → f b a = .ok b' → P b') {xs : List α} {b b' : β} (hb : P b)
    (h : xs.foldlM f b = .ok b') : P b' := by
  induction xs generalizing b with
  | nil =>
    cases h
    exact hb
  | cons x xs ih =>
    rw [List.foldlM_cons, bind_eq_ok_iff] at h
    obtain ⟨c, hc, hrest⟩ := h
    exact ih (hstep b x c hb hc) hrest

theorem mapM_preserves {ε α β : Type} {P : β → Prop} {f : α → Except ε β}
    (hstep : ∀ a b, f a = .ok b → P b) {xs : List α} {ys : List β} (h : xs.mapM f = .ok ys) :
    ∀ y ∈ ys, P y := by
  induction xs generalizing ys with
  | nil =>
    cases h
    exact nofun
  | cons x xs ih =>
    rw [List.mapM_cons, bind_eq_ok_iff] at h
    obtain ⟨y, hy, hrest⟩ := h
    obtain ⟨zs, hzs, hcons⟩ := bind_eq_ok_iff.mp hrest
    cases hcons
    exact List.forall_mem_cons.mpr ⟨hstep x y hy, ih hzs⟩

/-! ## Numbers of a value -/

mutual

/-- All numbers in a value are finite. -/
def Schema.AllFinite : (schema : Schema) → schema.Value → Prop
  | .float, x => Binary64.isFinite x = true
  | .integer, _ => True
  | .natural _, _ => True
  | .text, _ => True
  | .optional inner, (value : Option inner.Value) => ∀ v ∈ value, inner.AllFinite v
  | .list item, (values : List item.Value) => ∀ v ∈ values, item.AllFinite v
  | .nullable inner, value => inner.AllFinite value
  | .record fields, values => fields.AllFinite values

def Fields.AllFinite : (fields : Fields) → fields.Values → Prop
  | .nil, _ => True
  | .cons _ _ schema rest, (value, values) => schema.AllFinite value ∧ rest.AllFinite values

end

/-- The numbers of the fields that have been read so far. -/
def Fields.DraftFinite : (fields : Fields) → fields.Draft → Prop
  | .nil, _ => True
  | .cons _ _ schema rest, (slot, draft) =>
    (∀ value ∈ slot, schema.AllFinite value) ∧ rest.DraftFinite draft

theorem Fields.draftFinite_emptyDraft : ∀ fields : Fields, fields.DraftFinite fields.emptyDraft
  | .nil => trivial
  | .cons _ _ _ rest => ⟨nofun, draftFinite_emptyDraft rest⟩

mutual

theorem Schema.allFinite_default : ∀ schema : Schema, schema.AllFinite schema.default
  | .float => rfl
  | .integer => trivial
  | .natural _ => trivial
  | .text => trivial
  | .optional _ => nofun
  | .list _ => nofun
  | .nullable inner => inner.allFinite_default
  | .record fields => fields.allFinite_defaults

theorem Fields.allFinite_defaults : ∀ fields : Fields, fields.AllFinite fields.defaults
  | .nil => trivial
  | .cons _ _ schema rest => ⟨schema.allFinite_default, rest.allFinite_defaults⟩

end

theorem Fields.allFinite_finish : ∀ (fields : Fields) {draft : fields.Draft}
    {values : fields.Values}, fields.DraftFinite draft → fields.finish draft = .ok values →
    fields.AllFinite values
  | .nil, _, _, _, _ => trivial
  | .cons _ _ _ rest, (some value, draft), _, ⟨hvalue, hdraft⟩, h => by
    obtain ⟨others, hothers, hpair⟩ := bind_eq_ok_iff.mp h
    cases hpair
    exact ⟨hvalue value rfl, rest.allFinite_finish hdraft hothers⟩
  | .cons _ true _ _, (none, _), _, _, h => nomatch h
  | .cons _ false schema rest, (none, draft), _, ⟨_, hdraft⟩, h => by
    obtain ⟨others, hothers, hpair⟩ := bind_eq_ok_iff.mp h
    cases hpair
    exact ⟨schema.allFinite_default, rest.allFinite_finish hdraft hothers⟩

theorem isFinite_of_readFloat {doc : Doc} {x : Binary64} (h : doc.readFloat = .ok x) :
    x.isFinite = true := by
  cases doc with
  | number l =>
    simp only [Doc.readFloat] at h
    split at h
    · exact nomatch h
    · next hrange =>
      cases h
      simpa [Literal.overflows] using hrange
  | _ => exact nomatch h

/-! ## Reading -/

mutual

/-- All numbers that are read from a document are finite. -/
theorem Schema.allFinite_read : ∀ (schema : Schema) {doc : Doc} {value : schema.Value},
    schema.read doc = .ok value → schema.AllFinite value
  | .float, _, _, h => isFinite_of_readFloat h
  | .integer, _, _, _ => trivial
  | .natural _, _, _, _ => trivial
  | .text, _, _, _ => trivial
  | .optional inner, doc, value, h => by
    cases doc with
    | null =>
      cases h
      exact nofun
    | _ =>
      obtain ⟨inside, hinside, hsome⟩ := bind_eq_ok_iff.mp h
      cases hsome
      rintro v ⟨⟩
      exact inner.allFinite_read hinside
  | .list item, doc, value, h => by
    cases doc with
    | array items cut =>
      obtain ⟨values, hvalues, hend⟩ := bind_eq_ok_iff.mp h
      obtain ⟨_, _, hsame⟩ := bind_eq_ok_iff.mp hend
      cases hsame
      exact mapM_preserves (fun _ _ hread => item.allFinite_read hread) hvalues
    | _ => exact nomatch h
  | .nullable inner, doc, value, h => by
    cases doc with
    | null =>
      cases h
      exact inner.allFinite_default
    | _ => exact inner.allFinite_read h
  | .record fields, doc, value, h => by
    cases doc with
    | array items cut => exact fields.allFinite_readItems h
    | object members cut =>
      obtain ⟨draft, hdraft, hend⟩ := bind_eq_ok_iff.mp h
      obtain ⟨_, _, hfinish⟩ := bind_eq_ok_iff.mp hend
      refine fields.allFinite_finish (foldlM_preserves ?_ fields.draftFinite_emptyDraft hdraft)
        hfinish
      rintro draft ⟨name, member⟩ draft' hfinite hstore
      cases name with
      | none => exact nomatch hstore
      | some name => exact fields.draftFinite_store hfinite hstore
    | _ => exact nomatch h

theorem Fields.draftFinite_store : ∀ (fields : Fields) {name : String} {doc : Doc}
    {draft draft' : fields.Draft}, fields.DraftFinite draft →
    fields.store name doc draft = .ok draft' → fields.DraftFinite draft'
  | .nil, _, _, _, _, _, _ => trivial
  | .cons field _ schema rest, name, doc, (slot, draft), _, ⟨hslot, hdraft⟩, h => by
    replace h : (if name = field then
        if slot.isSome then .error .unexpected
        else schema.read doc >>= fun new => pure (some new, draft)
      else rest.store name doc draft >>= fun draft => pure (slot, draft)) = Except.ok _ := h
    split at h
    · split at h
      · exact nomatch h
      · obtain ⟨new, hnew, hpair⟩ := bind_eq_ok_iff.mp h
        cases hpair
        refine ⟨?_, hdraft⟩
        rintro v ⟨⟩
        exact schema.allFinite_read hnew
    · obtain ⟨stored, hstored, hpair⟩ := bind_eq_ok_iff.mp h
      cases hpair
      exact ⟨hslot, rest.draftFinite_store hdraft hstored⟩

theorem Fields.allFinite_readItems : ∀ (fields : Fields) {items : List Doc} {cut : Option Cut}
    {values : fields.Values}, fields.readItems items cut = .ok values → fields.AllFinite values
  | .nil, _, _, _, _ => trivial
  | .cons _ _ schema rest, item :: items, cut, _, h => by
    obtain ⟨value, hvalue, hrest⟩ := bind_eq_ok_iff.mp h
    obtain ⟨others, hothers, hpair⟩ := bind_eq_ok_iff.mp hrest
    cases hpair
    exact ⟨schema.allFinite_read hvalue, rest.allFinite_readItems hothers⟩
  | .cons _ _ _ _, [], some cut, _, h => nomatch h
  | .cons _ true _ _, [], none, _, h => nomatch h
  | .cons _ false schema rest, [], none, _, h => by
    obtain ⟨others, hothers, hpair⟩ := bind_eq_ok_iff.mp h
    cases hpair
    exact ⟨schema.allFinite_default, rest.allFinite_readItems hothers⟩

end

theorem Schema.allFinite_readText (schema : Schema) {text : String} {value : schema.Value}
    (h : schema.readText text = .ok value) : schema.AllFinite value := by
  obtain ⟨read, hread, htrailing⟩ := bind_eq_ok_iff.mp h
  split at htrailing
  · exact nomatch htrailing
  · cases htrailing
    exact schema.allFinite_read hread

end PoolPage
