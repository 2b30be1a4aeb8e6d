import PoolPage.Proofs.Page.Writers

/-!
# Pages that can be shown

A loaded page changes by batches of its writers, by the visitor's pointer, by layouts of
its charts, and when its flag is taken.  `Shown` holds of the pages that come about so.

`Shown.invariant` is the induction over such a page: what holds of a loaded page and is
kept by updates of the writers and by texts of hovered regions holds of every page
that is shown.
-/

namespace PoolPage

inductive Shown : Page → Prop
  | loaded : Shown .loaded
  | batch {page : Page} (batch : Batch) : Shown page → Shown (page.applyAll batch.updates)
  | pointerMove {page : Page} (id : String) (index : Nat) :
    Shown page → Shown (page.pointerMove id index)
  | pointerOut {page : Page} (id : String) : Shown page → Shown (page.pointerOut id)
  | resize {page : Page} : Shown page → Shown page.resize
  | settled {page : Page} : Shown page → Shown (page.resizeChart MinerPanel.chart)
  | taken {page : Page} : Shown page → Shown page.takeDirty.2

namespace Page

/-- A text region that a sparkline of the page changes while the pointer is over it. -/
def IsHovered (page : Page) (target : String) : Prop :=
  ∃ id svg hover, page.sparklines.get? id = some (svg, hover) ∧ hover.target = target

theorem pointerMove_eq (page : Page) (id : String) (index : Nat) :
    page.pointerMove id index = page ∨
      ∃ target new, page.IsHovered target ∧
        page.pointerMove id index = page.setText target new := by
  unfold pointerMove
  split
  next svg hover hget =>
    cases hlabel : hover.labels[index]? with
    | none => simp [Hover.over?, hlabel]
    | some label =>
      refine .inr ⟨hover.target, label, ⟨id, svg, hover, hget, rfl⟩, ?_⟩
      simp [Hover.over?, hlabel]
  next => exact .inl rfl

theorem pointerOut_eq (page : Page) (id : String) :
    page.pointerOut id = page ∨
      ∃ target new, page.IsHovered target ∧ page.pointerOut id = page.setText target new := by
  unfold pointerOut
  split
  next svg hover hget => exact .inr ⟨hover.target, _, ⟨id, svg, hover, hget, rfl⟩, rfl⟩
  next => exact .inl rfl

end Page

/-- What a property of pages needs to hold of every page that is shown. -/
structure IsKept (holds : Page → Prop) : Prop where
  loaded : holds .loaded
  update : ∀ {page : Page} {batch : Batch}, ∀ u ∈ batch.updates, holds page → holds (page.apply u)
  hover : ∀ {page : Page} {target : String} (new : String), page.IsHovered target → holds page →
    holds (page.setText target new)
  resize : ∀ {page : Page}, holds page → holds page.resize
  settled : ∀ {page : Page}, holds page → holds (page.resizeChart MinerPanel.chart)
  taken : ∀ {page : Page}, holds page → holds page.takeDirty.2

theorem IsKept.applyAll {holds : Page → Prop} (h : IsKept holds) {page : Page} (batch : Batch)
    (hpage : holds page) : holds (page.applyAll batch.updates) := by
  -- the updates are those of the batch up to a point
  have hall : ∀ us : List Update, (∀ u ∈ us, u ∈ batch.updates) → ∀ page, holds page →
      holds (page.applyAll us) := by
    intro us hus
    induction us with
    | nil => exact fun _ hpage => hpage
    | cons u us ih =>
      intro page hpage
      exact ih (fun v hv => hus v (List.mem_cons_of_mem u hv)) _
        (h.update u (hus u List.mem_cons_self) hpage)
  exact hall batch.updates (fun _ hu => hu) page hpage

theorem Shown.invariant {holds : Page → Prop} (h : IsKept holds) {page : Page}
    (hpage : Shown page) : holds page := by
  induction hpage with
  | loaded => exact h.loaded
  | batch batch _ ih => exact h.applyAll batch ih
  | pointerMove id index _ ih =>
    rcases Page.pointerMove_eq _ id index with heq | ⟨target, new, hhover, heq⟩
    · rwa [heq]
    · rw [heq]
      exact h.hover new hhover ih
  | pointerOut id _ ih =>
    rcases Page.pointerOut_eq _ id with heq | ⟨target, new, hhover, heq⟩
    · rwa [heq]
    · rw [heq]
      exact h.hover new hhover ih
  | resize _ ih => exact h.resize ih
  | settled _ ih => exact h.settled ih
  | taken _ ih => exact h.taken ih

end PoolPage
