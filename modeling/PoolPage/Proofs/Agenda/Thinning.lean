import PoolPage.Agenda

/-!
# Thinned agendas

An agenda is thinned if some of its appointments are struck out, and all others are
kept in their order.  `Thinned p n s t` says that `t` is `s` less `n` appointments of
which `p` holds.  Two runs of which one has more to do than the other are compared by
such agendas: what both enter keeps them thinned (`Thinned.enter`), and so does what
only the busier one enters (`Thinned.enter_left`).
-/

namespace PoolPage
namespace Agenda

variable {α : Type}

/-! ## Entering -/

theorem enter_cons (a b : Appointment α) (rest : Agenda α) :
    enter a (b :: rest) = if a.overtakes b then a :: b :: rest else b :: enter a rest := rfl

theorem enter_of_overtakes {a : Appointment α} {agenda : Agenda α}
    (h : ∀ b ∈ agenda, a.overtakes b = true) : enter a agenda = a :: agenda := by
  cases agenda with
  | nil => rfl
  | cons b rest => rw [enter_cons, if_pos (h b List.mem_cons_self)]

theorem overtakes_of_isOrdered {a b : Appointment α} {rest : Agenda α}
    (h : IsOrdered (b :: rest)) (hab : a.overtakes b = true) :
    ∀ c ∈ rest, a.overtakes c = true := by
  intro c hc
  have hcb := (List.pairwise_cons.mp h).1 c hc
  rw [← Bool.not_eq_true, Appointment.overtakes_iff] at hcb
  rw [Appointment.overtakes_iff] at hab ⊢
  omega

theorem time_le_of_isOrdered {a : Appointment α} {rest : Agenda α} (h : IsOrdered (a :: rest)) :
    ∀ b ∈ rest, a.time ≤ b.time := by
  intro b hb
  have hba := (List.pairwise_cons.mp h).1 b hb
  rw [← Bool.not_eq_true, Appointment.overtakes_iff] at hba
  omega

theorem enter_perm (a : Appointment α) (agenda : Agenda α) :
    (enter a agenda).Perm (a :: agenda) := by
  induction agenda with
  | nil => exact .refl _
  | cons b rest ih =>
    rw [enter_cons]
    split
    · exact .refl _
    · exact (ih.cons b).trans (.swap a b rest)

/-! ## Thinning -/

inductive Thinned (p : Appointment α → Prop) : Nat → Agenda α → Agenda α → Prop
  | nil : Thinned p 0 [] []
  | keep {n : Nat} {s t : Agenda α} (a : Appointment α) :
    Thinned p n s t → Thinned p n (a :: s) (a :: t)
  | strike {n : Nat} {s t : Agenda α} {a : Appointment α} :
    p a → Thinned p n s t → Thinned p (n + 1) (a :: s) t

namespace Thinned

variable {p : Appointment α → Prop} {n : Nat} {s t : Agenda α}

theorem refl (s : Agenda α) : Thinned p 0 s s := by
  induction s with
  | nil => exact .nil
  | cons a rest ih => exact .keep a ih

/-- Everything may be struck out of an agenda of such appointments. -/
theorem of_forall (h : ∀ a ∈ s, p a) : Thinned p s.length s [] := by
  induction s with
  | nil => exact .nil
  | cons a rest ih =>
    exact .strike (h a List.mem_cons_self) (ih fun b hb => h b (List.mem_cons_of_mem a hb))

theorem sublist (h : Thinned p n s t) : t.Sublist s := by
  induction h with
  | nil => exact .slnil
  | keep a _ ih => exact ih.cons_cons a
  | strike _ _ ih => exact ih.cons _

theorem isOrdered (h : Thinned p n s t) (hs : s.IsOrdered) : t.IsOrdered :=
  List.Pairwise.sublist h.sublist hs

theorem eq_of_forall_not (h : Thinned p n s t) (hs : ∀ a ∈ s, ¬ p a) : n = 0 ∧ s = t := by
  induction h with
  | nil => exact ⟨rfl, rfl⟩
  | keep a _ ih =>
    obtain ⟨hn, heq⟩ := ih fun b hb => hs b (List.mem_cons_of_mem a hb)
    exact ⟨hn, by rw [heq]⟩
  | strike ha _ _ => exact absurd ha (hs _ List.mem_cons_self)

theorem enter (h : Thinned p n s t) (hs : s.IsOrdered) (a : Appointment α) :
    Thinned p n (Agenda.enter a s) (Agenda.enter a t) := by
  induction h with
  | nil => exact .keep a .nil
  | keep b h ih =>
    rw [enter_cons, enter_cons]
    split
    · exact .keep a (.keep b h)
    · exact .keep b (ih (List.pairwise_cons.mp hs).2)
  | @strike n s t b hb h ih =>
    rw [enter_cons]
    split
    next hab =>
      -- what is left stands behind `b`, and is overtaken as well
      have ht : ∀ c ∈ t, a.overtakes c = true := fun c hc =>
        overtakes_of_isOrdered hs hab c (h.sublist.mem hc)
      rw [enter_of_overtakes ht]
      exact .keep a (.strike hb h)
    next => exact .strike hb (ih (List.pairwise_cons.mp hs).2)

/-- The busier agenda gets one more appointment that may be struck out. -/
theorem enter_left (h : Thinned p n s t) {a : Appointment α} (ha : p a) :
    Thinned p (n + 1) (Agenda.enter a s) t := by
  induction h with
  | nil => exact .strike ha .nil
  | keep b h ih =>
    rw [enter_cons]
    split
    · exact .strike ha (.keep b h)
    · exact .keep b ih
  | strike hb h ih =>
    rw [enter_cons]
    split
    · exact .strike ha (.strike hb h)
    · exact .strike hb ih

/-- Appointments of a kind that all those to be struck out belong to. -/
theorem filter (h : Thinned p n s t) {kind : Appointment α → Bool}
    (hkind : ∀ a, p a → kind a = true) : Thinned p n (s.filter kind) (t.filter kind) := by
  induction h with
  | nil => exact .nil
  | keep a _ ih =>
    by_cases ha : kind a = true
    · simpa [List.filter_cons, ha] using Thinned.keep a ih
    · simpa [List.filter_cons, ha] using ih
  | strike ha _ ih => simpa [List.filter_cons, hkind _ ha] using Thinned.strike ha ih

/-- Appointments of a kind that none of those to be struck out belongs to. -/
theorem filter_eq (h : Thinned p n s t) {kind : Appointment α → Bool}
    (hkind : ∀ a, p a → kind a = false) : s.filter kind = t.filter kind := by
  induction h with
  | nil => rfl
  | keep a _ ih => by_cases ha : kind a = true <;> simp [ha, ih]
  | strike ha _ ih => simpa [List.filter_cons, hkind _ ha] using ih

end Thinned
end Agenda
end PoolPage
