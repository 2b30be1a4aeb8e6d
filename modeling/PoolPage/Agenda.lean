/-!
Agendas: what is to happen at which time.

Of two entries for one time that in the earlier lane comes first, and of two in one lane the one
that was entered first.  Entering keeps an agenda in this order (`isOrdered_enter`).
-/

namespace PoolPage

/-- The order in which things happen that are due at one time. -/
inductive Lane where
  /-- Goes on with what happens just now. -/
  | atOnce
  /-- Somebody waits for it. -/
  | awaited
  | scheduled
deriving DecidableEq, Repr

def Lane.rank : Lane → Nat
  | atOnce => 0
  | awaited => 1
  | scheduled => 2

structure Appointment (α : Type) where
  time : Nat
  lane : Lane
  event : α

/-- Whether an appointment comes before another one that was entered earlier. -/
def Appointment.overtakes {α : Type} (a b : Appointment α) : Bool :=
  a.time < b.time || (a.time = b.time && a.lane.rank < b.lane.rank)

namespace Appointment

variable {α : Type}

theorem overtakes_iff {a b : Appointment α} :
    a.overtakes b = true ↔ a.time < b.time ∨ (a.time = b.time ∧ a.lane.rank < b.lane.rank) := by
  simp [overtakes]

theorem not_overtakes_of_overtakes {a b : Appointment α} (h : a.overtakes b = true) :
    b.overtakes a = false := by
  rw [← Bool.not_eq_true, overtakes_iff]
  rw [overtakes_iff] at h
  omega

/-- What does not overtake the later of two appointments does not overtake the earlier. -/
theorem not_overtakes_trans {a b c : Appointment α} (h : c.overtakes b = false)
    (hab : a.overtakes b = true) : c.overtakes a = false := by
  rw [← Bool.not_eq_true, overtakes_iff] at h ⊢
  rw [overtakes_iff] at hab
  omega

end Appointment

abbrev Agenda (α : Type) := List (Appointment α)

namespace Agenda

variable {α : Type}

/-- Enters an appointment behind all that it does not overtake. -/
def enter (a : Appointment α) : Agenda α → Agenda α
  | [] => [a]
  | b :: rest => if a.overtakes b then a :: b :: rest else b :: enter a rest

theorem mem_enter {a b : Appointment α} {agenda : Agenda α} :
    b ∈ enter a agenda ↔ b = a ∨ b ∈ agenda := by
  induction agenda with
  | nil => simp [enter]
  | cons c rest ih =>
    unfold enter
    split
    · simp
    · simp only [List.mem_cons, ih]
      exact or_left_comm

/-- No appointment stands behind one that it overtakes. -/
def IsOrdered (agenda : Agenda α) : Prop := agenda.Pairwise fun a b => b.overtakes a = false

theorem isOrdered_enter {a : Appointment α} {agenda : Agenda α} (h : agenda.IsOrdered) :
    (enter a agenda).IsOrdered := by
  induction agenda with
  | nil => exact List.pairwise_singleton _ _
  | cons b rest ih =>
    obtain ⟨hb, hrest⟩ := List.pairwise_cons.mp h
    unfold enter
    split
    next hab =>
      refine List.pairwise_cons.mpr ⟨fun c hc => ?_, h⟩
      rcases List.mem_cons.mp hc with rfl | hc
      · exact Appointment.not_overtakes_of_overtakes hab
      · exact Appointment.not_overtakes_trans (hb c hc) hab
    next hab =>
      refine List.pairwise_cons.mpr ⟨fun c hc => ?_, ih hrest⟩
      rcases mem_enter.mp hc with rfl | hc
      · exact Bool.not_eq_true _ ▸ hab
      · exact hb c hc

end Agenda
end PoolPage
