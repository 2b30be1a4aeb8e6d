import PoolPage.Log
import PoolPage.Proofs.Text.Gaps

/-!
# What the settings of a log select

A setting names the level from which on records are written (`Level.IsSetBy`), another one lists
components (`Selects`).  The filter of the two accepts exactly the records of such levels and such
components (`Filter.accepts_ofSettings_iff`), and a record is written to the sink for its level
(`Sinks.foldl_write`).
-/

namespace PoolPage
namespace Log

/-! ## Levels -/

namespace Level

/-- The levels from one on, the most severe last. -/
def upward (level : Level) : List Level :=
  [trace, debug, info, warn, error, fatal].dropWhile (· ≠ level)

theorem mem_upward_iff {level other : Level} :
    other ∈ level.upward ↔ level.severity ≤ other.severity := by
  cases level <;> cases other <;> decide

/-- A setting sets the level that it names, and `info` if it names none. -/
def IsSetBy (level : Level) (setting : Option String) : Prop :=
  setting = some level.name ∨ level = .info ∧ ∀ other : Level, setting ≠ some other.name

theorem IsSetBy.unique {level level' : Level} {setting : Option String}
    (h : level.IsSetBy setting) (h' : level'.IsSetBy setting) : level = level' := by
  have hname : ∀ a b : Level, a.name = b.name → a = b := by
    intro a b
    cases a <;> cases b <;> decide
  rcases h with rfl | ⟨rfl, hnone⟩ <;> rcases h' with h' | ⟨rfl, hnone'⟩
  · exact hname _ _ (Option.some.inj h')
  · exact absurd rfl (hnone' level)
  · exact absurd h' (hnone level')
  · rfl

theorem ofName?_name (level : Level) : ofName? level.name = some level := by
  cases level <;> decide

theorem name_of_ofName? {text : String} {level : Level} (h : ofName? text = some level) :
    level.name = text := by
  have hfound := List.find?_some h
  exact of_decide_eq_true hfound

end Level

theorem isSetBy_levelOf (setting : Option String) :
    (Filter.levelOf setting).IsSetBy setting := by
  cases hnamed : setting.bind Level.ofName? with
  | none =>
    rw [Filter.levelOf, hnamed]
    refine .inr ⟨rfl, ?_⟩
    rintro other rfl
    rw [Option.bind_some, Level.ofName?_name] at hnamed
    exact nomatch hnamed
  | some level =>
    rw [Filter.levelOf, hnamed]
    obtain ⟨text, rfl, htext⟩ := Option.bind_eq_some_iff.mp hnamed
    exact .inl (congrArg some (Level.name_of_ofName? htext).symm)

/-! ## Components -/

/-- Whether a name stands in a text between commas, with white space around it at most. -/
def IsListed (name text : String) : Prop :=
  ∃ parts : List (List Char), text.toList = [','].intercalate parts ∧
    (∀ part ∈ parts, ',' ∉ part) ∧
    ∃ before after, IsGap before ∧ IsGap after ∧ before ++ name.toList ++ after ∈ parts

theorem notMem_of_mem_splitOn {mark : Char} {cs part : List Char} (h : part ∈ cs.splitOn mark) :
    mark ∉ part := by
  induction cs generalizing part with
  | nil =>
    rw [List.splitOn_nil, List.mem_singleton] at h
    rw [h]
    exact List.not_mem_nil
  | cons c cs ih =>
    rw [List.splitOn_cons_eq_if_modifyHead] at h
    split at h
    · rcases List.mem_cons.mp h with rfl | hrest
      · exact List.not_mem_nil
      · exact ih hrest
    · next hmark =>
      obtain ⟨first, rest, hsplit⟩ := List.exists_cons_of_ne_nil (List.splitOn_ne_nil mark cs)
      rw [hsplit, List.modifyHead_cons] at h
      rcases List.mem_cons.mp h with rfl | hrest
      · refine List.not_mem_cons_of_ne_of_not_mem ?_ (ih (by simp [hsplit]))
        rintro rfl
        exact hmark (beq_self_eq_true _)
      · exact ih (by simp [hsplit, hrest])

theorem mem_splitCommas_iff {name text : String} (hname : IsTrimmed name.toList) :
    name ∈ Filter.splitCommas text ↔ IsListed name text := by
  constructor
  · intro h
    obtain ⟨part, hpart, rfl⟩ := List.mem_map.mp h
    obtain ⟨-, before, after, hbefore, hafter, heq⟩ := exists_trimBlanks part
    refine ⟨_, (List.intercalate_splitOn ',').symm, fun _ => notMem_of_mem_splitOn, before, after,
      hbefore, hafter, ?_⟩
    rw [String.toList_ofList, ← heq]
    exact hpart
  · rintro ⟨parts, htext, hparts, before, after, hbefore, hafter, hmem⟩
    refine List.mem_map.mpr ⟨before ++ name.toList ++ after, ?_, ?_⟩
    · rw [htext, List.splitOn_intercalate ',' hparts (List.ne_nil_of_mem hmem)]
      exact hmem
    · rw [trimBlanks_of_gaps hbefore hname hafter, String.ofList_toList]

/-- Whether a setting selects a component: without the setting and by `all` every one is, otherwise
those that are listed. -/
def Selects (setting : Option String) (component : Component) : Prop :=
  ∀ text ∈ setting, text = "all" ∨ IsListed component.name text

theorem isTrimmed_name (component : Component) : IsTrimmed component.name.toList := by
  cases component <;> decide

instance (component : Component) (text : String) : Decidable (IsListed component.name text) :=
  decidable_of_iff _ (mem_splitCommas_iff (isTrimmed_name component))

instance (setting : Option String) (component : Component) :
    Decidable (Selects setting component) :=
  inferInstanceAs (Decidable (∀ text ∈ setting, _))

namespace Filter

variable {f : Filter}

/-- The filter that accepts every record. -/
def everything : Filter := .ofSettings (some "trace") (some "all")

theorem accepts_none (level : Level) (r : Record) :
    accepts ⟨level, none⟩ r = true ↔ r.level ∈ level.upward := by
  have haccepts : accepts ⟨level, none⟩ r =
      (decide (level.severity ≤ r.level.severity) && true) := rfl
  rw [haccepts, Bool.and_true, decide_eq_true_iff, Level.mem_upward_iff]

theorem accepts_some (level : Level) (names : List String) (r : Record) :
    accepts ⟨level, some names⟩ r = true ↔
      r.level ∈ level.upward ∧ r.component.name ∈ names := by
  have haccepts : accepts ⟨level, some names⟩ r =
      (decide (level.severity ≤ r.level.severity) && names.contains r.component.name) := rfl
  rw [haccepts, Bool.and_eq_true, decide_eq_true_iff, List.contains_iff_mem, Level.mem_upward_iff]

/-- The filter of two settings accepts the levels from the one that is set on, of the components
that are selected. -/
theorem accepts_ofSettings_iff (level components : Option String) (r : Record) :
    (ofSettings level components).accepts r = true ↔
      r.level ∈ (levelOf level).upward ∧ Selects components r.component := by
  cases components with
  | none =>
    have hall : Selects none r.component := fun _ h => by cases h
    exact (accepts_none _ r).trans (and_iff_left hall).symm
  | some text =>
    by_cases hall : text = "all"
    · have hsettings : ofSettings level (some text) = ⟨levelOf level, none⟩ := by
        rw [ofSettings, hall]
        rfl
      rw [hsettings, accepts_none]
      simp [Selects, hall]
    · have hsettings : ofSettings level (some text) =
          ⟨levelOf level, some (splitCommas text)⟩ := by
        rw [ofSettings]
        exact congrArg _ (if_neg hall)
      rw [hsettings, accepts_some, mem_splitCommas_iff (isTrimmed_name r.component)]
      simp [Selects, hall]

theorem accepts_everything (r : Record) : everything.accepts r = true :=
  (accepts_ofSettings_iff _ _ r).mpr
    ⟨Level.mem_upward_iff.mpr (Nat.zero_le _), fun _ h => .inl (Option.some.inj h).symm⟩

theorem select_everything (records : List Record) : everything.select records = records :=
  List.filter_eq_self.mpr fun r _ => accepts_everything r

theorem select_append (records more : List Record) :
    f.select (records ++ more) = f.select records ++ f.select more := List.filter_append ..

end Filter

/-! ## Sinks -/

/-- What was written to each of the two sinks, in order. -/
structure Sinks where
  events : List Record
  trace : List Record

namespace Sinks

def write (s : Sinks) (r : Record) : Sinks :=
  match r.sink with
  | .events => { s with events := s.events ++ [r] }
  | .trace => { s with trace := s.trace ++ [r] }

def ofRecords (records : List Record) : Sinks := records.foldl write ⟨[], []⟩

/-- Whether a record is one of details. -/
def IsDetail (r : Record) : Prop := r.level = .trace ∨ r.level = .debug

instance (r : Record) : Decidable (IsDetail r) := inferInstanceAs (Decidable (_ ∨ _))

theorem write_of_isDetail {r : Record} (h : IsDetail r) (s : Sinks) :
    s.write r = { s with trace := s.trace ++ [r] } := by
  rcases h with h | h <;> rw [write, Record.sink, h]

theorem write_of_not_isDetail {r : Record} (h : ¬ IsDetail r) (s : Sinks) :
    s.write r = { s with events := s.events ++ [r] } := by
  rw [IsDetail, not_or] at h
  unfold write Record.sink
  split <;> simp_all

theorem foldl_write (records : List Record) (s : Sinks) :
    records.foldl write s =
      ⟨s.events ++ records.filter fun r => ¬ IsDetail r, s.trace ++ records.filter IsDetail⟩ := by
  induction records generalizing s with
  | nil => simp
  | cons r rest ih =>
    rw [List.foldl_cons, ih]
    by_cases h : IsDetail r
    · simp [write_of_isDetail h, h]
    · simp [write_of_not_isDetail h, h]

end Sinks
end Log
end PoolPage
