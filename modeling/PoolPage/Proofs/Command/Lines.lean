import PoolPage.Command
import PoolPage.Proofs.Number.Naturals
import PoolPage.Proofs.Text.Gaps

/-!
# Lines of commands

How a command is written on a line (`Spells`), and which lines are read as it (`Accepts`): besides
the written ones those whose index has a plus or more zeros before it, and those with any text where
a command has nothing more to say.  Reading accepts exactly these lines and loses nothing of the
argument (`parse_grammar`).
-/

namespace PoolPage
namespace Command

/-! ## The language -/

/-- The words that a command begins with. -/
def words : Command → List String
  | address _ => ["addr"]
  | hashRate _ => ["hr"]
  | navigate _ => ["go"]
  | pointerMove _ _ => ["hover"]
  | pointerOut _ => ["out"]
  | resize => ["resize"]
  | reload => ["reload"]
  | quit => ["quit", "exit"]

/-- What is written behind the word of a command. -/
inductive IsArgument : Command → List Char → Prop
  | address {value : String} (h : IsTrimmed value.toList) :
    IsArgument (address value) value.toList
  | hashRate {value : String} (h : IsTrimmed value.toList) :
    IsArgument (hashRate value) value.toList
  | navigate {hash : String} (h : IsTrimmed hash.toList) : IsArgument (navigate hash) hash.toList
  | pointerMove {chart : String} {gap : List Char} {index : Nat} (hchart : IsWord chart.toList)
    (hgap : IsGap gap) (hne : gap ≠ []) (hindex : index < indexLimit) :
    IsArgument (pointerMove chart index) (chart.toList ++ gap ++ digitsOf index)
  | pointerOut {chart : String} (h : IsTrimmed chart.toList) (hne : chart.toList ≠ []) :
    IsArgument (pointerOut chart) chart.toList
  | resize : IsArgument resize []
  | reload : IsArgument reload []
  | quit : IsArgument quit []

/-- A word and an argument on a line, with white space between them and around. -/
def IsLine (word argument line : List Char) : Prop :=
  ∃ before gap after, IsGap before ∧ IsGap gap ∧ IsGap after ∧ (argument ≠ [] → gap ≠ []) ∧
    line = before ++ word ++ gap ++ argument ++ after

/-- A line on which a command is written. -/
def Spells (c : Command) (line : String) : Prop :=
  ∃ word ∈ c.words, ∃ argument, c.IsArgument argument ∧ IsLine word.toList argument line.toList

/-- A command that nothing is written behind. -/
def isBare : Command → Bool
  | resize | reload | quit => true
  | _ => false

/-- What may stand behind the word of a command: its argument, an index in another spelling and with
more text behind it, or any text if there is no argument. -/
inductive Tolerates : Command → List Char → Prop
  | argument {c : Command} {text : List Char} (h : c.IsArgument text) : Tolerates c text
  | index {chart : String} {gap spelling ignored : List Char} {index : Nat}
    (hchart : IsWord chart.toList) (hgap : IsGap gap) (hne : gap ≠ []) (hindex : index < indexLimit)
    (hspelling : IsSpelling index spelling) (hignored : ∀ c ∈ ignored.head?, isBlank c = true) :
    Tolerates (pointerMove chart index) (chart.toList ++ gap ++ spelling ++ ignored)
  | ignored {c : Command} {text : List Char} (h : c.isBare = true) : Tolerates c text

/-- A line that is read as a command. -/
def Accepts (c : Command) (line : String) : Prop :=
  ∃ word ∈ c.words, ∃ text, c.Tolerates text ∧ IsLine word.toList text line.toList

theorem Spells.accepts {c : Command} {line : String} (h : c.Spells line) : c.Accepts line := by
  obtain ⟨word, hword, argument, hargument, hline⟩ := h
  exact ⟨word, hword, argument, .argument hargument, hline⟩

/-! ## Words and arguments -/

/-- A line is a first word and the argument behind it. -/
theorem isLine_of_split {word rest line : List Char}
    (h : splitAtBlank (trimBlanks line) = (word, rest)) : IsLine word (trimBlanks rest) line := by
  obtain ⟨-, before, after, hbefore, hafter, hline⟩ := exists_trimBlanks line
  obtain ⟨-, gap, hgap, hsplit, hend⟩ := exists_of_splitAtBlank h
  obtain ⟨-, before', after', hbefore', hafter', hrest⟩ := exists_trimBlanks rest
  refine ⟨before, gap ++ before', after' ++ after, hbefore, hgap.append hbefore',
    hafter'.append hafter, fun hargument hnil => hargument ?_, ?_⟩
  · rw [hend (List.append_eq_nil_iff.mp hnil).1]
    rfl
  · rw [hsplit, hrest] at hline
    simpa only [List.append_assoc] using hline

/-- The word of a line is its first one, and the argument is what is left without the gaps. -/
theorem exists_split_of_isLine {word text line : List Char} (hword : IsWord word)
    (h : IsLine word text line) :
    ∃ rest, splitAtBlank (trimBlanks line) = (word, rest) ∧ trimBlanks rest = trimBlanks text := by
  obtain ⟨before, gap, after, hbefore, hgap, hafter, hne, rfl⟩ := h
  obtain ⟨htrimmed, before', after', hbefore', hafter', htext⟩ := exists_trimBlanks text
  by_cases hempty : trimBlanks text = []
  · have htail : IsGap (gap ++ text ++ after) := by
      rw [hempty, List.append_nil] at htext
      rw [htext]
      exact (hgap.append (hbefore'.append hafter')).append hafter
    have htrim : trimBlanks (before ++ word ++ gap ++ text ++ after) = word := by
      have heq := trimBlanks_of_gaps hbefore hword.isTrimmed htail
      simpa only [List.append_assoc] using heq
    have hsplit := splitAtBlank_append hword.solid [] nofun
    rw [List.append_nil] at hsplit
    exact ⟨[], by rw [htrim, hsplit]; rfl, hempty.symm⟩
  · have htrim : trimBlanks (before ++ word ++ gap ++ text ++ after) =
        word ++ (gap ++ before' ++ trimBlanks text) := by
      have hwhole := hword.isTrimmed.append hword.ne_nil htrimmed hempty (gap ++ before')
      have heq := trimBlanks_of_gaps hbefore hwhole (hafter'.append hafter)
      rw [← List.append_assoc word]
      rw [← heq]
      conv_lhs => rw [htext]
      simp only [List.append_assoc]
    obtain ⟨c, gap', hcons⟩ := List.exists_cons_of_ne_nil
      (hne fun hnil => hempty (by rw [hnil]; rfl))
    have hblank := hgap.append hbefore'
    rw [hcons] at hblank
    have hsplit := splitAtBlank_append hword.solid (gap ++ before' ++ trimBlanks text) (by
        rw [hcons]
        rintro _ ⟨⟩
        exact hblank c List.mem_cons_self)
    refine ⟨_, by rw [htrim, hsplit], ?_⟩
    have hgap' : IsGap (gap' ++ before') := fun d hd => hblank d (List.mem_cons_of_mem c hd)
    have heq := trimBlanks_of_gaps hgap' htrimmed isGap_nil
    rw [List.append_nil] at heq
    rw [hcons]
    exact heq

theorem isWord_of_mem_words {c : Command} {word : String} (h : word ∈ c.words) :
    IsWord word.toList := by
  cases c with
  | quit =>
    obtain rfl | rfl : word = "quit" ∨ word = "exit" := by
      simpa only [words, List.mem_cons, List.not_mem_nil, or_false] using h
    all_goals decide
  | _ =>
    obtain rfl := List.mem_singleton.mp h
    decide

/-! ## Moves -/

/-- A move that is read has a chart, a gap and an index, and nothing else touches the index. -/
theorem tolerates_of_readMove {argument : List Char} {c : Command} (htrimmed : IsTrimmed argument)
    (h : readMove argument = .ok c) :
    ∃ chart index, c = pointerMove chart index ∧ Tolerates c argument := by
  have htrim : trimLeft argument = argument := trimLeft_of_head htrimmed.head
  obtain ⟨chart, rest, hsplit⟩ : ∃ chart rest, splitAtBlank argument = (chart, rest) := ⟨_, _, rfl⟩
  obtain ⟨spelling, ignored, hsplit'⟩ :
    ∃ spelling ignored, splitAtBlank (trimLeft rest) = (spelling, ignored) := ⟨_, _, rfl⟩
  simp only [readMove, htrim, hsplit, hsplit'] at h
  split at h
  · cases h
  next hchart =>
  split at h
  · cases h
  next hspelling =>
  cases hread : readNatural indexLimit spelling with
  | error fault =>
    rw [hread] at h
    cases h
  | ok index =>
    rw [hread] at h
    cases h
    obtain ⟨hindex, hspells⟩ := (readNatural_eq_ok_iff (by decide)).mp hread
    obtain ⟨hsolid, gap, hgap, hargument, hend⟩ := exists_of_splitAtBlank hsplit
    obtain ⟨before, hbefore, hrest, -⟩ := exists_trimLeft rest
    obtain ⟨-, gap', hgap', hindices, hend'⟩ := exists_of_splitAtBlank hsplit'
    have hchart' : chart ≠ [] := fun hnil => hchart (List.isEmpty_iff.mpr hnil)
    have hne : gap ++ before ≠ [] := fun hnil => by
      rw [hend (List.append_eq_nil_iff.mp hnil).1] at hindices
      exact hspells.isWord.ne_nil (List.append_eq_nil_iff.mp
        (List.append_eq_nil_iff.mp hindices.symm).1).1
    have hignored : ∀ c ∈ (gap' ++ ignored).head?, isBlank c = true := by
      cases gap' with
      | nil =>
        rw [hend' rfl]
        exact nofun
      | cons b gap' =>
        rintro _ ⟨⟩
        exact hgap' b List.mem_cons_self
    refine ⟨String.ofList chart, index, rfl, ?_⟩
    have htext : argument =
        (String.ofList chart).toList ++ (gap ++ before) ++ spelling ++ (gap' ++ ignored) := by
      rw [hargument, hrest, hindices, String.toList_ofList]
      simp only [List.append_assoc]
    rw [htext]
    refine .index ?_ (hgap.append hbefore) hne hindex hspells hignored
    rw [String.toList_ofList]
    exact ⟨hchart', hsolid⟩

theorem readMove_of_tolerates {text : List Char} {chart : String} {index : Nat}
    (h : Tolerates (pointerMove chart index) text) :
    readMove (trimBlanks text) = .ok (pointerMove chart index) := by
  obtain ⟨gap, spelling, ignored, hchart, hgap, hne, hindex, hspelling, hignored, rfl⟩ :
      ∃ gap spelling ignored, IsWord chart.toList ∧ IsGap gap ∧ gap ≠ [] ∧ index < indexLimit ∧
        IsSpelling index spelling ∧ (∀ c ∈ ignored.head?, isBlank c = true) ∧
        text = chart.toList ++ gap ++ spelling ++ ignored := by
    cases h with
    | argument h =>
      cases h with
      | pointerMove hchart hgap hne hindex =>
        exact ⟨_, _, [], hchart, hgap, hne, hindex, isSpelling_digitsOf index, nofun,
          (List.append_nil _).symm⟩
    | index hchart hgap hne hindex hspelling hignored =>
      exact ⟨_, _, _, hchart, hgap, hne, hindex, hspelling, hignored, rfl⟩
    | ignored h => cases h
  have hword := hspelling.isWord
  have hcore : IsTrimmed (chart.toList ++ gap ++ spelling) :=
    hchart.isTrimmed.append hchart.ne_nil hword.isTrimmed hword.ne_nil gap
  have hhead : ∀ c ∈ (trimRight ignored).head?, isBlank c = true := by
    obtain ⟨after, -, hsplit, -⟩ := exists_trimRight ignored
    intro c hc
    rw [hsplit] at hignored
    exact hignored c (List.mem_head?_append_of_mem_head? hc)
  rw [trimBlanks_append hcore (List.append_ne_nil_of_right_ne_nil _ hword.ne_nil)]
  generalize trimRight ignored = ignored at hhead ⊢
  obtain ⟨b, gap, rfl⟩ := List.exists_cons_of_ne_nil hne
  obtain ⟨hb, hgap⟩ := List.forall_mem_cons.mp hgap
  have htrim : trimLeft (chart.toList ++ b :: gap ++ spelling ++ ignored) =
      chart.toList ++ b :: (gap ++ (spelling ++ ignored)) := by
    rw [List.append_assoc, List.append_assoc]
    exact trimLeft_word hchart _
  have hsplit := splitAtBlank_append hchart.solid (b :: (gap ++ (spelling ++ ignored))) (by
    rintro _ ⟨⟩
    exact hb)
  have htrim' : trimLeft (gap ++ (spelling ++ ignored)) = spelling ++ ignored := by
    rw [trimLeft_gap hgap]
    exact trimLeft_word hword ignored
  have hsplit' := splitAtBlank_append hword.solid ignored hhead
  have hread := (readNatural_eq_ok_iff (by decide)).mpr ⟨hindex, hspelling⟩
  simp only [readMove, htrim, hsplit, List.drop_one, List.tail_cons, htrim', hsplit',
    List.isEmpty_eq_false_iff.mpr hchart.ne_nil, List.isEmpty_eq_false_iff.mpr hword.ne_nil, hread,
    String.ofList_toList]
  rfl

/-! ## All commands -/

theorem accepts_of_parse {line : String} {c : Command} (h : parse line = .ok c) :
    c.Accepts line := by
  obtain ⟨word, rest, hsplit⟩ : ∃ (word : String) (rest : List Char),
      splitAtBlank (trimBlanks line.toList) = (word.toList, rest) :=
    ⟨String.ofList _, _, by rw [String.toList_ofList]⟩
  obtain ⟨argument, hargument⟩ : ∃ argument : String, trimBlanks rest = argument.toList :=
    ⟨String.ofList _, String.toList_ofList.symm⟩
  have htrimmed : IsTrimmed argument.toList := hargument ▸ (exists_trimBlanks rest).1
  have hline : IsLine word.toList argument.toList line.toList := hargument ▸ isLine_of_split hsplit
  have accepts (hword : word ∈ c.words) (htext : c.Tolerates argument.toList) : c.Accepts line :=
    ⟨word, hword, argument.toList, htext, hline⟩
  simp only [parse, hsplit, hargument, String.ofList_toList] at h
  split at h
  · cases h
    exact accepts (List.mem_singleton.mpr rfl) (.argument (.address htrimmed))
  · cases h
    exact accepts (List.mem_singleton.mpr rfl) (.argument (.hashRate htrimmed))
  · cases h
    exact accepts (List.mem_singleton.mpr rfl) (.argument (.navigate htrimmed))
  · obtain ⟨chart, index, rfl, hmove⟩ := tolerates_of_readMove htrimmed h
    exact accepts (List.mem_singleton.mpr rfl) hmove
  · split at h
    · cases h
    · next hne =>
      cases h
      have hne' : argument.toList ≠ [] := fun hnil => hne (List.isEmpty_iff.mpr hnil)
      exact accepts (List.mem_singleton.mpr rfl) (.argument (.pointerOut htrimmed hne'))
  · cases h
    exact accepts (List.mem_singleton.mpr rfl) (.ignored rfl)
  · cases h
    exact accepts (List.mem_singleton.mpr rfl) (.ignored rfl)
  · cases h
    exact accepts List.mem_cons_self (.ignored rfl)
  · cases h
    exact accepts (List.mem_cons_of_mem _ List.mem_cons_self) (.ignored rfl)
  · cases h

theorem parse_of_accepts {line : String} {c : Command} (h : c.Accepts line) :
    parse line = .ok c := by
  obtain ⟨word, hword, text, htext, hline⟩ := h
  obtain ⟨rest, hsplit, hrest⟩ := exists_split_of_isLine (isWord_of_mem_words hword) hline
  cases c with
  | pointerMove chart index =>
    obtain rfl := List.mem_singleton.mp hword
    simp only [parse, hsplit, hrest, String.ofList_toList]
    exact readMove_of_tolerates htext
  | pointerOut chart =>
    obtain rfl := List.mem_singleton.mp hword
    cases htext with
    | argument hargument =>
      cases hargument with
      | pointerOut htrimmed hne =>
        simp only [parse, hsplit, hrest, trimBlanks_of_isTrimmed htrimmed, String.ofList_toList]
        exact if_neg (mt List.isEmpty_iff.mp hne)
    | ignored hbare => cases hbare
  | resize =>
    obtain rfl := List.mem_singleton.mp hword
    simp only [parse, hsplit, String.ofList_toList]
  | reload =>
    obtain rfl := List.mem_singleton.mp hword
    simp only [parse, hsplit, String.ofList_toList]
  | quit =>
    obtain rfl | rfl : word = "quit" ∨ word = "exit" := by
      simpa only [words, List.mem_cons, List.not_mem_nil, or_false] using hword
    · simp only [parse, hsplit, String.ofList_toList]
    · simp only [parse, hsplit, String.ofList_toList]
  | _ =>
    -- The other commands have all of their argument as their text.
    obtain rfl := List.mem_singleton.mp hword
    cases htext with
    | argument hargument =>
      cases hargument
      next htrimmed =>
      simp only [parse, hsplit, hrest, trimBlanks_of_isTrimmed htrimmed, String.ofList_toList]
    | ignored hbare => cases hbare

/-- A line on which a command is written is read as this command; the lines that are read as it are
those that it accepts; and all lines that no command accepts are errors. -/
theorem parse_grammar (line : String) :
    (∀ c : Command, c.Spells line → parse line = .ok c) ∧
      (∀ c : Command, parse line = .ok c ↔ c.Accepts line) ∧
      ((∃ fault, parse line = .error fault) ↔ ∀ c : Command, ¬c.Accepts line) := by
  refine ⟨fun c h => parse_of_accepts h.accepts, fun c => ⟨accepts_of_parse, parse_of_accepts⟩,
    ?_, fun h => ?_⟩
  · rintro ⟨fault, hfault⟩ c h
    cases hfault.symm.trans (parse_of_accepts h)
  · cases hparse : parse line with
    | error fault => exact ⟨fault, rfl⟩
    | ok c => exact absurd (accepts_of_parse hparse) (h c)

/-- The white space within an address stays, and that around it does not; the largest index is
read. -/
theorem parse_grammar_spaced :
    Spells (address "a  b") "\t addr\u3000a  b \n" ∧
      parse "\t addr\u3000a  b \n" = .ok (address "a  b") ∧
      Spells (pointerMove "pool-hr-chart" 18446744073709551615)
        " hover pool-hr-chart  18446744073709551615 " ∧
      parse " hover pool-hr-chart  18446744073709551615 " =
        .ok (pointerMove "pool-hr-chart" 18446744073709551615) := by
  have haddress : Spells (address "a  b") "\t addr\u3000a  b \n" :=
    ⟨"addr", List.mem_singleton.mpr rfl, _, .address (by decide),
      ['\t', ' '], ['\u3000'], [' ', '\n'], by decide⟩
  have hmove : Spells (pointerMove "pool-hr-chart" 18446744073709551615)
      " hover pool-hr-chart  18446744073709551615 " :=
    ⟨"hover", List.mem_singleton.mpr rfl, _,
      .pointerMove (by decide) (show IsGap [' ', ' '] by decide +kernel)
        (List.cons_ne_nil _ _) (by decide),
      [' '], [' '], [' '], by decide⟩
  exact ⟨haddress, (parse_grammar _).1 _ haddress, hmove, (parse_grammar _).1 _ hmove⟩

/-- Without an index, and from 2⁶⁴ on, there is no move. -/
example : parse "hover pool-hr-chart" = .error .noIndex ∧
    parse "hover pool-hr-chart 18446744073709551616" = .error (.badIndex .tooLarge) := by
  decide +kernel

end Command
end PoolPage
