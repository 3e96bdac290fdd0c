import LedgerQuery.Evaluation.Workspace
import LedgerQuery.Proofs.Query.Reading

/-! # Whole lines -/

namespace LedgerQuery.Query

/-! ## Whole lines against the grammar

A line defines an alias if a name and a colon stand in front, and no text of commands looks like
that unless the mark begins with a colon. -/

open Text

section Lines

inductive SpellsLine (mark : List Char) : Line → List Char → Prop where
  | pipeline {commands text} : splitAliasName text = none → SpellsCommands mark commands text →
      SpellsLine mark (.pipeline ⟨commands, String.ofList (trim text)⟩) text
  | aliasDef {gap name rest commands} : IsGap gap → IsName isCapital name →
      SpellsCommands mark commands rest →
      SpellsLine mark
        (.aliasDef ⟨String.ofList name, ⟨commands, String.ofList (trim rest)⟩,
          String.ofList (gap ++ (name ++ ':' :: rest))⟩)
        (gap ++ (name ++ ':' :: rest))

theorem splitAliasName_eq_some_iff {text name rest : List Char} :
    splitAliasName text = some (name, rest) ↔
      IsName isCapital name ∧ ∃ gap, IsGap gap ∧ text = gap ++ (name ++ ':' :: rest) := by
  constructor
  · intro h
    obtain ⟨gap, hgap, htext⟩ := exists_gap_append_trimStart text
    unfold splitAliasName at h
    split at h
    · cases h
    · rename_i c cs htrim
      split at h
      · rename_i hc
        split at h
        · rename_i after hdrop
          cases h
          obtain ⟨hrun, -, hsplit⟩ := exists_run isWord cs
          refine ⟨⟨c, _, rfl, hc, hrun⟩, gap, hgap, ?_⟩
          rw [hdrop] at hsplit
          rw [List.cons_append, ← hsplit, ← htrim]
          exact htext
        · cases h
      · cases h
  · rintro ⟨⟨c, cs, rfl, hc, hcs⟩, gap, hgap, rfl⟩
    have hsolid : StartsSolid (c :: (cs ++ ':' :: rest)) :=
      stops_cons.mpr (isBlank_of_isWord (isWord_of_isKeywordStart (isKeywordStart_of_isCapital hc)))
    have hstop : Stops isWord (':' :: rest) := stops_cons.mpr (by decide)
    have htrim : trimStart (gap ++ (c :: cs ++ ':' :: rest)) = c :: (cs ++ ':' :: rest) := by
      rw [trimStart_gap_append hgap, List.cons_append, trimStart_of_startsSolid hsolid]
    simp only [splitAliasName, htrim, if_pos hc, takeWhile_run hcs hstop, dropWhile_run hcs hstop]

/-- No name of an alias is a keyword: keywords begin with small letters. -/
theorem not_mem_keywords {word : String} (h : IsName isCapital word.toList) :
    word ∉ Builtin.keywords := by
  intro hmem
  obtain ⟨c, cs, htext, hc, -⟩ := h
  have hsmall : ∀ keyword ∈ Builtin.keywords, keyword.toList.head?.any isCapital = false := by
    decide
  have hcapital := hsmall word hmem
  rw [htext, List.head?_cons, Option.any_some, hc] at hcapital
  cases hcapital

variable {mark : List Char} {command : Command} {lexeme after : List Char}

/-- A keyword is not taken for the name of an alias if no colon follows. -/
theorem SpellsCommand.splitAliasName_eq_none (h : SpellsCommand mark command lexeme after)
    {gap : List Char} (hgap : IsGap gap)
    (hcolon : command.argument = .none → Stops (· == ':') after) :
    splitAliasName (gap ++ (lexeme ++ after)) = none := by
  cases hs : splitAliasName (gap ++ (lexeme ++ after)) with
  | none => rfl
  | some found =>
    exfalso
    obtain ⟨name, rest⟩ := found
    obtain ⟨⟨c, cs, rfl, hc, hcs⟩, gap', hgap', heq⟩ := splitAliasName_eq_some_iff.mp hs
    have hstart : isKeywordStart c = true := isKeywordStart_of_isCapital hc
    have hword : isWord c = true := isWord_of_isKeywordStart hstart
    have htext : lexeme ++ after = c :: (cs ++ ':' :: rest) := by
      have hsolid : StartsSolid (c :: (cs ++ ':' :: rest)) :=
        stops_cons.mpr (isBlank_of_isWord hword)
      have htrim := congrArg trimStart heq
      rwa [trimStart_gap_append hgap, trimStart_gap_append hgap', List.cons_append,
        trimStart_of_startsSolid (h.startsSolid after), trimStart_of_startsSolid hsolid] at htrim
    by_cases harg : command.argument = .none
    · cases h with
      | @keyword word _ hkeyword hstop =>
        have hname : ∀ d ∈ c :: cs, isWord d = true := by
          intro d hd
          rcases List.mem_cons.mp hd with rfl | hd
          · exact hword
          · exact hcs d hd
        have hdrop := congrArg (List.dropWhile isWord) htext
        rw [dropWhile_run hkeyword.isWord hstop, ← List.cons_append,
          dropWhile_run hname (stops_cons.mpr (by decide))] at hdrop
        have hne := hcolon rfl
        rw [hdrop, stops_cons] at hne
        cases hne
      | _ => cases harg
    · obtain ⟨d, ds, rfl, hd⟩ := h.exists_lead harg
      rw [List.cons_append, List.cons_eq_cons] at htext
      rw [← htext.1] at hc
      simp only [List.mem_cons, List.not_mem_nil, or_false] at hd
      rcases hd with rfl | rfl | rfl | rfl | rfl | rfl <;> cases hc

theorem SpellsCommands.splitAliasName_eq_none (hcolon : ':' ∉ mark) {commands : List Command}
    {text : List Char} (hm : IsMark mark) (h : SpellsCommands mark commands text) :
    splitAliasName text = none := by
  have hgapColon {gap : List Char} (hg : IsGap gap) : ∀ c ∈ gap, (c == ':') = false := by
    intro c hc
    rw [beq_eq_false_iff_ne]
    rintro rfl
    have := hg ':' hc
    cases this
  cases h with
  | last hgap hcommand hafter =>
    apply hcommand.splitAliasName_eq_none hgap
    intro _ c hc
    exact hgapColon hafter c (List.mem_of_mem_head? hc)
  | cons hgap hbetween hcommand _ =>
    apply hcommand.splitAliasName_eq_none hgap
    intro _
    rw [← List.append_assoc]
    refine stops_of_forall (by simp [hm.some]) ?_ _
    intro c hc
    rcases List.mem_append.mp hc with hc | hc
    · exact hgapColon hbetween c hc
    · rw [beq_eq_false_iff_ne]
      rintro rfl
      exact hcolon hc

theorem withoutLineEnds_of_endsSolid {text : List Char} (h : EndsSolid text) :
    withoutLineEnds text = text := by
  have hstop : Stops (fun c => c = '\r' || c = '\n') text.reverse := by
    intro c hc
    have hblank := startsSolid_reverse.mpr h c hc
    rw [Bool.eq_false_iff]
    intro hend
    simp only [Bool.or_eq_true, decide_eq_true_eq] at hend
    rcases hend with rfl | rfl <;> cases hblank
  rw [withoutLineEnds, dropWhile_of_stops hstop, List.reverse_reverse]

theorem withoutLineEnds_withoutLineEnds (text : List Char) :
    withoutLineEnds (withoutLineEnds text) = withoutLineEnds text := by
  unfold withoutLineEnds
  rw [List.reverse_reverse, dropWhile_of_stops (stops_dropWhile _ _)]

theorem exists_withoutLineEnds_append_gap (text : List Char) :
    ∃ gap, IsGap gap ∧ text = withoutLineEnds text ++ gap := by
  obtain ⟨hrun, -, hsplit⟩ := exists_run (fun c => c = '\r' || c = '\n') text.reverse
  refine ⟨(text.reverse.takeWhile fun c => c = '\r' || c = '\n').reverse, ?_, ?_⟩
  · intro c hc
    have hend := hrun c (List.mem_reverse.mp hc)
    simp only [Bool.or_eq_true, decide_eq_true_eq] at hend
    rcases hend with rfl | rfl <;> decide
  · have h := congrArg List.reverse hsplit
    rwa [List.reverse_reverse, List.reverse_append] at h

theorem withoutLineEnds_append_cons (front : List Char) {c : Char} (hreturn : c ≠ '\r')
    (hfeed : c ≠ '\n') (text : List Char) :
    withoutLineEnds (front ++ c :: text) = front ++ c :: withoutLineEnds text := by
  have hstop : Stops (fun c => c = '\r' || c = '\n') (c :: front.reverse) :=
    stops_cons.mpr (by simp [hreturn, hfeed])
  have hreverse : (front ++ c :: text).reverse = text.reverse ++ (c :: front.reverse) := by simp
  rw [withoutLineEnds, withoutLineEnds, hreverse, List.dropWhile_append]
  split
  · rename_i hnil
    rw [dropWhile_of_stops hstop, List.isEmpty_iff.mp hnil]
    simp
  · simp

variable {separator : Separator}

theorem readPipeline_eq_ok_iff (hm : IsMark separator.mark) {text : List Char}
    {body : Pipeline} : readPipeline separator text = .ok body ↔
      ∃ commands, SpellsCommands separator.mark commands text ∧
        ⟨commands, String.ofList (trim text)⟩ = body := by
  rw [readPipeline, map_eq_ok_iff]
  constructor
  · rintro ⟨commands, hread, hbody⟩
    exact ⟨commands, (readCommands_eq_ok_iff hm).mp hread, hbody⟩
  · rintro ⟨commands, hspells, hbody⟩
    exact ⟨commands, (readCommands_eq_ok_iff hm).mpr hspells, hbody⟩

theorem readWhole_eq_ok_iff (hm : IsMark separator.mark) {text : List Char} {line : Line} :
    readWhole separator text = .ok line ↔ SpellsLine separator.mark line text := by
  constructor
  · intro h
    unfold readWhole at h
    split at h
    · rename_i name rest hsplit
      obtain ⟨body, hbody, rfl⟩ := map_eq_ok_iff.mp h
      obtain ⟨commands, hspells, rfl⟩ := (readPipeline_eq_ok_iff hm).mp hbody
      obtain ⟨hname, gap, hgap, rfl⟩ := splitAliasName_eq_some_iff.mp hsplit
      exact .aliasDef hgap hname hspells
    · rename_i hsplit
      obtain ⟨body, hbody, rfl⟩ := map_eq_ok_iff.mp h
      obtain ⟨commands, hspells, rfl⟩ := (readPipeline_eq_ok_iff hm).mp hbody
      exact .pipeline hsplit hspells
  · intro h
    cases h with
    | pipeline hsplit hspells =>
      rw [readWhole, hsplit]
      exact map_eq_ok_iff.mpr ⟨_, (readPipeline_eq_ok_iff hm).mpr ⟨_, hspells, rfl⟩, rfl⟩
    | aliasDef hgap hname hspells =>
      rw [readWhole, splitAliasName_eq_some_iff.mpr ⟨hname, _, hgap, rfl⟩]
      exact map_eq_ok_iff.mpr ⟨_, (readPipeline_eq_ok_iff hm).mpr ⟨_, hspells, rfl⟩, rfl⟩

theorem mapError_eq_ok_iff {ε δ α : Type} {f : ε → δ} {x : Except ε α} {a : α} :
    x.mapError f = .ok a ↔ x = .ok a := by
  cases x <;> simp [Except.mapError]

theorem ofText_of_solid {text : String} (hsome : text.toList ≠ [])
    (hsolid : ∀ c ∈ text.toList, isBlank c = false) :
    Separator.ofText text = .ok ⟨text.toList, hsome⟩ := by
  have hstarts : StartsSolid text.toList := fun c hc => hsolid c (List.mem_of_mem_head? hc)
  have hends : EndsSolid text.toList := fun c hc => hsolid c (List.mem_of_getLast? hc)
  have htrim : trim text.toList = text.toList := trim_eq_self_iff.mpr ⟨hstarts, hends⟩
  simp [Separator.ofText, Separator.of?, htrim, hsome]

theorem readLine_of_solid {separator : String} (hsome : separator.toList ≠ [])
    (hsolid : ∀ c ∈ separator.toList, isBlank c = false) (text : String) :
    LedgerQuery.readLine separator text =
      (readLine ⟨separator.toList, hsome⟩ text).mapError .ofQueryFault := by
  rw [LedgerQuery.readLine, ofText_of_solid hsome hsolid]
  rfl

/-- Which lines are read, and as what. -/
theorem readLine_eq_ok_iff {separator : String} (hm : IsMark separator.toList) {text : String}
    {line : Line} : LedgerQuery.readLine separator text = .ok line ↔
      SpellsLine separator.toList line (withoutLineEnds text.toList) := by
  rw [readLine_of_solid hm.some hm.solid, mapError_eq_ok_iff, readLine, mapError_eq_ok_iff]
  exact readWhole_eq_ok_iff hm

end Lines

/-! ## Reading undoes printing

A printed command ends where its spelling ends: at the end of the line, or at the space before the
mark, which only a search takes in and trims off again. -/

def print (separator : String) (commands : List Command) : String :=
  String.ofList (printCommands separator.toList commands)

variable {mark : List Char}

theorem SpellsMatchers.gap_append {matchers : List TagMatcher} {gap text : List Char}
    (hg : IsGap gap) (hne : matchers ≠ []) (h : SpellsMatchers matchers text) :
    SpellsMatchers matchers (gap ++ text) := by
  cases h with
  | nil => exact absurd rfl hne
  | cons hgap hname hfirst hothers =>
    rw [← List.append_assoc, ← List.append_assoc]
    exact .cons (hg.append hgap) hname hfirst hothers

theorem spells_printMatcher {matcher : TagMatcher} (h : IsTagName matcher.name) :
    SpellsMatcher matcher (printMatcher matcher) :=
  ⟨matcher.name.toList, h.noClosing, h.normal, rfl⟩

theorem spells_printMatchers {matchers : List TagMatcher}
    (h : ∀ matcher ∈ matchers, IsTagName matcher.name) :
    SpellsMatchers matchers (joinWith [' '] (matchers.map printMatcher)) := by
  induction matchers with
  | nil => exact .nil
  | cons first others ih =>
    have hname : IsTagName first.name := h first List.mem_cons_self
    have hothers := ih fun matcher hmem => h matcher (List.mem_cons_of_mem _ hmem)
    cases others with
    | nil =>
      have hone := SpellsMatchers.cons IsGap.nil hname (spells_printMatcher hname) .nil
      rwa [List.nil_append, List.append_nil] at hone
    | cons second others =>
      have hspaced := hothers.gap_append IsGap.space (List.cons_ne_nil second others)
      have hall := SpellsMatchers.cons IsGap.nil hname (spells_printMatcher hname) hspaced
      rw [List.nil_append, ← List.append_assoc] at hall
      exact hall

theorem startsSolid_printMatchers {matchers : List TagMatcher} (hne : matchers ≠ []) :
    StartsSolid (joinWith [' '] (matchers.map printMatcher)) := by
  obtain ⟨first, others, rfl⟩ := List.exists_cons_of_ne_nil hne
  have hhead (rest : List Char) : StartsSolid (printMatcher first ++ rest) := by
    unfold printMatcher
    cases first.negated <;> exact stops_cons.mpr (by decide)
  cases others with
  | nil => simpa [joinWith] using hhead []
  | cons second others =>
    rw [List.map_cons, List.map_cons, joinWith, List.append_assoc]
    · exact hhead _
    · exact List.cons_ne_nil _ _

theorem spells_printCommand {command : Command} (h : WellFormed mark command) :
    SpellsCommand mark command (printCommand command) [] := by
  cases h with
  | keyword hword => exact .keyword hword Stops.nil
  | @search pattern hpattern =>
    have hfree : MarkFree mark pattern.toList [] := markFree_of_not_infix hpattern.noMark
    exact .search hpattern (Or.inl rfl) hpattern.trimmed hfree (Or.inl rfl)
  | @last n hn =>
    have hlast : SpellsCommand mark ⟨"last", .count (Decimal.value (Decimal.digits n))⟩
        ("last".toList ++ ([' '] ++ Decimal.digits n)) [] :=
      .last IsGap.space (Decimal.digits_ne_nil n) (fun _ => Decimal.isDigit_of_mem_digits)
        (Decimal.length_digits_le hn) Stops.nil
    rw [Decimal.value_digits] at hlast
    exact hlast
  | tags hne hnames =>
    exact .tags hne (spells_printMatchers hnames) (Or.inl ⟨rfl, startsSolid_printMatchers hne⟩)
      rfl

theorem endsSolid_printCommand {command : Command}
    (h : WellFormed mark command) : EndsSolid (printCommand command) := by
  by_cases hsearch : ∃ pattern, command.argument = .pattern pattern
  · cases h with
    | @search pattern hpattern =>
      show EndsSolid (['/'] ++ pattern.toList)
      rw [endsSolid_append _ hpattern.toList_ne_nil]
      exact (trim_eq_self_iff.mp hpattern.trimmed).2
    | _ =>
      obtain ⟨pattern, hpattern⟩ := hsearch
      cases hpattern
  · exact (spells_printCommand h).endsSolid fun pattern hp => hsearch ⟨pattern, hp⟩

/-- A command at the end of a line can also stand before a space and the mark. A search takes the
space in, any other command leaves it. -/
theorem SpellsCommand.before_mark (hm : IsMark mark) {command : Command} {lexeme : List Char}
    (h : SpellsCommand mark command lexeme []) (next : List Char) :
    ∃ text between, IsGap between ∧ lexeme ++ [' '] = text ++ between ∧
      SpellsCommand mark command text (between ++ (mark ++ next)) ∧
      (command.argument = .none → between = [' ']) := by
  cases h with
  | keyword hword _ =>
    have hstop : Stops isWord ([' '] ++ (mark ++ next)) := stops_cons.mpr (by decide)
    exact ⟨_, [' '], IsGap.space, rfl, .keyword hword hstop, fun _ => rfl⟩
  | @search pattern lead inside _ hpattern hlead htrim hfree _ =>
    have hspace : ' ' ∉ mark := by
      intro hmem
      have := hm.solid ' ' hmem
      cases this
    have hfree' : MarkFree mark (inside ++ [' ']) (mark ++ next) :=
      MarkFree.concat (hfree.not_infix hm.some) hspace _
    have hlead' : lead = ['/'] ∨
        lead = "search".toList ∧ Stops isWord (inside ++ [' '] ++ (mark ++ next)) := by
      rcases hlead with hlead | ⟨hlead, hstop⟩
      · exact Or.inl hlead
      · refine Or.inr ⟨hlead, ?_⟩
        cases inside with
        | nil => exact stops_cons.mpr (by decide)
        | cons c cs => exact stops_cons.mpr (stops_cons.mp hstop)
    refine ⟨lead ++ (inside ++ [' ']), [], IsGap.nil, ?_, ?_, ?_⟩
    · rw [List.append_nil, List.append_assoc]
    · exact .search hpattern hlead' ((trim_append_gap inside IsGap.space).trans htrim) hfree'
        (Or.inr (List.prefix_append mark next))
    · intro harg
      cases harg
  | last hgap hne hdigits hlength _ =>
    have hstop : Stops isDigit ([' '] ++ (mark ++ next)) := stops_cons.mpr (by decide)
    exact ⟨_, [' '], IsGap.space, rfl, .last hgap hne hdigits hlength hstop, fun _ => rfl⟩
  | tags hne hmatchers hlead _ =>
    have hstop : startsMatcher (trimStart ([' '] ++ (mark ++ next))) = false := by
      rw [hm.trimStart_gap_append IsGap.space]
      exact hm.startsMatcher next
    exact ⟨_, [' '], IsGap.space, rfl, .tags hne hmatchers hlead hstop, fun _ => rfl⟩

theorem printCommands_one (command : Command) :
    printCommands mark [command] = printCommand command :=
  rfl

theorem printCommands_cons (command second : Command) (others : List Command) :
    printCommands mark (command :: second :: others) = printCommand command ++ [' '] ++
      (mark ++ ([' '] ++ printCommands mark (second :: others))) := by
  simp [printCommands, joinWith]

theorem spells_printCommands (hm : IsMark mark) {commands : List Command} (hne : commands ≠ [])
    (h : ∀ command ∈ commands, WellFormed mark command) :
    SpellsCommands mark commands (printCommands mark commands) := by
  induction commands with
  | nil => exact absurd rfl hne
  | cons command others ih =>
    have hspells := spells_printCommand (h command List.mem_cons_self)
    cases others with
    | nil =>
      have hone := SpellsCommands.last IsGap.nil hspells IsGap.nil
      rwa [List.nil_append, List.append_nil] at hone
    | cons second others =>
      have hothers := ih (List.cons_ne_nil second others)
        fun c hc => h c (List.mem_cons_of_mem _ hc)
      obtain ⟨text, between, hbetween, htext, hcommand, -⟩ := hspells.before_mark hm
        ([' '] ++ printCommands mark (second :: others))
      have hall := SpellsCommands.cons IsGap.nil hbetween hcommand
        (hothers.gap_append IsGap.space)
      rwa [List.nil_append, ← List.append_assoc, ← htext, ← printCommands_cons] at hall

theorem splitAliasName_printCommands (hm : IsMark mark) {commands : List Command}
    (h : ∀ command ∈ commands, WellFormed mark command) :
    splitAliasName (printCommands mark commands) = none := by
  cases commands with
  | nil => rfl
  | cons command others =>
    have hspells := spells_printCommand (h command List.mem_cons_self)
    cases others with
    | nil =>
      have hone := hspells.splitAliasName_eq_none IsGap.nil fun _ => Stops.nil
      rwa [List.nil_append, List.append_nil] at hone
    | cons second others =>
      obtain ⟨text, between, hbetween, htext, hcommand, hkeyword⟩ := hspells.before_mark hm
        ([' '] ++ printCommands mark (second :: others))
      have hcolon : command.argument = .none → Stops (· == ':')
          (between ++ (mark ++ ([' '] ++ printCommands mark (second :: others)))) := by
        intro harg
        rw [hkeyword harg]
        exact stops_cons.mpr (by decide)
      have hall := hcommand.splitAliasName_eq_none IsGap.nil hcolon
      rwa [List.nil_append, ← List.append_assoc, ← htext, ← printCommands_cons] at hall

theorem startsSolid_printCommands {commands : List Command}
    (h : ∀ command ∈ commands, WellFormed mark command) :
    StartsSolid (printCommands mark commands) := by
  cases commands with
  | nil => exact Stops.nil
  | cons command others =>
    have hspells := spells_printCommand (h command List.mem_cons_self)
    cases others with
    | nil => simpa [printCommands_one] using hspells.startsSolid []
    | cons second others =>
      rw [printCommands_cons, List.append_assoc]
      exact hspells.startsSolid _

theorem endsSolid_printCommands (hm : IsMark mark) {commands : List Command}
    (h : ∀ command ∈ commands, WellFormed mark command) :
    EndsSolid (printCommands mark commands) := by
  induction commands with
  | nil => simp [printCommands, joinWith, EndsSolid]
  | cons command others ih =>
    cases others with
    | nil => exact endsSolid_printCommand (h command List.mem_cons_self)
    | cons second others =>
      have hmore : ∀ c ∈ second :: others, WellFormed mark c := fun c hc =>
        h c (List.mem_cons_of_mem _ hc)
      have hne : printCommands mark (second :: others) ≠ [] := by
        intro he
        have hspells := spells_printCommands hm (List.cons_ne_nil second others) hmore
        rw [he] at hspells
        exact hspells.not_isGap IsGap.nil
      rw [printCommands_cons, ← List.append_assoc, ← List.append_assoc, endsSolid_append _ hne]
      exact ih hmore

/-- Reading a printed pipeline gives its commands back, with the text as its source, and reading it
behind a name and a colon defines the alias. -/
theorem readLine_print {separator : String} (hm : IsMark separator.toList)
    {commands : List Command} (hne : commands ≠ [])
    (h : ∀ command ∈ commands, WellFormed separator.toList command) :
    LedgerQuery.readLine separator (print separator commands) =
        .ok (.pipeline ⟨commands, print separator commands⟩) ∧
      ∀ name : String, IsName isCapital name.toList →
        LedgerQuery.readLine separator (name ++ ": " ++ print separator commands) =
          .ok (.aliasDef ⟨name, ⟨commands, print separator commands⟩,
            name ++ ": " ++ print separator commands⟩) := by
  have hspells := spells_printCommands hm hne h
  have hends := endsSolid_printCommands hm h
  have hstarts := startsSolid_printCommands h
  have htrim := trim_eq_self_iff.mpr ⟨hstarts, hends⟩
  constructor
  · have hline := SpellsLine.pipeline (splitAliasName_printCommands hm h) hspells
    rw [htrim] at hline
    rw [readLine_eq_ok_iff hm, print, String.toList_ofList, withoutLineEnds_of_endsSolid hends]
    exact hline
  · intro name hname
    have htext : [] ++ (name.toList ++ ':' :: ([' '] ++ printCommands separator.toList commands)) =
        (name ++ ": " ++ print separator commands).toList := by
      simp [print]
    have hbody : EndsSolid (name ++ ": " ++ print separator commands).toList := by
      have hnil : printCommands separator.toList commands ≠ [] := by
        intro he
        exact hspells.not_isGap (he ▸ IsGap.nil)
      rw [String.toList_append, print, String.toList_ofList, endsSolid_append _ hnil]
      exact hends
    have hspaced : trim ([' '] ++ printCommands separator.toList commands) =
        printCommands separator.toList commands := by
      simpa using trim_of_solid IsGap.space IsGap.nil hstarts hends
    have hline := SpellsLine.aliasDef IsGap.nil hname (hspells.gap_append IsGap.space)
    rw [htext, hspaced, String.ofList_toList, String.ofList_toList] at hline
    rw [readLine_eq_ok_iff hm, withoutLineEnds_of_endsSolid hbody]
    exact hline

theorem readLine_print_standard :
    let text := "/coffee » [a»b] ![eating out] » last 5 » Weekly"
    let body : Pipeline := ⟨[⟨"search", .pattern "coffee"⟩,
      ⟨"tags", .tags [⟨"a»b", false⟩, ⟨"eating out", true⟩]⟩, ⟨"last", .count 5⟩,
      ⟨"Weekly", .none⟩], text⟩
    LedgerQuery.readLine "»" text = .ok (.pipeline body) ∧
      LedgerQuery.readLine "»" ("Mine: " ++ text) =
        .ok (.aliasDef ⟨"Mine", body, "Mine: " ++ text⟩) := by
  intro text body
  have hpattern : IsPattern "»".toList "coffee" :=
    ⟨by decide, by decide, by decide, exists_ok_of_toBool (by decide +kernel)⟩
  have hnames : ∀ matcher ∈ [(⟨"a»b", false⟩ : TagMatcher), ⟨"eating out", true⟩],
      IsTagName matcher.name := by
    simp only [List.forall_mem_cons]
    exact ⟨⟨by decide, by decide, by decide, by decide⟩,
      ⟨by decide, by decide, by decide, by decide⟩, by simp⟩
  have hcount : 5 < 10 ^ Decimal.digitLimit :=
    Nat.lt_of_lt_of_le (by decide : 5 < 10 ^ 1) (Nat.pow_le_pow_right (by decide) (by decide))
  have hword : IsKeyword "Weekly" := by
    refine ⟨⟨'W', "eekly".toList, rfl, by decide, List.all_eq_true.mp (by decide)⟩, by decide, ?_⟩
    intro c rest h
    cases h
  have hwell : ∀ command ∈ body.commands, WellFormed "»".toList command := by
    simp only [body, List.forall_mem_cons]
    exact ⟨.search hpattern, .tags (by decide) hnames, .last hcount, .keyword hword, by simp⟩
  have hname : IsName isCapital "Mine".toList :=
    ⟨'M', "ine".toList, rfl, by decide, List.all_eq_true.mp (by decide)⟩
  obtain ⟨hpipeline, halias⟩ := readLine_print isMark_standard (by decide) hwell
  exact ⟨hpipeline, halias "Mine" hname⟩

end LedgerQuery.Query

namespace LedgerQuery

/-! ## Whatever is read can be read again

The commands of a line are well formed, and the texts that the line leaves behind, the source of its
pipeline and the definition of its alias, are read as the same pipeline and the same definition. -/

def Line.body : Line → Pipeline
  | .aliasDef definition => definition.body
  | .pipeline body => body

namespace Query
open Text

variable {mark : List Char}

theorem SpellsCommands.spellsLine (hm : IsMark mark) (hcolon : ':' ∉ mark)
    {commands : List Command} {text : List Char} (h : SpellsCommands mark commands text) :
    SpellsLine mark (.pipeline ⟨commands, String.ofList (Text.trim text)⟩) (Text.trim text) := by
  have htrimmed := h.trim hm
  have hline := SpellsLine.pipeline (htrimmed.splitAliasName_eq_none hcolon hm) htrimmed
  rwa [trim_trim] at hline

theorem SpellsLine.exists_body {line : Line} {text : List Char} (h : SpellsLine mark line text) :
    ∃ commands rest, SpellsCommands mark commands rest ∧
      line.body = ⟨commands, String.ofList (trim rest)⟩ := by
  cases h with
  | pipeline _ hspells => exact ⟨_, _, hspells, rfl⟩
  | aliasDef _ _ hspells => exact ⟨_, _, hspells, rfl⟩

theorem SpellsLine.aliasDef_spec {definition : AliasDef} {text : List Char}
    (h : SpellsLine mark (.aliasDef definition) text) :
    IsName isCapital definition.name.toList ∧ definition.raw.toList = text := by
  cases h with
  | aliasDef hgap hname hspells =>
    constructor
    · rw [String.toList_ofList]
      exact hname
    · exact String.toList_ofList

theorem not_isGap_of_readWhole {separator : Separator} {text : List Char} {line : Line}
    (h : readWhole separator text = .ok line) : ¬ IsGap text := by
  intro hgap
  unfold readWhole at h
  split at h
  · rename_i name rest hsplit
    rw [splitAliasName, trimStart_gap hgap] at hsplit
    cases hsplit
  · obtain ⟨body, hbody, -⟩ := map_eq_ok_iff.mp h
    obtain ⟨commands, hread, -⟩ := map_eq_ok_iff.mp hbody
    exact (spells_of_readCommands hread).not_isGap hgap

/-- A definition keeps the line that it was read from, and that is not blank. -/
theorem raw_of_readWhole {separator : Separator} {text : List Char} {definition : AliasDef}
    (h : readWhole separator text = .ok (.aliasDef definition)) :
    definition.raw.toList = text ∧ ¬ IsGap text := by
  refine ⟨?_, not_isGap_of_readWhole h⟩
  unfold readWhole at h
  split at h
  · obtain ⟨body, -, hline⟩ := map_eq_ok_iff.mp h
    cases hline
    exact String.toList_ofList
  · obtain ⟨body, -, hline⟩ := map_eq_ok_iff.mp h
    cases hline

/-- Whatever the separator is, a line that is read has well-formed commands. -/
theorem wellFormed_of_readLine {separator : Separator} {text : String} {line : Line}
    (h : readLine separator text = .ok line) :
    ∀ command ∈ line.body.commands, WellFormed separator.mark command := by
  rw [readLine, mapError_eq_ok_iff, readWhole] at h
  split at h
  · obtain ⟨body, hbody, rfl⟩ := map_eq_ok_iff.mp h
    obtain ⟨commands, hread, rfl⟩ := map_eq_ok_iff.mp hbody
    exact (spells_of_readCommands hread).wellFormed
  · obtain ⟨body, hbody, rfl⟩ := map_eq_ok_iff.mp h
    obtain ⟨commands, hread, rfl⟩ := map_eq_ok_iff.mp hbody
    exact (spells_of_readCommands hread).wellFormed

/-- The line that a definition keeps is read as the same definition, whatever the separator is. -/
theorem readLine_raw {separator : Separator} {text : String} {definition : AliasDef}
    (h : readLine separator text = .ok (.aliasDef definition)) :
    readLine separator definition.raw = .ok (.aliasDef definition) := by
  rw [readLine, mapError_eq_ok_iff] at h
  rw [readLine, mapError_eq_ok_iff, (raw_of_readWhole h).1, withoutLineEnds_withoutLineEnds]
  exact h

theorem not_isGap_raw {separator : Separator} {text : String} {definition : AliasDef}
    (h : readLine separator text = .ok (.aliasDef definition)) : ¬ IsGap definition.raw.toList := by
  rw [readLine, mapError_eq_ok_iff] at h
  obtain ⟨hraw, hgap⟩ := raw_of_readWhole h
  rwa [hraw]

/-- The line that a definition keeps is the one that it was read from, up to the ends of lines. -/
theorem exists_raw_append {separator : Separator} {text : String} {definition : AliasDef}
    (h : readLine separator text = .ok (.aliasDef definition)) :
    ∃ gap, text.toList = definition.raw.toList ++ gap := by
  rw [readLine, mapError_eq_ok_iff] at h
  obtain ⟨gap, -, htext⟩ := exists_withoutLineEnds_append_gap text.toList
  rw [← (raw_of_readWhole h).1] at htext
  exact ⟨gap, htext⟩

theorem isName_of_readLine {separator : Separator} {text : String} {definition : AliasDef}
    (h : readLine separator text = .ok (.aliasDef definition)) :
    IsName isCapital definition.name.toList := by
  rw [readLine, mapError_eq_ok_iff, readWhole] at h
  split at h
  · rename_i name rest hsplit
    obtain ⟨body, -, hline⟩ := map_eq_ok_iff.mp h
    cases hline
    rw [String.toList_ofList]
    exact (splitAliasName_eq_some_iff.mp hsplit).1
  · obtain ⟨body, -, hline⟩ := map_eq_ok_iff.mp h
    cases hline

theorem not_isAllBlank_of_readLine {separator : Separator} {text : String} {line : Line}
    (h : readLine separator text = .ok line) : ¬ isAllBlank text.toList = true := by
  intro hblank
  rw [isAllBlank, List.all_eq_true] at hblank
  rw [readLine, mapError_eq_ok_iff] at h
  obtain ⟨gap, -, htext⟩ := exists_withoutLineEnds_append_gap text.toList
  apply not_isGap_of_readWhole h
  intro c hc
  apply hblank
  rw [htext]
  exact List.mem_append_left gap hc

/-- A line that is read has well-formed commands; its source is read as the same pipeline, and if it
defines an alias, what it keeps of itself is read as the same definition. -/
theorem readLine_again {separator : String} (hm : IsMark separator.toList)
    (hcolon : ':' ∉ separator.toList) {text : String} {line : Line}
    (h : LedgerQuery.readLine separator text = .ok line) :
    (∀ command ∈ line.body.commands, WellFormed separator.toList command) ∧
      LedgerQuery.readLine separator line.body.source = .ok (.pipeline line.body) ∧
      ∀ definition, line = .aliasDef definition →
        IsName isCapital definition.name.toList ∧
          LedgerQuery.readLine separator definition.raw = .ok line := by
  have hline := (readLine_eq_ok_iff hm).mp h
  obtain ⟨commands, rest, hspells, hbody⟩ := hline.exists_body
  refine ⟨?_, ?_, ?_⟩
  · rw [hbody]
    exact hspells.wellFormed
  · have hsource : withoutLineEnds line.body.source.toList = trim rest := by
      rw [hbody, String.toList_ofList, withoutLineEnds_of_endsSolid (endsSolid_trim rest)]
    rw [readLine_eq_ok_iff hm, hsource, hbody]
    exact hspells.spellsLine hm hcolon
  · rintro definition rfl
    obtain ⟨hname, hraw⟩ := hline.aliasDef_spec
    refine ⟨hname, ?_⟩
    rw [readLine_eq_ok_iff hm, hraw, withoutLineEnds_withoutLineEnds]
    exact hline

theorem readLine_again_glued :
    LedgerQuery.readLine "»" "Mine: last5 \n" =
        .ok (.aliasDef ⟨"Mine", ⟨[⟨"last", .count 5⟩], "last5"⟩, "Mine: last5 "⟩) ∧
      LedgerQuery.readLine "»" "last5" = .ok (.pipeline ⟨[⟨"last", .count 5⟩], "last5"⟩) ∧
      LedgerQuery.readLine "»" "Mine: last5 " =
        .ok (.aliasDef ⟨"Mine", ⟨[⟨"last", .count 5⟩], "last5"⟩, "Mine: last5 "⟩) := by
  have hname : IsName isCapital "Mine".toList :=
    ⟨'M', "ine".toList, rfl, by decide, List.all_eq_true.mp (by decide)⟩
  have hspace : Stops isDigit [' '] := stops_cons.mpr (by decide)
  have hlast : SpellsCommand "»".toList ⟨"last", .count 5⟩ "last5".toList [' '] :=
    .last IsGap.nil (List.cons_ne_nil '5' []) (List.all_eq_true.mp (by decide)) (by decide) hspace
  have hline : SpellsLine "»".toList
      (.aliasDef ⟨"Mine", ⟨[⟨"last", .count 5⟩], "last5"⟩, "Mine: last5 "⟩)
      "Mine: last5 ".toList :=
    .aliasDef IsGap.nil hname (.last IsGap.space hlast IsGap.space)
  have hread : LedgerQuery.readLine "»" "Mine: last5 \n" =
      .ok (.aliasDef ⟨"Mine", ⟨[⟨"last", .count 5⟩], "last5"⟩, "Mine: last5 "⟩) :=
    (readLine_eq_ok_iff isMark_standard).mpr hline
  obtain ⟨-, hsource, hraw⟩ := readLine_again isMark_standard (by decide) hread
  exact ⟨hread, hsource, (hraw _ rfl).2⟩

end Query

end LedgerQuery
