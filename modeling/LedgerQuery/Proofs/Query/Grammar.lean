import LedgerQuery.Pattern.Read
import LedgerQuery.Proofs.Decimal.Digits
import LedgerQuery.Proofs.Text.Blank
import LedgerQuery.Proofs.Text.Search
import LedgerQuery.Query.Line
import LedgerQuery.Query.Syntax

/-! # The grammar of lines -/

namespace LedgerQuery.Query

/-! ## Well-formed commands

Commands that a line can hold, and the plainest line that holds them. What a command may be
depends on the mark between commands only for the pattern of a search. -/

open Text

section WellFormed

/-- No character of the mark can belong to a keyword, begin a command or stand between words. -/
structure IsMark (mark : List Char) : Prop where
  some : mark ≠ []
  solid : ∀ c ∈ mark, isBlank c = false
  noWord : ∀ c ∈ mark, isWord c = false
  noSign : ∀ c ∈ mark, c ∉ ['!', '[', '/']

def IsName (first : Char → Bool) (text : List Char) : Prop :=
  ∃ c cs, text = c :: cs ∧ first c = true ∧ ∀ d ∈ cs, isWord d = true

def reserved : List String :=
  ["search", "tags", "last"]

structure IsKeyword (word : String) : Prop where
  name : IsName isKeywordStart word.toList
  free : word ∉ reserved
  /-- What begins with `last` goes on with a letter or an underscore. -/
  notCount : ∀ c rest, word.toList = "last".toList ++ c :: rest → isKeywordStart c = true

structure IsPattern (mark : List Char) (pattern : String) : Prop where
  some : pattern ≠ ""
  trimmed : trim pattern.toList = pattern.toList
  noMark : ¬ mark <:+: pattern.toList
  reads : ∃ expr, Pattern.read pattern.toList = .ok expr

structure IsTagName (name : String) : Prop where
  some : name ≠ ""
  noOpening : '[' ∉ name.toList
  noClosing : ']' ∉ name.toList
  normal : normalizeBlanks name.toList = name.toList

/-- A command with an argument that fits its keyword. -/
inductive WellFormed (mark : List Char) : Command → Prop where
  | keyword {word} : IsKeyword word → WellFormed mark ⟨word, .none⟩
  | search {pattern} : IsPattern mark pattern → WellFormed mark ⟨"search", .pattern pattern⟩
  | last {n : Nat} : n < 10 ^ Decimal.digitLimit → WellFormed mark ⟨"last", .count n⟩
  | tags {matchers} : matchers ≠ [] → (∀ matcher ∈ matchers, IsTagName matcher.name) →
      WellFormed mark ⟨"tags", .tags matchers⟩

def sign (negated : Bool) : List Char :=
  if negated then ['!'] else []

def printMatcher (matcher : TagMatcher) : List Char :=
  sign matcher.negated ++ '[' :: matcher.name.toList ++ [']']

/-- A command as text, with its short form where it has one. -/
def printCommand (command : Command) : List Char :=
  match command.argument with
  | .none => command.keyword.toList
  | .pattern text => '/' :: text.toList
  | .count n => "last ".toList ++ Decimal.ofInt n
  | .tags matchers => joinWith [' '] (matchers.map printMatcher)

def printCommands (mark : List Char) (commands : List Command) : List Char :=
  joinWith (' ' :: mark ++ [' ']) (commands.map printCommand)

variable {mark : List Char}

theorem IsName.isWord {first : Char → Bool} (hf : ∀ c, first c = true → isWord c = true)
    {text : List Char} (h : IsName first text) : ∀ c ∈ text, isWord c = true := by
  obtain ⟨c, cs, rfl, hc, hcs⟩ := h
  intro d hd
  rcases List.mem_cons.mp hd with rfl | hd
  · exact hf d hc
  · exact hcs d hd

theorem IsKeyword.isWord {word : String} (h : IsKeyword word) :
    ∀ c ∈ word.toList, isWord c = true :=
  h.name.isWord fun _ => isWord_of_isKeywordStart

theorem IsPattern.toList_ne_nil {pattern : String} (h : IsPattern mark pattern) :
    pattern.toList ≠ [] := by
  intro he
  exact h.some (String.toList_eq_nil_iff.mp he)

theorem IsTagName.toList_ne_nil {name : String} (h : IsTagName name) : name.toList ≠ [] := by
  intro he
  exact h.some (String.toList_eq_nil_iff.mp he)

theorem IsMark.startsSolid (hm : IsMark mark) : StartsSolid mark := by
  intro c hc
  exact hm.solid c (List.mem_of_mem_head? hc)

theorem isMark_standard : IsMark Separator.standardText.toList := by
  have hletters : letterRanges.has ('»').toNat = false := by
    rw [Ranges.has, ← Array.any_toList]
    decide +kernel
  have hnumerals : numeralRanges.has ('»').toNat = false := by
    rw [Ranges.has, ← Array.any_toList]
    decide +kernel
  have hbeyond : ¬ ('»').toNat < 128 := by decide
  have hword : isWord '»' = false := by
    rw [isWord, isLetter, isNumeral, if_neg hbeyond, if_neg hbeyond, Ranges.contains,
      Ranges.contains, hletters, hnumerals]
    rfl
  have hone : ∀ c ∈ Separator.standardText.toList, c = '»' := fun c hc => List.mem_singleton.mp hc
  constructor
  · decide
  · intro c hc
    rw [hone c hc]
    decide
  · intro c hc
    rw [hone c hc]
    exact hword
  · intro c hc
    rw [hone c hc]
    decide

theorem exists_ok_of_toBool {ε α : Type} {x : Except ε α} (h : x.toBool = true) :
    ∃ a, x = .ok a := by
  cases x with
  | error e => cases h
  | ok a => exact ⟨a, rfl⟩

end WellFormed

/-! ## The grammar of commands

Where a command ends depends on what follows, so a text spells a command in front of the text after
it. Behind a gap and the mark, what follows has no say any more; trimming a text of commands leaves
a text of the same commands. -/

def SpellsMatcher (matcher : TagMatcher) (text : List Char) : Prop :=
  ∃ inside, ']' ∉ inside ∧ normalizeBlanks inside = matcher.name.toList ∧
    text = sign matcher.negated ++ '[' :: inside ++ [']']

inductive SpellsMatchers : List TagMatcher → List Char → Prop where
  | nil : SpellsMatchers [] []
  | cons {matcher matchers gap first others} : IsGap gap → IsTagName matcher.name →
      SpellsMatcher matcher first → SpellsMatchers matchers others →
      SpellsMatchers (matcher :: matchers) (gap ++ first ++ others)

/-- A command in front of `after`. -/
inductive SpellsCommand (mark : List Char) : Command → List Char → List Char → Prop where
  | keyword {word after} : IsKeyword word → Stops isWord after →
      SpellsCommand mark ⟨word, .none⟩ word.toList after
  | search {pattern lead inside after} : IsPattern mark pattern →
      lead = ['/'] ∨ lead = "search".toList ∧ Stops isWord (inside ++ after) →
      trim inside = pattern.toList → MarkFree mark inside after →
      after = [] ∨ mark <+: after →
      SpellsCommand mark ⟨"search", .pattern pattern⟩ (lead ++ inside) after
  | last {gap digits after} : IsGap gap → digits ≠ [] → (∀ c ∈ digits, isDigit c = true) →
      digits.length ≤ Decimal.digitLimit → Stops isDigit after →
      SpellsCommand mark ⟨"last", .count (Decimal.value digits)⟩
        ("last".toList ++ (gap ++ digits)) after
  | tags {matchers lead text after} : matchers ≠ [] → SpellsMatchers matchers text →
      lead = [] ∧ StartsSolid text ∨ lead = "tags".toList →
      startsMatcher (trimStart after) = false →
      SpellsCommand mark ⟨"tags", .tags matchers⟩ (lead ++ text) after

inductive SpellsCommands (mark : List Char) : List Command → List Char → Prop where
  | last {gap command lexeme after} : IsGap gap → SpellsCommand mark command lexeme after →
      IsGap after → SpellsCommands mark [command] (gap ++ (lexeme ++ after))
  | cons {gap command lexeme between commands text} : IsGap gap → IsGap between →
      SpellsCommand mark command lexeme (between ++ (mark ++ text)) →
      SpellsCommands mark commands text →
      SpellsCommands mark (command :: commands)
        (gap ++ (lexeme ++ (between ++ (mark ++ text))))

def Opens (c : Char) : Prop :=
  isKeywordStart c = true ∨ c ∈ ['!', '[', '/']

instance (c : Char) : Decidable (Opens c) :=
  inferInstanceAs (Decidable (isKeywordStart c = true ∨ c ∈ ['!', '[', '/']))

theorem Opens.solid {c : Char} (h : Opens c) : isBlank c = false := by
  rcases h with h | h
  · exact isBlank_of_isWord (isWord_of_isKeywordStart h)
  · simp only [List.mem_cons, List.not_mem_nil, or_false] at h
    rcases h with rfl | rfl | rfl <;> decide

theorem Opens.not_mem_mark {mark : List Char} (hm : IsMark mark) {c : Char} (h : Opens c) :
    c ∉ mark := by
  intro hc
  rcases h with h | h
  · have hw := hm.noWord c hc
    rw [isWord_of_isKeywordStart h] at hw
    cases hw
  · exact hm.noSign c hc h

/-! Matchers. -/

theorem SpellsMatcher.startsMatcher {matcher : TagMatcher} {text : List Char}
    (h : SpellsMatcher matcher text) (rest : List Char) : startsMatcher (text ++ rest) = true := by
  obtain ⟨inside, _, _, rfl⟩ := h
  cases matcher.negated <;> rfl

theorem SpellsMatcher.exists_head {matcher : TagMatcher} {text : List Char}
    (h : SpellsMatcher matcher text) : ∃ c cs, text = c :: cs ∧ (c = '!' ∨ c = '[') := by
  obtain ⟨inside, _, _, rfl⟩ := h
  cases matcher.negated with
  | false => exact ⟨'[', inside ++ [']'], rfl, Or.inr rfl⟩
  | true => exact ⟨'!', '[' :: inside ++ [']'], rfl, Or.inl rfl⟩

theorem SpellsMatcher.endsSolid {matcher : TagMatcher} {text : List Char}
    (h : SpellsMatcher matcher text) : EndsSolid text := by
  obtain ⟨inside, _, _, rfl⟩ := h
  intro c hc
  rw [List.getLast?_concat, Option.mem_some_iff] at hc
  rw [← hc]
  decide

theorem SpellsMatchers.isTagName {matchers : List TagMatcher} {text : List Char}
    (h : SpellsMatchers matchers text) : ∀ matcher ∈ matchers, IsTagName matcher.name := by
  induction h with
  | nil => simp
  | cons _ hname _ _ ih =>
    intro matcher hmem
    rcases List.mem_cons.mp hmem with rfl | hmem
    · exact hname
    · exact ih matcher hmem

theorem SpellsMatchers.endsSolid {matchers : List TagMatcher} {text : List Char}
    (h : SpellsMatchers matchers text) : EndsSolid text := by
  induction h with
  | nil => simp [EndsSolid]
  | @cons matcher matchers gap first others _ _ hfirst hothers ih =>
    obtain ⟨c, cs, hc, -⟩ := hfirst.exists_head
    by_cases hnil : others = []
    · rw [hnil, List.append_nil, endsSolid_append gap (hc ▸ List.cons_ne_nil c cs)]
      exact hfirst.endsSolid
    · rw [endsSolid_append _ hnil]
      exact ih

theorem SpellsMatchers.ne_nil {matchers : List TagMatcher} {text : List Char}
    (h : SpellsMatchers matchers text) (hne : matchers ≠ []) : text ≠ [] := by
  cases h with
  | nil => exact absurd rfl hne
  | cons _ _ hfirst _ =>
    obtain ⟨c, cs, rfl, -⟩ := hfirst.exists_head
    simp

theorem SpellsMatchers.exists_head {matchers : List TagMatcher} {text : List Char}
    (h : SpellsMatchers matchers text) (hne : matchers ≠ []) (hs : StartsSolid text) :
    ∃ c cs, text = c :: cs ∧ (c = '!' ∨ c = '[') := by
  cases h with
  | nil => exact absurd rfl hne
  | @cons matcher matchers gap first others hgap _ hfirst _ =>
    obtain ⟨c, cs, rfl, hc⟩ := hfirst.exists_head
    cases gap with
    | nil => exact ⟨c, cs ++ others, rfl, hc⟩
    | cons d ds =>
      have hblank := hgap d List.mem_cons_self
      rw [stops_cons.mp hs] at hblank
      cases hblank

theorem SpellsMatchers.stops_isWord {matchers : List TagMatcher} {text : List Char}
    (h : SpellsMatchers matchers text) (hne : matchers ≠ []) (rest : List Char) :
    Stops isWord (text ++ rest) := by
  cases h with
  | nil => exact absurd rfl hne
  | @cons matcher matchers gap first others hgap _ hfirst _ =>
    obtain ⟨c, cs, rfl, hc⟩ := hfirst.exists_head
    cases gap with
    | nil =>
      apply stops_cons.mpr
      rcases hc with rfl | rfl <;> decide
    | cons d ds => exact stops_cons.mpr (isWord_of_isBlank (hgap d List.mem_cons_self))

/-! Commands. -/

variable {mark : List Char} {command : Command} {lexeme after : List Char}

theorem SpellsCommand.wellFormed (h : SpellsCommand mark command lexeme after) :
    WellFormed mark command := by
  cases h with
  | keyword hword _ => exact .keyword hword
  | search hpattern _ _ _ _ => exact .search hpattern
  | last _ _ _ hlength _ => exact .last (Decimal.value_lt_of_length_le hlength)
  | tags hne hmatchers _ _ => exact .tags hne hmatchers.isTagName

/-- A command with an argument begins with a sign or with the first letter of its keyword. -/
theorem SpellsCommand.exists_lead (h : SpellsCommand mark command lexeme after)
    (harg : command.argument ≠ .none) :
    ∃ c cs, lexeme = c :: cs ∧ c ∈ ['!', '[', '/', 's', 'l', 't'] := by
  cases h with
  | keyword => exact absurd rfl harg
  | @search pattern lead inside after _ hlead _ _ _ =>
    rcases hlead with rfl | ⟨rfl, -⟩
    · exact ⟨'/', inside, rfl, by decide⟩
    · exact ⟨'s', "earch".toList ++ inside, rfl, by decide⟩
  | last => exact ⟨'l', _, rfl, by decide⟩
  | @tags matchers lead text after hne hmatchers hlead _ =>
    rcases hlead with ⟨rfl, hs⟩ | rfl
    · obtain ⟨c, cs, rfl, hc⟩ := hmatchers.exists_head hne hs
      refine ⟨c, cs, rfl, ?_⟩
      rcases hc with rfl | rfl <;> decide
    · exact ⟨'t', "ags".toList ++ text, rfl, by decide⟩

theorem SpellsCommand.exists_head (h : SpellsCommand mark command lexeme after) :
    ∃ c cs, lexeme = c :: cs ∧ Opens c := by
  by_cases harg : command.argument = .none
  · cases h with
    | keyword hword _ =>
      obtain ⟨c, cs, htext, hc, -⟩ := hword.name
      exact ⟨c, cs, htext, Or.inl hc⟩
    | _ => cases harg
  · obtain ⟨c, cs, htext, hc⟩ := h.exists_lead harg
    refine ⟨c, cs, htext, ?_⟩
    simp only [List.mem_cons, List.not_mem_nil, or_false] at hc
    rcases hc with rfl | rfl | rfl | rfl | rfl | rfl <;> decide

theorem SpellsCommand.startsSolid (h : SpellsCommand mark command lexeme after)
    (rest : List Char) : StartsSolid (lexeme ++ rest) := by
  obtain ⟨c, cs, rfl, hc⟩ := h.exists_head
  exact stops_cons.mpr hc.solid

theorem SpellsCommand.not_isGap (h : SpellsCommand mark command lexeme after)
    (rest : List Char) : ¬ IsGap (lexeme ++ rest) := by
  obtain ⟨c, cs, rfl, hc⟩ := h.exists_head
  intro hgap
  have hblank := hgap c List.mem_cons_self
  rw [hc.solid] at hblank
  cases hblank

theorem SpellsCommand.not_mark (hm : IsMark mark) (h : SpellsCommand mark command lexeme after)
    (rest : List Char) : ¬ mark <+: lexeme ++ rest := by
  obtain ⟨c, cs, rfl, hc⟩ := h.exists_head
  intro hp
  obtain ⟨m, ms, rfl⟩ := List.exists_cons_of_ne_nil hm.some
  rw [List.cons_append, List.cons_prefix_cons] at hp
  exact hc.not_mem_mark hm (hp.1 ▸ List.mem_cons_self)

theorem IsMark.gap_eq_nil (hm : IsMark mark) {between rest : List Char} (hb : IsGap between)
    (hp : mark <+: between ++ rest) : between = [] := by
  cases between with
  | nil => rfl
  | cons c cs =>
    obtain ⟨m, ms, rfl⟩ := List.exists_cons_of_ne_nil hm.some
    rw [List.cons_append, List.cons_prefix_cons] at hp
    have hsolid := hm.solid m List.mem_cons_self
    rw [hp.1, hb c List.mem_cons_self] at hsolid
    cases hsolid

theorem IsMark.not_prefix_gap (hm : IsMark mark) {gap : List Char} (hg : IsGap gap) :
    ¬ mark <+: gap := by
  intro hp
  have hnil : gap = [] := hm.gap_eq_nil hg (by rwa [List.append_nil])
  rw [hnil] at hp
  exact hm.some (List.prefix_nil.mp hp)

theorem IsMark.trimStart_gap_append (hm : IsMark mark) {between : List Char}
    (hb : IsGap between) (rest : List Char) :
    trimStart (between ++ (mark ++ rest)) = mark ++ rest := by
  rw [Text.trimStart_gap_append hb, trimStart_of_startsSolid]
  exact (startsSolid_append hm.some rest).mpr hm.startsSolid

theorem IsMark.startsMatcher (hm : IsMark mark) (rest : List Char) :
    startsMatcher (mark ++ rest) = false := by
  obtain ⟨m, ms, rfl⟩ := List.exists_cons_of_ne_nil hm.some
  have hsign := hm.noSign m List.mem_cons_self
  rw [List.cons_append, Query.startsMatcher]
  · intro others h
    cases h
    exact hsign (by decide)
  · intro others h
    cases h
    exact hsign (by decide)

/-- What stands behind the mark does not change how the command in front of it is read. -/
theorem SpellsCommand.congr (hm : IsMark mark) {between a b : List Char} (hb : IsGap between)
    (h : SpellsCommand mark command lexeme (between ++ (mark ++ a))) :
    SpellsCommand mark command lexeme (between ++ (mark ++ b)) := by
  have stops {p : Char → Bool} {front : List Char}
      (hs : Stops p (front ++ (mark ++ a))) : Stops p (front ++ (mark ++ b)) := by
    have hne : front ++ mark ≠ [] := by simp [hm.some]
    rw [← List.append_assoc, stops_append hne] at hs ⊢
    exact hs
  generalize hafter : between ++ (mark ++ a) = after at h
  cases h with
  | keyword hword hstop => exact .keyword hword (stops (hafter ▸ hstop))
  | @search pattern lead inside _ hpattern hlead htrim hfree hafter' =>
    subst hafter
    have hp : mark <+: between ++ (mark ++ a) := hafter'.resolve_left (by simp [hm.some])
    obtain rfl : between = [] := hm.gap_eq_nil hb hp
    refine .search hpattern ?_ htrim hfree.congr (Or.inr (List.prefix_append _ _))
    rcases hlead with hlead | ⟨hlead, hstop⟩
    · exact Or.inl hlead
    · exact Or.inr ⟨hlead, stops hstop⟩
  | last hgap hne hdigits hlength hstop =>
    exact .last hgap hne hdigits hlength (stops (hafter ▸ hstop))
  | tags hne hmatchers hlead _ =>
    refine .tags hne hmatchers hlead ?_
    rw [hm.trimStart_gap_append hb]
    exact hm.startsMatcher b

/-- Only the pattern of a search may have blanks behind it. -/
theorem SpellsCommand.endsSolid (h : SpellsCommand mark command lexeme after)
    (harg : ∀ pattern, command.argument ≠ .pattern pattern) : EndsSolid lexeme := by
  cases h with
  | keyword hword _ =>
    exact fun c hc => isBlank_of_isWord (hword.isWord c (List.mem_of_getLast? hc))
  | search => exact absurd rfl (harg _)
  | last _ hne hdigits _ _ =>
    rw [← List.append_assoc, endsSolid_append _ hne]
    exact fun c hc => isBlank_of_isDigit (hdigits c (List.mem_of_getLast? hc))
  | @tags matchers lead text _ hne hmatchers _ _ =>
    rw [endsSolid_append lead (hmatchers.ne_nil hne)]
    exact hmatchers.endsSolid

theorem IsPattern.not_isGap {pattern : String} (h : IsPattern mark pattern) {inside : List Char}
    (htrim : trim inside = pattern.toList) : ¬ IsGap inside := by
  intro hg
  rw [trim_gap hg] at htrim
  exact h.toList_ne_nil htrim.symm

theorem SpellsCommand.trimEnd (hm : IsMark mark) (hgap : IsGap after)
    (h : SpellsCommand mark command lexeme after) :
    SpellsCommand mark command (trimEnd lexeme) [] := by
  -- A search has the blanks in its text, any other command behind it.
  by_cases hsearch : ∃ pattern, command.argument = .pattern pattern
  · cases h with
    | @search pattern lead inside _ hpattern hlead htrim hfree hafter =>
      obtain rfl : after = [] := hafter.resolve_right (hm.not_prefix_gap hgap)
      have hinside := hpattern.not_isGap htrim
      have hne : Text.trimEnd inside ≠ [] := fun hn => hinside (trimEnd_eq_nil_iff.mp hn)
      obtain ⟨gap, hg, heq⟩ := exists_trimEnd_append_gap inside
      have hprefix : Text.trimEnd inside <+: inside := ⟨gap, heq.symm⟩
      rw [trimEnd_append lead hinside]
      refine .search hpattern ?_ ?_ ?_ (Or.inl rfl)
      · rcases hlead with hlead | ⟨hlead, hstop⟩
        · exact Or.inl hlead
        · refine Or.inr ⟨hlead, ?_⟩
          rw [List.append_nil, heq, stops_append hne] at hstop
          rwa [List.append_nil]
      · rw [trim_trimEnd, htrim]
      · apply markFree_of_not_infix
        intro hi
        exact hfree.not_infix hm.some (hi.trans hprefix.isInfix)
    | _ =>
      obtain ⟨pattern, hpattern⟩ := hsearch
      cases hpattern
  · rw [trimEnd_of_endsSolid (h.endsSolid fun pattern hp => hsearch ⟨pattern, hp⟩)]
    cases h with
    | keyword hword _ => exact .keyword hword Stops.nil
    | search => exact absurd ⟨_, rfl⟩ hsearch
    | last hgap hne hdigits hlength _ => exact .last hgap hne hdigits hlength Stops.nil
    | tags hne hmatchers hlead _ => exact .tags hne hmatchers hlead rfl

/-! Texts of commands. -/

variable {commands : List Command} {text : List Char}

theorem SpellsCommands.wellFormed (h : SpellsCommands mark commands text) :
    ∀ command ∈ commands, WellFormed mark command := by
  induction h with
  | last _ hcommand _ =>
    intro command hmem
    rw [List.mem_singleton.mp hmem]
    exact hcommand.wellFormed
  | cons _ _ hcommand _ ih =>
    intro command hmem
    rcases List.mem_cons.mp hmem with rfl | hmem
    · exact hcommand.wellFormed
    · exact ih command hmem

theorem SpellsCommands.exists_first (h : SpellsCommands mark commands text) :
    ∃ gap command others lexeme after, commands = command :: others ∧
      text = gap ++ (lexeme ++ after) ∧ IsGap gap ∧ SpellsCommand mark command lexeme after := by
  cases h with
  | last hgap hcommand _ => exact ⟨_, _, _, _, _, rfl, rfl, hgap, hcommand⟩
  | cons hgap _ hcommand _ => exact ⟨_, _, _, _, _, rfl, rfl, hgap, hcommand⟩

theorem SpellsCommands.not_isGap (h : SpellsCommands mark commands text) : ¬ IsGap text := by
  obtain ⟨gap, command, others, lexeme, after, -, rfl, -, hcommand⟩ := h.exists_first
  intro hg
  exact hcommand.not_isGap after fun c hc => hg c (List.mem_append_right gap hc)

theorem SpellsCommands.gap_append {gap : List Char} (hg : IsGap gap)
    (h : SpellsCommands mark commands text) : SpellsCommands mark commands (gap ++ text) := by
  cases h with
  | last hgap hcommand hafter =>
    rw [← List.append_assoc]
    exact .last (hg.append hgap) hcommand hafter
  | cons hgap hbetween hcommand hothers =>
    rw [← List.append_assoc]
    exact .cons (hg.append hgap) hbetween hcommand hothers

theorem SpellsCommands.trimStart (h : SpellsCommands mark commands text) :
    SpellsCommands mark commands (trimStart text) := by
  cases h with
  | last hgap hcommand hafter =>
    rw [trimStart_gap_append hgap, trimStart_of_startsSolid (hcommand.startsSolid _)]
    exact .last IsGap.nil hcommand hafter
  | cons hgap hbetween hcommand hothers =>
    rw [trimStart_gap_append hgap, trimStart_of_startsSolid (hcommand.startsSolid _)]
    exact .cons IsGap.nil hbetween hcommand hothers

theorem SpellsCommands.trimEnd (hm : IsMark mark) (h : SpellsCommands mark commands text) :
    SpellsCommands mark commands (trimEnd text) := by
  induction h with
  | @last gap command lexeme after hgap hcommand hafter =>
    rw [trimEnd_append gap (hcommand.not_isGap after), trimEnd_append_gap lexeme hafter,
      ← List.append_nil (Text.trimEnd lexeme)]
    exact .last hgap (hcommand.trimEnd hm hafter) IsGap.nil
  | @cons gap command lexeme between commands rest hgap hbetween hcommand hothers ih =>
    have hrest : Text.trimEnd (gap ++ (lexeme ++ (between ++ (mark ++ rest)))) =
        gap ++ (lexeme ++ (between ++ (mark ++ Text.trimEnd rest))) := by
      have h := trimEnd_append (gap ++ (lexeme ++ (between ++ mark))) hothers.not_isGap
      simpa only [List.append_assoc] using h
    rw [hrest]
    exact .cons hgap hbetween (hcommand.congr hm hbetween) ih

theorem SpellsCommands.trim (hm : IsMark mark) (h : SpellsCommands mark commands text) :
    SpellsCommands mark commands (trim text) :=
  h.trimStart.trimEnd hm

end LedgerQuery.Query
