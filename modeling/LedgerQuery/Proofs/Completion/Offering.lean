import LedgerQuery.Completion.Lines
import LedgerQuery.Proofs.Query.Composition
import LedgerQuery.Proofs.Query.Grammar
import LedgerQuery.Proofs.Query.Line
import LedgerQuery.Proofs.Text.Search

/-! # Completed lines -/

namespace LedgerQuery.Completion

/-! ## What is offered behind a separator

The word being typed is what stands behind the space after the separator, or behind the bracket that
is open there; so the lines that are offered are the text up to there with the words, or the tags,
that hold what has been typed. -/

open Text Query

variable {mark : List Char}

theorem holds_iff {typed : List Char} {word : String} :
    holds typed word = true ↔ lower typed <:+: folded word :=
  occurs_iff

theorem beginsWith_iff {typed : List Char} {word : String} :
    beginsWith typed word = true ↔ lower typed <+: folded word :=
  isSome_dropHead?_iff

theorem holds_of_beginsWith {typed : List Char} {word : String} (h : beginsWith typed word = true) :
    holds typed word = true :=
  holds_iff.mpr (beginsWith_iff.mp h).isInfix

theorem mem_rank_iff {typed : List Char} {words : List String} {word : String} :
    word ∈ rank typed words ↔ word ∈ words ∧ holds typed word = true := by
  have hsorted : word ∈ sorted words ↔ word ∈ words := by
    rw [sorted, List.mem_mergeSort, mem_distinct]
  rw [rank, List.mem_append, List.mem_filter, List.mem_filter, hsorted]
  constructor
  · rintro (⟨hmem, hbegins⟩ | ⟨hmem, hholds⟩)
    · exact ⟨hmem, holds_of_beginsWith hbegins⟩
    · exact ⟨hmem, (Bool.and_eq_true_iff.mp hholds).1⟩
  · rintro ⟨hmem, hholds⟩
    cases hbegins : beginsWith typed word with
    | true => exact Or.inl ⟨hmem, rfl⟩
    | false => exact Or.inr ⟨hmem, by simp [hholds]⟩

theorem endsInTwoSpaces_append_cons (front : List Char) {c : Char} (hc : c ≠ ' ')
    (text : List Char) : endsInTwoSpaces (front ++ c :: text) = endsInTwoSpaces text := by
  have hreverse : (front ++ c :: text).reverse = text.reverse ++ c :: front.reverse := by simp
  rw [endsInTwoSpaces, endsInTwoSpaces, hreverse]
  cases text.reverse with
  | nil => simp [hc]
  | cons d ds =>
    cases ds with
    | nil => simp [hc]
    | cons e es =>
      by_cases hd : d = ' '
      · by_cases he : e = ' '
        · simp [hd, he]
        · simp [he]
      · simp [hd]

theorem boundary_append (hm : mark ≠ []) (front : List Char) {rest : List Char}
    (h : ¬ mark <:+: (mark ++ rest).tail) :
    boundary mark (front ++ (mark ++ rest)) = front.length + mark.length := by
  rw [boundary, lastIndex?_append hm front h]

/-- Behind a separator and a space the mark is not found again where it does not occur. -/
theorem not_infix_behind (hm : IsMark mark) {rest : List Char} (h : ¬ mark <:+: rest) :
    ¬ mark <:+: (mark ++ ' ' :: rest).tail := by
  have hspace : ' ' ∉ mark := by
    intro hmem
    have := hm.solid ' ' hmem
    cases this
  rw [List.tail_append_of_ne_nil hm.some, infix_append_cons_iff hspace]
  rintro (hhere | hlater)
  · exact not_infix_tail hm.some hhere
  · exact h hlater

theorem lastIndex?_lt_of_not_mem {c : Char} {front rest : List Char} (h : c ∉ rest) {i : Nat}
    (hi : lastIndex? [c] (front ++ rest) = some i) : i < front.length := by
  obtain ⟨before, after, htext, rfl⟩ := exists_of_lastIndex?_eq_some hi
  rcases List.append_eq_append_iff.mp htext with ⟨middle, rfl, rfl⟩ | ⟨middle, rfl, hafter⟩
  · exact absurd (by simp) h
  · cases middle with
    | nil =>
      have hrest : [c] ++ after = rest := hafter
      exact absurd (by simp [← hrest]) h
    | cons d ds => simp

theorem lastWordStart_append_space (front : List Char) {typed : List Char}
    (h : ∀ c ∈ typed, isBlank c = false) :
    lastWordStart (front ++ ' ' :: typed) = front.length + 1 := by
  have hfeed : (front ++ ' ' :: typed).getLast? ≠ some '\n' := by
    intro hlast
    rw [List.getLast?_append, List.getLast?_cons] at hlast
    cases hend : typed.getLast? with
    | none =>
      rw [hend] at hlast
      cases hlast
    | some c =>
      rw [hend] at hlast
      cases hlast
      have := h '\n' (List.mem_of_getLast? hend)
      cases this
  have hreverse : (front ++ ' ' :: typed).reverse = typed.reverse ++ ' ' :: front.reverse := by
    simp
  have hrun : ∀ c ∈ typed.reverse, (!isBlank c) = true := by
    intro c hc
    rw [h c (List.mem_reverse.mp hc)]
    rfl
  have hstop : Stops (fun c => !isBlank c) (' ' :: front.reverse) := stops_cons.mpr (by decide)
  rw [lastWordStart, if_neg hfeed, hreverse, takeWhile_run hrun hstop]
  simp only [List.length_append, List.length_cons, List.length_reverse]
  omega

theorem openBracket?_behind (front : List Char) {typed : List Char} (hopen : '[' ∉ typed)
    (hm : mark ≠ []) (hmark : ¬ mark <:+: (mark ++ typed).tail) :
    openBracket? mark (front ++ (mark ++ typed)) = none := by
  unfold openBracket?
  split
  · rfl
  · rename_i opened hopened
    have hlt : opened < (front ++ mark).length :=
      lastIndex?_lt_of_not_mem hopen (by rwa [List.append_assoc])
    have hafter : ¬ boundary mark (front ++ (mark ++ typed)) ≤ opened := by
      rw [boundary_append hm front hmark]
      rw [List.length_append] at hlt
      omega
    simp [hafter]

/-- Behind a separator and a space, the word at the end is being typed. -/
theorem splitPartial_word (hm : IsMark mark) (front : List Char) {typed : List Char}
    (h : ∀ c ∈ typed, isWord c = true) :
    splitPartial mark (front ++ (mark ++ ' ' :: typed)) =
      ⟨front ++ (mark ++ [' ']), typed, false⟩ := by
  have hfree : ¬ mark <:+: typed := by
    intro hin
    obtain ⟨m, ms, hcons⟩ := List.exists_cons_of_ne_nil hm.some
    have hmem : m ∈ mark := by simp [hcons]
    have hword := h m (hin.subset hmem)
    rw [hm.noWord m hmem] at hword
    cases hword
  have hopen : '[' ∉ ' ' :: typed := by
    intro hmem
    rcases List.mem_cons.mp hmem with he | hmem
    · exact absurd he (by decide)
    · exact absurd (h '[' hmem) (by decide)
  have hbehind := not_infix_behind hm hfree
  have hsolid : ∀ c ∈ typed, isBlank c = false := fun c hc => isBlank_of_isWord (h c hc)
  have hstart : lastWordStart (front ++ (mark ++ ' ' :: typed)) =
      (front ++ (mark ++ [' '])).length := by
    rw [← List.append_assoc, lastWordStart_append_space _ hsolid]
    simp [Nat.add_assoc]
  have hmax : max (lastWordStart (front ++ (mark ++ ' ' :: typed)))
      (boundary mark (front ++ (mark ++ ' ' :: typed))) = (front ++ (mark ++ [' '])).length := by
    rw [hstart, boundary_append hm.some front hbehind]
    simp only [List.length_append, List.length_singleton]
    omega
  have htext : front ++ (mark ++ ' ' :: typed) = front ++ (mark ++ [' ']) ++ typed := by simp
  rw [splitPartial, openBracket?_behind front hopen hm.some hbehind]
  simp only [hmax]
  rw [htext, List.take_left, List.drop_left]

theorem openBracket?_append {front typed : List Char} (hopen : '[' ∉ typed) (hclose : ']' ∉ typed)
    (hbefore : boundary mark (front ++ '[' :: typed) ≤ front.length) :
    openBracket? mark (front ++ '[' :: typed) = some front.length := by
  have hopened : lastIndex? ['['] (front ++ '[' :: typed) = some front.length :=
    lastIndex?_append (by simp) front fun hin => hopen (hin.subset List.mem_cons_self)
  have hclosed : ∀ closed ∈ lastIndex? [']'] (front ++ '[' :: typed), closed < front.length := by
    intro closed hmem
    exact lastIndex?_lt_of_not_mem (by simpa using hclose) hmem
  unfold openBracket?
  simp only [hopened]
  rw [if_pos]
  rw [Bool.and_eq_true, decide_eq_true_eq, Option.all_eq_true]
  exact ⟨hbefore, fun closed hmem => decide_eq_true (hclosed closed hmem)⟩

theorem splitPartial_of_open {front rest : List Char} (hopen : '[' ∉ rest)
    (hclose : ']' ∉ rest) (hbefore : boundary mark (front ++ '[' :: rest) ≤ front.length) :
    splitPartial mark (front ++ '[' :: rest) = ⟨front ++ ['['], rest, true⟩ := by
  have htext : front ++ '[' :: rest = (front ++ ['[']) ++ rest := by simp
  have hsize : front.length + 1 = (front ++ ['[']).length := by simp
  rw [splitPartial, openBracket?_append hopen hclose hbefore]
  simp only [hsize]
  rw [htext, List.take_left, List.drop_left]

/-- Behind a separator, a space and a bracket, everything from the bracket on is being typed. -/
theorem splitPartial_tag (hm : IsMark mark) (front : List Char) (negated : Bool)
    {typed : List Char} (hopen : '[' ∉ typed) (hclose : ']' ∉ typed) (hfree : ¬ mark <:+: typed) :
    splitPartial mark (front ++ (mark ++ ' ' :: (sign negated ++ '[' :: typed))) =
      ⟨front ++ (mark ++ ' ' :: (sign negated ++ ['['])), typed, true⟩ := by
  have hbracket : '[' ∉ mark := fun hmem => hm.noSign '[' hmem (by simp)
  have hsign : ¬ mark <:+: sign negated := by
    intro hin
    obtain ⟨m, ms, hcons⟩ := List.exists_cons_of_ne_nil hm.some
    have hmem : m ∈ mark := by simp [hcons]
    have hchar := hin.subset hmem
    cases negated with
    | true => exact hm.noSign m hmem (by simp [List.mem_singleton.mp hchar])
    | false => cases hchar
  have hrest : ¬ mark <:+: sign negated ++ '[' :: typed := by
    rw [infix_append_cons_iff hbracket]
    exact fun hin => hin.elim hsign hfree
  have hlength : front.length + mark.length ≤ (front ++ (mark ++ ' ' :: sign negated)).length := by
    simp only [List.length_append, List.length_cons]
    omega
  have hbound := boundary_append hm.some front (not_infix_behind hm hrest)
  have htext : front ++ (mark ++ ' ' :: (sign negated ++ '[' :: typed)) =
      front ++ (mark ++ ' ' :: sign negated) ++ '[' :: typed := by simp
  rw [htext] at hbound ⊢
  rw [splitPartial_of_open hopen hclose (hbound ▸ hlength)]
  simp

variable {separator : String}

theorem isAllBlank_behind (hm : IsMark mark) (front rest : List Char) :
    isAllBlank (front ++ (mark ++ rest)) = false := by
  obtain ⟨m, ms, hcons⟩ := List.exists_cons_of_ne_nil hm.some
  have hmem : m ∈ mark := by simp [hcons]
  rw [isAllBlank, List.all_eq_false]
  exact ⟨m, by simp [hmem], by simp [hm.solid m hmem]⟩

theorem endsInTwoSpaces_behind (hm : IsMark mark) (front : List Char) {typed : List Char}
    (hhead : typed.head? ≠ some ' ') (hend : endsInTwoSpaces typed = false) :
    endsInTwoSpaces (front ++ (mark ++ ' ' :: typed)) = false := by
  cases typed with
  | nil =>
    have hsolid : mark.getLast hm.some ≠ ' ' := by
      intro he
      have := hm.solid _ (List.getLast_mem hm.some)
      rw [he] at this
      cases this
    have htext : front ++ (mark ++ [' ']) =
        (front ++ mark.dropLast) ++ mark.getLast hm.some :: [' '] := by
      conv_lhs => rw [← List.dropLast_concat_getLast hm.some]
      simp
    rw [htext, endsInTwoSpaces_append_cons _ hsolid]
    rfl
  | cons c cs =>
    have hc : c ≠ ' ' := fun he => hhead (by rw [he]; rfl)
    have htext : front ++ (mark ++ ' ' :: c :: cs) = (front ++ (mark ++ [' '])) ++ c :: cs := by
      simp
    rw [htext, endsInTwoSpaces_append_cons _ hc]
    exact (endsInTwoSpaces_append_cons [] hc cs).symm.trans hend

theorem lines_word (hm : IsMark separator.toList) (vocabulary : Vocabulary) (first : String)
    {typed : String} (h : ∀ c ∈ typed.toList, isWord c = true) :
    lines vocabulary separator (first ++ " " ++ separator ++ " " ++ typed) =
      (rank typed.toList vocabulary.commands).map (first ++ " " ++ separator ++ " " ++ ·) := by
  have htext : (first ++ " " ++ separator ++ " " ++ typed).toList =
      (first.toList ++ [' ']) ++ (separator.toList ++ ' ' :: typed.toList) := by simp
  have hsolid : ∀ c ∈ typed.toList, c ≠ ' ' := by
    rintro c hc rfl
    exact absurd (h ' ' hc) (by decide)
  have hend : endsInTwoSpaces typed.toList = false := by
    rw [endsInTwoSpaces]
    split
    · rename_i rest hreverse
      have hmem : ' ' ∈ typed.toList := by
        rw [← List.mem_reverse, hreverse]
        exact List.mem_cons_self
      exact absurd rfl (hsolid ' ' hmem)
    · rfl
  have hhead : typed.toList.head? ≠ some ' ' := by
    intro he
    exact hsolid ' ' (List.mem_of_mem_head? he) rfl
  have hwhole : String.ofList ((first.toList ++ [' ']) ++ (separator.toList ++ [' '])) =
      first ++ " " ++ separator ++ " " := by
    apply String.toList_inj.mp
    simp
  rw [lines]
  simp only [htext, isAllBlank_behind hm, endsInTwoSpaces_behind hm _ hhead hend,
    splitPartial_word hm _ h, hwhole]
  rfl

theorem lines_tag (hm : IsMark separator.toList) (vocabulary : Vocabulary) (first : String)
    (negated : Bool) {typed : String} (hopen : '[' ∉ typed.toList) (hclose : ']' ∉ typed.toList)
    (hfree : ¬ separator.toList <:+: typed.toList)
    (hend : endsInTwoSpaces typed.toList = false) :
    lines vocabulary separator
        (first ++ " " ++ separator ++ " " ++ (if negated then "![" else "[") ++ typed) =
      (rank (trimStart typed.toList) vocabulary.tags).map fun tag =>
        first ++ " " ++ separator ++ " " ++ String.ofList (printMatcher ⟨tag, negated⟩) := by
  have hopening : (if negated then "![" else "[").toList = sign negated ++ ['['] := by
    cases negated <;> rfl
  have htext : (first ++ " " ++ separator ++ " " ++ (if negated then "![" else "[") ++
      typed).toList = (first.toList ++ [' ']) ++
        (separator.toList ++ ' ' :: (sign negated ++ '[' :: typed.toList)) := by
    simp [hopening]
  have hhead : (sign negated ++ '[' :: typed.toList).head? ≠ some ' ' := by
    cases negated <;> simp [sign]
  have hbracket : endsInTwoSpaces (sign negated ++ '[' :: typed.toList) = false := by
    rw [endsInTwoSpaces_append_cons _ (by decide)]
    exact hend
  have hwhole : ∀ tag : String, String.ofList ((first.toList ++ [' ']) ++
      (separator.toList ++ ' ' :: (sign negated ++ ['[']))) ++ tag ++ "]" =
      first ++ " " ++ separator ++ " " ++ String.ofList (printMatcher ⟨tag, negated⟩) := by
    intro tag
    apply String.toList_inj.mp
    simp [printMatcher]
  rw [lines]
  simp only [htext, isAllBlank_behind hm, endsInTwoSpaces_behind hm _ hhead hbracket,
    splitPartial_tag hm _ negated hopen hclose hfree, hwhole]
  rfl

theorem lines_spaces (vocabulary : Vocabulary) (separator : String) {first : String}
    (h : ¬ IsGap first.toList) :
    lines vocabulary separator (first ++ "  ") =
      [String.ofList (trimEnd first.toList) ++ " " ++ separator ++ " "] := by
  have htext : (first ++ "  ").toList = first.toList ++ [' ', ' '] := by simp
  have hsolid : isAllBlank (first.toList ++ [' ', ' ']) = false := by
    rw [Bool.eq_false_iff]
    intro hblank
    rw [isAllBlank, List.all_append, Bool.and_eq_true, List.all_eq_true] at hblank
    exact h hblank.1
  have hend : endsInTwoSpaces (first.toList ++ [' ', ' ']) = true := by
    simp [endsInTwoSpaces]
  have hgap : IsGap [' ', ' '] := IsGap.space.append IsGap.space
  rw [lines]
  simp only [htext, hsolid, hend, trimEnd_append_gap _ hgap]
  rfl

end LedgerQuery.Completion

namespace LedgerQuery

/-! ## How completed lines are read

Behind a pipeline and a separator, a line that is offered is read as the commands of the pipeline
and, after them, the command that completes it; and the line that is offered for two spaces goes on
with any other pipeline. -/

open Text Query

def ReadsAs (separator text : String) (commands : List Command) : Prop :=
  ∃ body, readLine separator text = .ok (.pipeline body) ∧ body.commands = commands

variable {separator first second : String} {commands more : List Command}

theorem ReadsAs.joined (hm : IsMark separator.toList) (hfirst : ReadsAs separator first commands)
    (hsecond : ReadsAs separator second more) (hplain : ¬ BeginsDefinition second.toList) :
    ReadsAs separator (first ++ " " ++ separator ++ " " ++ second) (commands ++ more) := by
  obtain ⟨body, hbody, rfl⟩ := hfirst
  obtain ⟨next, hnext, rfl⟩ := hsecond
  have hsign : ∀ c ∈ separator.toList.head?, c ∉ ['!', '['] := by
    intro c hc hmem
    have hall : ['!', '['] ⊆ ['!', '[', '/'] := List.sublist_append_left _ _ |>.subset
    exact hm.noSign c (List.mem_of_mem_head? hc) (hall hmem)
  rw [readLine_of_solid hm.some hm.solid, mapError_eq_ok_iff] at hbody hnext
  obtain ⟨join, hjoin, hread⟩ := readLine_joined hm.solid hsign hbody hplain
  rw [String.ofList_toList, hnext] at hread
  obtain ⟨hname, hcommands⟩ := hjoin next.commands
  cases hline : join next.commands with
  | aliasDef definition =>
    rw [hline] at hname
    cases hname
  | pipeline joined =>
    refine ⟨joined, ?_, ?_⟩
    · rw [readLine_of_solid hm.some hm.solid, hread, ← hline]
      rfl
    · rw [hline] at hcommands
      exact hcommands

theorem readsAs_of_spells (hm : IsMark separator.toList) {text : List Char}
    (hnone : splitAliasName text = none) (hspells : SpellsCommands separator.toList commands text)
    (hends : EndsSolid text) : ReadsAs separator (String.ofList text) commands := by
  have hline : SpellsLine separator.toList (.pipeline ⟨commands, String.ofList (trim text)⟩)
      (withoutLineEnds (String.ofList text).toList) := by
    rw [String.toList_ofList, withoutLineEnds_of_endsSolid hends]
    exact .pipeline hnone hspells
  exact ⟨_, (readLine_eq_ok_iff hm).mpr hline, rfl⟩

theorem ReadsAs.spells (hm : IsMark separator.toList) (h : ReadsAs separator first commands) :
    splitAliasName (withoutLineEnds first.toList) = none ∧
      SpellsCommands separator.toList commands (withoutLineEnds first.toList) := by
  obtain ⟨body, hbody, rfl⟩ := h
  cases (readLine_eq_ok_iff hm).mp hbody with
  | pipeline hnone hspells => exact ⟨hnone, hspells⟩

theorem ReadsAs.not_isGap (hm : IsMark separator.toList) (h : ReadsAs separator first commands) :
    ¬ IsGap first.toList := by
  obtain ⟨ends, -, htext⟩ := exists_withoutLineEnds_append_gap first.toList
  intro hgap
  rw [htext] at hgap
  exact (h.spells hm).2.not_isGap fun c hc => hgap c (List.mem_append_left ends hc)

theorem ReadsAs.trimEnd (hm : IsMark separator.toList) (h : ReadsAs separator first commands) :
    ReadsAs separator (String.ofList (Text.trimEnd first.toList)) commands := by
  obtain ⟨hnone, hspells⟩ := h.spells hm
  obtain ⟨ends, hends, htext⟩ := exists_withoutLineEnds_append_gap first.toList
  have htrim : Text.trimEnd first.toList = Text.trimEnd (withoutLineEnds first.toList) := by
    conv_lhs => rw [htext]
    exact trimEnd_append_gap _ hends
  obtain ⟨gap, -, hgap⟩ := exists_trimEnd_append_gap (withoutLineEnds first.toList)
  have hplain : splitAliasName (Text.trimEnd (withoutLineEnds first.toList)) = none := by
    rw [splitAliasName_eq_none_iff] at hnone ⊢
    intro hbegins
    rw [hgap] at hnone
    exact hnone (hbegins.append gap)
  rw [htrim]
  exact readsAs_of_spells hm hplain (hspells.trimEnd hm) (endsSolid_trimEnd _)

theorem readsAs_printCommand (hm : IsMark separator.toList) {command : Command}
    (h : WellFormed separator.toList command) :
    ReadsAs separator (String.ofList (printCommand command)) [command] := by
  have hone := List.forall_mem_singleton.mpr h
  have hnone : splitAliasName (printCommand command) = none := splitAliasName_printCommands hm hone
  have hspells := spells_printCommands hm (List.cons_ne_nil command []) hone
  exact readsAs_of_spells hm hnone hspells (endsSolid_printCommand h)

/-- Behind a pipeline and a separator, a printed command is read as one more command. -/
theorem ReadsAs.joined_command (hm : IsMark separator.toList)
    (hfirst : ReadsAs separator first commands) {command : Command}
    (h : WellFormed separator.toList command) :
    ReadsAs separator
      (first ++ " " ++ separator ++ " " ++ String.ofList (printCommand command))
      (commands ++ [command]) := by
  have hnone : splitAliasName (printCommand command) = none :=
    splitAliasName_printCommands hm (List.forall_mem_singleton.mpr h)
  apply hfirst.joined hm (readsAs_printCommand hm h)
  rw [String.toList_ofList]
  exact splitAliasName_eq_none_iff.mp hnone

/-- A word that does not begin like `last` is a keyword as a whole. -/
theorem isKeyword_of_name {word : String} (hname : IsName isKeywordStart word.toList)
    (hfree : word ∉ reserved) (hhead : word.toList.head? ≠ some 'l') : IsKeyword word := by
  refine ⟨hname, hfree, fun c rest htext => absurd ?_ hhead⟩
  rw [htext]
  rfl

theorem isKeyword_of_isCapital {word : String} (h : IsName isCapital word.toList) :
    IsKeyword word := by
  have hbuiltin : ∀ other ∈ reserved, other ∈ Builtin.keywords := by decide
  have hfree : word ∉ reserved := fun hmem => not_mem_keywords h (hbuiltin word hmem)
  obtain ⟨c, cs, htext, hc, hcs⟩ := h
  apply isKeyword_of_name ⟨c, cs, htext, isKeywordStart_of_isCapital hc, hcs⟩ hfree
  rw [htext]
  rintro ⟨⟩
  cases hc

theorem isKeyword_builtin {builtin : Builtin} (hfree : builtin.keyword ∉ reserved) :
    IsKeyword builtin.keyword := by
  have hletters : builtin.keyword.toList.all isKeywordStart = true := by cases builtin <;> decide
  have hhead : builtin.keyword.toList.head? ≠ some 'l' := by
    revert hfree
    cases builtin <;> decide
  have hsome : builtin.keyword.toList ≠ [] := by cases builtin <;> decide
  obtain ⟨c, cs, htext⟩ := List.exists_cons_of_ne_nil hsome
  rw [List.all_eq_true, htext] at hletters
  obtain ⟨hc, hcs⟩ := List.forall_mem_cons.mp hletters
  exact isKeyword_of_name ⟨c, cs, htext, hc, fun d hd => isWord_of_isKeywordStart (hcs d hd)⟩
    hfree hhead

/-- The word is the name of an alias, or a builtin keyword that takes no argument. -/
def StandsAlone (word : String) : Prop :=
  IsName isCapital word.toList ∨ word ∈ Builtin.keywords ∧ word ∉ reserved

theorem StandsAlone.isKeyword {word : String} (h : StandsAlone word) : IsKeyword word := by
  rcases h with hname | ⟨hmem, hfree⟩
  · exact isKeyword_of_isCapital hname
  · obtain ⟨builtin, -, rfl⟩ := List.mem_map.mp hmem
    exact isKeyword_builtin hfree

theorem ReadsAs.joined_word (hm : IsMark separator.toList)
    (hfirst : ReadsAs separator first commands) {word : String} (h : StandsAlone word) :
    ReadsAs separator (first ++ " " ++ separator ++ " " ++ word)
      (commands ++ [⟨word, .none⟩]) := by
  have hread := hfirst.joined_command hm (.keyword h.isKeyword)
  rwa [printCommand, String.ofList_toList] at hread

theorem ReadsAs.joined_tag (hm : IsMark separator.toList)
    (hfirst : ReadsAs separator first commands) {tag : String} (h : IsTagName tag)
    (negated : Bool) :
    ReadsAs separator
      (first ++ " " ++ separator ++ " " ++ String.ofList (printMatcher ⟨tag, negated⟩))
      (commands ++ [⟨"tags", .tags [⟨tag, negated⟩]⟩]) := by
  have hwell : WellFormed separator.toList ⟨"tags", .tags [⟨tag, negated⟩]⟩ :=
    .tags (List.cons_ne_nil _ _) (List.forall_mem_singleton.mpr h)
  have hprint : printCommand ⟨"tags", .tags [⟨tag, negated⟩]⟩ = printMatcher ⟨tag, negated⟩ := rfl
  have hread := hfirst.joined_command hm hwell
  rwa [hprint] at hread

theorem ofList_printMatcher (tag : String) (negated : Bool) :
    String.ofList (printMatcher ⟨tag, negated⟩) =
      (if negated then "![" else "[") ++ tag ++ "]" := by
  apply String.toList_inj.mp
  cases negated <;> simp [printMatcher, sign]

/-- Behind a pipeline and a separator, the lines that are offered for a word are the text up to
there with the words that hold it, and an alias or a command without an argument is then read as one
more command. The lines that are offered for a tag in an open bracket are read with one more
command, which asks for a tag of the vocabulary, or is without it, as it was typed. Two spaces
behind a pipeline offer one line, which goes on with any other pipeline. -/
theorem offers_read (hm : IsMark separator.toList) (hfirst : ReadsAs separator first commands)
    (vocabulary : Completion.Vocabulary) :
    let behind := first ++ " " ++ separator ++ " "
    let words := vocabulary.keywords ++ vocabulary.aliases
    (∀ typed : String, (∀ c ∈ typed.toList, isWord c = true) →
      let offered := Completion.lines vocabulary separator (behind ++ typed)
      (∀ line ∈ offered, ∃ word ∈ words, line = behind ++ word ∧
        (StandsAlone word → ReadsAs separator line (commands ++ [⟨word, .none⟩]))) ∧
      ∀ word ∈ words, Completion.holds typed.toList word = true → behind ++ word ∈ offered) ∧
    (∀ (negated : Bool) (typed : String), '[' ∉ typed.toList → ']' ∉ typed.toList →
      ¬ separator.toList <:+: typed.toList → Completion.endsInTwoSpaces typed.toList = false →
      (∀ tag ∈ vocabulary.tags, IsTagName tag) →
      let opening := if negated then "![" else "["
      let offered := Completion.lines vocabulary separator (behind ++ opening ++ typed)
      (∀ line ∈ offered, ∃ tag ∈ vocabulary.tags,
        ReadsAs separator line (commands ++ [⟨"tags", .tags [⟨tag, negated⟩]⟩])) ∧
      ∀ tag ∈ vocabulary.tags, Completion.holds (trimStart typed.toList) tag = true →
        behind ++ opening ++ tag ++ "]" ∈ offered) ∧
    ∃ line, Completion.lines vocabulary separator (first ++ "  ") = [line] ∧
      ∀ second more, ReadsAs separator second more → ¬ BeginsDefinition second.toList →
        ReadsAs separator (line ++ second) (commands ++ more) := by
  intro behind words
  refine ⟨?_, ?_, ?_⟩
  · intro typed hword offered
    have hoffered : offered = (Completion.rank typed.toList words).map (behind ++ ·) :=
      Completion.lines_word hm vocabulary first hword
    rw [hoffered]
    constructor
    · intro line hline
      obtain ⟨word, hmem, rfl⟩ := List.mem_map.mp hline
      refine ⟨word, (Completion.mem_rank_iff.mp hmem).1, rfl, fun halone => ?_⟩
      exact hfirst.joined_word hm halone
    · intro word hmem hholds
      exact List.mem_map_of_mem (Completion.mem_rank_iff.mpr ⟨hmem, hholds⟩)
  · intro negated typed hopen hclose hfree hend htags opening offered
    have hoffered : offered = (Completion.rank (trimStart typed.toList) vocabulary.tags).map
        fun tag => behind ++ String.ofList (printMatcher ⟨tag, negated⟩) :=
      Completion.lines_tag hm vocabulary first negated hopen hclose hfree hend
    rw [hoffered]
    constructor
    · intro line hline
      obtain ⟨tag, hmem, rfl⟩ := List.mem_map.mp hline
      have htag := (Completion.mem_rank_iff.mp hmem).1
      exact ⟨tag, htag, hfirst.joined_tag hm (htags tag htag) negated⟩
    · intro tag hmem hholds
      refine List.mem_map.mpr ⟨tag, Completion.mem_rank_iff.mpr ⟨hmem, hholds⟩, ?_⟩
      simp only [ofList_printMatcher, opening, String.append_assoc]
  · refine ⟨String.ofList (Text.trimEnd first.toList) ++ " " ++ separator ++ " ",
      Completion.lines_spaces vocabulary separator (hfirst.not_isGap hm), ?_⟩
    intro second more hsecond hplain
    have hread := (hfirst.trimEnd hm).joined hm hsecond hplain
    exact hread

/-- A text with the separator in a tag, completed by an alias, by a tag of two words and by another
pipeline. -/
theorem offers_read_coffee :
    let vocabulary : Completion.Vocabulary :=
      { keywords := Builtin.keywords, aliases := ["Coffee"], tags := ["eating out"] }
    let commands : List Command := [⟨"tags", .tags [⟨"a»b", false⟩]⟩]
    IsMark "»".toList ∧ ReadsAs "»" "[a»b]" commands ∧
      "[a»b] » Coffee" ∈ Completion.lines vocabulary "»" "[a»b] » co" ∧
      ReadsAs "»" "[a»b] » Coffee" (commands ++ [⟨"Coffee", .none⟩]) ∧
      "[a»b] » ![eating out]" ∈ Completion.lines vocabulary "»" "[a»b] » ![eat" ∧
      (∀ line ∈ Completion.lines vocabulary "»" "[a»b] » ![eat",
        ReadsAs "»" line (commands ++ [⟨"tags", .tags [⟨"eating out", true⟩]⟩])) ∧
      ∃ line, Completion.lines vocabulary "»" "[a»b]  " = [line] ∧
        ReadsAs "»" (line ++ "count") (commands ++ [⟨"count", .none⟩]) := by
  intro vocabulary commands
  have htag : IsTagName "a»b" := ⟨by decide, by decide, by decide, by decide⟩
  have hwell : WellFormed "»".toList ⟨"tags", .tags [⟨"a»b", false⟩]⟩ :=
    .tags (List.cons_ne_nil _ _) (List.forall_mem_singleton.mpr htag)
  have hprint : String.ofList (printCommand ⟨"tags", .tags [⟨"a»b", false⟩]⟩) = "[a»b]" := by decide
  have hfirst : ReadsAs "»" "[a»b]" commands := by
    rw [← hprint]
    exact readsAs_printCommand isMark_standard hwell
  have hkeyword : IsKeyword "count" := StandsAlone.isKeyword (Or.inr (by decide))
  have hcount := readsAs_printCommand isMark_standard (.keyword hkeyword)
  rw [printCommand, String.ofList_toList] at hcount
  obtain ⟨hwords, htags, line, hline, hmore⟩ := offers_read isMark_standard hfirst vocabulary
  obtain ⟨hword, hcoffee⟩ := hwords "co" (List.all_eq_true.mp (by decide))
  have hoffer : "[a»b] » Coffee" ∈ Completion.lines vocabulary "»" "[a»b] » co" :=
    hcoffee "Coffee" (by decide) (by decide)
  have hname : IsName isCapital "Coffee".toList :=
    ⟨'C', "offee".toList, rfl, by decide, List.all_eq_true.mp (by decide)⟩
  obtain ⟨word, -, hequal, hread⟩ := hword _ hoffer
  obtain rfl : "Coffee" = word := by
    apply String.toList_inj.mp
    have hchars := congrArg String.toList hequal
    simpa [Separator.standardText] using hchars
  have hvocabulary : ∀ tag ∈ vocabulary.tags, IsTagName tag := by
    refine List.forall_mem_singleton.mpr ?_
    exact ⟨by decide, by decide, by decide, by decide⟩
  obtain ⟨htag, hout⟩ :=
    htags true "eat" (by decide) (by decide) (by decide) (by decide) hvocabulary
  refine ⟨isMark_standard, hfirst, hoffer, hread (Or.inl hname), ?_, ?_, line, hline, ?_⟩
  · exact hout "eating out" (by decide) (by decide)
  · intro line hmem
    obtain ⟨tag, htagmem, hreads⟩ := htag line hmem
    rwa [List.mem_singleton.mp htagmem] at hreads
  · exact hmore "count" _ hcount (splitAliasName_eq_none_iff.mp (by decide))

end LedgerQuery
