import LedgerQuery.Proofs.Query.Line
import LedgerQuery.Proofs.Query.Position
import LedgerQuery.Proofs.Query.Reading

/-! # Reading what is joined -/

namespace LedgerQuery.Query

/-! ## Texts of commands joined by a gap and the mark

Nothing that is read in front of the joint looks beyond it: a mark without blanks cannot reach over
the gap, and the gap ends every keyword, count and row of tags. So the commands of the first text
are read as before, and reading goes on behind the mark as if the second text stood by itself. -/

open Text

structure IsJoint (gap mark : List Char) : Prop where
  blank : IsGap gap
  spaced : gap ≠ []
  some : mark ≠ []
  solid : ∀ c ∈ mark, isBlank c = false
  /-- The mark is not taken for a tag. -/
  noTag : startsMatcher mark = false

/-- The first character alone tells whether a matcher begins. -/
theorem startsMatcher_append {text : List Char} (h : text ≠ []) (rest : List Char) :
    startsMatcher (text ++ rest) = startsMatcher text := by
  obtain ⟨c, cs, rfl⟩ := List.exists_cons_of_ne_nil h
  unfold startsMatcher
  split <;> simp_all

namespace IsJoint

variable {gap mark text after : List Char}

theorem startsSolid (j : IsJoint gap mark) (next : List Char) : StartsSolid (mark ++ next) := by
  rw [startsSolid_append j.some]
  exact fun c hc => j.solid c (List.mem_of_mem_head? hc)

theorem startsMatcher (j : IsJoint gap mark) (next : List Char) :
    Query.startsMatcher (mark ++ next) = false := by
  rw [startsMatcher_append j.some]
  exact j.noTag

theorem not_prefix_gap (j : IsJoint gap mark) {blanks : List Char} (hb : IsGap blanks)
    (hne : blanks ≠ []) (rest : List Char) : ¬ mark <+: blanks ++ rest := by
  obtain ⟨m, ms, rfl⟩ := List.exists_cons_of_ne_nil j.some
  obtain ⟨b, bs, rfl⟩ := List.exists_cons_of_ne_nil hne
  intro hp
  rw [List.cons_append, List.cons_prefix_cons] at hp
  have hsolid := j.solid m List.mem_cons_self
  rw [hp.1, hb b List.mem_cons_self] at hsolid
  cases hsolid

/-- The mark cannot begin in front of the gap and end behind it. -/
theorem prefix_iff (j : IsJoint gap mark) (rest : List Char) :
    mark <+: text ++ (gap ++ rest) ↔ mark <+: text := by
  constructor
  · intro hp
    obtain ⟨g, gs, rfl⟩ := List.exists_cons_of_ne_nil j.spaced
    by_cases hl : mark.length ≤ text.length
    · exact List.prefix_of_prefix_length_le hp (List.prefix_append _ _) hl
    · exfalso
      have hover : text ++ [g] <+: mark := by
        apply List.prefix_of_prefix_length_le _ hp
        · simp only [List.length_append, List.length_singleton]
          omega
        · exact ⟨gs ++ rest, by simp⟩
      have hsolid := j.solid g (hover.subset (by simp))
      rw [j.blank g List.mem_cons_self] at hsolid
      cases hsolid
  · exact fun hp => hp.trans (List.prefix_append _ _)

theorem markFree (j : IsJoint gap mark) {inside : List Char} (h : MarkFree mark inside after)
    (rest : List Char) : MarkFree mark inside (after ++ (gap ++ rest)) := by
  intro tail ht hne hp
  rw [← List.append_assoc, j.prefix_iff] at hp
  exact h tail ht hne hp

/-- At the end of the text, the gap goes to what stands in front of the mark. -/
theorem markFree_gap (j : IsJoint gap mark) {inside : List Char} (h : MarkFree mark inside [])
    (next : List Char) : MarkFree mark (inside ++ gap) (mark ++ next) := by
  intro tail ⟨front, hfront⟩ hne hp
  rcases List.append_eq_append_iff.mp hfront with ⟨part, hinside, rfl⟩ | ⟨part, -, hgap⟩
  · rw [List.append_assoc, j.prefix_iff] at hp
    by_cases hnil : part = []
    · rw [hnil] at hp
      exact j.some (List.prefix_nil.mp hp)
    · exact h part ⟨front, hinside.symm⟩ hnil (by rwa [List.append_nil])
  · refine j.not_prefix_gap (fun c hc => j.blank c ?_) hne _ hp
    rw [hgap]
    exact List.mem_append_right part hc

theorem stops (j : IsJoint gap mark) {p : Char → Bool}
    (hp : ∀ c, isBlank c = true → p c = false) (h : Stops p after) (rest : List Char) :
    Stops p (after ++ (gap ++ rest)) := by
  cases after with
  | nil => exact stops_of_forall j.spaced (fun c hc => hp c (j.blank c hc)) rest
  | cons c cs => exact stops_cons.mpr (stops_cons.mp h)

theorem trimStart_gap (j : IsJoint gap mark) (h : IsGap after) (next : List Char) :
    trimStart (after ++ (gap ++ (mark ++ next))) = mark ++ next := by
  rw [trimStart_gap_append h, trimStart_gap_append j.blank,
    trimStart_of_startsSolid (j.startsSolid next)]

theorem startsMatcher_trimStart (j : IsJoint gap mark)
    (h : Query.startsMatcher (trimStart after) = false) (next : List Char) :
    Query.startsMatcher (trimStart (after ++ (gap ++ (mark ++ next)))) = false := by
  by_cases hgap : IsGap after
  · rw [j.trimStart_gap hgap]
    exact j.startsMatcher next
  · rw [trimStart_append hgap, startsMatcher_append fun hn => hgap (trimStart_eq_nil_iff.mp hn)]
    exact h

end IsJoint

variable {gap mark lexeme after text rest : List Char} {command : Command}

/-- A command is spelled in front of the joint as it is in front of the end of the text. Only the
pattern of a search takes the gap in. -/
theorem SpellsCommand.joined (j : IsJoint gap mark) (h : SpellsCommand mark command lexeme after)
    (next : List Char) :
    ∃ lexeme' after', lexeme ++ (after ++ (gap ++ (mark ++ next))) = lexeme' ++ after' ∧
      SpellsCommand mark command lexeme' after' ∧
      trimStart after' = trimStart (after ++ (gap ++ (mark ++ next))) := by
  cases h with
  | keyword hword hstop =>
    exact ⟨_, _, rfl, .keyword hword (j.stops (fun _ => isWord_of_isBlank) hstop _), rfl⟩
  | @search pattern lead inside after hpattern hlead htrim hfree hafter =>
    have hlead' : lead = ['/'] ∨ lead = "search".toList ∧
        Stops isWord (inside ++ after ++ (gap ++ (mark ++ next))) := by
      rcases hlead with hlead | ⟨hlead, hstop⟩
      · exact Or.inl hlead
      · exact Or.inr ⟨hlead, j.stops (fun _ => isWord_of_isBlank) hstop _⟩
    rcases hafter with rfl | hmark
    · refine ⟨lead ++ (inside ++ gap), mark ++ next, by simp, ?_, ?_⟩
      · rw [List.append_nil, ← List.append_assoc] at hlead'
        exact .search hpattern hlead' ((trim_append_gap inside j.blank).trans htrim)
          (j.markFree_gap hfree next) (Or.inr (List.prefix_append _ _))
      · rw [j.trimStart_gap IsGap.nil, trimStart_of_startsSolid (j.startsSolid next)]
    · rw [List.append_assoc] at hlead'
      exact ⟨_, _, rfl, .search hpattern hlead' htrim (j.markFree hfree _)
        (Or.inr (hmark.trans (List.prefix_append _ _))), rfl⟩
  | last hgap hne hdigits hlength hstop =>
    exact ⟨_, _, rfl, .last hgap hne hdigits hlength
      (j.stops (fun _ => isDigit_of_isBlank) hstop _), rfl⟩
  | tags hne hmatchers hlead hstop =>
    exact ⟨_, _, rfl, .tags hne hmatchers hlead (j.startsMatcher_trimStart hstop next), rfl⟩

/-- The first command of a text is read in front of the joint as it is at the end of a line. -/
theorem readCommand_joined (j : IsJoint gap mark)
    (h : readCommand mark text = .ok (command, rest)) (next : List Char) :
    ∃ rest', readCommand mark (text ++ (gap ++ (mark ++ next))) = .ok (command, rest') ∧
      trimStart rest' = trimStart (rest ++ (gap ++ (mark ++ next))) := by
  unfold readCommand at h
  simp only at h
  split at h
  · cases h
  · rename_i hmark
    have hsome : ¬ IsGap text := by
      intro hgap
      rw [trimStart_gap hgap] at h
      cases h
    obtain ⟨lexeme, after, htext, hspells, hrest⟩ :=
      spells_of_readCommandHere j.some (startsSolid_trimStart text) h
    obtain ⟨lexeme', after', hjoined, hspells', hafter⟩ := hspells.joined j next
    obtain ⟨rest', hread, hrest'⟩ := readCommandHere_of_spells j.some hspells'
    have hmark' : ¬ (dropHead? mark (trimStart text ++ (gap ++ (mark ++ next)))).isSome = true := by
      rw [isSome_dropHead?_iff, j.prefix_iff, ← isSome_dropHead?_iff]
      exact hmark
    refine ⟨rest', ?_, ?_⟩
    · simp only [readCommand, trimStart_append hsome, if_neg hmark']
      rw [htext, List.append_assoc, hjoined]
      exact hread
    · rw [hrest', hafter]
      by_cases hgap : IsGap rest
      · have hgap' : IsGap after := trimStart_eq_nil_iff.mp (hrest ▸ trimStart_gap hgap)
        rw [j.trimStart_gap hgap, j.trimStart_gap hgap']
      · have hgap' : ¬ IsGap after := by
          rwa [← trimStart_eq_nil_iff, ← hrest, trimStart_eq_nil_iff]
        rw [trimStart_append hgap, trimStart_append hgap', hrest]

/-- Behind the mark, reading goes on as if the second text stood by itself, whether it is read or
not. -/
theorem readCommands_joined {separator : Separator} (j : IsJoint gap separator.mark)
    {commands : List Command} (h : readCommands separator text = .ok commands) (next : List Char) :
    readCommands separator (text ++ (gap ++ (separator.mark ++ next))) =
      (readCommands separator next).map (commands ++ ·) := by
  refine readCommands_induction (motive := fun text commands => readCommands separator
    (text ++ (gap ++ (separator.mark ++ next))) = (readCommands separator next).map (commands ++ ·))
    ?last ?cons h
  case last =>
    intro text command rest hread hend
    obtain ⟨rest', hread', hrest'⟩ := readCommand_joined j hread next
    rw [j.trimStart_gap (trimStart_eq_nil_iff.mp hend)] at hrest'
    exact readCommands_cons hread' hrest'
  case cons =>
    intro text command rest others commands hread hmore ih
    have hgap : ¬ IsGap rest := by
      rw [← trimStart_eq_nil_iff, hmore]
      simp [separator.mark_ne_nil]
    obtain ⟨rest', hread', hrest'⟩ := readCommand_joined j hread next
    rw [trimStart_append hgap, hmore, List.append_assoc] at hrest'
    rw [readCommands_cons hread' hrest', ih]
    cases readCommands separator next <;> rfl

end LedgerQuery.Query

namespace LedgerQuery

/-! ## Lines put together

A line that can be read, a space, the separator, a space and another line: it is read as the
commands of the first followed by those of the second, under the name of the first if that defines
an alias; and where the second cannot be read, the whole fails with the same fault, as much further
on as the second stands behind the first. -/

def Line.name? : Line → Option String
  | .aliasDef definition => some definition.name
  | .pipeline _ => none

namespace Query
open Text

/-- The text begins like the definition of an alias: a gap, a name and a colon. -/
def BeginsDefinition (text : List Char) : Prop :=
  ∃ gap name rest, IsGap gap ∧ IsName isCapital name ∧ text = gap ++ (name ++ ':' :: rest)

theorem splitAliasName_eq_none_iff {text : List Char} :
    splitAliasName text = none ↔ ¬ BeginsDefinition text := by
  constructor
  · rintro hnone ⟨gap, name, rest, hgap, hname, htext⟩
    rw [splitAliasName_eq_some_iff.mpr ⟨hname, gap, hgap, htext⟩] at hnone
    cases hnone
  · intro hnot
    cases hs : splitAliasName text with
    | none => rfl
    | some found =>
      obtain ⟨hname, gap, hgap, htext⟩ := splitAliasName_eq_some_iff.mp hs
      exact absurd ⟨gap, found.1, found.2, hgap, hname, htext⟩ hnot

theorem BeginsDefinition.append {text : List Char} (h : BeginsDefinition text)
    (tail : List Char) : BeginsDefinition (text ++ tail) := by
  obtain ⟨gap, name, rest, hgap, hname, rfl⟩ := h
  exact ⟨gap, name, rest ++ tail, hgap, hname, by simp⟩

theorem BeginsDefinition.of_withoutLineEnds {text : List Char}
    (h : BeginsDefinition (withoutLineEnds text)) : BeginsDefinition text := by
  obtain ⟨ends, -, hends⟩ := exists_withoutLineEnds_append_gap text
  rw [hends]
  exact h.append ends

theorem splitAliasName_append {text tail : List Char} (hs : ¬ IsGap text)
    (hword : Stops isWord tail) (hcolon : Stops (· == ':') tail) :
    splitAliasName (text ++ tail) = (splitAliasName text).map fun p => (p.1, p.2 ++ tail) := by
  have hne : trimStart text ≠ [] := fun hn => hs (trimStart_eq_nil_iff.mp hn)
  obtain ⟨c, cs, hc⟩ := List.exists_cons_of_ne_nil hne
  rw [splitAliasName, splitAliasName, trimStart_append hs, hc, List.cons_append]
  by_cases hcapital : isCapital c = true
  · simp only [if_pos hcapital]
    obtain ⟨hrun, hstop, hsplit⟩ := exists_run isWord cs
    cases hd : cs.dropWhile isWord with
    | nil =>
      rw [hd, List.append_nil] at hsplit
      rw [← hsplit] at hrun
      rw [dropWhile_run hrun hword]
      cases tail with
      | nil => rfl
      | cons d ds =>
        have hne : d ≠ ':' := by simpa using stops_cons.mp hcolon
        simp [hne]
    | cons d ds =>
      rw [hd] at hsplit hstop
      have hstop' : Stops isWord (d :: ds ++ tail) := stops_cons.mpr (stops_cons.mp hstop)
      have htext : cs ++ tail = cs.takeWhile isWord ++ (d :: ds ++ tail) := by
        rw [← List.append_assoc, ← hsplit]
      rw [htext, dropWhile_run hrun hstop', takeWhile_run hrun hstop']
      by_cases hd' : d = ':'
      · simp [hd']
      · simp [hd']
  · simp only [if_neg hcapital, Option.map_none]

variable {separator : Separator}

theorem readCommands_gap_append {gap : List Char} (hg : IsGap gap) (text : List Char) :
    readCommands separator (gap ++ text) = readCommands separator text := by
  have hread : readCommand separator.mark (gap ++ text) = readCommand separator.mark text := by
    rw [readCommand, readCommand, trimStart_gap_append hg]
  cases h : readCommand separator.mark text with
  | error stop => rw [readCommands_stop h, readCommands_stop (hread.trans h)]
  | ok found =>
    obtain ⟨command, rest⟩ := found
    by_cases hend : trimStart rest = []
    · rw [readCommands_last h hend, readCommands_last (hread.trans h) hend]
    · cases hmark : dropHead? separator.mark (trimStart rest) with
      | none =>
        rw [readCommands_unmarked h hend hmark, readCommands_unmarked (hread.trans h) hend hmark]
      | some next =>
        have hnext := dropHead?_eq_some_iff.mp hmark
        rw [readCommands_cons h hnext, readCommands_cons (hread.trans h) hnext]

theorem not_isGap_of_readCommands {text : List Char} {commands : List Command}
    (h : readCommands separator text = .ok commands) : ¬ IsGap text :=
  (spells_of_readCommands h).not_isGap

variable {gap : List Char}

/-- A line that can be read keeps its name and its commands in front of a joint, and the commands
behind the joint follow them. -/
theorem readWhole_joined (j : IsJoint gap separator.mark) {text : List Char} {line : Line}
    (h : readWhole separator text = .ok line) (next : List Char) :
    ∃ join : List Command → Line,
      (∀ more, (join more).name? = line.name? ∧
        (join more).body.commands = line.body.commands ++ more) ∧
      readWhole separator (text ++ (gap ++ (separator.mark ++ next))) =
        (readCommands separator next).map join := by
  have hword : Stops isWord (gap ++ (separator.mark ++ next)) :=
    j.stops (fun _ => isWord_of_isBlank) Stops.nil _
  have hcolon : Stops (· == ':') (gap ++ (separator.mark ++ next)) := by
    refine j.stops (fun c hc => ?_) Stops.nil _
    rw [beq_eq_false_iff_ne]
    rintro rfl
    cases hc
  unfold readWhole at h
  split at h
  · rename_i name rest hsplit
    obtain ⟨body, hbody, rfl⟩ := map_eq_ok_iff.mp h
    obtain ⟨commands, hread, rfl⟩ := map_eq_ok_iff.mp hbody
    have hgap : ¬ IsGap text := by
      obtain ⟨⟨c, cs, rfl, hc, -⟩, before, -, rfl⟩ := splitAliasName_eq_some_iff.mp hsplit
      intro hg
      have hblank := hg c (by simp)
      rw [isBlank_of_isWord (isWord_of_isKeywordStart (isKeywordStart_of_isCapital hc))] at hblank
      cases hblank
    refine ⟨fun more => .aliasDef ⟨String.ofList name,
      ⟨commands ++ more, String.ofList (trim (rest ++ (gap ++ (separator.mark ++ next))))⟩,
      String.ofList (text ++ (gap ++ (separator.mark ++ next)))⟩, fun more => ⟨rfl, rfl⟩, ?_⟩
    rw [readWhole, splitAliasName_append hgap hword hcolon, hsplit, Option.map_some]
    simp only [readPipeline, readCommands_joined j hread]
    cases readCommands separator next <;> rfl
  · rename_i hsplit
    obtain ⟨body, hbody, rfl⟩ := map_eq_ok_iff.mp h
    obtain ⟨commands, hread, rfl⟩ := map_eq_ok_iff.mp hbody
    have hgap := not_isGap_of_readCommands hread
    refine ⟨fun more => .pipeline ⟨commands ++ more,
      String.ofList (trim (text ++ (gap ++ (separator.mark ++ next))))⟩, fun more => ⟨rfl, rfl⟩, ?_⟩
    rw [readWhole, splitAliasName_append hgap hword hcolon, hsplit, Option.map_none]
    simp only [readPipeline, readCommands_joined j hread]
    cases readCommands separator next <;> rfl

theorem isJoint_of_solid {mark ends : List Char} (hsome : mark ≠ [])
    (hsolid : ∀ c ∈ mark, isBlank c = false) (hsign : ∀ c ∈ mark.head?, c ∉ ['!', '['])
    (hends : IsGap ends) : IsJoint (ends ++ [' ']) mark := by
  refine ⟨hends.append IsGap.space, by simp, hsome, hsolid, ?_⟩
  obtain ⟨m, ms, rfl⟩ := List.exists_cons_of_ne_nil hsome
  have hm := hsign m rfl
  rw [startsMatcher]
  · rintro rest h
    cases h
    exact hm (by decide)
  · rintro rest h
    cases h
    exact hm (by decide)

/-- Two lines with a space, the separator and a space between them, read as one. -/
theorem readLine_joined (hsolid : ∀ c ∈ separator.mark, isBlank c = false)
    (hsign : ∀ c ∈ separator.mark.head?, c ∉ ['!', '[']) {first second : String} {line : Line}
    (hfirst : readLine separator first = .ok line) (hsecond : ¬ BeginsDefinition second.toList) :
    ∃ join : List Command → Line,
      (∀ more, (join more).name? = line.name? ∧
        (join more).body.commands = line.body.commands ++ more) ∧
      readLine separator (first ++ " " ++ String.ofList separator.mark ++ " " ++ second) =
        ((readLine separator second).map fun next => join next.body.commands).mapError
          (Fault.shift (first.length + separator.mark.length + 2)) := by
  obtain ⟨ends, hends, htext⟩ := exists_withoutLineEnds_append_gap first.toList
  have j := isJoint_of_solid separator.mark_ne_nil hsolid hsign hends
  obtain ⟨join, hjoin, hread⟩ := readWhole_joined j (mapError_eq_ok_iff.mp hfirst)
    ([' '] ++ withoutLineEnds second.toList)
  refine ⟨join, hjoin, ?_⟩
  have hchars : (first ++ " " ++ String.ofList separator.mark ++ " " ++ second).toList =
      (first.toList ++ ' ' :: separator.mark) ++ ' ' :: second.toList := by simp
  have hwhole : withoutLineEnds
        (first ++ " " ++ String.ofList separator.mark ++ " " ++ second).toList =
      withoutLineEnds first.toList ++ (ends ++ [' '] ++
        (separator.mark ++ ([' '] ++ withoutLineEnds second.toList))) := by
    rw [hchars, withoutLineEnds_append_cons _ (by decide) (by decide)]
    conv => lhs; rw [htext]
    simp
  have hnone : splitAliasName (withoutLineEnds second.toList) = none :=
    splitAliasName_eq_none_iff.mpr fun h => hsecond h.of_withoutLineEnds
  rw [readLine, hwhole, hread, readCommands_gap_append IsGap.space]
  simp only [readLine, readWhole, hnone, readPipeline]
  cases hcommands : readCommands separator (withoutLineEnds second.toList) with
  | ok commands => rfl
  | error stop =>
    have hlength : first.length + separator.mark.length + 2 =
        (withoutLineEnds first.toList ++ (ends ++ [' '] ++ (separator.mark ++ [' ']))).length := by
      have hfirst : first.length = (withoutLineEnds first.toList ++ ends).length := by
        rw [← htext, String.length_toList]
      simp only [hfirst, List.length_append, List.length_singleton]
      omega
    have hfault := Stop.fault_append (liesIn_readCommands hcommands)
      (withoutLineEnds first.toList ++ (ends ++ [' '] ++ (separator.mark ++ [' '])))
    simp only [List.append_assoc] at hfault
    simp only [Except.map, Except.mapError, hlength, List.append_assoc, hfault]

theorem ofQueryFault_eq_malformed_iff {fault : Fault} {cause : Cause} {position : Nat} :
    Failure.ofQueryFault fault = .refusal (.malformed cause position) ↔
      fault = .malformed cause position := by
  cases fault <;> simp [Failure.ofQueryFault]

theorem ne_nil_of_readLine {separator text : String} {line : Line}
    (h : LedgerQuery.readLine separator text = .ok line) : separator.toList ≠ [] := by
  intro hnil
  have hnone : Separator.ofText separator = .error (.breakdown .blankSeparator) := by
    simp [Separator.ofText, Separator.of?, hnil, trim_gap IsGap.nil]
  rw [LedgerQuery.readLine, hnone] at h
  cases h

/-- Reading is compositional over the separator. Behind a line that can be read, a pipeline adds its
commands, and a line that cannot be read fails as by itself, as much further on as it stands. -/
theorem readLine_append {separator : String} (hsolid : ∀ c ∈ separator.toList, isBlank c = false)
    (hsign : ∀ c ∈ separator.toList.head?, c ∉ ['!', '[']) {first second : String} {line : Line}
    (hfirst : LedgerQuery.readLine separator first = .ok line)
    (hsecond : ¬ BeginsDefinition second.toList) :
    (∀ body, LedgerQuery.readLine separator second = .ok (.pipeline body) →
      ∃ joined, LedgerQuery.readLine separator (first ++ " " ++ separator ++ " " ++ second) =
          .ok joined ∧ joined.name? = line.name? ∧
        joined.body.commands = line.body.commands ++ body.commands) ∧
    ∀ cause position,
      LedgerQuery.readLine separator second = .error (.refusal (.malformed cause position)) →
      LedgerQuery.readLine separator (first ++ " " ++ separator ++ " " ++ second) =
        .error (.refusal
          (.malformed cause (position + first.length + separator.length + 2))) := by
  have hsome := ne_nil_of_readLine hfirst
  simp only [readLine_of_solid hsome hsolid] at hfirst ⊢
  obtain ⟨join, hjoin, hread⟩ :=
    readLine_joined hsolid hsign (mapError_eq_ok_iff.mp hfirst) hsecond
  rw [String.ofList_toList, String.length_toList] at hread
  rw [hread]
  constructor
  · intro body hbody
    rw [mapError_eq_ok_iff.mp hbody]
    exact ⟨join body.commands, rfl, hjoin body.commands⟩
  · intro cause position herror
    cases hfault : readLine ⟨separator.toList, hsome⟩ second with
    | ok next =>
      rw [hfault] at herror
      cases herror
    | error fault =>
      rw [hfault] at herror
      obtain rfl := ofQueryFault_eq_malformed_iff.mp (Except.error.inj herror)
      simp only [Except.map, Except.mapError, Fault.shift, Failure.ofQueryFault]
      rw [Nat.add_assoc position, Nat.add_assoc position]

theorem readLine_append_word :
    let first := "Mine: last 5"
    LedgerQuery.readLine "and" first =
        .ok (.aliasDef ⟨"Mine", ⟨[⟨"last", .count 5⟩], "last 5"⟩, first⟩) ∧
      (∃ joined, LedgerQuery.readLine "and" (first ++ " " ++ "and" ++ " " ++ "reverse") =
          .ok joined ∧ joined.name? = some "Mine" ∧
        joined.body.commands = [⟨"last", .count 5⟩, ⟨"reverse", .none⟩]) ∧
      LedgerQuery.readLine "and" "tags" = .error (.refusal (.malformed .tagsWithoutTag 4)) ∧
      LedgerQuery.readLine "and" (first ++ " " ++ "and" ++ " " ++ "tags") =
        .error (.refusal (.malformed .tagsWithoutTag 21)) := by
  intro first
  have hfirst : LedgerQuery.readLine "and" first =
      .ok (.aliasDef ⟨"Mine", ⟨[⟨"last", .count 5⟩], "last 5"⟩, first⟩) := by decide +kernel
  have hreverse : LedgerQuery.readLine "and" "reverse" =
      .ok (.pipeline ⟨[⟨"reverse", .none⟩], "reverse"⟩) := by decide +kernel
  have htags : LedgerQuery.readLine "and" "tags" =
      .error (.refusal (.malformed .tagsWithoutTag 4)) := by decide +kernel
  have hsolid : ∀ c ∈ "and".toList, isBlank c = false := by
    intro c hc
    rw [Bool.eq_false_iff]
    exact List.any_eq_false.mp (by decide) c hc
  have hsign : ∀ c ∈ "and".toList.head?, c ∉ ['!', '['] := by
    intro c hc
    rw [← Option.some.inj (show some 'a' = some c from hc)]
    decide
  have hplain : ¬ BeginsDefinition "reverse".toList := splitAliasName_eq_none_iff.mp (by decide)
  have hopen : ¬ BeginsDefinition "tags".toList := splitAliasName_eq_none_iff.mp (by decide)
  have hshifted := (readLine_append hsolid hsign hfirst hopen).2 _ _ htags
  have hposition : 4 + first.length + "and".length + 2 = 21 := by decide
  rw [hposition] at hshifted
  exact ⟨hfirst, (readLine_append hsolid hsign hfirst hplain).1 _ hreverse, htags, hshifted⟩

end Query

end LedgerQuery
