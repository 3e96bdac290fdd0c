import LedgerQuery.Proofs.Query.Grammar
import LedgerQuery.Query.Line

/-! What the reading functions accept, stated against the grammar, one equivalence for each of them.
From left to right a reader finds nothing that the grammar does not have; from right to left it
stops just where the spelling ends. -/

namespace LedgerQuery.Query
open Text

theorem map_eq_ok_iff {ε α β : Type} {f : α → β} {x : Except ε α} {b : β} :
    x.map f = .ok b ↔ ∃ a, x = .ok a ∧ f a = b := by
  constructor
  · exact eq_ok_of_map_eq_ok
  · rintro ⟨a, rfl, rfl⟩
    rfl

/-! Tags. -/

theorem readBracketed_eq_ok_iff {text rest : List Char} {name : String} :
    readBracketed text = .ok (name, rest) ↔
      IsTagName name ∧ ∃ inside, ']' ∉ inside ∧ normalizeBlanks inside = name.toList ∧
        text = '[' :: inside ++ [']'] ++ rest := by
  constructor
  · intro h
    unfold readBracketed at h
    split at h
    · rename_i inside
      split at h
      · cases h
      · rename_i c after hdrop
        obtain ⟨hrun, hstop, hsplit⟩ := exists_run (· ≠ ']') inside
        have hfree : ']' ∉ inside.takeWhile (· ≠ ']') := by
          intro hmem
          exact of_decide_eq_true (hrun _ hmem) rfl
        have hc : c = ']' := by
          rw [hdrop, stops_cons] at hstop
          simpa using hstop
        subst hc
        simp only at h
        split at h
        · cases h
        · rename_i hne
          split at h
          · cases h
          · rename_i hopen
            cases h
            have hsome := mt String.ofList_eq_empty_iff.mp hne
            refine ⟨⟨hsome, ?_, ?_, ?_⟩, _, hfree, String.toList_ofList.symm, ?_⟩
            · rw [String.toList_ofList]
              simpa using hopen
            · rw [String.toList_ofList]
              intro hmem
              rcases mem_normalizeBlanks hmem with hspace | hmem
              · cases hspace
              · exact hfree hmem
            · rw [String.toList_ofList, normalizeBlanks_normalizeBlanks]
            · rw [hdrop] at hsplit
              simpa using hsplit
    · cases h
  · rintro ⟨hname, inside, hfree, hnormal, rfl⟩
    have hrun : ∀ c ∈ inside, decide (c ≠ ']') = true := by
      intro c hc
      rw [decide_eq_true_eq]
      rintro rfl
      exact hfree hc
    have hstop : Stops (· ≠ ']') (']' :: rest) := stops_cons.mpr (by simp)
    have htext : '[' :: inside ++ [']'] ++ rest = '[' :: (inside ++ ']' :: rest) := by simp
    have hopen : ¬ name.toList.contains '[' = true := by simpa using hname.noOpening
    rw [htext, readBracketed, dropWhile_run hrun hstop, takeWhile_run hrun hstop]
    simp only [hnormal, if_neg hname.toList_ne_nil, if_neg hopen, String.ofList_toList]

theorem readMatcher_eq_ok_iff {text rest : List Char} {matcher : TagMatcher} :
    readMatcher text = .ok (matcher, rest) ↔
      IsTagName matcher.name ∧ ∃ first, SpellsMatcher matcher first ∧ text = first ++ rest := by
  constructor
  · intro h
    unfold readMatcher at h
    split at h
    · rename_i text
      obtain ⟨⟨name, left⟩, hread, hpair⟩ := map_eq_ok_iff.mp h
      cases hpair
      obtain ⟨hname, inside, hfree, hnormal, rfl⟩ := readBracketed_eq_ok_iff.mp hread
      exact ⟨hname, _, ⟨inside, hfree, hnormal, rfl⟩, rfl⟩
    · obtain ⟨⟨name, left⟩, hread, hpair⟩ := map_eq_ok_iff.mp h
      cases hpair
      obtain ⟨hname, inside, hfree, hnormal, rfl⟩ := readBracketed_eq_ok_iff.mp hread
      exact ⟨hname, _, ⟨inside, hfree, hnormal, rfl⟩, rfl⟩
  · rintro ⟨hname, first, ⟨inside, hfree, hnormal, rfl⟩, rfl⟩
    have hread : readBracketed ('[' :: inside ++ [']'] ++ rest) = .ok (matcher.name, rest) :=
      readBracketed_eq_ok_iff.mpr ⟨hname, inside, hfree, hnormal, rfl⟩
    obtain ⟨name, negated⟩ := matcher
    cases negated with
    | false => exact map_eq_ok_iff.mpr ⟨_, hread, rfl⟩
    | true => exact map_eq_ok_iff.mpr ⟨_, hread, rfl⟩

theorem readMatchers_cons {text rest : List Char} {matcher : TagMatcher}
    (hs : startsMatcher (trimStart text) = true)
    (hread : readMatcher (trimStart text) = .ok (matcher, rest)) :
    readMatchers text = (readMatchers rest).map fun p => (matcher :: p.1, p.2) := by
  rw [readMatchers, if_pos hs]
  split
  · rename_i he
    rw [hread] at he
    cases he
  · rename_i he
    rw [hread] at he
    cases he
    rfl

theorem readMatchers_nil {text : List Char} (hs : startsMatcher (trimStart text) = false) :
    readMatchers text = .ok ([], trimStart text) := by
  rw [readMatchers, if_neg (by simp [hs])]

theorem SpellsMatcher.trimStart_append {gap first : List Char} {matcher : TagMatcher}
    (hgap : IsGap gap) (h : SpellsMatcher matcher first) (rest : List Char) :
    trimStart (gap ++ (first ++ rest)) = first ++ rest := by
  obtain ⟨c, cs, rfl, hc⟩ := h.exists_head
  rw [trimStart_gap_append hgap]
  apply trimStart_of_startsSolid
  apply stops_cons.mpr
  rcases hc with rfl | rfl <;> decide

theorem readMatchers_eq_ok_iff {text rest : List Char} {matchers : List TagMatcher} :
    readMatchers text = .ok (matchers, rest) ↔
      ∃ lexeme after, SpellsMatchers matchers lexeme ∧
        startsMatcher (trimStart after) = false ∧ rest = trimStart after ∧
        text = lexeme ++ after := by
  constructor
  · intro h
    induction text using readMatchers.induct generalizing matchers rest with
    | case1 text hs stop he =>
      rw [readMatchers, if_pos hs] at h
      split at h
      · cases h
      · rename_i ho
        rw [he] at ho
        cases ho
    | case2 text hs matcher after ho hlt ih =>
      rw [readMatchers_cons hs ho] at h
      obtain ⟨⟨more, left⟩, hmore, hpair⟩ := map_eq_ok_iff.mp h
      cases hpair
      obtain ⟨others, after, hothers, hstop, hrest, rfl⟩ := ih hmore
      obtain ⟨hname, first, hfirst, htext⟩ := readMatcher_eq_ok_iff.mp ho
      obtain ⟨gap, hgap, hsplit⟩ := exists_gap_append_trimStart text
      refine ⟨_, after, .cons hgap hname hfirst hothers, hstop, hrest, ?_⟩
      rw [hsplit, htext]
      simp only [List.append_assoc]
    | case3 text hs =>
      rw [readMatchers_nil (by simpa using hs)] at h
      cases h
      exact ⟨[], text, .nil, by simpa using hs, rfl, rfl⟩
  · rintro ⟨lexeme, after, h, hstop, rfl, rfl⟩
    induction h with
    | nil => exact readMatchers_nil hstop
    | @cons matcher matchers gap first others hgap hname hfirst _ ih =>
      have htrim := hfirst.trimStart_append hgap (others ++ after)
      have hs : startsMatcher (trimStart (gap ++ (first ++ (others ++ after)))) = true := by
        rw [htrim]
        exact hfirst.startsMatcher _
      have hread : readMatcher (trimStart (gap ++ (first ++ (others ++ after)))) =
          .ok (matcher, others ++ after) := by
        rw [htrim]
        exact readMatcher_eq_ok_iff.mpr ⟨hname, first, hfirst, rfl⟩
      rw [List.append_assoc, List.append_assoc, readMatchers_cons hs hread, ih]
      rfl

/-! Arguments. -/

variable {mark text rest : List Char}

theorem readPattern_eq_ok_iff (hm : mark ≠ []) {argument : Argument} :
    readPattern mark text = .ok (argument, rest) ↔
      ∃ pattern inside, argument = .pattern pattern ∧ IsPattern mark pattern ∧
        trim inside = pattern.toList ∧ MarkFree mark inside rest ∧
        (rest = [] ∨ mark <+: rest) ∧ text = inside ++ rest := by
  constructor
  · intro h
    unfold readPattern at h
    simp only at h
    split at h
    · cases h
    · rename_i hne
      split at h
      · rename_i expr hread
        cases h
        obtain ⟨hfree, hend⟩ := breakOn_spec mark text
        have hsome := mt String.ofList_eq_empty_iff.mp hne
        refine ⟨_, _, rfl, ⟨hsome, ?_, ?_, ?_⟩, String.toList_ofList.symm, hfree, hend,
          (breakOn_append mark text).symm⟩
        · rw [String.toList_ofList, trim_trim]
        · rw [String.toList_ofList]
          intro hi
          obtain ⟨before, after, -, -, hsplit⟩ := exists_trim_between_gaps (breakOn mark text).1
          exact hfree.not_infix hm (hi.trans ⟨before, after, hsplit.symm⟩)
        · exact ⟨expr, by rw [String.toList_ofList, hread]⟩
      · cases h
      · cases h
  · rintro ⟨pattern, inside, rfl, hpattern, htrim, hfree, hend, rfl⟩
    obtain ⟨expr, hread⟩ := hpattern.reads
    simp only [readPattern, breakOn_append_eq hfree hend, htrim, if_neg hpattern.toList_ne_nil,
      hread, String.ofList_toList]

theorem readCount_eq_ok_iff {argument : Argument} :
    readCount text = .ok (argument, rest) ↔
      ∃ gap digits, IsGap gap ∧ digits ≠ [] ∧ (∀ c ∈ digits, isDigit c = true) ∧
        digits.length ≤ Decimal.digitLimit ∧ Stops isDigit rest ∧
        argument = .count (Decimal.value digits) ∧ text = gap ++ digits ++ rest := by
  constructor
  · intro h
    unfold readCount at h
    simp only at h
    split at h
    · cases h
    · rename_i hne
      split at h
      · cases h
      · rename_i hlength
        cases h
        obtain ⟨gap, hgap, htext⟩ := exists_gap_append_trimStart text
        obtain ⟨hdigits, hstop, hsplit⟩ := exists_run isDigit (trimStart text)
        refine ⟨gap, _, hgap, hne, hdigits, by omega, hstop, rfl, ?_⟩
        rw [List.append_assoc, ← hsplit, ← htext]
  · rintro ⟨gap, digits, hgap, hne, hdigits, hlength, hstop, rfl, rfl⟩
    have hsolid : StartsSolid (digits ++ rest) := by
      obtain ⟨d, ds, rfl⟩ := List.exists_cons_of_ne_nil hne
      exact stops_cons.mpr (isBlank_of_isDigit (hdigits d List.mem_cons_self))
    have htrim : trimStart (gap ++ digits ++ rest) = digits ++ rest := by
      rw [List.append_assoc, trimStart_gap_append hgap, trimStart_of_startsSolid hsolid]
    have hshort : ¬ Decimal.digitLimit < digits.length := by omega
    simp only [readCount, htrim, takeWhile_run hdigits hstop, dropWhile_run hdigits hstop,
      if_neg hne, if_neg hshort]

theorem readTags_eq_ok_iff {argument : Argument} :
    readTags text = .ok (argument, rest) ↔
      ∃ matchers lexeme after, matchers ≠ [] ∧ SpellsMatchers matchers lexeme ∧
        startsMatcher (trimStart after) = false ∧ rest = trimStart after ∧
        argument = .tags matchers ∧ text = lexeme ++ after := by
  constructor
  · intro h
    unfold readTags at h
    split at h
    · rename_i hs
      obtain ⟨⟨matchers, left⟩, hread, hpair⟩ := map_eq_ok_iff.mp h
      cases hpair
      obtain ⟨lexeme, after, hspells, hstop, hrest, rfl⟩ := readMatchers_eq_ok_iff.mp hread
      refine ⟨matchers, lexeme, after, ?_, hspells, hstop, hrest, rfl, rfl⟩
      rintro rfl
      cases hspells
      rw [List.nil_append, hstop] at hs
      cases hs
    · cases h
  · rintro ⟨matchers, lexeme, after, hne, hspells, hstop, rfl, rfl, rfl⟩
    have hread := readMatchers_eq_ok_iff.mpr ⟨lexeme, after, hspells, hstop, rfl, rfl⟩
    have hs : startsMatcher (trimStart (lexeme ++ after)) = true := by
      cases hspells with
      | nil => exact absurd rfl hne
      | cons hgap _ hfirst _ =>
        rw [List.append_assoc, List.append_assoc, hfirst.trimStart_append hgap]
        exact hfirst.startsMatcher _
    rw [readTags, if_pos hs, hread]
    rfl

/-! Keywords. -/

/-- A word that is split off whole: not `last` with something glued to it. -/
structure IsWhole (word : List Char) : Prop where
  name : IsName isKeywordStart word
  notLast : word ≠ "last".toList
  notCount : ∀ c rest, word = "last".toList ++ c :: rest → isKeywordStart c = true

theorem IsKeyword.isWhole {word : String} (h : IsKeyword word) : IsWhole word.toList := by
  refine ⟨h.name, ?_, h.notCount⟩
  intro he
  apply h.free
  rw [← String.ofList_toList (s := word), he]
  decide

theorem splitKeyword_whole {word : List Char} (h : IsWhole word) (hstop : Stops isWord rest) :
    splitKeyword (word ++ rest) = (word, rest) := by
  have hrun : ∀ c ∈ word, isWord c = true := h.name.isWord fun _ => isWord_of_isKeywordStart
  have hsplit : ((word ++ rest).takeWhile isWord, (word ++ rest).dropWhile isWord) =
      (word, rest) := by
    rw [takeWhile_run hrun hstop, dropWhile_run hrun hstop]
  unfold splitKeyword
  split
  · rename_i more hdrop
    rw [if_pos]
    · exact hsplit
    -- `last` may neither reach beyond the word nor be cut off inside it.
    · rcases List.append_eq_append_iff.mp (dropHead?_eq_some_iff.mp hdrop) with
        ⟨tail, hlast, hrest⟩ | ⟨tail, hword, hmore⟩
      · cases tail with
        | nil => exact absurd (by simpa using hlast.symm) h.notLast
        | cons c cs =>
          have hc : isWord c = false := hstop c (by rw [hrest]; rfl)
          have hletters : ∀ d ∈ "last".toList, isWord d = true := List.all_eq_true.mp (by decide)
          have hmem : c ∈ "last".toList := by
            show c ∈ ['l', 'a', 's', 't']
            rw [hlast]
            simp
          rw [hletters c hmem] at hc
          cases hc
      · cases tail with
        | nil => exact absurd (by simpa using hword) h.notLast
        | cons c cs =>
          rw [hmore]
          simpa using h.notCount c cs hword
  · exact hsplit

theorem splitKeyword_last (hstop : Stops isKeywordStart rest) :
    splitKeyword ("last".toList ++ rest) = ("last".toList, rest) := by
  have hhead : ¬ rest.head?.any isKeywordStart = true := by
    cases rest with
    | nil => simp
    | cons c cs => simpa using stops_cons.mp hstop
  unfold splitKeyword
  rw [show dropHead? ['l', 'a', 's', 't'] ("last".toList ++ rest) = some rest from
    dropHead?_append "last".toList rest]
  simp only [if_neg hhead]
  rfl

theorem splitKeyword_spec {c : Char} (cs : List Char) (hc : isKeywordStart c = true) :
    ∃ word rest, splitKeyword (c :: cs) = (word, rest) ∧ c :: cs = word ++ rest ∧
      (word = "last".toList ∨ IsWhole word ∧ Stops isWord rest) := by
  have hw : isWord c = true := isWord_of_isKeywordStart hc
  have htake : (c :: cs).takeWhile isWord = c :: cs.takeWhile isWord :=
    List.takeWhile_cons_of_pos hw
  obtain ⟨hrun, hstop, hsplit⟩ := exists_run isWord (c :: cs)
  have hname : IsName isKeywordStart ((c :: cs).takeWhile isWord) :=
    ⟨c, _, htake, hc, fun d hd => List.mem_takeWhile_imp hd⟩
  -- Only `last` is cut off where word characters go on; every other word is taken whole.
  by_cases hlast : ∃ rest, c :: cs = "last".toList ++ rest ∧ Stops isKeywordStart rest
  · obtain ⟨rest, htext, hstart⟩ := hlast
    exact ⟨_, rest, htext ▸ splitKeyword_last hstart, htext, Or.inl rfl⟩
  · have hwhole : IsWhole ((c :: cs).takeWhile isWord) := by
      refine ⟨hname, ?_, ?_⟩
      · intro he
        rw [he] at hsplit
        refine hlast ⟨_, hsplit, ?_⟩
        intro d hd
        have := hstop d hd
        by_contra hk
        rw [Bool.not_eq_false] at hk
        rw [isWord_of_isKeywordStart hk] at this
        cases this
      · intro d ds he
        by_contra hk
        refine hlast ⟨d :: (ds ++ (c :: cs).dropWhile isWord), ?_, ?_⟩
        · rw [he] at hsplit
          simpa using hsplit
        · exact stops_cons.mpr (by simpa using hk)
    refine ⟨_, _, ?_, hsplit, Or.inr ⟨hwhole, hstop⟩⟩
    conv => lhs; rw [hsplit]
    exact splitKeyword_whole hwhole hstop

/-! Commands. -/

variable {command : Command} {lexeme after : List Char}

theorem isWhole_search : IsWhole "search".toList := by
  refine ⟨⟨'s', "earch".toList, rfl, by decide, List.all_eq_true.mp (by decide)⟩, by decide, ?_⟩
  intro c rest h
  cases h

theorem isWhole_tags : IsWhole "tags".toList := by
  refine ⟨⟨'t', "ags".toList, rfl, by decide, List.all_eq_true.mp (by decide)⟩, by decide, ?_⟩
  intro c rest h
  cases h

/-- A word at the start of a command decides which argument is read after it. -/
theorem readCommandHere_word {word : List Char} (hname : IsName isKeywordStart word)
    (hsplit : splitKeyword (word ++ rest) = (word, rest)) :
    readCommandHere mark (word ++ rest) =
      (readArgument mark (String.ofList word) rest).map fun p =>
        (⟨String.ofList word, p.1⟩, p.2) := by
  obtain ⟨c, cs, rfl, hc, -⟩ := hname
  have hsign : ¬ (c = '!' ∨ c = '[') := by
    rintro (rfl | rfl) <;> cases hc
  have hslash : ¬ c = '/' := by
    rintro rfl
    cases hc
  rw [List.cons_append] at hsplit ⊢
  simp only [readCommandHere, if_neg hsign, if_neg hslash, if_pos hc, hsplit]

theorem readCommandHere_of_spells (hm : mark ≠ [])
    (h : SpellsCommand mark command lexeme after) :
    ∃ rest, readCommandHere mark (lexeme ++ after) = .ok (command, rest) ∧
      trimStart rest = trimStart after := by
  cases h with
  | @keyword word _ hword hstop =>
    refine ⟨after, ?_, rfl⟩
    rw [readCommandHere_word hword.name (splitKeyword_whole hword.isWhole hstop),
      String.ofList_toList]
    have hfree := hword.free
    simp only [reserved, List.mem_cons, List.not_mem_nil, or_false, not_or] at hfree
    simp only [readArgument, hfree.1, hfree.2.1, hfree.2.2, if_false]
    rfl
  | @search pattern lead inside _ hpattern hlead htrim hfree hafter =>
    refine ⟨after, ?_, rfl⟩
    have hread : readPattern mark (inside ++ after) = .ok (.pattern pattern, after) :=
      (readPattern_eq_ok_iff hm).mpr
        ⟨pattern, inside, rfl, hpattern, htrim, hfree, hafter, rfl⟩
    rw [List.append_assoc]
    rcases hlead with rfl | ⟨rfl, hstop⟩
    · show ((readPattern mark (inside ++ after)).map _) = _
      rw [hread]
      rfl
    · rw [readCommandHere_word isWhole_search.name (splitKeyword_whole isWhole_search hstop)]
      show ((readPattern mark (inside ++ after)).map _) = _
      rw [hread]
      rfl
  | @last gap digits _ hgap hne hdigits hlength hstop =>
    refine ⟨after, ?_, rfl⟩
    have hread : readCount (gap ++ digits ++ after) =
        .ok (.count (Decimal.value digits), after) :=
      readCount_eq_ok_iff.mpr ⟨gap, digits, hgap, hne, hdigits, hlength, hstop, rfl, rfl⟩
    have hstart : Stops isKeywordStart (gap ++ digits ++ after) := by
      refine stops_of_forall (by simp [hne]) ?_ after
      intro c hc
      rcases List.mem_append.mp hc with hc | hc
      · exact isKeywordStart_of_isBlank (hgap c hc)
      · exact isKeywordStart_of_isDigit (hdigits c hc)
    have hname : IsName isKeywordStart "last".toList :=
      ⟨'l', "ast".toList, rfl, by decide, List.all_eq_true.mp (by decide)⟩
    rw [List.append_assoc, readCommandHere_word hname (splitKeyword_last hstart)]
    show ((readCount (gap ++ digits ++ after)).map _) = _
    rw [hread]
    rfl
  | @tags matchers lead text _ hne hmatchers hlead hstop =>
    refine ⟨trimStart after, ?_, ?_⟩
    · rcases hlead with ⟨rfl, hs⟩ | rfl
      · obtain ⟨c, cs, rfl, hc⟩ := hmatchers.exists_head hne hs
        have hread : readMatchers (c :: cs ++ after) = .ok (matchers, trimStart after) :=
          readMatchers_eq_ok_iff.mpr ⟨c :: cs, after, hmatchers, hstop, rfl, rfl⟩
        rw [List.nil_append]
        rw [List.cons_append] at hread ⊢
        simp only [readCommandHere, if_pos hc, hread]
        rfl
      · have hread : readTags (text ++ after) = .ok (.tags matchers, trimStart after) :=
          readTags_eq_ok_iff.mpr ⟨matchers, text, after, hne, hmatchers, hstop, rfl, rfl, rfl⟩
        rw [List.append_assoc, readCommandHere_word isWhole_tags.name
          (splitKeyword_whole isWhole_tags (hmatchers.stops_isWord hne after))]
        show ((readTags (text ++ after)).map _) = _
        rw [hread]
        rfl
    · exact trimStart_of_startsSolid (startsSolid_trimStart after)

/-- What a word and the argument after it spell, the word being split off as a whole. -/
theorem spells_of_readArgument (hm : mark ≠ []) {word : List Char} {argument : Argument}
    (hw : IsWhole word) (hstop : Stops isWord text)
    (h : readArgument mark (String.ofList word) text = .ok (argument, rest)) :
    ∃ lexeme after, word ++ text = lexeme ++ after ∧
      SpellsCommand mark ⟨String.ofList word, argument⟩ lexeme after ∧
      trimStart rest = trimStart after := by
  unfold readArgument at h
  by_cases hsearch : String.ofList word = "search"
  · rw [if_pos hsearch] at h
    obtain ⟨pattern, inside, rfl, hpattern, htrim, hfree, hend, rfl⟩ :=
      (readPattern_eq_ok_iff hm).mp h
    have hword : word = "search".toList := by rw [← hsearch, String.toList_ofList]
    rw [hsearch, hword]
    exact ⟨_, rest, (List.append_assoc _ _ _).symm,
      .search hpattern (Or.inr ⟨rfl, hstop⟩) htrim hfree hend, rfl⟩
  rw [if_neg hsearch] at h
  by_cases htags : String.ofList word = "tags"
  · rw [if_pos htags] at h
    obtain ⟨matchers, lexeme, after, hne, hspells, hend, rfl, rfl, rfl⟩ :=
      readTags_eq_ok_iff.mp h
    have hword : word = "tags".toList := by rw [← htags, String.toList_ofList]
    rw [htags, hword]
    exact ⟨_, after, (List.append_assoc _ _ _).symm, .tags hne hspells (Or.inr rfl) hend,
      trimStart_of_startsSolid (startsSolid_trimStart after)⟩
  rw [if_neg htags] at h
  have hlast : String.ofList word ≠ "last" := by
    intro he
    exact hw.notLast (by rw [← he, String.toList_ofList])
  rw [if_neg hlast] at h
  cases h
  have hkeyword : IsKeyword (String.ofList word) := by
    refine ⟨?_, by simp [reserved, hsearch, htags, hlast], ?_⟩
    · rw [String.toList_ofList]
      exact hw.name
    · rw [String.toList_ofList]
      exact hw.notCount
  refine ⟨_, text, ?_, .keyword hkeyword hstop, rfl⟩
  rw [String.toList_ofList]

theorem spells_of_readCommandHere (hm : mark ≠ []) (hs : StartsSolid text)
    (h : readCommandHere mark text = .ok (command, rest)) :
    ∃ lexeme after, text = lexeme ++ after ∧ SpellsCommand mark command lexeme after ∧
      trimStart rest = trimStart after := by
  unfold readCommandHere at h
  split at h
  · cases h
  · rename_i c cs
    split at h
    · rename_i hc
      obtain ⟨⟨matchers, left⟩, hread, hpair⟩ := map_eq_ok_iff.mp h
      cases hpair
      have hstart : startsMatcher (trimStart (c :: cs)) = true := by
        rw [trimStart_of_startsSolid hs]
        rcases hc with rfl | rfl <;> rfl
      have htags : readTags (c :: cs) = .ok (.tags matchers, rest) := by
        rw [readTags, if_pos hstart, hread]
        rfl
      obtain ⟨_, lexeme, after, hne, hspells, hend, rfl, heq, htext⟩ :=
        readTags_eq_ok_iff.mp htags
      cases heq
      rw [htext] at hs
      have hsolid := (startsSolid_append (hspells.ne_nil hne) after).mp hs
      exact ⟨lexeme, after, htext, .tags hne hspells (Or.inl ⟨rfl, hsolid⟩) hend,
        trimStart_of_startsSolid (startsSolid_trimStart after)⟩
    · split at h
      · rename_i hslash
        obtain ⟨⟨argument, left⟩, hread, hpair⟩ := map_eq_ok_iff.mp h
        cases hpair
        obtain ⟨pattern, inside, rfl, hpattern, htrim, hfree, hend, rfl⟩ :=
          (readPattern_eq_ok_iff hm).mp hread
        exact ⟨['/'] ++ inside, rest, by rw [hslash]; rfl,
          .search hpattern (Or.inl rfl) htrim hfree hend, rfl⟩
      · split at h
        · rename_i hc
          obtain ⟨⟨argument, left⟩, hread, hpair⟩ := map_eq_ok_iff.mp h
          cases hpair
          obtain ⟨word, text, hsplit, htext, hword⟩ := splitKeyword_spec cs hc
          rw [hsplit] at hread ⊢
          rw [htext]
          rcases hword with rfl | ⟨hwhole, hstop⟩
          · obtain ⟨gap, digits, hgap, hne, hdigits, hlength, hend, rfl, rfl⟩ :=
              readCount_eq_ok_iff.mp hread
            exact ⟨_, rest, (List.append_assoc _ _ _).symm,
              .last hgap hne hdigits hlength hend, rfl⟩
          · exact spells_of_readArgument hm hwhole hstop hread
        · cases h

/-- A command is read just where it is spelled, up to the blanks behind it. -/
theorem readCommand_of_spells (hm : IsMark mark) {gap : List Char} (hg : IsGap gap)
    (h : SpellsCommand mark command lexeme after) :
    ∃ rest, readCommand mark (gap ++ (lexeme ++ after)) = .ok (command, rest) ∧
      trimStart rest = trimStart after := by
  have htrim : trimStart (gap ++ (lexeme ++ after)) = lexeme ++ after := by
    rw [trimStart_gap_append hg, trimStart_of_startsSolid (h.startsSolid after)]
  have hmark : ¬ (dropHead? mark (lexeme ++ after)).isSome = true := by
    rw [isSome_dropHead?_iff]
    exact h.not_mark hm after
  simp only [readCommand, htrim, if_neg hmark]
  exact readCommandHere_of_spells hm.some h

theorem spells_of_readCommand (hm : mark ≠ [])
    (h : readCommand mark text = .ok (command, rest)) :
    ∃ gap lexeme after, IsGap gap ∧ text = gap ++ (lexeme ++ after) ∧
      SpellsCommand mark command lexeme after ∧ trimStart rest = trimStart after := by
  unfold readCommand at h
  simp only at h
  split at h
  · cases h
  · obtain ⟨gap, hgap, htext⟩ := exists_gap_append_trimStart text
    obtain ⟨lexeme, after, hsplit, hspells, hrest⟩ :=
      spells_of_readCommandHere hm (startsSolid_trimStart text) h
    exact ⟨gap, lexeme, after, hgap, hsplit ▸ htext, hspells, hrest⟩

/-! Lines of commands. -/

variable {separator : Separator} {commands : List Command}

theorem readCommands_stop {stop : Stop} (hread : readCommand separator.mark text = .error stop) :
    readCommands separator text = .error stop := by
  rw [readCommands]
  split
  · rename_i he
    rw [hread] at he
    cases he
    rfl
  · rename_i he
    rw [hread] at he
    cases he

theorem readCommands_last (hread : readCommand separator.mark text = .ok (command, rest))
    (hrest : trimStart rest = []) : readCommands separator text = .ok [command] := by
  rw [readCommands]
  split
  · rename_i he
    rw [hread] at he
    cases he
  · rename_i he
    rw [hread] at he
    cases he
    rw [if_pos hrest]

theorem readCommands_unmarked (hread : readCommand separator.mark text = .ok (command, rest))
    (hmore : trimStart rest ≠ []) (hmark : dropHead? separator.mark (trimStart rest) = none) :
    readCommands separator text = .error
      (.malformed (.separatorExpected (String.ofList separator.mark)) (trimStart rest)) := by
  rw [readCommands]
  split
  · rename_i he
    rw [hread] at he
    cases he
  · rename_i he
    rw [hread] at he
    cases he
    rw [if_neg hmore]
    split
    · rfl
    · rename_i hd
      rw [hmark] at hd
      cases hd

theorem readCommands_cons {next : List Char}
    (hread : readCommand separator.mark text = .ok (command, rest))
    (hrest : trimStart rest = separator.mark ++ next) :
    readCommands separator text = (readCommands separator next).map (command :: ·) := by
  have hne : ¬ trimStart rest = [] := by simp [hrest, separator.mark_ne_nil]
  rw [readCommands]
  split
  · rename_i he
    rw [hread] at he
    cases he
  · rename_i he
    rw [hread] at he
    cases he
    rw [if_neg hne]
    split
    · rename_i hd
      rw [hrest, dropHead?_append] at hd
      cases hd
    · rename_i hd
      rw [hrest, dropHead?_append] at hd
      cases hd
      rfl

/-- Texts of commands by their first command: it is the only one, or a mark follows it and more
commands after that. -/
theorem readCommands_induction {motive : List Char → List Command → Prop}
    (last : ∀ text command rest, readCommand separator.mark text = .ok (command, rest) →
      trimStart rest = [] → motive text [command])
    (cons : ∀ text command rest next commands,
      readCommand separator.mark text = .ok (command, rest) →
      trimStart rest = separator.mark ++ next → motive next commands →
      motive text (command :: commands))
    (h : readCommands separator text = .ok commands) : motive text commands := by
  induction text using readCommands.induct separator generalizing commands with
  | case1 text stop he =>
    rw [readCommands_stop he] at h
    cases h
  | case2 text command rest ho hend =>
    rw [readCommands_last ho hend] at h
    cases h
    exact last _ _ _ ho hend
  | case3 text command rest ho hmore hd =>
    rw [readCommands_unmarked ho hmore hd] at h
    cases h
  | case4 text command rest ho hmore next hd hlt ih =>
    have hnext := dropHead?_eq_some_iff.mp hd
    rw [readCommands_cons ho hnext] at h
    obtain ⟨others, hothers, rfl⟩ := map_eq_ok_iff.mp h
    exact cons _ _ _ _ _ ho hnext (ih hothers)

theorem spells_of_readCommands (h : readCommands separator text = .ok commands) :
    SpellsCommands separator.mark commands text := by
  refine readCommands_induction
    (motive := fun text commands => SpellsCommands separator.mark commands text) ?last ?cons h
  case last =>
    intro text command rest hread hend
    obtain ⟨gap, lexeme, after, hgap, rfl, hspells, hrest⟩ :=
      spells_of_readCommand separator.mark_ne_nil hread
    exact .last hgap hspells (trimStart_eq_nil_iff.mp (hrest ▸ hend))
  case cons =>
    intro text command rest next commands hread hnext ih
    obtain ⟨gap, lexeme, after, hgap, rfl, hspells, hrest⟩ :=
      spells_of_readCommand separator.mark_ne_nil hread
    obtain ⟨between, hbetween, hafter⟩ := exists_gap_append_trimStart after
    rw [← hrest, hnext] at hafter
    subst hafter
    exact .cons hgap hbetween hspells ih

/-- Commands are read from the texts that spell them, and from no others. -/
theorem readCommands_eq_ok_iff (hm : IsMark separator.mark) :
    readCommands separator text = .ok commands ↔ SpellsCommands separator.mark commands text := by
  constructor
  · exact spells_of_readCommands
  · intro h
    induction h with
    | last hgap hcommand hafter =>
      obtain ⟨rest, hread, hrest⟩ := readCommand_of_spells hm hgap hcommand
      exact readCommands_last hread (hrest.trans (trimStart_gap hafter))
    | cons hgap hbetween hcommand _ ih =>
      obtain ⟨rest, hread, hrest⟩ := readCommand_of_spells hm hgap hcommand
      rw [hm.trimStart_gap_append hbetween] at hrest
      rw [readCommands_cons hread hrest, ih]
      rfl

end LedgerQuery.Query
