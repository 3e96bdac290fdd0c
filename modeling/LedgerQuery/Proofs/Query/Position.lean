import LedgerQuery.Proofs.Query.Line
import LedgerQuery.Proofs.Query.Reading

/-! # Where reading goes -/

namespace LedgerQuery.Query

/-! ## Reading moves forward

What a reader leaves of a text is the end of the text, so it never looks beyond it; and a tag, a
command and a mark each take something off its front. -/

open Text

section Progress

/-- Reading has moved forward over a text, to what is left of it. -/
def Advances (text rest : List Char) : Prop :=
  ∃ front, front ≠ [] ∧ text = front ++ rest

namespace Advances

variable {whole text rest left : List Char}

theorem suffix (h : Advances text rest) : rest <:+ text := by
  obtain ⟨front, -, rfl⟩ := h
  exact List.suffix_append front rest

theorem trans_suffix (h : Advances text rest) (hs : left <:+ rest) : Advances text left := by
  obtain ⟨front, hne, rfl⟩ := h
  obtain ⟨more, rfl⟩ := hs
  exact ⟨front ++ more, by simp [hne], (List.append_assoc front more left).symm⟩

theorem of_suffix (hs : text <:+ whole) (h : Advances text rest) : Advances whole rest := by
  obtain ⟨front, hne, rfl⟩ := h
  obtain ⟨before, rfl⟩ := hs
  exact ⟨before ++ front, by simp [hne], (List.append_assoc before front rest).symm⟩

end Advances

variable {mark text rest : List Char}

theorem suffix_trimStart (text : List Char) : trimStart text <:+ text :=
  List.dropWhile_suffix isBlank

theorem advances_dropHead? (hm : mark ≠ []) (h : dropHead? mark text = some rest) :
    Advances text rest :=
  ⟨mark, hm, dropHead?_eq_some_iff.mp h⟩

theorem advances_readMatcher {matcher : TagMatcher}
    (h : readMatcher text = .ok (matcher, rest)) : Advances text rest := by
  obtain ⟨-, first, hfirst, rfl⟩ := readMatcher_eq_ok_iff.mp h
  obtain ⟨c, cs, rfl, -⟩ := hfirst.exists_head
  exact ⟨c :: cs, List.cons_ne_nil c cs, rfl⟩

theorem advances_readMatchers {matchers : List TagMatcher}
    (hs : startsMatcher (trimStart text) = true)
    (h : readMatchers text = .ok (matchers, rest)) : Advances text rest := by
  obtain ⟨lexeme, after, -, hend, rfl, rfl⟩ := readMatchers_eq_ok_iff.mp h
  have hne : lexeme ≠ [] := by
    rintro rfl
    rw [List.nil_append, hend] at hs
    cases hs
  have hread : Advances (lexeme ++ after) after := ⟨lexeme, hne, rfl⟩
  exact hread.trans_suffix (suffix_trimStart after)

theorem suffix_readPattern (hm : mark ≠ []) {argument : Argument}
    (h : readPattern mark text = .ok (argument, rest)) : rest <:+ text := by
  obtain ⟨pattern, inside, -, -, -, -, -, rfl⟩ := (readPattern_eq_ok_iff hm).mp h
  exact List.suffix_append inside rest

theorem suffix_readArgument (hm : mark ≠ []) {keyword : String} {argument : Argument}
    (h : readArgument mark keyword text = .ok (argument, rest)) : rest <:+ text := by
  unfold readArgument at h
  split at h
  · exact suffix_readPattern hm h
  · split at h
    · obtain ⟨matchers, lexeme, after, -, -, -, rfl, -, rfl⟩ := readTags_eq_ok_iff.mp h
      exact (suffix_trimStart after).trans (List.suffix_append lexeme after)
    · split at h
      · obtain ⟨gap, digits, -, -, -, -, -, -, rfl⟩ := readCount_eq_ok_iff.mp h
        exact List.suffix_append (gap ++ digits) rest
      · cases h
        exact List.suffix_refl text

theorem startsMatcher_trimStart {c : Char} (hc : c = '!' ∨ c = '[') (cs : List Char) :
    startsMatcher (trimStart (c :: cs)) = true := by
  rcases hc with rfl | rfl
  · rw [trimStart_of_startsSolid (stops_cons.mpr (by decide))]
    rfl
  · rw [trimStart_of_startsSolid (stops_cons.mpr (by decide))]
    rfl

theorem exists_splitKeyword {c : Char} (cs : List Char) (hc : isKeywordStart c = true) :
    ∃ word rest, splitKeyword (c :: cs) = (word, rest) ∧ c :: cs = word ++ rest ∧ word ≠ [] := by
  obtain ⟨word, rest, hsplit, htext, hword⟩ := splitKeyword_spec cs hc
  refine ⟨word, rest, hsplit, htext, ?_⟩
  rcases hword with rfl | ⟨hwhole, -⟩
  · decide
  · obtain ⟨d, ds, rfl, -, -⟩ := hwhole.name
    exact List.cons_ne_nil d ds

variable {command : Command}

theorem advances_readCommandHere (hm : mark ≠ [])
    (h : readCommandHere mark text = .ok (command, rest)) : Advances text rest := by
  unfold readCommandHere at h
  split at h
  · cases h
  · rename_i c cs
    split at h
    · rename_i hc
      obtain ⟨⟨matchers, left⟩, hread, hpair⟩ := map_eq_ok_iff.mp h
      cases hpair
      exact advances_readMatchers (startsMatcher_trimStart hc cs) hread
    · split at h
      · obtain ⟨⟨argument, left⟩, hread, hpair⟩ := map_eq_ok_iff.mp h
        cases hpair
        have hsign : Advances (c :: cs) cs := ⟨[c], List.cons_ne_nil c [], rfl⟩
        exact hsign.trans_suffix (suffix_readPattern hm hread)
      · split at h
        · rename_i hc
          obtain ⟨⟨argument, left⟩, hread, hpair⟩ := map_eq_ok_iff.mp h
          cases hpair
          obtain ⟨word, more, hsplit, htext, hne⟩ := exists_splitKeyword cs hc
          rw [hsplit] at hread
          have hword : Advances (c :: cs) more := ⟨word, hne, htext⟩
          exact hword.trans_suffix (suffix_readArgument hm hread)
        · cases h

theorem advances_readCommand (hm : mark ≠ [])
    (h : readCommand mark text = .ok (command, rest)) : Advances text rest := by
  unfold readCommand at h
  simp only at h
  split at h
  · cases h
  · exact (advances_readCommandHere hm h).of_suffix (suffix_trimStart text)

end Progress

/-! ## Where reading stops, and at what

What is left of a text there is the end of the text, reader by reader, so a position is never beyond
the end of a line; where reading breaks down, the text holds the count or the pattern that it breaks
down at. A text read behind another stops at the same place of its own, as many characters later as
the other has. -/

section Positions

/-- No more is left where reading stopped than the text has. -/
def Stop.LiesIn (text : List Char) : Stop → Prop
  | .malformed _ rest => rest.length ≤ text.length
  | .countTooLong _ => True
  | .badPattern _ => True

def Fault.shift (count : Nat) : Fault → Fault
  | .malformed cause position => .malformed cause (position + count)
  | .countTooLong digitCount => .countTooLong digitCount
  | .badPattern fault => .badPattern fault

/-- A fault of the second text is the same behind the first, but for its position. -/
theorem Stop.fault_append {stop : Stop} {text : List Char} (h : stop.LiesIn text)
    (front : List Char) : stop.fault (front ++ text) = (stop.fault text).shift front.length := by
  cases stop with
  | malformed cause rest =>
    have hle : rest.length ≤ text.length := h
    have hposition : (front ++ text).length - rest.length =
        text.length - rest.length + front.length := by
      rw [List.length_append]
      omega
    simp only [Stop.fault, Fault.shift, hposition]
  | countTooLong digitCount => rfl
  | badPattern fault => rfl

theorem map_eq_error_iff {ε α β : Type} {f : α → β} {x : Except ε α} {e : ε} :
    x.map f = .error e ↔ x = .error e := by
  cases x <;> simp [Except.map]

def HoldsCount (text : List Char) (digitCount : Nat) : Prop :=
  ∃ gap digits after, IsGap gap ∧ (∀ c ∈ digits, isDigit c = true) ∧ Stops isDigit after ∧
    digits.length = digitCount ∧ "last".toList ++ (gap ++ (digits ++ after)) <:+ text

/-- The text holds a search for the pattern, which goes on to the next mark or to the end. -/
def HoldsPattern (mark text pattern : List Char) : Prop :=
  ∃ lead inside after, (lead = ['/'] ∨ lead = "search".toList) ∧ trim inside = pattern ∧
    MarkFree mark inside after ∧ (after = [] ∨ mark <+: after) ∧
    lead ++ (inside ++ after) <:+ text

inductive Stop.FoundIn (mark text : List Char) : Stop → Prop where
  | malformed {cause rest} : rest <:+ text → FoundIn mark text (.malformed cause rest)
  | countTooLong {digitCount} : Decimal.digitLimit < digitCount → HoldsCount text digitCount →
      FoundIn mark text (.countTooLong digitCount)
  | badPattern {pattern fault} : HoldsPattern mark text pattern →
      Pattern.read pattern = .error fault → (∀ cause place, fault ≠ .malformed cause place) →
      FoundIn mark text (.badPattern fault)

variable {mark text whole : List Char} {stop : Stop}

theorem Stop.FoundIn.mono (h : stop.FoundIn mark text) (hs : text <:+ whole) :
    stop.FoundIn mark whole := by
  cases h with
  | malformed hrest => exact .malformed (hrest.trans hs)
  | countTooLong hlong hcount =>
    obtain ⟨gap, digits, after, hgap, hdigits, hstop, hlength, htext⟩ := hcount
    exact .countTooLong hlong ⟨gap, digits, after, hgap, hdigits, hstop, hlength, htext.trans hs⟩
  | badPattern hpattern hread hfault =>
    obtain ⟨lead, inside, after, hlead, htrim, hfree, hend, htext⟩ := hpattern
    exact .badPattern ⟨lead, inside, after, hlead, htrim, hfree, hend, htext.trans hs⟩ hread hfault

theorem Stop.FoundIn.liesIn (h : stop.FoundIn mark text) : stop.LiesIn text := by
  cases h with
  | malformed hrest => exact hrest.length_le
  | countTooLong => trivial
  | badPattern => trivial

/-- Reading a pattern stops at once, or breaks down at the pattern. -/
theorem foundIn_readPattern {lead : List Char} (hlead : lead = ['/'] ∨ lead = "search".toList)
    (h : readPattern mark text = .error stop) : stop.FoundIn mark (lead ++ text) := by
  unfold readPattern at h
  simp only at h
  split at h
  · cases h
    exact .malformed (List.suffix_append lead text)
  · split at h
    · cases h
    · cases h
      exact .malformed (List.suffix_append lead text)
    · rename_i fault hmalformed hread
      cases h
      obtain ⟨hfree, hend⟩ := breakOn_spec mark text
      refine .badPattern ⟨lead, _, _, hlead, rfl, hfree, hend, ?_⟩ hread hmalformed
      exact ⟨[], by rw [List.nil_append, breakOn_append]⟩

theorem foundIn_readBracketed (h : readBracketed text = .error stop) : stop.FoundIn mark text := by
  unfold readBracketed at h
  split at h
  · split at h
    · cases h
      exact .malformed (List.suffix_refl _)
    · simp only at h
      split at h
      · cases h
        exact .malformed (List.suffix_refl _)
      · split at h
        · cases h
          exact .malformed (List.suffix_refl _)
        · cases h
  · cases h
    exact .malformed (List.suffix_refl _)

theorem foundIn_readMatcher (h : readMatcher text = .error stop) : stop.FoundIn mark text := by
  unfold readMatcher at h
  split at h
  · exact (foundIn_readBracketed (map_eq_error_iff.mp h)).mono (List.suffix_cons _ _)
  · exact foundIn_readBracketed (map_eq_error_iff.mp h)

theorem foundIn_readMatchers (h : readMatchers text = .error stop) : stop.FoundIn mark text := by
  induction text using readMatchers.induct with
  | case1 text hs found he =>
    rw [readMatchers, if_pos hs] at h
    split at h
    · rename_i ho
      cases h
      exact (foundIn_readMatcher ho).mono (suffix_trimStart text)
    · rename_i ho
      rw [he] at ho
      cases ho
  | case2 text hs matcher after ho hlt ih =>
    rw [readMatchers_cons hs ho] at h
    have hafter := (advances_readMatcher ho).suffix.trans (suffix_trimStart text)
    exact (ih (map_eq_error_iff.mp h)).mono hafter
  | case3 text hs =>
    rw [readMatchers, if_neg hs] at h
    cases h

theorem foundIn_readCount (h : readCount text = .error stop) :
    stop.FoundIn mark ("last".toList ++ text) := by
  unfold readCount at h
  simp only at h
  split at h
  · cases h
    exact .malformed ((suffix_trimStart text).trans (List.suffix_append _ text))
  · split at h
    · rename_i hlong
      cases h
      obtain ⟨gap, hgap, htext⟩ := exists_gap_append_trimStart text
      obtain ⟨hdigits, hstop, hsplit⟩ := exists_run isDigit (trimStart text)
      refine .countTooLong hlong ⟨gap, _, _, hgap, hdigits, hstop, rfl, ?_⟩
      exact ⟨[], by rw [List.nil_append, ← hsplit, ← htext]⟩
    · cases h

theorem foundIn_readTags (h : readTags text = .error stop) : stop.FoundIn mark text := by
  unfold readTags at h
  split at h
  · exact foundIn_readMatchers (map_eq_error_iff.mp h)
  · cases h
    exact .malformed (suffix_trimStart text)

theorem foundIn_readArgument {word : List Char}
    (h : readArgument mark (String.ofList word) text = .error stop) :
    stop.FoundIn mark (word ++ text) := by
  have hword {keyword : String} (he : String.ofList word = keyword) : word = keyword.toList := by
    rw [← he, String.toList_ofList]
  unfold readArgument at h
  split at h
  · rename_i he
    exact foundIn_readPattern (Or.inr (hword he)) h
  · split at h
    · exact (foundIn_readTags h).mono (List.suffix_append word text)
    · split at h
      · rename_i he
        rw [hword he]
        exact foundIn_readCount h
      · cases h

theorem foundIn_readCommandHere (h : readCommandHere mark text = .error stop) :
    stop.FoundIn mark text := by
  unfold readCommandHere at h
  split at h
  · cases h
    exact .malformed (List.suffix_refl _)
  · rename_i c cs
    split at h
    · exact foundIn_readMatchers (map_eq_error_iff.mp h)
    · split at h
      · rename_i hslash
        rw [hslash]
        exact foundIn_readPattern (Or.inl rfl) (map_eq_error_iff.mp h)
      · split at h
        · rename_i hc
          obtain ⟨word, more, hsplit, htext, -⟩ := exists_splitKeyword cs hc
          rw [hsplit] at h
          rw [htext]
          exact foundIn_readArgument (map_eq_error_iff.mp h)
        · cases h
          exact .malformed (List.suffix_refl _)

theorem foundIn_readCommand (h : readCommand mark text = .error stop) :
    stop.FoundIn mark text := by
  unfold readCommand at h
  simp only at h
  split at h
  · cases h
    exact .malformed (suffix_trimStart text)
  · exact (foundIn_readCommandHere h).mono (suffix_trimStart text)

/-- What made reading stop is found in the text, however many commands were read before. -/
theorem foundIn_readCommands {separator : Separator}
    (h : readCommands separator text = .error stop) : stop.FoundIn separator.mark text := by
  induction text using readCommands.induct separator with
  | case1 text found he =>
    rw [readCommands_stop he] at h
    cases h
    exact foundIn_readCommand he
  | case2 text command rest ho hend =>
    rw [readCommands_last ho hend] at h
    cases h
  | case3 text command rest ho hmore hd =>
    rw [readCommands_unmarked ho hmore hd] at h
    cases h
    have hrest := (advances_readCommand separator.mark_ne_nil ho).suffix
    exact .malformed ((suffix_trimStart rest).trans hrest)
  | case4 text command rest ho hmore next hd hlt ih =>
    rw [readCommands_cons ho (dropHead?_eq_some_iff.mp hd)] at h
    have hrest := (advances_readCommand separator.mark_ne_nil ho).suffix
    have hnext := (advances_dropHead? separator.mark_ne_nil hd).suffix
    have hsuffix := hnext.trans ((suffix_trimStart rest).trans hrest)
    exact (ih (map_eq_error_iff.mp h)).mono hsuffix

theorem liesIn_readCommands {separator : Separator}
    (h : readCommands separator text = .error stop) : stop.LiesIn text :=
  (foundIn_readCommands h).liesIn

end Positions

/-! ## What reading a line comes to

The line is read, or it is refused at a place within it; only at a count of too many digits and at a
pattern that cannot be held does reading break down. -/

/-- What reading a text can come to. A message ends with the column, counted from one. -/
inductive ComesTo (mark text : List Char) : Except Failure Line → Prop where
  | read (line) : ComesTo mark text (.ok line)
  | malformed {cause position} : position ≤ text.length →
      (Refusal.malformed cause position).message =
        cause.message ++ (" (at column " ++ toString (position + 1) ++ ")") →
      ComesTo mark text (.error (.refusal (.malformed cause position)))
  | countTooLong {digitCount} : Decimal.digitLimit < digitCount → HoldsCount text digitCount →
      ComesTo mark text (.error (.breakdown (.countTooLong digitCount)))
  | badPattern {pattern fault} : HoldsPattern mark text pattern →
      Pattern.read pattern = .error fault → (∀ cause place, fault ≠ .malformed cause place) →
      ComesTo mark text (.error (.breakdown (.pattern fault)))

theorem message_malformed (cause : Cause) (position : Nat) :
    (Refusal.malformed cause position).message =
      cause.message ++ (" (at column " ++ toString (position + 1) ++ ")") := by
  change malformedMessage cause position = _
  rw [malformedMessage, String.append_assoc, String.append_assoc, String.append_assoc]

theorem foundIn_readWhole {separator : Separator} {text : List Char} {stop : Stop}
    (h : readWhole separator text = .error stop) : stop.FoundIn separator.mark text := by
  unfold readWhole at h
  split at h
  · rename_i name rest hsplit
    obtain ⟨-, gap, -, rfl⟩ := splitAliasName_eq_some_iff.mp hsplit
    have hread := map_eq_error_iff.mp (map_eq_error_iff.mp h)
    have hrest : rest <:+ gap ++ (name ++ ':' :: rest) := ⟨gap ++ (name ++ [':']), by simp⟩
    exact (foundIn_readCommands hread).mono hrest
  · exact foundIn_readCommands (map_eq_error_iff.mp (map_eq_error_iff.mp h))

theorem Stop.FoundIn.comesTo {mark text : List Char} {stop : Stop} (h : stop.FoundIn mark text) :
    ComesTo mark text (.error (.ofQueryFault (stop.fault text))) := by
  cases h with
  | @malformed cause rest hrest =>
    have hposition : text.length - rest.length ≤ text.length := Nat.sub_le _ _
    exact .malformed hposition (message_malformed cause _)
  | countTooLong hlong hcount => exact .countTooLong hlong hcount
  | badPattern hpattern hread hfault => exact .badPattern hpattern hread hfault

theorem readLine_of_trim {separator : String} (h : trim separator.toList ≠ []) (line : String) :
    LedgerQuery.readLine separator line =
      (readLine ⟨trim separator.toList, h⟩ line).mapError .ofQueryFault := by
  rw [LedgerQuery.readLine, Separator.ofText, Separator.of?, dif_pos h]
  rfl

/-- Every line is read, or refused at a place within the line, or breaks down at a count or a
pattern in it; and reading moves forward with each command, each mark and each tag, whatever the
separator is and whatever the text. -/
theorem readLine_outcome {separator : String} (hsome : trim separator.toList ≠ [])
    (line : String) :
    let mark := trim separator.toList
    ComesTo mark (withoutLineEnds line.toList) (LedgerQuery.readLine separator line) ∧
      (∀ text command rest, readCommand mark text = .ok (command, rest) → Advances text rest) ∧
      (∀ text rest, dropHead? mark text = some rest → Advances text rest) ∧
      ∀ text matcher rest, readMatcher text = .ok (matcher, rest) → Advances text rest := by
  intro mark
  refine ⟨?_, ?_, ?_, ?_⟩
  · rw [readLine_of_trim hsome, readLine]
    cases hread : readWhole ⟨mark, hsome⟩ (withoutLineEnds line.toList) with
    | ok node => exact .read node
    | error stop => exact (foundIn_readWhole hread).comesTo
  · exact fun _ _ _ hread => advances_readCommand hsome hread
  · exact fun _ _ hmark => advances_dropHead? hsome hmark
  · exact fun _ _ _ hread => advances_readMatcher hread

/-- A mark that also begins a tag to be without, blanks around it, and a tag left open. -/
theorem readLine_outcome_open :
    trim " ! ".toList ≠ [] ∧
      LedgerQuery.readLine " ! " "Odd: [a] ![b\n" =
        .error (.refusal (.malformed .unterminatedTag 10)) ∧
      10 ≤ (withoutLineEnds "Odd: [a] ![b\n".toList).length ∧
      (Refusal.malformed .unterminatedTag 10).message =
        Cause.unterminatedTag.message ++ (" (at column " ++ toString (10 + 1) ++ ")") := by
  have hsome : trim " ! ".toList ≠ [] := by decide
  have hread : LedgerQuery.readLine " ! " "Odd: [a] ![b\n" =
      .error (.refusal (.malformed .unterminatedTag 10)) := by decide +kernel
  have houtcome := (readLine_outcome hsome "Odd: [a] ![b\n").1
  rw [hread] at houtcome
  cases houtcome with
  | malformed hposition hmessage => exact ⟨hsome, hread, hposition, hmessage⟩

end LedgerQuery.Query
