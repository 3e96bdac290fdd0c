import LedgerQuery.Proofs.Completion.Offering
import Mathlib.Data.List.Basic
import Mathlib.Data.List.Nodup

/-! # The word being typed and the order of words -/

namespace LedgerQuery.Completion

/-! ## Where a text is cut before the word being typed

In an open bracket it is cut behind the bracket; else behind the last blank or the last
separator, whichever comes later, save that a line feed at the end of the text is taken for a
part of the word. -/

open Text

section Cut
variable {mark text front rest : List Char}

theorem le_boundary (mark front rest : List Char) :
    front.length + mark.length ≤ boundary mark (front ++ (mark ++ rest)) := by
  unfold boundary
  cases hlast : lastIndex? mark (front ++ (mark ++ rest)) with
  | none => exact absurd ⟨front, rest, List.append_assoc ..⟩ (lastIndex?_eq_none_iff.mp hlast)
  | some i => exact Nat.add_le_add_right (length_le_of_lastIndex?_eq_some hlast) _

theorem boundary_eq_zero_or (mark text : List Char) :
    boundary mark text = 0 ∨ ∃ front rest, text = front ++ (mark ++ rest) ∧
      boundary mark text = front.length + mark.length := by
  unfold boundary
  cases hlast : lastIndex? mark text with
  | none => exact Or.inl rfl
  | some i =>
    obtain ⟨front, rest, htext, rfl⟩ := exists_of_lastIndex?_eq_some hlast
    exact Or.inr ⟨front, rest, htext, rfl⟩

theorem boundary_le_iff {n : Nat} :
    boundary mark text ≤ n ↔
      ∀ front rest, text = front ++ (mark ++ rest) → front.length + mark.length ≤ n := by
  constructor
  · rintro h front rest rfl
    exact (le_boundary mark front rest).trans h
  · intro h
    rcases boundary_eq_zero_or mark text with hzero | ⟨front, rest, htext, hboundary⟩
    · omega
    · rw [hboundary]
      exact h front rest htext

theorem not_infix_of_boundary_le (hm : mark ≠ []) (front : List Char)
    (h : boundary mark (front ++ rest) ≤ front.length) : ¬ mark <:+: rest := by
  rintro ⟨before, after, rfl⟩
  have hle := le_boundary mark (front ++ before) after
  have hpos := List.length_pos_iff.mpr hm
  simp only [List.append_assoc, List.length_append] at hle h
  omega

theorem not_mem_of_lastIndex?_lt (front : List Char) {c : Char}
    (h : ∀ i ∈ lastIndex? [c] (front ++ rest), i < front.length) : c ∉ rest := by
  intro hmem
  obtain ⟨before, after, rfl⟩ := List.append_of_mem hmem
  have htext : front ++ (before ++ c :: after) = (front ++ before) ++ ([c] ++ after) := by simp
  rw [htext] at h
  cases hlast : lastIndex? [c] ((front ++ before) ++ ([c] ++ after)) with
  | none => exact lastIndex?_eq_none_iff.mp hlast ⟨_, after, List.append_assoc ..⟩
  | some i =>
    have hle := length_le_of_lastIndex?_eq_some hlast
    have hlt := h i hlast
    rw [List.length_append] at hle
    omega

/-- A bracket is open at the end of a text if neither bracket nor separator ends behind it. -/
theorem openBracket?_eq_some_iff {opened : Nat} :
    openBracket? mark text = some opened ↔ ∃ front rest, text = front ++ '[' :: rest ∧
      front.length = opened ∧ '[' ∉ rest ∧ ']' ∉ rest ∧ boundary mark text ≤ front.length := by
  constructor
  · intro h
    unfold openBracket? at h
    cases hlast : lastIndex? ['['] text with
    | none =>
      rw [hlast] at h
      cases h
    | some last =>
      simp only [hlast, Option.ite_none_right_eq_some, Bool.and_eq_true, decide_eq_true_eq,
        Option.all_eq_true, Option.some.injEq] at h
      obtain ⟨⟨hbefore, hclosed⟩, rfl⟩ := h
      obtain ⟨front, rest, rfl, rfl⟩ := exists_of_lastIndex?_eq_some hlast
      have htext : front ++ (['['] ++ rest) = (front ++ ['[']) ++ rest := by simp
      rw [htext] at hlast hclosed
      refine ⟨front, rest, rfl, rfl, ?_, ?_, hbefore⟩
      · apply not_mem_of_lastIndex?_lt (front ++ ['['])
        intro i hi
        rw [hlast] at hi
        cases hi
        simp
      · apply not_mem_of_lastIndex?_lt (front ++ ['['])
        intro i hi
        have hlt := hclosed i hi
        rw [List.length_append]
        omega
  · rintro ⟨front, rest, rfl, rfl, hopen, hclose, hbefore⟩
    exact openBracket?_append hopen hclose hbefore

def lineFeed (text : List Char) : List Char :=
  if text.getLast? = some '\n' then ['\n'] else []

theorem lineFeed_of_endsSolid (h : EndsSolid text) : lineFeed text = [] := by
  rw [lineFeed, if_neg]
  intro hfeed
  exact absurd (h '\n' hfeed) (by decide)

theorem solid_append_lineFeed_iff {word : List Char} (h : ∀ c ∈ word, isBlank c = false) :
    (∀ c ∈ word ++ lineFeed text, isBlank c = false) ↔ text.getLast? ≠ some '\n' := by
  by_cases hfeed : text.getLast? = some '\n'
  · rw [lineFeed, if_pos hfeed]
    constructor
    · intro hsolid
      exact absurd (hsolid '\n' (by simp)) (by decide)
    · exact fun hne => absurd hfeed hne
  · rw [lineFeed, if_neg hfeed, List.append_nil]
    exact ⟨fun _ => hfeed, fun _ => h⟩

theorem exists_append_lineFeed (h : EndsSolid mark) (hm : mark ≠ []) (front rest : List Char) :
    ∃ line, rest = line ++ lineFeed (front ++ (mark ++ rest)) := by
  by_cases hrest : rest = []
  · subst hrest
    have hsolid : EndsSolid (front ++ (mark ++ [])) := by
      rw [List.append_nil]
      exact (endsSolid_append front hm).mpr h
    exact ⟨[], by rw [lineFeed_of_endsSolid hsolid, List.append_nil]⟩
  · have hlast : (front ++ (mark ++ rest)).getLast? = rest.getLast? := by
      rw [List.getLast?_append_of_ne_nil _ (by simp [hrest]),
        List.getLast?_append_of_ne_nil _ hrest]
    by_cases hfeed : rest.getLast? = some '\n'
    · rw [lineFeed, hlast, if_pos hfeed]
      exact ⟨_, (List.dropLast_append_getLast? _ hfeed).symm⟩
    · rw [lineFeed, hlast, if_neg hfeed]
      exact ⟨rest, (List.append_nil rest).symm⟩

/-- Up to a line feed at the end, the last characters that are not blank are the last word. -/
theorem exists_lastWord (text : List Char) :
    ∃ front word, text = front ++ (word ++ lineFeed text) ∧ lastWordStart text = front.length ∧
      (∀ c ∈ word, isBlank c = false) ∧ ∀ c ∈ front.getLast?, isBlank c = true := by
  obtain ⟨line, hline, hstart⟩ : ∃ line, text = line ++ lineFeed text ∧
      lastWordStart text = line.length - (line.reverse.takeWhile (!isBlank ·)).length := by
    by_cases hfeed : text.getLast? = some '\n'
    · refine ⟨text.dropLast, ?_, ?_⟩
      · rw [lineFeed, if_pos hfeed]
        exact (List.dropLast_append_getLast? _ hfeed).symm
      · rw [lastWordStart, if_pos hfeed]
    · refine ⟨text, ?_, ?_⟩
      · rw [lineFeed, if_neg hfeed, List.append_nil]
      · rw [lastWordStart, if_neg hfeed]
  obtain ⟨hrun, hstop, hsplit⟩ := exists_run (!isBlank ·) line.reverse
  generalize line.reverse.takeWhile (!isBlank ·) = word at hstart hrun hsplit
  generalize line.reverse.dropWhile (!isBlank ·) = front at hstop hsplit
  obtain rfl : line = front.reverse ++ word.reverse := by
    rw [← List.reverse_append, ← hsplit, List.reverse_reverse]
  refine ⟨front.reverse, word.reverse, by rwa [← List.append_assoc], ?_, ?_, ?_⟩
  · rw [hstart, List.length_append, List.length_reverse, List.length_reverse]
    omega
  · intro c hc
    simpa using hrun c (List.mem_reverse.mp hc)
  · intro c hc
    rw [List.getLast?_reverse] at hc
    simpa using hstop c hc

/-- Where no bracket is open, a text is cut behind the last blank or the last separator, whichever
comes later. -/
theorem splitPartial_of_closed (hm : EndsSolid mark) (hsome : mark ≠ [])
    (hclosed : openBracket? mark text = none) :
    ∃ head word, splitPartial mark text = ⟨head, word ++ lineFeed text, false⟩ ∧
      text = head ++ (word ++ lineFeed text) ∧ (∀ c ∈ word, isBlank c = false) ∧
      boundary mark text ≤ head.length ∧
      (head = [] ∨ (∃ c ∈ head.getLast?, isBlank c = true) ∨ mark <:+ head) := by
  obtain ⟨front, word, htext, hstart, hword, hfront⟩ := exists_lastWord text
  have hsplit : ∀ head typed, text = head ++ typed →
      max (lastWordStart text) (boundary mark text) = head.length →
      splitPartial mark text = ⟨head, typed, false⟩ := by
    intro head typed hwhole hmax
    rw [splitPartial, hclosed]
    simp only [hmax]
    rw [hwhole, List.take_left, List.drop_left]
  rcases Nat.lt_or_ge front.length (boundary mark text) with hlt | hge
  · rcases boundary_eq_zero_or mark text with hzero | ⟨before, rest, hmark, hboundary⟩
    · omega
    · -- what follows the separator is an end of the last word, with the line feed
      obtain ⟨line, hrest⟩ := exists_append_lineFeed hm hsome before rest
      rw [← hmark] at hrest
      have hwhole : text = (before ++ mark) ++ (line ++ lineFeed text) := by
        rw [← hrest, List.append_assoc, ← hmark]
      have hsame : (before ++ mark) ++ line = front ++ word := by
        have hboth : ((before ++ mark) ++ line) ++ lineFeed text =
            (front ++ word) ++ lineFeed text := by
          rw [List.append_assoc, ← hwhole, List.append_assoc, ← htext]
        exact List.append_cancel_right hboth
      have hsize : (before ++ mark).length = boundary mark text := by
        rw [hboundary, List.length_append]
      refine ⟨before ++ mark, line, hsplit _ _ hwhole (by omega), hwhole, ?_, by omega,
        Or.inr (Or.inr (List.suffix_append before mark))⟩
      rcases List.append_eq_append_iff.mp hsame with ⟨more, hfront, -⟩ | ⟨more, -, rfl⟩
      · have := congrArg List.length hfront
        rw [List.length_append] at this
        omega
      · exact fun c hc => hword c (List.mem_append_right more hc)
  · refine ⟨front, word, hsplit _ _ htext (by omega), htext, hword, hge, ?_⟩
    cases hlast : front.getLast? with
    | none => exact Or.inl (List.getLast?_eq_none_iff.mp hlast)
    | some c => exact Or.inr (Or.inl ⟨c, rfl, hfront c hlast⟩)

/-- The two parts of a cut text make it up again, and no separator ends behind the cut. A tag is
typed behind a bracket that is open, behind which neither bracket stands. Else a word is typed,
which begins at the start of the text, behind a blank or behind a separator, and has no blank in it
unless the text ends in a line feed, which then ends the word. -/
theorem splitPartial_cuts (hstripped : trim mark = mark) (hsome : mark ≠ []) (text : List Char) :
    let split := splitPartial mark text
    split.head ++ split.typed = text ∧ ¬ mark <:+: split.typed ∧
      (∀ front rest, text = front ++ (mark ++ rest) →
        front.length + mark.length ≤ split.head.length) ∧
      (split.inTag = true ↔ ∃ front rest, text = front ++ '[' :: rest ∧ '[' ∉ rest ∧ ']' ∉ rest ∧
        ∀ before after, text = before ++ (mark ++ after) →
          before.length + mark.length ≤ front.length) ∧
      (split.inTag = true →
        split.head.getLast? = some '[' ∧ '[' ∉ split.typed ∧ ']' ∉ split.typed) ∧
      (split.inTag = false →
        (∃ word, split.typed = word ++ lineFeed text ∧ ∀ c ∈ word, isBlank c = false) ∧
        ((∀ c ∈ split.typed, isBlank c = false) ↔ text.getLast? ≠ some '\n') ∧
        (split.head = [] ∨ (∃ c ∈ split.head.getLast?, isBlank c = true) ∨
          mark <:+ split.head)) := by
  have hsolid : EndsSolid mark := (trim_eq_self_iff.mp hstripped).2
  cases hopened : openBracket? mark text with
  | some opened =>
    obtain ⟨front, rest, rfl, -, hopen, hclose, hbefore⟩ := openBracket?_eq_some_iff.mp hopened
    have hwithin : boundary mark (front ++ '[' :: rest) ≤ (front ++ ['[']).length := by
      rw [List.length_append]
      omega
    have hfree : ¬ mark <:+: rest :=
      not_infix_of_boundary_le hsome (front ++ ['[']) (by simpa using hwithin)
    intro split
    have hsplit : split = ⟨front ++ ['['], rest, true⟩ :=
      splitPartial_of_open hopen hclose hbefore
    rw [hsplit]
    refine ⟨by simp, hfree, boundary_le_iff.mp hwithin, ?_, ?_, nofun⟩
    · exact ⟨fun _ => ⟨front, rest, rfl, hopen, hclose, boundary_le_iff.mp hbefore⟩, fun _ => rfl⟩
    · exact fun _ => ⟨List.getLast?_concat, hopen, hclose⟩
  | none =>
    obtain ⟨head, word, hcut, htext, hword, hbefore, hhead⟩ :=
      splitPartial_of_closed hsolid hsome hopened
    have hfree : ¬ mark <:+: word ++ lineFeed text :=
      not_infix_of_boundary_le hsome head (by rwa [← htext])
    intro split
    have hsplit : split = ⟨head, word ++ lineFeed text, false⟩ := hcut
    rw [hsplit]
    refine ⟨htext.symm, hfree, boundary_le_iff.mp hbefore, ⟨nofun, ?_⟩, nofun,
      fun _ => ⟨⟨word, rfl, hword⟩, solid_append_lineFeed_iff hword, hhead⟩⟩
    rintro ⟨front, rest, hbracket, hopen, hclose, hends⟩
    have hsome := openBracket?_eq_some_iff.mpr
      ⟨front, rest, hbracket, rfl, hopen, hclose, boundary_le_iff.mpr hends⟩
    rw [hopened] at hsome
    cases hsome

/-- A tag of two words behind a separator of two characters, and a word behind a bracket that is
closed. -/
theorem splitPartial_cuts_tag :
    let mark := "->".toList
    let tag := splitPartial mark "yearly->![eating o".toList
    let word := splitPartial mark "[a->b]->mon".toList
    trim mark = mark ∧ mark ≠ [] ∧ tag = ⟨"yearly->![".toList, "eating o".toList, true⟩ ∧
      '[' ∉ tag.typed ∧ ']' ∉ tag.typed ∧ word = ⟨"[a->b]->".toList, "mon".toList, false⟩ ∧
      ∀ c ∈ word.typed, isBlank c = false := by
  intro mark tag word
  have hstripped : trim mark = mark := by decide
  have hsome : mark ≠ [] := by decide
  have htag : tag = ⟨"yearly->![".toList, "eating o".toList, true⟩ := by decide
  have hword : word = ⟨"[a->b]->".toList, "mon".toList, false⟩ := by decide
  obtain ⟨-, -, -, -, hbrackets, -⟩ := splitPartial_cuts hstripped hsome "yearly->![eating o".toList
  obtain ⟨-, -, -, -, -, hblanks⟩ := splitPartial_cuts hstripped hsome "[a->b]->mon".toList
  have hfree := (hbrackets (congrArg Partial.inTag htag)).2
  have hsolid := (hblanks (congrArg Partial.inTag hword)).2.1.mpr (by decide)
  exact ⟨hstripped, hsome, htag, hfree.1, hfree.2, hword, hsolid⟩

/-- A line feed at the end is a blank in the word that is typed. -/
theorem splitPartial_lineFeed :
    let split := splitPartial Separator.standardText.toList "co\n".toList
    split = ⟨[], "co\n".toList, false⟩ ∧ '\n' ∈ split.typed ∧ isBlank '\n' = true := by
  decide

end Cut

/-! ## The order in which words are offered

A ranking is told by its words and by which of two words stands before the other; so there is only
one of a vocabulary in which no two words are alike, and it is the one that is offered. -/

variable {typed : List Char} {words others ranked : List String}

/-- The words, each once, that hold what has been typed; of two of them a word that begins with it
stands before one that does not, and else they are in alphabetical order. -/
structure IsRanking (typed : List Char) (words ranked : List String) : Prop where
  nodup : ranked.Nodup
  mem_iff : ∀ word, word ∈ ranked ↔ word ∈ words ∧ lower typed <:+: folded word
  blocks : ranked.Pairwise fun a b => lower typed <+: folded b → lower typed <+: folded a
  sorted : ranked.Pairwise fun a b =>
    (lower typed <+: folded a ↔ lower typed <+: folded b) → ¬ folded b < folded a

/-- Different words that are the same in lower case. -/
def SomeAlike (words : List String) : Prop :=
  ∃ a ∈ words, ∃ b ∈ words, folded a = folded b ∧ a ≠ b

instance (words : List String) : Decidable (SomeAlike words) :=
  inferInstanceAs (Decidable (∃ a ∈ words, ∃ b ∈ words, folded a = folded b ∧ a ≠ b))

theorem notAfter_iff {a b : String} : notAfter a b = true ↔ ¬ folded b < folded a := by
  rw [notAfter, Bool.not_eq_true', decide_eq_false_iff_not]

theorem pairwise_sorted (words : List String) :
    (sorted words).Pairwise fun a b => ¬ folded b < folded a := by
  have htrans : ∀ a b c, notAfter a b = true → notAfter b c = true → notAfter a c = true := by
    intro a b c hab hbc
    rw [notAfter_iff, List.not_lt] at hab hbc ⊢
    exact List.le_trans hab hbc
  have htotal : ∀ a b, (notAfter a b || notAfter b a) = true := by
    intro a b
    rw [Bool.or_eq_true, notAfter_iff, notAfter_iff, List.not_lt, List.not_lt]
    exact List.le_total _ _
  exact (List.pairwise_mergeSort htrans htotal (distinct words)).imp notAfter_iff.mp

theorem nodup_sorted (words : List String) : (sorted words).Nodup :=
  (List.mergeSort_perm _ _).nodup_iff.mpr (nodup_distinct words)

theorem rank_isRanking (typed : List Char) (words : List String) :
    IsRanking typed words (rank typed words) := by
  have hfirst : ∀ a ∈ (sorted words).filter (beginsWith typed), lower typed <+: folded a :=
    fun a ha => beginsWith_iff.mp (List.mem_filter.mp ha).2
  have hothers : ∀ b ∈ (sorted words).filter fun word => holds typed word && !beginsWith typed word,
      ¬ lower typed <+: folded b := by
    intro b hb hbegins
    have hkept := (List.mem_filter.mp hb).2
    rw [beginsWith_iff.mpr hbegins] at hkept
    simp at hkept
  constructor
  case nodup =>
    rw [rank, List.nodup_append]
    refine ⟨(nodup_sorted words).filter _, (nodup_sorted words).filter _, ?_⟩
    rintro a ha b hb rfl
    exact hothers a hb (hfirst a ha)
  case mem_iff =>
    intro word
    rw [mem_rank_iff, holds_iff]
  case blocks =>
    rw [rank, List.pairwise_append]
    refine ⟨?_, ?_, ?_⟩
    · exact List.pairwise_of_forall_mem_list fun a ha b _ _ => hfirst a ha
    · exact List.pairwise_of_forall_mem_list fun a _ b hb h => absurd h (hothers b hb)
    · exact fun a ha b _ _ => hfirst a ha
  case sorted =>
    -- Two words of different blocks never begin alike, so that nothing is asked of them.
    have hall := pairwise_sorted words
    rw [rank, List.pairwise_append]
    refine ⟨?_, ?_, ?_⟩
    · exact (hall.filter _).imp fun {_ _} hle => fun _ => hle
    · exact (hall.filter _).imp fun {_ _} hle => fun _ => hle
    · exact fun a ha b hb hsame => absurd (hsame.mp (hfirst a ha)) (hothers b hb)

/-- Two words that may each stand before the other are alike. -/
theorem IsRanking.unique {ranked' : List String} (h : IsRanking typed words ranked)
    (h' : IsRanking typed others ranked') (hsame : ∀ word, word ∈ words ↔ word ∈ others)
    (halike : ¬ SomeAlike words) : ranked = ranked' := by
  have hmem : ∀ word, word ∈ ranked ↔ word ∈ ranked' := by
    intro word
    rw [h.mem_iff, h'.mem_iff, hsame]
  have hperm : ranked.Perm ranked' := (List.perm_ext_iff_of_nodup h.nodup h'.nodup).mpr hmem
  refine List.Perm.eq_of_pairwise ?_ (h.blocks.and h.sorted) (h'.blocks.and h'.sorted) hperm
  rintro a b ha hb ⟨hba, hle⟩ ⟨hab, hge⟩
  have hblock : lower typed <+: folded a ↔ lower typed <+: folded b := ⟨hab, hba⟩
  have hfolded : folded a = folded b :=
    List.le_antisymm (List.not_lt.mp (hle hblock)) (List.not_lt.mp (hge hblock.symm))
  by_contra hne
  have hbranked : b ∈ ranked := (hmem b).mpr hb
  exact halike ⟨a, ((h.mem_iff a).mp ha).1, b, ((h.mem_iff b).mp hbranked).1, hfolded, hne⟩

theorem endsInTwoSpaces_iff {text : List Char} :
    endsInTwoSpaces text = true ↔ [' ', ' '] <:+ text := by
  rw [← List.reverse_prefix, endsInTwoSpaces]
  constructor
  · intro h
    split at h
    · rename_i rest hreverse
      rw [hreverse]
      exact ⟨rest, rfl⟩
    · cases h
  · rintro ⟨rest, hreverse⟩
    rw [← hreverse]
    rfl

def Partial.wanted (split : Partial) : List Char :=
  if split.inTag then trimStart split.typed else split.typed

def Vocabulary.wordsFor (vocabulary : Vocabulary) (split : Partial) : List String :=
  if split.inTag then vocabulary.tags else vocabulary.commands

def Partial.complete (split : Partial) (word : String) : String :=
  let head := String.ofList split.head
  if split.inTag then head ++ word ++ "]" else head ++ word

theorem Partial.complete_injective (split : Partial) : Function.Injective split.complete := by
  intro a b h
  have hlists := congrArg String.toList h
  unfold complete at hlists
  apply String.toList_inj.mp
  split at hlists
  · simpa using hlists
  · simpa using hlists

theorem lines_eq_map_rank (vocabulary : Vocabulary) (separator : String) {text : String}
    (hsolid : ¬ IsGap text.toList) (hspaces : ¬ [' ', ' '] <:+ text.toList) :
    let split := splitPartial separator.toList text.toList
    lines vocabulary separator text =
      (rank split.wanted (vocabulary.wordsFor split)).map split.complete := by
  have hblank : isAllBlank text.toList = false := by
    rw [Bool.eq_false_iff]
    exact fun hall => hsolid (isAllBlank_iff.mp hall)
  have hend : endsInTwoSpaces text.toList = false := by
    rw [Bool.eq_false_iff]
    exact fun htwo => hspaces (endsInTwoSpaces_iff.mp htwo)
  intro split
  rw [lines]
  simp only [hblank, hend, Bool.false_eq_true, if_false]
  cases hin : split.inTag with
  | true => simp [Partial.wanted, Vocabulary.wordsFor, Partial.complete, split, hin]
  | false => simp [Partial.wanted, Vocabulary.wordsFor, Partial.complete, split, hin]

/-- A text that is neither blank nor ends in two spaces is completed with the ranking of the words
that can be typed there, of which each gives one line; in what order and how often the words are
listed makes no difference, unless two of them are alike. -/
theorem lines_ranked (vocabulary : Vocabulary) (separator : String) {text : String}
    (hsolid : ¬ IsGap text.toList) (hspaces : ¬ [' ', ' '] <:+ text.toList) :
    let split := splitPartial separator.toList text.toList
    (∃ ranked, IsRanking split.wanted (vocabulary.wordsFor split) ranked ∧
      lines vocabulary separator text = ranked.map split.complete) ∧
    (lines vocabulary separator text).Nodup ∧
    (¬ SomeAlike (vocabulary.wordsFor split) → ∀ other : Vocabulary,
      (∀ word, word ∈ vocabulary.wordsFor split ↔ word ∈ other.wordsFor split) →
      lines other separator text = lines vocabulary separator text) := by
  intro split
  have hrank := rank_isRanking split.wanted (vocabulary.wordsFor split)
  have hlines := lines_eq_map_rank vocabulary separator hsolid hspaces
  refine ⟨⟨_, hrank, hlines⟩, ?_, ?_⟩
  · rw [hlines]
    exact hrank.nodup.map split.complete_injective
  · intro halike other hsame
    have hother := rank_isRanking split.wanted (other.wordsFor split)
    rw [hlines, lines_eq_map_rank other separator hsolid hspaces]
    exact congrArg (List.map split.complete) (hrank.unique hother hsame halike).symm

theorem lines_ranked_common :
    let vocabulary : Vocabulary := ⟨["Month", "count"], ["common", "Month"], []⟩
    let turned : Vocabulary := ⟨["common", "Month"], ["count"], ["count"]⟩
    let text := "food -> mO"
    ¬ IsGap text.toList ∧ ¬ [' ', ' '] <:+ text.toList ∧ ¬ SomeAlike vocabulary.commands ∧
      "food -> common" ∈ lines vocabulary "->" text ∧
      lines turned "->" text = lines vocabulary "->" text := by
  intro vocabulary turned text
  have hsolid : ¬ IsGap text.toList := fun hgap => absurd (hgap 'f' (by decide)) (by decide)
  have hspaces : ¬ [' ', ' '] <:+ text.toList := by decide
  have halike : ¬ SomeAlike vocabulary.commands := by decide +kernel
  have hword : splitPartial "->".toList text.toList = ⟨"food -> ".toList, "mO".toList, false⟩ := by
    decide
  obtain ⟨⟨ranked, hrank, hlines⟩, -, hother⟩ := lines_ranked vocabulary "->" hsolid hspaces
  rw [hword] at hrank hlines hother
  have hcommon : "common" ∈ ranked :=
    (hrank.mem_iff "common").mpr ⟨by decide, by decide +kernel⟩
  refine ⟨hsolid, hspaces, halike, ?_, hother halike turned ?_⟩
  · rw [hlines]
    exact List.mem_map_of_mem hcommon
  · intro word
    simp only [Vocabulary.wordsFor, Vocabulary.commands, vocabulary, turned]
    simp [or_comm, or_left_comm]

end LedgerQuery.Completion
