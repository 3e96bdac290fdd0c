import LedgerQuery.Text.Basic
import LedgerQuery.Text.Character
import Mathlib.Data.List.TakeWhile

/-! # Runs, gaps and words -/

namespace LedgerQuery.Text

/-! ## Runs of characters of a class

A run that is taken from the front of a text is as long as it can be: what follows it does not begin
with a character of the class. -/

section Runs

/-- The text does not begin with a character of the class. -/
def Stops (p : Char → Bool) (text : List Char) : Prop :=
  ∀ c ∈ text.head?, p c = false

variable {p : Char → Bool}

theorem Stops.nil : Stops p [] := by
  simp [Stops]

theorem stops_cons {c : Char} {cs : List Char} : Stops p (c :: cs) ↔ p c = false := by
  simp [Stops]

theorem stops_append {a : List Char} (ha : a ≠ []) (b : List Char) :
    Stops p (a ++ b) ↔ Stops p a := by
  cases a with
  | nil => exact absurd rfl ha
  | cons c cs => rw [List.cons_append, stops_cons, stops_cons]

theorem stops_of_forall {a : List Char} (ha : a ≠ []) (h : ∀ c ∈ a, p c = false)
    (b : List Char) : Stops p (a ++ b) := by
  rw [stops_append ha]
  exact fun c hc => h c (List.mem_of_mem_head? hc)

theorem stops_dropWhile (p : Char → Bool) (text : List Char) : Stops p (text.dropWhile p) := by
  intro c hc
  have h := List.head?_dropWhile_not p text
  rw [Option.mem_def.mp hc] at h
  simpa using h

theorem takeWhile_of_stops {text : List Char} (h : Stops p text) : text.takeWhile p = [] := by
  cases text with
  | nil => rfl
  | cons c cs => exact List.takeWhile_cons_of_neg (by simp [stops_cons.mp h])

theorem dropWhile_of_stops {text : List Char} (h : Stops p text) : text.dropWhile p = text := by
  cases text with
  | nil => rfl
  | cons c cs => exact List.dropWhile_cons_of_neg (by simp [stops_cons.mp h])

theorem takeWhile_run {run rest : List Char} (h : ∀ c ∈ run, p c = true) (hr : Stops p rest) :
    (run ++ rest).takeWhile p = run := by
  rw [List.takeWhile_append_of_pos h, takeWhile_of_stops hr, List.append_nil]

theorem dropWhile_run {run rest : List Char} (h : ∀ c ∈ run, p c = true) (hr : Stops p rest) :
    (run ++ rest).dropWhile p = rest := by
  rw [List.dropWhile_append_of_pos h, dropWhile_of_stops hr]

/-- Every text begins with a run of the class, and the run ends where the class does. -/
theorem exists_run (p : Char → Bool) (text : List Char) :
    (∀ c ∈ text.takeWhile p, p c = true) ∧ Stops p (text.dropWhile p) ∧
      text = text.takeWhile p ++ text.dropWhile p :=
  ⟨fun _ hc => List.mem_takeWhile_imp hc, stops_dropWhile p text,
    List.takeWhile_append_dropWhile.symm⟩

end Runs

/-! ## Blank characters at the ends of a text and between its words

A gap is a run of them; trimming takes the gaps at the ends off, and what it leaves is solid. Words
joined by single spaces have the same words again. -/

def IsGap (text : List Char) : Prop :=
  ∀ c ∈ text, isBlank c = true

def StartsSolid (text : List Char) : Prop :=
  Stops isBlank text

def EndsSolid (text : List Char) : Prop :=
  ∀ c ∈ text.getLast?, isBlank c = false

theorem isAllBlank_iff {text : List Char} : isAllBlank text = true ↔ IsGap text :=
  List.all_eq_true

instance (text : List Char) : Decidable (IsGap text) :=
  decidable_of_iff _ isAllBlank_iff

theorem IsGap.nil : IsGap [] := by
  simp [IsGap]

theorem IsGap.append {a b : List Char} (ha : IsGap a) (hb : IsGap b) : IsGap (a ++ b) := by
  intro c hc
  rcases List.mem_append.mp hc with h | h
  · exact ha c h
  · exact hb c h

theorem IsGap.space : IsGap [' '] := by
  intro c hc
  rw [List.mem_singleton.mp hc]
  decide

theorem startsSolid_append {a : List Char} (ha : a ≠ []) (b : List Char) :
    StartsSolid (a ++ b) ↔ StartsSolid a :=
  stops_append ha b

theorem startsSolid_reverse {text : List Char} : StartsSolid text.reverse ↔ EndsSolid text := by
  simp [StartsSolid, Stops, EndsSolid]

theorem endsSolid_append (a : List Char) {b : List Char} (hb : b ≠ []) :
    EndsSolid (a ++ b) ↔ EndsSolid b := by
  rw [← startsSolid_reverse, List.reverse_append, ← startsSolid_reverse]
  exact startsSolid_append (by simpa using hb) a.reverse

theorem trimStart_of_startsSolid {text : List Char} (h : StartsSolid text) :
    trimStart text = text :=
  dropWhile_of_stops h

theorem trimStart_gap_append {gap : List Char} (h : IsGap gap) (text : List Char) :
    trimStart (gap ++ text) = trimStart text :=
  List.dropWhile_append_of_pos h

theorem trimStart_gap {gap : List Char} (h : IsGap gap) : trimStart gap = [] :=
  List.dropWhile_eq_nil_iff.mpr h

theorem startsSolid_trimStart (text : List Char) : StartsSolid (trimStart text) :=
  stops_dropWhile isBlank text

theorem exists_gap_append_trimStart (text : List Char) :
    ∃ gap, IsGap gap ∧ text = gap ++ trimStart text :=
  ⟨text.takeWhile isBlank, fun _ hc => List.mem_takeWhile_imp hc,
    List.takeWhile_append_dropWhile.symm⟩

theorem trimStart_eq_nil_iff {text : List Char} : trimStart text = [] ↔ IsGap text :=
  List.dropWhile_eq_nil_iff

/-- What stands behind a character that is not blank is not reached from the start. -/
theorem trimStart_append {a : List Char} (h : ¬ IsGap a) (b : List Char) :
    trimStart (a ++ b) = trimStart a ++ b := by
  have hne : ¬ (a.dropWhile isBlank).isEmpty = true := by
    rw [List.isEmpty_iff]
    exact fun hn => h (trimStart_eq_nil_iff.mp hn)
  rw [trimStart, List.dropWhile_append, if_neg hne]
  rfl

theorem isGap_reverse {text : List Char} : IsGap text.reverse ↔ IsGap text := by
  simp [IsGap]

theorem trimEnd_eq (text : List Char) : trimEnd text = (trimStart text.reverse).reverse := rfl

theorem trimEnd_of_endsSolid {text : List Char} (h : EndsSolid text) : trimEnd text = text := by
  rw [trimEnd_eq, trimStart_of_startsSolid (startsSolid_reverse.mpr h), List.reverse_reverse]

theorem trimEnd_append_gap (text : List Char) {gap : List Char} (h : IsGap gap) :
    trimEnd (text ++ gap) = trimEnd text := by
  rw [trimEnd_eq, trimEnd_eq, List.reverse_append, trimStart_gap_append (isGap_reverse.mpr h)]

theorem endsSolid_trimEnd (text : List Char) : EndsSolid (trimEnd text) := by
  rw [← startsSolid_reverse, trimEnd_eq, List.reverse_reverse]
  exact startsSolid_trimStart text.reverse

theorem exists_trimEnd_append_gap (text : List Char) :
    ∃ gap, IsGap gap ∧ text = trimEnd text ++ gap := by
  obtain ⟨gap, hg, he⟩ := exists_gap_append_trimStart text.reverse
  refine ⟨gap.reverse, isGap_reverse.mpr hg, ?_⟩
  have h := congrArg List.reverse he
  rwa [List.reverse_reverse, List.reverse_append, ← trimEnd_eq] at h

theorem trimEnd_eq_nil_iff {text : List Char} : trimEnd text = [] ↔ IsGap text := by
  rw [trimEnd_eq, List.reverse_eq_nil_iff, trimStart_eq_nil_iff, isGap_reverse]

/-- What stands before a character that is not blank is not reached from the end. -/
theorem trimEnd_append (a : List Char) {b : List Char} (h : ¬ IsGap b) :
    trimEnd (a ++ b) = a ++ trimEnd b := by
  obtain ⟨gap, hg, he⟩ := exists_trimEnd_append_gap b
  have hne : trimEnd b ≠ [] := fun hn => h (trimEnd_eq_nil_iff.mp hn)
  have hs : EndsSolid (a ++ trimEnd b) := (endsSolid_append a hne).mpr (endsSolid_trimEnd b)
  calc trimEnd (a ++ b) = trimEnd ((a ++ trimEnd b) ++ gap) := by rw [List.append_assoc, ← he]
    _ = trimEnd (a ++ trimEnd b) := trimEnd_append_gap _ hg
    _ = a ++ trimEnd b := trimEnd_of_endsSolid hs

theorem trim_of_solid {before text after : List Char} (hb : IsGap before) (ha : IsGap after)
    (hs : StartsSolid text) (he : EndsSolid text) : trim (before ++ text ++ after) = text := by
  rw [trim, List.append_assoc, trimStart_gap_append hb]
  cases text with
  | nil =>
    rw [List.nil_append, trimStart_gap ha]
    rfl
  | cons c cs =>
    have hstart : StartsSolid (c :: cs ++ after) :=
      (startsSolid_append (List.cons_ne_nil c cs) after).mpr hs
    rw [trimStart_of_startsSolid hstart, trimEnd_append_gap _ ha, trimEnd_of_endsSolid he]

theorem startsSolid_trim (text : List Char) : StartsSolid (trim text) := by
  obtain ⟨gap, _, he⟩ := exists_trimEnd_append_gap (trimStart text)
  by_cases hn : trim text = []
  · rw [hn]
    exact Stops.nil
  · have hs := startsSolid_trimStart text
    rw [he] at hs
    exact (startsSolid_append hn gap).mp hs

theorem endsSolid_trim (text : List Char) : EndsSolid (trim text) :=
  endsSolid_trimEnd (trimStart text)

theorem exists_trim_between_gaps (text : List Char) :
    ∃ before after, IsGap before ∧ IsGap after ∧ text = before ++ trim text ++ after := by
  obtain ⟨before, hb, htext⟩ := exists_gap_append_trimStart text
  obtain ⟨after, ha, hrest⟩ := exists_trimEnd_append_gap (trimStart text)
  refine ⟨before, after, hb, ha, ?_⟩
  rw [List.append_assoc, trim, ← hrest]
  exact htext

theorem trim_gap {gap : List Char} (h : IsGap gap) : trim gap = [] := by
  rw [trim, trimStart_gap h]
  rfl

theorem trim_eq_nil_iff {text : List Char} : trim text = [] ↔ IsGap text := by
  constructor
  · intro h
    obtain ⟨gap, hgap, htext⟩ := exists_gap_append_trimStart text
    rw [htext]
    exact hgap.append (trimEnd_eq_nil_iff.mp h)
  · exact trim_gap

theorem trim_append_gap (text : List Char) {gap : List Char} (h : IsGap gap) :
    trim (text ++ gap) = trim text := by
  obtain ⟨before, after, hb, ha, he⟩ := exists_trim_between_gaps text
  calc trim (text ++ gap) = trim (before ++ trim text ++ after ++ gap) := by rw [← he]
    _ = trim (before ++ trim text ++ (after ++ gap)) := by rw [List.append_assoc]
    _ = trim text := trim_of_solid hb (ha.append h) (startsSolid_trim text) (endsSolid_trim text)

theorem trim_trimEnd (text : List Char) : trim (trimEnd text) = trim text := by
  obtain ⟨gap, hg, he⟩ := exists_trimEnd_append_gap text
  conv => rhs; rw [he]
  exact (trim_append_gap (trimEnd text) hg).symm

theorem trim_trim (text : List Char) : trim (trim text) = trim text := by
  simpa using trim_of_solid IsGap.nil IsGap.nil (startsSolid_trim text) (endsSolid_trim text)

theorem trim_eq_self_iff {text : List Char} :
    trim text = text ↔ StartsSolid text ∧ EndsSolid text := by
  constructor
  · intro h
    exact ⟨h ▸ startsSolid_trim text, h ▸ endsSolid_trim text⟩
  · rintro ⟨hs, he⟩
    simpa using trim_of_solid IsGap.nil IsGap.nil hs he

/-! ## Words of a text and words joined again

A text of words with single spaces between them has just these words, so putting single spaces
between the words of a text is done once and for all. -/

structure IsRun (text : List Char) : Prop where
  some : text ≠ []
  solid : ∀ c ∈ text, isBlank c = false

theorem splitAt_append_cons {separates : Char → Bool} {piece : List Char}
    (h : ∀ c ∈ piece, separates c = false) {mark : Char} (hm : separates mark = true)
    (rest : List Char) :
    splitAt separates (piece ++ mark :: rest) = piece :: splitAt separates rest := by
  induction piece with
  | nil => simp [splitAt, hm]
  | cons c cs ih =>
    have hc : separates c = false := h c List.mem_cons_self
    have hcs := ih fun x hx => h x (List.mem_cons_of_mem _ hx)
    simp [splitAt, hc, hcs]

theorem splitAt_of_none {separates : Char → Bool} {piece : List Char}
    (h : ∀ c ∈ piece, separates c = false) : splitAt separates piece = [piece] := by
  induction piece with
  | nil => rfl
  | cons c cs ih =>
    have hc : separates c = false := h c List.mem_cons_self
    have hcs := ih fun x hx => h x (List.mem_cons_of_mem _ hx)
    simp [splitAt, hc, hcs]

theorem of_mem_splitAt {separates : Char → Bool} {text piece : List Char}
    (h : piece ∈ splitAt separates text) : ∀ c ∈ piece, c ∈ text ∧ separates c = false := by
  induction text generalizing piece with
  | nil =>
    rw [splitAt, List.mem_singleton] at h
    simp [h]
  | cons d ds ih =>
    intro c hc
    by_cases hd : separates d = true
    · simp only [splitAt, hd, if_true, List.mem_cons] at h
      rcases h with rfl | h
      · cases hc
      · exact ⟨List.mem_cons_of_mem _ (ih h c hc).1, (ih h c hc).2⟩
    · rw [splitAt, if_neg hd] at h
      cases hs : splitAt separates ds with
      | nil =>
        rw [hs, List.mem_singleton] at h
        rw [h, List.mem_singleton] at hc
        subst hc
        exact ⟨List.mem_cons_self, Bool.eq_false_iff.mpr hd⟩
      | cons first others =>
        rw [hs] at h ih
        rcases List.mem_cons.mp h with rfl | h
        · rcases List.mem_cons.mp hc with rfl | hc
          · exact ⟨List.mem_cons_self, Bool.eq_false_iff.mpr hd⟩
          · have := ih List.mem_cons_self c hc
            exact ⟨List.mem_cons_of_mem _ this.1, this.2⟩
        · have := ih (List.mem_cons_of_mem _ h) c hc
          exact ⟨List.mem_cons_of_mem _ this.1, this.2⟩

theorem isRun_of_mem_words {text word : List Char} (h : word ∈ words text) : IsRun word := by
  obtain ⟨hmem, hne⟩ := List.mem_filter.mp h
  exact ⟨by simpa using hne, fun c hc => (of_mem_splitAt hmem c hc).2⟩

theorem mem_of_mem_words {text word : List Char} (h : word ∈ words text) {c : Char}
    (hc : c ∈ word) : c ∈ text :=
  (of_mem_splitAt (List.mem_filter.mp h).1 c hc).1

theorem joinWith_eq_intercalate (mark : List Char) (pieces : List (List Char)) :
    joinWith mark pieces = mark.intercalate pieces := by
  fun_induction joinWith mark pieces with
  | case1 => rfl
  | case2 piece => simp
  | case3 piece pieces h ih => rw [ih, List.intercalate_cons_of_ne_nil h]

theorem joinWith_cons (mark piece : List Char) (pieces : List (List Char)) :
    joinWith mark (piece :: pieces) = piece ++ pieces.flatMap (mark ++ ·) := by
  induction pieces generalizing piece with
  | nil => simp [joinWith]
  | cons next pieces ih =>
    rw [joinWith, ih, List.flatMap_cons]
    · simp
    · simp

/-- Joined by a mark, pieces without one are what stands between the marks. -/
theorem splitAt_joinWith {separates : Char → Bool} {mark : Char} (hm : separates mark = true)
    {pieces : List (List Char)} (some : pieces ≠ [])
    (free : ∀ piece ∈ pieces, ∀ c ∈ piece, separates c = false) :
    splitAt separates (joinWith [mark] pieces) = pieces := by
  fun_induction joinWith [mark] pieces with
  | case1 => exact absurd rfl some
  | case2 piece => exact splitAt_of_none (free piece List.mem_cons_self)
  | case3 piece pieces h ih =>
    obtain ⟨hpiece, hpieces⟩ := List.forall_mem_cons.mp free
    rw [List.append_assoc, List.singleton_append, splitAt_append_cons hpiece hm, ih h hpieces]

theorem mem_joinWith {mark : List Char} {pieces : List (List Char)} {c : Char}
    (h : c ∈ joinWith mark pieces) : c ∈ mark ∨ ∃ piece ∈ pieces, c ∈ piece := by
  induction pieces with
  | nil => cases h
  | cons first others ih =>
    cases others with
    | nil => exact Or.inr ⟨first, List.mem_cons_self, h⟩
    | cons second others =>
      rw [joinWith, List.append_assoc, List.mem_append, List.mem_append] at h
      · rcases h with h | h | h
        · exact Or.inr ⟨first, List.mem_cons_self, h⟩
        · exact Or.inl h
        · rcases ih h with h | ⟨piece, hp, hc⟩
          · exact Or.inl h
          · exact Or.inr ⟨piece, List.mem_cons_of_mem _ hp, hc⟩
      · exact List.cons_ne_nil _ _

theorem words_joinWith {pieces : List (List Char)} (h : ∀ piece ∈ pieces, IsRun piece) :
    words (joinWith [' '] pieces) = pieces := by
  by_cases hnil : pieces = []
  · subst hnil
    rfl
  · have hsplit : splitAt isBlank (joinWith [' '] pieces) = pieces :=
      splitAt_joinWith (by decide) hnil fun piece hp => (h piece hp).solid
    rw [words, hsplit, List.filter_eq_self]
    intro piece hp
    simpa using (h piece hp).some

theorem words_normalizeBlanks (text : List Char) : words (normalizeBlanks text) = words text :=
  words_joinWith fun _ => isRun_of_mem_words

theorem normalizeBlanks_normalizeBlanks (text : List Char) :
    normalizeBlanks (normalizeBlanks text) = normalizeBlanks text :=
  congrArg (joinWith [' ']) (words_normalizeBlanks text)

theorem mem_normalizeBlanks {text : List Char} {c : Char} (h : c ∈ normalizeBlanks text) :
    c = ' ' ∨ c ∈ text := by
  rcases mem_joinWith h with h | ⟨word, hw, hc⟩
  · exact Or.inl (List.mem_singleton.mp h)
  · exact Or.inr (mem_of_mem_words hw hc)

/-! ## Classes of characters

How the classes of characters lie to one another: what begins a keyword is a word character and
no digit, and no blank character is a word character or a digit. -/

theorem le_iff_toNat_le {a b : Char} : a ≤ b ↔ a.toNat ≤ b.toNat := by
  rw [Char.le_def, UInt32.le_iff_toNat_le]
  rfl

theorem isAsciiLetter_iff {c : Char} : isAsciiLetter c = true ↔
    (65 ≤ c.toNat ∧ c.toNat ≤ 90) ∨ (97 ≤ c.toNat ∧ c.toNat ≤ 122) := by
  simp [isAsciiLetter, le_iff_toNat_le]

theorem isAsciiDigit_iff {c : Char} :
    isAsciiDigit c = true ↔ 48 ≤ c.toNat ∧ c.toNat ≤ 57 := by
  simp [isAsciiDigit, le_iff_toNat_le]

theorem le_of_isAsciiDigit {c : Char} (h : isAsciiDigit c = true) : 32 ≤ c.toNat :=
  Nat.le_trans (by decide) (isAsciiDigit_iff.mp h).1

theorem isWord_of_isKeywordStart {c : Char} (h : isKeywordStart c = true) : isWord c = true := by
  rw [isKeywordStart, Bool.or_eq_true] at h
  rcases h with h | h
  · have hn : c.toNat < 128 := by
      rw [isAsciiLetter_iff] at h
      omega
    simp [isWord, isLetter, hn, h]
  · simp [isWord, h]

theorem isKeywordStart_of_isCapital {c : Char} (h : isCapital c = true) :
    isKeywordStart c = true := by
  rw [isCapital] at h
  simp only [isKeywordStart, isAsciiLetter, h, Bool.true_or]

theorem isDigit_of_isKeywordStart {c : Char} (h : isKeywordStart c = true) : isDigit c = false := by
  have hn : c.toNat < 128 ∧ ¬ (48 ≤ c.toNat ∧ c.toNat ≤ 57) := by
    rw [isKeywordStart, Bool.or_eq_true, isAsciiLetter_iff] at h
    rcases h with h | h
    · omega
    · rw [beq_iff_eq.mp h]
      decide
  have hd : ¬ (decide ('0' ≤ c) && decide (c ≤ '9')) = true := by
    intro hd
    exact hn.2 (isAsciiDigit_iff.mp hd)
  rw [isDigit, digitValue?, if_neg hd, if_pos hn.1]
  rfl

def blankRanges : List (Nat × Nat) :=
  [(0x85, 0x85), (0xA0, 0xA0), (0x1680, 0x1680), (0x2000, 0x200A), (0x2028, 0x2029),
    (0x202F, 0x202F), (0x205F, 0x205F), (0x3000, 0x3000)]

theorem isBlank_cases {c : Char} (h : isBlank c = true) :
    (9 ≤ c.toNat ∧ c.toNat ≤ 13) ∨ (28 ≤ c.toNat ∧ c.toNat ≤ 32) ∨
      128 ≤ c.toNat ∧ ∃ range ∈ blankRanges, range.1 ≤ c.toNat ∧ c.toNat ≤ range.2 := by
  simp only [isBlank, Bool.or_eq_true, Bool.and_eq_true, decide_eq_true_eq, beq_iff_eq] at h
  simp only [blankRanges, List.mem_cons, List.not_mem_nil, or_false, exists_eq_or_imp,
    exists_eq_left]
  omega

/-- No range of the one list reaches into a range of the other. -/
def Apart (ranges others : List (Nat × Nat)) : Bool :=
  ranges.all fun range => others.all fun other => range.2 < other.1 || other.2 < range.1

theorem has_eq_false_of_apart {ranges : Ranges} {others : List (Nat × Nat)}
    (h : Apart ranges.toList others = true) {n : Nat}
    (hn : ∃ other ∈ others, other.1 ≤ n ∧ n ≤ other.2) : ranges.has n = false := by
  obtain ⟨other, hmem, hlow, hhigh⟩ := hn
  rw [Bool.eq_false_iff]
  intro hhas
  rw [Ranges.has, ← Array.any_toList, List.any_eq_true] at hhas
  obtain ⟨range, hrange, hin⟩ := hhas
  have hapart := List.all_eq_true.mp (List.all_eq_true.mp h range hrange) other hmem
  simp only [Bool.and_eq_true, Bool.or_eq_true, decide_eq_true_eq] at hin hapart
  omega

theorem letters_apart_blanks : Apart letterRanges.toList blankRanges = true := by
  decide +kernel

theorem numerals_apart_blanks : Apart numeralRanges.toList blankRanges = true := by
  decide +kernel

theorem digits_apart_blanks :
    Apart (decimalZeros.toList.map fun base => (base, base + 9)) blankRanges = true := by
  decide +kernel

theorem isWord_of_isBlank {c : Char} (h : isBlank c = true) : isWord c = false := by
  have hu : (c == '_') = false := by
    rw [beq_eq_false_iff_ne]
    rintro rfl
    exact absurd h (by decide)
  rw [isWord, hu, Bool.or_false, Bool.or_eq_false_iff]
  have hb := isBlank_cases h
  by_cases hn : c.toNat < 128
  · rw [isLetter, isNumeral, if_pos hn, if_pos hn, Bool.eq_false_iff, Bool.eq_false_iff, ne_eq,
      ne_eq, isAsciiLetter_iff, isAsciiDigit_iff]
    omega
  · have hrange := (hb.resolve_left (by omega)).resolve_left (by omega)
    rw [isLetter, isNumeral, if_neg hn, if_neg hn]
    exact ⟨has_eq_false_of_apart letters_apart_blanks hrange.2,
      has_eq_false_of_apart numerals_apart_blanks hrange.2⟩

theorem isKeywordStart_of_isBlank {c : Char} (h : isBlank c = true) : isKeywordStart c = false := by
  rw [Bool.eq_false_iff]
  intro hk
  have hw := isWord_of_isBlank h
  rw [isWord_of_isKeywordStart hk] at hw
  cases hw

theorem isDigit_of_isBlank {c : Char} (h : isBlank c = true) : isDigit c = false := by
  have hb := isBlank_cases h
  have hd : ¬ (decide ('0' ≤ c) && decide (c ≤ '9')) = true := by
    intro hd
    have := isAsciiDigit_iff.mp hd
    omega
  rw [isDigit, digitValue?, if_neg hd]
  by_cases hn : c.toNat < 128
  · rw [if_pos hn]
    rfl
  · have hrange := (hb.resolve_left (by omega)).resolve_left (by omega)
    obtain ⟨-, other, hmem, hlow, hhigh⟩ := hrange
    rw [if_neg hn, Option.isSome_map, Bool.eq_false_iff]
    intro hs
    obtain ⟨base, hfound⟩ := Option.isSome_iff_exists.mp hs
    have hin := Array.find?_some hfound
    have hbase : (base, base + 9) ∈ decimalZeros.toList.map fun base => (base, base + 9) :=
      List.mem_map_of_mem (Array.mem_of_find?_eq_some hfound).val
    have hapart := List.all_eq_true.mp (List.all_eq_true.mp digits_apart_blanks _ hbase) _ hmem
    simp only [Bool.and_eq_true, Bool.or_eq_true, decide_eq_true_eq] at hin hapart
    omega

theorem isKeywordStart_of_isDigit {c : Char} (h : isDigit c = true) : isKeywordStart c = false := by
  rw [Bool.eq_false_iff]
  intro hk
  rw [isDigit_of_isKeywordStart hk] at h
  cases h

theorem isBlank_of_isWord {c : Char} (h : isWord c = true) : isBlank c = false := by
  rw [Bool.eq_false_iff]
  intro hb
  rw [isWord_of_isBlank hb] at h
  cases h

theorem isBlank_of_isDigit {c : Char} (h : isDigit c = true) : isBlank c = false := by
  rw [Bool.eq_false_iff]
  intro hb
  rw [isDigit_of_isBlank hb] at h
  cases h

end LedgerQuery.Text
