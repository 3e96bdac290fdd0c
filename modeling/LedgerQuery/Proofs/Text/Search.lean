import LedgerQuery.Proofs.Text.Blank
import LedgerQuery.Text.Basic

/-! # Places in a text and lines of a text -/

namespace LedgerQuery.Text

/-! ## The first and the last place of a mark in a text

A text is broken at the first and nowhere earlier, and what follows the mark has no say in it;
behind the last the mark does not begin again. -/

section Searching

/-- In front of `after`, the mark begins nowhere in `inside`. -/
def MarkFree (mark inside after : List Char) : Prop :=
  ∀ tail, tail <:+ inside → tail ≠ [] → ¬ mark <+: tail ++ after

variable {mark : List Char}

theorem isSome_dropHead?_iff {text : List Char} :
    (dropHead? mark text).isSome = true ↔ mark <+: text := by
  rw [Option.isSome_iff_exists]
  constructor
  · rintro ⟨rest, h⟩
    exact ⟨rest, (dropHead?_eq_some_iff.mp h).symm⟩
  · rintro ⟨rest, h⟩
    exact ⟨rest, dropHead?_eq_some_iff.mpr h.symm⟩

theorem MarkFree.nil {after : List Char} : MarkFree mark [] after := by
  intro tail ht hne
  exact absurd (List.suffix_nil.mp ht) hne

theorem markFree_cons {c : Char} {inside after : List Char} :
    MarkFree mark (c :: inside) after ↔
      ¬ mark <+: c :: (inside ++ after) ∧ MarkFree mark inside after := by
  constructor
  · intro h
    constructor
    · exact h (c :: inside) (List.suffix_refl _) (List.cons_ne_nil c inside)
    · exact fun tail ht => h tail (ht.trans (List.suffix_cons c inside))
  · rintro ⟨hhere, hlater⟩ tail ht hne
    rcases List.suffix_cons_iff.mp ht with rfl | ht
    · exact hhere
    · exact hlater tail ht hne

theorem breakOn_append_eq {inside after : List Char} (h : MarkFree mark inside after)
    (ha : after = [] ∨ mark <+: after) : breakOn mark (inside ++ after) = (inside, after) := by
  induction inside with
  | nil =>
    rw [List.nil_append]
    cases after with
    | nil => rfl
    | cons c cs =>
      have hp : mark <+: c :: cs := ha.resolve_left (List.cons_ne_nil c cs)
      rw [breakOn, if_pos (isSome_dropHead?_iff.mpr hp)]
  | cons c cs ih =>
    obtain ⟨hhere, hlater⟩ := markFree_cons.mp h
    rw [List.cons_append, breakOn, if_neg fun hs => hhere (isSome_dropHead?_iff.mp hs), ih hlater]

/-- Before the break the mark begins nowhere, and there it does, or the text is at its end. -/
theorem breakOn_spec (mark text : List Char) :
    MarkFree mark (breakOn mark text).1 (breakOn mark text).2 ∧
      ((breakOn mark text).2 = [] ∨ mark <+: (breakOn mark text).2) := by
  induction text with
  | nil => exact ⟨MarkFree.nil, Or.inl rfl⟩
  | cons c cs ih =>
    by_cases hp : mark <+: c :: cs
    · rw [breakOn, if_pos (isSome_dropHead?_iff.mpr hp)]
      exact ⟨MarkFree.nil, Or.inr hp⟩
    · rw [breakOn, if_neg fun hs => hp (isSome_dropHead?_iff.mp hs)]
      refine ⟨markFree_cons.mpr ⟨?_, ih.1⟩, ih.2⟩
      rwa [breakOn_append]

/-- What follows the mark does not matter. -/
theorem MarkFree.congr {inside a b : List Char} (h : MarkFree mark inside (mark ++ a)) :
    MarkFree mark inside (mark ++ b) := by
  intro tail ht hne hp
  have hshort : mark <+: tail ++ mark := by
    apply List.prefix_of_prefix_length_le hp
    · rw [← List.append_assoc]
      exact List.prefix_append _ _
    · simp
  apply h tail ht hne
  rw [← List.append_assoc]
  exact hshort.trans (List.prefix_append _ _)

theorem MarkFree.not_infix (hm : mark ≠ []) {inside after : List Char}
    (h : MarkFree mark inside after) : ¬ mark <:+: inside := by
  rintro ⟨before, rest, he⟩
  have hs : mark ++ rest <:+ inside := ⟨before, by rw [← List.append_assoc, he]⟩
  apply h _ hs
  · simp [hm]
  · rw [List.append_assoc]
    exact List.prefix_append _ _

theorem markFree_of_not_infix {inside : List Char} (h : ¬ mark <:+: inside) :
    MarkFree mark inside [] := by
  intro tail ht _ hp
  rw [List.append_nil] at hp
  exact h (hp.isInfix.trans ht.isInfix)

/-- A character that is not in the mark keeps it from reaching over. -/
theorem MarkFree.concat {inside : List Char} (h : ¬ mark <:+: inside) {c : Char} (hc : c ∉ mark)
    (after : List Char) : MarkFree mark (inside ++ [c]) after := by
  intro tail ht hne hp
  rcases List.suffix_concat_iff.mp ht with rfl | ⟨front, rfl, hf⟩
  · exact hne rfl
  · rw [List.append_assoc] at hp
    by_cases hl : mark.length ≤ front.length
    · have hin : mark <+: front := List.prefix_of_prefix_length_le hp (List.prefix_append _ _) hl
      exact h (hin.isInfix.trans hf.isInfix)
    · have hout : front ++ [c] <+: mark := by
        apply List.prefix_of_prefix_length_le _ hp
        · simp only [List.length_append, List.length_singleton]
          omega
        · rw [← List.append_assoc]
          exact List.prefix_append _ _
      exact hc (hout.subset (by simp))

theorem occurs_iff {text : List Char} : occurs mark text = true ↔ mark <:+: text := by
  induction text with
  | nil => simp [occurs]
  | cons c cs ih =>
    rw [occurs, Bool.or_eq_true, isSome_dropHead?_iff, ih, List.infix_cons_iff]

theorem lastIndex?_eq_none_iff {text : List Char} :
    lastIndex? mark text = none ↔ ¬ mark <:+: text := by
  induction text with
  | nil => simp [lastIndex?]
  | cons c cs ih =>
    rw [List.infix_cons_iff, not_or, ← ih, ← isSome_dropHead?_iff, lastIndex?]
    cases lastIndex? mark cs with
    | some i => simp
    | none => simp

/-- The last occurrence of the mark is the one behind whose first character there is none. -/
theorem lastIndex?_append (hm : mark ≠ []) (front : List Char) {rest : List Char}
    (h : ¬ mark <:+: (mark ++ rest).tail) :
    lastIndex? mark (front ++ (mark ++ rest)) = some front.length := by
  induction front with
  | nil =>
    obtain ⟨m, ms, rfl⟩ := List.exists_cons_of_ne_nil hm
    have hnone : lastIndex? (m :: ms) (ms ++ rest) = none := lastIndex?_eq_none_iff.mpr h
    have hhere : (dropHead? (m :: ms) (m :: (ms ++ rest))).isSome = true :=
      isSome_dropHead?_iff.mpr (List.prefix_append (m :: ms) rest)
    rw [List.nil_append, List.cons_append, lastIndex?, hnone]
    simp only [hhere, if_true, List.length_nil]
  | cons c front ih =>
    rw [List.cons_append, lastIndex?, ih, List.length_cons]

theorem exists_of_lastIndex?_eq_some {text : List Char} {i : Nat}
    (h : lastIndex? mark text = some i) :
    ∃ front rest, text = front ++ (mark ++ rest) ∧ front.length = i := by
  induction text generalizing i with
  | nil =>
    simp only [lastIndex?] at h
    split at h
    · rename_i hm
      cases h
      exact ⟨[], [], by simpa using hm, rfl⟩
    · cases h
  | cons c cs ih =>
    rw [lastIndex?] at h
    split at h
    · rename_i j hj
      cases h
      obtain ⟨front, rest, rfl, rfl⟩ := ih hj
      exact ⟨c :: front, rest, rfl, rfl⟩
    · split at h
      · rename_i hhere
        cases h
        obtain ⟨rest, hrest⟩ := isSome_dropHead?_iff.mp hhere
        exact ⟨[], rest, hrest.symm, rfl⟩
      · cases h

theorem length_le_of_lastIndex?_eq_some {front rest : List Char} {i : Nat}
    (h : lastIndex? mark (front ++ (mark ++ rest)) = some i) : front.length ≤ i := by
  induction front generalizing i with
  | nil => exact Nat.zero_le i
  | cons c front ih =>
    rw [List.cons_append, lastIndex?] at h
    split at h
    · rename_i j hj
      cases h
      exact Nat.succ_le_succ (ih hj)
    · rename_i hnone
      exact absurd ⟨front, rest, (List.append_assoc ..)⟩ (lastIndex?_eq_none_iff.mp hnone)

/-- A mark does not reach over a character that is not in it. -/
theorem infix_append_cons_iff {c : Char} (hc : c ∉ mark) {before after : List Char} :
    mark <:+: before ++ c :: after ↔ mark <:+: before ∨ mark <:+: after := by
  constructor
  · intro h
    rcases List.infix_append_iff.mp h with h | h | ⟨front, back, rfl, hfront, hback⟩
    · exact Or.inl h
    · rcases List.infix_cons_iff.mp h with h | h
      · cases mark with
        | nil => exact Or.inl (List.nil_infix)
        | cons m ms =>
          rw [List.cons_prefix_cons] at h
          exact absurd (h.1 ▸ List.mem_cons_self) hc
      · exact Or.inr h
    · cases back with
      | nil => exact Or.inl (by simpa using hfront.isInfix)
      | cons m ms =>
        rw [List.cons_prefix_cons] at hback
        exact absurd (by simp [hback.1]) hc
  · rintro (h | h)
    · exact h.trans (List.prefix_append _ _).isInfix
    · exact h.trans ((List.suffix_cons c after).trans (List.suffix_append before _)).isInfix

theorem not_infix_tail (hm : mark ≠ []) : ¬ mark <:+: mark.tail := by
  intro h
  have hle := h.length_le
  have hpos := List.length_pos_iff.mpr hm
  rw [List.length_tail] at hle
  omega

end Searching

/-! ## Lines of a text

No line holds the end of a line, and a text without one is a line. What stands behind a line feed is
split as if it stood by itself: the line feed belongs to a carriage return in front of it, if there
is one, and nothing else in front of it can reach over it. -/

def IsLine (text : List Char) : Prop :=
  ∀ c ∈ text, isLineEnd c = false

instance : DecidablePred IsLine := fun text =>
  decidable_of_iff (text.all (!isLineEnd ·) = true) (by simp [IsLine])

theorem IsLine.cons {c : Char} {cs : List Char} (h : IsLine (c :: cs)) :
    isLineEnd c = false ∧ IsLine cs :=
  List.forall_mem_cons.mp h

theorem ne_return {c : Char} (h : isLineEnd c = false) : c ≠ '\r' := by
  rintro rfl
  cases h

theorem isLine_of_mem_lines {text line : List Char} (h : line ∈ lines text) : IsLine line := by
  induction text using lines.induct generalizing line with
  | case1 => cases h
  | case2 cs ih =>
    rw [lines] at h
    rcases List.mem_cons.mp h with rfl | h
    · simp [IsLine]
    · exact ih h
  | case3 c cs hne hend ih =>
    rw [lines, if_pos hend] at h
    · rcases List.mem_cons.mp h with rfl | h
      · simp [IsLine]
      · exact ih h
    · exact hne
  | case4 c cs hne hend hnil ih =>
    rw [lines, if_neg hend, hnil] at h
    · rw [List.mem_singleton.mp h]
      exact List.forall_mem_singleton.mpr (by simpa using hend)
    · exact hne
  | case5 c cs hne hend first rest hcons ih =>
    rw [lines, if_neg hend, hcons] at h
    · rcases List.mem_cons.mp h with rfl | h
      · exact List.forall_mem_cons.mpr
          ⟨by simpa using hend, ih (hcons ▸ List.mem_cons_self)⟩
      · exact ih (hcons ▸ List.mem_cons_of_mem first h)
    · exact hne

theorem unifyNewlines_cons {c : Char} (hc : c ≠ '\r') (text : List Char) :
    unifyNewlines (c :: text) = c :: unifyNewlines text :=
  unifyNewlines.eq_4 c text (fun _ he => absurd he hc) hc

theorem unifyNewlines_of_not_mem {text : List Char} (h : '\r' ∉ text) :
    unifyNewlines text = text := by
  induction text with
  | nil => rfl
  | cons c cs ih =>
    obtain ⟨hc, hcs⟩ := not_or.mp (List.mem_cons.not.mp h)
    rw [unifyNewlines_cons (Ne.symm hc), ih hcs]

def fileLines (text : List Char) : List (List Char) :=
  lines (unifyNewlines text)

theorem fileLines_return_feed (text : List Char) :
    fileLines ('\r' :: '\n' :: text) = [] :: fileLines text := by
  simp [fileLines, unifyNewlines, lines, isLineEnd]

theorem fileLines_return {text : List Char} (h : ∀ rest, text = '\n' :: rest → False) :
    fileLines ('\r' :: text) = [] :: fileLines text := by
  rw [fileLines, unifyNewlines.eq_3 text h]
  simp [fileLines, lines, isLineEnd]

theorem fileLines_end {c : Char} (hend : isLineEnd c = true) (hc : c ≠ '\r')
    (text : List Char) : fileLines (c :: text) = [] :: fileLines text := by
  rw [fileLines, unifyNewlines_cons hc, lines, if_pos hend, fileLines]
  exact fun _ he => absurd he hc

theorem fileLines_cons {c : Char} (hend : isLineEnd c = false) {text : List Char}
    {first : List Char} {others : List (List Char)} (h : fileLines text = first :: others) :
    fileLines (c :: text) = (c :: first) :: others := by
  have hc := ne_return hend
  rw [fileLines] at h
  rw [fileLines, unifyNewlines_cons hc, lines, if_neg (by simp [hend]), h]
  exact fun _ he => absurd he hc

theorem fileLines_last {c : Char} (hend : isLineEnd c = false) {text : List Char}
    (h : fileLines text = []) : fileLines (c :: text) = [[c]] := by
  have hc := ne_return hend
  rw [fileLines] at h
  rw [fileLines, unifyNewlines_cons hc, lines, if_neg (by simp [hend]), h]
  exact fun _ he => absurd he hc

theorem fileLines_of_isLine {line : List Char} (h : IsLine line) (hne : line ≠ []) :
    fileLines line = [line] := by
  induction line with
  | nil => exact absurd rfl hne
  | cons c cs ih =>
    obtain ⟨hend, hrest⟩ := h.cons
    cases cs with
    | nil => exact fileLines_last hend rfl
    | cons d ds => exact fileLines_cons hend (ih hrest (List.cons_ne_nil d ds))

/-- A line feed behind a text ends its last line, or it ends an empty line more. -/
theorem exists_fileLines (text : List Char) : ∃ first others,
    (∀ rest, fileLines (text ++ '\n' :: rest) = first :: others ++ fileLines rest) ∧
      (fileLines text = first :: others ∨ fileLines text ++ [[]] = first :: others) := by
  induction text using unifyNewlines.induct with
  | case1 => exact ⟨[], [], fun rest => fileLines_end (by decide) (by decide) rest, Or.inr rfl⟩
  | case2 cs ih =>
    obtain ⟨first, others, hjoined, halone⟩ := ih
    refine ⟨[], first :: others, fun rest => ?_, ?_⟩
    · rw [List.cons_append, List.cons_append, fileLines_return_feed, hjoined]
      rfl
    · rw [fileLines_return_feed]
      simpa using halone
  | case3 cs hne ih =>
    -- a carriage return at the end of the text takes the line feed to itself
    cases cs with
    | nil =>
      exact ⟨[], [], fun rest => fileLines_return_feed rest, Or.inl (fileLines_return hne)⟩
    | cons c cs =>
      obtain ⟨first, others, hjoined, halone⟩ := ih
      refine ⟨[], first :: others, fun rest => ?_, ?_⟩
      · have hne' : ∀ more, c :: cs ++ '\n' :: rest = '\n' :: more → False := by
          intro more he
          exact hne cs (by rw [(List.cons_eq_cons.mp he).1])
        rw [List.cons_append, fileLines_return hne', hjoined]
        rfl
      · rw [fileLines_return hne]
        simpa using halone
  | case4 c cs _ hc ih =>
    obtain ⟨first, others, hjoined, halone⟩ := ih
    cases hend : isLineEnd c with
    | true =>
      refine ⟨[], first :: others, fun rest => ?_, ?_⟩
      · rw [List.cons_append, fileLines_end hend hc, hjoined]
        rfl
      · rw [fileLines_end hend hc]
        simpa using halone
    | false =>
      refine ⟨c :: first, others, fun rest => fileLines_cons hend (hjoined rest), ?_⟩
      rcases halone with h | h
      · exact Or.inl (fileLines_cons hend h)
      · cases hcs : fileLines cs with
        | nil =>
          rw [hcs] at h
          cases h
          exact Or.inl (fileLines_last hend hcs)
        | cons front back =>
          rw [hcs] at h
          cases h
          exact Or.inr (by rw [fileLines_cons hend hcs]; rfl)

end LedgerQuery.Text
