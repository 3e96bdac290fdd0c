import LedgerQuery.Display.Console
import LedgerQuery.Proofs.Decimal.Rounding
import Mathlib.Algebra.Group.Nat.Defs
import Mathlib.Data.List.Basic

/-! # Lines and their columns -/

namespace LedgerQuery.Display

/-! ## Lines as lists of pieces

A line shows its pieces one after the other, and the spans of the pieces with a style follow one
another too: none reaches into the next, and each covers its piece. -/

theorem clean_append (front back : List Char) : clean (front ++ back) = clean front ++ clean back :=
  List.filter_append _ _

theorem length_clean_add (text : List Char) :
    (clean text).length + text.countP isDropped = text.length := by
  have hsplit := List.length_eq_countP_add_countP (l := text) isDropped
  rw [clean, ← List.countP_eq_length_filter]
  simp only [Bool.not_eq_true, Bool.decide_eq_false] at hsplit
  omega

theorem isDropped_of_le {c : Char} (h : 32 ≤ c.toNat) : isDropped c = false := by
  simp only [isDropped, Bool.or_eq_false_iff, decide_eq_false_iff_not]
  omega

theorem clean_of_le {text : List Char} (h : ∀ c ∈ text, 32 ≤ c.toNat) : clean text = text :=
  List.filter_eq_self.mpr fun c hc => by simp [isDropped_of_le (h c hc)]

theorem spanOver_none (start length : Nat) : spanOver start length none = [] :=
  rfl

theorem spanOver_of_ne_nil {text : List Char} (h : text ≠ []) (start : Nat)
    (style : Option Style) :
    spanOver start text.length style = style.toList.map (⟨start, start + text.length, ·⟩) := by
  cases style with
  | none => rfl
  | some style => simp [spanOver, h]

def Span.under (span : Span) (text : List Char) : List Char :=
  (text.take span.stop).drop span.start

structure Piece where
  text : List Char
  style : Option Style

def Piece.shown (piece : Piece) : List Char :=
  clean piece.text

def Piece.styled (piece : Piece) : List (List Char × Style) :=
  if piece.shown = [] then [] else piece.style.toList.map (piece.shown, ·)

namespace StyledText

def pushAll (line : StyledText) (pieces : List Piece) : StyledText :=
  pieces.foldl (fun line piece => line.push piece.text piece.style) line

def shown (pieces : List Piece) : List Char :=
  pieces.flatMap Piece.shown

/-- The spans of pieces, the first of which begins at the offset. -/
def spansFrom (offset : Nat) : List Piece → List Span
  | [] => []
  | piece :: pieces =>
    spanOver offset piece.shown.length piece.style ++
      spansFrom (offset + piece.shown.length) pieces

variable {piece : Piece} {pieces more : List Piece} {offset : Nat} {line : StyledText}

theorem shown_cons (piece : Piece) (pieces : List Piece) :
    shown (piece :: pieces) = piece.shown ++ shown pieces :=
  List.flatMap_cons

theorem shown_append (pieces more : List Piece) :
    shown (pieces ++ more) = shown pieces ++ shown more :=
  List.flatMap_append

theorem pushAll_append (line : StyledText) (pieces more : List Piece) :
    line.pushAll (pieces ++ more) = (line.pushAll pieces).pushAll more :=
  List.foldl_append

theorem pushAll_eq (line : StyledText) (pieces : List Piece) :
    line.pushAll pieces = { line with
      plain := line.plain ++ shown pieces
      spans := line.spans ++ spansFrom line.plain.length pieces } := by
  induction pieces generalizing line with
  | nil => simp [pushAll, shown, spansFrom]
  | cons piece pieces ih =>
    have hstep : line.pushAll (piece :: pieces) =
        (line.push piece.text piece.style).pushAll pieces := rfl
    rw [hstep, ih]
    simp [push, shown_cons, spansFrom, Piece.shown]

theorem spansFrom_append (offset : Nat) (pieces more : List Piece) :
    spansFrom offset (pieces ++ more) =
      spansFrom offset pieces ++ spansFrom (offset + (shown pieces).length) more := by
  induction pieces generalizing offset with
  | nil => simp [spansFrom, shown]
  | cons piece pieces ih => simp [spansFrom, ih, shown_cons, Nat.add_assoc]

theorem spansFrom_shift (offset distance : Nat) (pieces : List Piece) :
    (spansFrom offset pieces).map
        (fun span => ⟨span.start + distance, span.stop + distance, span.style⟩) =
      spansFrom (offset + distance) pieces := by
  induction pieces generalizing offset with
  | nil => rfl
  | cons piece pieces ih =>
    have hfirst : (spanOver offset piece.shown.length piece.style).map
        (fun span => ⟨span.start + distance, span.stop + distance, span.style⟩) =
          spanOver (offset + distance) piece.shown.length piece.style := by
      unfold spanOver
      split
      · split
        · rfl
        · simp [Nat.add_right_comm]
      · rfl
    rw [spansFrom, List.map_append, hfirst, ih, spansFrom, Nat.add_right_comm]

/-- A line of pieces goes to the end of another as its pieces do. -/
theorem append_pushAll (line : StyledText) (pieces : List Piece) :
    line.append (pushAll {} pieces) = line.pushAll pieces := by
  rw [pushAll_eq, pushAll_eq, append]
  simp only [List.nil_append, List.length_nil, spansFrom_shift, Nat.zero_add, spanOver,
    List.append_nil]

theorem mem_spanOver {length : Nat} {style : Option Style} {span : Span}
    (h : span ∈ spanOver offset length style) :
    0 < length ∧ span.start = offset ∧ span.stop = offset + length := by
  unfold spanOver at h
  split at h
  · split at h
    · cases h
    · rw [List.mem_singleton] at h
      subst h
      exact ⟨by omega, rfl, rfl⟩
  · cases h

theorem inside_of_mem_spansFrom {span : Span} (h : span ∈ spansFrom offset pieces) :
    offset ≤ span.start ∧ span.start < span.stop ∧
      span.stop ≤ offset + (shown pieces).length := by
  induction pieces generalizing offset with
  | nil => cases h
  | cons piece pieces ih =>
    rw [shown_cons, List.length_append]
    rcases List.mem_append.mp h with h | h
    · obtain ⟨hpos, hstart, hstop⟩ := mem_spanOver h
      omega
    · have := ih h
      omega

theorem ascending_spansFrom (offset : Nat) (pieces : List Piece) :
    (spansFrom offset pieces).Pairwise fun a b => a.stop ≤ b.start := by
  induction pieces generalizing offset with
  | nil => exact .nil
  | cons piece pieces ih =>
    refine List.pairwise_append.mpr ⟨?_, ih _, ?_⟩
    · unfold spanOver
      split
      · split
        · exact .nil
        · exact List.pairwise_singleton _ _
      · exact .nil
    · intro a ha b hb
      have hstop := (mem_spanOver ha).2.2
      have hstart := (inside_of_mem_spansFrom hb).1
      omega

/-- Under the spans stand the pieces with a style. -/
theorem under_spansFrom (front : List Char) (pieces : List Piece) :
    (spansFrom front.length pieces).map
        (fun span => (span.under (front ++ shown pieces), span.style)) =
      pieces.flatMap Piece.styled := by
  induction pieces generalizing front with
  | nil => rfl
  | cons piece pieces ih =>
    have hrest := ih (front ++ piece.shown)
    rw [List.length_append, List.append_assoc] at hrest
    rw [spansFrom, List.map_append, shown_cons, hrest, List.flatMap_cons]
    congr 1
    unfold spanOver Piece.styled
    split
    · rename_i style hstyle
      by_cases hempty : piece.shown = []
      · simp [hempty]
      · simp [hempty, hstyle, Span.under, List.take_append, List.take_of_length_le]
    · rename_i hstyle
      simp [hstyle]

end StyledText

/-! ## The layout of the line of a transaction

Its columns have their widths but for the characters that are dropped from them, every tag stands in
brackets, primary tags first, and the spans are those of the amount, the date and the tags. -/

open Text

/-- A text in a column: cut or filled up with spaces, and rid of the characters that are dropped. -/
structure IsColumn (text : List Char) (width : ℕ) (column : List Char) : Prop where
  shows : column = clean ((text ++ List.replicate width ' ').take width)
  width : column.length + (text.take width).countP isDropped = width

def bracketed (tag : String) : List Char :=
  clean ('[' :: tag.toList ++ [']'])

def tagSpans (primaryTags : List String) (offset : ℕ) : List String → List Span
  | [] => []
  | tag :: tags =>
    ⟨offset, offset + (bracketed tag).length, if tag ∈ primaryTags then .blue else .cyan⟩ ::
      tagSpans primaryTags (offset + (bracketed tag).length + 1) tags

structure Columns where
  amount : List Char
  date : List Char
  description : List Char
  account : List Char
  tags : List String

namespace Columns

def text (columns : Columns) : List Char :=
  columns.amount ++ '\t' :: columns.date ++ ' ' :: columns.description ++
    ' ' :: columns.account ++ ' ' :: joinWith [' '] (columns.tags.map bracketed)

structure AreOf (columns : Columns) (settings : Settings) (t : Transaction) : Prop where
  amount : columns.amount = Decimal.twoPlaces (.ofFloat t.amount)
  date : columns.date = t.date.isoText
  date_length : columns.date.length = 10
  description :
    IsColumn t.description.toList settings.descriptionWidth columns.description
  account :
    IsColumn (settings.accountName t.account).toList settings.accountWidth columns.account
  tags_perm : columns.tags.Perm t.tags
  tags_nodup : columns.tags.Nodup
  primary_first : columns.tags = t.tags.filter (· ∈ settings.primaryTags) ++
    t.tags.filter (· ∉ settings.primaryTags)

/-- The spans over the columns of a transaction: one over the amount unless it has no colour, one
over the date, and one over every tag with its brackets. -/
structure AreUnder (columns : Columns) (settings : Settings) (t : Transaction)
    (spans : List Span) : Prop where
  places : spans =
    (signStyle (.ofFloat t.amount)).toList.map (⟨0, columns.amount.length, ·⟩) ++
      ⟨columns.amount.length + 1, columns.amount.length + 11, .yellow⟩ ::
        tagSpans settings.primaryTags
          (columns.amount.length + columns.description.length + columns.account.length + 14)
          columns.tags
  under : spans.map (fun span => (span.under columns.text, span.style)) =
    (signStyle (.ofFloat t.amount)).toList.map (columns.amount, ·) ++ (columns.date, .yellow) ::
      columns.tags.map fun tag =>
        (bracketed tag, if tag ∈ settings.primaryTags then .blue else .cyan)
  ascending : spans.Pairwise fun a b => a.stop ≤ b.start
  inside : ∀ span ∈ spans, span.start < span.stop ∧ span.stop ≤ columns.text.length
  plain_amount : signStyle (.ofFloat t.amount) = none ↔
    .ofFloat t.amount = Decimal.Binary64.nan ∨
      ∃ negative exponent, .ofFloat t.amount = Decimal.Binary64.finite negative 0 exponent

end Columns

theorem signStyle_eq_none_iff {x : Decimal.Binary64} :
    signStyle x = none ↔ x = .nan ∨ ∃ negative exponent, x = .finite negative 0 exponent := by
  cases x with
  | nan => simp [signStyle, Decimal.Binary64.isNegative, Decimal.Binary64.isPositive]
  | infinite negative =>
    cases negative <;> simp [signStyle, Decimal.Binary64.isNegative, Decimal.Binary64.isPositive]
  | finite negative mantissa exponent =>
    cases negative <;> simp [signStyle, Decimal.Binary64.isNegative, Decimal.Binary64.isPositive]

theorem cutOrPad_eq (text : List Char) (width : ℕ) :
    cutOrPad text width = (text ++ List.replicate width ' ').take width := by
  rcases Nat.lt_or_ge text.length width with h | h
  · rw [cutOrPad, if_pos (by exact_mod_cast h), Int.toNat_natCast, List.take_append,
      List.take_of_length_le h.le, List.take_replicate, Nat.min_eq_left (Nat.sub_le _ _)]
  · rw [cutOrPad, if_neg (by omega), if_neg (by omega), Int.toNat_natCast,
      List.take_append_of_le_length h]

/-- Of a text that is cut or filled up only characters of its own are dropped. -/
theorem countP_isDropped_cutOrPad (text : List Char) (width : ℕ) :
    (cutOrPad text width).countP isDropped = (text.take width).countP isDropped := by
  have hspaces (count : ℕ) : (List.replicate count ' ').countP isDropped = 0 := by
    rw [List.countP_eq_zero]
    intro c hc
    rw [List.eq_of_mem_replicate hc]
    decide
  rw [cutOrPad_eq, List.take_append, List.countP_append, List.take_replicate, hspaces, Nat.add_zero]

theorem isColumn_clean (text : List Char) (width : ℕ) :
    IsColumn text width (clean (cutOrPad text width)) := by
  constructor
  · rw [cutOrPad_eq]
  · have hlength : (cutOrPad text width).length = width := by
      rw [cutOrPad_eq]
      simp
    rw [← countP_isDropped_cutOrPad, length_clean_add, hlength]

section Tags
variable (primaryTags : List String)

def tagPiece (tag : String) : Piece :=
  ⟨'[' :: tag.toList ++ [']'], some (tagStyle primaryTags tag)⟩

def spacedPieces (tags : List String) : List Piece :=
  tags.flatMap fun tag => [⟨[' '], none⟩, tagPiece primaryTags tag]

def tagPieces : List String → List Piece
  | [] => []
  | tag :: tags => tagPiece primaryTags tag :: spacedPieces primaryTags tags

theorem bracketed_ne_nil (tag : String) : bracketed tag ≠ [] := by
  simp [bracketed, clean, isDropped]

theorem tagStyle_eq (tag : String) :
    tagStyle primaryTags tag = if tag ∈ primaryTags then .blue else .cyan := by
  simp [tagStyle]

theorem plain_push_ne_nil {line : StyledText} (h : line.plain ≠ []) (piece : List Char)
    (style : Option Style) : (line.push piece style).plain ≠ [] := by
  simp [StyledText.push, h]

theorem foldl_pushTag {line : StyledText} (h : line.plain ≠ []) (tags : List String) :
    tags.foldl (pushTag primaryTags) line = line.pushAll (spacedPieces primaryTags tags) := by
  induction tags generalizing line with
  | nil => rfl
  | cons tag tags ih =>
    have hstep : pushTag primaryTags line tag =
        line.pushAll [⟨[' '], none⟩, tagPiece primaryTags tag] := by
      rw [pushTag, if_neg (by simpa using h)]
      rfl
    have hne : (pushTag primaryTags line tag).plain ≠ [] := by
      rw [hstep]
      exact plain_push_ne_nil (plain_push_ne_nil h _ _) _ _
    rw [List.foldl_cons, ih hne, hstep, ← StyledText.pushAll_append]
    rfl

theorem tags_eq_pushAll (settings : Settings) (list : List String) :
    tags settings list =
      StyledText.pushAll {} (tagPieces settings.primaryTags
        (orderedTags settings.primaryTags list)) := by
  unfold tags
  cases orderedTags settings.primaryTags list with
  | nil => rfl
  | cons tag rest =>
    have hfirst : pushTag settings.primaryTags {} tag =
        StyledText.pushAll {} [tagPiece settings.primaryTags tag] := rfl
    have hne : (pushTag settings.primaryTags {} tag).plain ≠ [] := bracketed_ne_nil tag
    rw [List.foldl_cons, foldl_pushTag _ hne, hfirst, ← StyledText.pushAll_append]
    rfl

theorem shown_spacedPieces (list : List String) :
    StyledText.shown (spacedPieces primaryTags list) =
      list.flatMap fun tag => ' ' :: bracketed tag := by
  rw [StyledText.shown, spacedPieces, List.flatMap_assoc]
  congr 1
  funext tag
  rw [List.flatMap_cons, List.flatMap_cons, List.flatMap_nil, List.append_nil]
  rfl

theorem shown_tagPieces (list : List String) :
    StyledText.shown (tagPieces primaryTags list) = joinWith [' '] (list.map bracketed) := by
  cases list with
  | nil => rfl
  | cons tag rest =>
    rw [tagPieces, StyledText.shown_cons, shown_spacedPieces, List.map_cons, joinWith_cons,
      List.flatMap_map]
    rfl

theorem spansFrom_tagPiece (offset : ℕ) (tag : String) (pieces : List Piece) :
    StyledText.spansFrom offset (tagPiece primaryTags tag :: pieces) =
      ⟨offset, offset + (bracketed tag).length, if tag ∈ primaryTags then .blue else .cyan⟩ ::
        StyledText.spansFrom (offset + (bracketed tag).length) pieces := by
  have hspan := spanOver_of_ne_nil (bracketed_ne_nil tag) offset (some (tagStyle primaryTags tag))
  rw [← tagStyle_eq]
  exact congrArg (· ++ StyledText.spansFrom (offset + (bracketed tag).length) pieces) hspan

theorem spansFrom_tagPieces (offset : ℕ) (list : List String) :
    StyledText.spansFrom offset (tagPieces primaryTags list) =
      tagSpans primaryTags offset list := by
  cases list with
  | nil => rfl
  | cons tag rest =>
    induction rest generalizing tag offset with
    | nil =>
      rw [tagPieces, spansFrom_tagPiece]
      rfl
    | cons next rest ih =>
      have hrest := ih (offset + (bracketed tag).length + 1) next
      rw [tagPieces, spansFrom_tagPiece, spacedPieces, List.flatMap_cons, tagSpans, ← hrest]
      rfl

theorem styled_tagPiece (tag : String) : (tagPiece primaryTags tag).styled =
    [(bracketed tag, if tag ∈ primaryTags then .blue else .cyan)] := by
  rw [← tagStyle_eq]
  exact if_neg (bracketed_ne_nil tag)

theorem styled_tagPieces (list : List String) :
    (tagPieces primaryTags list).flatMap Piece.styled =
      list.map fun tag => (bracketed tag, if tag ∈ primaryTags then .blue else .cyan) := by
  cases list with
  | nil => rfl
  | cons tag rest =>
    rw [tagPieces, List.flatMap_cons, styled_tagPiece, spacedPieces, List.flatMap_assoc,
      List.map_cons, List.singleton_append, List.map_eq_flatMap]
    congr 2
    funext tag
    rw [List.flatMap_cons, List.flatMap_cons, styled_tagPiece]
    rfl

end Tags

section Line
variable (settings : Settings) (t : Transaction)

def columnsOf : Columns where
  amount := Decimal.twoPlaces (.ofFloat t.amount)
  date := t.date.isoText
  description := clean (cutOrPad t.description.toList settings.descriptionWidth)
  account := clean (cutOrPad (settings.accountName t.account).toList settings.accountWidth)
  tags := orderedTags settings.primaryTags t.tags

def headPieces : List Piece :=
  [⟨Decimal.twoPlaces (.ofFloat t.amount), signStyle (.ofFloat t.amount)⟩, ⟨['\t'], none⟩,
    ⟨t.date.isoText, some .yellow⟩,
    ⟨' ' :: cutOrPad t.description.toList settings.descriptionWidth ++
      ' ' :: cutOrPad (settings.accountName t.account).toList settings.accountWidth ++ [' '], none⟩]

def linePieces : List Piece :=
  headPieces settings t ++
    tagPieces settings.primaryTags (orderedTags settings.primaryTags t.tags)

theorem transaction_eq_pushAll :
    transaction settings t = StyledText.pushAll {} (linePieces settings t) := by
  have hhead : transaction settings t =
      (StyledText.pushAll {} (headPieces settings t)).append (tags settings t.tags) := rfl
  rw [hhead, tags_eq_pushAll, StyledText.append_pushAll, linePieces, StyledText.pushAll_append]

theorem clean_isoText (date : Date) : clean date.isoText = date.isoText := by
  apply clean_of_le
  intro c hc
  have hdigit {width n : ℕ} (h : c ∈ Decimal.padded width n) : 32 ≤ c.toNat :=
    le_of_isAsciiDigit (Decimal.isAsciiDigit_of_mem_padded h)
  simp only [Date.isoText, List.mem_append, List.mem_cons] at hc
  rcases hc with (h | rfl | h) | rfl | h
  · exact hdigit h
  · decide
  · exact hdigit h
  · decide
  · exact hdigit h

theorem length_isoText (date : Date) : date.isoText.length = 10 := by
  obtain ⟨-, hyear, -, hday⟩ := date.valid
  have hmonth := date.month.inYear
  have hdays : date.month.days date.year ≤ 31 := by
    unfold Month.days
    split
    · split <;> omega
    · split <;> omega
  simp only [Date.isoText, List.length_append, List.length_cons]
  rw [Decimal.length_padded (by decide) (by omega : date.year < 10 ^ 4),
    Decimal.length_padded (by decide) (by omega : date.month.number < 10 ^ 2),
    Decimal.length_padded (by decide) (by omega : date.day < 10 ^ 2)]

theorem columnsOf_areOf : (columnsOf settings t).AreOf settings t where
  amount := rfl
  date := rfl
  date_length := length_isoText t.date
  description := isColumn_clean _ _
  account := isColumn_clean _ _
  tags_perm := List.filter_append_perm _ _
  tags_nodup := (List.filter_append_perm _ _).nodup_iff.mpr t.tags_nodup
  primary_first := by simp [columnsOf, orderedTags]

theorem clean_twoPlaces (x : Decimal.Binary64) :
    clean (Decimal.twoPlaces x) = Decimal.twoPlaces x :=
  clean_of_le Decimal.le_of_mem_twoPlaces

theorem shown_headPieces :
    StyledText.shown (headPieces settings t) =
      (columnsOf settings t).amount ++ '\t' :: (columnsOf settings t).date ++
        ' ' :: (columnsOf settings t).description ++ ' ' :: (columnsOf settings t).account ++
          [' '] := by
  have htab : clean ['\t'] = ['\t'] := by decide
  have hspace (text : List Char) : clean (' ' :: text) = ' ' :: clean text := rfl
  have hnil : clean [] = [] := rfl
  simp only [headPieces, columnsOf, StyledText.shown, List.flatMap_cons, List.flatMap_nil,
    Piece.shown, clean_twoPlaces, clean_isoText, clean_append, htab, hspace, hnil,
    List.append_assoc, List.cons_append, List.nil_append, List.append_nil]

theorem shown_linePieces :
    StyledText.shown (linePieces settings t) = (columnsOf settings t).text := by
  rw [linePieces, StyledText.shown_append, shown_headPieces, shown_tagPieces, Columns.text]
  simp only [List.append_assoc, List.cons_append, List.nil_append]
  rfl

theorem plain_transaction : (transaction settings t).plain = (columnsOf settings t).text := by
  rw [transaction_eq_pushAll, StyledText.pushAll_eq, shown_linePieces]
  rfl

theorem twoPlaces_ne_nil (x : Decimal.Binary64) : Decimal.twoPlaces x ≠ [] := by
  cases x with
  | nan => decide
  | infinite negative => cases negative <;> decide
  | finite negative mantissa exponent => simp [Decimal.twoPlaces, Decimal.centsText]

theorem isoText_ne_nil (date : Date) : date.isoText ≠ [] :=
  List.ne_nil_of_length_pos (by rw [length_isoText]; decide)

theorem spansFrom_headPieces :
    StyledText.spansFrom 0 (headPieces settings t) =
      (signStyle (.ofFloat t.amount)).toList.map (⟨0, (columnsOf settings t).amount.length, ·⟩) ++
        [⟨(columnsOf settings t).amount.length + 1, (columnsOf settings t).amount.length + 11,
          .yellow⟩] := by
  have htab : (clean ['\t']).length = 1 := by decide
  have hamount := spanOver_of_ne_nil (twoPlaces_ne_nil (.ofFloat t.amount)) 0
    (signStyle (.ofFloat t.amount))
  have hdate (start : ℕ) : spanOver start 10 (some .yellow) = [⟨start, start + 10, .yellow⟩] := rfl
  simp only [headPieces, StyledText.spansFrom, Piece.shown, clean_twoPlaces, clean_isoText, htab,
    hamount, hdate, spanOver_none, length_isoText, List.append_nil, List.nil_append, Nat.zero_add,
    columnsOf, Nat.add_assoc]

theorem styled_headPieces :
    (headPieces settings t).flatMap Piece.styled =
      (signStyle (.ofFloat t.amount)).toList.map ((columnsOf settings t).amount, ·) ++
        [((columnsOf settings t).date, .yellow)] := by
  simp [headPieces, Piece.styled, Piece.shown, clean_twoPlaces, clean_isoText, twoPlaces_ne_nil,
    isoText_ne_nil, columnsOf]

theorem columnsOf_areUnder :
    (columnsOf settings t).AreUnder settings t
      (StyledText.spansFrom 0 (linePieces settings t)) where
  places := by
    rw [linePieces, StyledText.spansFrom_append, spansFrom_headPieces, spansFrom_tagPieces,
      shown_headPieces, List.append_assoc]
    have hoffset : 0 + ((columnsOf settings t).amount ++ '\t' :: (columnsOf settings t).date ++
        ' ' :: (columnsOf settings t).description ++ ' ' :: (columnsOf settings t).account ++
          [' ']).length = (columnsOf settings t).amount.length +
            (columnsOf settings t).description.length +
              (columnsOf settings t).account.length + 14 := by
      have hdate := (columnsOf_areOf settings t).date_length
      simp only [List.length_append, List.length_cons, List.length_nil]
      omega
    rw [hoffset]
    rfl
  under := by
    have hunder := StyledText.under_spansFrom [] (linePieces settings t)
    rw [shown_linePieces, linePieces, List.flatMap_append, styled_headPieces, styled_tagPieces]
      at hunder
    rw [linePieces, ← List.singleton_append, ← List.append_assoc]
    exact hunder
  ascending := StyledText.ascending_spansFrom 0 (linePieces settings t)
  inside := by
    intro span hspan
    have hinside := StyledText.inside_of_mem_spansFrom hspan
    rw [shown_linePieces] at hinside
    omega
  plain_amount := signStyle_eq_none_iff

/-- The line of a transaction has its columns, one after the other, and the spans over them. -/
theorem transaction_layout : ∃ columns : Columns, columns.AreOf settings t ∧
    (transaction settings t).plain = columns.text ∧
    (transaction settings t).style = none ∧
    columns.AreUnder settings t (transaction settings t).spans := by
  refine ⟨columnsOf settings t, columnsOf_areOf settings t, plain_transaction settings t, ?_, ?_⟩
  · rw [transaction_eq_pushAll, StyledText.pushAll_eq]
  · rw [transaction_eq_pushAll, StyledText.pushAll_eq]
    exact columnsOf_areUnder settings t

end Line

end LedgerQuery.Display
