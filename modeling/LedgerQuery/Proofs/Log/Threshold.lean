import LedgerQuery.Dictionary
import LedgerQuery.Log.Output
import Mathlib.Data.List.TakeWhile

/-! Which threshold is taken. Of the texts that are looked at in turn, the first one that is heard
decides: a run of digit signs, or the name of a level. If none is heard the threshold is that of
information. Some runs of digit signs are heard and are no number: those with a sign that is no
decimal digit, and those of too many digits. No threshold comes from them, whatever stands behind,
and from all other texts one does. -/

namespace LedgerQuery.Log
open Text

variable {text : String} {texts : List String} {n : Int} {fault : ThresholdFault}

def IsNumeral (text : String) : Prop :=
  bareName text ≠ [] ∧ ∀ c ∈ bareName text, isDigitSign c = true

def Names (text : String) (n : Int) : Prop :=
  (String.ofList (bareName text), n) ∈ levelNames

structure Silent (text : String) : Prop where
  not_numeral : ¬ IsNumeral text
  not_named : ∀ n, ¬ Names text n

/-- The level that a text asks for: the value of its digits, or the level that it names. -/
inductive Asks (text : String) : Int → Prop where
  | number (hsome : bareName text ≠ []) (hdigits : ∀ c ∈ bareName text, isDigit c = true)
      (hlength : (bareName text).length ≤ Decimal.digitLimit) :
      Asks text (Decimal.value (bareName text))
  | level {n : Int} (hname : Names text n) : Asks text n

def leadingDigits (text : String) : List Char :=
  (bareName text).takeWhile isDigit

/-- Why a run of digit signs is no number. -/
inductive Misleads (text : String) : ThresholdFault → Prop where
  | other (hsigns : IsNumeral text) (hother : ∃ c ∈ bareName text, isDigit c = false)
      (hlength : (leadingDigits text).length ≤ Decimal.digitLimit) :
      Misleads text (.notDecimal (String.ofList (bareName text)))
  | long (hsigns : IsNumeral text)
      (hlength : Decimal.digitLimit < (leadingDigits text).length) :
      Misleads text (.tooManyDigits (leadingDigits text).length)

theorem isDigitSign_of_isDigit {c : Char} (h : isDigit c = true) : isDigitSign c = true := by
  rw [isDigitSign, h, Bool.true_or]

theorem Names.not_isNumeral (h : Names text n) : ¬ IsNumeral text := by
  rintro ⟨-, hsigns⟩
  have hletters : ∀ level ∈ levelNames, level.1.toList.all isDigitSign = false := by decide
  have hname := hletters _ h
  rw [String.toList_ofList, List.all_eq_true.mpr hsigns] at hname
  cases hname

theorem Names.ne_nil (h : Names text n) : bareName text ≠ [] := by
  intro hnone
  have hnames : ∀ level ∈ levelNames, level.1.toList ≠ [] := by decide
  exact hnames _ h (by rw [String.toList_ofList, hnone])

theorem Names.lookup (h : Names text n) :
    levelNames.lookup (String.ofList (bareName text)) = some n :=
  Dictionary.get?_of_mem (by decide) h

theorem lookup_eq_none (h : ∀ n, ¬ Names text n) :
    levelNames.lookup (String.ofList (bareName text)) = none := by
  rw [List.lookup_eq_none_iff]
  rintro ⟨name, n⟩ hmem
  rw [bne_iff_ne]
  rintro rfl
  exact h n hmem

theorem readThreshold_of_isNumeral (h : IsNumeral text) :
    readThreshold text = (readSigns (bareName text)).map some := by
  rw [readThreshold, if_neg h.1, if_pos (List.all_eq_true.mpr h.2)]

theorem readThreshold_of_not_isNumeral (h : ¬ IsNumeral text) (hsome : bareName text ≠ []) :
    readThreshold text = .ok (levelNames.lookup (String.ofList (bareName text))) := by
  have hletter : ¬ (bareName text).all isDigitSign = true := fun hsigns =>
    h ⟨hsome, List.all_eq_true.mp hsigns⟩
  rw [readThreshold, if_neg hsome, if_neg hletter]

theorem Silent.readThreshold (h : Silent text) : readThreshold text = .ok none := by
  by_cases hsome : bareName text = []
  · rw [Log.readThreshold, if_pos hsome]
  · rw [readThreshold_of_not_isNumeral h.not_numeral hsome, lookup_eq_none h.not_named]

theorem Asks.readThreshold (h : Asks text n) : readThreshold text = .ok (some n) := by
  cases h with
  | number hsome hdigits hlength =>
    have hall : (bareName text).takeWhile isDigit = bareName text :=
      List.takeWhile_eq_self_iff.mpr hdigits
    rw [readThreshold_of_isNumeral ⟨hsome, fun c hc => isDigitSign_of_isDigit (hdigits c hc)⟩,
      readSigns, hall, if_neg (by omega), if_neg (by omega)]
    rfl
  | level hname =>
    rw [readThreshold_of_not_isNumeral hname.not_isNumeral hname.ne_nil, hname.lookup]

theorem length_leadingDigits_lt (h : ∃ c ∈ bareName text, isDigit c = false) :
    (leadingDigits text).length < (bareName text).length := by
  have hle := (List.takeWhile_prefix isDigit (l := bareName text)).length_le
  rcases Nat.lt_or_eq_of_le hle with hlt | heq
  · exact hlt
  · obtain ⟨c, hc, hother⟩ := h
    have hall := (List.takeWhile_prefix isDigit (l := bareName text)).eq_of_length heq
    have hdigit := List.takeWhile_eq_self_iff.mp hall c hc
    rw [hother] at hdigit
    cases hdigit

theorem Misleads.isNumeral (h : Misleads text fault) : IsNumeral text := by
  cases h with
  | other hsigns _ _ => exact hsigns
  | long hsigns _ => exact hsigns

theorem Misleads.readThreshold (h : Misleads text fault) :
    readThreshold text = .error fault := by
  rw [readThreshold_of_isNumeral h.isNumeral, readSigns]
  cases h with
  | other _ hother hlength =>
    have hlt := length_leadingDigits_lt hother
    unfold leadingDigits at hlength hlt
    rw [if_neg (by omega), if_pos hlt]
    rfl
  | long _ hlength =>
    unfold leadingDigits at hlength
    rw [if_pos hlength]
    rfl

theorem silent_or_asks_or_misleads (text : String) :
    Silent text ∨ (∃ n, Asks text n) ∨ ∃ fault, Misleads text fault := by
  by_cases hsigns : IsNumeral text
  · by_cases hlong : Decimal.digitLimit < (leadingDigits text).length
    · exact Or.inr (Or.inr ⟨_, .long hsigns hlong⟩)
    · by_cases hother : ∃ c ∈ bareName text, isDigit c = false
      · exact Or.inr (Or.inr ⟨_, .other hsigns hother (by omega)⟩)
      · have hdigits : ∀ c ∈ bareName text, isDigit c = true := by simpa using hother
        have hall : leadingDigits text = bareName text :=
          List.takeWhile_eq_self_iff.mpr hdigits
        rw [hall] at hlong
        exact Or.inr (Or.inl ⟨_, .number hsigns.1 hdigits (by omega)⟩)
  · by_cases hname : ∃ n, Names text n
    · obtain ⟨n, hname⟩ := hname
      exact Or.inr (Or.inl ⟨n, .level hname⟩)
    · exact Or.inl ⟨hsigns, not_exists.mp hname⟩

def AllSilent (texts : List String) : Prop :=
  ∀ text ∈ texts, Silent text

def FirstHeard (texts : List String) (text : String) : Prop :=
  ¬ Silent text ∧ ∃ before after, texts = before ++ text :: after ∧ AllSilent before

theorem AllSilent.firstThreshold_append (h : AllSilent texts) (others : List String) :
    firstThreshold (texts ++ others) = firstThreshold others := by
  induction texts with
  | nil => rfl
  | cons text texts ih =>
    obtain ⟨hsilent, hrest⟩ := List.forall_mem_cons.mp h
    rw [List.cons_append, firstThreshold, hsilent.readThreshold]
    exact ih hrest

theorem AllSilent.firstThreshold (h : AllSilent texts) :
    firstThreshold texts = .ok Level.info.number := by
  rw [← List.append_nil texts, h.firstThreshold_append]
  rfl

theorem FirstHeard.of_asks (h : FirstHeard texts text) (hasks : Asks text n) :
    firstThreshold texts = .ok n := by
  obtain ⟨-, before, after, rfl, hbefore⟩ := h
  rw [hbefore.firstThreshold_append, firstThreshold, hasks.readThreshold]
  rfl

theorem FirstHeard.of_misleads (h : FirstHeard texts text) (hmisleads : Misleads text fault) :
    firstThreshold texts = .error fault := by
  obtain ⟨-, before, after, rfl, hbefore⟩ := h
  rw [hbefore.firstThreshold_append, firstThreshold, hmisleads.readThreshold]
  rfl

theorem allSilent_or_firstHeard (texts : List String) :
    AllSilent texts ∨ ∃ text, FirstHeard texts text := by
  induction texts with
  | nil => exact Or.inl fun _ hmem => absurd hmem List.not_mem_nil
  | cons text texts ih =>
    by_cases hsilent : Silent text
    · rcases ih with hrest | ⟨heard, hheard, before, after, rfl, hbefore⟩
      · exact Or.inl (List.forall_mem_cons.mpr ⟨hsilent, hrest⟩)
      · exact Or.inr ⟨heard, hheard, text :: before, after, rfl,
          List.forall_mem_cons.mpr ⟨hsilent, hbefore⟩⟩
    · exact Or.inr ⟨text, hsilent, [], texts, rfl, fun _ hmem => absurd hmem List.not_mem_nil⟩

theorem firstThreshold_cases (texts : List String) :
    (AllSilent texts ∧ firstThreshold texts = .ok Level.info.number) ∨
    (∃ text n, FirstHeard texts text ∧ Asks text n ∧ firstThreshold texts = .ok n) ∨
    (∃ text fault, FirstHeard texts text ∧ Misleads text fault ∧
      firstThreshold texts = .error fault) := by
  rcases allSilent_or_firstHeard texts with hsilent | ⟨text, hfirst⟩
  · exact Or.inl ⟨hsilent, hsilent.firstThreshold⟩
  · rcases silent_or_asks_or_misleads text with hsilent | ⟨n, hasks⟩ | ⟨fault, hmisleads⟩
    · exact absurd hsilent hfirst.1
    · exact Or.inr (Or.inl ⟨text, n, hfirst, hasks, hfirst.of_asks hasks⟩)
    · exact Or.inr (Or.inr ⟨text, fault, hfirst, hmisleads, hfirst.of_misleads hmisleads⟩)

theorem threshold_texts (request variableText : Option String) :
    threshold (request.map .text) variableText =
      firstThreshold (request.toList ++ variableText.toList) := by
  cases request <;> rfl

/-- The threshold is what the first text that is heard asks for, and that of information if none is
heard. There is none exactly if the first text that is heard is a run of digit signs that is no
number. -/
theorem threshold_heard (request variableText : Option String) :
    let texts := request.toList ++ variableText.toList
    (∀ n, threshold (request.map .text) variableText = .ok n ↔
      (∃ text, FirstHeard texts text ∧ Asks text n) ∨
        (AllSilent texts ∧ n = Level.info.number)) ∧
    (∀ fault, threshold (request.map .text) variableText = .error fault ↔
      ∃ text, FirstHeard texts text ∧ Misleads text fault) := by
  intro texts
  rw [threshold_texts]
  constructor
  · intro n
    constructor
    · intro hthreshold
      rcases firstThreshold_cases texts with
        ⟨hsilent, hinfo⟩ | ⟨text, level, hfirst, hasks, hlevel⟩ | ⟨_, _, _, _, hfault⟩
      · exact Or.inr ⟨hsilent, Except.ok.inj (hthreshold.symm.trans hinfo)⟩
      · obtain rfl : n = level := Except.ok.inj (hthreshold.symm.trans hlevel)
        exact Or.inl ⟨text, hfirst, hasks⟩
      · cases hthreshold.symm.trans hfault
    · rintro (⟨text, hfirst, hasks⟩ | ⟨hsilent, rfl⟩)
      · exact hfirst.of_asks hasks
      · exact hsilent.firstThreshold
  · intro fault
    constructor
    · intro hthreshold
      rcases firstThreshold_cases texts with
        ⟨_, hinfo⟩ | ⟨_, _, _, _, hlevel⟩ | ⟨text, cause, hfirst, hmisleads, hfault⟩
      · cases hthreshold.symm.trans hinfo
      · cases hthreshold.symm.trans hlevel
      · obtain rfl : fault = cause := Except.error.inj (hthreshold.symm.trans hfault)
        exact ⟨text, hfirst, hmisleads⟩
    · rintro ⟨text, hfirst, hmisleads⟩
      exact hfirst.of_misleads hmisleads

/-- A superscript two is heard, asks for nothing, and keeps the variable from being looked at. -/
theorem threshold_superscript :
    threshold (some (.text "²")) (some "error") = .error (.notDecimal "²") ∧
      threshold (some (.text "chatty")) (some "error") = .ok 40 := by
  decide +kernel

end LedgerQuery.Log
