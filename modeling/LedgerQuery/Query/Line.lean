import LedgerQuery.Pattern.Read
import LedgerQuery.Query.Syntax
import LedgerQuery.Text.Basic

/-!
# Reading lines

Functions that read the parts of a line one after another, and the reading of a whole line.
-/
namespace LedgerQuery.Query

/-! ## Parts of a line

Each reading function takes the rest of the line, and answers with what it has read and what is
left. A fault is placed by what is left, so a text read after another gives the same fault as by
itself. No function makes the rest longer, and a command, a separator and a tag each make it
shorter, so reading ends. -/

open Text

/-- Where reading stopped: `rest` is what is left of the line there. -/
inductive Stop where
  | malformed (cause : Cause) (rest : List Char)
  | countTooLong (digitCount : Nat)
  | badPattern (fault : Pattern.Fault)
  deriving DecidableEq

/-- The pattern of a search: what stands before the next separator, without blanks at its ends. -/
def readPattern (mark text : List Char) : Except Stop (Argument × List Char) :=
  let pattern := trim (breakOn mark text).1
  if pattern = [] then .error (.malformed .searchWithoutPattern text)
  else match Pattern.read pattern with
    | .ok _ => .ok (.pattern (String.ofList pattern), (breakOn mark text).2)
    | .error (.malformed cause place) =>
      .error (.malformed (.badPattern (String.ofList pattern) cause place) text)
    | .error fault => .error (.badPattern fault)

def startsMatcher : List Char → Bool
  | '!' :: _ => true
  | '[' :: _ => true
  | _ => false

/-- The name in brackets that begins the text; a bracket inside is a tag left open. -/
def readBracketed (text : List Char) : Except Stop (String × List Char) :=
  match text with
  | '[' :: inside =>
    match inside.dropWhile (· ≠ ']') with
    | [] => .error (.malformed .unterminatedTag text)
    | _ :: rest =>
      let name := normalizeBlanks (inside.takeWhile (· ≠ ']'))
      if name = [] then .error (.malformed .emptyTag text)
      else if name.contains '[' then .error (.malformed .unterminatedTag text)
      else .ok (String.ofList name, rest)
  | _ => .error (.malformed .bracketExpected text)

def readMatcher : List Char → Except Stop (TagMatcher × List Char)
  | '!' :: text => (readBracketed text).map fun (name, rest) => (⟨name, true⟩, rest)
  | text => (readBracketed text).map fun (name, rest) => (⟨name, false⟩, rest)

theorem length_trimStart_le (text : List Char) : (trimStart text).length ≤ text.length :=
  (List.dropWhile_sublist isBlank).length_le

theorem length_readBracketed {text rest : List Char} {name : String}
    (h : readBracketed text = .ok (name, rest)) : rest.length < text.length := by
  unfold readBracketed at h
  split at h
  · rename_i inside
    split at h
    · simp at h
    · rename_i c after hd
      have hle := (List.dropWhile_sublist (· ≠ ']') (l := inside)).length_le
      rw [hd] at hle
      simp only at h
      split at h
      · simp at h
      · split at h
        · simp at h
        · simp only [Except.ok.injEq, Prod.mk.injEq] at h
          obtain ⟨-, rfl⟩ := h
          simp only [List.length_cons] at hle ⊢
          omega
  · simp at h

theorem length_readMatcher {text rest : List Char} {matcher : TagMatcher}
    (h : readMatcher text = .ok (matcher, rest)) : rest.length < text.length := by
  have key : ∀ (t : List Char) (n : Bool),
      (readBracketed t).map (fun (p : String × List Char) => ((⟨p.1, n⟩ : TagMatcher), p.2)) =
        .ok (matcher, rest) → rest.length < t.length := by
    intro t n ht
    cases hb : readBracketed t with
    | error stop => rw [hb] at ht; exact absurd ht (by simp [Except.map])
    | ok found =>
      obtain ⟨name, after⟩ := found
      rw [hb] at ht
      simp only [Except.map, Except.ok.injEq, Prod.mk.injEq] at ht
      rw [← ht.2]
      exact length_readBracketed hb
  unfold readMatcher at h
  split at h
  · exact Nat.lt_succ_of_lt (key _ _ h)
  · exact key _ _ h

def readMatchers (text : List Char) : Except Stop (List TagMatcher × List Char) :=
  if startsMatcher (trimStart text) then
    match h : readMatcher (trimStart text) with
    | .error stop => .error stop
    | .ok (matcher, rest) =>
      have : rest.length < text.length :=
        Nat.lt_of_lt_of_le (length_readMatcher h) (length_trimStart_le text)
      (readMatchers rest).map fun (matchers, rest) => (matcher :: matchers, rest)
  else .ok ([], trimStart text)
termination_by text.length

def readCount (text : List Char) : Except Stop (Argument × List Char) :=
  let text := trimStart text
  let ds := text.takeWhile isDigit
  if ds = [] then .error (.malformed .lastWithoutCount text)
  else if Decimal.digitLimit < ds.length then .error (.countTooLong ds.length)
  else .ok (.count (Decimal.value ds), text.dropWhile isDigit)

def readTags (text : List Char) : Except Stop (Argument × List Char) :=
  if startsMatcher (trimStart text) then
    (readMatchers text).map fun (matchers, rest) => (.tags matchers, rest)
  else .error (.malformed .tagsWithoutTag (trimStart text))

/-- The keyword that a text begins with, and what follows it. `last` may stand directly before its
count, but not before a letter or an underscore. -/
def splitKeyword (text : List Char) : List Char × List Char :=
  match dropHead? ['l', 'a', 's', 't'] text with
  | some rest =>
    if rest.head?.any isKeywordStart then (text.takeWhile isWord, text.dropWhile isWord)
    else (['l', 'a', 's', 't'], rest)
  | none => (text.takeWhile isWord, text.dropWhile isWord)

def readArgument (mark : List Char) (keyword : String) (text : List Char) :
    Except Stop (Argument × List Char) :=
  if keyword = "search" then readPattern mark text
  else if keyword = "tags" then readTags text
  else if keyword = "last" then readCount text
  else .ok (.none, text)

def readCommandHere (mark text : List Char) : Except Stop (Command × List Char) :=
  match text with
  | [] => .error (.malformed .commandExpected text)
  | c :: cs =>
    if c = '!' ∨ c = '[' then
      (readMatchers text).map fun (matchers, rest) => (⟨"tags", .tags matchers⟩, rest)
    else if c = '/' then
      (readPattern mark cs).map fun (argument, rest) => (⟨"search", argument⟩, rest)
    else if isKeywordStart c then
      let keyword := String.ofList (splitKeyword text).1
      (readArgument mark keyword (splitKeyword text).2).map fun (argument, rest) =>
        (⟨keyword, argument⟩, rest)
    else .error (.malformed (.unexpectedCharacter c) text)

def readCommand (mark text : List Char) : Except Stop (Command × List Char) :=
  let text := trimStart text
  if (dropHead? mark text).isSome then .error (.malformed .commandExpected text)
  else readCommandHere mark text

/-! ## Whole lines

A whole line: commands with the separator between them, with the name of an alias and a colon in
front if the line defines one. A fault is answered with its position in the line. -/

theorem eq_ok_of_map_eq_ok {ε α β : Type} {f : α → β} {x : Except ε α} {b : β}
    (h : x.map f = .ok b) : ∃ a, x = .ok a ∧ f a = b := by
  cases x with
  | error e => simp [Except.map] at h
  | ok a => exact ⟨a, rfl, by simpa [Except.map] using h⟩

theorem length_breakOn_snd_le (mark text : List Char) :
    (breakOn mark text).2.length ≤ text.length := by
  have h := congrArg List.length (breakOn_append mark text)
  simp only [List.length_append] at h
  omega

theorem length_readPattern_le {mark text rest : List Char} {argument : Argument}
    (h : readPattern mark text = .ok (argument, rest)) : rest.length ≤ text.length := by
  unfold readPattern at h
  simp only at h
  split at h
  · simp at h
  · split at h
    · simp only [Except.ok.injEq, Prod.mk.injEq] at h
      rw [← h.2]
      exact length_breakOn_snd_le mark text
    · simp at h
    · simp at h

theorem length_readMatchers_le {text rest : List Char} {matchers : List TagMatcher}
    (h : readMatchers text = .ok (matchers, rest)) : rest.length ≤ text.length := by
  induction text using readMatchers.induct generalizing matchers rest with
  | case1 text hs stop he =>
    rw [readMatchers, if_pos hs] at h
    split at h
    · simp at h
    · rename_i ho
      rw [he] at ho
      simp at ho
  | case2 text hs matcher after ho hlt ih =>
    rw [readMatchers, if_pos hs] at h
    split at h
    · simp at h
    · rename_i matcher' after' ho'
      rw [ho] at ho'
      simp only [Except.ok.injEq, Prod.mk.injEq] at ho'
      obtain ⟨rfl, rfl⟩ := ho'
      obtain ⟨⟨more, left⟩, hm, hp⟩ := eq_ok_of_map_eq_ok h
      simp only [Prod.mk.injEq] at hp
      obtain ⟨-, rfl⟩ := hp
      exact Nat.le_of_lt (Nat.lt_of_le_of_lt (ih hm) hlt)
  | case3 text hs =>
    rw [readMatchers, if_neg hs] at h
    simp only [Except.ok.injEq, Prod.mk.injEq] at h
    rw [← h.2]
    exact length_trimStart_le text

theorem length_readCount_le {text rest : List Char} {argument : Argument}
    (h : readCount text = .ok (argument, rest)) : rest.length ≤ text.length := by
  unfold readCount at h
  simp only at h
  split at h
  · simp at h
  · split at h
    · simp at h
    · simp only [Except.ok.injEq, Prod.mk.injEq] at h
      rw [← h.2]
      exact Nat.le_trans (List.dropWhile_sublist _).length_le (length_trimStart_le text)

theorem length_readTags_le {text rest : List Char} {argument : Argument}
    (h : readTags text = .ok (argument, rest)) : rest.length ≤ text.length := by
  unfold readTags at h
  split at h
  · obtain ⟨⟨matchers, left⟩, hm, hp⟩ := eq_ok_of_map_eq_ok h
    simp only [Prod.mk.injEq] at hp
    rw [← hp.2]
    exact length_readMatchers_le hm
  · simp at h

theorem length_readArgument_le {mark text rest : List Char} {keyword : String}
    {argument : Argument} (h : readArgument mark keyword text = .ok (argument, rest)) :
    rest.length ≤ text.length := by
  unfold readArgument at h
  split at h
  · exact length_readPattern_le h
  · split at h
    · exact length_readTags_le h
    · split at h
      · exact length_readCount_le h
      · simp only [Except.ok.injEq, Prod.mk.injEq] at h
        exact h.2 ▸ Nat.le_refl _

theorem length_splitKeyword_snd_le (text : List Char) :
    (splitKeyword text).2.length ≤ text.length := by
  unfold splitKeyword
  split
  · rename_i rest hd
    split
    · exact (List.dropWhile_sublist _).length_le
    · simp only [dropHead?_eq_some_iff.1 hd, List.length_append]
      omega
  · exact (List.dropWhile_sublist _).length_le

theorem length_readCommandHere_le {mark text rest : List Char} {command : Command}
    (h : readCommandHere mark text = .ok (command, rest)) : rest.length ≤ text.length := by
  unfold readCommandHere at h
  split at h
  · simp at h
  · rename_i c cs
    split at h
    · obtain ⟨⟨matchers, left⟩, hm, hp⟩ := eq_ok_of_map_eq_ok h
      simp only [Prod.mk.injEq] at hp
      rw [← hp.2]
      exact length_readMatchers_le hm
    · split at h
      · obtain ⟨⟨argument, left⟩, hm, hp⟩ := eq_ok_of_map_eq_ok h
        simp only [Prod.mk.injEq] at hp
        rw [← hp.2]
        exact Nat.le_succ_of_le (length_readPattern_le hm)
      · split at h
        · obtain ⟨⟨argument, left⟩, hm, hp⟩ := eq_ok_of_map_eq_ok h
          simp only [Prod.mk.injEq] at hp
          rw [← hp.2]
          exact Nat.le_trans (length_readArgument_le hm) (length_splitKeyword_snd_le _)
        · simp at h

theorem length_readCommand_le {mark text rest : List Char} {command : Command}
    (h : readCommand mark text = .ok (command, rest)) : rest.length ≤ text.length := by
  unfold readCommand at h
  simp only at h
  split at h
  · simp at h
  · exact Nat.le_trans (length_readCommandHere_le h) (length_trimStart_le text)

theorem length_dropHead?_lt {mark text rest : List Char} (hmark : mark ≠ [])
    (h : dropHead? mark text = some rest) : rest.length < text.length := by
  rw [dropHead?_eq_some_iff.1 h, List.length_append]
  have := List.length_pos_iff.2 hmark
  omega

def readCommands (separator : Separator) (text : List Char) : Except Stop (List Command) :=
  match hc : readCommand separator.mark text with
  | .error stop => .error stop
  | .ok (command, rest) =>
    if trimStart rest = [] then .ok [command]
    else match hd : dropHead? separator.mark (trimStart rest) with
      | none =>
        .error (.malformed (.separatorExpected (String.ofList separator.mark)) (trimStart rest))
      | some next =>
        have : next.length < text.length :=
          Nat.lt_of_lt_of_le (length_dropHead?_lt separator.mark_ne_nil hd)
            (Nat.le_trans (length_trimStart_le rest) (length_readCommand_le hc))
        (readCommands separator next).map (command :: ·)
termination_by text.length

def readPipeline (separator : Separator) (text : List Char) : Except Stop Pipeline :=
  (readCommands separator text).map fun commands => ⟨commands, String.ofList (trim text)⟩

/-- The alias name before the colon that a definition begins with, and the text after the colon. -/
def splitAliasName (text : List Char) : Option (List Char × List Char) :=
  match trimStart text with
  | [] => none
  | c :: cs =>
    if isCapital c then
      match cs.dropWhile isWord with
      | ':' :: rest => some (c :: cs.takeWhile isWord, rest)
      | _ => none
    else none

def withoutLineEnds (text : List Char) : List Char :=
  (text.reverse.dropWhile fun c => c = '\r' || c = '\n').reverse

def readWhole (separator : Separator) (text : List Char) : Except Stop Line :=
  match splitAliasName text with
  | some (name, rest) =>
    (readPipeline separator rest).map fun body =>
      .aliasDef ⟨String.ofList name, body, String.ofList text⟩
  | none => (readPipeline separator text).map .pipeline

def Stop.fault (text : List Char) : Stop → Fault
  | .malformed cause rest => .malformed cause (text.length - rest.length)
  | .countTooLong digitCount => .countTooLong digitCount
  | .badPattern fault => .badPattern fault

def readLine (separator : Separator) (line : String) : Except Fault Line :=
  let text := withoutLineEnds line.toList
  (readWhole separator text).mapError (Stop.fault text)

end LedgerQuery.Query
