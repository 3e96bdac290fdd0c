/-!
# Texts

A text is a list of characters. It is trimmed, cut into words and into lines, searched for other
texts, and read from octets.
-/
namespace LedgerQuery.Text

/-! ## Blank characters, trimming and words

Blank characters are the white space of Unicode together with the four information separators of
ASCII. Trimming removes them at the ends; the words of a text are what stands between them. -/

/-- White space, and the separators from U+001C to U+001F. -/
def isBlank (c : Char) : Bool :=
  let n := c.toNat
  (9 ≤ n && n ≤ 13) || (28 ≤ n && n ≤ 32) || n == 0x85 || n == 0xA0 || n == 0x1680 ||
  (0x2000 ≤ n && n ≤ 0x200A) || n == 0x2028 || n == 0x2029 || n == 0x202F || n == 0x205F ||
  n == 0x3000

def trimStart (text : List Char) : List Char :=
  text.dropWhile isBlank

def trimEnd (text : List Char) : List Char :=
  (text.reverse.dropWhile isBlank).reverse

def trim (text : List Char) : List Char :=
  trimEnd (trimStart text)

def isAllBlank (text : List Char) : Bool :=
  text.all isBlank

def splitAt (separates : Char → Bool) : List Char → List (List Char)
  | [] => [[]]
  | c :: cs =>
    if separates c then [] :: splitAt separates cs
    else match splitAt separates cs with
      | [] => [[c]]
      | piece :: pieces => (c :: piece) :: pieces

def words (text : List Char) : List (List Char) :=
  (splitAt isBlank text).filter (!·.isEmpty)

def joinWith (separator : List Char) : List (List Char) → List Char
  | [] => []
  | [piece] => piece
  | piece :: pieces => piece ++ separator ++ joinWith separator pieces

def normalizeBlanks (text : List Char) : List Char :=
  joinWith [' '] (words text)

/-! ## Lines

Reading a file as text turns each of the three line ends into a line feed. Splitting a text into
lines knows more ends: vertical tab, form feed, the information separators, next line and the two
Unicode separators. -/

/-- Carriage return, alone or before a line feed, becomes a line feed. -/
def unifyNewlines : List Char → List Char
  | [] => []
  | '\r' :: '\n' :: cs => '\n' :: unifyNewlines cs
  | '\r' :: cs => '\n' :: unifyNewlines cs
  | c :: cs => c :: unifyNewlines cs

def isLineEnd (c : Char) : Bool :=
  let n := c.toNat
  (10 ≤ n && n ≤ 13) || (28 ≤ n && n ≤ 30) || n == 0x85 || n == 0x2028 || n == 0x2029

/-- The lines of a text without their ends; a carriage return and a line feed are one end. -/
def lines : List Char → List (List Char)
  | [] => []
  | '\r' :: '\n' :: cs => [] :: lines cs
  | c :: cs =>
    if isLineEnd c then [] :: lines cs
    else match lines cs with
      | [] => [[c]]
      | line :: rest => (c :: line) :: rest

/-! ## Finding a text inside another

Each search answers with the two parts of the text around the place it looks for, so that the
parts make up the text again. -/

def dropHead? : (head text : List Char) → Option (List Char)
  | [], text => some text
  | _ :: _, [] => none
  | h :: hs, c :: cs => if h = c then dropHead? hs cs else none

/-- The text before the first occurrence of `mark`, and the text from there on. -/
def breakOn (mark : List Char) : List Char → List Char × List Char
  | [] => ([], [])
  | c :: cs =>
    if (dropHead? mark (c :: cs)).isSome then ([], c :: cs)
    else let (before, after) := breakOn mark cs; (c :: before, after)

def occurs (mark : List Char) : List Char → Bool
  | [] => mark.isEmpty
  | c :: cs => (dropHead? mark (c :: cs)).isSome || occurs mark cs

def lastIndex? (mark : List Char) : List Char → Option Nat
  | [] => if mark.isEmpty then some 0 else none
  | c :: cs =>
    match lastIndex? mark cs with
    | some i => some (i + 1)
    | none => if (dropHead? mark (c :: cs)).isSome then some 0 else none

theorem dropHead?_eq_some_iff {head text rest : List Char} :
    dropHead? head text = some rest ↔ text = head ++ rest := by
  induction head generalizing text with
  | nil => simp [dropHead?, eq_comm]
  | cons h hs ih =>
    cases text with
    | nil => simp [dropHead?]
    | cons c cs =>
      by_cases hc : h = c
      · subst hc; simp [dropHead?, ih]
      · simp only [dropHead?, hc, if_false, List.cons_append, List.cons.injEq]
        constructor
        · simp
        · rintro ⟨rfl, -⟩; exact absurd rfl hc

@[simp] theorem dropHead?_append (head rest : List Char) :
    dropHead? head (head ++ rest) = some rest :=
  dropHead?_eq_some_iff.2 rfl

theorem breakOn_append (mark text : List Char) :
    (breakOn mark text).1 ++ (breakOn mark text).2 = text := by
  induction text with
  | nil => rfl
  | cons c cs ih =>
    unfold breakOn
    split
    · rfl
    · simpa using ih

end LedgerQuery.Text

namespace LedgerQuery.Text.Utf8

/-! ## UTF-8

Octets as texts. Decoding stops at the first octets that no text has; the fault says where they are
and what is wrong with them. -/

inductive Reason where
  | invalidStart
  | invalidContinuation
  | unexpectedEnd
  deriving DecidableEq, Repr

/-- The octets from `start`, `count` of them, encode no text; the first is `octet`. -/
structure Fault where
  octet : UInt8
  start : Nat
  count : Nat
  reason : Reason
  deriving DecidableEq, Repr

def Reason.message : Reason → String
  | .invalidStart => "invalid start byte"
  | .invalidContinuation => "invalid continuation byte"
  | .unexpectedEnd => "unexpected end of data"

def isContinuation (b : UInt8) : Bool :=
  0x80 ≤ b && b < 0xC0

def isSecond (first second : UInt8) : Bool :=
  isContinuation second &&
    (first != 0xE0 || 0xA0 ≤ second) && (first != 0xED || second < 0xA0) &&
    (first != 0xF0 || 0x90 ≤ second) && (first != 0xF4 || second < 0x90)

def lengthOf? (first : UInt8) : Option Nat :=
  if first < 0x80 then some 1
  else if first < 0xC2 then none
  else if first < 0xE0 then some 2
  else if first < 0xF0 then some 3
  else if first < 0xF5 then some 4
  else none

def low6 (b : UInt8) : Nat :=
  b.toNat % 64

/-- The first character of the octets and the octets after it, or the number of octets at fault
and why. -/
def decodeChar : List UInt8 → Except (Nat × Reason) (Char × List UInt8)
  | [] => .error (0, .unexpectedEnd)
  | a :: rest =>
    match lengthOf? a with
    | none => .error (1, .invalidStart)
    | some 1 => .ok (Char.ofNat a.toNat, rest)
    | some 2 =>
      match rest with
      | [] => .error (1, .unexpectedEnd)
      | b :: rest =>
        if isContinuation b then .ok (Char.ofNat (a.toNat % 32 * 64 + low6 b), rest)
        else .error (1, .invalidContinuation)
    | some 3 =>
      match rest with
      | [] => .error (1, .unexpectedEnd)
      | b :: rest =>
        if !isSecond a b then .error (1, .invalidContinuation) else
        match rest with
        | [] => .error (2, .unexpectedEnd)
        | c :: rest =>
          if isContinuation c then
            .ok (Char.ofNat ((a.toNat % 16 * 64 + low6 b) * 64 + low6 c), rest)
          else .error (2, .invalidContinuation)
    | some _ =>
      match rest with
      | [] => .error (1, .unexpectedEnd)
      | b :: rest =>
        if !isSecond a b then .error (1, .invalidContinuation) else
        match rest with
        | [] => .error (2, .unexpectedEnd)
        | c :: rest =>
          if !isContinuation c then .error (2, .invalidContinuation) else
          match rest with
          | [] => .error (3, .unexpectedEnd)
          | d :: rest =>
            if isContinuation d then
              .ok (Char.ofNat (((a.toNat % 8 * 64 + low6 b) * 64 + low6 c) * 64 + low6 d), rest)
            else .error (3, .invalidContinuation)

theorem decodeChar_length {octets rest : List UInt8} {c : Char}
    (h : decodeChar octets = .ok (c, rest)) : rest.length < octets.length := by
  unfold decodeChar at h
  repeat' split at h
  all_goals simp_all
  all_goals omega

def decodeFrom (start : Nat) (octets : List UInt8) : Except Fault (List Char) :=
  match octets with
  | [] => .ok []
  | first :: tail =>
    match _h : decodeChar (first :: tail) with
    | .error (count, reason) => .error ⟨first, start, count, reason⟩
    | .ok (c, rest) =>
      (decodeFrom (start + ((first :: tail).length - rest.length)) rest).map (c :: ·)
termination_by octets.length
decreasing_by exact decodeChar_length ‹_›

def decode (octets : List UInt8) : Except Fault (List Char) :=
  decodeFrom 0 octets

end LedgerQuery.Text.Utf8
