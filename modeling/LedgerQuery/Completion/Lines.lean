import LedgerQuery.Dictionary
import LedgerQuery.Text.Basic
import LedgerQuery.Text.Case

/-!
# Completion

What a text that is being typed can become.
-/
namespace LedgerQuery.Completion

/-! ## Ranking words

Of a vocabulary, the words that hold what has been typed: first those that begin with it, then the
others, each block in alphabetical order. Letters of different case are alike. -/

open Text

def folded (word : String) : List Char :=
  lower word.toList

def notAfter (a b : String) : Bool :=
  !decide (folded b < folded a)

def sorted (words : List String) : List String :=
  (distinct words).mergeSort notAfter

def beginsWith (typed : List Char) (word : String) : Bool :=
  (dropHead? (lower typed) (folded word)).isSome

def holds (typed : List Char) (word : String) : Bool :=
  occurs (lower typed) (folded word)

def rank (typed : List Char) (words : List String) : List String :=
  let all := sorted words
  all.filter (beginsWith typed) ++
    all.filter fun word => holds typed word && !beginsWith typed word

/-! ## The word being typed

A text that is being typed ends in a partial word. Within an open bracket the partial word is all
that follows the bracket, since tags may have blanks in them; else it begins after the last blank or
the last separator, whichever comes later. A line feed that ends the text counts as part of it. -/

structure Partial where
  head : List Char
  typed : List Char
  inTag : Bool
  deriving DecidableEq, Repr

/-- The number of characters up to and with the last separator. -/
def boundary (separator text : List Char) : Nat :=
  match lastIndex? separator text with
  | some i => i + separator.length
  | none => 0

/-- The number of characters before the last ones that are not blank, a line feed at the end being
passed over. -/
def lastWordStart (text : List Char) : Nat :=
  let text := if text.getLast? = some '\n' then text.dropLast else text
  text.length - (text.reverse.takeWhile (!isBlank ·)).length

/-- The place of the bracket that is open at the end of a text, if it is after the last
separator. -/
def openBracket? (separator text : List Char) : Option Nat :=
  match lastIndex? ['['] text with
  | none => none
  | some opened =>
    let closed := lastIndex? [']'] text
    if boundary separator text ≤ opened && closed.all (· < opened) then some opened else none

def splitPartial (separator text : List Char) : Partial :=
  match openBracket? separator text with
  | some opened => ⟨text.take (opened + 1), text.drop (opened + 1), true⟩
  | none =>
    let start := max (lastWordStart text) (boundary separator text)
    ⟨text.take start, text.drop start, false⟩

/-! ## Completed lines

A text can become the text with its partial word replaced by a command, an alias or a tag. Two
spaces at the end ask for a separator, and a blank text for every word. -/

structure Vocabulary where
  keywords : List String
  aliases : List String
  tags : List String

def Vocabulary.commands (vocabulary : Vocabulary) : List String :=
  vocabulary.keywords ++ vocabulary.aliases

def endsInTwoSpaces (text : List Char) : Bool :=
  match text.reverse with
  | ' ' :: ' ' :: _ => true
  | _ => false

def lines (vocabulary : Vocabulary) (separator text : String) : List String :=
  let chars := text.toList
  if isAllBlank chars then rank [] vocabulary.commands
  else if endsInTwoSpaces chars then
    [String.ofList (trimEnd chars) ++ " " ++ separator ++ " "]
  else
    let split := splitPartial separator.toList chars
    let head := String.ofList split.head
    if split.inTag then
      (rank (trimStart split.typed) vocabulary.tags).map fun tag => head ++ tag ++ "]"
    else (rank split.typed vocabulary.commands).map (head ++ ·)

/-- A completion for the prompt: the new line, how many characters before the cursor it replaces,
and what is shown of it. -/
structure Suggestion where
  line : String
  replaced : Nat
  shown : String
  deriving DecidableEq, Repr

def shownPart (head line : List Char) : List Char :=
  (dropHead? head line).getD (trim line)

def suggestions (vocabulary : Vocabulary) (separator text : String) : List Suggestion :=
  let head := (splitPartial separator.toList text.toList).head
  (lines vocabulary separator text).map fun line =>
    ⟨line, text.toList.length, String.ofList (shownPart head line.toList)⟩

end LedgerQuery.Completion
