import LedgerQuery.Decimal.Binary64
import LedgerQuery.Failure
import LedgerQuery.Settings.Load
import LedgerQuery.Text.Basic
import LedgerQuery.Text.Quoted

/-!
# The display

Lines with their styles, the lines that amounts, transactions and values are shown on, and how
lines are written to a console.
-/
namespace LedgerQuery.Display

/-! ## Styled texts

A line of characters with a style for the whole line and styles for stretches of it. It is put
together from pieces; control characters that would move the cursor are dropped from each piece. -/

inductive Style where
  | red
  | green
  | yellow
  | blue
  | cyan
  | magenta
  deriving DecidableEq, Repr

def Style.name : Style → String
  | .red => "red"
  | .green => "green"
  | .yellow => "yellow"
  | .blue => "blue"
  | .cyan => "cyan"
  | .magenta => "magenta"

structure Span where
  start : Nat
  stop : Nat
  style : Style
  deriving DecidableEq, Repr

structure StyledText where
  plain : List Char := []
  style : Option Style := none
  spans : List Span := []
  deriving DecidableEq, Repr

def isDropped (c : Char) : Bool :=
  let n := c.toNat
  n = 7 || n = 8 || n = 11 || n = 12 || n = 13

def clean (piece : List Char) : List Char :=
  piece.filter (!isDropped ·)

/-- The span of a style over a stretch; a stretch without characters has none. -/
def spanOver (start length : Nat) (style : Option Style) : List Span :=
  match style with
  | some style => if length = 0 then [] else [⟨start, start + length, style⟩]
  | none => []

namespace StyledText

def ofPiece (piece : List Char) (style : Option Style) : StyledText :=
  { plain := clean piece, style }

def push (text : StyledText) (piece : List Char) (style : Option Style) : StyledText :=
  let added := clean piece
  { text with
    plain := text.plain ++ added
    spans := text.spans ++ spanOver text.plain.length added.length style }

/-- The line with another at its end, whose style becomes a span. -/
def append (text other : StyledText) : StyledText :=
  let offset := text.plain.length
  { text with
    plain := text.plain ++ other.plain
    spans := text.spans ++ spanOver offset other.plain.length other.style ++
      other.spans.map fun span => ⟨span.start + offset, span.stop + offset, span.style⟩ }

end StyledText

/-! ## Numbers

Money is rounded to two decimals and shown with a dollar sign and commas, red below zero and green
above it. A whole number is shown as it is, as long as it is not too long. -/

open Decimal

/-- The colour of an amount: none for zero and for what is no number. -/
def signStyle (x : Binary64) : Option Style :=
  if x.isNegative then some .red else if x.isPositive then some .green else none

def money (amount : Binary64) : StyledText :=
  let rounded := roundToCents amount
  if rounded.isNegative then .ofPiece ('-' :: '$' :: groupedSize rounded) (some .red)
  else if rounded.isPositive then .ofPiece ('$' :: groupedSize rounded) (some .green)
  else .ofPiece ['$', '0', '.', '0', '0'] none

def wholeNumber (n : Int) : Except Failure StyledText :=
  let text := ofInt n
  if digitLimit < (digits n.natAbs).length then .error (.breakdown .numberTooLongToWrite)
  else .ok (.ofPiece text none)

def number : Number → Except Failure StyledText
  | .int n => wholeNumber n
  | .float x => .ok (money (.ofFloat x))

/-! ## Lines of transactions

A transaction is shown on one line: amount, date, description and account, each of the last two cut
or padded to its width, and the tags in brackets, primary tags first. -/

def dropLast (count : Nat) (text : List Char) : List Char :=
  text.take (text.length - count)

/-- A text cut or padded to a width; a width below zero takes that many characters off the end. -/
def cutOrPad (text : List Char) (width : Int) : List Char :=
  if (text.length : Int) < width then text ++ List.replicate (width.toNat - text.length) ' '
  else if width < 0 then dropLast width.natAbs text
  else text.take width.toNat

def orderedTags (primaryTags tags : List String) : List String :=
  tags.filter (primaryTags.contains ·) ++ tags.filter (!primaryTags.contains ·)

def tagStyle (primaryTags : List String) (tag : String) : Style :=
  if primaryTags.contains tag then .blue else .cyan

/-- A tag in brackets at the end of a line, after a space unless it is the first. -/
def pushTag (primaryTags : List String) (line : StyledText) (tag : String) : StyledText :=
  let line := if line.plain.isEmpty then line else line.push [' '] none
  line.push ('[' :: tag.toList ++ [']']) (some (tagStyle primaryTags tag))

def tags (settings : Settings) (tags : List String) : StyledText :=
  (orderedTags settings.primaryTags tags).foldl (pushTag settings.primaryTags) {}

def transaction (settings : Settings) (t : Transaction) : StyledText :=
  let amount := Decimal.Binary64.ofFloat t.amount
  let description := cutOrPad t.description.toList settings.descriptionWidth
  let account := cutOrPad (settings.accountName t.account).toList settings.accountWidth
  let line := StyledText.push {} (Decimal.twoPlaces amount) (signStyle amount)
  let line := line.push ['\t'] none
  let line := line.push t.date.isoText (some .yellow)
  let line := line.push (' ' :: description ++ ' ' :: account ++ [' ']) none
  line.append (tags settings t.tags)

/-! ## Values as lines

A value is shown on lines of its own, with its structure on the last one. -/

def label (key : GroupKey) : StyledText :=
  .ofPiece key.text (some .yellow)

def transactionGroup (settings : Settings) (group : GroupKey × List Transaction) :
    List StyledText :=
  label group.1 :: group.2.map (transaction settings) ++ [.ofPiece [] none]

def numberGroup (group : GroupKey × Number) : Except Failure StyledText := do
  let shown ← number group.2
  return ((StyledText.append {} (label group.1)).push ['\t'] none).append shown

def content (settings : Settings) : Value → Except Failure (List StyledText)
  | .number n => (number n).map ([·])
  | .transactions items => .ok (items.map (transaction settings))
  | .groupedTransactions groups => .ok (groups.flatMap (transactionGroup settings))
  | .groupedNumbers groups => groups.mapM numberGroup
  | .empty => .ok [.ofPiece ['[', ']'] none]
  | value => value.mismatch "print"

def lines (settings : Settings) (value : Value) : Except Failure (List StyledText) := do
  let above ← content settings value
  let descriptor ← value.descriptor
  return above ++ [.ofPiece descriptor.text.toList (some .magenta)]

/-! ## The console

What is written to a console of some number of columns, as plain text. A tab goes to the next
multiple of eight columns. Lines of values are never broken; messages are broken between words, and
within a word only if it is wider than the console. -/

open Text

def tabStop : Nat := 8

def expandTabs (column : Nat) : List Char → List Char
  | [] => []
  | '\t' :: cs =>
    let next := (column / tabStop + 1) * tabStop
    List.replicate (next - column) ' ' ++ expandTabs next cs
  | c :: cs => c :: expandTabs (column + charWidth c) cs

def trimBeyond (columns : Nat) (line : List Char) : List Char :=
  let blanks := line.length - (trimEnd line).length
  line.take (line.length - min blanks (line.length - columns))

def expandedLines (text : List Char) : List (List Char) :=
  (splitAt (· = '\n') text).map (expandTabs 0)

def written (lines : List (List Char)) : List Char :=
  lines.flatMap (· ++ ['\n'])

/-- The words of a line, each with the blanks after it, the first also with those before it. -/
def wordsWithBlanks : (fuel : Nat) → List Char → List (List Char)
  | 0, _ => []
  | fuel + 1, line =>
    let blanks := line.takeWhile isBlank
    let rest := line.dropWhile isBlank
    if rest = [] then []
    else
      let word := rest.takeWhile (!isBlank ·)
      let rest := rest.dropWhile (!isBlank ·)
      (blanks ++ word ++ rest.takeWhile isBlank) :: wordsWithBlanks fuel (rest.dropWhile isBlank)

def splitFitting (room : Nat) : List Char → List Char × List Char
  | [] => ([], [])
  | c :: cs =>
    if charWidth c ≤ room then
      let (fitting, rest) := splitFitting (room - charWidth c) cs
      (c :: fitting, rest)
    else ([], c :: cs)

def cutWord (columns : Nat) : (fuel : Nat) → List Char → List (List Char)
  | 0, word => [word]
  | fuel + 1, word =>
    match splitFitting columns word with
    | ([], _) => [word]
    | (piece, []) => [piece]
    | (piece, rest) => piece :: cutWord columns fuel rest

/-- The lines that words are set on: the finished ones, and the one that is being filled. -/
structure Setting where
  finished : List (List Char) := []
  current : List Char := []

namespace Setting

def newLine (setting : Setting) : Setting :=
  if setting.current.isEmpty then setting
  else ⟨setting.finished ++ [setting.current], []⟩

def addWord (columns : Nat) (setting : Setting) (word : List Char) : Setting :=
  let needed := width (trimEnd word)
  if width setting.current + needed ≤ columns then
    { setting with current := setting.current ++ word }
  else
    let setting := setting.newLine
    if columns < needed then
      let pieces := cutWord columns word.length word
      ⟨setting.finished ++ pieces.dropLast, pieces.getLastD []⟩
    else { setting with current := word }

def lines (setting : Setting) : List (List Char) :=
  setting.finished ++ [setting.current]

end Setting

/-- A line broken between its words. A line without words stays as it is. -/
def wrapLine (columns : Nat) (line : List Char) : List (List Char) :=
  let words := wordsWithBlanks line.length line
  if words.isEmpty then [line]
  else (words.foldl (Setting.addWord columns) {}).lines

/-- A line cut to the columns; half a wide character is shown as a space. -/
def cutToColumns (columns : Nat) (line : List Char) : List Char :=
  if width line ≤ columns then line
  else
    let kept := (splitFitting columns line).1
    kept ++ List.replicate (columns - width kept) ' '

def message (columns : Nat) (text : StyledText) : String :=
  let lines := (expandedLines text.plain).flatMap (wrapLine columns)
  String.ofList (written (lines.map fun line => cutToColumns columns (trimBeyond columns line)))

def value (settings : Settings) (value : Value) : Except Failure String :=
  (lines settings value).map fun shown =>
    String.ofList (shown.flatMap fun line => written (expandedLines line.plain))

end LedgerQuery.Display
