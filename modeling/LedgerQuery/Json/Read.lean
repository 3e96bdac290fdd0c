import LedgerQuery.Decimal.Binary64
import LedgerQuery.Dictionary
import LedgerQuery.Text.Basic
import LedgerQuery.Text.Character

/-!
# JSON

The values of a document, what can be wrong with its text, and how the text is read.
-/
namespace LedgerQuery

/-! ## JSON values

A document is a value. Whole numbers and doubles are told apart by how they are written, and an
object keeps the order of its keys. Whether two values are the same is decided part by part. -/

inductive Json where
  | null
  | bool (b : Bool)
  | int (n : Int)
  | float (x : Float)
  | string (text : String)
  | array (items : List Json)
  | object (fields : List (String × Json))

namespace Json

def field? (value : Json) (key : String) : Option Json :=
  match value with
  | .object fields => Dictionary.get? fields key
  | _ => none

mutual

def same : Json → Json → Bool
  | .null, .null => true
  | .bool a, .bool b => a = b
  | .int a, .int b => a = b
  | .float a, .float b => a = b
  | .string a, .string b => a = b
  | .array items, .array others => sameItems items others
  | .object fields, .object others => sameFields fields others
  | _, _ => false

def sameItems : List Json → List Json → Bool
  | [], [] => true
  | item :: items, other :: others => same item other && sameItems items others
  | _, _ => false

def sameFields : List (String × Json) → List (String × Json) → Bool
  | [], [] => true
  | (key, value) :: fields, (otherKey, other) :: others =>
    key = otherKey && same value other && sameFields fields others
  | _, _ => false

end

mutual

theorem same_iff (a b : Json) : same a b = true ↔ a = b := by
  cases a with
  | array items =>
    cases b with
    | array others => simp [same, sameItems_iff items others]
    | _ => simp [same]
  | object fields =>
    cases b with
    | object others => simp [same, sameFields_iff fields others]
    | _ => simp [same]
  | _ => cases b <;> simp [same]

theorem sameItems_iff (items others : List Json) :
    sameItems items others = true ↔ items = others := by
  match items, others with
  | [], [] => simp [sameItems]
  | item :: items, other :: others =>
    simp [sameItems, same_iff item other, sameItems_iff items others]
  | [], _ :: _ => simp [sameItems]
  | _ :: _, [] => simp [sameItems]

theorem sameFields_iff (fields others : List (String × Json)) :
    sameFields fields others = true ↔ fields = others := by
  match fields, others with
  | [], [] => simp [sameFields]
  | (key, value) :: fields, (otherKey, other) :: others =>
    simp [sameFields, same_iff value other, sameFields_iff fields others]
  | [], _ :: _ => simp [sameFields]
  | _ :: _, [] => simp [sameFields]

end

instance : DecidableEq Json := fun a b => decidable_of_iff _ (same_iff a b)

end Json

end LedgerQuery

namespace LedgerQuery.Json

/-! ## What can be wrong with a JSON document

A malformed document has a cause and a position, which is told with its line and column. A whole
number with too many digits is not read. -/

inductive Cause where
  | valueExpected
  | extraData
  | nameExpected
  | colonExpected
  | commaExpected
  | unterminatedString
  | controlCharacter
  | badEscape
  | badCodePoint
  | byteOrderMark
  deriving DecidableEq, Repr

def Cause.message : Cause → String
  | .valueExpected => "Expecting value"
  | .extraData => "Extra data"
  | .nameExpected => "Expecting property name enclosed in double quotes"
  | .colonExpected => "Expecting ':' delimiter"
  | .commaExpected => "Expecting ',' delimiter"
  | .unterminatedString => "Unterminated string starting at"
  | .controlCharacter => "Invalid control character at"
  | .badEscape => "Invalid \\escape"
  | .badCodePoint => "Invalid \\uXXXX escape"
  | .byteOrderMark => "Unexpected UTF-8 BOM (decode using utf-8-sig)"

structure Place where
  position : Nat
  line : Nat
  column : Nat
  deriving DecidableEq, Repr

def Place.of (document : List Char) (position : Nat) : Place :=
  let before := document.take position
  ⟨position, before.count '\n' + 1, (before.reverse.takeWhile (· ≠ '\n')).length + 1⟩

inductive Fault where
  | malformed (cause : Cause) (place : Place)
  | numberTooLong (digitCount : Nat)
  deriving DecidableEq, Repr

def malformedMessage (cause : Cause) (place : Place) : String :=
  cause.message ++ ": line " ++ toString place.line ++ " column " ++ toString place.column ++
    " (char " ++ toString place.position ++ ")"

/-! ## Reading documents

Each reading function takes the rest of the document, and answers with a value and what is left.
Besides the numbers of JSON there are `NaN` and the two infinities. A key that comes again keeps
its first place and takes its last value. Functions that call one another pass on less fuel; twice
the length of the document is enough, since two calls read at least one character, and it is more
than a string within the document can need.

A text is a list of characters, and half of a surrogate pair is none. Where a document has such a
half by itself as an escape, the replacement character stands for it, so strings that differ in
nothing but their halves, keys among them, are one and the same here. -/

open Text

/-- Where reading stopped: `rest` is what is left of the document there. -/
inductive Stop where
  | malformed (cause : Cause) (rest : List Char)
  | numberTooLong (digitCount : Nat)

def isSpace (c : Char) : Bool :=
  c = ' ' || c = '\t' || c = '\n' || c = '\r'

def skipSpace (text : List Char) : List Char :=
  text.dropWhile isSpace

def hexValue? (c : Char) : Option Nat :=
  if '0' ≤ c && c ≤ '9' then some (c.toNat - 48)
  else if 'a' ≤ c && c ≤ 'f' then some (c.toNat - 87)
  else if 'A' ≤ c && c ≤ 'F' then some (c.toNat - 55)
  else none

/-- The number that four hexadecimal digits stand for, and what follows them; a string goes on
after them. -/
def readHex4? : List Char → Option (Nat × List Char)
  | a :: b :: c :: d :: rest => do
    if rest.isEmpty then none
    let high := (← hexValue? a) * 16 + (← hexValue? b)
    let low := (← hexValue? c) * 16 + (← hexValue? d)
    some (high * 256 + low, rest)
  | _ => none

/-- The character of a code point; half of a surrogate pair has none of its own. -/
def ofCodePoint (n : Nat) : Char :=
  if 0xD800 ≤ n && n ≤ 0xDFFF then '\uFFFD' else Char.ofNat n

def readCodePoint (text : List Char) : Except Stop (Char × List Char) :=
  match readHex4? (text.drop 1) with
  | none => .error (.malformed .badCodePoint text)
  | some (first, rest) =>
    if 0xD800 ≤ first && first ≤ 0xDBFF && !(rest.drop 6).isEmpty then
      match rest with
      | '\\' :: 'u' :: _ =>
        match readHex4? (rest.drop 2) with
        | none => .error (.malformed .badCodePoint (rest.drop 1))
        | some (second, after) =>
          if 0xDC00 ≤ second && second ≤ 0xDFFF then
            .ok (Char.ofNat (0x10000 + (first - 0xD800) * 1024 + (second - 0xDC00)), after)
          else .ok (ofCodePoint first, rest)
      | _ => .ok (ofCodePoint first, rest)
    else .ok (ofCodePoint first, rest)

def escaped? : Char → Option Char
  | '"' => some '"'
  | '\\' => some '\\'
  | '/' => some '/'
  | 'b' => some '\x08'
  | 'f' => some '\x0C'
  | 'n' => some '\n'
  | 'r' => some '\r'
  | 't' => some '\t'
  | _ => none

/-- The characters of a string up to its closing quote; `start` is the document from its opening
quote on, and `found` what has been read, the last character first. -/
def readChars (start : List Char) :
    (fuel : Nat) → (found text : List Char) → Except Stop (String × List Char)
  | 0, _, _ => .error (.malformed .unterminatedString start)
  | _ + 1, _, [] => .error (.malformed .unterminatedString start)
  | _ + 1, found, '"' :: rest => .ok (String.ofList found.reverse, rest)
  | _ + 1, _, ['\\'] => .error (.malformed .unterminatedString start)
  | fuel + 1, found, '\\' :: 'u' :: rest =>
    match readCodePoint ('u' :: rest) with
    | .error stop => .error stop
    | .ok (c, rest) => readChars start fuel (c :: found) rest
  | fuel + 1, found, '\\' :: c :: rest =>
    match escaped? c with
    | none => .error (.malformed .badEscape ('\\' :: c :: rest))
    | some e => readChars start fuel (e :: found) rest
  | fuel + 1, found, c :: rest =>
    if c.toNat ≤ 0x1F then .error (.malformed .controlCharacter (c :: rest))
    else readChars start fuel (c :: found) rest

def readString (fuel : Nat) (text : List Char) : Except Stop (String × List Char) :=
  readChars text fuel [] (text.drop 1)

def readFraction (text : List Char) : Option (List Char × List Char) :=
  match text with
  | '.' :: rest =>
    if rest.head?.any isAsciiDigit then
      some (rest.takeWhile isAsciiDigit, rest.dropWhile isAsciiDigit)
    else none
  | _ => none

def readSign : List Char → Bool × List Char
  | '-' :: rest => (true, rest)
  | '+' :: rest => (false, rest)
  | rest => (false, rest)

def readExponent (text : List Char) : Option (Int × List Char) :=
  match text with
  | c :: rest =>
    if c = 'e' || c = 'E' then
      let (negative, rest) := readSign rest
      let ds := rest.takeWhile isAsciiDigit
      if ds.isEmpty then none
      else
        let size : Int := Decimal.value ds
        some (if negative then -size else size, rest.dropWhile isAsciiDigit)
    else none
  | [] => none

/-- The digits of the whole part of a number: a zero by itself, or digits that begin with none. -/
def splitWhole : List Char → List Char × List Char
  | '0' :: rest => (['0'], rest)
  | text => (text.takeWhile isAsciiDigit, text.dropWhile isAsciiDigit)

def readNumber (text : List Char) : Except Stop (Json × List Char) :=
  let negative := text.head? = some '-'
  let (whole, rest) := splitWhole (if negative then text.drop 1 else text)
  if whole.isEmpty then .error (.malformed .valueExpected text)
  else
    let fraction? := readFraction rest
    let (fraction, rest) := fraction?.getD ([], rest)
    let exponent? := readExponent rest
    let (exponent, rest) := exponent?.getD (0, rest)
    if fraction?.isNone && exponent?.isNone then
      if Decimal.digitLimit < whole.length then .error (.numberTooLong whole.length)
      else
        let size : Int := Decimal.value whole
        .ok (.int (if negative then -size else size), rest)
    else
      let value := Decimal.Binary64.ofDecimal negative (Decimal.value (whole ++ fraction))
        (exponent - fraction.length)
      .ok (.float value.toFloat, rest)

def words : List (List Char × Json) :=
  [("null".toList, .null), ("true".toList, .bool true), ("false".toList, .bool false),
   ("NaN".toList, .float Decimal.Binary64.nan.toFloat),
   ("Infinity".toList, .float (Decimal.Binary64.infinite false).toFloat),
   ("-Infinity".toList, .float (Decimal.Binary64.infinite true).toFloat)]

def readWord (text : List Char) : Except Stop (Json × List Char) :=
  match words.findSome? fun (word, value) => (dropHead? word text).map (value, ·) with
  | some found => .ok found
  | none => readNumber text

mutual

def readValue : (fuel : Nat) → (text : List Char) → Except Stop (Json × List Char)
  | 0, text => .error (.malformed .valueExpected text)
  | fuel + 1, text =>
    match text with
    | '"' :: _ => (readString fuel text).map fun (value, rest) => (.string value, rest)
    | '\x7b' :: inside =>
      match skipSpace inside with
      | '\x7d' :: rest => .ok (.object [], rest)
      | rest => readFields fuel [] rest
    | '[' :: inside =>
      match skipSpace inside with
      | ']' :: rest => .ok (.array [], rest)
      | rest => readItems fuel [] rest
    | _ => readWord text

/-- The items of an array from the next one on; those read before are `found`, the last one
first. -/
def readItems : (fuel : Nat) → (found : List Json) → (text : List Char) →
    Except Stop (Json × List Char)
  | 0, _, text => .error (.malformed .valueExpected text)
  | fuel + 1, found, text => do
    let (item, rest) ← readValue fuel text
    match skipSpace rest with
    | ']' :: rest => .ok (.array (item :: found).reverse, rest)
    | ',' :: rest => readItems fuel (item :: found) (skipSpace rest)
    | rest => .error (.malformed .commaExpected rest)

def readFields : (fuel : Nat) → (found : Dictionary Json) → (text : List Char) →
    Except Stop (Json × List Char)
  | 0, _, text => .error (.malformed .nameExpected text)
  | fuel + 1, found, text =>
    if text.head? ≠ some '"' then .error (.malformed .nameExpected text)
    else do
      let (name, rest) ← readString fuel text
      match skipSpace rest with
      | ':' :: rest =>
        let (value, rest) ← readValue fuel (skipSpace rest)
        let found := found.put name value
        match skipSpace rest with
        | '\x7d' :: rest => .ok (.object found, rest)
        | ',' :: rest => readFields fuel found (skipSpace rest)
        | rest => .error (.malformed .commaExpected rest)
      | rest => .error (.malformed .colonExpected rest)

end

def readDocument (text : List Char) : Except Stop Json :=
  if text.head? = some '\uFEFF' then .error (.malformed .byteOrderMark text)
  else do
    let (value, rest) ← readValue (2 * text.length + 2) (skipSpace text)
    if skipSpace rest = [] then .ok value
    else .error (.malformed .extraData (skipSpace rest))

def read (text : List Char) : Except Fault Json :=
  match readDocument text with
  | .ok value => .ok value
  | .error (.malformed cause rest) =>
    .error (.malformed cause (.of text (text.length - rest.length)))
  | .error (.numberTooLong digitCount) => .error (.numberTooLong digitCount)

end LedgerQuery.Json
