import LedgerQuery.Calendar.DateTime
import LedgerQuery.Decimal.FloatText
import LedgerQuery.Failure
import LedgerQuery.Files.FileSystem
import LedgerQuery.Json.Read
import LedgerQuery.Log.Output
import LedgerQuery.Text.Basic
import LedgerQuery.Value.Basic

/-!
# The transaction database

Fields are read into records and records into transactions; everything that is wrong on the way is
found.
-/
namespace LedgerQuery.Database

/-! ## Findings

What is wrong with a transaction database, and where: the keys and positions that lead to the part
of the document at fault. -/

inductive LocationStep where
  | key (name : String)
  | position (index : Nat)
  deriving DecidableEq, Repr

abbrev Location := List LocationStep

inductive FindingKind where
  | dictionaryExpected
  | listExpected
  | recordExpected
  | missing
  | textExpected
  | floatExpected
  | floatUnreadable
  | integerExpected
  | integerUnreadable
  | integerTooLarge
  | integerWithFraction
  | numberNotFinite
  | dateExpected
  | dateUnreadable
  | dateNotMidnight
  | dateOutOfCalendar
  deriving DecidableEq, Repr

def FindingKind.name : FindingKind → String
  | .dictionaryExpected => "dict_type"
  | .listExpected => "list_type"
  | .recordExpected => "model_type"
  | .missing => "missing"
  | .textExpected => "string_type"
  | .floatExpected => "float_type"
  | .floatUnreadable => "float_parsing"
  | .integerExpected => "int_type"
  | .integerUnreadable => "int_parsing"
  | .integerTooLarge => "int_parsing_size"
  | .integerWithFraction => "int_from_float"
  | .numberNotFinite => "finite_number"
  | .dateExpected => "date_type"
  | .dateUnreadable => "date_from_datetime_parsing"
  | .dateNotMidnight => "date_from_datetime_inexact"
  | .dateOutOfCalendar => "date_parsing"

structure Finding where
  location : Location
  kind : FindingKind
  deriving DecidableEq, Repr

def Finding.under (step : LocationStep) (finding : Finding) : Finding :=
  { finding with location := step :: finding.location }

/-- A part of a document that has been read, or what is wrong with it. -/
abbrev Checked (α : Type) := Except (List Finding) α

def Checked.findings {α : Type} : Checked α → List Finding
  | .ok _ => []
  | .error found => found

def Checked.under {α : Type} (step : LocationStep) (part : Checked α) : Checked α :=
  part.mapError (·.map (.under step))

def Checked.all {α : Type} : List (Checked α) → Checked (List α)
  | [] => .ok []
  | part :: parts =>
    match part, Checked.all parts with
    | .ok value, .ok values => .ok (value :: values)
    | part, rest => .error (part.findings ++ rest.findings)

/-! ## Fields of a record

A field takes more than values of its own type: numbers can be given as text or as truth values,
dates as counts of seconds, and a number for a balance is taken as its text. -/

open Decimal Text

abbrev Reading (α : Type) := Except FindingKind α

def unpad (text : List Char) : List Char :=
  ((text.dropWhile isPadding).reverse.dropWhile isPadding).reverse

def hasDoubleUnderscore : List Char → Bool
  | '_' :: '_' :: _ => true
  | _ :: cs => hasDoubleUnderscore cs
  | [] => false

def withoutUnderscores? (text : List Char) : Option (List Char) :=
  if text.head? = some '_' || text.getLast? = some '_' || hasDoubleUnderscore text then none
  else some (text.filter (· ≠ '_'))

def readText : Json → Reading String
  | .string text => .ok text
  | _ => .error .textExpected

def floatOfText? (text : List Char) : Option Binary64 :=
  match floatOf? (unpad text) with
  | some x => some x
  | none => (withoutUnderscores? text).bind floatOf?

def readFloat : Json → Reading Float
  | .float x => .ok x
  | .int n =>
    match Binary64.ofInt? n with
    | some x => .ok x.toFloat
    | none => .error .floatExpected
  | .bool b => .ok (if b then 1.0 else 0.0)
  | .string text =>
    match floatOfText? text.toList with
    | some x => .ok x.toFloat
    | none => .error .floatUnreadable
  | _ => .error .floatExpected

def isPlainInteger (text : List Char) : Bool :=
  let ds := if text.head? = some '-' then text.drop 1 else text
  match ds with
  | [] => false
  | ['0'] => true
  | d :: ds => '1' ≤ d && d ≤ '9' && ds.all isAsciiDigit

def readPlainInteger (text : List Char) : Reading Int :=
  if !isPlainInteger text then .error .integerUnreadable
  else if digitLimit < text.length then .error .integerTooLarge
  else match text with
    | '-' :: ds => .ok (-(value ds : Int))
    | ds => .ok (value ds)

/-- A text after the zeros and underscores in front of its first other digit. One character is
kept before a point and at the end of the text. -/
def dropZeros? (last : Char) : List Char → Option (List Char)
  | [] => some [last]
  | c :: cs =>
    if c = '0' || c = '_' then dropZeros? c cs
    else if isAsciiDigit c then some (c :: cs)
    else if c = '.' then some (last :: c :: cs)
    else none

def withoutLeadingZeros? : List Char → Option (List Char)
  | [] => none
  | c :: cs =>
    if c = '0' then dropZeros? '0' cs
    else if isAsciiDigit c || c = '-' then some (c :: cs)
    else none

def withoutZeroFraction (text : List Char) : List Char :=
  let fraction := (text.dropWhile (· ≠ '.')).drop 1
  if text.contains '.' && fraction.all (· = '0') then text.takeWhile (· ≠ '.') else text

/-- The plain integer that a text with blanks, a plus sign, leading zeros, a fraction of zeros and
underscores comes down to. -/
def plainInteger? (text : List Char) : Option (List Char) := do
  let text := unpad text
  let text ← match text with
    | '+' :: '-' :: _ => none
    | '+' :: rest => some rest
    | _ => some text
  let text := withoutZeroFraction (← withoutLeadingZeros? text)
  some ((withoutUnderscores? text).getD text)

def readIntegerText (text : List Char) : Reading Int :=
  if isPlainInteger text then readPlainInteger text
  else match plainInteger? text with
    | some plain => readPlainInteger plain
    | none => .error .integerUnreadable

/-- The whole number that a double is, if it fits into 64 bits. -/
def readIntegerFloat : Binary64 → Reading Int
  | .finite negative mantissa exponent =>
    let (num, den) := Binary64.fraction mantissa exponent
    if num % den ≠ 0 then .error .integerWithFraction
    else if Nat.pow 2 63 ≤ num / den then .error .integerTooLarge
    else .ok (if negative then -((num / den : Nat) : Int) else (num / den : Nat))
  | _ => .error .numberNotFinite

def readInteger : Json → Reading Int
  | .int n => .ok n
  | .bool b => .ok (if b then 1 else 0)
  | .float x => readIntegerFloat (.ofFloat x)
  | .string text => readIntegerText text.toList
  | _ => .error .integerExpected

def dateFinding : DateTimeFault → FindingKind
  | .unreadable => .dateUnreadable
  | .notMidnight => .dateNotMidnight
  | .outOfCalendar => .dateOutOfCalendar

def readDate : Json → Reading Date
  | .string text => (DateTime.ofText text.toList).mapError dateFinding
  | .int n =>
    match DateTime.ofInt? n with
    | some date => date.mapError dateFinding
    | none => .error .dateExpected
  | .float x => (DateTime.ofDouble (.ofFloat x)).mapError dateFinding
  | _ => .error .dateExpected

/-- The text of a balance; a number is taken as its text. -/
def balanceText : Json → Json
  | .int n => .string (String.ofList (ofInt n))
  | .float x => .string (String.ofList (shortestText (.ofFloat x)))
  | value => value

def blankToNull : Json → Json
  | .string text => if isAllBlank text.toList then .null else .string text
  | value => value

def readOptional {α : Type} (read : Json → Reading α) : Json → Reading (Option α)
  | .null => .ok none
  | value => (read value).map some

/-! ## Records

A record of the database is an object with the fields of a transaction. Other fields are passed
over. All that is wrong with a record is found, in the order of its fields. -/

def required {α : Type} (fields : List (String × Json)) (name : String)
    (read : Json → Reading α) : Checked α :=
  match fields.lookup name with
  | none => .error [⟨[.key name], .missing⟩]
  | some value => (read value).mapError fun kind => [⟨[.key name], kind⟩]

def optional {α : Type} (fields : List (String × Json)) (name : String)
    (read : Json → Reading α) : Checked (Option α) :=
  match fields.lookup name with
  | none => .ok none
  | some value => (readOptional read value).mapError fun kind => [⟨[.key name], kind⟩]

def readTags (fields : List (String × Json)) : Checked (List String) :=
  match fields.lookup "tags" with
  | none => .ok []
  | some .null => .ok []
  | some (.array items) =>
    (Checked.all (items.zipIdx.map fun (item, i) =>
      Checked.under (.position i) ((readText item).mapError fun kind => [⟨[], kind⟩]))).under
        (.key "tags")
  | some _ => .error [⟨[.key "tags"], .listExpected⟩]

def readFields (fields : List (String × Json)) : Checked Transaction :=
  let hash := required fields "hash" readText
  let account := required fields "account" readText
  let date := required fields "date" readDate
  let amount := required fields "amount" readFloat
  let description := required fields "description" readText
  let checkNumber := optional fields "check_number" fun value =>
    readOptional readInteger (blankToNull value)
  let kind := optional fields "transaction_type" fun value =>
    readOptional readText (blankToNull value)
  let balance := optional fields "running_balance" fun value => readText (balanceText value)
  let postDate := optional fields "post_date" fun value =>
    readOptional readDate (blankToNull value)
  let tags := readTags fields
  match hash, account, date, amount, description, checkNumber, kind, balance, postDate, tags with
  | .ok hash, .ok account, .ok date, .ok amount, .ok description, .ok checkNumber, .ok kind,
    .ok runningBalance, .ok postDate, .ok tags =>
    .ok <| Transaction.withTags
      { hash, account, date, amount, description, checkNumber := checkNumber.join,
        kind := kind.join, runningBalance, postDate := postDate.join } tags
  | _, _, _, _, _, _, _, _, _, _ =>
    .error (hash.findings ++ account.findings ++ date.findings ++ amount.findings ++
      description.findings ++ checkNumber.findings ++ kind.findings ++ balance.findings ++
      postDate.findings ++ tags.findings)

def readRecord : Json → Checked Transaction
  | .object fields => readFields fields
  | _ => .error [⟨[], .recordExpected⟩]

def readAccount : Json → Checked (List Transaction)
  | .array records =>
    Checked.all (records.zipIdx.map fun (record, i) => (readRecord record).under (.position i))
  | _ => .error [⟨[], .listExpected⟩]

def readAccounts : Json → Checked (List (List Transaction))
  | .object accounts =>
    Checked.all (accounts.map fun (name, records) => (readAccount records).under (.key name))
  | _ => .error [⟨[], .dictionaryExpected⟩]

end LedgerQuery.Database

namespace LedgerQuery

/-! ## Loading the database

The transaction database is a JSON document: an object with the records of each account. It is
loaded as a whole or not at all. The message of records that are not valid names the file; the
sentences that tell of the single findings are left out, and what is found where is kept beside
it. -/

inductive StoreFault where
  | databaseMissing (path : Path)
  | databaseMalformed (path : Path) (cause : Json.Cause) (place : Json.Place)
  | invalidRecords (path : Path) (findings : List Database.Finding)
  | aliasesUnreadable (path : Path) (fault : ReadFault)
  deriving DecidableEq, Repr

def StoreFault.message : StoreFault → String
  | .databaseMissing path => "transaction database not found: " ++ path.text
  | .databaseMalformed path cause place =>
    "transaction database is not valid JSON: " ++ path.text ++ ": " ++
      Json.malformedMessage cause place
  | .invalidRecords path _ => "invalid transaction record in " ++ path.text
  | .aliasesUnreadable path fault =>
    "cannot read environment file " ++ path.text ++ ": " ++ fault.message

namespace Database

/-- Why a database is not loaded: a fault that is told to the user, a file that cannot be read, or
a number that is too long to be read. -/
inductive Failure where
  | refused (fault : StoreFault)
  | unreadable (fault : ReadFault)
  | numberTooLong (digitCount : Nat)
  deriving DecidableEq, Repr

def Failure.message : Failure → String
  | .refused fault => fault.message
  | .unreadable fault => fault.message
  | .numberTooLong digitCount => Decimal.tooManyDigitsMessage digitCount

def readDocument (path : Path) (content : Except FileFault Content) : Except Failure Json :=
  match textOf content with
  | .error (.file ⟨.missing, _⟩) => .error (.refused (.databaseMissing path))
  | .error fault => .error (.unreadable fault)
  | .ok chars =>
    match Json.read (Text.unifyNewlines chars) with
    | .ok document => .ok document
    | .error (.malformed cause place) => .error (.refused (.databaseMalformed path cause place))
    | .error (.numberTooLong digitCount) => .error (.numberTooLong digitCount)

def transactionsOf (path : Path) (document : Json) : Except Failure (List (List Transaction)) :=
  match readAccounts document with
  | .ok accounts => .ok accounts
  | .error findings => .error (.refused (.invalidRecords path findings))

def load (path : Path) (content : Except FileFault Content) :
    Except Failure (List Transaction × Log.Record) := do
  let accounts ← transactionsOf path (← readDocument path content)
  let transactions := accounts.flatten
  return (transactions, ⟨.store, .info,
    "Loaded " ++ toString transactions.length ++ " transactions from " ++
      toString accounts.length ++ " accounts"⟩)

end Database

end LedgerQuery
