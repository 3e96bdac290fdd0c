import LedgerQuery.Decimal.Binary64
import LedgerQuery.Text.Basic
import LedgerQuery.Text.Case
import LedgerQuery.Text.Quoted

/-!
# The log

Records, the threshold that they have to reach, and the lines that they are written as.
-/
namespace LedgerQuery.Log

/-! ## Log records

The parts of the program report what they do as records, each with a source, a level and a
message. A record is shown if its level is at least that of the log. -/

inductive Source where
  | interpreter
  | store
  | session
  | commandLine
  | named (name : String)
  deriving DecidableEq, Repr

def Source.name : Source → String
  | .interpreter => "buffet.interpreter"
  | .store => "buffet.store"
  | .session => "buffet.repl"
  | .commandLine => "buffet.cli"
  | .named name => name

inductive Level where
  | debug
  | info
  | warning
  | error
  | critical
  deriving DecidableEq, Repr

def Level.number : Level → Int
  | .debug => 10
  | .info => 20
  | .warning => 30
  | .error => 40
  | .critical => 50

def Level.name : Level → String
  | .debug => "DEBUG"
  | .info => "INFO"
  | .warning => "WARNING"
  | .error => "ERROR"
  | .critical => "CRITICAL"

structure Record where
  source : Source
  level : Level
  message : String
  deriving DecidableEq, Repr

def shown (threshold : Int) (records : List Record) : List Record :=
  records.filter fun record => threshold ≤ record.level.number

/-! ## Thresholds

The level from which on records are shown, as it is asked for: a number, a number as text, or the
name of a level in letters of either case. A text that is none of these is passed over. -/

open Text

def levelNames : List (String × Int) :=
  [("CRITICAL", 50), ("FATAL", 50), ("ERROR", 40), ("WARN", 30), ("WARNING", 30), ("INFO", 20),
   ("DEBUG", 10), ("NOTSET", 0)]

inductive Request where
  | number (n : Int)
  | text (name : String)
  deriving DecidableEq, Repr

inductive ThresholdFault where
  | notDecimal (text : String)
  | tooManyDigits (count : Nat)
  deriving DecidableEq, Repr

/-- A text that is no number is told by the first 200 characters of its quoted form. -/
def ThresholdFault.message : ThresholdFault → String
  | .notDecimal text =>
    "invalid literal for int() with base 10: " ++ String.ofList ((quoted text.toList).take 200)
  | .tooManyDigits count => Decimal.tooManyDigitsMessage count

def bareName (text : String) : List Char :=
  upper (trim text.toList)

/-- The number of a run of digit signs. The decimal digits in front are counted before the others
are looked at. -/
def readSigns (signs : List Char) : Except ThresholdFault Int :=
  let digits := signs.takeWhile isDigit
  if Decimal.digitLimit < digits.length then .error (.tooManyDigits digits.length)
  else if digits.length < signs.length then .error (.notDecimal (String.ofList signs))
  else .ok (Decimal.value digits)

/-- What a text asks for, if it asks for anything. A text of digit signs must be a number. -/
def readThreshold (text : String) : Except ThresholdFault (Option Int) :=
  let name := bareName text
  if name = [] then .ok none
  else if name.all isDigitSign then (readSigns name).map some
  else .ok (levelNames.lookup (String.ofList name))

def firstThreshold : List String → Except ThresholdFault Int
  | [] => .ok Level.info.number
  | text :: others => do
    match ← readThreshold text with
    | some n => return n
    | none => firstThreshold others

def threshold (request : Option Request) (variableText : Option String) :
    Except ThresholdFault Int :=
  match request with
  | some (.number n) => .ok n
  | some (.text name) => firstThreshold (name :: variableText.toList)
  | none => firstThreshold variableText.toList

def thresholdVariable : String := "BUFFET_LOG_LEVEL"

/-! ## Log output

A log is silent until it is configured with a threshold and the form of its lines. Only the first
configuration counts. A threshold of zero leaves the decision to the level of warnings. -/

inductive FormatPart where
  | text (piece : List Char)
  | source
  | levelName
  | levelNumber
  | message
  deriving DecidableEq, Repr

def placeholders : List (List Char × FormatPart) :=
  [("%(name)s".toList, .source), ("%(levelname)s".toList, .levelName),
   ("%(levelno)s".toList, .levelNumber), ("%(levelno)d".toList, .levelNumber),
   ("%(message)s".toList, .message), ("%%".toList, .text ['%'])]

def splitPlaceholder? (text : List Char) : Option (FormatPart × List Char) :=
  placeholders.findSome? fun (mark, part) => (dropHead? mark text).map (part, ·)

def readFormat : (fuel : Nat) → List Char → List FormatPart
  | 0, _ => []
  | _ + 1, [] => []
  | fuel + 1, c :: cs =>
    match splitPlaceholder? (c :: cs) with
    | some (part, rest) => part :: readFormat fuel rest
    | none => .text [c] :: readFormat fuel cs

def format (text : String) : List FormatPart :=
  readFormat text.toList.length text.toList

def standardFormat : List FormatPart :=
  format "%(name)s %(levelname)s %(message)s"

def FormatPart.show (record : Record) : FormatPart → List Char
  | .text piece => piece
  | .source => record.source.name.toList
  | .levelName => record.level.name.toList
  | .levelNumber => Decimal.ofInt record.level.number
  | .message => record.message.toList

def line (form : List FormatPart) (record : Record) : String :=
  String.ofList (form.flatMap (FormatPart.show record) ++ ['\n'])

structure Output where
  configured : Option (Int × List FormatPart) := none
  deriving DecidableEq, Repr

namespace Output

/-- The log with a configuration, unless it has one. -/
def configure (output : Output) (threshold : Int) (form : List FormatPart) : Output :=
  match output.configured with
  | some _ => output
  | none => ⟨some (threshold, form)⟩

def effective (threshold : Int) : Int :=
  if threshold = 0 then Level.warning.number else threshold

def written (output : Output) (records : List Record) : String :=
  match output.configured with
  | none => ""
  | some (threshold, form) =>
    "".intercalate ((shown (effective threshold) records).map (line form))

end Output

end LedgerQuery.Log
