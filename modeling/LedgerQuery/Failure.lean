import LedgerQuery.Query.Syntax
import LedgerQuery.Value.Basic

/-!
# Failures

A line can fail in two ways. A refusal is told to the user, and the session goes on. A breakdown
is a condition that no command provides for; it ends the session.

Resources are not bounded in this model. Where calls, groups of a pattern or values of a document
are nested very deep, a machine can run out of its stack; that is none of the failures here, and no
statement about what a line, a pattern or a document comes to speaks of it.
-/
namespace LedgerQuery

/-- A failure that is told to the user. -/
inductive Refusal where
  | malformed (cause : Query.Cause) (position : Nat)
  | typeMismatch (operation : String) (actual : Descriptor)
  | unknownCommand (keyword : String)
  | alreadyDefined (name : String)
  | noTransactions (operation : String)
  | aliasRecursion (name : String)
  | notAnAlias
  deriving DecidableEq, Repr

/-- A failure that ends the session. -/
inductive Breakdown where
  | countTooLong (digitCount : Nat)
  | pattern (fault : Pattern.Fault)
  | negativeCount
  | numberTooLongToWrite
  | numberTooLargeForFloat
  | noGroups
  | divisionByZero
  | mixedKeys (left right : KeyKind)
  | mixedGroups (kinds : List String)
  | booleanNumber
  | monthOutOfRange (month : Int)
  | blankSeparator
  | notALine (kind : String)
  | wrongArgument (keyword : String)
  deriving DecidableEq, Repr

inductive Failure where
  | refusal (cause : Refusal)
  | breakdown (cause : Breakdown)
  deriving DecidableEq, Repr

def Pattern.Fault.message : Pattern.Fault → String
  | .malformed cause place => malformedMessage cause place
  | .repetitionTooLarge => "the repetition number is too large"
  | .numberTooLong digitCount => Decimal.tooManyDigitsMessage digitCount
  | .codePointTooLarge => "Python int too large to convert to C int"
  | .excludedModes => "ASCII and UNICODE flags are incompatible"

def Refusal.message : Refusal → String
  | .malformed cause position => Query.malformedMessage cause position
  | .typeMismatch operation actual =>
    "\x60" ++ operation ++ "\x60: unexpected type " ++ actual.text
  | .unknownCommand keyword => "unknown command: " ++ keyword
  | .alreadyDefined name => "alias already defined: " ++ name
  | .noTransactions operation => "\x60" ++ operation ++ "\x60: division by zero (no transactions)"
  | .aliasRecursion name => "alias refers to itself: " ++ name
  | .notAnAlias => "not an alias definition"

def Breakdown.message : Breakdown → String
  | .countTooLong digitCount => Decimal.tooManyDigitsMessage digitCount
  | .pattern fault => fault.message
  | .negativeCount => "\x60last\x60 count must be non-negative"
  | .numberTooLongToWrite =>
    "Exceeds the limit (4300 digits) for integer string conversion; " ++
      "use sys.set_int_max_str_digits() to increase the limit"
  | .numberTooLargeForFloat => "int too large to convert to float"
  | .noGroups => "tuple index out of range"
  | .divisionByZero => "division by zero"
  | .mixedKeys left right =>
    "'<' not supported between instances of '" ++ left.name ++ "' and '" ++ right.name ++ "'"
  | .mixedGroups kinds =>
    "GroupedList values must be all TransactionList or all Number, got " ++ quoteList kinds
  | .booleanNumber => "Number requires an int or float, got bool"
  | .monthOutOfRange month => "month must be within 1..12, got " ++ toString month
  | .blankSeparator => "separator must be a non-blank string"
  | .notALine kind => "cannot evaluate " ++ kind
  | .wrongArgument keyword => "wrong argument for " ++ keyword

def Failure.message : Failure → String
  | .refusal cause => cause.message
  | .breakdown cause => cause.message

def Failure.ofQueryFault : Query.Fault → Failure
  | .malformed cause position => .refusal (.malformed cause position)
  | .countTooLong digitCount => .breakdown (.countTooLong digitCount)
  | .badPattern fault => .breakdown (.pattern fault)

def Separator.ofText (text : String) : Except Failure Separator :=
  match Separator.of? text with
  | some separator => .ok separator
  | none => .error (.breakdown .blankSeparator)

def Value.descriptor (value : Value) : Except Failure Descriptor :=
  match value.descriptor? with
  | some descriptor => .ok descriptor
  | none => .error (.breakdown .noGroups)

def Value.mismatch {α : Type} (operation : String) (value : Value) : Except Failure α :=
  match value.descriptor? with
  | some actual => .error (.refusal (.typeMismatch operation actual))
  | none => .error (.breakdown .noGroups)

end LedgerQuery
