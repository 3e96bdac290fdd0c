import LedgerQuery.Pattern.Expr
import LedgerQuery.Text.Basic

/-!
# Lines of the language

The syntax of a line, the separator of its commands, and what can be wrong with it.
-/
namespace LedgerQuery

/-! ## Separators

The text between two commands of a pipeline. It is not blank, and blank characters at its ends do
not belong to it. -/

structure Separator where
  mark : List Char
  mark_ne_nil : mark ≠ []
  deriving DecidableEq

namespace Separator

def of? (text : String) : Option Separator :=
  if h : Text.trim text.toList ≠ [] then some ⟨Text.trim text.toList, h⟩ else none

def standardText : String := "»"

end Separator

/-! ## Queries

A line is a pipeline of commands or the definition of an alias, a name for a pipeline. A command is
a keyword, with an argument for the keywords that take one. -/

structure TagMatcher where
  name : String
  negated : Bool := false
  deriving DecidableEq, Repr

inductive Argument where
  | none
  | pattern (text : String)
  | count (n : Int)
  | tags (matchers : List TagMatcher)
  deriving DecidableEq, Repr

structure Command where
  keyword : String
  argument : Argument := .none
  deriving DecidableEq, Repr

/-- Commands in order, and the text that they were read from. -/
structure Pipeline where
  commands : List Command
  source : String
  deriving DecidableEq, Repr

/-- A name for a pipeline, and the line that defined it. -/
structure AliasDef where
  name : String
  body : Pipeline
  raw : String
  deriving DecidableEq, Repr

inductive Line where
  | aliasDef (definition : AliasDef)
  | pipeline (body : Pipeline)
  deriving DecidableEq, Repr

end LedgerQuery

namespace LedgerQuery.Query

/-! ## What can be wrong with a line

A malformed line has a cause and a position, the number of characters before the place where
reading stopped. Two faults have no position: a count with too many digits, and a search pattern
that cannot be held at all. -/

inductive Cause where
  | separatorExpected (separator : String)
  | commandExpected
  | unexpectedCharacter (c : Char)
  | tagsWithoutTag
  | lastWithoutCount
  | searchWithoutPattern
  | badPattern (pattern : String) (cause : Pattern.Cause) (place : Option Pattern.Place)
  | bracketExpected
  | unterminatedTag
  | emptyTag
  deriving DecidableEq, Repr

def Cause.message : Cause → String
  | .separatorExpected separator => "expected " ++ quote separator ++ " or end of line"
  | .commandExpected => "expected a command"
  | .unexpectedCharacter c => "unexpected character " ++ quote c.toString
  | .tagsWithoutTag => "\x60tags\x60 requires at least one [tag]"
  | .lastWithoutCount => "\x60last\x60 requires a count"
  | .searchWithoutPattern => "search requires a pattern"
  | .badPattern pattern cause place =>
    "invalid search pattern " ++ quote pattern ++ ": " ++ Pattern.malformedMessage cause place
  | .bracketExpected => "expected '[' after '!'"
  | .unterminatedTag => "unterminated tag, missing ']'"
  | .emptyTag => "empty tag name"

inductive Fault where
  | malformed (cause : Cause) (position : Nat)
  | countTooLong (digitCount : Nat)
  | badPattern (fault : Pattern.Fault)
  deriving DecidableEq, Repr

def malformedMessage (cause : Cause) (position : Nat) : String :=
  cause.message ++ " (at column " ++ toString (position + 1) ++ ")"

end LedgerQuery.Query
