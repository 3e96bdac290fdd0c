import LedgerQuery.Decimal.Binary64
import LedgerQuery.Text.Basic
import LedgerQuery.Text.Case
import LedgerQuery.Text.Character
import LedgerQuery.Text.Quoted

/-!
# Search patterns

A pattern as it has been read, down to the tests on one character, what can be wrong with it, and
where it is found in a text.
-/
namespace LedgerQuery.Pattern

/-! ## What can be wrong with a search pattern

A malformed pattern has a cause and, but for faults found after reading, a position. Two faults
are about numbers that are too large to be read at all, one about modes that exclude each other. -/

inductive Cause where
  | trailingBackslash
  | badEscape (escape : String)
  | incompleteEscape (escape : String)
  | octalOutOfRange (escape : String)
  | missingBrace
  | missingName (what : String)
  | unterminatedName (terminator : Char)
  | undefinedCharacterName (name : String)
  | badGroupName (name : String)
  | unknownGroupName (name : String)
  | redefinedGroupName (name : String) (group previous : Nat)
  | openGroup
  | groupInLookbehind
  | invalidGroupReference (group : Nat)
  | badGroupNumber
  | unterminatedSet
  | badRange (low high : String)
  | nothingToRepeat
  | multipleRepeat
  | minAboveMax
  | unexpectedEnd
  | unknownExtension (extension : String)
  | unterminatedComment
  | unterminatedGroup
  | unbalancedParenthesis
  | thirdBranch
  | lateGlobalFlags
  | localeFlag
  | incompatibleFlags
  | globalFlagOn
  | globalFlagOff
  | typeFlagOff
  | flagOnAndOff
  | unknownFlag
  | missingFlag
  | missingFlagEnd
  | missingColon
  | variableLookbehind
  | distantLookbehind
  | repeatInTemplate (operator : String)
  deriving DecidableEq, Repr

def Cause.message : Cause → String
  | .trailingBackslash => "bad escape (end of pattern)"
  | .badEscape escape => "bad escape " ++ escape
  | .incompleteEscape escape => "incomplete escape " ++ escape
  | .octalOutOfRange escape => "octal escape value " ++ escape ++ " outside of range 0-0o377"
  | .missingBrace => "missing \x7b"
  | .missingName what => "missing " ++ what
  | .unterminatedName terminator => "missing " ++ terminator.toString ++ ", unterminated name"
  | .undefinedCharacterName name => "undefined character name " ++ quote name
  | .badGroupName name => "bad character in group name " ++ quote name
  | .unknownGroupName name => "unknown group name " ++ quote name
  | .redefinedGroupName name group previous =>
    "redefinition of group name " ++ quote name ++ " as group " ++ toString group ++
      "; was group " ++ toString previous
  | .openGroup => "cannot refer to an open group"
  | .groupInLookbehind => "cannot refer to group defined in the same lookbehind subpattern"
  | .invalidGroupReference group => "invalid group reference " ++ toString group
  | .badGroupNumber => "bad group number"
  | .unterminatedSet => "unterminated character set"
  | .badRange low high => "bad character range " ++ low ++ "-" ++ high
  | .nothingToRepeat => "nothing to repeat"
  | .multipleRepeat => "multiple repeat"
  | .minAboveMax => "min repeat greater than max repeat"
  | .unexpectedEnd => "unexpected end of pattern"
  | .unknownExtension extension => "unknown extension ?" ++ extension
  | .unterminatedComment => "missing ), unterminated comment"
  | .unterminatedGroup => "missing ), unterminated subpattern"
  | .unbalancedParenthesis => "unbalanced parenthesis"
  | .thirdBranch => "conditional backref with more than two branches"
  | .lateGlobalFlags => "global flags not at the start of the expression"
  | .localeFlag => "bad inline flags: cannot use 'L' flag with a str pattern"
  | .incompatibleFlags => "bad inline flags: flags 'a', 'u' and 'L' are incompatible"
  | .globalFlagOn => "bad inline flags: cannot turn on global flag"
  | .globalFlagOff => "bad inline flags: cannot turn off global flag"
  | .typeFlagOff => "bad inline flags: cannot turn off flags 'a', 'u' and 'L'"
  | .flagOnAndOff => "bad inline flags: flag turned on and off"
  | .unknownFlag => "unknown flag"
  | .missingFlag => "missing flag"
  | .missingFlagEnd => "missing -, : or )"
  | .missingColon => "missing :"
  | .variableLookbehind => "look-behind requires fixed-width pattern"
  | .distantLookbehind => "looks too much behind"
  | .repeatInTemplate operator => "internal: unsupported template operator " ++ operator

/-- Where in a pattern a fault lies: the number of characters before it, and the line and column
if the pattern has several lines. -/
structure Place where
  position : Nat
  lineColumn : Option (Nat × Nat)
  deriving DecidableEq, Repr

def Place.of (pattern : List Char) (position : Nat) : Place :=
  let before := pattern.take position
  let line := before.count '\n' + 1
  let column := (before.reverse.takeWhile (· != '\n')).length + 1
  ⟨position, if pattern.contains '\n' then some (line, column) else none⟩

def Place.message (place : Place) : String :=
  " at position " ++ toString place.position ++
    match place.lineColumn with
    | none => ""
    | some (line, column) => " (line " ++ toString line ++ ", column " ++ toString column ++ ")"

inductive Fault where
  | malformed (cause : Cause) (place : Option Place)
  | repetitionTooLarge
  | numberTooLong (digitCount : Nat)
  | codePointTooLarge
  | excludedModes
  deriving DecidableEq, Repr

def malformedMessage (cause : Cause) (place : Option Place) : String :=
  cause.message ++ (place.map Place.message).getD ""

/-! ## Tests on one character

A pattern step that reads one character is a literal, the dot or a set. Where case is ignored, a
character is compared by its small letter and by the small letters that share its capital. A set
none of whose members has a case is tested as it stands.

Code points are numbers here, since an escape may name one that no text holds. -/

open Text

inductive Category where
  | digit
  | blank
  | word
  deriving DecidableEq, Repr

inductive SetItem where
  | code (n : Nat)
  | range (first last : Nat)
  | category (kind : Category) (negated : Bool)
  deriving DecidableEq, Repr

inductive CaseRule where
  | exact
  | ascii
  | unicode
  deriving DecidableEq, Repr

inductive CharTest where
  | any (withNewline : Bool)
  | literal (negated : Bool) (code : Nat) (rule : CaseRule)
  | set (negated : Bool) (items : List SetItem) (rule : CaseRule) (asciiClasses : Bool)
  deriving DecidableEq, Repr

/-- The character is in the class; the ASCII classes leave out all other characters. -/
def Category.has (kind : Category) (asciiOnly : Bool) (c : Char) : Bool :=
  match kind, asciiOnly with
  | .digit, false => isDigit c
  | .digit, true => isAsciiDigit c
  | .blank, false => isBlank c
  | .blank, true => (9 ≤ c.toNat && c.toNat ≤ 13) || c.toNat == 32
  | .word, false => isWord c
  | .word, true => isAsciiWord c

def lowerAscii (c : Char) : Char :=
  if 'A' ≤ c && c ≤ 'Z' then Char.ofNat (c.toNat + 32) else c

def lastBasic : Nat := 0xFFFF

def CaseRule.lower : CaseRule → Char → Char
  | .exact, c => c
  | .ascii, c => lowerAscii c
  | .unicode, c => lowerChar c

def CaseRule.hasCase : CaseRule → Char → Bool
  | .exact, _ => false
  | .ascii, c => isAsciiLetter c
  | .unicode, c => Text.hasCase c

/-- The characters that a set member equal to some of them admits, once their small letter is
`small`. -/
def CaseRule.variants : CaseRule → Char → List Char
  | .exact, small => [small]
  | .ascii, small =>
    if 'a' ≤ small && small ≤ 'z' then [small, Char.ofNat (small.toNat - 32)] else [small]
  | .unicode, small => caseVariants small

def hasLetterWithin (first last : Nat) : Bool :=
  (first ≤ 90 && 65 ≤ last) || (first ≤ 122 && 97 ≤ last)

def CaseRule.hasCaseWithin : CaseRule → (first last : Nat) → Bool
  | .exact, _, _ => false
  | .ascii, first, last => hasLetterWithin first last
  | .unicode, first, last =>
    hasLetterWithin first last ||
      lowerRuns.any (·.meets first last) || upperRuns.any (·.meets first last)

/-- The member makes a set compare small letters. Members outside the basic plane always do. -/
def SetItem.foldsCase (rule : CaseRule) : SetItem → Bool
  | .code n => rule ≠ .exact && (lastBasic < n || rule.hasCase (Char.ofNat n))
  | .range first last => rule ≠ .exact && (lastBasic < last || rule.hasCaseWithin first last)
  | .category _ _ => false

def SetItem.hasExact (asciiClasses : Bool) (c : Char) : SetItem → Bool
  | .code n => c.toNat = n
  | .range first last => first ≤ c.toNat && c.toNat ≤ last
  | .category kind negated => kind.has asciiClasses c != negated

/-- The member holds a variant of the small letter. Outside the basic plane a single code point
is compared with the small letter itself, and a range with it and its capital. -/
def SetItem.hasFolded (rule : CaseRule) (asciiClasses : Bool) (small : Char) : SetItem → Bool
  | .code n =>
    if lastBasic < n then small.toNat = n
    else (rule.variants small).any fun c => c.toNat = n
  | .range first last =>
    ((rule.variants small).any fun c =>
      first ≤ c.toNat && c.toNat ≤ last && c.toNat ≤ lastBasic) ||
    (lastBasic < last &&
      ((first ≤ small.toNat && small.toNat ≤ last) ||
       (first ≤ (upperChar small).toNat && (upperChar small).toNat ≤ last)))
  | .category kind negated => kind.has asciiClasses small != negated

def literalMatches (code : Nat) (rule : CaseRule) (c : Char) : Bool :=
  let literal := Char.ofNat code
  if rule = .exact || literal.toNat ≠ code || !rule.hasCase literal then c.toNat = code
  else
    let small := rule.lower literal
    rule.lower c == small || (rule = .unicode && (caseSiblings small).contains (rule.lower c))

/-- The test for a set; the rule matters only if some member makes the set compare small letters. -/
def CharTest.ofSet (negated : Bool) (items : List SetItem) (rule : CaseRule)
    (asciiClasses : Bool) : CharTest :=
  .set negated items (if items.any (·.foldsCase rule) then rule else .exact) asciiClasses

def CharTest.admits (c : Char) : CharTest → Bool
  | .any withNewline => withNewline || c != '\n'
  | .literal negated code rule => literalMatches code rule c != negated
  | .set negated items .exact asciiClasses => items.any (·.hasExact asciiClasses c) != negated
  | .set negated items rule asciiClasses =>
    items.any (·.hasFolded rule asciiClasses (rule.lower c)) != negated

/-! ## Patterns as trees

Inline modes have been resolved: each step carries the comparison, the
character classes and the meaning of the anchors that hold at its place. -/

inductive Greed where
  | greedy
  | lazy
  | possessive
  deriving DecidableEq, Repr

inductive Anchor where
  | lineStart (everyLine : Bool)
  | lineEnd (everyLine : Bool)
  | textStart
  | textEnd
  | wordBoundary (negated : Bool) (asciiWords : Bool)
  deriving DecidableEq, Repr

/-- A pattern. `enclosed` marks a group with modes of its own, which stays one step of the
sequence that it stands in. -/
inductive Expr where
  | empty
  | one (test : CharTest)
  | anchor (condition : Anchor)
  | backref (group : Nat) (rule : CaseRule)
  | seq (first second : Expr)
  | either (left right : Expr)
  | repeated (greed : Greed) (min : Nat) (max : Option Nat) (body : Expr)
  | capture (group : Nat) (body : Expr)
  | enclosed (body : Expr)
  | atomic (body : Expr)
  | lookahead (negated : Bool) (body : Expr)
  | lookbehind (negated : Bool) (low high : Nat) (body : Expr)
  | conditional (group : Nat) (yes no : Expr)
  deriving DecidableEq, Repr

namespace Expr

def ofSteps : List Expr → Expr
  | [] => .empty
  | [step] => step
  | step :: steps => .seq step (ofSteps steps)

def ofAlternatives : List Expr → Expr
  | [] => .empty
  | [alternative] => alternative
  | alternative :: alternatives => .either alternative (ofAlternatives alternatives)

def maxWidth : Nat := Nat.pow 2 64

def width (groupWidth : Nat → Nat × Nat) : Expr → Nat × Nat
  | .empty => (0, 0)
  | .one _ => (1, 1)
  | .anchor _ => (0, 0)
  | .backref group _ => groupWidth group
  | .seq a b =>
    let (lowA, highA) := a.width groupWidth
    let (lowB, highB) := b.width groupWidth
    (Nat.min (lowA + lowB) maxWidth, Nat.min (highA + highB) maxWidth)
  | .either a b =>
    let (lowA, highA) := a.width groupWidth
    let (lowB, highB) := b.width groupWidth
    (Nat.min lowA lowB, Nat.max highA highB)
  | .repeated _ min max body =>
    let (low, high) := body.width groupWidth
    let high := match max with
      | some max => high * max
      | none => if high = 0 then 0 else maxWidth
    (Nat.min (low * min) maxWidth, Nat.min high maxWidth)
  | .capture _ body => body.width groupWidth
  | .enclosed body => body.width groupWidth
  | .atomic body => body.width groupWidth
  | .lookahead _ _ => (0, 0)
  | .lookbehind _ _ _ _ => (0, 0)
  | .conditional _ yes no =>
    let (lowA, highA) := yes.width groupWidth
    let (lowB, highB) := no.width groupWidth
    (Nat.min lowA lowB, Nat.max highA highB)

def maxLookbehind : Nat := 4294967295

def operatorName : Greed → String
  | .greedy => "MAX_REPEAT"
  | .lazy => "MIN_REPEAT"
  | .possessive => "POSSESSIVE_REPEAT"

/-- The first fault that shows only in the whole pattern: a look-behind without a fixed width, or
a repetition in template mode. -/
def lateFault (templateMode : Bool) : Expr → Option Cause
  | .empty | .one _ | .anchor _ | .backref _ _ => none
  | .seq a b => (a.lateFault templateMode).or (b.lateFault templateMode)
  | .either a b => (a.lateFault templateMode).or (b.lateFault templateMode)
  | .repeated greed _ _ body =>
    if templateMode then some (.repeatInTemplate (operatorName greed))
    else body.lateFault templateMode
  | .capture _ body => body.lateFault templateMode
  | .enclosed body => body.lateFault templateMode
  | .atomic body => body.lateFault templateMode
  | .lookahead _ body => body.lateFault templateMode
  | .lookbehind _ low high body =>
    if maxLookbehind < low then some .distantLookbehind
    else if low ≠ high then some .variableLookbehind
    else body.lateFault templateMode
  | .conditional _ yes no => (yes.lateFault templateMode).or (no.lateFault templateMode)

end Expr

/-! ## Finding a pattern in a text

The matcher tries the ways in which a pattern can match in a fixed order and answers with the
first that the rest of the pattern can follow. It recurses on the pattern; what has to match
afterwards is a continuation. A repetition ends because each optional round must leave the place
where the round before it began. -/

structure Progress where
  position : Nat
  groups : List (Nat × Nat × Nat)

namespace Progress

def captured? (progress : Progress) (group : Nat) : Option (Nat × Nat) :=
  progress.groups.lookup group

def capture (progress : Progress) (group start : Nat) : Progress :=
  { progress with groups := (group, start, progress.position) :: progress.groups }

end Progress

abbrev Continuation := Progress → Option Progress

def Anchor.holds (text : Array Char) (position : Nat) : Anchor → Bool
  | .textStart => position = 0
  | .textEnd => position = text.size
  | .lineStart everyLine => position = 0 || (everyLine && text[position - 1]? == some '\n')
  | .lineEnd everyLine =>
    position = text.size ||
      (text[position]? == some '\n' && (everyLine || position + 1 = text.size))
  | .wordBoundary negated asciiWords =>
    let isWordAt (c : Option Char) : Bool := c.any (Category.word.has asciiWords)
    let before := position ≠ 0 && isWordAt text[position - 1]?
    !text.isEmpty && ((before != isWordAt text[position]?) != negated)

def recurs (text : Array Char) (rule : CaseRule) (start position : Nat) : (count : Nat) → Bool
  | 0 => true
  | count + 1 =>
    recurs text rule start position count &&
      match text[start + count]?, text[position + count]? with
      | some a, some b => rule.lower a == rule.lower b
      | _, _ => false

/-- As many rounds as possible, fewer if the rest cannot follow. `last` is where the last optional
round began. -/
def greedyRounds (round : Progress → Continuation → Option Progress) (min : Nat)
    (max : Option Nat) (rest : Continuation) :
    (fuel count : Nat) → (last : Option Nat) → Continuation
  | 0, _, _, progress => rest progress
  | fuel + 1, count, last, progress =>
    if count < min then
      round progress (greedyRounds round min max rest fuel (count + 1) last)
    else if max.all (count < ·) && last ≠ some progress.position then
      match round progress
          (greedyRounds round min max rest fuel (count + 1) (some progress.position)) with
      | some done => some done
      | none => rest progress
    else rest progress

def lazyRounds (round : Progress → Continuation → Option Progress) (min : Nat)
    (max : Option Nat) (rest : Continuation) :
    (fuel count : Nat) → (last : Option Nat) → Continuation
  | 0, _, _, progress => rest progress
  | fuel + 1, count, last, progress =>
    if count < min then
      round progress (lazyRounds round min max rest fuel (count + 1) last)
    else
      match rest progress with
      | some done => some done
      | none =>
        if max.all (count < ·) && last ≠ some progress.position then
          round progress (lazyRounds round min max rest fuel (count + 1) (some progress.position))
        else none

/-- As many rounds as match one after another, none of which is given back. -/
def possessiveRounds (round : Progress → Continuation → Option Progress) (min : Nat)
    (max : Option Nat) : (fuel count : Nat) → Continuation
  | 0, _, progress => some progress
  | fuel + 1, count, progress =>
    if count < min then
      match round progress some with
      | none => none
      | some next => possessiveRounds round min max fuel (count + 1) next
    else if max.all (count < ·) then
      match round progress some with
      | none => some progress
      | some next =>
        if next.position = progress.position then some next
        else possessiveRounds round min max fuel (count + 1) next
    else some progress

/-- Rounds that a repetition can need: the required ones, one for each character left, and two. -/
def roundLimit (text : Array Char) (min : Nat) (progress : Progress) : Nat :=
  min + (text.size - progress.position) + 2

/-- Matches a pattern from a position on, then what follows it. -/
def Expr.run (text : Array Char) : Expr → Progress → Continuation → Option Progress
  | .empty, progress, rest => rest progress
  | .one test, progress, rest =>
    match text[progress.position]? with
    | some c => if test.admits c then rest { progress with position := progress.position + 1 }
      else none
    | none => none
  | .anchor condition, progress, rest =>
    if condition.holds text progress.position then rest progress else none
  | .backref group rule, progress, rest =>
    match progress.captured? group with
    | some (start, stop) =>
      if recurs text rule start progress.position (stop - start) then
        rest { progress with position := progress.position + (stop - start) }
      else none
    | none => none
  | .seq first second, progress, rest =>
    first.run text progress fun next => second.run text next rest
  | .either left right, progress, rest =>
    match left.run text progress rest with
    | some done => some done
    | none => right.run text progress rest
  | .repeated .greedy min max body, progress, rest =>
    greedyRounds (fun p k => body.run text p k) min max rest
      (roundLimit text min progress) 0 none progress
  | .repeated .lazy min max body, progress, rest =>
    lazyRounds (fun p k => body.run text p k) min max rest
      (roundLimit text min progress) 0 none progress
  | .repeated .possessive min max body, progress, rest =>
    (possessiveRounds (fun p k => body.run text p k) min max
      (roundLimit text min progress) 0 progress).bind rest
  | .capture group body, progress, rest =>
    body.run text progress fun next => rest (next.capture group progress.position)
  | .enclosed body, progress, rest => body.run text progress rest
  | .atomic body, progress, rest => (body.run text progress some).bind rest
  | .lookahead false body, progress, rest =>
    (body.run text progress some).bind fun next =>
      rest { next with position := progress.position }
  | .lookahead true body, progress, rest =>
    if (body.run text progress some).isSome then none else rest progress
  | .lookbehind false low _ body, progress, rest =>
    if progress.position < low then none
    else
      (body.run text { progress with position := progress.position - low } some).bind fun next =>
        rest { next with position := progress.position }
  | .lookbehind true low _ body, progress, rest =>
    if progress.position < low then rest progress
    else if (body.run text { progress with position := progress.position - low } some).isSome
    then none else rest progress
  | .conditional group yes no, progress, rest =>
    if (progress.captured? group).isSome then yes.run text progress rest
    else no.run text progress rest

def Expr.occursIn (pattern : Expr) (text : String) : Bool :=
  let chars := text.toList.toArray
  (List.range (chars.size + 1)).any fun start => (pattern.run chars ⟨start, []⟩ some).isSome

end LedgerQuery.Pattern
