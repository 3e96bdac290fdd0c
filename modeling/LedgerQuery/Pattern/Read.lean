import LedgerQuery.Pattern.Reader
import LedgerQuery.Text.Name

/-!
# Reading patterns

The parts of a pattern and the functions that read them: escapes, sets, sequences with their
repetitions, groups with their modes, and the whole.
-/
namespace LedgerQuery.Pattern

/-! ## Escapes

What a backslash and the character after it stand for, inside a set and outside of one. A character
can be given by its name, but of the names of the standard only those in `Text.namedRows` and
`Text.otherNames` are known: a pattern with another one is refused like a pattern with a name of
nothing. -/

open Reader

def isHexDigit (c : Char) : Bool :=
  ('0' ≤ c && c ≤ '9') || ('a' ≤ c && c ≤ 'f') || ('A' ≤ c && c ≤ 'F')

def hexValue (c : Char) : Nat :=
  if c ≤ '9' then c.toNat - 48 else if c ≤ 'F' then c.toNat - 55 else c.toNat - 87

def isOctalDigit (c : Char) : Bool :=
  '0' ≤ c && c ≤ '7'

def numeral (base : Nat) (ds : List Char) : Nat :=
  ds.foldl (fun n c => base * n + hexValue c) 0

def maxOctal : Nat := 0o377

def maxCodePoint : Nat := 0x10FFFF

/-- Code points from here on are not even numbers of the machine. -/
def wordLimit : Nat := 0x80000000

def controlEscape? : Char → Option Nat
  | 'a' => some 7
  | 'f' => some 12
  | 'n' => some 10
  | 'r' => some 13
  | 't' => some 9
  | 'v' => some 11
  | '\\' => some 92
  | _ => none

def categoryEscape? : Char → Option (Category × Bool)
  | 'd' => some (.digit, false)
  | 'D' => some (.digit, true)
  | 's' => some (.blank, false)
  | 'S' => some (.blank, true)
  | 'w' => some (.word, false)
  | 'W' => some (.word, true)
  | _ => none

def hexEscape (letter : Char) (count : Nat) : Reader Nat := do
  let ds ← takeWhile count isHexDigit
  let escape := '\\' :: letter :: ds
  if ds.length ≠ count then fail (.incompleteEscape (String.ofList escape)) escape.length
  let code := numeral 16 ds
  if wordLimit ≤ code then throw (.fault .codePointTooLarge)
  if maxCodePoint < code then fail (.badEscape (String.ofList escape)) escape.length
  return code

def namedEscape : Reader Nat := do
  if !(← accept '\x7b') then fail .missingBrace 0
  let name ← takeUntil '\x7d' "character name"
  match Text.characterNamed? name with
  | some c => return c.toNat
  | none => fail (.undefinedCharacterName (String.ofList name)) (name.length + 4)

/-- The escapes that are written alike inside and outside of sets, but for the digits; other
letters have no meaning, and all else stands for itself. -/
def commonEscape (letter : Char) : Reader Nat := do
  match letter with
  | 'x' => hexEscape letter 2
  | 'u' => hexEscape letter 4
  | 'U' => hexEscape letter 8
  | 'N' => namedEscape
  | _ =>
    if Text.isAsciiLetter letter then fail (.badEscape (String.ofList ['\\', letter])) 2
    return letter.toNat

def octalEscape (ds : List Char) : Reader Nat := do
  let code := numeral 8 ds
  if maxOctal < code then
    fail (.octalOutOfRange (String.ofList ('\\' :: ds))) (ds.length + 1)
  return code

def setEscape (letter : Char) : Reader SetItem := do
  if letter = 'b' then return .code 8
  match controlEscape? letter, categoryEscape? letter with
  | some code, _ => return .code code
  | none, some (kind, negated) => return .category kind negated
  | none, none =>
    if isOctalDigit letter then
      let more ← takeWhile 2 isOctalDigit
      return .code (← octalEscape (letter :: more))
    else if Text.isAsciiDigit letter then
      fail (.badEscape (String.ofList ['\\', letter])) 2
    else return .code (← commonEscape letter)

def literal (modes : Modes) (code : Nat) : Expr :=
  .one (.literal false code modes.caseRule)

def numberedReference (modes : Modes) (ds : List Char) : Reader Expr := do
  let group := numeral 10 ds
  if (← get).groupCount ≤ group then fail (.invalidGroupReference group) ds.length
  reference group (ds.length + 1) modes.caseRule

/-- An escape that begins with a digit other than zero: three octal digits, or the number of a
group. -/
def digitEscape (modes : Modes) (first : Char) : Reader Expr := do
  match ← takeWhile 1 Text.isAsciiDigit with
  | [second] =>
    if isOctalDigit first && isOctalDigit second then
      match ← takeWhile 1 isOctalDigit with
      | [third] => return literal modes (← octalEscape [first, second, third])
      | _ => numberedReference modes [first, second]
    else numberedReference modes [first, second]
  | _ => numberedReference modes [first]

def stepEscape (modes : Modes) (letter : Char) : Reader Expr := do
  match letter with
  | 'A' => return .anchor .textStart
  | 'Z' => return .anchor .textEnd
  | 'b' => return .anchor (.wordBoundary false modes.ascii)
  | 'B' => return .anchor (.wordBoundary true modes.ascii)
  | _ =>
    match controlEscape? letter, categoryEscape? letter with
    | some code, _ => return literal modes code
    | none, some (kind, negated) =>
      return .one (.set false [.category kind negated] .exact modes.ascii)
    | none, none =>
      if letter = '0' then
        let more ← takeWhile 2 isOctalDigit
        return literal modes (numeral 8 more)
      else if Text.isAsciiDigit letter then digitEscape modes letter
      else return literal modes (← commonEscape letter)

/-! ## Sets of characters

The members of a set in brackets: characters, ranges and classes. A set of one character is that
character. -/

def setStep (modes : Modes) (negated : Bool) (items : List SetItem) : Expr :=
  match items.eraseDups with
  | [.code code] => .one (.literal negated code modes.caseRule)
  | items => .one (.ofSet negated items modes.caseRule modes.ascii)

def setMember : Token → Reader SetItem
  | .plain c => return .code c.toNat
  | .escaped c => setEscape c

/-- The members of a set up to the bracket that closes it; the first member may be a bracket. -/
def readSet (start : Nat) : (fuel : Nat) → (found : List SetItem) → Reader (List SetItem)
  | 0, found => return found
  | fuel + 1, found => do
    let some token ← take | failAt .unterminatedSet start
    if token = .plain ']' && !found.isEmpty then return found
    let first ← setMember token
    if !(← accept '-') then readSet start fuel (found ++ [first])
    else
      let some second ← take | failAt .unterminatedSet start
      if second = .plain ']' then return found ++ [first, .code 45]
      let last ← setMember second
      match first, last with
      | .code low, .code high =>
        if high < low then
          fail (.badRange token.text second.text) (token.length + 1 + second.length)
        readSet start fuel (found ++ [.range low high])
      | _, _ => fail (.badRange token.text second.text) (token.length + 1 + second.length)

/-! ## Sequences and alternatives

The steps that have been read one after another, and the choice between several of them.
Alternatives that begin alike share their beginning, and alternatives of one character each become a
set. -/

/-- One element of a sequence being read: a step, or the steps of a group that is none of its own
and melts into the sequence at its end. -/
inductive Piece where
  | step (e : Expr)
  | melting (steps : List Expr)

def Piece.steps : Piece → List Expr
  | .step e => [e]
  | .melting steps => steps

/-- Steps that are equal if they look equal. -/
def isComparable : Expr → Bool
  | .one _ | .anchor _ | .backref _ _ => true
  | _ => false

def commonLength : List Expr → List (List Expr) → Nat
  | [], _ => 0
  | step :: steps, others =>
    if isComparable step && others.all (·.head? == some step) then
      commonLength steps (others.map List.tail) + 1
    else 0

def setItems? : List Expr → Option (List SetItem)
  | [.one (.literal false code _)] => some [.code code]
  | [.one (.set false items _ _)] => some items
  | _ => none

def alternatives (modes : Modes) : List (List Expr) → List Expr
  | [] => []
  | [steps] => steps
  | first :: others =>
    let shared := commonLength first others
    let rests := (first :: others).map (·.drop shared)
    let choice := match rests.mapM setItems? with
      | some items => .one (.ofSet false items.flatten.eraseDups modes.caseRule modes.ascii)
      | none => .ofAlternatives (rests.map .ofSteps)
    first.take shared ++ [choice]

/-! ## Repetitions

How often the last piece of a sequence comes: as a sign says, or the counts in braces. A mark behind
says whether as many rounds as possible are taken, or as few, and whether rounds are given back. -/

def repetitionLimit : Nat := 4294967295

def repetitionCount (ds : List Char) : Reader Nat := do
  if Decimal.digitLimit < ds.length then throw (.fault (.numberTooLong ds.length))
  let count := numeral 10 ds
  if repetitionLimit ≤ count then throw (.fault .repetitionTooLarge)
  return count

/-- Counts in braces, if what follows an opening brace has that form; else the brace is a
literal and nothing is read. -/
def readBraces : Reader (Option (Nat × Option Nat)) := do
  if (← peek) = some (.plain '\x7d') then return none
  let before ← get
  let here := before.position
  let low ← takeWhile before.rest.length Text.isAsciiDigit
  let high ← if ← accept ',' then
      takeWhile before.rest.length Text.isAsciiDigit
    else pure low
  if !(← accept '\x7d') then
    set before
    return none
  let min ← if low.isEmpty then pure 0 else repetitionCount low
  if high.isEmpty then return some (min, none)
  let max ← repetitionCount high
  if max < min then failAt .minAboveMax here
  return some (min, some max)

def readGreed : Reader Greed := do
  if ← accept '?' then return .lazy
  if ← accept '+' then return .possessive
  return .greedy

def repeatLast (pieces : List Piece) (position min : Nat) (max : Option Nat) :
    Reader (List Piece) := do
  let some last := pieces.getLast? | failAt .nothingToRepeat position
  match last with
  | .step (.anchor _) => failAt .nothingToRepeat position
  | .step (.repeated _ _ _ _) => failAt .multipleRepeat position
  | _ =>
    let greed ← readGreed
    return pieces.dropLast ++ [.step (.repeated greed min max (.ofSteps last.steps))]

/-! ## Inline modes

Letters that switch modes on and off, for the whole pattern or for one group. The classes of a group
are those of one standard or of the other, and they cannot be switched off. -/

def flagOf? : Option Token → Option (Option Modes)
  | some (.plain 'L') => some none
  | some (.plain c) => (Modes.ofLetter? c).map some
  | _ => none

def flagFault {α : Type} (token : Token) (otherwise : Cause) : Reader α :=
  match token with
  | .plain c => fail (if Text.isLetter c then .unknownFlag else otherwise) 1
  | .escaped _ => fail otherwise 2

def readFlagsOn : (fuel : Nat) → (letter : Token) → (on : Modes) → Reader (Modes × Token)
  | 0, letter, on => return (on, letter)
  | fuel + 1, letter, on => do
    let flag ← match flagOf? (some letter) with
      | some (some flag) => pure flag
      | some none => fail .localeFlag 0
      | none => flagFault letter .missingFlagEnd
    let on := on.union flag
    if flag.meets .classes && (on.without flag).meets .classes then fail .incompatibleFlags 0
    let some next ← take | fail .missingFlagEnd 0
    match next with
    | .plain ')' | .plain '-' | .plain ':' => return (on, next)
    | _ =>
      if (flagOf? (some next)).isSome then readFlagsOn fuel next on
      else flagFault next .missingFlagEnd

def readFlagsOff : (fuel : Nat) → (letter : Token) → (off : Modes) → Reader Modes
  | 0, _, off => return off
  | fuel + 1, letter, off => do
    let flag ← match flagOf? (some letter) with
      | some (some flag) => pure flag
      | _ => fail .typeFlagOff 0
    if flag.meets .classes then fail .typeFlagOff 0
    let off := off.union flag
    let some next ← take | fail .missingColon 0
    if next = .plain ':' then return off
    if (flagOf? (some next)).isSome then readFlagsOff fuel next off
    else flagFault next .missingColon

/-- Inline modes whose first token has been read: `none` if they are for the whole pattern, which
they then change, else those to switch on and off in the group that follows. -/
def readFlags (fuel : Nat) (first : Token) : Reader (Option (Modes × Modes)) := do
  let (on, stop) ← if first = .plain '-' then pure (({} : Modes), first)
    else readFlagsOn fuel first {}
  if stop = .plain ')' then
    modify fun state => { state with modes := state.modes.union on }
    return none
  if on.template then fail .globalFlagOn 1
  let off ← if stop = .plain '-' then do
      let some letter ← take | fail .missingFlag 0
      if (flagOf? (some letter)).isNone then flagFault letter .missingFlag
      readFlagsOff fuel letter {}
    else pure {}
  if off.template then fail .globalFlagOff 1
  if on.meets off then fail .flagOnAndOff 1
  return some (on, off)

/-! ## Patterns

A pattern is alternatives of sequences of steps. Every reading function that calls another passes on
less fuel; a pattern's fuel covers each of its tokens. -/

def groupLimit : Nat := 1073741823

def readCondition : Reader Nat := do
  let name ← takeUntil ')' "group name"
  let back := name.length + 1
  let key := String.ofList name
  if Text.isIdentifier name then
    match (← get).names.lookup key with
    | some group => return group
    | none => fail (.unknownGroupName key) back
  else
    match Decimal.readInt name with
    | .ok (.ofNat group) =>
      if group = 0 then fail .badGroupNumber back
      if groupLimit ≤ group then fail (.invalidGroupReference group) back
      modify fun state =>
        if (state.references.lookup group).isSome then state
        else { state with references := state.references ++ [(group, state.position - back)] }
      return group
    | _ => fail (.badGroupName key) back

def readGroupName (terminator : Char) : Reader (List Char) := do
  let name ← takeUntil terminator "group name"
  if !Text.isIdentifier name then
    fail (.badGroupName (String.ofList name)) (name.length + 1)
  return name

def closeParenthesis (start : Nat) : Reader Unit := do
  if !(← accept ')') then failAt .unterminatedGroup start

def isVerboseBlank (c : Char) : Bool :=
  (9 ≤ c.toNat && c.toNat ≤ 13) || c == ' '

def skipThrough (c : Char) : Reader Bool := do
  let rest := (← get).rest
  let found := rest.takeWhile (· ≠ .plain c)
  if found.length = rest.length then skip found; return false
  else skip (found ++ [.plain c]); return true

mutual

def readAlternatives : (fuel : Nat) → (outermost : Bool) → (scope : Modes) →
    (found : List (List Expr)) → Reader (List Expr)
  | 0, _, scope, found => return alternatives scope found
  | fuel + 1, outermost, scope, found => do
    let steps ← readSequence fuel (outermost && found.isEmpty) outermost scope []
    let found := found ++ [steps]
    if ← accept '|' then readAlternatives fuel outermost scope found
    else
      let current := (← get).modes
      return alternatives (if outermost then current else scope) found

/-- The steps of a sequence. Modes for the whole pattern may stand only before all else. -/
def readSequence : (fuel : Nat) → (first outermost : Bool) → (scope : Modes) →
    (pieces : List Piece) → Reader (List Expr)
  | 0, _, _, _, pieces => return pieces.flatMap Piece.steps
  | fuel + 1, first, outermost, scope, pieces => do
    let current := (← get).modes
    let modes := if outermost then current else scope
    match ← peek with
    | none | some (.plain '|') | some (.plain ')') => return pieces.flatMap Piece.steps
    | some token =>
      let start ← position
      skip [token]
      let go (pieces : List Piece) := readSequence fuel first outermost scope pieces
      let addStep (e : Expr) := go (pieces ++ [.step e])
      match token with
      | .escaped c => addStep (← stepEscape modes c)
      | .plain c =>
        if modes.verbose && isVerboseBlank c then go pieces
        else if modes.verbose && c = '#' then
          let _ ← skipThrough '\n'
          go pieces
        else match c with
        | '[' =>
          let negated ← accept '^'
          let items ← readSet start (fuel + 1) []
          addStep (setStep modes negated items)
        | '*' => go (← repeatLast pieces start 0 none)
        | '+' => go (← repeatLast pieces start 1 none)
        | '?' => go (← repeatLast pieces start 0 (some 1))
        | '\x7b' =>
          match ← readBraces with
          | none => addStep (literal modes c.toNat)
          | some (min, max) => go (← repeatLast pieces start min max)
        | '.' => addStep (.one (.any modes.dotAll))
        | '^' => addStep (.anchor (.lineStart modes.multiline))
        | '$' => addStep (.anchor (.lineEnd modes.multiline))
        | '(' =>
          match ← readGroup fuel start (first && pieces.isEmpty) modes with
          | none => go pieces
          | some piece => go (pieces ++ [piece])
        | _ => addStep (literal modes c.toNat)

/-- A group whose opening parenthesis has been read. Comments and modes for the whole pattern are
no pieces. -/
def readGroup : (fuel start : Nat) → (atStart : Bool) → (modes : Modes) → Reader (Option Piece)
  | 0, _, _, _ => return none
  | fuel + 1, start, atStart, modes => do
    if !(← accept '?') then
      return some (← readCapture fuel start none modes)
    let some token ← take | fail .unexpectedEnd 0
    match token with
    | .plain 'P' =>
      if ← accept '<' then
        return some (← readCapture fuel start (some (← readGroupName '>')) modes)
      else if ← accept '=' then
        let name ← readGroupName ')'
        let key := String.ofList name
        match (← get).names.lookup key with
        | none => fail (.unknownGroupName key) (name.length + 1)
        | some group => return some (.step (← reference group (name.length + 1) modes.caseRule))
      else
        let some next ← take | fail .unexpectedEnd 0
        fail (.unknownExtension ("P" ++ next.text)) (next.length + 2)
    | .plain ':' =>
      let body ← readAlternatives fuel false modes []
      closeParenthesis start
      return some (.melting body)
    | .plain '#' =>
      if !(← skipThrough ')') then failAt .unterminatedComment start
      return none
    | .plain '=' => return some (.step (← readLookahead fuel start false modes))
    | .plain '!' => return some (.step (← readLookahead fuel start true modes))
    | .plain '<' =>
      let some next ← take | fail .unexpectedEnd 0
      match next with
      | .plain '=' => return some (.step (← readLookbehind fuel start false modes))
      | .plain '!' => return some (.step (← readLookbehind fuel start true modes))
      | _ => fail (.unknownExtension ("<" ++ next.text)) (next.length + 2)
    | .plain '(' =>
      let group ← readCondition
      checkLookbehind group
      let yes ← readSequence fuel false false modes []
      let no ← if ← accept '|' then do
          let no ← readSequence fuel false false modes []
          if (← peek) = some (.plain '|') then fail .thirdBranch 0
          pure no
        else pure []
      closeParenthesis start
      return some (.step (.conditional group (.ofSteps yes) (.ofSteps no)))
    | .plain '>' =>
      let body ← readAlternatives fuel false modes []
      closeParenthesis start
      return some (.step (.atomic (.ofSteps body)))
    | _ =>
      if token = .plain '-' || (flagOf? (some token)).isSome then
        match ← readFlags (fuel + 1) token with
        | none =>
          if !atStart then failAt .lateGlobalFlags start
          return none
        | some (on, off) =>
          let body ← readAlternatives fuel false (modes.adjust on off) []
          closeParenthesis start
          if on = {} && off = {} then return some (.melting body)
          return some (.step (.enclosed (.ofSteps body)))
      else fail (.unknownExtension token.text) (token.length + 1)

def readCapture : (fuel start : Nat) → (name : Option (List Char)) → (modes : Modes) →
    Reader Piece
  | 0, _, _, _ => return .melting []
  | fuel + 1, start, name, modes => do
    let group ← openGroup name
    let body ← readAlternatives fuel false modes []
    closeParenthesis start
    let body := Expr.ofSteps body
    closeGroup group body
    return .step (.capture group body)

def readLookahead : (fuel start : Nat) → (negated : Bool) → (modes : Modes) → Reader Expr
  | 0, _, _, _ => return .empty
  | fuel + 1, start, negated, modes => do
    let body ← readAlternatives fuel false modes []
    closeParenthesis start
    return .lookahead negated (.ofSteps body)

def readLookbehind : (fuel start : Nat) → (negated : Bool) → (modes : Modes) → Reader Expr
  | 0, _, _, _ => return .empty
  | fuel + 1, start, negated, modes => do
    let outer := (← get).lookbehindLimit
    if outer.isNone then
      modify fun state => { state with lookbehindLimit := some state.groupCount }
    let body ← readAlternatives fuel false modes []
    if outer.isNone then modify fun state => { state with lookbehindLimit := none }
    closeParenthesis start
    let body := Expr.ofSteps body
    let (low, high) := body.width (← groupWidths)
    return .lookbehind negated low high body

end

def readPattern (fuel : Nat) : Reader Expr := do
  checkEnd
  let steps ← readAlternatives fuel true {} []
  let state ← get
  if state.modes.ascii && state.modes.unicode then throw (.fault .excludedModes)
  if state.rest ≠ [] then fail .unbalancedParenthesis 0
  match state.references.find? fun (group, _) => state.groupCount ≤ group with
  | some (group, position) => failAt (.invalidGroupReference group) position
  | none => return .ofSteps steps

/-- Four calls cover a token, and a few the end. -/
def fuelFor (tokens : List Token) : Nat :=
  4 * tokens.length + 8

def read (pattern : List Char) : Except Fault Expr :=
  let (tokens, endsBroken) := Token.split pattern
  let start : ReaderState := {
    position := 0, rest := tokens, endsBroken, modes := { ignoreCase := true }, groupCount := 1,
    names := [], widths := [], lookbehindLimit := none, references := [] }
  match (readPattern (fuelFor tokens)).run start with
  | .error (.at cause position) => .error (.malformed cause (some (.of pattern position)))
  | .error (.fault fault) => .error fault
  | .ok (e, state) =>
    match e.lateFault state.modes.template with
    | some cause => .error (.malformed cause none)
    | none => .ok e

end LedgerQuery.Pattern
