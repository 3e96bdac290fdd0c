import LedgerQuery.Pattern.Expr
import LedgerQuery.Text.Character

/-!
# Tokens and the reader of patterns

What reading a pattern goes through, one token at a time, and the state that it keeps.
-/
namespace LedgerQuery.Pattern

/-! ## Tokens of a pattern

A pattern is read one token at a time: a backslash together with the character after it, or any
other character alone. A backslash at the end of the pattern is no token. -/

inductive Token where
  | plain (c : Char)
  | escaped (c : Char)
  deriving DecidableEq, Repr

namespace Token

def chars : Token → List Char
  | .plain c => [c]
  | .escaped c => ['\\', c]

def length (token : Token) : Nat :=
  token.chars.length

def text (token : Token) : String :=
  String.ofList token.chars

/-- The tokens of a pattern, and whether a lone backslash follows them. -/
def split : List Char → List Token × Bool
  | [] => ([], false)
  | ['\\'] => ([], true)
  | '\\' :: c :: cs => let (tokens, broken) := split cs; (.escaped c :: tokens, broken)
  | c :: cs => let (tokens, broken) := split cs; (.plain c :: tokens, broken)

end Token

/-! ## The state of reading a pattern

The reader keeps the tokens that are left and the position of the first of them, and what it has
learnt about groups. Faults are raised at a distance before the present position. -/

structure Modes where
  ignoreCase : Bool := false
  multiline : Bool := false
  dotAll : Bool := false
  verbose : Bool := false
  ascii : Bool := false
  unicode : Bool := false
  template : Bool := false
  deriving DecidableEq, Repr

namespace Modes

def ofLetter? : Char → Option Modes
  | 'i' => some { ignoreCase := true }
  | 'm' => some { multiline := true }
  | 's' => some { dotAll := true }
  | 'x' => some { verbose := true }
  | 'a' => some { ascii := true }
  | 'u' => some { unicode := true }
  | 't' => some { template := true }
  | _ => none

def union (a b : Modes) : Modes where
  ignoreCase := a.ignoreCase || b.ignoreCase
  multiline := a.multiline || b.multiline
  dotAll := a.dotAll || b.dotAll
  verbose := a.verbose || b.verbose
  ascii := a.ascii || b.ascii
  unicode := a.unicode || b.unicode
  template := a.template || b.template

def without (a b : Modes) : Modes where
  ignoreCase := a.ignoreCase && !b.ignoreCase
  multiline := a.multiline && !b.multiline
  dotAll := a.dotAll && !b.dotAll
  verbose := a.verbose && !b.verbose
  ascii := a.ascii && !b.ascii
  unicode := a.unicode && !b.unicode
  template := a.template && !b.template

/-- The two choices of character classes, of which one holds at a time. -/
def classes : Modes := { ascii := true, unicode := true }

def meets (a b : Modes) : Bool :=
  a.without b ≠ a

def adjust (modes on off : Modes) : Modes :=
  let base := if on.meets classes then modes.without classes else modes
  (base.union on).without off

def caseRule (modes : Modes) : CaseRule :=
  if !modes.ignoreCase then .exact else if modes.ascii then .ascii else .unicode

end Modes

/-- What is left to read and what is known of groups. A closed group has a width. -/
structure ReaderState where
  position : Nat
  rest : List Token
  endsBroken : Bool
  modes : Modes
  groupCount : Nat
  names : List (String × Nat)
  widths : List (Nat × Nat × Nat)
  lookbehindLimit : Option Nat
  references : List (Nat × Nat)

inductive Stop where
  | at (cause : Cause) (position : Nat)
  | fault (fault : Fault)

abbrev Reader := StateT ReaderState (Except Stop)

namespace Reader

def fail {α : Type} (cause : Cause) (back : Nat) : Reader α := do
  throw (.at cause ((← get).position - back))

def failAt {α : Type} (cause : Cause) (position : Nat) : Reader α :=
  throw (.at cause position)

/-- A lone backslash at the end is found as soon as all tokens before it have been read. -/
def checkEnd : Reader Unit := do
  let state ← get
  if state.rest.isEmpty && state.endsBroken then failAt .trailingBackslash state.position

def peek : Reader (Option Token) := do
  return (← get).rest.head?

def position : Reader Nat := do
  return (← get).position

def skip (tokens : List Token) : Reader Unit := do
  modify fun state =>
    { state with
      position := tokens.foldl (fun position token => position + token.length) state.position
      rest := state.rest.drop tokens.length }
  checkEnd

def take : Reader (Option Token) := do
  match ← peek with
  | none => return none
  | some token => skip [token]; return some token

def accept (c : Char) : Reader Bool := do
  if (← peek) = some (.plain c) then skip [.plain c]; return true
  else return false

def takeWhile (limit : Nat) (admits : Char → Bool) : Reader (List Char) := do
  let found := ((← get).rest.take limit).takeWhile fun token =>
    match token with
    | .plain c => admits c
    | .escaped _ => false
  skip found
  return found.flatMap Token.chars

def takeUntil (terminator : Char) (what : String) : Reader (List Char) := do
  let rest := (← get).rest
  let found := rest.takeWhile (· ≠ .plain terminator)
  let name := found.flatMap Token.chars
  if found.length = rest.length then
    skip found
    if name.isEmpty then fail (.missingName what) 0
    else fail (.unterminatedName terminator) name.length
  else
    skip (found ++ [.plain terminator])
    if name.isEmpty then fail (.missingName what) 1
    return name

def width? (group : Nat) : Reader (Option (Nat × Nat)) := do
  return (← get).widths.lookup group

def isClosed (group : Nat) : Reader Bool := do
  return (← width? group).isSome

def groupWidths : Reader (Nat → Nat × Nat) := do
  let widths := (← get).widths
  return fun group => (widths.lookup group).getD (0, 0)

/-- Inside a look-behind only groups closed before it may be referred to. -/
def checkLookbehind (group : Nat) : Reader Unit := do
  match (← get).lookbehindLimit with
  | none => return
  | some limit =>
    if !(← isClosed group) then fail .openGroup 0
    if limit ≤ group then fail .groupInLookbehind 0

def reference (group back : Nat) (rule : CaseRule) : Reader Expr := do
  if !(← isClosed group) then fail .openGroup back
  checkLookbehind group
  return .backref group rule

def openGroup (name : Option (List Char)) : Reader Nat := do
  let state ← get
  let group := state.groupCount
  match name with
  | none => set { state with groupCount := group + 1 }
  | some name =>
    let key := String.ofList name
    match state.names.lookup key with
    | some previous => fail (.redefinedGroupName key group previous) (name.length + 1)
    | none => set { state with groupCount := group + 1, names := (key, group) :: state.names }
  return group

def closeGroup (group : Nat) (body : Expr) : Reader Unit := do
  let widths ← groupWidths
  modify fun state => { state with widths := (group, body.width widths) :: state.widths }

end Reader

end LedgerQuery.Pattern
