import LedgerQuery.Settings.Load
import LedgerQuery.Text.Basic

/-!
# Files of variables

Statements that give variables, and what they come to beside the variables that are there.
-/
namespace LedgerQuery.VariablesFile

/-! ## Files of variables

A file can give variables: statements `NAME=value`, one to a line, with blanks, empty lines and
comments between them. A value stands bare up to the end of its line, or between quotes, where it
may go over several lines and holds escapes. A statement that cannot be read is passed over, and the
number of its line is kept. -/

open Text

abbrev Binding := List Char × Option (List Char)

def isInlineBlank (c : Char) : Bool :=
  isBlank c && c ≠ '\n'

def skipExport (text : List Char) : List Char :=
  match dropHead? "export".toList text with
  | some (c :: rest) => if isInlineBlank c then rest.dropWhile isInlineBlank else text
  | _ => text

def isNameChar (c : Char) : Bool :=
  c ≠ '=' && c ≠ '#' && !isBlank c

def readName? : List Char → Option (Option (List Char) × List Char)
  | '#' :: rest => some (none, '#' :: rest)
  | '\'' :: rest =>
    match rest.takeWhile (· ≠ '\''), rest.dropWhile (· ≠ '\'') with
    | c :: name, _ :: rest => some (some (c :: name), rest)
    | _, _ => none
  | text =>
    match text.takeWhile isNameChar with
    | [] => none
    | name => some (some name, text.dropWhile isNameChar)

/-- The text up to the quote that closes it, and what follows. A quote after a backslash closes the
text only where no later quote does. -/
def splitQuoted? (quote : Char) : List Char → Option (List Char × List Char)
  | [] => none
  | c :: rest =>
    if c = quote then some ([], rest)
    else match c, rest with
      | '\\', d :: rest =>
        if d = quote then
          match splitQuoted? quote rest with
          | some (inner, after) => some ('\\' :: quote :: inner, after)
          | none => some (['\\'], rest)
        else (splitQuoted? quote (d :: rest)).map fun (inner, after) => ('\\' :: inner, after)
      | c, rest => (splitQuoted? quote rest).map fun (inner, after) => (c :: inner, after)

def singleEscape? : Char → Option Char
  | '\\' => some '\\'
  | '\'' => some '\''
  | _ => none

def doubleEscape? : Char → Option Char
  | '\\' => some '\\'
  | '\'' => some '\''
  | '"' => some '"'
  | 'a' => some '\x07'
  | 'b' => some '\x08'
  | 'f' => some '\x0c'
  | 'n' => some '\n'
  | 'r' => some '\r'
  | 't' => some '\t'
  | 'v' => some '\x0b'
  | _ => none

def unescape (escape? : Char → Option Char) : List Char → List Char
  | '\\' :: c :: rest =>
    match escape? c with
    | some d => d :: unescape escape? rest
    | none => '\\' :: unescape escape? (c :: rest)
  | c :: rest => c :: unescape escape? rest
  | [] => []

def dropComment : List Char → List Char
  | [] => []
  | c :: rest =>
    if isBlank c && (rest.dropWhile isBlank).head? = some '#' then []
    else c :: dropComment rest

def readValue? : List Char → Option (List Char × List Char)
  | '\'' :: rest =>
    (splitQuoted? '\'' rest).map fun (inner, rest) => (unescape singleEscape? inner, rest)
  | '"' :: rest =>
    (splitQuoted? '"' rest).map fun (inner, rest) => (unescape doubleEscape? inner, rest)
  | text =>
    let line := text.takeWhile (· ≠ '\n')
    some (trimEnd (dropComment line), text.drop line.length)

def endLine? (text : List Char) : Option (List Char) :=
  let text := text.dropWhile isInlineBlank
  let text := if text.head? = some '#' then text.dropWhile (· ≠ '\n') else text
  match text with
  | [] => some []
  | c :: rest => if c = '\n' then some rest else none

structure Statement where
  binding? : Option Binding := none
  readable : Bool := true
  rest : List Char

/-- A statement that cannot be read beyond a place; the line of that place goes with it. -/
def Statement.unreadable (text : List Char) : Statement :=
  { readable := false, rest := (text.dropWhile (· ≠ '\n')).drop 1 }

def Statement.close (name? value? : Option (List Char)) (text : List Char) : Statement :=
  match endLine? text with
  | none => .unreadable text
  | some rest => { binding? := name?.map (·, value?), rest }

def readStatement (text : List Char) : Statement :=
  match text.dropWhile isBlank with
  | [] => { rest := [] }
  | text =>
    let text := skipExport text
    match readName? text with
    | none => .unreadable text
    | some (name?, text) =>
      match text.dropWhile isInlineBlank with
      | '=' :: text =>
        let text := text.dropWhile isInlineBlank
        match readValue? text with
        | none => .unreadable text
        | some (value, text) => .close name? (some value) text
      | text => .close name? none text

/-- What a file says: its bindings, and the lines of the statements that cannot be read, each
counted from where the statement before it ended. -/
structure Contents where
  bindings : List Binding := []
  unreadable : List Nat := []

def readFrom : (fuel line : Nat) → List Char → Contents
  | 0, _, _ => {}
  | fuel + 1, line, text =>
    if text = [] then {}
    else
      let statement := readStatement text
      let passed := text.take (text.length - statement.rest.length)
      let others := readFrom fuel (line + passed.count '\n') statement.rest
      { bindings := statement.binding?.toList ++ others.bindings
        unreadable := (if statement.readable then [] else [line]) ++ others.unreadable }

def read (text : List Char) : Contents :=
  let text := unifyNewlines text
  readFrom text.length 1 text

/-! ## Variables from a file

What is written in a value as a reference to a variable, with a text for want of it, stands for the
value of that variable. A variable that has a value before the file is read keeps it, and it is
what references mean; of several values that the file gives, the last one counts. -/

def readReference? : List Char → Option (List Char × List Char × List Char)
  | '$' :: '\x7b' :: rest =>
    let name := rest.takeWhile fun c => c ≠ '\x7d' && c ≠ ':'
    match rest.drop name.length with
    | '\x7d' :: after => some (name, [], after)
    | ':' :: '-' :: rest =>
      let default := rest.takeWhile (· ≠ '\x7d')
      match rest.drop default.length with
      | '\x7d' :: after => some (name, default, after)
      | _ => none
    | _ => none
  | _ => none

def expand (resolve : List Char → List Char → List Char) : (fuel : Nat) → List Char → List Char
  | 0, _ => []
  | _ + 1, [] => []
  | fuel + 1, c :: cs =>
    match readReference? (c :: cs) with
    | some (name, default, rest) => resolve name default ++ expand resolve fuel rest
    | none => c :: expand resolve fuel cs

/-- The value of a name: what it was given before, or else what the file gave it so far. -/
def resolve (given : Settings.Variables) (known : Dictionary (Option String))
    (name default : List Char) : List Char :=
  match given.get? (String.ofList name) with
  | some value => value.toList
  | none =>
    match known.get? (String.ofList name) with
    | some value => (value.getD "").toList
    | none => default

def bind (given : Settings.Variables) (known : Dictionary (Option String)) (binding : Binding) :
    Dictionary (Option String) :=
  let value := binding.2.map fun text =>
    String.ofList (expand (resolve given known) text.length text)
  known.put (String.ofList binding.1) value

inductive Fault where
  | nullCharacter
  | equalsInName
  deriving DecidableEq, Repr

def Fault.message : Fault → String
  | .nullCharacter => "embedded null byte"
  | .equalsInName => "illegal environment variable name"

def extend (held : Settings.Variables) (name : String) (value : String) :
    Except Fault Settings.Variables :=
  if (held.get? name).isSome then .ok held
  else if name.toList.contains '\x00' || value.toList.contains '\x00' then .error .nullCharacter
  else if name.toList.contains '=' then .error .equalsInName
  else .ok (held.put name value)

def apply (given : Settings.Variables) (bindings : List Binding) :
    Except Fault Settings.Variables :=
  let known := bindings.foldl (bind given) []
  known.foldlM (fun held (name, value?) =>
    match value? with
    | some value => extend held name value
    | none => .ok held) given

def references : List Char → List String
  | [] => []
  | c :: cs =>
    match readReference? (c :: cs) with
    | some (name, _, _) => String.ofList name :: references cs
    | none => references cs

def names (bindings : List Binding) : List String :=
  bindings.flatMap fun (name, value?) => String.ofList name :: references (value?.getD [])

end LedgerQuery.VariablesFile
