import LedgerQuery.Completion.Lines
import LedgerQuery.Display.Console
import LedgerQuery.Evaluation.Workspace

/-!
# Sessions

Lines from a prompt and lines that were saved.
-/
namespace LedgerQuery

/-! ## Turns at the prompt

A session reads lines from a prompt and evaluates them one after another. A refusal is reported and
the session goes on; a breakdown ends it, as do the end of the input and a line that asks to quit.
What a turn writes and logs is part of its result, but for the traces of calls that a log can hold
under a line that failed. -/

structure Session where
  settings : Settings
  columns : Nat
  workspace : Workspace

namespace Session

inductive Status where
  | running
  | ended
  | broken (cause : Breakdown)
  deriving DecidableEq, Repr

/-- What a turn leaves, writes and logs, and what was refused in it. -/
structure Turn where
  session : Session
  written : String := ""
  log : List Log.Record := []
  refusal? : Option Refusal := none
  status : Status := .running

def start (settings : Settings) (columns : Nat) (initial : Value) : Session :=
  { settings, columns, workspace := .start initial }

def display (session : Session) (value : Value) : Except Failure String :=
  Display.value session.settings value

def tell (session : Session) (style : Display.Style) (message : String) : String :=
  Display.message session.columns (.ofPiece message.toList (some style))

def echo (session : Session) : Line → Except Failure String
  | .aliasDef definition => .ok (session.tell .cyan ("Defined " ++ definition.name))
  | .pipeline _ => session.display session.workspace.register

/-- The turn of a line that failed: a refusal is reported, a breakdown ends the session. -/
def fail (session : Session) (line : String) (written : String) (log : List Log.Record) :
    Failure → Turn
  | .refusal cause =>
    { session
      written := written ++ session.tell .red ("Error: " ++ cause.message)
      log := log ++ [⟨.session, .debug, "Line failed: " ++ quote line⟩]
      refusal? := some cause }
  | .breakdown cause => { session, written, log, status := .broken cause }

def execute (session : Session) (line : String) : Turn :=
  match Query.readLine session.settings.mark line with
  | .error fault => session.fail line "" [] (.ofQueryFault fault)
  | .ok node =>
    let evaluation := session.workspace.evaluateLine (some session.display) node
    let after := { session with workspace := evaluation.workspace }
    let printed := "".intercalate evaluation.printed
    match evaluation.failure? with
    | some failure => after.fail line printed evaluation.log failure
    | none =>
      match after.echo node with
      | .ok shown => { session := after, written := printed ++ shown, log := evaluation.log }
      | .error failure => after.fail line printed evaluation.log failure

def quitWords : List (List Char) :=
  [['q'], ['q', 'u', 'i', 't']]

inductive Event where
  | line (text : String)
  | interrupt
  | endOfInput
  deriving DecidableEq, Repr

/-- One turn at the prompt. Blank lines and interruptions do nothing. -/
def step (session : Session) : Event → Turn
  | .interrupt => { session }
  | .endOfInput => { session, status := .ended }
  | .line text =>
    let word := Text.trim text.toList
    if word = [] then { session }
    else if quitWords.contains word then { session, status := .ended }
    else session.execute text

/-- What a series of turns leaves, writes and logs, and the events that it did not come to. -/
structure Run where
  session : Session
  written : String := ""
  log : List Log.Record := []
  status : Status := .ended
  unread : List Event := []

def Run.after (turn : Turn) (run : Run) : Run :=
  { run with written := turn.written ++ run.written, log := turn.log ++ run.log }

def run (session : Session) : List Event → Run
  | [] => { session }
  | event :: events =>
    let turn := session.step event
    match turn.status with
    | .running => (turn.session.run events).after turn
    | status =>
      { session := turn.session, written := turn.written, log := turn.log, status,
        unread := events }

def prompt : String := "buffet> "

def vocabulary (session : Session) : Completion.Vocabulary :=
  { keywords := Builtin.keywords
    aliases := session.workspace.environment.names
    tags := session.settings.allTags }

def suggestions (session : Session) (text : String) : List Completion.Suggestion :=
  Completion.suggestions session.vocabulary session.settings.separator text

def savedLines (session : Session) : List String :=
  session.workspace.environment.saved.map Prod.snd

end Session

end LedgerQuery

namespace LedgerQuery.Session

/-! ## Replay

Saved lines are replayed before the first prompt. Only definitions count: a line that is something
else, or that fails, is skipped with a warning that gives its number, and the others are still
replayed. Blank lines are passed over, but they are counted. -/

/-- What a replay leaves, writes and logs, how many aliases it defined, and what ended it early. -/
structure Replay where
  session : Session
  defined : Nat := 0
  written : String := ""
  log : List Log.Record := []
  broken? : Option Breakdown := none

def readSaved (session : Session) (line : String) : Except Failure AliasDef :=
  match Query.readLine session.settings.mark line with
  | .error fault => .error (.ofQueryFault fault)
  | .ok (.pipeline _) => .error (.refusal .notAnAlias)
  | .ok (.aliasDef definition) => .ok definition

def skip (replay : Replay) (number : Nat) (log : List Log.Record) (cause : Refusal) : Replay :=
  let place := "saved alias on line " ++ toString number ++ ": " ++ cause.message
  { replay with
    written := replay.written ++ replay.session.tell .yellow ("Warning: skipped " ++ place)
    log := replay.log ++ log ++ [⟨.session, .warning, "Skipping " ++ place⟩] }

def replayLine (replay : Replay) (number : Nat) (line : String) : Replay :=
  match readSaved replay.session line with
  | .error (.refusal cause) => skip replay number [] cause
  | .error (.breakdown cause) => { replay with broken? := some cause }
  | .ok definition =>
    let evaluation : Evaluation String := replay.session.workspace.define definition
    match evaluation.failure? with
    | none =>
      { replay with
        session := { replay.session with workspace := evaluation.workspace }
        defined := replay.defined + 1
        log := replay.log ++ evaluation.log }
    | some (.refusal cause) => skip replay number evaluation.log cause
    | some (.breakdown cause) => { replay with broken? := some cause }

def replayFrom (replay : Replay) (number : Nat) : List String → Replay
  | [] => replay
  | line :: lines =>
    if Text.isAllBlank line.toList then replayFrom replay (number + 1) lines
    else
      let next := replayLine replay number line
      match next.broken? with
      | some _ => next
      | none => replayFrom next (number + 1) lines

def replayRecord (defined : Nat) : Log.Record :=
  ⟨.session, .debug, "Replayed " ++ toString defined ++ " saved aliases"⟩

def replay (session : Session) (lines : List String) : Replay :=
  let done := replayFrom { session } 1 lines
  match done.broken? with
  | some _ => done
  | none => { done with log := done.log ++ [replayRecord done.defined] }

end LedgerQuery.Session
