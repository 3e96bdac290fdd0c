import LedgerQuery.AliasFile
import LedgerQuery.Dictionary
import LedgerQuery.Log.Output
import LedgerQuery.Session.Replay
import LedgerQuery.Text.Basic
import LedgerQuery.VariablesFile

/-!
# The command line

The program from its arguments to its end.
-/
namespace LedgerQuery.CommandLine

/-! ## Stages

The program goes through stages. Each writes to the two streams and leaves a result, or ends the
program; what was written before stays written. -/

structure Streams where
  out : String := ""
  err : String := ""
  deriving DecidableEq, Repr

def Streams.append (first second : Streams) : Streams :=
  ⟨first.out ++ second.out, first.err ++ second.err⟩

instance : Append Streams := ⟨Streams.append⟩

/-- A stage of a program that can end with an `ε`. -/
structure Stage (ε α : Type) where
  written : Streams := {}
  result : Except ε α

namespace Stage

def next {ε α β : Type} (stage : Stage ε α) (following : α → Stage ε β) : Stage ε β :=
  match stage.result with
  | .error ending => ⟨stage.written, .error ending⟩
  | .ok a => ⟨stage.written ++ (following a).written, (following a).result⟩

instance {ε : Type} : Monad (Stage ε) where
  pure a := { result := .ok a }
  bind := next

def tell {ε : Type} (written : Streams) : Stage ε Unit :=
  ⟨written, .ok ()⟩

def stop {ε α : Type} (written : Streams) (ending : ε) : Stage ε α :=
  ⟨written, .error ending⟩

end Stage

/-! ## Arguments

The arguments of the command line are options, the name of a command, and the options of the
command. The value of an option follows it as the next argument or after an equals sign; the last
value counts. Two hyphens end the options. The screens that show how the program is used are left
out. -/

open Text

inductive UsageFault where
  | nothing
  | unknownOption (option : String)
  | missingValue (option : String)
  | unknownCommand (name : String)
  | extraArgument (text : String)
  deriving DecidableEq, Repr

def UsageFault.message : UsageFault → String
  | .nothing => "Missing command."
  | .unknownOption option => "No such option: " ++ option
  | .missingValue option => "Option '" ++ option ++ "' requires an argument."
  | .unknownCommand name => "No such command '" ++ name ++ "'."
  | .extraArgument text => "Got unexpected extra argument (" ++ text ++ ")"

def splitOption (argument : String) : String × Option String :=
  match breakOn ['='] argument.toList with
  | (name, _ :: value) => (String.ofList name, some (String.ofList value))
  | (name, []) => (String.ofList name, none)

def isOption (argument : String) : Bool :=
  match argument.toList with
  | '-' :: _ :: _ => true
  | _ => false

def readOptions (known : List String) :
    List String → Except UsageFault (List (String × String) × List String)
  | [] => .ok ([], [])
  | "--" :: rest => .ok ([], rest)
  | argument :: rest =>
    if isOption argument then
      let (name, value?) := splitOption argument
      if !known.contains name then .error (.unknownOption name)
      else match value?, rest with
        | some value, rest => do
          let (others, rest) ← readOptions known rest
          return ((name, value) :: others, rest)
        | none, value :: rest => do
          let (others, rest) ← readOptions known rest
          return ((name, value) :: others, rest)
        | none, [] => .error (.missingValue name)
    else .ok ([], argument :: rest)

def valueOf? (options : List (String × String)) (name : String) : Option String :=
  (Dictionary.ofPairs options).get? name

inductive Command where
  | none
  | session (arguments : List String)
  deriving DecidableEq, Repr

structure Arguments where
  logLevel? : Option String := none
  command : Command
  deriving DecidableEq, Repr

def readCommand : List String → Except UsageFault Command
  | [] => .ok .none
  | "repl" :: rest => .ok (.session rest)
  | name :: _ => .error (.unknownCommand name)

def readArguments (arguments : List String) : Except UsageFault Arguments := do
  if arguments = [] then .error .nothing
  let (options, rest) ← readOptions ["--log-level"] arguments
  return ⟨valueOf? options "--log-level", ← readCommand rest⟩

structure SessionOptions where
  database? : Option String := none
  aliases? : Option String := none
  deriving DecidableEq, Repr

def readSessionOptions (arguments : List String) : Except UsageFault SessionOptions := do
  let (options, rest) ← readOptions ["--db", "--env-file"] arguments
  match rest with
  | [] => return ⟨valueOf? options "--db", valueOf? options "--env-file"⟩
  | text :: _ => .error (.extraArgument text)

/-! ## The program

The program reads its arguments and variables, loads the transactions and the saved aliases, goes
through a session, and keeps the aliases of the session. It says what is wrong and stops before the
session when it has no valid settings or no transactions. An alias file that cannot be read is left
as it is: the session begins without aliases, and those it defines are not kept. -/

/-- What the program is not prepared for. -/
inductive Crash where
  | variablesUndecodable (fault : Text.Utf8.Fault)
  | variable (fault : VariablesFile.Fault)
  | threshold (fault : Log.ThresholdFault)
  | database (failure : Database.Failure)
  | session (cause : Breakdown)
  deriving DecidableEq, Repr

def Crash.message : Crash → String
  | .variablesUndecodable fault => fault.message
  | .variable fault => fault.message
  | .threshold fault => fault.message
  | .database failure => failure.message
  | .session cause => cause.message

inductive Ending where
  | exit (code : Nat)
  | crash (cause : Crash)
  deriving DecidableEq, Repr

def Ending.code : Ending → Nat
  | .exit code => code
  | .crash _ => 1

def columns : Nat := 80

def variablesPath : Path := .ofString ".env"

def refuse {α : Type} (message : String) : Stage Ending α :=
  .stop { err := "Error: " ++ message ++ "\n" } (.exit 1)

def misuse {α : Type} (fault : UsageFault) : Stage Ending α :=
  .stop { err := "Error: " ++ fault.message ++ "\n" } (.exit 2)

def crash {α : Type} (cause : Crash) : Stage Ending α :=
  .stop {} (.crash cause)

def understood {α : Type} : Except UsageFault α → Stage Ending α
  | .ok a => pure a
  | .error fault => misuse fault

def unreadableLine (line : Nat) : String :=
  "python-dotenv could not parse statement starting at line " ++ toString line ++ "\n"

def loadVariables (given : Settings.Variables) (file : Option Content) :
    Stage Ending Settings.Variables :=
  match file with
  | none => pure given
  | some (.undecodable _ fault) => crash (.variablesUndecodable fault)
  | some (.text chars) => do
    let contents := VariablesFile.read chars
    .tell { err := "".intercalate (contents.unreadable.map unreadableLine) }
    match VariablesFile.apply given contents.bindings with
    | .ok known => return known
    | .error fault => crash (.variable fault)

def openLog (known : Settings.Variables) (level? : Option String) : Stage Ending Log.Output :=
  match Log.threshold (level?.map .text) (known.get? Log.thresholdVariable) with
  | .ok threshold => pure (Log.Output.configure {} threshold Log.standardFormat)
  | .error fault => crash (.threshold fault)

structure Plan where
  log : Log.Output
  settings : Settings
  database : Path
  aliases : Path

def pathOr (default : Path) (option? : Option String) : Path :=
  (option?.map Path.ofString).getD default

def plan (arguments : List String) (given : Settings.Variables) (file : Option Content) :
    Stage Ending Plan := do
  let arguments ← understood (readArguments arguments)
  let known ← loadVariables given file
  let log ← openLog known arguments.logLevel?
  match arguments.command with
  | .none =>
    .stop { out := "No subcommand provided. Use --help to see available commands.\n" } (.exit 1)
  | .session rest =>
    let options ← understood (readSessionOptions rest)
    match Settings.load known with
    | .error fault => refuse fault.message
    | .ok settings =>
      return {
        log, settings
        database := pathOr settings.transactionsPath options.database?
        aliases := pathOr settings.aliasesPath options.aliases? }

namespace Plan

def logged (plan : Plan) (records : List Log.Record) : Streams :=
  { err := plan.log.written records }

def loadTransactions (plan : Plan) (content : Except FileFault Content) :
    Stage Ending (List Transaction) :=
  match Database.load plan.database content with
  | .ok (transactions, record) => do
    .tell (plan.logged [record])
    return transactions
  | .error (.refused fault) => refuse fault.message
  | .error failure => crash (.database failure)

def loadAliases (plan : Plan) (content : Except FileFault Content) :
    Stage Ending (Option (List String)) :=
  match AliasFile.load plan.aliases content with
  | .ok (lines, log) => do
    .tell (plan.logged log)
    return some lines
  | .error fault => do
    .tell (plan.logged [⟨.commandLine, .warning, fault.message⟩])
    .tell { err := "Warning: " ++ fault.message ++
      "; aliases from this session will not be saved\n" }
    return none

end Plan

/-- A session that is ready for its first prompt, and whether its aliases will be kept. -/
structure Opened where
  plan : Plan
  session : Session
  keepsAliases : Bool

def Plan.open (plan : Plan) (database aliases : Except FileFault Content) :
    Stage Ending Opened := do
  let transactions ← plan.loadTransactions database
  let saved? ← plan.loadAliases aliases
  let session := Session.start plan.settings columns (.ofTransactions transactions)
  let replay := session.replay (saved?.getD [])
  .tell { out := replay.written, err := plan.log.written replay.log }
  match replay.broken? with
  | some cause => crash (.session cause)
  | none => return { plan, session := replay.session, keepsAliases := saved?.isSome }

def Opened.streams (opened : Opened) (turn : Session.Turn) : Streams :=
  { out := turn.written, err := opened.plan.log.written turn.log }

def notSavedMessage (path : Path) (fault : FileFault) : String :=
  "failed to save aliases to " ++ path.text ++ ": " ++ fault.message

/-! ## Runs

A run of the program from its arguments to its end, over files that are given and left. The only
file that it writes is the alias file, at the very end and only if it could read it at the start;
directories that lead to it are made then. Meanwhile something else may make directories. -/

/-- What happens while a session goes on: something at its prompt, or a directory that something
else makes. -/
inductive Happening where
  | prompt (event : Session.Event)
  | directory (path : Path)
  deriving DecidableEq, Repr

structure Attended where
  session : Session
  files : FileSystem
  written : Streams := {}
  status : Session.Status := .running

def Opened.attendOne (opened : Opened) (attended : Attended) : Happening → Attended
  | .directory path =>
    { attended with files := (attended.files.ensureDirectories path).1 }
  | .prompt event =>
    let turn := attended.session.step event
    { attended with
      session := turn.session
      written := attended.written ++ opened.streams turn
      status := turn.status }

def Opened.attend (opened : Opened) (attended : Attended) : List Happening → Attended
  | [] => attended
  | happening :: others =>
    let next := opened.attendOne attended happening
    match next.status with
    | .running => opened.attend next others
    | _ => next

structure Outcome where
  written : Streams
  ending : Ending
  files : FileSystem

def Opened.close (opened : Opened) (session : Session) (files : FileSystem) : Outcome :=
  if opened.keepsAliases then
    match AliasFile.save files opened.plan.aliases session.savedLines with
    | (files, .ok record) => ⟨opened.plan.logged [record], .exit 0, files⟩
    | (files, .error fault) =>
      ⟨{ err := "Error: " ++ notSavedMessage opened.plan.aliases fault ++ "\n" }, .exit 1, files⟩
  else ⟨{}, .exit 0, files⟩

def Opened.run (opened : Opened) (files : FileSystem) (happenings : List Happening) : Outcome :=
  let attended := opened.attend { session := opened.session, files } happenings
  match attended.status with
  | .broken cause => ⟨attended.written, .crash (.session cause), attended.files⟩
  | _ =>
    let outcome := opened.close attended.session attended.files
    { outcome with written := attended.written ++ outcome.written }

def variablesFile? (files : FileSystem) : Option Content :=
  match files.lookup variablesPath with
  | some (.file content) => some content
  | _ => none

def openWith (file : Option Content) (reading : Path → Except FileFault Content)
    (arguments : List String) (given : Settings.Variables) : Stage Ending Opened := do
  let plan ← plan arguments given file
  plan.open (reading plan.database) (reading plan.aliases)

/-- A run over files, with what reading the file at each path gives: the operating system may refuse
to read a file that is there. -/
def runReading (file : Option Content) (reading : Path → Except FileFault Content)
    (arguments : List String) (given : Settings.Variables) (files : FileSystem)
    (happenings : List Happening) : Outcome :=
  let stage := openWith file reading arguments given
  match stage.result with
  | .error ending => ⟨stage.written, ending, files⟩
  | .ok opened =>
    let outcome := opened.run files happenings
    { outcome with written := stage.written ++ outcome.written }

def run (arguments : List String) (given : Settings.Variables) (files : FileSystem)
    (happenings : List Happening) : Outcome :=
  runReading (variablesFile? files) files.read arguments given files happenings

end LedgerQuery.CommandLine
