import LedgerQuery.CommandLine.Run

/-!
# The executable

Reads files and variables, hands them to the program, and writes what the program says.
-/
namespace LedgerQuery.Executable
open CommandLine

def emit (written : Streams) : IO Unit := do
  let out ← IO.getStdout
  out.putStr written.out
  out.flush
  let err ← IO.getStderr
  err.putStr written.err
  err.flush

/-- The number stands for what is no directory; some functions give it with a minus sign. -/
def saysNotDirectory (code : UInt32) : Bool :=
  code = 20 || code + 20 = 0

/-- What the operating system says of a path that it does not read or write. Whatever else it says,
a file is not taken to be missing. -/
def faultOf (path : Path) : IO.Error → FileFault
  | .noFileOrDirectory _ _ _ => ⟨.missing, path⟩
  | .alreadyExists _ _ _ => ⟨.exists, path⟩
  | .inappropriateType _ code _ =>
    ⟨if saysNotDirectory code then .notDirectory else .isDirectory, path⟩
  | _ => ⟨.denied, path⟩

def readContent (path : Path) : IO (Except FileFault Content) := do
  match ← (IO.FS.readBinFile path.text).toBaseIO with
  | .ok octets => return .ok (.ofOctets octets.toList)
  | .error fault => return .error (faultOf path fault)

def readVariables (file : Option Content) : IO Settings.Variables := do
  let bindings := match file with
    | some (.text chars) => (VariablesFile.read chars).bindings
    | _ => []
  let names := distinct
    (Settings.variableNames ++ Log.thresholdVariable :: VariablesFile.names bindings)
  let values ← names.filterMapM fun name => do
    return (← IO.getEnv name).map fun value => (name, value)
  return .ofPairs values

def saveAliases (path : Path) (lines : List String) : IO (Except FileFault Log.Record) := do
  let action : IO Unit := do
    IO.FS.createDirAll path.parent.text
    IO.FS.writeFile path.text (String.ofList (AliasFile.textOfLines lines))
  match ← action.toBaseIO with
  | .ok () => return .ok (AliasFile.savedRecord path lines)
  | .error fault => return .error (faultOf path fault)

def conclude (ending : Ending) : IO UInt32 := do
  match ending with
  | .exit _ => pure ()
  | .crash cause => IO.eprintln cause.message
  return ending.code.toUInt32

def nextEvent : IO Session.Event := do
  emit { out := Session.prompt }
  let line ← (← IO.getStdin).getLine
  if line.isEmpty then return .endOfInput
  return .line (String.ofList (line.toList.filter (· ≠ '\n')))

partial def converse (opened : Opened) (session : Session) : IO (Session × Session.Status) := do
  let turn := session.step (← nextEvent)
  emit (opened.streams turn)
  match turn.status with
  | .running => converse opened turn.session
  | status => return (turn.session, status)

def finish (opened : Opened) (session : Session) : IO UInt32 := do
  if !opened.keepsAliases then return 0
  match ← saveAliases opened.plan.aliases session.savedLines with
  | .ok record =>
    emit (opened.plan.logged [record])
    return 0
  | .error fault =>
    emit { err := "Error: " ++ notSavedMessage opened.plan.aliases fault ++ "\n" }
    return 1

def execute (plan : Plan) : IO UInt32 := do
  let stage := plan.open (← readContent plan.database) (← readContent plan.aliases)
  emit stage.written
  match stage.result with
  | .error ending => conclude ending
  | .ok opened =>
    match ← converse opened opened.session with
    | (_, .broken cause) => conclude (.crash (.session cause))
    | (session, _) => finish opened session

end LedgerQuery.Executable

open LedgerQuery in
def main (arguments : List String) : IO UInt32 := do
  let file ← Executable.readContent CommandLine.variablesPath
  let file := file.toOption
  let stage := CommandLine.plan arguments (← Executable.readVariables file) file
  Executable.emit stage.written
  match stage.result with
  | .error ending => Executable.conclude ending
  | .ok plan => Executable.execute plan
