import LedgerQuery.Database.Load

/-!
# The alias file

The aliases of a session are kept in a file, one defining line for each, in the order of their
definition. Blank lines are passed over when the file is read, and a file that is not there holds
no aliases.
-/
namespace LedgerQuery.AliasFile

def linesOf (text : List Char) : List String :=
  ((Text.lines (Text.unifyNewlines text)).filter (!Text.isAllBlank ·)).map String.ofList

def textOfLines (lines : List String) : List Char :=
  lines.flatMap fun line => line.toList ++ ['\n']

def load (path : Path) (content : Except FileFault Content) :
    Except StoreFault (List String × List Log.Record) :=
  match textOf content with
  | .error (.file ⟨.missing, _⟩) =>
    .ok ([], [⟨.store, .info,
      path.text ++ " does not exist. Initializing empty environment."⟩])
  | .error fault => .error (.aliasesUnreadable path fault)
  | .ok chars => .ok (linesOf chars, [])

def savedRecord (path : Path) (lines : List String) : Log.Record :=
  ⟨.store, .debug, "Saved " ++ toString lines.length ++ " aliases to " ++ path.text⟩

/-- The files after lines have been kept in one of them, whose directory is made if it is missing,
and what is logged about it. -/
def save (files : FileSystem) (path : Path) (lines : List String) :
    FileSystem × Except FileFault Log.Record :=
  match files.ensureDirectories path.parent with
  | (files, some fault) => (files, .error fault)
  | (files, none) =>
    match files.write path (textOfLines lines) with
    | .error fault => (files, .error fault)
    | .ok files => (files, .ok (savedRecord path lines))

end LedgerQuery.AliasFile
