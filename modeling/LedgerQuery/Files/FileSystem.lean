import LedgerQuery.Text.Basic
import LedgerQuery.Text.Quoted

/-!
# Paths and files

Paths as they are written, and the files and directories that they lead to.
-/
namespace LedgerQuery

/-! ## Paths

A path is a root and components. Empty components and single dots say nothing and are dropped; two
dots stay, since what they lead to depends on the files. Two slashes in front are a root of their
own, more than two are one. -/

inductive PathRoot where
  | workingDirectory
  | root
  | doubleRoot
  deriving DecidableEq, Repr

structure Path where
  root : PathRoot
  parts : List String
  deriving DecidableEq, Repr

namespace Path

def rootOf (text : List Char) : PathRoot :=
  match (text.takeWhile (· = '/')).length with
  | 0 => .workingDirectory
  | 2 => .doubleRoot
  | _ => .root

def ofString (text : String) : Path :=
  let chars := text.toList
  let parts := (Text.splitAt (· = '/') chars).filter fun part => part ≠ [] && part ≠ ['.']
  ⟨rootOf chars, parts.map String.ofList⟩

def text (path : Path) : String :=
  let below := "/".intercalate path.parts
  match path.root with
  | .workingDirectory => if path.parts.isEmpty then "." else below
  | .root => "/" ++ below
  | .doubleRoot => "//" ++ below

def parent (path : Path) : Path :=
  { path with parts := path.parts.dropLast }

end Path

/-! ## Files

The files and directories below a working directory. A path is followed component by component, and
each component but the last must be a directory. Every operation that fails says why, in the words
of the operating system.

There is nothing above the working directory in this model: two dots stay there, and a path with a
root is followed from there like one without. Nor are there links, or files that must not be
written; that a file must not be read is said from outside, by what reading its path gives. -/

/-- What a file holds: a text, or octets that encode none. -/
inductive Content where
  | text (chars : List Char)
  | undecodable (octets : List UInt8) (fault : Text.Utf8.Fault)
  deriving DecidableEq

def Content.ofOctets (octets : List UInt8) : Content :=
  match Text.Utf8.decode octets with
  | .ok chars => .text chars
  | .error fault => .undecodable octets fault

inductive FileNode where
  | file (content : Content)
  | directory
  deriving DecidableEq

inductive FileFault.Reason where
  | missing
  | exists
  | notDirectory
  | isDirectory
  | denied
  deriving DecidableEq, Repr

structure FileFault where
  reason : FileFault.Reason
  path : Path
  deriving DecidableEq, Repr

def FileFault.Reason.number : FileFault.Reason → Nat
  | .missing => 2
  | .exists => 17
  | .notDirectory => 20
  | .isDirectory => 21
  | .denied => 13

def FileFault.Reason.text : FileFault.Reason → String
  | .missing => "No such file or directory"
  | .exists => "File exists"
  | .notDirectory => "Not a directory"
  | .isDirectory => "Is a directory"
  | .denied => "Permission denied"

def FileFault.message (fault : FileFault) : String :=
  "[Errno " ++ toString fault.reason.number ++ "] " ++ fault.reason.text ++ ": " ++
    quote fault.path.text

def Text.Utf8.Fault.message (fault : Text.Utf8.Fault) : String :=
  "'utf-8' codec can't decode " ++
    (if fault.count = 1 then
      "byte 0x" ++ String.ofList (Text.hexDigits 2 fault.octet.toNat) ++ " in position " ++
        toString fault.start
    else
      "bytes in position " ++ toString fault.start ++ "-" ++
        toString (fault.start + fault.count - 1)) ++
    ": " ++ fault.reason.message

inductive ReadFault where
  | file (fault : FileFault)
  | undecodable (fault : Text.Utf8.Fault)
  deriving DecidableEq, Repr

def ReadFault.message : ReadFault → String
  | .file fault => fault.message
  | .undecodable fault => fault.message

def textOf : Except FileFault Content → Except ReadFault (List Char)
  | .error fault => .error (.file fault)
  | .ok (.undecodable _ fault) => .error (.undecodable fault)
  | .ok (.text chars) => .ok chars

abbrev Place := List String

/-- Files and directories by their places. The working directory itself is always there. -/
structure FileSystem where
  entries : List (Place × FileNode) := []

namespace FileSystem

def node? (files : FileSystem) (place : Place) : Option FileNode :=
  if place = [] then some .directory else files.entries.lookup place

def put (files : FileSystem) (place : Place) (node : FileNode) : FileSystem :=
  ⟨(place, node) :: files.entries.filter (·.1 ≠ place)⟩

def step (place : Place) (part : String) : Place :=
  if part = ".." then place.dropLast else place ++ [part]

/-- Follows components to a place, all but the last of which must be directories. -/
def follow (files : FileSystem) (place : Place) : List String → Except FileFault.Reason Place
  | [] => .ok place
  | part :: parts =>
    match files.node? place with
    | some .directory => files.follow (step place part) parts
    | some (.file _) => .error .notDirectory
    | none => .error .missing

def locate (files : FileSystem) (path : Path) : Except FileFault Place :=
  (files.follow [] path.parts).mapError (⟨·, path⟩)

def lookup (files : FileSystem) (path : Path) : Option FileNode :=
  match files.locate path with
  | .ok place => files.node? place
  | .error _ => none

def read (files : FileSystem) (path : Path) : Except FileFault Content := do
  match files.node? (← files.locate path) with
  | some (.file content) => return content
  | some .directory => .error ⟨.isDirectory, path⟩
  | none => .error ⟨.missing, path⟩

def write (files : FileSystem) (path : Path) (chars : List Char) :
    Except FileFault FileSystem := do
  let place ← files.locate path
  match files.node? place with
  | some .directory => .error ⟨.isDirectory, path⟩
  | _ => return files.put place (.file (.text chars))

def makeDirectory (files : FileSystem) (path : Path) : Except FileFault FileSystem := do
  let place ← files.locate path
  match files.node? place with
  | some _ => .error ⟨.exists, path⟩
  | none => return files.put place .directory

def ensureDirectory (files : FileSystem) (path : Path) : Except FileFault FileSystem :=
  match files.makeDirectory path with
  | .ok files => .ok files
  | .error fault =>
    if fault.reason ≠ .missing ∧ files.lookup path = some .directory then .ok files
    else .error fault

/-- The files with the directories of some components, which are made one below the other as far
as they are missing, and why the last one could not be made. -/
def ensureBelow (files : FileSystem) (start : PathRoot) :
    (parts : List String) → FileSystem × Option FileFault
  | [] =>
    match files.ensureDirectory ⟨start, []⟩ with
    | .ok files => (files, none)
    | .error fault => (files, some fault)
  | part :: parts =>
    let path : Path := ⟨start, (part :: parts).reverse⟩
    match files.ensureDirectory path with
    | .ok files => (files, none)
    | .error fault =>
      if fault.reason = .missing then
        match files.ensureBelow start parts with
        | (files, some fault) => (files, some fault)
        | (files, none) =>
          match files.ensureDirectory path with
          | .ok files => (files, none)
          | .error fault => (files, some fault)
      else (files, some fault)

def ensureDirectories (files : FileSystem) (path : Path) : FileSystem × Option FileFault :=
  files.ensureBelow path.root path.parts.reverse

end FileSystem

end LedgerQuery
