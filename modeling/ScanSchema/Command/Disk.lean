import ScanSchema.Command.Path
import ScanSchema.Command.Process

/-!
# Simulated file systems

A disk holds files and directories under paths relative to one directory. Running a process on a
disk answers with what the process answers and with the disk afterwards.
-/

namespace ScanSchema.Command

/-- Something that a path leads to. -/
inductive DiskEntry where
  /-- A file with its content. -/
  | file (bytes : List UInt8)
  /-- A directory. -/
  | directory
  deriving DecidableEq, Repr

/-- Files and directories, each under the parts of its path. -/
structure Disk where
  /-- The entries; a later one replaces an earlier one of the same path. -/
  entries : List (List String × DiskEntry) := []
  deriving DecidableEq, Repr

namespace Disk

/-- The entry under some parts. The directory that holds everything has no parts, and directories
above an entry need not be listed. -/
def find? (disk : Disk) (parts : List String) : Option DiskEntry :=
  match (disk.entries.filter fun entry => entry.1 == parts).getLast? with
  | some entry => some entry.2
  | none =>
    if parts.isEmpty || disk.entries.any fun entry => parts.isPrefixOf entry.1 then some .directory
    else none

/-- Follow the parts of a path from a directory; what is found at the end may be nothing. Whatever
has a part behind it, be it `.` or `..`, has to be a directory. -/
def follow (disk : Disk) (here : List String) :
    List String → Except FileFault (List String × Option DiskEntry)
  | [] => .ok (here, disk.find? here)
  | part :: rest =>
    match disk.find? here with
    | none => .error .notFound
    | some (.file _) => .error .notDirectory
    | some .directory =>
      if part = "." then disk.follow here rest
      else if part = ".." then disk.follow here.dropLast rest
      else disk.follow (here ++ [part]) rest

/-- The parts of a path to follow. A path that ends in a slash asks for a directory, as one that
ends in `.` does. -/
def steps (path : String) : List String :=
  (path.splitOn "/").filter (· ≠ "") ++ if path.endsWith "/" then ["."] else []

/-- Find what a path leads to. Outside the directory of the disk nothing is known but the root. -/
def resolve (disk : Disk) (path : String) :
    Except FileFault (List String × Option DiskEntry) :=
  if path.startsWith "/" then
    if pathParts path = [] then .ok ([], some .directory) else .error .notFound
  else disk.follow [] (steps path)

/-- Read a file. -/
def read (disk : Disk) (path : String) : Except FileFault (List UInt8) := do
  match ← disk.resolve path with
  | (_, some (.file bytes)) => return bytes
  | (_, some .directory) => throw .isDirectory
  | (_, none) => throw .notFound

/-- Write a file. Its directory must exist, and a path that ends in a slash cannot name a file. -/
def write (disk : Disk) (path : String) (bytes : List UInt8) : Except FileFault Disk := do
  if path.endsWith "/" then
    discard (disk.follow [] ((pathParts path).dropLast ++ ["."]))
    throw .isDirectory
  match ← disk.resolve path with
  | (_, some .directory) => throw .isDirectory
  | (parts, _) => return { entries := disk.entries ++ [(parts, .file bytes)] }

/-- Run a process on a disk, with some bytes on standard input. -/
def run {α : Type} (disk : Disk) (input : List UInt8) : Process α → α × Disk
  | .done value => (value, disk)
  | .readInput resume => disk.run input (resume (.ok input))
  | .readFile path resume => disk.run input (resume (disk.read path))
  | .writeFile path bytes resume =>
    match disk.write path bytes with
    | .ok written => written.run input (resume (.ok ()))
    | .error fault => disk.run input (resume (.error fault))

end Disk

end ScanSchema.Command
