/-
  What a client finds on its host: the files, the paths that lead to them, and
  whether threads can be made.

  A path is followed name by name, from the root or, if it does not begin there,
  from the current directory.  `Host.read` gives what the file at the end of it
  holds, or the first reason why there is none.
-/
import TupleWire.Bytes

set_option autoImplicit false

namespace TupleWire

/-- Why a path leads to no file. -/
inductive PathFault where
  | missing
  /-- a name follows that of a file -/
  | notDirectory
  /-- the path, or a name in it -/
  | tooLong
  | hasNul
  deriving DecidableEq, Repr

/-- The wording of a fault. -/
def PathFault.message : PathFault → String
  | missing => "No such file or directory (os error 2)"
  | notDirectory => "Not a directory (os error 20)"
  | tooLong => "File name too long (os error 36)"
  | hasNul => "file name contained an unexpected NUL byte"

/-- What there is at a place. -/
inductive FileNode where
  | directory
  | file (contents : Bytes)
  deriving DecidableEq, Repr

/-- What can be read from a node: from a directory nothing. -/
def FileNode.contents : FileNode → Bytes
  | directory => []
  | file contents => contents

/-- A place, by the names of the directories on the way from the root, and its own. -/
abbrev Place : Type := List String

/-- A host. -/
structure Host where
  node? : Place → Option FileNode
  /-- where paths begin that do not begin at the root -/
  current : Place := []
  /-- why no threads can be made, if they cannot -/
  threadFault? : Option String := none

namespace Host

/-! ## Following a path -/

/-- The size of the longest path, in bytes. -/
def longestPath : Nat := 4095

/-- The size of the longest name in a path, in bytes. -/
def longestName : Nat := 255

/-- Follows names from a place. -/
def walk (h : Host) (place : Place) : List String → Except PathFault FileNode
  | [] =>
      match h.node? place with
      | some node => .ok node
      | none => .error .missing
  | name :: rest =>
      match h.node? place with
      | none => .error .missing
      | some (.file _) => .error .notDirectory
      | some .directory =>
          if name = "" ∨ name = "." then h.walk place rest
          else if name = ".." then h.walk place.dropLast rest
          else if longestName < name.utf8ByteSize then .error .tooLong
          else h.walk (place ++ [name]) rest

/-- What can be read at the end of a path. -/
def read (h : Host) (path : String) : Except PathFault Bytes :=
  if path.toList.contains '\x00' then .error .hasNul
  else if longestPath < path.utf8ByteSize then .error .tooLong
  else if path.isEmpty then .error .missing
  else
    let start := if path.toList.head? = some '/' then [] else h.current
    (h.walk start (path.splitOn "/")).map FileNode.contents

/-! ## Hosts -/

/-- A host whose paths all lead to the same file, if it is there. -/
def uniform (contents : Option Bytes) : Host where
  node? := fun place => if place = [] then some .directory else contents.map .file

/-- Directories that every host has. -/
def standardDirectories : List Place :=
  [[], ["boot"], ["dev"], ["dev", "shm"], ["etc"], ["home"], ["media"], ["mnt"], ["opt"], ["proc"],
    ["root"], ["run"], ["srv"], ["sys"], ["tmp"], ["usr"], ["usr", "bin"], ["usr", "lib"],
    ["usr", "local"], ["usr", "share"], ["var"], ["var", "lib"], ["var", "log"], ["var", "tmp"]]

/-- Files that every host has.  None of them holds anything to trust. -/
def standardFiles : List Place :=
  [["dev", "null"], ["etc", "group"], ["etc", "hostname"], ["etc", "hosts"], ["etc", "passwd"],
    ["proc", "version"]]

/-- A host with nothing on it but what every host has, its files being empty. -/
def bare : Host where
  node? := fun place =>
    if standardDirectories.contains place then some .directory
    else if standardFiles.contains place then some (.file [])
    else none
  current := ["tmp"]

end Host

end TupleWire
