import TestBench.Storage

/-!
# A directory of files

A working directory with plain files in it and no directories below it, held in memory. It says what
reading and writing at a path comes to, so that whole runs of the program can be described without a
file system. Paths are relative; a dot stands for the directory itself, and two dots for the one above,
in which nothing else is found.
-/

set_option autoImplicit false

namespace TestBench.Console

/-- The files of a directory, by name. -/
abbrev Directory := List (String × String)

namespace Directory

/-- The text of a file. -/
def file? (d : Directory) (name : String) : Option String :=
  (d.find? fun f => f.1 == name).map (·.2)

/-- What a path leads to. -/
inductive Place where
  /-- The directory itself. -/
  | here
  /-- A directory above. -/
  | above
  /-- A name in the directory, whether a file has it or not. -/
  | name (s : String)
  /-- Nowhere. -/
  | nowhere (fault : Storage.Fault)
deriving DecidableEq, Repr

/-- The parts of a path between its slashes. -/
def parts (path : String) : List String := (path.toList.splitOn '/').map String.ofList

/-- The greatest number of bytes in a name. -/
def longestName : Nat := 255

/-- Follows a path from a place. -/
def follow (d : Directory) : Place → String → Place
  | .nowhere fault, _ => .nowhere fault
  | .here, part =>
      if part = "" ∨ part = "." then .here
      else if part = ".." then .above
      else if longestName < part.utf8ByteSize then .nowhere (.other "File name too long (os error 36)")
      else .name part
  | .above, part => if part = "" ∨ part = "." ∨ part = ".." then .above else .nowhere .missing
  | .name s, _ => if (d.file? s).isSome then .nowhere .notDirectory else .nowhere .missing

/-- What a path leads to. -/
def place (d : Directory) (path : String) : Place := (parts path).foldl (follow d) .here

/-- Reads the file at a path. -/
def read (d : Directory) (path : String) : Except Storage.Fault String :=
  match d.place path with
  | .here => .error .directory
  | .above => .error .directory
  | .nowhere fault => .error fault
  | .name s =>
      match d.file? s with
      | some text => .ok text
      | none => .error .missing

/-- The directory with the text of one file set. -/
def set (d : Directory) (name text : String) : Directory :=
  if (d.file? name).isSome then d.map fun f => if f.1 = name then (name, text) else f
  else d ++ [(name, text)]

/-- Writes a text at a path. -/
def write (d : Directory) (path text : String) : Except Storage.Fault Directory :=
  match d.place path with
  | .here => .error .directory
  | .above => .error .directory
  | .nowhere fault => .error fault
  | .name s => .ok (d.set s text)

end Directory

end TestBench.Console
