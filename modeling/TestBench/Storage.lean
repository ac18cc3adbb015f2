/-!
# Stored texts

Playbooks and catalogs are files of text. This module names the ways in which a file can fail to be
one, and turns the bytes of a file into its text.
-/

set_option autoImplicit false

namespace TestBench.Storage

/-- Why a file cannot be used. -/
inductive Fault where
  /-- There is no file at the path. -/
  | missing
  /-- The path leads to a directory. -/
  | directory
  /-- The path goes on behind a file. -/
  | notDirectory
  /-- The bytes of the file are not UTF-8. -/
  | notText
  /-- The system gave another reason. -/
  | other (reason : String)
deriving DecidableEq, Repr

/-- The wording of a fault. -/
def Fault.message : Fault → String
  | .missing => "No such file or directory (os error 2)"
  | .directory => "Is a directory (os error 21)"
  | .notDirectory => "Not a directory (os error 20)"
  | .notText => "stream did not contain valid UTF-8"
  | .other reason => reason

/-- The text that bytes stand for. -/
def decode (bytes : ByteArray) : Except Fault String :=
  match String.fromUTF8? bytes with
  | some s => .ok s
  | none => .error .notText

/-- What is found at a path. -/
abbrev Reader := String → Except Fault String

end TestBench.Storage
