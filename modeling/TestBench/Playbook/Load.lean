import TestBench.Playbook.Basic
import TestBench.Text.Blank
import TestBench.Yaml.Value

/-!
# Playbooks from files

A playbook is a file in an indented notation for values. A file of white space only, a file with no
document in it, and no file at all are the empty playbook.
-/

set_option autoImplicit false

namespace TestBench.Playbook

/-- The playbook of a text. -/
def ofText (text : String) : Except Fault Playbook :=
  if Text.isAbsent text then ofJson .null
  else
    match Yaml.ofText text with
    | .ok document => ofJson document
    | .error f => .error (.notYaml f.message)

/-- The playbook at a path, if there is a path. -/
def load (read : Storage.Reader) : Option String → Except Fault Playbook
  | none => ofJson (.object [])
  | some path =>
      match read path with
      | .ok text => ofText text
      | .error f => .error (.unreadable path f)

end TestBench.Playbook
