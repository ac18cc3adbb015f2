import TestBench.Playbook.Spec
import TestBench.Playbook.Schema
import TestBench.Suite.Criterion
import TestBench.Storage

/-!
# Playbooks

A playbook is what a run is asked to do: the targets to exercise and the criteria that select tests. A
document becomes a playbook in three steps, each with its own fault: it follows the schema, it has the
form of a playbook, and no two targets share a name. The absent document is the empty playbook.
-/

set_option autoImplicit false

namespace TestBench

/-- The targets and criteria of a run. -/
structure Playbook where
  /-- The targets to exercise. -/
  targets : List TargetSpec
  /-- The selection rules, in the order in which they apply. -/
  criteria : List Criterion

namespace Playbook

/-- The playbook that asks for nothing. -/
def empty : Playbook := ⟨[], []⟩

instance : EmptyCollection Playbook := ⟨empty⟩

/-- Whether the playbook has neither targets nor criteria. -/
def isEmpty (p : Playbook) : Bool := p.targets.isEmpty && p.criteria.isEmpty

/-- The names of the targets. -/
def targetNames (p : Playbook) : List String := p.targets.map (·.name)

/-- The fields of a playbook read so far. -/
structure Draft where
  /-- The targets. -/
  targets : Option (List TargetSpec)
  /-- The criteria. -/
  criteria : Option (List Criterion)

/-- How a playbook is read: two fields and no others. -/
def record : Json.Record Draft Playbook where
  label := "Playbook"
  closed := true
  fields :=
    [.at "targets" true (·.targets) (fun a d => { d with targets := some a })
       (Json.readList TargetSpec.ofJson),
     .at "criteria" true (·.criteria) (fun a d => { d with criteria := some a })
       (Json.readList Criterion.ofJson)]
  blank := ⟨none, none⟩
  finish d := .ok ⟨d.targets.getD [], d.criteria.getD []⟩

/-- The written form of a playbook. -/
def toJson (p : Playbook) : Json :=
  .object
    [("criteria", .array (p.criteria.map Criterion.toJson)),
     ("targets", .array (p.targets.map TargetSpec.toJson))]

/-- Why a playbook cannot be used. -/
inductive Fault where
  /-- The file cannot be read. -/
  | unreadable (path : String) (fault : Storage.Fault)
  /-- The text is not in the notation of playbooks. -/
  | notYaml (reason : String)
  /-- The document departs from the schema. -/
  | violations (messages : List String)
  /-- The document follows the schema and has not the form of a playbook. -/
  | shape (reason : String)
  /-- Two targets have this name. -/
  | duplicateTarget (name : String)
  /-- The schema itself is unusable. -/
  | badSchema (reason : String)

/-- The wording of a fault. -/
def Fault.message : Fault → String
  | .unreadable path fault => s!"failed to read playbook {path}: {fault.message}"
  | .notYaml reason => s!"invalid playbook YAML: {reason}"
  | .violations messages => "playbook failed schema validation: " ++ "; ".intercalate messages
  | .shape reason => s!"malformed playbook: {reason}"
  | .duplicateTarget name => s!"duplicate target name in playbook: {name}"
  | .badSchema reason => s!"playbook schema is invalid: {reason}"

/-- The first name that occurs for the second time. -/
def firstRepeated? (seen : List String) : List String → Option String
  | [] => none
  | name :: rest => if name ∈ seen then some name else firstRepeated? (name :: seen) rest

/-- The playbook, unless two of its targets share a name. -/
def distinctTargets (p : Playbook) : Except Fault Playbook :=
  match firstRepeated? [] p.targetNames with
  | some name => .error (.duplicateTarget name)
  | none => .ok p

/-- The document with the empty playbook in place of the absent one. -/
def present : Json → Json
  | .null => .object []
  | v => v

/-- The playbook of a document. -/
def ofJson (document : Json) : Except Fault Playbook :=
  let document := present document
  match Schema.playbook document with
  | [] =>
      match record.read document with
      | .ok p => distinctTargets p
      | .error m => .error (.shape m.message)
  | found => .error (.violations (found.map (·.message)))

end Playbook

end TestBench
