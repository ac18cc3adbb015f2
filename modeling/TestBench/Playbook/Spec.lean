import TestBench.Json.Read

/-!
# Target specifications

A `TargetSpec` names a kind of target that a run exercises: the platform that provides it and the
parameters that the platform is given. Parameters are any JSON values by name; two targets are
interchangeable only if their parameters are equal.
-/

set_option autoImplicit false

namespace TestBench

/-- The parameters of a target, by name. -/
abbrev Parameters := Json.Fields

/-- A kind of target that a run exercises. -/
structure TargetSpec where
  /-- The label by which invocations name the target. -/
  name : String
  /-- The kind of the platform that provides the target. -/
  platform : String
  /-- What the platform is given. -/
  parameters : Parameters

namespace TargetSpec

/-- The specification without parameters. -/
def basic (name platform : String) : TargetSpec := ⟨name, platform, []⟩

/-- The specification with one parameter set. -/
def withParameter (s : TargetSpec) (key : String) (value : Json) : TargetSpec :=
  { s with parameters := s.parameters.insert key value }

/-- The fields of a specification read so far. -/
structure Draft where
  /-- The label. -/
  name : Option String
  /-- The kind of the platform. -/
  platform : Option String
  /-- The parameters. -/
  parameters : Option Parameters

/-- How a specification is read: three fields and no others. -/
def record : Json.Record Draft TargetSpec where
  label := "TargetSpec"
  closed := true
  fields :=
    [.at "name" false (·.name) (fun a d => { d with name := some a }) Json.readString,
     .at "platform" false (·.platform) (fun a d => { d with platform := some a }) Json.readString,
     .at "parameters" true (·.parameters) (fun a d => { d with parameters := some a })
       Json.readFields]
  blank := ⟨none, none, none⟩
  finish d := do
    let name ← Json.required "name" d.name
    let platform ← Json.required "platform" d.platform
    return ⟨name, platform, d.parameters.getD []⟩

/-- The specification that a value stands for. -/
def ofJson (v : Json) : Except Json.Mismatch TargetSpec := record.read v

/-- The written form of a specification: all three fields. -/
def toJson (s : TargetSpec) : Json :=
  .object
    [("name", .string s.name), ("parameters", .object s.parameters),
     ("platform", .string s.platform)]

end TargetSpec

end TestBench
