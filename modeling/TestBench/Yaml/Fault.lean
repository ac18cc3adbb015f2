import TestBench.Yaml.Character

/-!
# Faults of the playbook notation

What can be wrong with a text, from its characters up to the values it describes, with one wording
for each.
-/

set_option autoImplicit false

namespace TestBench.Yaml

/-- What is wrong with a text. -/
inductive Fault where
  /-- A character that no text may hold. -/
  | unreadable (c : Char)
  /-- No part of a text can start with this character. -/
  | unexpectedCharacter (line : Nat)
  /-- A key on an earlier line, or too long a key, is not followed by a colon. -/
  | keyWithoutColon (line : Nat)
  /-- An item of a sequence may not start here. -/
  | misplacedEntry (line : Nat)
  /-- A key may not start here. -/
  | misplacedKey (line : Nat)
  /-- A value may not start here. -/
  | misplacedValue (line : Nat)
  /-- A directive is malformed, unknown or repeated. -/
  | badDirective
  /-- The version that a text asks for is not supported. -/
  | badVersion
  /-- An anchor or alias has no name, or one with a character that it may not hold. -/
  | badAnchor (line : Nat)
  /-- A tag is malformed. -/
  | badTag (line : Nat)
  /-- A tag uses a handle that no directive defines. -/
  | undefinedHandle
  /-- The header of a block scalar is malformed. -/
  | badBlockHeader (line : Nat)
  /-- A tab stands where only spaces may indent. -/
  | tabInIndentation (line : Nat)
  /-- A colon in a flow collection is followed by a flow mark. -/
  | unexpectedColon (line : Nat)
  /-- A quoted scalar is not closed before the end of its document. -/
  | unclosedQuote (line : Nat)
  /-- A quoted scalar holds an escape that does not exist. -/
  | badEscape (line : Nat)
  /-- The parts of the text do not form a document. -/
  | unexpectedPart (wanted : String)
  /-- The text holds more than one document. -/
  | secondDocument
  /-- An alias names an anchor that is not defined before it. -/
  | unknownAlias (name : String)
  /-- Collections are nested too deep. -/
  | tooDeep
  /-- Aliases repeat too much of the document. -/
  | tooManyRepeats
  /-- A value has a type of its own. -/
  | ownType
  /-- A value is not of the type that its tag forces. -/
  | wrongType (wanted : String)
  /-- An integer is out of range. -/
  | hugeInteger
  /-- A key is not a scalar. -/
  | badKey
deriving DecidableEq, Repr

/-- The wording of a fault. -/
def Fault.message : Fault → String
  | .unreadable c => s!"control characters are not allowed: {c.toNat}"
  | .unexpectedCharacter line => s!"no part can start with this character, line {line + 1}"
  | .keyWithoutColon line => s!"a key is not followed by a colon, line {line + 1}"
  | .misplacedEntry line => s!"block sequence entries are not allowed here, line {line + 1}"
  | .misplacedKey line => s!"mapping keys are not allowed here, line {line + 1}"
  | .misplacedValue line => s!"mapping values are not allowed here, line {line + 1}"
  | .badDirective => "malformed directive"
  | .badVersion => "incompatible document version"
  | .badAnchor line => s!"malformed anchor, line {line + 1}"
  | .badTag line => s!"malformed tag, line {line + 1}"
  | .undefinedHandle => "undefined tag handle"
  | .badBlockHeader line => s!"malformed block scalar header, line {line + 1}"
  | .tabInIndentation line => s!"a tab stands where indentation is expected, line {line + 1}"
  | .unexpectedColon line => s!"unexpected colon, line {line + 1}"
  | .unclosedQuote line => s!"unclosed quoted scalar, line {line + 1}"
  | .badEscape line => s!"unknown escape, line {line + 1}"
  | .unexpectedPart wanted => s!"did not find expected {wanted}"
  | .secondDocument => "more than one document"
  | .unknownAlias name => s!"unknown anchor {name}"
  | .tooDeep => "recursion limit exceeded"
  | .tooManyRepeats => "repetition limit exceeded"
  | .ownType => "unexpected tag"
  | .wrongType wanted => s!"expected {wanted}"
  | .hugeInteger => "integer out of range"
  | .badKey => "expected a string key"

end TestBench.Yaml
