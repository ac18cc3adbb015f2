import TestBench.Yaml.Block
import TestBench.Yaml.Token

/-!
# Directives, anchors and tags

A directive is a line at the start of a document that asks for a version or defines a handle. An anchor
names a value, and an alias repeats the value of that name. A tag says what a value is: it is written
in full between angle brackets, or as a handle with a suffix.

In a tag, a percent sign and two hexadecimal digits stand for a byte. The bytes of neighbouring escapes
have the lengths of encoded characters, but need not form characters. A zero byte ends the tag: what is
written after it has to be well formed but does not count.
-/

set_option autoImplicit false

namespace TestBench.Yaml.Property

/-! ## Anchors and aliases -/

/-- Whether a character, or the end of the text, may follow the name of an anchor. -/
def endsName : Option Char → Bool
  | none => true
  | some c => isSeparator (some c) || "?:,]\x7d%@\x60".toList.contains c

/-- The name of an anchor or alias, at its indicator. -/
def anchor (p : Place) : Except Fault (String × Place) :=
  let (name, behind) := (p.skip 1).span isWordChar
  if name.isEmpty || !endsName behind.peek then .error (.badAnchor p.line)
  else .ok (String.ofList name, behind)

/-! ## Bytes of tags -/

/-- The byte of the escape at the start of a text. -/
def escapedByte? : List Char → Option UInt8
  | '%' :: a :: b :: _ => do
      let high ← hexValue? a
      let low ← hexValue? b
      return UInt8.ofNat (high * 16 + low)
  | _ => none

/-- How many bytes follow a first byte in the encoding of a character. -/
def following? (b : UInt8) : Option Nat :=
  if b < 0x80 then some 0
  else if 0xC0 ≤ b ∧ b < 0xE0 then some 1
  else if 0xE0 ≤ b ∧ b < 0xF0 then some 2
  else if 0xF0 ≤ b ∧ b < 0xF8 then some 3
  else none

/-- So many escapes of bytes that go on with a character. -/
def followingBytes : Nat → Place → Except Fault (List UInt8 × Place)
  | 0, p => .ok ([], p)
  | n + 1, p =>
      match escapedByte? p.rest with
      | some b =>
          if 0x80 ≤ b ∧ b < 0xC0 then do
            let (bytes, behind) ← followingBytes n (p.skip 3)
            return (b :: bytes, behind)
          else .error (.badTag p.line)
      | none => .error (.badTag p.line)

/-- The escapes of the bytes of one character. -/
def escapedBytes (p : Place) : Except Fault (List UInt8 × Place) :=
  match (escapedByte? p.rest).bind fun b => (following? b).map (b, ·) with
  | some (b, n) => do
      let (bytes, behind) ← followingBytes n (p.skip 3)
      return (b :: bytes, behind)
  | none => .error (.badTag p.line)

/-- The characters ahead that belong to a tag, as bytes. With `full`, the marks that separate and
enclose the items of a flow sequence belong to it. Each round takes a character or escape. -/
def tagBytes (full : Bool) : Nat → Place → Except Fault (List UInt8 × Place)
  | 0, p => .ok ([], p)
  | n + 1, p =>
      match p.peek with
      | some '%' => do
          let (bytes, behind) ← escapedBytes p
          let (more, behind) ← tagBytes full n behind
          return (bytes ++ more, behind)
      | some c =>
          if isTagChar c || (full && (c == ',' || c == '[' || c == ']')) then do
            let (more, behind) ← tagBytes full n (p.skip 1)
            return (UInt8.ofNat c.toNat :: more, behind)
          else .ok ([], p)
      | none => .ok ([], p)

/-- The bytes that count. -/
def untilZero (bytes : List UInt8) : List UInt8 := bytes.takeWhile (· != 0)

/-- The bytes of a tag, of which at least one is written. -/
def someTagBytes (full : Bool) (p : Place) : Except Fault (List UInt8 × Place) := do
  let (bytes, behind) ← tagBytes full (p.rest.length + 1) p
  if bytes.isEmpty then .error (.badTag p.line) else .ok (untilZero bytes, behind)

/-! ## Tags -/

/-- The handle ahead: an exclamation mark, a word, and a second mark if there is one. -/
def handle (p : Place) : Except Fault (List Char × Place) :=
  if p.sees '!' then
    let (word, behind) := (p.skip 1).span isWordChar
    if behind.sees '!' then .ok ('!' :: word ++ ['!'], behind.skip 1)
    else .ok ('!' :: word, behind)
  else .error (.badTag p.line)

/-- The bytes of a text without escapes. -/
def bytesOf (text : List Char) : List UInt8 := (String.ofList text).toUTF8.toList

/-- A tag between angle brackets, behind its exclamation mark. -/
def verbatim (p : Place) : Except Fault (WrittenTag × Place) := do
  let (bytes, behind) ← someTagBytes true (p.skip 1)
  if behind.sees '>' then .ok (⟨"", bytes⟩, behind.skip 1) else .error (.badTag p.line)

/-- A tag with a handle. A word between two exclamation marks is a handle and needs a suffix. After
a single mark everything is suffix, and the mark alone is a tag of its own. -/
def shorthand (p : Place) : Except Fault (WrittenTag × Place) := do
  let (start, behind) ← handle p
  if start.length > 1 && start.getLast? == some '!' then
    let (suffix, behind) ← someTagBytes false behind
    return (⟨String.ofList start, suffix⟩, behind)
  else
    let (more, behind) ← tagBytes false (behind.rest.length + 1) behind
    let suffix := untilZero (bytesOf (start.drop 1) ++ more)
    if suffix.isEmpty then return (⟨"", bytesOf ['!']⟩, behind)
    else return (⟨"!", suffix⟩, behind)

/-- A tag, at its indicator. Something must separate it from what follows. -/
def tag (inFlow : Bool) (p : Place) : Except Fault (WrittenTag × Place) := do
  let (t, behind) ← if p.ahead 1 == some '<' then verbatim (p.skip 1) else shorthand p
  if isSeparator behind.peek || (inFlow && behind.sees ',') then .ok (t, behind)
  else .error (.badTag p.line)

/-! ## Directives -/

/-- A part of a version, of one to nine digits. -/
def versionPart (p : Place) : Except Fault (Nat × Place) :=
  let (digits, behind) := p.span Char.isDigit
  if digits.isEmpty || 9 < digits.length then .error .badDirective
  else .ok (digits.foldl (fun n c => n * 10 + (c.toNat - '0'.toNat)) 0, behind)

/-- A version, behind the name of its directive. -/
def version (p : Place) : Except Fault (Token × Place) := do
  let (major, p) ← versionPart p.skipGaps
  if p.sees '.' then
    let (minor, p) ← versionPart (p.skip 1)
    return (.version major minor, p)
  else .error .badDirective

/-- The definition of a handle, behind the name of its directive. -/
def handleDefinition (p : Place) : Except Fault (Token × Place) := do
  let (name, p) ← handle p.skipGaps
  if name.length > 1 && name.getLast? != some '!' then .error .badDirective
  else if !p.peek.any isGap then .error .badDirective
  else
    let (meaning, p) ← someTagBytes true p.skipGaps
    if isSeparator p.peek then return (.handle (String.ofList name) meaning, p)
    else .error .badDirective

/-- A directive, at its indicator, with the rest of its line. -/
def directive (p : Place) : Except Fault (Token × Place) := do
  let (name, p) := (p.skip 1).span isWordChar
  if !isSeparator p.peek then .error .badDirective
  else
    let (token, p) ←
      if name = "YAML".toList then version p
      else if name = "TAG".toList then handleDefinition p
      else .error .badDirective
    return (token, ← Block.endOfLine p .badDirective)

end TestBench.Yaml.Property
