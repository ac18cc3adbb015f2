import TestBench.Yaml.Fault

/-!
# Block scalars

A block scalar is an indented block of lines under a header. The header says whether lines are kept
or folded, what becomes of the line breaks at the end, and, if it has a number, how far the block is
indented; otherwise the first line that is not empty decides. Folding turns a single line break
between two lines into a space, unless one of them starts with white space.
-/

set_option autoImplicit false

namespace TestBench.Yaml.Block

/-- What becomes of the line breaks at the end. -/
inductive Chomping where
  /-- None is kept. -/
  | strip
  /-- One is kept. -/
  | clip
  /-- All are kept. -/
  | keep
deriving DecidableEq, Repr

/-- The header of a block scalar. -/
structure Header where
  /-- What becomes of the line breaks at the end. -/
  chomping : Chomping
  /-- How far the block is indented, or zero if its first line decides. -/
  increment : Nat

/-- The chomping that a character asks for. -/
def chomping? : Char → Option Chomping
  | '+' => some .keep
  | '-' => some .strip
  | _ => none

/-- The indentation that a character asks for. -/
def increment? (c : Char) : Option Nat := if c.isDigit then some (c.toNat - '0'.toNat) else none

/-- The chomping ahead. -/
def chompingAhead (p : Place) : Chomping × Place :=
  match p.peek.bind chomping? with
  | some c => (c, p.skip 1)
  | none => (.clip, p)

/-- The indentation ahead; zero is refused. -/
def incrementAhead (p : Place) : Except Fault (Nat × Place) :=
  match p.peek.bind increment? with
  | some 0 => .error (.badBlockHeader p.line)
  | some n => .ok (n, p.skip 1)
  | none => .ok (0, p)

/-- The header, behind its indicator: chomping and indentation in either order. -/
def header (p : Place) : Except Fault (Header × Place) := do
  if (p.peek.bind chomping?).isSome then
    let (chomping, p) := chompingAhead p
    let (increment, p) ← incrementAhead p
    return (⟨chomping, increment⟩, p)
  else
    let (increment, p) ← incrementAhead p
    if increment = 0 then return (⟨.clip, 0⟩, p)
    else
      let (chomping, p) := chompingAhead p
      return (⟨chomping, increment⟩, p)

/-- The place behind the line of a header or directive, on which only a comment may follow. -/
def endOfLine (p : Place) (fault : Fault) : Except Fault Place :=
  let p := p.skipGaps.skipComment
  if endsLine p.peek then .ok p.breakLine.2 else .error fault

/-- The place behind the spaces that indent a line, up to the given column if there is one. -/
def skipIndentation (indent : Nat) (p : Place) : Place :=
  let spaces := (p.rest.takeWhile (· == ' ')).length
  p.skip (if indent = 0 then spaces else min spaces (indent - p.column))

/-- The empty lines ahead: their breaks, the greatest column of their indentation, and the place
behind the indentation of the line after them. -/
def emptyLines (indent : Nat) :
    Nat → List Char → Nat → Place → Except Fault (List Char × Nat × Place)
  | 0, breaks, deepest, p => .ok (breaks, deepest, p)
  | n + 1, breaks, deepest, p =>
      let p := skipIndentation indent p
      let deepest := max deepest p.column
      if (indent = 0 ∨ p.column < indent) ∧ p.sees '\t' then .error (.tabInIndentation p.line)
      else if p.peek.any isBreak then
        let (text, p) := p.breakLine
        emptyLines indent n (breaks ++ text) deepest p
      else .ok (breaks, deepest, p)

/-- The text of a block as far as it was read. -/
structure Lines where
  /-- The text of the lines, without the last break. -/
  text : List Char
  /-- The break after the last line. -/
  lastBreak : List Char
  /-- Whether the last line started with white space. -/
  lastBlank : Bool
  /-- The breaks of the empty lines after it. -/
  emptyBreaks : List Char

/-- The text with the breaks before the next line, which starts with white space if `blank`. -/
def Lines.joined (l : Lines) (literal blank : Bool) : List Char :=
  if !literal && l.lastBreak == ['\n'] && !l.lastBlank && !blank then
    l.text ++ (if l.emptyBreaks = [] then [' '] else []) ++ l.emptyBreaks
  else l.text ++ l.lastBreak ++ l.emptyBreaks

/-- The lines of a block that is indented to the given column. -/
def lines (literal : Bool) (indent : Nat) : Nat → Lines → Place → Except Fault (Lines × Place)
  | 0, l, p => .ok (l, p)
  | n + 1, l, p =>
      if p.column = indent ∧ ¬ p.rest.isEmpty then do
        let blank := p.peek.any isGap
        let start := l.joined literal blank
        let (chars, p) := p.span fun c => !isBreak c
        let (lastBreak, p) := p.breakLine
        let (emptyBreaks, _, p) ← emptyLines indent (p.rest.length + 1) [] 0 p
        lines literal indent n ⟨start ++ chars, lastBreak, blank, emptyBreaks⟩ p
      else .ok (l, p)

/-- The text of a block once its end is chomped. -/
def Lines.chomped (l : Lines) : Chomping → List Char
  | .strip => l.text
  | .clip => l.text ++ l.lastBreak
  | .keep => l.text ++ l.lastBreak ++ l.emptyBreaks

/-- A block scalar, at its indicator, in a collection indented to the given column, which is `-1`
outside all collections. -/
def scan (literal : Bool) (outer : Int) (p : Place) : Except Fault (String × Place) := do
  let line := p.line
  let (header, p) ← header (p.skip 1)
  let p ← endOfLine p (.badBlockHeader line)
  let asked := if header.increment = 0 then 0 else header.increment + outer.toNat
  let (breaks, deepest, p) ← emptyLines asked (p.rest.length + 1) [] 0 p
  let indent := if asked = 0 then max deepest (max (outer + 1).toNat 1) else asked
  let (l, p) ← lines literal indent (p.rest.length + 1) ⟨[], [], false, breaks⟩ p
  return (String.ofList (l.chomped header.chomping), p)

end TestBench.Yaml.Block
