import TestBench.Yaml.Folding

/-!
# Plain scalars

A plain scalar has no marks around it. It ends before a colon that is followed by a separator, before
a comment, at a line that is not indented enough, at a line that separates documents, and inside a
flow collection also before a flow mark.
-/

set_option autoImplicit false

namespace TestBench.Yaml.Plain

/-- Where a word of a plain scalar may not go on: the two characters ahead decide. -/
def endsWord (inFlow : Bool) (c : Char) (next : Option Char) : Bool :=
  isSeparator (some c) || (c == ':' && isSeparator next) || (inFlow && isFlowMark c)

/-- Whether a colon stands where flow collections do not allow one. -/
def isStrayColon (inFlow : Bool) (c : Char) (next : Option Char) : Bool :=
  inFlow && c == ':' && next.any fun d => isFlowMark d || d == '?'

/-- The characters of the word ahead. -/
def word (inFlow : Bool) (line : Nat) : List Char → Except Fault (List Char)
  | [] => .ok []
  | c :: rest =>
      if isSeparator (some c) then .ok []
      else if isStrayColon inFlow c rest.head? then .error (.unexpectedColon line)
      else if endsWord inFlow c rest.head? then .ok []
      else (word inFlow line rest).map (c :: ·)

/-- The words of a plain scalar with the white space between them, from a given text on. The result
has the folding that is left over behind the last word. -/
def rounds (inFlow : Bool) (indent : Nat) :
    Nat → List Char → Folding → Place → Except Fault (List Char × Folding × Place)
  | 0, text, f, p => .ok (text, f, p)
  | n + 1, text, f, p =>
      if p.seesDocumentMarker || p.sees '#' then .ok (text, f, p)
      else do
        let chars ← word inFlow p.line p.rest
        let behind := p.skip chars.length
        let text := if chars.isEmpty then text else text ++ f.joined ++ chars
        let f := if chars.isEmpty then f else .none
        match behind.peek with
        | some c =>
            if isGap c || isBreak c then
              let limit := if inFlow then none else some indent
              let (f, next) ← Folding.collect (some indent) (behind.rest.length + 1) f behind
              if limit.any fun n => decide (next.column < n) then .ok (text, f, next)
              else rounds inFlow indent n text f next
            else .ok (text, f, behind)
        | none => .ok (text, f, behind)

/-- A plain scalar: its text, whether it was left over a line break, and the place behind it. -/
def scan (inFlow : Bool) (indent : Nat) (p : Place) : Except Fault (String × Bool × Place) := do
  let (text, f, p) ← rounds inFlow indent (p.rest.length + 1) [] .none p
  return (String.ofList text, f.broken, p)

end TestBench.Yaml.Plain
