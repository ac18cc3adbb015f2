import TestBench.Yaml.Fault

/-!
# White space between the words of a flow scalar

Plain and quoted scalars go on over several lines. The white space between two words is kept while
they are on one line. Over a line break the blanks around it are dropped, a single break becomes a
space, and further breaks stand for themselves. `Folding` collects the white space met since the last
word, and `Folding.joined` is what it amounts to.
-/

set_option autoImplicit false

namespace TestBench.Yaml

/-- The white space met since the last word. -/
structure Folding where
  /-- The blanks, while no line break has come. -/
  blanks : List Char
  /-- Whether a line break has come. -/
  broken : Bool
  /-- The first line break; nothing when it was escaped. -/
  firstBreak : List Char
  /-- The line breaks after the first. -/
  moreBreaks : List Char

namespace Folding

/-- No white space. -/
def none : Folding := ⟨[], false, [], []⟩

/-- An escaped line break. -/
def escapedBreak : Folding := ⟨[], true, [], []⟩

/-- One more blank. Blanks around line breaks are dropped. -/
def addBlank (f : Folding) (c : Char) : Folding :=
  if f.broken then f else { f with blanks := f.blanks ++ [c] }

/-- One more line break. -/
def addBreak (f : Folding) (c : List Char) : Folding :=
  if f.broken then { f with moreBreaks := f.moreBreaks ++ c }
  else ⟨[], true, c, f.moreBreaks⟩

/-- What the white space amounts to between two words. -/
def joined (f : Folding) : List Char :=
  if f.broken then
    if f.firstBreak = ['\n'] then
      if f.moreBreaks = [] then [' '] else f.moreBreaks
    else f.firstBreak ++ f.moreBreaks
  else f.blanks

/-- Collects the white space ahead. With `indent`, a tab on a later line must not stand before that
column. Each round takes a character, so as many rounds as characters are enough. -/
def collect (indent : Option Nat) : Nat → Folding → Place → Except Fault (Folding × Place)
  | 0, f, p => .ok (f, p)
  | rounds + 1, f, p =>
      match p.peek with
      | some c =>
          if isGap c then
            if f.broken && c == '\t' && indent.any fun n => decide (p.column < n) then
              .error (.tabInIndentation p.line)
            else collect indent rounds (f.addBlank c) (p.skip 1)
          else if isBreak c then
            let (text, p) := p.breakLine
            collect indent rounds (f.addBreak text) p
          else .ok (f, p)
      | _ => .ok (f, p)

end Folding

end TestBench.Yaml
