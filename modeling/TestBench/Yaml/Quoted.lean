import TestBench.Yaml.Folding

/-!
# Quoted scalars

A quoted scalar stands between single or double marks. Between single marks a doubled mark stands for
one, and nothing else is special. Between double marks a backslash starts an escape, and an escaped
line break joins two lines without a space.
-/

set_option autoImplicit false

namespace TestBench.Yaml.Quoted

/-- The character of an escape by a letter. -/
def letterEscape? : Char → Option Char
  | '0' => some '\x00'
  | 'a' => some '\x07'
  | 'b' => some '\x08'
  | 't' => some '\t'
  | '\t' => some '\t'
  | 'n' => some '\n'
  | 'v' => some '\x0b'
  | 'f' => some '\x0c'
  | 'r' => some '\r'
  | 'e' => some '\x1b'
  | ' ' => some ' '
  | '"' => some '"'
  | '/' => some '/'
  | '\\' => some '\\'
  | 'N' => some nextLine
  | '_' => some '\u00a0'
  | 'L' => some '\u2028'
  | 'P' => some '\u2029'
  | _ => none

/-- The number of hexadecimal digits of an escape by number. -/
def digitCount? : Char → Option Nat
  | 'x' => some 2
  | 'u' => some 4
  | 'U' => some 8
  | _ => none

/-- The value of so many hexadecimal digits. -/
def hexNumber? (count : Nat) (digits : List Char) : Option Nat :=
  if digits.length < count then none
  else (digits.take count).foldlM (fun acc c => (hexValue? c).map fun d => acc * 16 + d) 0

/-- The character of an escape by number. -/
def charOfNumber? (n : Nat) : Option Char :=
  if (0xD800 ≤ n ∧ n ≤ 0xDFFF) ∨ 0x10FFFF < n then none else some (Char.ofNat n)

/-- The character of the escape behind a backslash, and how many characters it takes. -/
def escape? : List Char → Option (Char × Nat)
  | [] => none
  | c :: rest =>
      match letterEscape? c, digitCount? c with
      | some d, _ => some (d, 1)
      | none, some count =>
          ((hexNumber? count rest).bind charOfNumber?).map fun d => (d, count + 1)
      | none, none => none

/-- Where a word of a quoted scalar ends. -/
inductive Stop where
  /-- At white space, at the closing mark or at the end of the text. -/
  | plain
  /-- At an escaped line break. -/
  | escapedBreak

/-- The characters of the word ahead, in rounds of one character or escape. -/
def word (single : Bool) : Nat → List Char → Place → Except Fault (List Char × Stop × Place)
  | 0, text, p => .ok (text, .plain, p)
  | n + 1, text, p =>
      match p.rest with
      | [] => .ok (text, .plain, p)
      | c :: rest =>
          if isSeparator (some c) then .ok (text, .plain, p)
          else if single then
            if c == '\'' then
              if rest.head? == some '\'' then word single n (text ++ ['\'']) (p.skip 2)
              else .ok (text, .plain, p)
            else word single n (text ++ [c]) (p.skip 1)
          else if c == '"' then .ok (text, .plain, p)
          else if c == '\\' then
            if rest.head?.any isBreak then .ok (text, .escapedBreak, (p.skip 1).breakLine.2)
            else
              match escape? rest with
              | some (d, count) => word single n (text ++ [d]) (p.skip (count + 1))
              | none => .error (.badEscape p.line)
          else word single n (text ++ [c]) (p.skip 1)

/-- The closing mark. -/
def closer (single : Bool) : Char := if single then '\'' else '"'

/-- The words of a quoted scalar with the white space between them, behind the opening mark. -/
def rounds (single : Bool) : Nat → List Char → Place → Except Fault (String × Place)
  | 0, _, p => .error (.unclosedQuote p.line)
  | n + 1, text, p =>
      if p.seesDocumentMarker || p.rest.isEmpty then .error (.unclosedQuote p.line)
      else do
        let (text, stop, p) ← word single (p.rest.length + 1) text p
        if p.sees (closer single) then .ok (String.ofList text, p.skip 1)
        else
          let f := match stop with
            | .plain => Folding.none
            | .escapedBreak => Folding.escapedBreak
          let (f, p) ← Folding.collect none (p.rest.length + 1) f p
          rounds single n (text ++ f.joined) p

/-- A quoted scalar, at its opening mark. -/
def scan (single : Bool) (p : Place) : Except Fault (String × Place) :=
  rounds single (p.rest.length + 1) [] (p.skip 1)

end TestBench.Yaml.Quoted
