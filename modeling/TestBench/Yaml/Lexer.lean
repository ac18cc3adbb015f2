import TestBench.Yaml.Block
import TestBench.Yaml.Plain
import TestBench.Yaml.Property
import TestBench.Yaml.Quoted

/-!
# From characters to tokens

The lexer reads a text from left to right and writes its tokens. Two things make that harder than
taking words one by one.

* **Indentation.** A block collection starts where a line is indented deeper than the collection
  around it, and ends where a line is indented less. The lexer keeps the columns of the open block
  collections and writes a token at each change. Inside flow collections indentation means nothing.
* **Keys.** That a scalar is a key only shows at the colon behind it. So the lexer remembers where a
  key may have started, by the number of tokens written before it, and puts the missing tokens there
  when it meets the colon. A key must lie on one line and be short; a key that is `required`, because
  nothing else can stand at its column, must be followed by a colon.
-/

set_option autoImplicit false

namespace TestBench.Yaml

/-- A place where a key may have started. -/
structure PossibleKey where
  /-- Whether nothing else than a key can start there. -/
  required : Bool
  /-- The number of tokens before it. -/
  number : Nat
  /-- The place in the text. -/
  place : Place

/-- A lexer in the middle of a text. -/
structure Lexer where
  /-- The place it has come to. -/
  place : Place
  /-- The tokens so far, the last first. -/
  written : List Token
  /-- Whether a key may start at the place. -/
  keyAllowed : Bool
  /-- The column of the innermost block collection, `-1` outside all of them. -/
  indent : Int
  /-- The columns around it, the innermost first. -/
  outerIndents : List Int
  /-- Where a key of the innermost flow collection may have started. -/
  possibleKey : Option PossibleKey
  /-- The same for the collections around it; there is one for each open flow collection. -/
  outerKeys : List (Option PossibleKey)

namespace Lexer

/-- A lexer at the start of a text. -/
def start (text : List Char) : Lexer := ⟨Place.start text, [], true, -1, [], none, []⟩

/-- Whether the place is inside a flow collection. -/
def inFlow (l : Lexer) : Bool := !l.outerKeys.isEmpty

/-- Writes a token. -/
def write (l : Lexer) (t : Token) : Lexer := { l with written := t :: l.written }

/-- Puts a token where so many tokens come before it. -/
def writeAt (l : Lexer) (number : Nat) (t : Token) : Lexer :=
  let later := l.written.length - number
  { l with written := l.written.take later ++ t :: l.written.drop later }

/-- Goes on to another place. -/
def goTo (l : Lexer) (p : Place) : Lexer := { l with place := p }

/-- Says whether a key may start next. -/
def allowKey (l : Lexer) (allowed : Bool) : Lexer := { l with keyAllowed := allowed }

/-- Writes a token for the next characters of the line. -/
def take (l : Lexer) (count : Nat) (t : Token) : Lexer := (l.write t).goTo (l.place.skip count)

/-! ## Indentation -/

/-- Opens a block collection at a column, unless one that deep is open. -/
def openBlock (l : Lexer) (column number : Nat) (t : Token) : Lexer :=
  if l.inFlow then l
  else if l.indent < column then
    { l.writeAt number t with indent := column, outerIndents := l.indent :: l.outerIndents }
  else l

/-- Closes block collections while they are indented deeper than a column. The columns around the
innermost collection bound the number of rounds. -/
def closeDeeper (column : Int) : List Int → Lexer → Lexer
  | [], l => l
  | outer :: rest, l =>
      if column < l.indent then
        closeDeeper column rest { l.write .blockEnd with indent := outer, outerIndents := rest }
      else l

/-- Closes the block collections that are indented deeper than a column. -/
def closeBlocks (l : Lexer) (column : Int) : Lexer :=
  if l.inFlow then l else closeDeeper column l.outerIndents l

/-! ## Possible keys -/

/-- Drops a possible key that lies too far behind; a required one is a fault. -/
def stillPossible (now : Place) : Option PossibleKey → Except Fault (Option PossibleKey)
  | none => .ok none
  | some k =>
      if k.place.line < now.line ∨ k.place.index + 1024 < now.index then
        if k.required then .error (.keyWithoutColon k.place.line) else .ok none
      else .ok (some k)

/-- Drops the possible keys that lie too far behind. -/
def dropStaleKeys (l : Lexer) : Except Fault Lexer := do
  let outerKeys ← l.outerKeys.mapM (stillPossible l.place)
  let possibleKey ← stillPossible l.place l.possibleKey
  return { l with possibleKey := possibleKey, outerKeys := outerKeys }

/-- Gives up the possible key of the innermost flow collection; a required one is a fault. -/
def giveUpKey (l : Lexer) : Except Fault Lexer :=
  match l.possibleKey with
  | some k =>
      if k.required then .error (.keyWithoutColon k.place.line)
      else .ok { l with possibleKey := none }
  | none => .ok l

/-- Remembers that a key may start at the place. -/
def rememberKey (l : Lexer) : Except Fault Lexer :=
  if l.keyAllowed then do
    let l ← l.giveUpKey
    let required := !l.inFlow && l.indent == l.place.column
    return { l with possibleKey := some ⟨required, l.written.length, l.place⟩ }
  else .ok l

/-! ## Between tokens -/

/-- The place behind the order mark that may start a line. -/
def skipOrderMark (p : Place) : Place :=
  if p.column == 0 && p.sees orderMark then p.skip 1 else p

/-- Goes on to the next token, over blanks, comments and line breaks. Tabs may not stand where
indentation is counted. Each round takes a line. -/
def skipToToken : Nat → Lexer → Lexer
  | 0, l => l
  | n + 1, l =>
      let tabs := l.inFlow || !l.keyAllowed
      let p := (skipOrderMark l.place).span fun c => c == ' ' || (tabs && c == '\t')
      let p := p.2.skipComment
      if p.peek.any isBreak then
        let l := l.goTo p.breakLine.2
        skipToToken n (if l.inFlow then l else l.allowKey true)
      else l.goTo p

/-- Goes on to the next token and brings the open collections and possible keys up to date. -/
def prepare (l : Lexer) : Except Fault Lexer := do
  let l ← (skipToToken (l.place.rest.length + 1) l).dropStaleKeys
  return l.closeBlocks l.place.column

/-! ## Tokens -/

/-- Ends all block collections, as at a line between documents and at the end of the text. -/
def endBlocks (l : Lexer) : Except Fault Lexer := do
  return (← (l.closeBlocks (-1)).giveUpKey).allowKey false

/-- A line between documents. -/
def documentMark (l : Lexer) (t : Token) : Except Fault Lexer := do
  return (← l.endBlocks).take 3 t

/-- A directive. -/
def directive (l : Lexer) : Except Fault Lexer := do
  let l ← l.endBlocks
  let (t, p) ← Property.directive l.place
  return (l.write t).goTo p

/-- The start of a flow collection. -/
def openFlow (l : Lexer) (t : Token) : Except Fault Lexer := do
  let l ← l.rememberKey
  let l := { l with possibleKey := none, outerKeys := l.possibleKey :: l.outerKeys }
  return (l.allowKey true).take 1 t

/-- The end of a flow collection. -/
def closeFlow (l : Lexer) (t : Token) : Except Fault Lexer := do
  let l ← l.giveUpKey
  let l := match l.outerKeys with
    | k :: rest => { l with possibleKey := k, outerKeys := rest }
    | [] => l
  return (l.allowKey false).take 1 t

/-- The mark between the items of a flow collection. -/
def comma (l : Lexer) : Except Fault Lexer := do
  return ((← l.giveUpKey).allowKey true).take 1 .comma

/-- The mark before an item of a block sequence. -/
def entry (l : Lexer) : Except Fault Lexer := do
  if !l.inFlow && !l.keyAllowed then .error (.misplacedEntry l.place.line)
  else
    let l := l.openBlock l.place.column l.written.length .blockSequence
    return ((← l.giveUpKey).allowKey true).take 1 .entry

/-- The mark before a key. -/
def key (l : Lexer) : Except Fault Lexer := do
  if !l.inFlow && !l.keyAllowed then .error (.misplacedKey l.place.line)
  else
    let l := l.openBlock l.place.column l.written.length .blockMapping
    let l ← l.giveUpKey
    return (l.allowKey !l.inFlow).take 1 .key

/-- The mark before a value. It makes a key of what may have been one. -/
def value (l : Lexer) : Except Fault Lexer :=
  match l.possibleKey with
  | some k =>
      let l := l.writeAt k.number .key
      let l := l.openBlock k.place.column k.number .blockMapping
      .ok (({ l with possibleKey := none }.allowKey false).take 1 .value)
  | none =>
      if !l.inFlow && !l.keyAllowed then .error (.misplacedValue l.place.line)
      else
        let l := l.openBlock l.place.column l.written.length .blockMapping
        .ok ((l.allowKey !l.inFlow).take 1 .value)

/-- A part that may start a key. -/
def keyPart (l : Lexer) (read : Place → Except Fault (Token × Place)) : Except Fault Lexer := do
  let l ← l.rememberKey
  let (t, p) ← read l.place
  return ((l.allowKey false).write t).goTo p

/-- An alias. -/
def reference (l : Lexer) : Except Fault Lexer :=
  l.keyPart fun p => (Property.anchor p).map fun r => (.reference r.1, r.2)

/-- An anchor. -/
def anchor (l : Lexer) : Except Fault Lexer :=
  l.keyPart fun p => (Property.anchor p).map fun r => (.anchor r.1, r.2)

/-- A tag. -/
def tag (l : Lexer) : Except Fault Lexer :=
  l.keyPart fun p => (Property.tag l.inFlow p).map fun r => (.tag r.1, r.2)

/-- A quoted scalar. -/
def quoted (l : Lexer) (single : Bool) : Except Fault Lexer :=
  l.keyPart fun p => (Quoted.scan single p).map fun r => (.scalar r.1 .marked, r.2)

/-- A plain scalar. A key may start behind it if it was left over a line break. -/
def plain (l : Lexer) : Except Fault Lexer := do
  let l ← l.rememberKey
  let (text, broken, p) ← Plain.scan l.inFlow (l.indent + 1).toNat l.place
  return ((l.allowKey broken).write (.scalar text .plain)).goTo p

/-- A block scalar. -/
def block (l : Lexer) (literal : Bool) : Except Fault Lexer := do
  let l := (← l.giveUpKey).allowKey true
  let (text, p) ← Block.scan literal l.indent l.place
  return (l.write (.scalar text .marked)).goTo p

/-- Whether the character has a meaning of its own at the start of a part. -/
def isIndicator (c : Char) : Bool := "-?:,[]\x7b\x7d#&*!|>'\"%@\x60".toList.contains c

/-- Whether a plain scalar can start with a character, given the one after it. -/
def startsPlain (inFlow : Bool) (c : Char) (next : Option Char) : Bool :=
  (!isSeparator (some c) && !isIndicator c) || (c == '-' && !next.any isGap) ||
    (!inFlow && (c == '?' || c == ':') && !isSeparator next)

/-- The token that starts with a character, given the one after it. -/
def fetchAt (l : Lexer) (c : Char) (next : Option Char) : Except Fault Lexer :=
  if l.place.column == 0 && c == '%' then l.directive
  else if l.place.seesMarker '-' then l.documentMark .documentStart
  else if l.place.seesMarker '.' then l.documentMark .documentEnd
  else if c == '[' then l.openFlow .flowSequence
  else if c == '\x7b' then l.openFlow .flowMapping
  else if c == ']' then l.closeFlow .flowSequenceEnd
  else if c == '\x7d' then l.closeFlow .flowMappingEnd
  else if c == ',' then l.comma
  else if c == '-' && isSeparator next then l.entry
  else if c == '?' && (l.inFlow || isSeparator next) then l.key
  else if c == ':' && (l.inFlow || isSeparator next) then l.value
  else if c == '*' then l.reference
  else if c == '&' then l.anchor
  else if c == '!' then l.tag
  else if c == '|' && !l.inFlow then l.block true
  else if c == '>' && !l.inFlow then l.block false
  else if c == '\'' then l.quoted true
  else if c == '"' then l.quoted false
  else if startsPlain l.inFlow c next then l.plain
  else .error (.unexpectedCharacter l.place.line)

/-- The tokens up to the end of the text, one each round. -/
def run : Nat → Lexer → Except Fault Lexer
  | 0, l => .ok l
  | n + 1, l => do
      let l ← l.prepare
      match l.place.peek with
      | none => l.endBlocks
      | some c => run n (← l.fetchAt c (l.place.ahead 1))

end Lexer

/-- The tokens of a text, all of whose characters must be readable. A token takes at least one
character, and the end of the text takes a last round. -/
def tokens (text : List Char) : Except Fault (List Token) :=
  match text.find? fun c => !isReadable c with
  | some c => .error (.unreadable c)
  | none => ((Lexer.start text).run (text.length + 1)).map fun l => l.written.reverse

end TestBench.Yaml
