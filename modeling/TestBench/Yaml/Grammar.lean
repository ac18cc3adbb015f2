import TestBench.Yaml.Fault
import TestBench.Yaml.Node

/-!
# From tokens to the tree of a document

A text holds one document or none. The document may have directives before it and lines that end it
behind it; nothing else may follow. The rules below read a node by its first token. They take a number
of rounds, which bounds how deep they call each other: between two tokens that are taken there are
never more than three calls, so four rounds for each token are enough.
-/

set_option autoImplicit false

namespace TestBench.Yaml

/-- What handles stand for. -/
abbrev Handles := List (String × List UInt8)

/-- What is known while tokens are read. -/
structure Reading where
  /-- The tokens ahead. -/
  ahead : List Token
  /-- The anchors defined so far, each name once, with the number of its last definition. -/
  anchors : List (String × Nat)

/-- A rule that takes tokens and gives a result. -/
abbrev Rule (α : Type) := StateT Reading (Except Fault) α

namespace Rule

/-- The token ahead. -/
def peek : Rule (Option Token) := do return (← get).ahead.head?

/-- Takes the token ahead. -/
def skip : Rule Unit := modify fun r => { r with ahead := r.ahead.drop 1 }

/-- A fault for a part that is not the wanted one. -/
def unexpected {α : Type} (wanted : String) : Rule α := throw (.unexpectedPart wanted)

/-! ## Anchors and tags -/

/-- Defines an anchor. Its number is the number of names defined before, itself included. -/
def define (name : String) : Rule Nat := do
  let anchors := (← get).anchors
  modify fun r => { r with
    anchors := (name, anchors.length) :: anchors.filter fun a => a.1 != name }
  return anchors.length

/-- The number of an anchor that is defined. -/
def numberOf (name : String) : Rule Nat := do
  match (← get).anchors.find? fun a => a.1 == name with
  | some a => return a.2
  | none => throw (.unknownAlias name)

/-- An anchor, if one is ahead. -/
def anchor? : Rule (Option String) := do
  match ← peek with
  | some (.anchor name) => skip; return some name
  | _ => return none

/-- A tag, if one is ahead. -/
def tag? : Rule (Option WrittenTag) := do
  match ← peek with
  | some (.tag t) => skip; return some t
  | _ => return none

/-- A tag with the meaning of its handle put in. -/
def resolve (handles : Handles) (t : WrittenTag) : Rule (List UInt8) :=
  if t.handle.isEmpty then return t.suffix
  else
    match handles.find? fun h => h.1 == t.handle with
    | some h => return h.2 ++ t.suffix
    | none => throw .undefinedHandle

/-- An anchor and a tag, in either order. -/
def properties (handles : Handles) : Rule (Option String × Option (List UInt8)) := do
  let first ← anchor?
  let tag ← tag?
  let anchor ← if first.isNone then anchor? else pure first
  return (anchor, ← tag.mapM (resolve handles))

/-- The tag that is an exclamation mark alone. -/
def bareTag : List UInt8 := [0x21]

/-! ## Nodes -/

/-- The next node, or the blank node if one of the given tokens is ahead. -/
def blankBefore (ends : List Token) (next : Rule Node) : Rule Node := do
  match ← peek with
  | some t => if t ∈ ends then return .blank else next
  | none => next

mutual

/-- A node. Block collections are only allowed in a block, and a sequence that is not indented only
as key or value of a block mapping. -/
def node (handles : Handles) : Nat → (block unindented : Bool) → Rule Node
  | 0, _, _ => unexpected "node content"
  | n + 1, block, unindented => do
      if let some (.reference name) ← peek then
        skip
        return .reference (← numberOf name)
      let (name, tag) ← properties handles
      let t ← peek
      if unindented && t == some .entry then
        let p : Properties := ⟨← name.mapM define, tag⟩
        return .sequence p (← unindentedItems handles n)
      else
        match t with
        | some (.scalar text style) =>
            skip
            return .scalar ⟨← name.mapM define, if tag = some bareTag then none else tag⟩ text style
        | some .flowSequence =>
            skip
            let p : Properties := ⟨← name.mapM define, tag⟩
            return .sequence p (← flowItems handles n true)
        | some .flowMapping =>
            skip
            let p : Properties := ⟨← name.mapM define, tag⟩
            return .mapping p (← flowEntries handles n true)
        | _ =>
            if block && t == some .blockSequence then
              skip
              let p : Properties := ⟨← name.mapM define, tag⟩
              return .sequence p (← blockItems handles n)
            else if block && t == some .blockMapping then
              skip
              let p : Properties := ⟨← name.mapM define, tag⟩
              return .mapping p (← blockEntries handles n)
            else if name.isSome || tag.isSome then
              return .scalar ⟨← name.mapM define, tag⟩ "" .plain
            else unexpected "node content"

/-- The items of a block sequence, up to its end. -/
def blockItems (handles : Handles) : Nat → Rule (List Node)
  | 0 => unexpected "'-' indicator"
  | n + 1 => do
      match ← peek with
      | some .entry =>
          skip
          let item ← blankBefore [.entry, .blockEnd] (node handles n true false)
          return item :: (← blockItems handles n)
      | some .blockEnd => skip; return []
      | _ => unexpected "'-' indicator"

/-- The items of a sequence that is not indented. It has no end of its own. -/
def unindentedItems (handles : Handles) : Nat → Rule (List Node)
  | 0 => unexpected "'-' indicator"
  | n + 1 => do
      match ← peek with
      | some .entry =>
          skip
          let item ← blankBefore [.entry, .key, .value, .blockEnd] (node handles n true false)
          return item :: (← unindentedItems handles n)
      | _ => return []

/-- The entries of a block mapping, up to its end. -/
def blockEntries (handles : Handles) : Nat → Rule (List (Node × Node))
  | 0 => unexpected "key"
  | n + 1 => do
      match ← peek with
      | some .key =>
          skip
          let ends : List Token := [.key, .value, .blockEnd]
          let key ← blankBefore ends (node handles n true true)
          if let some .value ← peek then
            skip
            let value ← blankBefore ends (node handles n true true)
            return (key, value) :: (← blockEntries handles n)
          else return (key, .blank) :: (← blockEntries handles n)
      | some .blockEnd => skip; return []
      | _ => unexpected "key"

/-- The items of a flow sequence, up to its end. A key among them starts a mapping of one entry; when
the key is blank, the token that shows it is taken with it. -/
def flowItems (handles : Handles) : Nat → (first : Bool) → Rule (List Node)
  | 0, _ => unexpected "',' or ']'"
  | n + 1, first => do
      if (← peek) = some .flowSequenceEnd then
        skip
        return []
      if !first then
        if (← peek) = some .comma then skip else unexpected "',' or ']'"
      match ← peek with
      | some .flowSequenceEnd => skip; return []
      | some .key =>
          skip
          let key ← match ← peek with
            | some .value => skip; pure Node.blank
            | some .comma => skip; pure Node.blank
            | some .flowSequenceEnd => skip; pure Node.blank
            | _ => node handles n false false
          let value ← match ← peek with
            | some .value => skip; blankBefore [.comma, .flowSequenceEnd] (node handles n false false)
            | _ => pure Node.blank
          return .mapping ⟨none, none⟩ [(key, value)] :: (← flowItems handles n false)
      | _ =>
          let item ← node handles n false false
          return item :: (← flowItems handles n false)

/-- The entries of a flow mapping, up to its end. A node without a key before it is a key with a blank
value. -/
def flowEntries (handles : Handles) : Nat → (first : Bool) → Rule (List (Node × Node))
  | 0, _ => unexpected "',' or '\x7d'"
  | n + 1, first => do
      if (← peek) = some .flowMappingEnd then
        skip
        return []
      if !first then
        if (← peek) = some .comma then skip else unexpected "',' or '\x7d'"
      match ← peek with
      | some .flowMappingEnd => skip; return []
      | some .key =>
          skip
          let key ← blankBefore [.value, .comma, .flowMappingEnd] (node handles n false false)
          let value ← match ← peek with
            | some .value => skip; blankBefore [.comma, .flowMappingEnd] (node handles n false false)
            | _ => pure Node.blank
          return (key, value) :: (← flowEntries handles n false)
      | _ =>
          let key ← node handles n false false
          return (key, .blank) :: (← flowEntries handles n false)

end

/-! ## Documents -/

/-- The handles that every document has. -/
def usualHandles : Handles :=
  [("!", [0x21]), ("!!", "tag:yaml.org,2002:".toUTF8.toList)]

/-- The directives of a document: at most one version, which must be supported, and each handle at
most once. Also says whether a version was among them. -/
def directives : List Token → (versioned : Bool) → Handles → Except Fault (Handles × List Token)
  | .version major minor :: rest, versioned, handles =>
      if versioned then .error .badDirective
      else if major = 1 ∧ (minor = 1 ∨ minor = 2) then directives rest true handles
      else .error .badVersion
  | .handle name meaning :: rest, versioned, handles =>
      if handles.any fun h => h.1 == name then .error .badDirective
      else directives rest versioned (handles ++ [(name, meaning)])
  | rest, _, handles => .ok (handles, rest)

/-- Whether a document starts explicitly. -/
def startsDocument : Token → Bool
  | .version _ _ => true
  | .handle _ _ => true
  | .documentStart => true
  | _ => false

/-- Whether the content of a document cannot start with the token. -/
def endsDocument (t : Token) : Bool := startsDocument t || t == .documentEnd

/-- The content of a document, and the tokens behind it. -/
def content (handles : Handles) (ts : List Token) : Except Fault (Node × List Token) :=
  ((node handles (4 * ts.length + 4) true false).run ⟨ts, []⟩).map fun r => (r.1, r.2.ahead)

/-- The document that a text starts with. -/
def firstDocument (ts : List Token) : Except Fault (Option Node × List Token) := do
  match ts with
  | [] => return (none, [])
  | t :: _ =>
      if startsDocument t then
        let (handles, rest) ← directives ts false []
        match rest with
        | .documentStart :: rest =>
            if rest.head?.all endsDocument then return (some .blank, rest)
            else
              let (n, rest) ← content (handles ++ usualHandles) rest
              return (some n, rest)
        | _ => .error (.unexpectedPart "<document start>")
      else
        let (n, rest) ← content usualHandles ts
        return (some n, rest)

end Rule

/-- The document of a text: none if nothing is in it, and a fault if a second one follows. -/
def document (ts : List Token) : Except Fault (Option Node) := do
  let (n, rest) ← Rule.firstDocument ts
  if (rest.dropWhile (· == .documentEnd)).isEmpty then return n else .error .secondDocument

end TestBench.Yaml
