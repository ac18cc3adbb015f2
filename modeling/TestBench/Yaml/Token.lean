/-!
# Parts of a text

A `Token` is a part of a text as the grammar of documents sees it. Some stand for characters, such as
the brackets of flow collections, and some for a change of indentation, which opens and closes block
collections.

The text of a tag is kept as bytes, because its escapes need not form characters.
-/

set_option autoImplicit false

namespace TestBench.Yaml

/-- How a scalar is written. -/
inductive Style where
  /-- Without marks around it; such a scalar may stand for something else than a text. -/
  | plain
  /-- Between quotation marks or as an indented block. -/
  | marked
deriving DecidableEq, Repr

/-- A tag as it is written: the handle, empty in a verbatim tag, and what follows it. -/
structure WrittenTag where
  /-- The handle. -/
  handle : String
  /-- What follows the handle. -/
  suffix : List UInt8
deriving DecidableEq, Repr

/-- A part of a text. -/
inductive Token where
  /-- A directive that asks for a version. -/
  | version (major minor : Nat)
  /-- A directive that defines what a handle stands for. -/
  | handle (name : String) (meaning : List UInt8)
  /-- The line that starts a document. -/
  | documentStart
  /-- The line that ends a document. -/
  | documentEnd
  /-- The start of a block sequence. -/
  | blockSequence
  /-- The start of a block mapping. -/
  | blockMapping
  /-- The end of a block collection. -/
  | blockEnd
  /-- The start of a flow sequence. -/
  | flowSequence
  /-- The end of a flow sequence. -/
  | flowSequenceEnd
  /-- The start of a flow mapping. -/
  | flowMapping
  /-- The end of a flow mapping. -/
  | flowMappingEnd
  /-- The mark before an item of a block sequence. -/
  | entry
  /-- The mark between the items of a flow collection. -/
  | comma
  /-- The start of a key. -/
  | key
  /-- The start of a value. -/
  | value
  /-- The use of an anchor. -/
  | reference (name : String)
  /-- The definition of an anchor. -/
  | anchor (name : String)
  /-- A tag. -/
  | tag (t : WrittenTag)
  /-- A scalar. -/
  | scalar (text : String) (style : Style)
deriving DecidableEq, Repr

end TestBench.Yaml
