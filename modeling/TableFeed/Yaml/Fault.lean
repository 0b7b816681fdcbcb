import TableFeed.Value.Fault

/-!
# Faults of YAML documents

A document is refused at one of five stages, from its characters to its values.  A scalar that is
tagged as something that its text does not write stops the reading in a way of its own.
-/

namespace TableFeed.Yaml

/-- The stage at which a document is refused. -/
inductive Stage where
  /-- A character that no document may hold. -/
  | characters
  /-- The characters form no tokens. -/
  | tokens
  /-- The tokens form no nodes. -/
  | events
  /-- The nodes form no single document. -/
  | nodes
  /-- A node stands for no value. -/
  | values
deriving DecidableEq, Repr

/-- The class of a refusal in diagnostics. -/
def Stage.className : Stage → String
  | characters => "ReaderError"
  | tokens => "ScannerError"
  | events => "ParserError"
  | nodes => "ComposerError"
  | values => "ConstructorError"

/-- A scalar whose text is no value of its kind. -/
inductive ScalarFault where
  /-- No integer in a base. -/
  | integer (base : Nat) (text : List Text.Glyph)
  /-- No float. -/
  | float (text : List Text.Glyph)
  /-- No truth value. -/
  | bool (text : List Text.Glyph)
  /-- No point in time. -/
  | moment
  /-- No scalar, where a point in time is wanted of it. -/
  | momentless
  /-- A mapping that stands for itself. -/
  | endless
  /-- A collection within too many others. -/
  | nested
  /-- A part of a number that is too large for its place. -/
  | overflow
  /-- No number at all. -/
  | empty
  /-- A number that is no character. -/
  | codePoint (n : Nat)
  /-- A point in time that the calendar does not have. -/
  | calendar (fault : CalendarFault)
  /-- A value that its place does not allow. -/
  | value (fault : TableFeed.Fault)

namespace ScalarFault

/-- The class of a fault in diagnostics. -/
def className : ScalarFault → String
  | integer _ _ => "ValueError"
  | float _ => "ValueError"
  | bool _ => "KeyError"
  | moment => "AttributeError"
  | momentless => "TypeError"
  | endless => "RecursionError"
  | nested => "RecursionError"
  | overflow => "OverflowError"
  | empty => "IndexError"
  | codePoint n => if n < Nat.pow 2 31 then "ValueError" else "OverflowError"
  | calendar _ => "ValueError"
  | value f => f.className

/-- What is said about a fault. -/
def message : ScalarFault → String
  | integer base s => "invalid literal for int() with base " ++ Nat.repr base ++ ": " ++
      String.ofList ((Text.quotedGlyphs s).toList.take 200)
  | float s => "could not convert string to float: " ++ Text.quotedGlyphs s
  | bool s => Text.quotedGlyphs s
  | moment => "'NoneType' object has no attribute 'groupdict'"
  | momentless => "expected string or bytes-like object, got 'list'"
  | endless => "maximum recursion depth exceeded"
  | nested => "maximum recursion depth exceeded"
  | overflow => "int too large to convert to float"
  | empty => "string index out of range"
  | codePoint n => if n < Nat.pow 2 31 then "chr() arg not in range(0x110000)"
      else "Python int too large to convert to C int"
  | calendar f => f.message
  | value f => f.message

end ScalarFault

/-- Why a document has no value. -/
inductive Fault where
  /-- The document is refused. -/
  | refused (stage : Stage)
  /-- A scalar has no value of its kind. -/
  | scalar (fault : ScalarFault)

end TableFeed.Yaml
