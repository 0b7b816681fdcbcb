import TableFeed.Value.Printer

/-!
# Values in the wrong place

A report or a schema may hold any value anywhere.  Where a step needs more of a value than the
value has, it stops with one of these faults.
-/

namespace TableFeed

/-- What a step needed of a value that the value does not have. -/
inductive Fault where
  /-- A position beyond the end of a list. -/
  | position
  /-- A position that is beyond the end of every list. -/
  | beyondLists
  /-- A position of a kind that counts nothing. -/
  | subscript (kind : String)
  /-- A value that has no order with numbers. -/
  | unordered (kind : String)
  /-- A decimal that is no number and has no order with numbers. -/
  | undefinedOrder
  /-- A value that can be no key. -/
  | unhashable (kind : String)
  /-- A value that has no parts. -/
  | partless (kind : String)
  /-- A value that has no length. -/
  | lengthless (kind : String)
  /-- A value that has no entries to look up. -/
  | entryless (kind : String)
  /-- A value that has no entries to go through. -/
  | itemless (kind : String)
  /-- A part that is no text where texts are joined. -/
  | joined (position : Nat) (kind : String)
  /-- A part that is no pair, because it has no parts, where a mapping is made of pairs. -/
  | unpaired (position : Nat)
  /-- A part that is no pair, because it has another number of parts. -/
  | uneven (position length : Nat)
  /-- A key that has no written form in an object. -/
  | objectKey (kind : String)
  /-- A list or mapping that goes on within itself, where every part of it is needed. -/
  | endless
  /-- A list or, if not `listed`, an object within too many others. -/
  | nested (listed : Bool)
  /-- An integer with too many digits to be written. -/
  | unwritable
  /-- An integer with too many digits to be read. -/
  | unreadable (digits : Nat)
deriving DecidableEq, Repr

namespace Fault

/-- The class of a fault in diagnostics. -/
def className : Fault → String
  | position => "IndexError"
  | beyondLists => "IndexError"
  | subscript _ => "TypeError"
  | unordered _ => "TypeError"
  | undefinedOrder => "InvalidOperation"
  | unhashable _ => "TypeError"
  | partless _ => "TypeError"
  | lengthless _ => "TypeError"
  | entryless _ => "AttributeError"
  | itemless _ => "AttributeError"
  | joined _ _ => "TypeError"
  | unpaired _ => "TypeError"
  | uneven _ _ => "ValueError"
  | objectKey _ => "TypeError"
  | endless => "RecursionError"
  | nested _ => "RecursionError"
  | unwritable => "ValueError"
  | unreadable _ => "ValueError"

/-- What both faults about the length of an integer say. -/
def digitLimitMessage (found : String) : String :=
  "Exceeds the limit (" ++ Nat.repr Number.digitLimit ++ " digits) for integer string conversion" ++
    found ++ "; use sys.set_int_max_str_digits() to increase the limit"

/-- What is said about a fault. -/
def message : Fault → String
  | position => "list index out of range"
  | beyondLists => "cannot fit 'int' into an index-sized integer"
  | subscript kind => "list indices must be integers or slices, not " ++ kind
  | unordered kind => "'<=' not supported between instances of 'int' and '" ++ kind ++ "'"
  | undefinedOrder => "[<class 'decimal.InvalidOperation'>]"
  | unhashable kind => "unhashable type: '" ++ kind ++ "'"
  | partless kind => "'" ++ kind ++ "' object is not iterable"
  | lengthless kind => "object of type '" ++ kind ++ "' has no len()"
  | entryless kind => "'" ++ kind ++ "' object has no attribute 'get'"
  | itemless kind => "'" ++ kind ++ "' object has no attribute 'items'"
  | joined n kind =>
      "sequence item " ++ Nat.repr n ++ ": expected str instance, " ++ kind ++ " found"
  | unpaired n =>
      "cannot convert dictionary update sequence element #" ++ Nat.repr n ++ " to a sequence"
  | uneven n length =>
      "dictionary update sequence element #" ++ Nat.repr n ++ " has length " ++
        Nat.repr length ++ "; 2 is required"
  | objectKey kind => "keys must be str, int, float, bool or None, not " ++ kind
  | endless => "maximum recursion depth exceeded while calling a Python object"
  | nested listed => "maximum recursion depth exceeded while decoding a JSON " ++
      (if listed then "array" else "object") ++ " from a unicode string"
  | unwritable => digitLimitMessage ""
  | unreadable digits => digitLimitMessage (": value has " ++ Nat.repr digits ++ " digits")

end Fault

namespace Value

/-- The displayed form of a value, if no integer in it is too long to be written. -/
def shown (v : Value) : Except Fault Writing :=
  if v.isTooLong then .error .unwritable else .ok v.display

/-- The length of a value that has one. -/
def length (v : Value) : Except Fault Nat :=
  match v.length? with
  | some n => .ok n
  | none => .error (.lengthless v.kind)

/-- The parts of a value that has parts. -/
def parts (v : Value) : Except Fault (List Value) :=
  match v with
  | within _ => .error .endless
  | v => v.parts?.elim (.error (.partless v.kind)) .ok

/-- The entries of a mapping. -/
def entries : Value → Except Fault (List (Value × Value))
  | mapping entries => .ok entries
  | v => .error (.entryless v.kind)

/-- Checks that a value can be a key. -/
def asKey (v : Value) : Except Fault Value :=
  match v.keyless? with
  | some part => .error (.unhashable part.kind)
  | none => .ok v

/-- Puts pairs, numbered from a position on, into a list of entries. -/
def putPairs (entries : List (Value × Value)) (position : Nat) :
    List Value → Except Fault (List (Value × Value))
  | [] => .ok entries
  | pair :: rest =>
    match pair.parts? with
    | none => .error (.unpaired position)
    | some [key, value] => do putPairs (put entries (← key.asKey) value) (position + 1) rest
    | some parts => .error (.uneven position parts.length)

/-- A value as a mapping: a mapping is one, and any other value has to consist of pairs. -/
def asMapping : Value → Except Fault Value
  | mapping entries => .ok (mapping entries)
  | v => do .ok (mapping (← putPairs [] 0 (← v.parts)))

end Value

end TableFeed
