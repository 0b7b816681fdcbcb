import TableFeed.Number.Binary
import TableFeed.Text.Glyph
import TableFeed.Value.Calendar
import TableFeed.Value.Decimal

/-!
# Values

What a row, a field of a schema or an entry of a report may hold.  A mapping keeps its entries in
the order in which they were put in, and its keys are values themselves.
-/

namespace TableFeed

/-- A value of a row, a schema or a report. -/
inductive Value where
  /-- The absent value. -/
  | null
  /-- A truth value. -/
  | bool (b : Bool)
  /-- An integer. -/
  | int (n : Int)
  /-- A float. -/
  | float (x : Float)
  /-- A float that is no number.  Its mark tells it from others that were written apart from it. -/
  | undefined (mark : Nat)
  /-- A text. -/
  | text (s : String)
  /-- A text in which half of a pair stands alone. -/
  | torn (glyphs : List Text.Glyph)
  /-- Octets. -/
  | octets (bs : List UInt8)
  /-- A decimal number. -/
  | decimal (d : Decimal)
  /-- A day. -/
  | date (d : Date)
  /-- A point in time. -/
  | moment (t : Moment)
  /-- A list. -/
  | list (items : List Value)
  /-- A tuple, which may be a key where a list may not. -/
  | tuple (items : List Value)
  /-- A mapping: its keys and their values, in order. -/
  | mapping (entries : List (Value × Value))
  /-- A set. -/
  | set (items : List Value)
  /-- The list or, if not `listed`, the mapping within which it stands. -/
  | within (listed : Bool)
deriving Inhabited

/-- A row of a table: a mapping from column names to values. -/
abbrev Row := Value

namespace Value

/-- The text with some characters and halves of pairs. -/
def ofGlyphs (gs : List Text.Glyph) : Value :=
  match gs.mapM Text.Glyph.char? with
  | some cs => text (String.ofList cs)
  | none => torn gs

/-- The name of a value's kind in diagnostics. -/
def kind : Value → String
  | null => "NoneType"
  | bool _ => "bool"
  | int _ => "int"
  | float _ => "float"
  | undefined _ => "float"
  | text _ => "str"
  | torn _ => "str"
  | octets _ => "bytes"
  | decimal _ => "decimal.Decimal"
  | date _ => "datetime.date"
  | moment _ => "datetime.datetime"
  | list _ => "list"
  | tuple _ => "tuple"
  | mapping _ => "dict"
  | set _ => "set"
  | within listed => if listed then "list" else "dict"

/-- Whether a value counts as given: it is neither absent, nor false, nor zero, nor empty. -/
def isGiven : Value → Bool
  | null => false
  | bool b => b
  | int n => n != 0
  | float x => x != 0
  | undefined _ => true
  | text s => !s.isEmpty
  | torn gs => !gs.isEmpty
  | octets bs => !bs.isEmpty
  | decimal d => !d.isZero
  | date _ => true
  | moment _ => true
  | list items => !items.isEmpty
  | tuple items => !items.isEmpty
  | mapping entries => !entries.isEmpty
  | set items => !items.isEmpty
  | within _ => true

/-- Whether a value is the absent one. -/
def isNull : Value → Bool
  | null => true
  | _ => false

/-- The number of parts of a value that has parts. -/
def length? : Value → Option Nat
  | text s => some s.length
  | torn gs => some gs.length
  | octets bs => some bs.length
  | list items => some items.length
  | tuple items => some items.length
  | mapping entries => some entries.length
  | set items => some items.length
  | _ => none

/-- The parts of a value that has parts, in order.  Those of a mapping are its keys. -/
def parts? : Value → Option (List Value)
  | text s => some (s.toList.map fun c => text c.toString)
  | torn gs => some (gs.map fun g => ofGlyphs [g])
  | octets bs => some (bs.map fun b => int b.toNat)
  | list items => some items
  | tuple items => some items
  | mapping entries => some (entries.map Prod.fst)
  | set items => some items
  | _ => none

/-- A number with its two bounds. -/
inductive Extended where
  /-- A number. -/
  | finite (q : Rat)
  /-- A bound: below all numbers if `neg`, else above. -/
  | infinite (neg : Bool)
deriving DecidableEq

/-- The exact number that a float stands for. -/
def floatNumber? (x : Float) : Option Extended :=
  if x.isNaN then none
  else if x.isInf then some (.infinite (x < 0))
  else
    let b := Number.Binary.ofFloat x
    let (num, den) := b.fraction
    let q := mkRat (Int.ofNat num) den
    some (.finite (if b.neg then -q else q))

/-- The exact number that a decimal stands for. -/
def decimalNumber? : Decimal → Option Extended
  | .finite neg c e =>
    let q := if 0 ≤ e then mkRat (Int.ofNat (c * Nat.pow 10 e.toNat)) 1
      else mkRat (Int.ofNat c) (Nat.pow 10 (-e).toNat)
    some (.finite (if neg then -q else q))
  | .infinite neg => some (.infinite neg)
  | .undefined => none

/-- The number that a value stands for.  Truth values stand for one and zero. -/
def number? : Value → Option Extended
  | bool b => some (.finite (if b then 1 else 0))
  | int n => some (.finite n)
  | float x => floatNumber? x
  | decimal d => decimalNumber? d
  | _ => none

/-- Seconds from the first day of year 1 to a point in time, by its own clock. -/
def clockSeconds (t : Moment) : Int :=
  let y := Int.ofNat t.date.year - 1
  let before := (List.range (t.date.month - 1)).foldl
    (fun n m => n + daysInMonth t.date.year (m + 1)) 0
  let days := y * 365 + Int.fdiv y 4 - Int.fdiv y 100 + Int.fdiv y 400 + Int.ofNat before +
    Int.ofNat t.date.day - 1
  days * 86400 + Int.ofNat (t.hour * 3600 + t.minute * 60 + t.second)

/-- Whether two points in time are the same one.  One that is tied to universal time is never the
same as one that is not. -/
def sameMoment (s t : Moment) : Bool :=
  match s.ahead, t.ahead with
  | none, none => s = t
  | some a, some b => clockSeconds s - a == clockSeconds t - b && s.micro == t.micro
  | _, _ => false

mutual

/-- Whether two values are the same key.  Numbers are compared by value, whatever their kind. -/
def same : Value → Value → Bool
  | null, null => true
  | undefined m, undefined n => m == n
  | text s, text t => s == t
  | torn s, torn t => s == t
  | octets s, octets t => s == t
  | date s, date t => s == t
  | moment s, moment t => sameMoment s t
  | tuple xs, tuple ys => sameAll xs ys
  | x, y =>
    match x.number?, y.number? with
    | some a, some b => a == b
    | _, _ => false

/-- Whether two lists hold the same keys in the same order. -/
def sameAll : List Value → List Value → Bool
  | [], [] => true
  | x :: xs, y :: ys => same x y && sameAll xs ys
  | _, _ => false

end

mutual

/-- The first part of a value, at any depth, that can be no key. -/
def keyless? : Value → Option Value
  | list items => some (list items)
  | mapping entries => some (mapping entries)
  | set items => some (set items)
  | within listed => some (within listed)
  | tuple items => keylessIn? items
  | _ => none

/-- The first part of a list, at any depth, that can be no key. -/
def keylessIn? : List Value → Option Value
  | [] => none
  | x :: xs => (keyless? x).or (keylessIn? xs)

end

/-- The value of a key in a list of entries. -/
def lookup? {α : Type} (entries : List (Value × α)) (key : Value) : Option α :=
  (entries.find? fun e => e.1.same key).map Prod.snd

/-- The value of a name in a mapping, or the absent value. -/
def get (entries : List (Value × Value)) (name : String) : Value :=
  (lookup? entries (text name)).getD null

/-- Puts a value at a key: in the place of the key's old value, or at the end. -/
def put {α : Type} (entries : List (Value × α)) (key : Value) (value : α) : List (Value × α) :=
  match entries with
  | [] => [(key, value)]
  | (k, v) :: rest => if k.same key then (k, value) :: rest else (k, v) :: put rest key value

end Value

end TableFeed
