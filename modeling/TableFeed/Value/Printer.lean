import TableFeed.Text.Writing
import TableFeed.Value.Basic

/-!
# Values as text

A value has two forms: the one in which it is displayed on its own, and the literal in which it
stands inside another value.  Only texts, decimals, days and points in time tell them apart.
-/

namespace TableFeed.Value

open Number Text

/-- The literal of a list of literals between two brackets. -/
def enclosed (opening closing : String) (items : List String) : String :=
  opening ++ String.intercalate ", " items ++ closing

mutual

/-- The literal of a value. -/
def literal : Value → String
  | null => "None"
  | bool b => if b then "True" else "False"
  | int n => printInt n
  | float x => printFloat x
  | undefined _ => printFloat notANumber
  | text s => quoted s
  | torn gs => quotedGlyphs gs
  | octets bs => quotedOctets bs
  | decimal d => "Decimal('" ++ d.print ++ "')"
  | date d => d.literal
  | moment t => t.literal
  | list items => enclosed "[" "]" (literals items)
  | tuple items => match items with
    | [x] => "(" ++ literal x ++ ",)"
    | items => enclosed "(" ")" (literals items)
  | mapping entries => enclosed "\x7b" "\x7d" (entryLiterals entries)
  | set items => match items with
    | [] => "set()"
    | items => enclosed "\x7b" "\x7d" (literals items)
  | within listed => if listed then "[...]" else "\x7b...\x7d"

/-- The literals of the values of a list. -/
def literals : List Value → List String
  | [] => []
  | x :: xs => literal x :: literals xs

/-- The literals of the entries of a mapping. -/
def entryLiterals : List (Value × Value) → List String
  | [] => []
  | (k, v) :: rest => (literal k ++ ": " ++ literal v) :: entryLiterals rest

end

/-- The form in which a value is displayed on its own. -/
def display : Value → Writing
  | text s => s
  | torn gs => ⟨gs⟩
  | decimal d => d.print
  | date d => d.print
  | moment t => t.print ' '
  | v => v.literal

mutual

/-- Whether a value has an integer, at any depth, that is too long to be written. -/
def isTooLong : Value → Bool
  | int n => exceedsDigitLimit n
  | list items => anyTooLong items
  | tuple items => anyTooLong items
  | set items => anyTooLong items
  | mapping entries => anyEntryTooLong entries
  | _ => false

/-- Whether a list has an integer, at any depth, that is too long to be written. -/
def anyTooLong : List Value → Bool
  | [] => false
  | x :: xs => isTooLong x || anyTooLong xs

/-- Whether a list of entries has an integer, at any depth, that is too long to be written. -/
def anyEntryTooLong : List (Value × Value) → Bool
  | [] => false
  | (k, v) :: rest => isTooLong k || isTooLong v || anyEntryTooLong rest

end

end TableFeed.Value
