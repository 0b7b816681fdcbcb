import TableFeed.Remote.Provision
import TableFeed.Text.Digit
import TableFeed.Text.Quoted

/-!
# Words of the command line

A word of the command line names a switch or stands for itself.  A long name may be cut short as
long as it names one switch only, and may be followed by an equals sign and a value; a short name
may be followed by more letters.
-/

namespace TableFeed.CommandLine

open Text

/-- What can be switched on the command line. -/
inductive Switch where
  /-- Only help is wanted. -/
  | help
  /-- The file with the schema. -/
  | schema
  /-- What happens to rows that the table holds already. -/
  | write
  /-- Whether a missing table is created. -/
  | create
  /-- The field that gives the tokens. -/
  | tokens
deriving DecidableEq, Repr

namespace Switch

/-- The names of a switch. -/
def names : Switch → List String
  | help => ["-h", "--help"]
  | schema => ["--schema"]
  | write => ["--write-disposition"]
  | create => ["--create-disposition"]
  | tokens => ["--insert-id-field"]

/-- All switches. -/
def all : List Switch := [help, schema, write, create, tokens]

/-- All names, with what they name. -/
def named : List (String × Switch) := all.flatMap fun s => s.names.map (·, s)

/-- How a switch is called in diagnostics. -/
def title (s : Switch) : String := String.intercalate "/" s.names

end Switch

/-- Why a command line is refused. -/
inductive UsageFault where
  /-- A word may name several switches. -/
  | ambiguous (word : String) (names : List String)
  /-- A switch without a value was given one. -/
  | surplus (switch : Switch) (text : String)
  /-- A switch was not given its value. -/
  | valueless (switch : Switch)
  /-- The value of a switch is none of its choices. -/
  | choice (switch : Switch) (text : String) (choices : List String)
  /-- Something that has to be given is missing. -/
  | missing (names : List String)
  /-- Words are left over. -/
  | leftOver (words : List String)
deriving DecidableEq, Repr

/-- What is said about a fault. -/
def UsageFault.message : UsageFault → String
  | ambiguous word names => "ambiguous option: " ++ word ++ " could match " ++
      String.intercalate ", " names
  | surplus s text => "argument " ++ s.title ++ ": ignored explicit argument " ++ quoted text
  | valueless s => "argument " ++ s.title ++ ": expected one argument"
  | choice s text choices => "argument " ++ s.title ++ ": invalid choice: " ++ quoted text ++
      " (choose from " ++ String.intercalate ", " (choices.map quoted) ++ ")"
  | missing names => "the following arguments are required: " ++ String.intercalate ", " names
  | leftOver words => "unrecognized arguments: " ++ String.intercalate " " words

/-- What follows a name in its own word. -/
inductive Tail where
  /-- Nothing. -/
  | none
  /-- An equals sign and a text. -/
  | value (text : String)
  /-- More letters. -/
  | letters (text : List Char)
deriving DecidableEq, Repr

/-- What a word is by itself. -/
inductive Word where
  /-- The mark after which every word stands for itself. -/
  | mark
  /-- A word that stands for itself. -/
  | plain
  /-- The name of a switch, which is short or long, and what follows it. -/
  | switch (switch : Switch) (short : Bool) (tail : Tail)
  /-- A word that looks like the name of a switch and is none. -/
  | unknown
deriving DecidableEq, Repr

namespace Word

/-- Whether a word is a negative number in digits of any script. -/
def isNegativeNumber (word : List Char) : Bool :=
  let isDigit (c : Char) : Bool := (digitValue? c).isSome
  match if word.getLast? = some '\n' then word.dropLast else word with
  | '-' :: body =>
    match body.dropWhile isDigit with
    | [] => !body.isEmpty
    | '.' :: fraction => !fraction.isEmpty && fraction.all isDigit
    | _ => false
  | _ => false

/-- The part of a word before its first equals sign, and what follows the name in it. -/
def cutValue (word : String) : String × Tail :=
  let cs := word.toList
  let name := String.ofList (cs.takeWhile (· != '='))
  match cs.dropWhile (· != '=') with
  | _ :: text => (name, .value (String.ofList text))
  | [] => (name, .none)

/-- What a word is that starts with a dash and is no full name, with or without a value. -/
def ofDashed (word : String) : Except UsageFault Word :=
  let (start, tail) := cutValue word
  match word.toList with
  | '-' :: '-' :: _ =>
    match Switch.named.filter fun (name, _) => name.startsWith start with
    | [(_, s)] => .ok (.switch s false tail)
    | [] => .ok (if word.contains ' ' then .plain else .unknown)
    | found => .error (.ambiguous word (found.map Prod.fst))
  | '-' :: c :: letters =>
    match Switch.named.lookup (String.ofList ['-', c]) with
    | some s => .ok (.switch s true (.letters letters))
    | none =>
      .ok (if isNegativeNumber word.toList || word.contains ' ' then .plain else .unknown)
  | _ => .ok .plain

/-- What a word is that is not the mark. -/
def of (word : String) : Except UsageFault Word :=
  let (name, tail) := cutValue word
  match Switch.named.lookup name with
  | some s => .ok (.switch s (!name.startsWith "--") tail)
  | none => if word.startsWith "-" then ofDashed word else .ok .plain

/-- What the words of a command line are.  After the mark every word stands for itself. -/
def ofAll : List String → Except UsageFault (List (String × Word))
  | [] => .ok []
  | word :: rest =>
    if word = "--" then .ok ((word, .mark) :: rest.map (·, .plain))
    else do
      let w ← of word
      .ok ((word, w) :: (← ofAll rest))

end Word

end TableFeed.CommandLine
