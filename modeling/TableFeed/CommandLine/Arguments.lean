import TableFeed.CommandLine.Word

/-!
# The command line

A load is told its table and its file of rows by the two words that stand for themselves, and the
rest by switches, in any order.  The words are taken from left to right; the first fault among them
is the one that is reported.  What is missing or left over counts only after that.  Every word is a
text; octets that are no text, which a system may hand over in a word, are left out.
-/

namespace TableFeed.CommandLine

/-- What the command line says about a load. -/
structure Arguments where
  /-- The spec of the table. -/
  table : String
  /-- The path of the file of rows.  There is none if the word for it is a second mark. -/
  rows : Option String
  /-- The path of the file with the schema. -/
  schema : Option String
  /-- What happens to rows that the table holds already.  No choice is made if the word for it is
  the mark. -/
  write : Option WriteChoice
  /-- Whether a missing table is created.  No choice is made if the word for it is the mark. -/
  create : Option CreateChoice
  /-- The field that gives the tokens. -/
  tokens : Option String

/-- What the words of a command line that were taken so far say. -/
structure Taken where
  /-- The spec of the table. -/
  table : Option String := none
  /-- The word for the rows; it names no path if it is a second mark. -/
  rows : Option (Option String) := none
  /-- The path of the file with the schema. -/
  schema : Option String := none
  /-- What happens to rows that the table holds already. -/
  write : Option WriteChoice := some .append
  /-- Whether a missing table is created. -/
  create : Option CreateChoice := some .ifNeeded
  /-- The field that gives the tokens. -/
  tokens : Option String := none
  /-- The words that are left over. -/
  leftOver : List String := []

namespace Taken

/-- What is known after a switch was given the mark for a value, which takes the value away. -/
def giveNothing (t : Taken) : Switch → Except UsageFault Taken
  | .help => .error (.surplus .help "--")
  | .schema => .ok { t with schema := none }
  | .tokens => .ok { t with tokens := none }
  | .write => .ok { t with write := none }
  | .create => .ok { t with create := none }

/-- What is known after a switch was given a value. -/
def give (t : Taken) (s : Switch) (text : String) : Except UsageFault Taken :=
  if text = "--" then t.giveNothing s
  else match s with
  | .help => .error (.surplus s text)
  | .schema => .ok { t with schema := some text }
  | .tokens => .ok { t with tokens := some text }
  | .write =>
    match WriteChoice.all.find? (·.word == text) with
    | some w => .ok { t with write := some w }
    | none => .error (.choice s text (WriteChoice.all.map WriteChoice.word))
  | .create =>
    match CreateChoice.all.find? (·.word == text) with
    | some c => .ok { t with create := some c }
    | none => .error (.choice s text (CreateChoice.all.map CreateChoice.word))

/-- What is known after a word that is left over. -/
def leave (t : Taken) (word : String) : Taken := { t with leftOver := t.leftOver ++ [word] }

/-- What is known after a word that stands for itself: the table, then the rows.  `marked` says
whether the mark stands beside it. -/
def takePlain (t : Taken) (word : String) (marked : Bool) : Taken :=
  match t.table with
  | none => { t with table := some word }
  | some _ => { t with rows := some (if word = "--" && !marked then none else some word) }

/-- Whether a word that stands for itself counts. -/
def wantsPlain (t : Taken) : Bool := t.rows.isNone

/-- What is known at the end, if nothing is missing and nothing is left over. -/
def finish (t : Taken) : Except UsageFault Arguments :=
  match t.table, t.rows with
  | some table, some rows =>
    if t.leftOver.isEmpty then .ok ⟨table, rows, t.schema, t.write, t.create, t.tokens⟩
    else .error (.leftOver t.leftOver)
  | some _, none => .error (.missing ["rows"])
  | none, _ => .error (.missing ["table", "rows"])

end Taken

/-- The paths that arguments name. -/
def Arguments.paths (a : Arguments) : List String := a.schema.toList ++ a.rows.toList

/-- What a command line asks for. -/
inductive Demand where
  /-- Only help. -/
  | help
  /-- A load. -/
  | load (arguments : Arguments)

/-- Checks the letters that follow the short name of the switch for help, which may only repeat
it. -/
def checkLetters : List Char → Except UsageFault Unit
  | [] => .ok ()
  | 'h' :: rest => checkLetters rest
  | letters => .error (.surplus .help (String.ofList letters))

/-- Checks a value of the switch for help.  After its short name it may be letters. -/
def checkHelp (short : Bool) (text : String) : Except UsageFault Unit :=
  if short && !text.isEmpty then checkLetters text.toList else .error (.surplus .help text)

/-- Takes the words of a command line from left to right. -/
def take (t : Taken) : List (String × Word) → Except UsageFault Demand
  | [] => t.finish.map .load
  | (_, .switch .help short (.value text)) :: _ => (checkHelp short text).map fun _ => .help
  | (_, .switch .help _ (.letters letters)) :: _ => (checkLetters letters).map fun _ => .help
  | (_, .switch .help _ .none) :: _ => .ok .help
  | (_, .switch s _ (.value text)) :: rest => do take (← t.give s text) rest
  | (_, .switch s _ _) :: (value, .plain) :: rest => do take (← t.give s value) rest
  | (_, .switch s _ _) :: _ => .error (.valueless s)
  | (word, .unknown) :: rest => take (t.leave word) rest
  | (mark, .mark) :: (word, .plain) :: rest =>
    if t.wantsPlain then take (t.takePlain word true) rest
    else take ((t.leave mark).leave word) rest
  | (mark, .mark) :: rest => take (t.leave mark) rest
  | (word, .plain) :: (mark, .mark) :: rest =>
    if t.wantsPlain then take (t.takePlain word true) rest
    else take ((t.leave word).leave mark) rest
  | (word, .plain) :: rest =>
    if t.wantsPlain then take (t.takePlain word false) rest else take (t.leave word) rest

/-- Reads a command line. -/
def read (words : List String) : Except UsageFault Demand := do take {} (← Word.ofAll words)

end TableFeed.CommandLine
