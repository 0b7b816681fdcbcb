import TableFeed.Proofs.Failure.Results
import TableFeed.Schema.Field

/-!
# Fields that are well formed

A field is a mapping that gives a name, a type and a mode; a record lists well formed fields of its
own, and no two fields of one list have the same name.  `Field.WellFormed` and `Field.AllWellFormed`
say so of one field and of a list of them, and `Field.Holds` says which field a mapping becomes.
-/

namespace TableFeed

/-- The upper-case text of a value. -/
def Value.upperText (v : Value) : Writing := v.display.upper

namespace Field

variable {key default : String} {w : Writing} {name : Value} {names : List Value}
  {entries : List (Value × Value)} {f : Failure}

/-! ### What a mapping gives -/

/-- The upper-case word that a mapping has at a key, or a given word if the key is missing. -/
inductive Word (entries : List (Value × Value)) (key default : String) : Writing → Prop where
  /-- The key is missing. -/
  | missing (missing : Value.lookup? entries (.text key) = none) : Word entries key default default
  /-- There is a value at the key, and it can be written. -/
  | given {v : Value} (found : Value.lookup? entries (.text key) = some v)
      (writable : v.isTooLong = false) : Word entries key default v.upperText

/-- A mapping in which the value at a key cannot be written. -/
def Unwritable (entries : List (Value × Value)) (key : String) : Prop :=
  ∃ v, Value.lookup? entries (.text key) = some v ∧ v.isTooLong = true

/-- The name that a mapping gives. -/
structure Named (entries : List (Value × Value)) (name : Value) : Prop where
  at_name : Value.get entries "name" = name
  given : name.isGiven = true
  key : name.keyless? = none

/-- A name that none of some names is the same as. -/
def Fresh (names : List Value) (name : Value) : Prop := ∀ earlier ∈ names, earlier.same name = false

lemma fresh_nil : Fresh [] name := by simp [Fresh]

/-- The name, the type and the mode that a mapping gives. -/
structure Heading (entries : List (Value × Value)) (name : Value) (type : Writing) (mode : Mode) :
    Prop where
  named : Named entries name
  typed : Word entries "type" "" type
  nonempty : type ≠ ""
  moded : Word entries "mode" "NULLABLE" mode.word

/-- The items of a list or a tuple. -/
def Lists (v : Value) (items : List Value) : Prop := v = .list items ∨ v = .tuple items

/-- The value that a mapping has for its name. -/
def nameAt : Value → Value
  | .mapping entries => Value.get entries "name"
  | _ => .null

/-- Items no two of which have the same name. -/
def Different (items : List Value) : Prop :=
  (items.map nameAt).Pairwise fun earlier later => earlier.same later = false

/-- Fields that are well formed, where the name of a record may have to be one of some names. -/
inductive WellFormed (admitted : Value → Prop) : Value → Prop where
  /-- A column that is no record. -/
  | column {entries : List (Value × Value)} {name : Value} {type : Writing} {mode : Mode}
      (heading : Heading entries name type mode) (flat : isRecordType type = false) :
      WellFormed admitted (.mapping entries)
  /-- A record, whose fields are listed. -/
  | record {entries : List (Value × Value)} {name : Value} {type : Writing} {mode : Mode}
      {items : List Value} (heading : Heading entries name type mode)
      (record : isRecordType type = true) (admitted_name : admitted name)
      (listed : Lists (Value.get entries "fields") items) (ne : items ≠ [])
      (different : Different items) (wellFormed : ∀ item ∈ items, WellFormed admitted item) :
      WellFormed admitted (.mapping entries)

/-- A list of well formed fields, no two of which have the same name. -/
structure AllWellFormed (admitted : Value → Prop) (items : List Value) : Prop where
  each : ∀ item ∈ items, WellFormed admitted item
  different : Different items

/-- A field holds what the mapping that it comes from gives, and its fields hold what is listed
there. -/
inductive Holds : Value → Field → Prop where
  /-- A column that is no record has no fields, whatever is listed. -/
  | column {entries : List (Value × Value)} {type : Writing} {mode : Mode}
      (typed : Word entries "type" "" type) (moded : Word entries "mode" "NULLABLE" mode.word)
      (flat : isRecordType type = false) :
      Holds (.mapping entries)
        (.mk (Value.get entries "name") type mode (Value.get entries "description") [])
  /-- A record has the fields that are listed. -/
  | record {entries : List (Value × Value)} {type : Writing} {mode : Mode} {items : List Value}
      {fields : List Field} (typed : Word entries "type" "" type)
      (moded : Word entries "mode" "NULLABLE" mode.word) (record : isRecordType type = true)
      (listed : Lists (Value.get entries "fields") items) (holds : List.Forall₂ Holds items fields) :
      Holds (.mapping entries)
        (.mk (Value.get entries "name") type mode (Value.get entries "description") fields)

/-! ### Words -/

lemma wordAt_eq (entries : List (Value × Value)) (key default : String) :
    wordAt entries key default =
      match Value.lookup? entries (.text key) with
      | none => .ok default
      | some v => if v.isTooLong then .error (.fault .unwritable) else .ok v.upperText := by
  unfold wordAt
  cases Value.lookup? entries (.text key) with
  | none => rfl
  | some v =>
      simp only [Value.shown]
      cases v.isTooLong <;> rfl

lemma wordAt_eq_ok_iff : wordAt entries key default = .ok w ↔ Word entries key default w := by
  rw [wordAt_eq]
  constructor
  · intro h
    split at h
    · next hmissing =>
        obtain rfl := Except.ok.inj h
        exact .missing hmissing
    · next v hfound =>
        split at h
        · simp at h
        · next hshort =>
            obtain rfl := Except.ok.inj h
            exact .given hfound (by simpa using hshort)
  · rintro (hmissing | ⟨hfound, hshort⟩)
    · simp only [hmissing]
    · simp only [hfound, hshort, Bool.false_eq_true, if_false]

lemma wordAt_eq_error_iff :
    wordAt entries key default = .error f ↔ Unwritable entries key ∧ f = .fault .unwritable := by
  rw [wordAt_eq, Unwritable]
  cases Value.lookup? entries (.text key) with
  | none => simp
  | some v =>
      cases hlong : v.isTooLong with
      | false => simp [hlong]
      | true => simpa [hlong] using eq_comm

end Field

end TableFeed
