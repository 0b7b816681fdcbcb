import TableFeed.Proofs.Json.Writable
import TableFeed.Proofs.RowFile.Objects
import TableFeed.Proofs.RowFile.Refusals
import TableFeed.Proofs.Text.Lines
import TableFeed.Proofs.Text.Utf8

/-!
# Which files of rows are read

A file is read if each of its lines that is not blank is the JSON text of an object which, where a
field is named for tokens, has a value for it.  The rows are then the objects and the tokens what
these values are displayed as, both in the order of the lines.  Of any other file the first line that
offends decides the failure, and the line is counted with the blank ones before it.

The main result is `RowFile.read_octets`.
-/

namespace TableFeed

/-- The fault for which a text is not called no JSON, since only a limit is in the way. -/
def Json.Problem.fault? : Json.Problem → Option Fault
  | .digits n => some (.unreadable n)
  | .depth listed => some (.nested listed)
  | _ => none

namespace RowFile

/-- A field that is named for tokens. -/
def Named (field : Option String) (name : String) : Prop := field = some name ∧ name ≠ ""

/-- The token of a row, which has a value for a field. -/
def Identifies (name : String) (row : Row) (token : Writing) : Prop :=
  ∃ entries, row = .mapping entries ∧ Value.get entries name ≠ .null ∧
    token = (Value.get entries name).display

/-- A line that gives a row, and a token for it where a field is named. -/
def Accepted (field : Option String) (line : List Char) : Prop :=
  ∃ row, IsText line row ∧ ∀ name, Named field name → ∃ token, Identifies name row token

/-- The failures of a numbered line that is not accepted. -/
inductive Offends (path : String) (field : Option String) (number : Nat) (line : List Char) :
    Failure → Prop where
  /-- The line is no JSON text. -/
  | notJson {f : Json.SyntaxFault} (refused : Json.read limits (String.ofList line) = .error f)
      (wrong : f.problem.fault? = none) :
      Offends path field number line (lineFailure path number (.notJson f))
  /-- The line goes beyond a limit, and the reader of JSON says so. -/
  | beyond {f : Json.SyntaxFault} {g : Fault}
      (refused : Json.read limits (String.ofList line) = .error f)
      (limit : f.problem.fault? = some g) : Offends path field number line (.fault g)
  /-- The line is the JSON text of no object. -/
  | notObject {v : Value} (read : Json.read limits (String.ofList line) = .ok v)
      (other : ¬v.IsObject) : Offends path field number line (lineFailure path number .notObject)
  /-- The object has no value for the field that is named. -/
  | tokenless {entries : List (Value × Value)} {name : String}
      (text : IsText line (.mapping entries)) (named : Named field name)
      (absent : Value.get entries name = .null) :
      Offends path field number line (lineFailure path number (.tokenless name))

/-- The tokens of some rows: none if no field is named, else one for each of the rows. -/
inductive Tokens (field : Option String) (rows : List Row) : Option (List Writing) → Prop where
  /-- No field is named. -/
  | none (unnamed : ∀ name, ¬Named field name) : Tokens field rows .none
  /-- A field is named, and each row has a value for it. -/
  | some {name : String} {tokens : List Writing} (named : Named field name)
      (identifies : List.Forall₂ (Identifies name) rows tokens) : Tokens field rows (.some tokens)

variable {path : String} {field : Option String} {number : Nat} {line : List Char} {name : String}

lemma tokenField_eq_some_iff : tokenField field = some name ↔ Named field name := by
  simp [tokenField, Named]

lemma tokenField_eq_none_iff : tokenField field = none ↔ ∀ name, ¬Named field name := by
  simp [← tokenField_eq_some_iff, Option.eq_none_iff_forall_ne_some]

/-! ### One line -/

lemma readObject_eq_ok_iff {row : Row} : readObject path number line = .ok row ↔ IsText line row := by
  refine ⟨isText_of_readObject, ?_⟩
  rintro ⟨hread, entries, rfl⟩
  rw [readObject, hread]

/-- What is no object does not become a row. -/
lemma readObject_of_not_isObject {v : Value}
    (hread : Json.read limits (String.ofList line) = .ok v) (hother : ¬v.IsObject) :
    readObject path number line = .error (lineFailure path number .notObject) := by
  cases v with
  | mapping entries => exact absurd ⟨entries, rfl⟩ hother
  | _ => simp only [readObject, hread]

/-- What is no JSON text within the limits does not become a row either. -/
lemma readObject_of_error {f : Json.SyntaxFault}
    (hrefused : Json.read limits (String.ofList line) = .error f) :
    readObject path number line =
      .error (f.problem.fault?.elim (lineFailure path number (.notJson f)) .fault) := by
  simp only [readObject, hrefused]
  cases f.problem <;> rfl

/-- The token of the row on a line is what its value is displayed as. -/
lemma tokenOf_eq {entries : List (Value × Value)} (htext : IsText line (.mapping entries)) :
    tokenOf path number name (.mapping entries) =
      if (Value.get entries name).isNull then .error (lineFailure path number (.tokenless name))
      else .ok (Value.get entries name).display := by
  have hshown := ((Json.writable_of_read rfl htext.1).get name).shown
  simp only [tokenOf, hshown]
  rfl

lemma isNull_eq_true_iff {v : Value} : v.isNull = true ↔ v = .null := by
  cases v <;> simp [Value.isNull]

/-- The row on a line needs no token if no field is named, and the token may be missing if one is. -/
lemma readLine_eq {entries : List (Value × Value)} (htext : IsText line (.mapping entries)) :
    readLine path (tokenField field) (line, number) =
      match tokenField field with
      | none => .ok (.mapping entries, none)
      | some name =>
        if (Value.get entries name).isNull then .error (lineFailure path number (.tokenless name))
        else .ok (.mapping entries, some (Value.get entries name).display) := by
  rw [readLine, readObject_eq_ok_iff.2 htext]
  cases tokenField field with
  | none => rfl
  | some name =>
      dsimp only [bind, Except.bind]
      rw [tokenOf_eq htext]
      cases (Value.get entries name).isNull <;> rfl

/-- What is read from a line. -/
lemma of_readLine_eq_ok {row : Row} {token : Option Writing}
    (h : readLine path (tokenField field) (line, number) = .ok (row, token)) :
    IsText line row ∧ ∀ name, Named field name → ∃ t, token = some t ∧ Identifies name row t := by
  obtain ⟨row', hrow, -⟩ := exists_of_bind_eq_ok h
  have htext := readObject_eq_ok_iff.1 hrow
  obtain ⟨entries, rfl⟩ := htext.2
  rw [readLine_eq htext] at h
  cases hfield : tokenField field with
  | none =>
      rw [hfield] at h
      obtain ⟨rfl, rfl⟩ := Prod.mk.inj (Except.ok.inj h)
      exact ⟨htext, fun name hname => absurd hname (tokenField_eq_none_iff.1 hfield name)⟩
  | some name =>
      simp only [hfield] at h
      split at h
      · simp at h
      · next hgiven =>
          obtain ⟨rfl, rfl⟩ := Prod.mk.inj (Except.ok.inj h)
          refine ⟨htext, fun name' hname => ?_⟩
          obtain rfl : name = name' :=
            Option.some.inj (hfield.symm.trans (tokenField_eq_some_iff.2 hname))
          exact ⟨_, rfl, entries, rfl, mt isNull_eq_true_iff.2 hgiven, rfl⟩

/-- A line from which nothing is read offends. -/
lemma offends_of_readLine {f : Failure}
    (h : readLine path (tokenField field) (line, number) = .error f) :
    Offends path field number line f := by
  cases hread : Json.read limits (String.ofList line) with
  | error s =>
      rw [readLine, readObject_of_error hread] at h
      obtain rfl := Except.error.inj h
      cases hfault : s.problem.fault? with
      | none => exact .notJson hread hfault
      | some g => exact .beyond hread hfault
  | ok v =>
      by_cases hobject : v.IsObject
      · obtain ⟨entries, rfl⟩ := hobject
        have htext : IsText line (.mapping entries) := ⟨hread, entries, rfl⟩
        rw [readLine_eq htext] at h
        split at h
        · simp at h
        · next name hname =>
            split at h
            · next habsent =>
                obtain rfl := Except.error.inj h
                exact .tokenless htext (tokenField_eq_some_iff.1 hname)
                  (isNull_eq_true_iff.1 habsent)
            · simp at h
      · rw [readLine, readObject_of_not_isObject hread hobject] at h
        obtain rfl := Except.error.inj h
        exact .notObject hread hobject

/-- Nothing is read from a line that offends. -/
lemma Offends.readLine_eq_error {f : Failure} (h : Offends path field number line f) :
    readLine path (tokenField field) (line, number) = .error f := by
  cases h with
  | notJson refused wrong =>
      rw [readLine, readObject_of_error refused, wrong]
      rfl
  | beyond refused limit =>
      rw [readLine, readObject_of_error refused, limit]
      rfl
  | notObject read other =>
      rw [readLine, readObject_of_not_isObject read other]
      rfl
  | @tokenless entries name text named absent =>
      rw [readLine_eq text, tokenField_eq_some_iff.2 named]
      simp only [isNull_eq_true_iff.2 absent, if_true]

/-- Nothing is wrong with an accepted line. -/
lemma Accepted.not_offends {f : Failure} (h : Accepted field line) :
    ¬Offends path field number line f := by
  obtain ⟨row, ⟨hread, hobject⟩, htoken⟩ := h
  rintro (⟨refused, -⟩ | ⟨refused, -⟩ | ⟨read, other⟩ | ⟨⟨read, -⟩, named, absent⟩)
  · rw [hread] at refused; cases refused
  · rw [hread] at refused; cases refused
  · rw [hread] at read; exact other (Except.ok.inj read ▸ hobject)
  · obtain ⟨-, entries, rfl, hgiven, -⟩ := htoken _ named
    rw [hread] at read
    obtain rfl := Value.mapping.inj (Except.ok.inj read)
    exact hgiven absent

/-- A line is refused if it is not blank and offends. -/
lemma refusal?_eq_some_iff {f : Failure} :
    refusal? path (tokenField field) (line, number) = some f ↔
      isBlankLine line = false ∧ Offends path field number line f := by
  rw [refusal?]
  cases hblank : isBlankLine line with
  | true => simp
  | false =>
      cases hline : readLine path (tokenField field) (line, number) with
      | error g =>
          constructor
          · rintro ⟨⟩
            exact ⟨rfl, offends_of_readLine hline⟩
          · rintro ⟨-, hoffends⟩
            rw [hoffends.readLine_eq_error] at hline
            simpa using (Except.error.inj hline).symm
      | ok found =>
          constructor
          · rintro ⟨⟩
          · rintro ⟨-, hoffends⟩
            rw [hoffends.readLine_eq_error] at hline
            cases hline

/-- A line is not refused if it is blank or accepted. -/
lemma refusal?_eq_none_iff :
    refusal? path (tokenField field) (line, number) = none ↔
      isBlankLine line = true ∨ Accepted field line := by
  rw [refusal?]
  cases hblank : isBlankLine line with
  | true => simp
  | false =>
      cases hline : readLine path (tokenField field) (line, number) with
      | error g => simpa using fun h : Accepted field line => h.not_offends (offends_of_readLine hline)
      | ok found =>
          obtain ⟨htext, htoken⟩ := of_readLine_eq_ok hline
          simpa using ⟨found.1, htext, fun name hname => (htoken name hname).imp fun t ht => ht.2⟩

/-! ### All lines -/

variable {lines : List (List Char)}

/-- A file of which every line is blank or accepted. -/
lemma findSome?_refusal?_eq_none_iff (path : String) (number : Nat) :
    (lines.zipIdx number).findSome? (refusal? path (tokenField field)) = none ↔
      ∀ line ∈ lines, isBlankLine line = true ∨ Accepted field line := by
  rw [List.findSome?_eq_none_iff]
  constructor
  · intro h line hline
    rw [← List.zipIdx_map_fst number lines] at hline
    obtain ⟨⟨line, n⟩, hnumbered, rfl⟩ := List.mem_map.1 hline
    exact refusal?_eq_none_iff.1 (h _ hnumbered)
  · rintro h ⟨line, n⟩ hline
    exact refusal?_eq_none_iff.2 (h line (List.fst_mem_of_mem_zipIdx hline))

/-- The first line that is refused. -/
lemma findSome?_refusal?_eq_some_iff {f : Failure} :
    (lines.zipIdx number).findSome? (refusal? path (tokenField field)) = some f ↔
      ∃ before line after, lines = before ++ line :: after ∧
        (∀ l ∈ before, isBlankLine l = true ∨ Accepted field l) ∧
        isBlankLine line = false ∧ Offends path field (number + before.length) line f := by
  rw [List.findSome?_eq_some_iff]
  constructor
  · rintro ⟨before, ⟨line, n⟩, after, hlines, hline, hbefore⟩
    obtain ⟨before, lines, rfl, rfl, hafter⟩ := List.zipIdx_eq_append_iff.1 hlines
    obtain ⟨line', after, rfl, hline', rfl⟩ := List.zipIdx_eq_cons_iff.1 hafter.symm
    obtain ⟨rfl, rfl⟩ := Prod.mk.inj hline'
    exact ⟨before, line, after, rfl,
      (findSome?_refusal?_eq_none_iff _ _).1 (List.findSome?_eq_none_iff.2 hbefore),
      refusal?_eq_some_iff.1 hline⟩
  · rintro ⟨before, line, after, rfl, hbefore, hline⟩
    refine ⟨before.zipIdx number, (line, number + before.length),
      after.zipIdx (number + before.length + 1), ?_, refusal?_eq_some_iff.2 hline,
      List.findSome?_eq_none_iff.1 ((findSome?_refusal?_eq_none_iff _ _).2 hbefore)⟩
    rw [List.zipIdx_append, List.zipIdx_cons]

/-- There is a token for every row that is read, if a field is named. -/
lemma identifies_of_readLines {failure : Option Failure} {numbered : List (List Char × Nat)}
    {found : List (Row × Option Writing)} (hname : Named field name)
    (h : readLines path (tokenField field) failure numbered = .ok found) :
    List.Forall₂ (Identifies name) (found.map Prod.fst) (found.filterMap Prod.snd) := by
  induction numbered generalizing found with
  | nil =>
      cases failure with
      | none =>
          obtain rfl : [] = found := Except.ok.inj h
          exact .nil
      | some f => simp [readLines] at h
  | cons x rest ih =>
      rw [readLines_cons] at h
      split at h
      · exact ih h
      · obtain ⟨⟨row, token⟩, hfirst, h⟩ := exists_of_bind_eq_ok h
        obtain ⟨found', hfound, rfl⟩ := exists_of_map_eq_ok h
        obtain ⟨t, rfl, ht⟩ := (of_readLine_eq_ok hfirst).2 name hname
        exact .cons ht (ih hfound)

/-! ### A file -/

variable {source : FileSource} {file : Path} {text : String}

lemma delivered_octets (text : String) :
    delivered (Text.octets text) = (Text.lines text.toList, none) := by
  rw [delivered, Text.decodePieces_octets]

/-- A file in UTF-8 is read line by line to its end. -/
lemma read_eq (h : source file = .ok (Text.octets text)) (field : Option String) :
    read source file field =
      (readLines file.print (tokenField field) none ((Text.lines text.toList).zipIdx 1)).map
        fun found => ⟨found.map Prod.fst,
          if (tokenField field).isSome then some (found.filterMap Prod.snd) else none⟩ := by
  simp only [read, h, ofOctets, delivered_octets]
  rfl

/-- The tokens that are read are those of the rows. -/
lemma tokens_of_read (h : source file = .ok (Text.octets text)) {found : RowList}
    (hread : read source file field = .ok found) : Tokens field found.rows found.tokens := by
  rw [read_eq h] at hread
  obtain ⟨found, hlines, rfl⟩ := exists_of_map_eq_ok hread
  cases hfield : tokenField field with
  | none => exact .none (tokenField_eq_none_iff.1 hfield)
  | some name =>
      have hname := tokenField_eq_some_iff.1 hfield
      exact .some hname (identifies_of_readLines hname hlines)

/-- A file in UTF-8 is read if every line of it is blank or accepted, and what is read are the objects
on its lines with their tokens.  Otherwise the first line that is neither decides the failure, and
lines are counted from 1. -/
theorem read_octets (field : Option String) (h : source file = .ok (Text.octets text)) :
    ∃ lines, Text.Splits text.toList lines ∧
      ((∃ found, read source file field = .ok found) ↔
        ∀ line ∈ lines, isBlankLine line = true ∨ Accepted field line) ∧
      (∀ found, read source file field = .ok found →
        List.Forall₂ IsText (lines.filter fun line => !isBlankLine line) found.rows ∧
          Tokens field found.rows found.tokens) ∧
      (∀ f, read source file field = .error f ↔
        ∃ before line after, lines = before ++ line :: after ∧
          (∀ l ∈ before, isBlankLine l = true ∨ Accepted field l) ∧
          isBlankLine line = false ∧ Offends file.print field (before.length + 1) line f) ∧
      ('\r' ∉ text.toList → lines.flatten = text.toList) := by
  have hsplits : Text.Splits text.toList (Text.lines text.toList) := Text.splits_iff.2 rfl
  -- no failure ends such a file early, so it can only be a line that fails
  have herror : ∀ f, read source file field = .error f ↔
      ((Text.lines text.toList).zipIdx 1).findSome? (refusal? file.print (tokenField field)) =
        some f := by
    intro f
    rw [← Option.or_none (o := List.findSome? _ _), ← readLines_eq_error_iff, read_eq h]
    constructor
    · exact eq_error_of_map
    · intro hlines
      rw [hlines]
      rfl
  refine ⟨Text.lines text.toList, hsplits, ?_, ?_, ?_, hsplits.flatten_eq⟩
  · rw [← findSome?_refusal?_eq_none_iff file.print 1]
    constructor
    · rintro ⟨found, hfound⟩
      exact Option.eq_none_iff_forall_ne_some.2 fun f hf => by simp [(herror f).2 hf] at hfound
    · intro hnone
      cases hread : read source file field with
      | ok found => exact ⟨found, rfl⟩
      | error f => simp [(herror f).1 hread] at hnone
  · intro found hread
    refine ⟨?_, tokens_of_read h hread⟩
    obtain ⟨octets, hoctets, -, hrows⟩ := holds_of_read hread
    obtain rfl := Except.ok.inj (h.symm.trans hoctets)
    rwa [delivered_octets] at hrows
  · intro f
    rw [herror, findSome?_refusal?_eq_some_iff]
    simp only [Nat.add_comm 1]

/-- All three ends of lines and none at the last line, blank lines of various characters, and a text
within which a separator ends no line. -/
theorem read_octets_mixed :
    let text := "\x7b\"id\":\"a\u2028b\"\x7d\r\n\u3000\x0b\r\n\x7b\"id\":[true,null]\x7d\r\x7b\"id\":-7\x7d"
    let source : FileSource := fun _ => .ok (Text.octets text)
    ∃ found, read source ⟨"", ["rows"]⟩ (some "id") = .ok found ∧
      found.tokens = some (["a\u2028b", "[True, None]", "-7"] : List Writing) ∧
      Tokens (some "id") found.rows found.tokens ∧
      ∃ lines, Text.Splits text.toList lines ∧
        List.Forall₂ IsText (lines.filter fun line => !isBlankLine line) found.rows := by
  intro text source
  have hread : (read source ⟨"", ["rows"]⟩ (some "id")).toOption.map RowList.tokens =
      some (some (["a\u2028b", "[True, None]", "-7"] : List Writing)) := by
    decide +kernel
  obtain ⟨found, hfound, htokens⟩ := Option.map_eq_some_iff.1 hread
  have hok : read source ⟨"", ["rows"]⟩ (some "id") = .ok found := by
    rcases hr : read source ⟨"", ["rows"]⟩ (some "id") with f | found'
    · simp [hr, Except.toOption] at hfound
    · rw [hr] at hfound
      rw [Option.some.inj hfound]
  obtain ⟨lines, hsplits, -, hall, -⟩ :=
    read_octets (some "id") (show source ⟨"", ["rows"]⟩ = .ok (Text.octets text) from rfl)
  obtain ⟨hrows, hparts⟩ := hall found hok
  exact ⟨found, hok, htokens, hparts, lines, hsplits, hrows⟩

end RowFile

end TableFeed
