import TableFeed.Proofs.Failure.Results
import TableFeed.RowFile

/-!
# Lines that are refused

A line of a file of rows is refused if it is not blank and gives no row, or no token for its row where
a field is named for tokens.  The first line that is refused decides how the reading of the file
fails; where none is, it may still fail because the file could not be delivered to its end.

The main results are `RowFile.readLines_eq_error_iff` and `RowFile.exists_read_eq_error`: a file with
a line that is refused is not read, wherever the line stands.
-/

namespace TableFeed.RowFile

variable {path : String} {field : Option String} {failure : Option Failure}

/-- What is read from a numbered line that is not blank. -/
def readLine (path : String) (field : Option String) (x : List Char × Nat) :
    Except Failure (Row × Option Writing) := do
  let row ← readObject path x.2 x.1
  let token ← match field with
    | none => .ok none
    | some name => (tokenOf path x.2 name row).map some
  .ok (row, token)

/-- The failure with which a numbered line is refused, if it is. -/
def refusal? (path : String) (field : Option String) (x : List Char × Nat) : Option Failure :=
  if isBlankLine x.1 then none
  else match readLine path field x with
    | .error f => some f
    | .ok _ => none

lemma readLines_cons (x : List Char × Nat) (rest : List (List Char × Nat)) :
    readLines path field failure (x :: rest) =
      if isBlankLine x.1 then readLines path field failure rest
      else readLine path field x >>= fun found =>
        (readLines path field failure rest).map (found :: ·) := by
  obtain ⟨line, n⟩ := x
  rw [readLines]
  split
  · rfl
  · unfold readLine
    dsimp only
    cases readObject path n line with
    | error f => rfl
    | ok row =>
        cases field with
        | none => cases readLines path none failure rest <;> rfl
        | some name =>
            rcases htoken : tokenOf path n name row with f | token
            · simp [htoken, Except.map, bind, Except.bind]
            · cases readLines path (some name) failure rest <;>
                simp [htoken, Except.map, bind, Except.bind]

/-- The reading of lines fails with the first line that is refused, and otherwise with the failure
that ends the file early. -/
theorem readLines_eq_error_iff {lines : List (List Char × Nat)} {f : Failure} :
    readLines path field failure lines = .error f ↔
      (lines.findSome? (refusal? path field)).or failure = some f := by
  induction lines with
  | nil => cases failure <;> simp [readLines]
  | cons x rest ih =>
      rw [readLines_cons, List.findSome?_cons]
      by_cases hblank : isBlankLine x.1 = true
      · rw [if_pos hblank, ih, refusal?, if_pos hblank]
      · rw [if_neg hblank, refusal?, if_neg hblank]
        cases hline : readLine path field x with
        | error g => simp [bind, Except.bind]
        | ok found =>
            -- the row is kept for an answer, so only the rest can fail
            rw [← ih]
            cases readLines path field failure rest <;> simp [bind, Except.bind, Except.map]

/-- A file with a line that is refused is not read, wherever the line stands. -/
theorem exists_read_eq_error {source : FileSource} {file : Path} {octets : List UInt8}
    (hoctets : source file = .ok octets) {x : List Char × Nat}
    (hline : x ∈ (delivered octets).1.zipIdx 1)
    (hrefused : (refusal? file.print (tokenField field) x).isSome) :
    ∃ f, read source file field = .error f := by
  obtain ⟨f, hf⟩ : ∃ f, (((delivered octets).1.zipIdx 1).findSome?
      (refusal? file.print (tokenField field))) = some f := by
    rw [← Option.isSome_iff_exists, List.findSome?_isSome_iff]
    exact ⟨x, hline, hrefused⟩
  have hread : readLines file.print (tokenField field) (delivered octets).2
      ((delivered octets).1.zipIdx 1) = .error f := by
    rw [readLines_eq_error_iff, hf]
    rfl
  refine ⟨f, ?_⟩
  simp only [read, hoctets, ofOctets, hread]
  rfl

end TableFeed.RowFile
