import TableFeed.Proofs.Failure.Results
import TableFeed.RowFile

/-!
# The objects in a file of rows

`RowFile.Holds` says which rows a file holds: each of its lines that is not blank is the JSON text of
one row, which is an object, in order.  Tokens have no part in this.

The main result is `RowFile.holds_of_read`: the rows that are read from a file are those that it
holds.
-/

namespace TableFeed

/-- A row that is an object. -/
def Value.IsObject (row : Row) : Prop := ∃ entries, row = .mapping entries

namespace RowFile

/-- A line that is the JSON text of an object. -/
def IsText (line : List Char) (row : Row) : Prop :=
  Json.read limits (String.ofList line) = .ok row ∧ row.IsObject

/-- The octets of a file that holds given rows. -/
def Holds (octets : List UInt8) (rows : List Row) : Prop :=
  (delivered octets).2 = none ∧
    List.Forall₂ IsText ((delivered octets).1.filter fun line => !isBlankLine line) rows

variable {path : String} {field : Option String} {failure : Option Failure} {row : Row}

lemma isText_of_readObject {number : Nat} {line : List Char}
    (h : readObject path number line = .ok row) : IsText line row := by
  unfold readObject at h
  split at h
  · next entries hread =>
      obtain rfl := Except.ok.inj h
      exact ⟨hread, entries, rfl⟩
  · simp at h
  · split at h <;> simp at h

/-- What is read from lines that come to their end are the objects on those that are not blank. -/
lemma readLines_eq_ok {lines : List (List Char × Nat)} {found : List (Row × Option Writing)}
    (h : readLines path field failure lines = .ok found) :
    failure = none ∧ List.Forall₂ IsText ((lines.map Prod.fst).filter fun line => !isBlankLine line)
      (found.map Prod.fst) := by
  induction lines generalizing found with
  | nil =>
      cases failure with
      | none =>
          obtain rfl : [] = found := Except.ok.inj h
          simp
      | some f => simp [readLines] at h
  | cons x rest ih =>
      obtain ⟨line, n⟩ := x
      rw [readLines] at h
      split at h
      · next hblank => simpa [hblank] using ih h
      · next hblank =>
          obtain ⟨row, hrow, h⟩ := exists_of_bind_eq_ok h
          have hthen : ∃ token found', readLines path field failure rest = .ok found' ∧
              found = (row, token) :: found' := by
            cases field
            all_goals
              obtain ⟨token, -, h⟩ := exists_of_bind_eq_ok h
              obtain ⟨found', hfound, h⟩ := exists_of_bind_eq_ok h
              exact ⟨token, found', hfound, (Except.ok.inj h).symm⟩
          obtain ⟨token, found', hfound, rfl⟩ := hthen
          obtain ⟨hfailure, hrest⟩ := ih hfound
          refine ⟨hfailure, ?_⟩
          rw [List.map_cons, List.filter_cons_of_pos (by simpa using hblank)]
          exact .cons (isText_of_readObject hrow) hrest

lemma holds_of_ofOctets {octets : List UInt8} {found : RowList}
    (h : ofOctets path field octets = .ok found) : Holds octets found.rows := by
  unfold ofOctets at h
  obtain ⟨found', hlines, h⟩ := exists_of_bind_eq_ok h
  obtain rfl := Except.ok.inj h
  obtain ⟨hfailure, hrows⟩ := readLines_eq_ok hlines
  rw [List.zipIdx_map_fst] at hrows
  exact ⟨hfailure, hrows⟩

/-- The rows that are read from a file are those that it holds. -/
theorem holds_of_read {source : FileSource} {path : Path} {found : RowList}
    (h : read source path field = .ok found) :
    ∃ octets, source path = .ok octets ∧ Holds octets found.rows := by
  unfold read at h
  split at h
  · simp at h
  · next octets hoctets => exact ⟨octets, hoctets, holds_of_ofOctets h⟩

/-- A file holds one list of rows at most. -/
lemma Holds.unique {octets : List UInt8} {rows rows' : List Row} (h : Holds octets rows)
    (h' : Holds octets rows') : rows = rows' := by
  have hunique : Relator.RightUnique IsText := by
    rintro line row row' ⟨hread, -⟩ ⟨hread', -⟩
    rw [hread] at hread'
    exact Except.ok.inj hread'
  exact hunique.forall₂ h.2 h'.2

/-- Every row of a file stands on a line. -/
lemma Holds.exists_line {octets : List UInt8} {rows : List Row} (h : Holds octets rows) :
    ∀ row ∈ rows, ∃ line, IsText line row := by
  obtain ⟨-, hrows⟩ := h
  generalize ((delivered octets).1.filter fun line => !isBlankLine line) = lines at hrows
  induction hrows with
  | nil => simp
  | cons hrow _ ih =>
      intro row hmem
      rcases List.mem_cons.1 hmem with rfl | hmem
      · exact ⟨_, hrow⟩
      · exact ih row hmem

lemma Holds.objects {octets : List UInt8} {rows : List Row} (h : Holds octets rows) :
    ∀ row ∈ rows, row.IsObject := fun row hrow =>
  (h.exists_line row hrow).elim fun _ hline => hline.2

end RowFile

end TableFeed
