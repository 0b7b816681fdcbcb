import TableFeed.Proofs.Insert.Planned
import TableFeed.Proofs.Json.Writable
import TableFeed.Proofs.RowFile.Objects
import TableFeed.Proofs.RowFile.Refusals

/-!
# What is read from a file can be inserted

The rows of a file are JSON texts that were read within the limit of digits, so each of them has a
size on the wire; and if a field is named for tokens, every row that is kept brings one.  An insert of
what was read is therefore never refused for its tokens and fails in none of its plans.

The main result is `RowFile.read_planned`.
-/

namespace TableFeed.RowFile

open World Retry

variable {path : String} {field : Option String} {failure : Option Failure}

/-- The rows that a file holds have a size. -/
lemma Holds.sized {octets : List UInt8} {rows : List Row} (h : Holds octets rows) : Sized rows := by
  intro row hrow
  obtain ⟨line, hread, -⟩ := h.exists_line row hrow
  exact (Json.writable_of_read rfl hread).exists_size

/-- If a field is named, a line that gives a row gives a token with it. -/
lemma isSome_of_readLine {name : String} {x : List Char × Nat} {found : Row × Option Writing}
    (h : readLine path (some name) x = .ok found) : found.2.isSome := by
  obtain ⟨row, -, h⟩ := exists_of_bind_eq_ok h
  obtain ⟨token, htoken, h⟩ := exists_of_bind_eq_ok h
  obtain rfl := Except.ok.inj h
  obtain ⟨t, -, rfl⟩ := exists_of_map_eq_ok htoken
  rfl

/-- If a field is named, there are as many tokens as rows. -/
lemma length_tokens {name : String} {lines : List (List Char × Nat)}
    {found : List (Row × Option Writing)}
    (h : readLines path (some name) failure lines = .ok found) :
    (found.filterMap Prod.snd).length = (found.map Prod.fst).length := by
  induction lines generalizing found with
  | nil =>
      cases failure with
      | none =>
          obtain rfl : [] = found := Except.ok.inj h
          rfl
      | some f => simp [readLines] at h
  | cons x rest ih =>
      rw [readLines_cons] at h
      split at h
      · exact ih h
      · obtain ⟨first, hfirst, h⟩ := exists_of_bind_eq_ok h
        obtain ⟨found', hfound, rfl⟩ := exists_of_map_eq_ok h
        obtain ⟨token, htoken⟩ := Option.isSome_iff_exists.1 (isSome_of_readLine hfirst)
        rw [List.filterMap_cons_some htoken, List.map_cons, List.length_cons, List.length_cons,
          ih hfound]

/-- The tokens that are read from a file match its rows. -/
lemma matching_of_ofOctets {octets : List UInt8} {found : RowList}
    (h : ofOctets path field octets = .ok found) : Matching found.rows found.tokens := by
  unfold ofOctets at h
  obtain ⟨found', hlines, h⟩ := exists_of_bind_eq_ok h
  obtain rfl := Except.ok.inj h
  intro ts hts
  cases hfield : tokenField field with
  | none => simp [hfield] at hts
  | some name =>
      rw [hfield] at hlines
      rw [hfield, Option.isSome_some, if_pos rfl] at hts
      obtain rfl := Option.some.inj hts
      exact length_tokens hlines

lemma matching_of_read {source : FileSource} {path : Path} {found : RowList}
    (h : read source path field = .ok found) : Matching found.rows found.tokens := by
  unfold read at h
  split at h
  · simp at h
  · exact matching_of_ofOctets h

/-- What is read from a file has a token for each row or none at all, and every row has a size.  So it
is cut into batches whatever the limits are; and an insert of it is planned in every round, whatever
the service and the user do, and does not blame the caller. -/
theorem read_planned {source : FileSource} {path : Path} {field : Option String} {found : RowList}
    (h : read source path field = .ok found) :
    Matching found.rows found.tokens ∧ Sized found.rows ∧
      (∀ limits : BatchLimits,
        (Batch.plan limits found.rows found.tokens).complete =
            .ok (Batch.plan limits found.rows found.tokens).batches ∧
          Batch.Cuts 0 found.rows found.tokens
            (Batch.plan limits found.rows found.tokens).batches) ∧
      ∀ {σ : Type} (c : Client σ) (s : Schedule) (pace : Pace) (options : InsertOptions)
        (table : TableName) (p : Paced (World σ)),
        (∀ m, ((insertAll c s pace options (some table) found.rows found.tokens).run p).1 ≠
          .error (.misuse m)) ∧
        ∃ l r p', Runs options.policy pace table.spec (round c s options.limits table)
            (firstStage found.rows found.tokens (uncounted p)) l r p' ∧
          (insertAll c s pace options (some table) found.rows found.tokens).run p =
            concluded table found.rows r p' ∧
          ∀ a ∈ l, a.Planned options.limits found.rows := by
  obtain ⟨octets, -, hholds⟩ := holds_of_read h
  have hmatching := matching_of_read h
  refine ⟨hmatching, hholds.sized, fun limits => Batch.plan_cuts limits hholds.sized hmatching, ?_⟩
  intro σ c s pace options table p
  obtain ⟨l, r, p', hruns, hinsert, hplanned, hblameless⟩ :=
    insertAll_planned c s pace options table p hholds.sized hmatching
  exact ⟨hblameless, l, r, p', hruns, hinsert, hplanned⟩

/-- Two rows with a blank line between them.  The first one has a name twice and a value that is no
number, and the token of the second one is half of a pair, which is kept. -/
theorem read_planned_torn :
    let source : FileSource := fun _ =>
      .ok "\x7b\"id\":\"x\",\"v\":NaN,\"v\":[-0,NaN]\x7d\n\n\x7b\"id\":\"\\ud800\"\x7d\n".toUTF8.toList
    ∃ found, read source ⟨"", ["rows"]⟩ (some "id") = .ok found ∧ found.rows.length = 2 ∧
      found.tokens = some (["x", ⟨[.half 0xD800]⟩] : List Writing) ∧ Sized found.rows ∧
      ∀ limits : BatchLimits, Batch.Cuts 0 found.rows found.tokens
        (Batch.plan limits found.rows found.tokens).batches := by
  intro source
  have hread : (read source ⟨"", ["rows"]⟩ (some "id")).toOption.map
      (fun found => (found.rows.length, found.tokens)) =
        some (2, some (["x", ⟨[.half 0xD800]⟩] : List Writing)) := by
    decide +kernel
  obtain ⟨found, hfound, hparts⟩ := Option.map_eq_some_iff.1 hread
  obtain ⟨hlength, htokens⟩ := Prod.mk.inj hparts
  have hok : read source ⟨"", ["rows"]⟩ (some "id") = .ok found := by
    rcases hr : read source ⟨"", ["rows"]⟩ (some "id") with f | found'
    · simp [hr, Except.toOption] at hfound
    · rw [hr] at hfound
      rw [Option.some.inj hfound]
  obtain ⟨-, hsized, hplanned, -⟩ := read_planned hok
  exact ⟨found, hok, hlength, htokens, hsized, fun limits => (hplanned limits).2⟩

end TableFeed.RowFile
