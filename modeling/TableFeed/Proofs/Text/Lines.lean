import TableFeed.Proofs.Text.Blank
import TableFeed.Text.Lines

/-!
# How a text falls into lines

`Text.Splits` says it without a pass that makes all line ends alike: the first line is what stands
before the first line feed or carriage return, and the two together are one end.

The main result is `Text.splits_iff`.
-/

namespace TableFeed.Text

/-- Characters none of which ends a line. -/
def Unbroken (line : List Char) : Prop := ∀ c ∈ line, c ≠ '\n' ∧ c ≠ '\r'

/-- How a text falls into lines.  A line that has ended is delivered with a line feed, whatever its
end was. -/
inductive Splits : List Char → List (List Char) → Prop where
  /-- A text without characters has no lines. -/
  | nil : Splits [] []
  /-- The last line may have no end. -/
  | last {line : List Char} (ne : line ≠ []) (unbroken : Unbroken line) : Splits line [line]
  /-- A line ends at a line feed. -/
  | lineFeed {line rest : List Char} {lines : List (List Char)} (unbroken : Unbroken line)
      (later : Splits rest lines) : Splits (line ++ '\n' :: rest) ((line ++ ['\n']) :: lines)
  /-- A line ends at a carriage return and a line feed after it. -/
  | both {line rest : List Char} {lines : List (List Char)} (unbroken : Unbroken line)
      (later : Splits rest lines) : Splits (line ++ '\r' :: '\n' :: rest) ((line ++ ['\n']) :: lines)
  /-- A line ends at a carriage return with no line feed after it. -/
  | carriageReturn {line rest : List Char} {lines : List (List Char)} (unbroken : Unbroken line)
      (alone : rest.head? ≠ some '\n') (later : Splits rest lines) :
      Splits (line ++ '\r' :: rest) ((line ++ ['\n']) :: lines)

variable {line rest cs : List Char}

lemma unifyLineEnds_of_head?_ne (h : rest.head? ≠ some '\n') :
    unifyLineEnds ('\r' :: rest) = '\n' :: unifyLineEnds rest := by
  cases rest with
  | nil => rfl
  | cons c rest =>
      have hc : c ≠ '\n' := by simpa using h
      rw [unifyLineEnds]
      exact fun rest' heq => hc (List.cons.inj heq).1

lemma unifyLineEnds_append (h : '\r' ∉ line) (rest : List Char) :
    unifyLineEnds (line ++ rest) = line ++ unifyLineEnds rest := by
  induction line with
  | nil => rfl
  | cons c line ih =>
      have hc : c ≠ '\r' := fun heq => h (by simp [heq])
      rw [List.cons_append, unifyLineEnds, ih (fun hmem => h (by simp [hmem])), List.cons_append]
      · exact fun rest' hchar _ => hc hchar
      · exact hc

lemma splitLines_append (h : '\n' ∉ line) (rest : List Char) :
    splitLines (line ++ '\n' :: rest) = (line ++ ['\n']) :: splitLines rest := by
  induction line with
  | nil => rw [List.nil_append, splitLines, List.nil_append]
  | cons c line ih =>
      have hc : c ≠ '\n' := fun heq => h (by simp [heq])
      rw [List.cons_append, splitLines, ih (fun hmem => h (by simp [hmem]))]
      · rfl
      · exact hc

lemma splitLines_of_not_mem (h : '\n' ∉ line) (hne : line ≠ []) : splitLines line = [line] := by
  induction line with
  | nil => exact absurd rfl hne
  | cons c line ih =>
      have hc : c ≠ '\n' := fun heq => h (by simp [heq])
      rw [splitLines]
      · cases line with
        | nil => rfl
        | cons d line => rw [ih (fun hmem => h (by simp [hmem])) (by simp), consToFirst]
      · exact hc

namespace Unbroken

lemma not_mem_lineFeed (h : Unbroken line) : '\n' ∉ line := fun hmem => (h _ hmem).1 rfl

lemma not_mem_carriageReturn (h : Unbroken line) : '\r' ∉ line := fun hmem => (h _ hmem).2 rfl

/-- The first line of a text is followed by the lines of what its end is followed by. -/
lemma lines_append (h : Unbroken line) {ended : List Char}
    (hended : unifyLineEnds ended = '\n' :: unifyLineEnds rest) :
    lines (line ++ ended) = (line ++ ['\n']) :: lines rest := by
  rw [lines, unifyLineEnds_append h.not_mem_carriageReturn, hended,
    splitLines_append h.not_mem_lineFeed, lines]

end Unbroken

lemma lines_eq_of_splits {ls : List (List Char)} (h : Splits cs ls) : lines cs = ls := by
  induction h with
  | nil => rfl
  | @last line ne unbroken =>
      have hsame := unifyLineEnds_append unbroken.not_mem_carriageReturn []
      rw [List.append_nil, unifyLineEnds, List.append_nil] at hsame
      rw [lines, hsame, splitLines_of_not_mem unbroken.not_mem_lineFeed ne]
  | lineFeed unbroken _ ih => rw [unbroken.lines_append rfl, ih]
  | both unbroken _ ih => rw [unbroken.lines_append rfl, ih]
  | carriageReturn unbroken alone _ ih =>
      rw [unbroken.lines_append (unifyLineEnds_of_head?_ne alone), ih]

/-- Every text falls into lines. -/
lemma exists_splits (cs : List Char) : ∃ ls, Splits cs ls := by
  induction hlength : cs.length using Nat.strong_induction_on generalizing cs with
  | _ n ih =>
      subst hlength
      -- the first line goes up to the first character that ends one
      obtain ⟨line, ended, rfl, hunbroken, hended⟩ : ∃ line ended, cs = line ++ ended ∧
          Unbroken line ∧ ∀ c ∈ ended.head?, c = '\n' ∨ c = '\r' := by
        obtain ⟨hcs, hline, hended⟩ :=
          span_eq_iff.1 (List.span_eq_takeWhile_dropWhile cs (p := fun c => c ≠ '\n' && c ≠ '\r'))
        exact ⟨_, _, hcs, by simpa [Unbroken] using hline, by simpa [or_iff_not_imp_left] using hended⟩
      rcases ended with _ | ⟨c, rest⟩
      · rw [List.append_nil]
        by_cases hne : line = []
        · exact ⟨[], hne ▸ .nil⟩
        · exact ⟨[line], .last hne hunbroken⟩
      · rcases hended c rfl with rfl | rfl
        · obtain ⟨ls, hls⟩ := ih rest.length (by simp; omega) rest rfl
          exact ⟨_, .lineFeed hunbroken hls⟩
        · by_cases halone : rest.head? = some '\n'
          · obtain ⟨rest, rfl⟩ := List.head?_eq_some_iff.1 halone
            obtain ⟨ls, hls⟩ := ih rest.length (by simp; omega) rest rfl
            exact ⟨_, .both hunbroken hls⟩
          · obtain ⟨ls, hls⟩ := ih rest.length (by simp; omega) rest rfl
            exact ⟨_, .carriageReturn hunbroken halone hls⟩

/-- The lines of a text are those into which it falls. -/
theorem splits_iff {ls : List (List Char)} : Splits cs ls ↔ lines cs = ls := by
  constructor
  · exact lines_eq_of_splits
  · rintro rfl
    obtain ⟨ls, hls⟩ := exists_splits cs
    rwa [lines_eq_of_splits hls]

/-- Without carriage returns, the lines of a text are pieces of it. -/
lemma Splits.flatten_eq {ls : List (List Char)} (h : Splits cs ls) (hcs : '\r' ∉ cs) :
    ls.flatten = cs := by
  induction h with
  | nil => rfl
  | last _ _ => simp
  | lineFeed _ _ ih => simp [ih (fun hmem => hcs (by simp [hmem]))]
  | both _ _ _ => simp at hcs
  | carriageReturn _ _ _ _ => simp at hcs

end TableFeed.Text
