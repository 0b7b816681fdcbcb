import Mathlib
import TableFeed.Text.Blank
import TableFeed.Text.Word

/-!
# White space and words

No character of a word is white space, so a text that starts and ends with such characters has
nothing that could be stripped from it.

The main results are `Text.not_isBlank_of_isWord` and `Text.strip_eq_self`; `Text.span_eq_iff` says
what stands at the front of a text up to the first character that is not of a class.
-/

namespace TableFeed.Text

/-- A list is spanned by a class up to the first member that is not in it. -/
lemma span_eq_iff {α : Type} {p : α → Bool} {l a b : List α} :
    l.span p = (a, b) ↔ l = a ++ b ∧ (∀ x ∈ a, p x = true) ∧ ∀ x ∈ b.head?, p x = false := by
  rw [List.span_eq_takeWhile_dropWhile]
  constructor
  · intro h
    obtain ⟨rfl, rfl⟩ := Prod.mk.inj h
    refine ⟨List.takeWhile_append_dropWhile.symm, fun x hx => List.mem_takeWhile_imp hx, ?_⟩
    intro x hx
    have hfirst := List.head?_dropWhile_not p l
    rw [Option.mem_def.1 hx] at hfirst
    simpa using hfirst
  · rintro ⟨rfl, ha, hb⟩
    rw [List.takeWhile_append_of_pos ha, List.dropWhile_append_of_pos ha]
    cases b with
    | nil => simp
    | cons x b => simp [hb x rfl]

/-- The characters of a set are those of its first run and those of the runs after it. -/
lemma CharSet.contains_cons_cons {lo hi : Nat} {rest : List Nat} (hrun : lo ≤ hi)
    (hrest : ∀ b ∈ rest, hi ≤ b) (c : Char) :
    (CharSet.mk (lo :: hi :: rest)).contains c =
      (decide (lo ≤ c.toNat ∧ c.toNat < hi) || (CharSet.mk rest).contains c) := by
  have hbefore : c.toNat < hi → rest.countP (fun b => decide (b ≤ c.toNat)) = 0 := by
    intro hlt
    rw [List.countP_eq_zero]
    intro b hb
    have hle := hrest b hb
    simp only [decide_eq_true_eq]
    omega
  simp only [contains, List.countP_cons]
  by_cases hhi : hi ≤ c.toNat
  · -- both changes of the run lie before the character, so they cancel out
    have hlo : lo ≤ c.toNat := hrun.trans hhi
    simp only [hhi, hlo, decide_true, if_true, Nat.not_lt.2 hhi, and_false, decide_false,
      Bool.false_or, add_assoc, Nat.add_mod_right, Nat.reduceAdd]
  · rw [hbefore (Nat.lt_of_not_le hhi)]
    by_cases hlo : lo ≤ c.toNat
    · simp [hhi, hlo, Nat.lt_of_not_le hhi]
    · simp [hhi, hlo]

/-- The code points of the white space. -/
def blankPoints : List Nat := [
  9, 10, 11, 12, 13, 28, 29, 30, 31, 32, 133, 160, 5760, 8192, 8193, 8194, 8195, 8196, 8197, 8198,
  8199, 8200, 8201, 8202, 8232, 8233, 8239, 8287, 12288]

lemma toNat_mem_blankPoints {c : Char} (h : isBlank c = true) : c.toNat ∈ blankPoints := by
  unfold isBlank blankChars at h
  repeat rw [CharSet.contains_cons_cons (by decide) (by decide)] at h
  simp only [CharSet.contains_nil, Bool.or_eq_true, Bool.false_eq_true, or_false,
    decide_eq_true_eq] at h
  simp only [blankPoints, List.mem_cons, List.not_mem_nil, or_false]
  omega

/-- No character of a word is white space. -/
theorem not_isBlank_of_isWord {c : Char} (h : isWord c = true) : isBlank c = false := by
  have houtside : ∀ n ∈ blankPoints, (wordChars.bounds.countP (· ≤ n) % 2 == 1) = false := by
    decide +kernel
  by_contra hblank
  have hnot := houtside _ (toNat_mem_blankPoints (by simpa using hblank))
  rw [isWord, CharSet.contains, hnot] at h
  simp at h

/-- A text with no white space at its two ends is left as it is. -/
theorem strip_eq_self {cs : List Char} (hfirst : ∀ c ∈ cs.head?, isBlank c = false)
    (hlast : ∀ c ∈ cs.getLast?, isBlank c = false) : strip cs = cs := by
  have hkept : ∀ {l : List Char}, (∀ c ∈ l.head?, isBlank c = false) → l.dropWhile isBlank = l := by
    intro l hl
    cases l with
    | nil => rfl
    | cons c l => rw [List.dropWhile_cons_of_neg (by simp [hl c rfl])]
  rw [strip, stripWhere, hkept hfirst, hkept (by simpa using hlast), List.reverse_reverse]

end TableFeed.Text
