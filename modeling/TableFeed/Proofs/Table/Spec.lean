import TableFeed.Load
import TableFeed.Proofs.Text.Blank

/-!
# Specs and the names that they write

The grammar of specs says how a text writes the name of a table: a project, a separator, a dataset, a
point and a table.  A project may itself hold points and colons, but a dataset holds neither of them and
a table holds no point, so a text writes one name at most, and its parts are found from the end.

The main result is `Load.readTable_grammar`: a spec is read as the name that it writes once the blanks
around it are gone, it is refused if it writes none, and every name is read back from its own spec.
-/

namespace TableFeed

open Text

namespace TableName

/-- A name whose parts a spec can write. -/
structure IsWritable (t : TableName) : Prop where
  project_ne : t.project ≠ ""
  project_chars : ∀ c ∈ t.project.toList, isProjectChar c = true
  dataset_ne : t.dataset ≠ ""
  dataset_chars : ∀ c ∈ t.dataset.toList, isWord c = true
  table_ne : t.table ≠ ""
  table_chars : ∀ c ∈ t.table.toList, isTableChar c = true

/-- A text writes a name, with a separator after the project. -/
structure Writes (cs : List Char) (separator : Char) (t : TableName) : Prop where
  separates : isSeparator separator = true
  writable : t.IsWritable
  eq : cs = t.project.toList ++ separator :: (t.dataset.toList ++ '.' :: t.table.toList)

variable {spec : String} {t t' : TableName} {cs : List Char} {separator separator' : Char}

/-! ### The classes of characters -/

lemma isTableChar_point : isTableChar '.' = false := by decide +kernel

lemma isWord_of_isSeparator {c : Char} (h : isSeparator c = true) : isWord c = false := by
  obtain rfl | rfl : c = ':' ∨ c = '.' := by simpa [isSeparator] using h
  · decide +kernel
  · decide +kernel

lemma not_isBlank_of_isProjectChar {c : Char} (h : isProjectChar c = true) : isBlank c = false := by
  simp only [isProjectChar, Bool.or_eq_true, beq_iff_eq] at h
  rcases h with ((h | rfl) | rfl) | rfl
  · exact not_isBlank_of_isWord h
  all_goals decide

lemma not_isBlank_of_isTableChar {c : Char} (h : isTableChar c = true) : isBlank c = false := by
  simp only [isTableChar, Bool.or_eq_true, beq_iff_eq] at h
  rcases h with (h | rfl) | rfl
  · exact not_isBlank_of_isWord h
  all_goals decide

/-! ### Taking a spec apart -/

/-- A text is split at its last point and at the separator before that, if the parts have the
characters that they may have. -/
lemma split?_eq_some_iff {cs project dataset table : List Char} :
    split? cs = some (project, dataset, table) ↔ ∃ separator,
      cs = project ++ separator :: (dataset ++ '.' :: table) ∧ isSeparator separator = true ∧
      project ≠ [] ∧ (∀ c ∈ project, isProjectChar c = true) ∧
      dataset ≠ [] ∧ (∀ c ∈ dataset, isWord c = true) ∧
      table ≠ [] ∧ ∀ c ∈ table, isTableChar c = true := by
  constructor
  · intro h
    unfold split? at h
    split at h
    · next table' rest hcs =>
      split at h
      · next dataset' separator project' hrest =>
        split at h
        · next hparts =>
          obtain ⟨rfl, hlater⟩ := Prod.mk.inj (Option.some.inj h)
          obtain ⟨rfl, rfl⟩ := Prod.mk.inj hlater
          obtain ⟨hcs, htable, -⟩ := span_eq_iff.1 hcs
          obtain ⟨rfl, hdataset, -⟩ := span_eq_iff.1 hrest
          simp only [Bool.and_eq_true, Bool.not_eq_true', List.isEmpty_eq_false_iff,
            List.all_eq_true] at hparts
          obtain ⟨⟨⟨⟨htable_ne, hdataset_ne⟩, hseparator⟩, hproject_ne⟩, hproject⟩ := hparts
          refine ⟨separator, ?_, hseparator, by simpa using hproject_ne, by simpa using hproject,
            by simpa using hdataset_ne, by simpa using hdataset, by simpa using htable_ne,
            by simpa using htable⟩
          rw [← List.reverse_reverse cs, hcs]
          simp
        · simp at h
      · simp at h
    · simp at h
  · rintro ⟨separator, rfl, hseparator, hproject_ne, hproject, hdataset_ne, hdataset, htable_ne,
      htable⟩
    have hend : (project ++ separator :: (dataset ++ '.' :: table)).reverse.span isTableChar =
        (table.reverse, '.' :: (dataset.reverse ++ separator :: project.reverse)) := by
      refine span_eq_iff.2 ⟨by simp, by simpa using htable, ?_⟩
      rintro c ⟨⟩
      exact isTableChar_point
    have hmiddle : (dataset.reverse ++ separator :: project.reverse).span isWord =
        (dataset.reverse, separator :: project.reverse) := by
      refine span_eq_iff.2 ⟨rfl, by simpa using hdataset, ?_⟩
      rintro c ⟨⟩
      exact isWord_of_isSeparator hseparator
    have hparts : (!table.reverse.isEmpty && !dataset.reverse.isEmpty && isSeparator separator &&
        !project.reverse.isEmpty && project.reverse.all isProjectChar) = true := by
      simpa [htable_ne, hdataset_ne, hseparator, hproject_ne] using hproject
    rw [split?, hend]
    simp only
    rw [hmiddle]
    simp only
    rw [if_pos hparts]
    simp

namespace Writes

/-- A text is split into the parts of a name that it writes. -/
lemma split?_eq (h : Writes cs separator t) :
    split? cs = some (t.project.toList, t.dataset.toList, t.table.toList) :=
  split?_eq_some_iff.2 ⟨separator, h.eq, h.separates,
    by simpa using h.writable.project_ne, h.writable.project_chars,
    by simpa using h.writable.dataset_ne, h.writable.dataset_chars,
    by simpa using h.writable.table_ne, h.writable.table_chars⟩

/-- A text writes one name at most, and in one way. -/
lemma unique (h : Writes cs separator t) (h' : Writes cs separator' t') :
    separator = separator' ∧ t = t' := by
  have hparts := h.split?_eq.symm.trans h'.split?_eq
  simp only [Option.some.injEq, Prod.mk.injEq, String.toList_inj] at hparts
  have ht : t = t' := by
    cases t
    cases t'
    simpa using hparts
  subst ht
  have htails := List.append_cancel_left (h.eq.symm.trans h'.eq)
  exact ⟨(List.cons.inj htails).1, rfl⟩

/-- The table follows the last point, and the dataset stands between that point and the last
separator before it. -/
lemma last (h : Writes cs separator t) :
    '.' ∉ t.table.toList ∧ ∀ c ∈ t.dataset.toList, isSeparator c = false := by
  refine ⟨fun hpoint => ?_, fun c hc => ?_⟩
  · simpa [isTableChar_point] using h.writable.table_chars '.' hpoint
  · by_contra hseparator
    have hword := h.writable.dataset_chars c hc
    rw [isWord_of_isSeparator (by simpa using hseparator)] at hword
    simp at hword

end Writes

/-- A spec is read as the name that it writes, once the blanks around it are gone. -/
lemma read?_eq_some_iff :
    read? spec = some t ↔ ∃ separator, Writes (strip spec.toList) separator t := by
  unfold read?
  constructor
  · intro h
    obtain ⟨⟨project, dataset, table⟩, hsplit, rfl⟩ := Option.map_eq_some_iff.1 h
    obtain ⟨separator, heq, hseparator, hparts⟩ := split?_eq_some_iff.1 hsplit
    obtain ⟨hproject_ne, hproject, hdataset_ne, hdataset, htable_ne, htable⟩ := hparts
    refine ⟨separator, hseparator, ⟨?_, ?_, ?_, ?_, ?_, ?_⟩, ?_⟩
    all_goals simpa
  · rintro ⟨separator, h⟩
    simp [h.split?_eq]

/-! ### Writing a spec -/

namespace IsWritable

lemma writes_spec (h : t.IsWritable) : Writes t.spec.toList ':' t where
  separates := rfl
  writable := h
  eq := by simp [TableName.spec]

/-- There are no blanks around the spec of a name. -/
lemma strip_spec (h : t.IsWritable) : strip t.spec.toList = t.spec.toList := by
  refine strip_eq_self (fun c hc => ?_) fun c hc => ?_
  · have hc : c ∈ t.project.toList.head? := by
      cases hproject : t.project.toList with
      | nil => exact absurd (by simpa using hproject) h.project_ne
      | cons d rest => simpa [TableName.spec, hproject] using hc
    exact not_isBlank_of_isProjectChar (h.project_chars c (List.mem_of_mem_head? hc))
  · have hspec : t.spec.toList =
        (t.project.toList ++ ':' :: (t.dataset.toList ++ ['.'])) ++ t.table.toList := by
      simp [TableName.spec]
    rw [hspec, List.getLast?_append_of_ne_nil _ (by simpa using h.table_ne)] at hc
    exact not_isBlank_of_isTableChar (h.table_chars c (List.mem_of_mem_getLast? hc))

/-- A name that a spec can write is read back from its own spec. -/
lemma read?_spec (h : t.IsWritable) : read? t.spec = some t :=
  read?_eq_some_iff.2 ⟨':', h.strip_spec.symm ▸ h.writes_spec⟩

end IsWritable

end TableName

namespace Load

open TableName

variable {spec : String} {t : TableName}

lemma readTable_eq_ok_iff :
    readTable spec = .ok t ↔ ∃ separator, Writes (strip spec.toList) separator t := by
  rw [← read?_eq_some_iff, readTable]
  cases read? spec <;> simp

lemma readTable_eq_error_iff {f : Failure} :
    readTable spec = .error f ↔
      f = .misuse (.spec spec) ∧ ¬ ∃ separator t, Writes (strip spec.toList) separator t := by
  have hnone : read? spec = none ↔ ¬ ∃ separator t, Writes (strip spec.toList) separator t := by
    rw [Option.eq_none_iff_forall_ne_some, exists_comm]
    simp only [ne_eq, read?_eq_some_iff, not_exists]
  rw [← hnone, readTable]
  cases read? spec <;> simp [eq_comm]

lemma readTable_spec (h : t.IsWritable) : readTable t.spec = .ok t := by
  rw [readTable, h.read?_spec]
  rfl

/-- A spec is read exactly if it writes a name once the blanks around it are gone, and then as that
name; any other spec is a misuse.  A text writes a name in one way at most: the table follows the last
point, and the dataset stands between that point and the last separator before it.  Every name that can
be written is read back from its own spec, so a spec that was read can be replaced by the one of its
name, and two names have two specs. -/
theorem readTable_grammar (spec : String) :
    (∀ t, readTable spec = .ok t ↔ ∃ separator, Writes (strip spec.toList) separator t) ∧
      (∀ f, readTable spec = .error f ↔
        f = .misuse (.spec spec) ∧ ¬ ∃ separator t, Writes (strip spec.toList) separator t) ∧
      (∀ cs separator t, Writes cs separator t →
        (∀ separator' t', Writes cs separator' t' → separator = separator' ∧ t = t') ∧
          '.' ∉ t.table.toList ∧ ∀ c ∈ t.dataset.toList, isSeparator c = false) ∧
      (∀ t : TableName, t.IsWritable → readTable t.spec = .ok t) ∧
      (∀ t, readTable spec = .ok t → readTable t.spec = .ok t) ∧
      ∀ t t' : TableName, t.IsWritable → t'.IsWritable → t.spec = t'.spec → t = t' := by
  refine ⟨fun t => readTable_eq_ok_iff, fun f => readTable_eq_error_iff, ?_,
    fun t => readTable_spec, ?_, ?_⟩
  · intro cs separator t h
    exact ⟨fun separator' t' h' => h.unique h', h.last⟩
  · intro t ht
    obtain ⟨separator, h⟩ := readTable_eq_ok_iff.1 ht
    exact readTable_spec h.writable
  · intro t t' ht ht' hspec
    have hread := readTable_spec ht
    rw [hspec, readTable_spec ht'] at hread
    exact (Except.ok.inj hread).symm

/-- A project may hold a colon of its own. -/
example : TableName.read? "\u2003p:q.d.t-\n" = some ⟨"p:q", "d", "t-"⟩ := by decide +kernel

end Load

end TableFeed
