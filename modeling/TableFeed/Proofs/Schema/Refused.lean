import TableFeed.Proofs.Schema.Offences

/-!
# Which lists of fields are read

A list of fields is read if it is well formed and each record in it has a name that can be written,
for the fields of a record are placed under its name.  Every other list is refused for the first field
that is at fault, where a record comes before its own fields and these before whatever follows the
record.

The main result is `Field.ofValue_list`.
-/

namespace TableFeed.Field

variable {path : Writing} {n : Nat} {names items : List Value} {item : Value} {f : Failure}

/-- A name that can be written. -/
def Writable (name : Value) : Prop := name.isTooLong = false

mutual

/-- The failures of a list of fields from a number on.  `names` are the names before them. -/
inductive Refused : Writing → Nat → List Value → List Value → Failure → Prop where
  /-- The first field is at fault, or one within it. -/
  | first {path : Writing} {n : Nat} {names : List Value} {item : Value} {rest : List Value}
      {f : Failure} (refused : ItemRefused path n names item f) :
      Refused path n names (item :: rest) f
  /-- Nothing is wrong with the first field, and a later one is at fault, or one within it. -/
  | later {path : Writing} {n : Nat} {names : List Value} {item : Value} {rest : List Value}
      {f : Failure} (wellFormed : WellFormed Writable item) (fresh : Fresh names (nameAt item))
      (refused : Refused path (n + 1) (nameAt item :: names) rest f) :
      Refused path n names (item :: rest) f

/-- The failures of an item of a list of fields. -/
inductive ItemRefused : Writing → Nat → List Value → Value → Failure → Prop where
  /-- The item itself is at fault. -/
  | own {path : Writing} {n : Nat} {names : List Value} {item : Value} {f : Failure}
      (offends : Offends path n names item f) : ItemRefused path n names item f
  /-- The item is a record, and one of its fields is at fault, or one within it. -/
  | inside {path : Writing} {n : Nat} {names : List Value} {entries : List (Value × Value)}
      {name : Value} {type : Writing} {mode : Mode} {items : List Value} {f : Failure}
      (heading : Heading entries name type mode) (fresh : Fresh names name)
      (record : isRecordType type = true) (writable : Writable name)
      (listed : Lists (Value.get entries "fields") items)
      (refused : Refused (placeOf path name) 0 [] items f) :
      ItemRefused path n names (.mapping entries) f

end

/-! ### Lists -/

lemma allWellFormed_nil {admitted : Value → Prop} : AllWellFormed admitted [] :=
  ⟨by simp, by simp [Different]⟩

/-- A list is well formed, and its names are new, if this is so of its first item and, counting its
name as well, of the others. -/
lemma allWellFormed_cons_iff {admitted : Value → Prop} {rest : List Value} :
    (AllWellFormed admitted (item :: rest) ∧ ∀ i ∈ item :: rest, Fresh names (nameAt i)) ↔
      (WellFormed admitted item ∧ Fresh names (nameAt item)) ∧
        AllWellFormed admitted rest ∧ ∀ i ∈ rest, Fresh (nameAt item :: names) (nameAt i) := by
  constructor
  · rintro ⟨⟨heach, hdifferent⟩, hfresh⟩
    rw [List.forall_mem_cons] at heach hfresh
    rw [Different, List.map_cons, List.pairwise_cons] at hdifferent
    refine ⟨⟨heach.1, hfresh.1⟩, ⟨heach.2, hdifferent.2⟩, fun i hi => ?_⟩
    exact List.forall_mem_cons.2 ⟨hdifferent.1 _ (List.mem_map_of_mem hi), hfresh.2 i hi⟩
  · rintro ⟨⟨hitem, hnew⟩, ⟨heach, hdifferent⟩, hfresh⟩
    refine ⟨⟨List.forall_mem_cons.2 ⟨hitem, heach⟩, ?_⟩, List.forall_mem_cons.2 ⟨hnew, fun i hi => ?_⟩⟩
    · rw [Different, List.map_cons, List.pairwise_cons]
      refine ⟨fun name hname => ?_, hdifferent⟩
      obtain ⟨i, hi, rfl⟩ := List.mem_map.1 hname
      exact hfresh i hi _ (by simp)
    · exact fun earlier hearlier => hfresh i hi earlier (by simp [hearlier])

/-- What a record lists is smaller than the record. -/
lemma sizeOf_lt_of_lists {entries : List (Value × Value)}
    (h : Lists (Value.get entries "fields") items) : sizeOf items < sizeOf (Value.mapping entries) := by
  have hitems : sizeOf items < sizeOf (Value.get entries "fields") := by
    rcases h with h | h <;> rw [h] <;> simp
  rw [Value.get, Value.lookup?] at h hitems
  cases hfound : entries.find? fun e => e.1.same (.text "fields") with
  | none =>
      rw [hfound] at h
      rcases h with h | h <;> cases h
  | some e =>
      have hmem := List.sizeOf_lt_of_mem (List.mem_of_find?_eq_some hfound)
      simp only [hfound, Option.map_some, Option.getD_some] at hitems
      rw [Value.mapping.sizeOf_spec]
      obtain ⟨k, v⟩ := e
      simp only [Prod.mk.sizeOf_spec] at hmem hitems
      omega

/-- An item is well formed, with a new name, or it is refused, if this is so of the fields that it
lists. -/
lemma wellFormed_or_itemRefused (path : Writing) (n : Nat) (names : List Value) (item : Value)
    (hinside : ∀ entries items, item = .mapping entries → Lists (Value.get entries "fields") items →
      ∀ path, AllWellFormed Writable items ∨ ∃ f, Refused path 0 [] items f) :
    (WellFormed Writable item ∧ Fresh names (nameAt item)) ∨
      ∃ f, ItemRefused path n names item f := by
  by_cases hmapping : ∃ entries, item = .mapping entries
  · obtain ⟨entries, rfl⟩ := hmapping
    rcases heading_or_offends path n names entries with ⟨name, type, mode, heading, fresh⟩ | ⟨f, hf⟩
    · have hfresh : Fresh names (nameAt (.mapping entries)) := by
        rwa [nameAt, heading.named.at_name]
      rcases fieldsOf_cases path name type entries with
        flat | ⟨record, ⟨f, hf⟩ | ⟨writable, items, listed, ne⟩⟩
      · exact .inl ⟨.column heading flat, hfresh⟩
      · exact .inr ⟨f, .own (.fields heading fresh record hf)⟩
      · rcases hinside entries items rfl listed (placeOf path name) with hitems | ⟨f, hf⟩
        · exact .inl ⟨.record heading record writable listed ne hitems.different hitems.each, hfresh⟩
        · exact .inr ⟨f, .inside heading fresh record writable listed hf⟩
    · exact .inr ⟨f, .own hf⟩
  · exact .inr ⟨_, .own (.notMapping fun entries heq => hmapping ⟨entries, heq⟩)⟩

/-- A list of fields is well formed, with new names, or it is refused. -/
theorem allWellFormed_or_refused (path : Writing) (n : Nat) (names items : List Value) :
    (AllWellFormed Writable items ∧ ∀ item ∈ items, Fresh names (nameAt item)) ∨
      ∃ f, Refused path n names items f := by
  -- what a record lists is smaller than the record, but no part of the list that the record is in
  induction hsize : sizeOf items using Nat.strong_induction_on generalizing path n names items with
  | _ size ih =>
      subst hsize
      cases items with
      | nil => exact .inl ⟨allWellFormed_nil, by simp⟩
      | cons item rest =>
          have hitem : (WellFormed Writable item ∧ Fresh names (nameAt item)) ∨
              ∃ f, ItemRefused path n names item f := by
            refine wellFormed_or_itemRefused path n names item ?_
            rintro entries items rfl hlists path
            have hlt : sizeOf items < sizeOf (Value.mapping entries :: rest) := by
              have := sizeOf_lt_of_lists hlists
              simp only [List.cons.sizeOf_spec]
              omega
            simpa [Fresh] using ih _ hlt path 0 [] items rfl
          rcases hitem with ⟨hwellFormed, hfresh⟩ | ⟨f, hf⟩
          · have hlt : sizeOf rest < sizeOf (item :: rest) := by
              simp only [List.cons.sizeOf_spec]
              omega
            rcases ih _ hlt path (n + 1) (nameAt item :: names) rest rfl with hrest | ⟨f, hf⟩
            · exact .inl (allWellFormed_cons_iff.2 ⟨⟨hwellFormed, hfresh⟩, hrest⟩)
            · exact .inr ⟨f, .later hwellFormed hfresh hf⟩
          · exact .inr ⟨f, .first hf⟩

/-! ### Reading -/

/-- Items that become fields, and whose names are new, are read as a list. -/
lemma exists_ofItems (path : Writing) (n : Nat) (names : List Value)
    (h : ∀ item ∈ items, ∀ (path : Writing) (n : Nat) (names : List Value),
      Fresh names (nameAt item) →
        ∃ field, ofItem path n names item = .ok (nameAt item, field) ∧ Holds item field)
    (hdifferent : Different items) (hfresh : ∀ item ∈ items, Fresh names (nameAt item)) :
    ∃ fields, ofItems path n names items = .ok fields ∧ List.Forall₂ Holds items fields := by
  induction items generalizing n names with
  | nil => exact ⟨[], by rw [ofItems], .nil⟩
  | cons item rest ih =>
      rw [List.forall_mem_cons] at h hfresh
      rw [Different, List.map_cons, List.pairwise_cons] at hdifferent
      obtain ⟨field, hitem, hholds⟩ := h.1 path n names hfresh.1
      have hnew : ∀ i ∈ rest, Fresh (nameAt item :: names) (nameAt i) := fun i hi =>
        List.forall_mem_cons.2 ⟨hdifferent.1 _ (List.mem_map_of_mem hi), hfresh.2 i hi⟩
      obtain ⟨fields, hrest, hall⟩ := ih (n + 1) _ h.2 hdifferent.2 hnew
      refine ⟨field :: fields, ?_, .cons hholds hall⟩
      rw [ofItems, hitem]
      dsimp only [bind, Except.bind]
      rw [hrest]

/-- A well formed item becomes a field that holds it. -/
lemma WellFormed.exists_ofItem (h : WellFormed Writable item) :
    ∀ (path : Writing) (n : Nat) (names : List Value), Fresh names (nameAt item) →
      ∃ field, ofItem path n names item = .ok (nameAt item, field) ∧ Holds item field := by
  induction h with
  | @column entries name type mode heading flat =>
      intro path n names hfresh
      obtain rfl := heading.named.at_name
      rw [heading.ofItem_eq hfresh, fieldsOf, flat]
      exact ⟨_, rfl, .column heading.typed heading.moded flat⟩
  | @record entries name type mode items heading record writable listed ne different _ ih =>
      intro path n names hfresh
      obtain rfl := heading.named.at_name
      obtain ⟨fields, hfields, hholds⟩ := exists_ofItems (placeOf path _) 0 [] ih different
        fun _ _ => fresh_nil
      rw [heading.ofItem_eq hfresh, fieldsOf_of_lists record writable listed ne, hfields]
      exact ⟨_, rfl, .record heading.typed heading.moded record listed hholds⟩

lemma Refused.ne_nil (h : Refused path n names items f) : items ≠ [] := by
  cases h <;> simp

mutual

/-- A list that is refused is not read. -/
lemma Refused.ofItems_eq_error {path : Writing} {n : Nat} {names items : List Value} {f : Failure} :
    Refused path n names items f → ofItems path n names items = .error f
  | .first refused => by
      rw [ofItems, refused.ofItem_eq_error]
      rfl
  | .later wellFormed fresh refused => by
      obtain ⟨field, hitem, -⟩ := wellFormed.exists_ofItem _ _ _ fresh
      rw [ofItems, hitem]
      dsimp only [bind, Except.bind]
      rw [refused.ofItems_eq_error]

/-- An item that is refused does not become a field. -/
lemma ItemRefused.ofItem_eq_error {path : Writing} {n : Nat} {names : List Value} {item : Value}
    {f : Failure} : ItemRefused path n names item f → ofItem path n names item = .error f
  | .own offends => offends.ofItem_eq_error
  | .inside heading fresh record writable listed refused => by
      rw [heading.ofItem_eq fresh, fieldsOf_of_lists record writable listed refused.ne_nil,
        refused.ofItems_eq_error]
      rfl

end

/-- A well formed list of fields is read. -/
lemma AllWellFormed.exists_ofItems (h : AllWellFormed Writable items) (path : Writing) :
    ∃ fields, ofItems path 0 [] items = .ok fields ∧ List.Forall₂ Holds items fields :=
  Field.exists_ofItems path 0 [] (fun item hitem => (h.each item hitem).exists_ofItem) h.different
    fun _ _ => fresh_nil

/-- A list of fields is read if it is well formed and the names of its records can be written, and
each field holds what it comes from.  Otherwise the first field that is at fault decides the
failure. -/
theorem ofValue_list (path : Writing) (items : List Value) :
    ((∃ fields, ofValue path (.list items) = .ok fields) ↔ AllWellFormed Writable items) ∧
      (∀ fields, ofValue path (.list items) = .ok fields → List.Forall₂ Holds items fields) ∧
      ∀ f, ofValue path (.list items) = .error f ↔ Refused path 0 [] items f := by
  rw [ofValue]
  -- a list is the one or the other, and either way it is known what is read from it
  rcases allWellFormed_or_refused path 0 [] items with ⟨hall, -⟩ | ⟨f, hf⟩
  · obtain ⟨fields, hfields, hholds⟩ := hall.exists_ofItems path
    refine ⟨iff_of_true ⟨fields, hfields⟩ hall, ?_, fun g => ?_⟩
    · intro fields' hfields'
      rw [hfields] at hfields'
      rwa [← Except.ok.inj hfields']
    · refine iff_of_false (by simp [hfields]) fun hg => ?_
      simp [hg.ofItems_eq_error] at hfields
  · have herror := hf.ofItems_eq_error
    refine ⟨iff_of_false (by simp [herror]) fun hall => ?_, by simp [herror], fun g => ?_⟩
    · obtain ⟨fields, hfields, -⟩ := hall.exists_ofItems path
      simp [herror] at hfields
    · constructor
      · intro hg
        rw [herror] at hg
        rwa [← Except.error.inj hg]
      · exact Refused.ofItems_eq_error

/-- A record is not read if its name is an integer that cannot be written, even if nothing else is
wrong with it. -/
theorem ofValue_list_long_name :
    let column : Value := .mapping [(.text "name", .text "a"), (.text "type", .text "string")]
    let record : Value := .mapping [(.text "name", .int (Int.ofNat (Nat.pow 10 Number.digitLimit))),
      (.text "type", .text "record"), (.text "fields", .list [column])]
    AllWellFormed (fun _ => True) [record] ∧
      ofValue "schema" (.list [record]) = .error (.fault .unwritable) := by
  intro column record
  have hlong : Number.exceedsDigitLimit (Int.ofNat (Nat.pow 10 Number.digitLimit)) = true := by
    decide +kernel
  have hcolumn : Heading [(.text "name", .text "a"), (.text "type", .text "string")] (.text "a")
      "STRING" .nullable := by
    refine ⟨⟨rfl, rfl, rfl⟩, ?_, by decide, .missing rfl⟩
    rw [← show (Value.text "string").upperText = "STRING" by decide +kernel]
    exact .given rfl rfl
  have hrecord : Heading [(.text "name", .int (Int.ofNat (Nat.pow 10 Number.digitLimit))),
      (.text "type", .text "record"), (.text "fields", .list [column])]
      (.int (Int.ofNat (Nat.pow 10 Number.digitLimit))) "RECORD" .nullable := by
    refine ⟨⟨rfl, by decide +kernel, rfl⟩, ?_, by decide, .missing rfl⟩
    rw [← show (Value.text "record").upperText = "RECORD" by decide +kernel]
    exact .given rfl rfl
  constructor
  · have hwellFormed : WellFormed (fun _ => True) record :=
      .record hrecord rfl trivial (.inl rfl) (by simp) (List.pairwise_singleton _ _)
        (List.forall_mem_singleton.2 (.column hcolumn rfl))
    exact ⟨List.forall_mem_singleton.2 hwellFormed, List.pairwise_singleton _ _⟩
  · have hrefused : Refused "schema" 0 [] [record] (.fault .unwritable) :=
      .first (.own (.fields hrecord fresh_nil rfl (.unwritable rfl hlong)))
    rw [ofValue, hrefused.ofItems_eq_error]

end TableFeed.Field
