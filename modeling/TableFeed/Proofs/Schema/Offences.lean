import TableFeed.Proofs.Schema.WellFormed

/-!
# What a field may be at fault in

A mapping is looked at for its name, its type, its mode and then the fields of a record.  For each of
the four there is a predicate that lists the failures, and it is shown that the step fails with these
and no others.  `Field.Offends` puts them in order.

The main results are

* `Field.heading_or_offends`: a mapping has a heading with a new name, or it is at fault;
* `Field.Offends.ofItem_eq_error`: an item that is at fault does not become a field.
-/

namespace TableFeed.Field

variable {path w type : Writing} {n : Nat} {name v : Value} {names items : List Value}
  {entries : List (Value × Value)} {f : Failure}

/-! ### The failures of a field -/

/-- The place of a name that can be written. -/
def placeOf (path : Writing) (name : Value) : Writing := path ++ "." ++ name.display

/-- The failure of a field that is called by its name, which therefore has to be written. -/
def misnamed (path : Writing) (name : Value) (fault : FieldFault) : Failure :=
  if name.isTooLong then .fault .unwritable else .misuse (.field (placeOf path name) fault)

/-- The failures of the name of a field, which has to be new. -/
inductive NameOffence (path : Writing) (n : Nat) (names : List Value)
    (entries : List (Value × Value)) : Failure → Prop where
  /-- There is no name. -/
  | nameless (missing : (Value.get entries "name").isGiven = false) :
      NameOffence path n names entries (.misuse (.field (itemPlace path n) .nameless))
  /-- The name can be no key. -/
  | unhashable {part : Value} (given : (Value.get entries "name").isGiven = true)
      (keyless : (Value.get entries "name").keyless? = some part) :
      NameOffence path n names entries (.fault (.unhashable part.kind))
  /-- The name is that of an earlier field. -/
  | duplicate {name : Value} (named : Named entries name) (again : ¬Fresh names name) :
      NameOffence path n names entries (misnamed path name .duplicate)

/-- The failures of the type of a field. -/
inductive TypeOffence (path : Writing) (name : Value) (entries : List (Value × Value)) :
    Failure → Prop where
  /-- The type cannot be written. -/
  | unwritable (long : Unwritable entries "type") : TypeOffence path name entries (.fault .unwritable)
  /-- There is no type. -/
  | typeless (missing : Word entries "type" "" "") :
      TypeOffence path name entries (misnamed path name .typeless)

/-- The failures of the mode of a field. -/
inductive ModeOffence (path : Writing) (name : Value) (entries : List (Value × Value)) :
    Failure → Prop where
  /-- The mode cannot be written. -/
  | unwritable (long : Unwritable entries "mode") : ModeOffence path name entries (.fault .unwritable)
  /-- There is no such mode. -/
  | unknown {w : Writing} (word : Word entries "mode" "NULLABLE" w)
      (unknown : ∀ mode, w ≠ Mode.word mode) :
      ModeOffence path name entries (misnamed path name (.mode w))

/-- The failures of a value that stands where fields are to be listed, and lists nothing. -/
inductive Unlisted (path : Writing) : Value → Failure → Prop where
  /-- The value has no parts. -/
  | partless {v : Value} (partless : v.parts? = none) (outside : ∀ listed, v ≠ .within listed) :
      Unlisted path v (.fault (.partless v.kind))
  /-- The value is a list or a mapping within which it stands. -/
  | endless {listed : Bool} : Unlisted path (.within listed) (.fault .endless)
  /-- The value has other parts than fields, and the first one is no mapping. -/
  | notMapping {v : Value} {parts : List Value} (parts : v.parts? = some parts)
      (other : ∀ items, ¬Lists v items) :
      Unlisted path v (.misuse (.field (itemPlace path 0) .notMapping))

/-- The failures of the fields of a record, before any of them is looked at. -/
inductive FieldsOffence (path : Writing) (name : Value) (entries : List (Value × Value)) :
    Failure → Prop where
  /-- There are no fields. -/
  | childless (missing : (Value.get entries "fields").isGiven = false) :
      FieldsOffence path name entries (misnamed path name .childless)
  /-- The fields have no place, because the name of the record cannot be written. -/
  | unwritable (given : (Value.get entries "fields").isGiven = true) (long : name.isTooLong = true) :
      FieldsOffence path name entries (.fault .unwritable)
  /-- No fields are listed. -/
  | unlisted {f : Failure} (given : (Value.get entries "fields").isGiven = true)
      (short : name.isTooLong = false)
      (unlisted : Unlisted (placeOf path name) (Value.get entries "fields") f) :
      FieldsOffence path name entries f

/-- The failures of one item of a list, apart from those of the fields that it lists itself. -/
inductive Offends (path : Writing) (n : Nat) (names : List Value) : Value → Failure → Prop where
  /-- The item is no mapping. -/
  | notMapping {item : Value} (other : ∀ entries, item ≠ .mapping entries) :
      Offends path n names item (.misuse (.field (itemPlace path n) .notMapping))
  /-- The mapping is at fault in its name. -/
  | name {entries : List (Value × Value)} {f : Failure}
      (offence : NameOffence path n names entries f) : Offends path n names (.mapping entries) f
  /-- The mapping is at fault in its type. -/
  | type {entries : List (Value × Value)} {name : Value} {f : Failure} (named : Named entries name)
      (fresh : Fresh names name) (offence : TypeOffence path name entries f) :
      Offends path n names (.mapping entries) f
  /-- The mapping is at fault in its mode. -/
  | mode {entries : List (Value × Value)} {name : Value} {type : Writing} {f : Failure}
      (named : Named entries name) (fresh : Fresh names name) (typed : Word entries "type" "" type)
      (nonempty : type ≠ "") (offence : ModeOffence path name entries f) :
      Offends path n names (.mapping entries) f
  /-- The mapping is a record and at fault in its fields. -/
  | fields {entries : List (Value × Value)} {name : Value} {type : Writing} {mode : Mode}
      {f : Failure} (heading : Heading entries name type mode) (fresh : Fresh names name)
      (record : isRecordType type = true) (offence : FieldsOffence path name entries f) :
      Offends path n names (.mapping entries) f

/-! ### Names, types and modes -/

lemma namePlace_eq : namePlace path name =
    if name.isTooLong then .error (.fault .unwritable) else .ok (placeOf path name) := by
  rw [namePlace, Value.shown]
  cases name.isTooLong <;> rfl

lemma fresh_iff : Fresh names name ↔ names.any (·.same name) = false := by
  simp [Fresh]

lemma not_fresh_iff : ¬Fresh names name ↔ names.any (·.same name) = true := by
  simp [fresh_iff]

lemma nameOf_eq (path : Writing) (n : Nat) (names : List Value) (entries : List (Value × Value)) :
    nameOf path (itemPlace path n) names entries =
      if (Value.get entries "name").isGiven then
        match (Value.get entries "name").keyless? with
        | some part => .error (.fault (.unhashable part.kind))
        | none =>
          if names.any (·.same (Value.get entries "name")) then
            .error (misnamed path (Value.get entries "name") .duplicate)
          else .ok (Value.get entries "name")
      else .error (.misuse (.field (itemPlace path n) .nameless)) := by
  rw [nameOf]
  generalize Value.get entries "name" = name
  cases hgiven : name.isGiven with
  | false => rfl
  | true =>
      simp only [Value.asKey]
      cases name.keyless? with
      | some part => rfl
      | none =>
          -- the name is a key, so only an earlier one can be in its way
          change (if names.any (·.same name) then
            namePlace path name >>= fun place => misplaced place .duplicate >>= fun (_ : Unit) =>
              Except.ok name else .ok name) = _
          rw [namePlace_eq]
          cases names.any (·.same name) with
          | false => rfl
          | true => cases hlong : name.isTooLong <;> simp [misnamed, hlong, misplaced, bind, Except.bind]

lemma nameOf_eq_ok_iff : nameOf path (itemPlace path n) names entries = .ok name ↔
    Named entries name ∧ Fresh names name := by
  rw [nameOf_eq]
  constructor
  · intro h
    split at h
    · next hgiven =>
        split at h
        · simp at h
        · next hkey =>
            split at h
            · simp at h
            · next hnew =>
                obtain rfl := Except.ok.inj h
                exact ⟨⟨rfl, hgiven, hkey⟩, fresh_iff.2 (by simpa using hnew)⟩
    · simp at h
  · rintro ⟨⟨rfl, hgiven, hkey⟩, hfresh⟩
    simp [hgiven, hkey, fresh_iff.1 hfresh]

lemma nameOf_eq_error_iff : nameOf path (itemPlace path n) names entries = .error f ↔
    NameOffence path n names entries f := by
  rw [nameOf_eq]
  constructor
  · intro h
    split at h
    · next hgiven =>
        split at h
        · next hkeyless =>
            obtain rfl := Except.error.inj h
            exact .unhashable hgiven hkeyless
        · next hkey =>
            split at h
            · next hold =>
                obtain rfl := Except.error.inj h
                exact .duplicate ⟨rfl, hgiven, hkey⟩ (not_fresh_iff.2 hold)
            · simp at h
    · next hmissing =>
        obtain rfl := Except.error.inj h
        exact .nameless (by simpa using hmissing)
  · rintro (hmissing | ⟨hgiven, hkeyless⟩ | ⟨⟨rfl, hgiven, hkey⟩, hagain⟩)
    · simp [hmissing]
    · simp [hgiven, hkeyless]
    · simp [hgiven, hkey, not_fresh_iff.1 hagain]

lemma typeOf_eq (path : Writing) (name : Value) (entries : List (Value × Value)) :
    typeOf (namePlace path name) entries = wordAt entries "type" "" >>= fun w =>
      if w.isEmpty then .error (misnamed path name .typeless) else .ok w := by
  rw [typeOf, namePlace_eq, misnamed]
  cases wordAt entries "type" "" with
  | error f => rfl
  | ok w =>
      simp only [bind, Except.bind]
      cases w.isEmpty with
      | false => rfl
      | true => cases name.isTooLong <;> rfl

lemma typeOf_eq_ok_iff {type : Writing} : typeOf (namePlace path name) entries = .ok type ↔
    Word entries "type" "" type ∧ type ≠ "" := by
  rw [typeOf_eq, ← wordAt_eq_ok_iff]
  constructor
  · intro h
    obtain ⟨w, hw, h⟩ := exists_of_bind_eq_ok h
    split at h
    · simp at h
    · next hne =>
        obtain rfl := Except.ok.inj h
        exact ⟨hw, by simpa using hne⟩
  · rintro ⟨hw, hne⟩
    simp [hw, hne, bind, Except.bind]

lemma typeOf_eq_error_iff : typeOf (namePlace path name) entries = .error f ↔
    TypeOffence path name entries f := by
  rw [typeOf_eq]
  constructor
  · intro h
    rcases of_bind_eq_error h with h | ⟨w, hw, h⟩
    · obtain ⟨hlong, rfl⟩ := wordAt_eq_error_iff.1 h
      exact .unwritable hlong
    · split at h
      · next hempty =>
          obtain rfl := Except.error.inj h
          obtain rfl : w = "" := by simpa using hempty
          exact .typeless (wordAt_eq_ok_iff.1 hw)
      · simp at h
  · rintro (hlong | hmissing)
    · rw [wordAt_eq_error_iff.2 ⟨hlong, rfl⟩]
      rfl
    · rw [wordAt_eq_ok_iff.2 hmissing]
      rfl

lemma Mode.ofWord?_eq_some_iff {mode : Mode} : Mode.ofWord? w = some mode ↔ w = mode.word := by
  constructor
  · intro h
    rw [Mode.ofWord?] at h
    have hword := List.find?_some h
    exact eq_of_beq hword
  · rintro rfl
    cases mode <;> rfl

lemma Mode.ofWord?_eq_none_iff : Mode.ofWord? w = none ↔ ∀ mode, w ≠ Mode.word mode := by
  simp [Option.eq_none_iff_forall_ne_some, Mode.ofWord?_eq_some_iff]

lemma modeOf_eq (path : Writing) (name : Value) (entries : List (Value × Value)) :
    modeOf (namePlace path name) entries = wordAt entries "mode" "NULLABLE" >>= fun w =>
      (Mode.ofWord? w).elim (.error (misnamed path name (.mode w))) .ok := by
  rw [modeOf, namePlace_eq]
  cases wordAt entries "mode" "NULLABLE" with
  | error f => rfl
  | ok w =>
      simp only [bind, Except.bind, misnamed]
      cases Mode.ofWord? w with
      | some mode => rfl
      | none => cases name.isTooLong <;> rfl

lemma modeOf_eq_ok_iff {mode : Mode} : modeOf (namePlace path name) entries = .ok mode ↔
    Word entries "mode" "NULLABLE" mode.word := by
  rw [modeOf_eq, ← wordAt_eq_ok_iff]
  constructor
  · intro h
    obtain ⟨w, hw, h⟩ := exists_of_bind_eq_ok h
    cases hmode : Mode.ofWord? w with
    | none => simp [hmode] at h
    | some mode' =>
        obtain rfl : mode' = mode := by simpa [hmode] using h
        rw [hw, Mode.ofWord?_eq_some_iff.1 hmode]
  · intro hw
    rw [hw]
    simp [Mode.ofWord?_eq_some_iff.2 rfl, bind, Except.bind]

lemma modeOf_eq_error_iff : modeOf (namePlace path name) entries = .error f ↔
    ModeOffence path name entries f := by
  rw [modeOf_eq]
  constructor
  · intro h
    rcases of_bind_eq_error h with h | ⟨w, hw, h⟩
    · obtain ⟨hlong, rfl⟩ := wordAt_eq_error_iff.1 h
      exact .unwritable hlong
    · cases hmode : Mode.ofWord? w with
      | none =>
          obtain rfl : misnamed path name (.mode w) = f := by simpa [hmode] using h
          exact .unknown (wordAt_eq_ok_iff.1 hw) (Mode.ofWord?_eq_none_iff.1 hmode)
      | some mode => simp [hmode] at h
  · rintro (hlong | ⟨hw, hunknown⟩)
    · rw [wordAt_eq_error_iff.2 ⟨hlong, rfl⟩]
      rfl
    · rw [wordAt_eq_ok_iff.2 hw]
      simp [Mode.ofWord?_eq_none_iff.2 hunknown, bind, Except.bind]

/-! ### The fields of a record -/

/-- The fields of a mapping with a given name and type. -/
def fieldsOf (path : Writing) (name : Value) (type : Writing) (entries : List (Value × Value)) :
    Except Failure (List Field) :=
  if isRecordType type then
    if (Value.get entries "fields").isGiven then
      namePlace path name >>= fun place => ofValue place (Value.get entries "fields")
    else .error (misnamed path name .childless)
  else .ok []

lemma childrenOf_eq (path : Writing) (entries : List (Value × Value)) :
    childrenOf path entries =
      ((Value.lookup? entries (.text "fields")).map (ofValue path)).getD (.ok []) := by
  induction entries with
  | nil => rw [childrenOf]; rfl
  | cons e rest ih =>
      obtain ⟨k, v⟩ := e
      rw [childrenOf, Value.lookup?, List.find?_cons]
      cases k.same (.text "fields") with
      | true => rfl
      | false => simpa [Value.lookup?] using ih

lemma childrenOf_of_isGiven (path : Writing) (h : (Value.get entries "fields").isGiven = true) :
    childrenOf path entries = ofValue path (Value.get entries "fields") := by
  rw [childrenOf_eq]
  rw [Value.get] at h ⊢
  cases hlookup : Value.lookup? entries (.text "fields") with
  | none => simp [hlookup, Value.isGiven] at h
  | some v => rfl

lemma ofItem_mapping (path : Writing) (n : Nat) (names : List Value)
    (entries : List (Value × Value)) :
    ofItem path n names (.mapping entries) =
      (do
        let name ← nameOf path (itemPlace path n) names entries
        let type ← typeOf (namePlace path name) entries
        let mode ← modeOf (namePlace path name) entries
        let fields ← fieldsOf path name type entries
        .ok (name, .mk name type mode (Value.get entries "description") fields)) := by
  rw [ofItem]
  refine bind_congr fun name => bind_congr fun type => bind_congr fun mode => ?_
  rw [fieldsOf]
  cases isRecordType type with
  | false => rfl
  | true =>
      cases hgiven : (Value.get entries "fields").isGiven with
      | false => rw [namePlace_eq, misnamed]; cases name.isTooLong <;> rfl
      | true =>
          simp only [childrenOf_of_isGiven _ hgiven]
          cases namePlace path name <;> rfl

/-! ### What stands in place of fields -/

lemma ofValue_of_lists (h : Lists v items) : ofValue path v = ofItems path 0 [] items := by
  rcases h with rfl | rfl <;> rw [ofValue]

lemma Lists.isGiven_iff (h : Lists v items) : v.isGiven = true ↔ items ≠ [] := by
  rcases h with rfl | rfl <;> simp [Value.isGiven]

/-- What is given has parts, if it can have any. -/
lemma parts_ne_nil {parts : List Value} (hgiven : v.isGiven = true) (hparts : v.parts? = some parts) :
    parts ≠ [] := by
  rintro rfl
  cases v <;> simp_all [Value.isGiven, Value.parts?]

lemma Unlisted.not_lists (h : Unlisted path v f) : ¬Lists v items := by
  cases h with
  | partless hpartless _ => rintro (rfl | rfl) <;> simp [Value.parts?] at hpartless
  | endless => rintro (h | h) <;> cases h
  | notMapping _ hother => exact hother items

/-- What is given and lists nothing is not taken to fields. -/
lemma ofValue_of_not_lists (path : Writing) (hgiven : v.isGiven = true)
    (hother : ∀ items, ¬Lists v items) : ∃ f, Unlisted path v f ∧ ofValue path v = .error f := by
  have hvalue : ofValue path v = ofOther path v := by
    unfold ofValue
    split
    · exact absurd (.inl rfl) (hother _)
    · exact absurd (.inr rfl) (hother _)
    · rfl
  rw [hvalue, ofOther]
  -- what stands within itself has no parts either, but it fails in a way of its own
  by_cases hwithin : ∃ listed, v = .within listed
  · obtain ⟨listed, rfl⟩ := hwithin
    exact ⟨_, .endless, rfl⟩
  have houtside : ∀ listed, v ≠ .within listed := fun listed heq => hwithin ⟨listed, heq⟩
  have hparts : v.parts = v.parts?.elim (.error (.partless v.kind)) .ok := by
    unfold Value.parts
    split
    · exact absurd rfl (houtside _)
    · rfl
  cases hsome : v.parts? with
  | none => exact ⟨_, .partless hsome houtside, by rw [hparts, hsome]; rfl⟩
  | some parts =>
      refine ⟨_, .notMapping hsome hother, ?_⟩
      rw [hparts, hsome]
      cases parts with
      | nil => exact absurd rfl (parts_ne_nil hgiven hsome)
      | cons part rest => rfl

/-- A value lists nothing for one reason at most. -/
lemma Unlisted.unique {g : Failure} (hf : Unlisted path v f) (hg : Unlisted path v g) : f = g := by
  cases hf with
  | partless hpartless houtside =>
      cases hg with
      | partless => rfl
      | endless => exact absurd rfl (houtside _)
      | notMapping hparts => simp [hpartless] at hparts
  | endless =>
      cases hg with
      | partless _ houtside => exact absurd rfl (houtside _)
      | endless => rfl
      | notMapping hparts => simp [Value.parts?] at hparts
  | notMapping hparts =>
      cases hg with
      | partless hpartless => simp [hpartless] at hparts
      | endless => simp [Value.parts?] at hparts
      | notMapping => rfl

/-- The fields of a record are the items that are listed. -/
lemma fieldsOf_of_lists (hrecord : isRecordType type = true) (hshort : name.isTooLong = false)
    (hlists : Lists (Value.get entries "fields") items) (hne : items ≠ []) :
    fieldsOf path name type entries = ofItems (placeOf path name) 0 [] items := by
  rw [fieldsOf, if_pos hrecord, if_pos (hlists.isGiven_iff.2 hne), namePlace_eq, hshort]
  exact ofValue_of_lists hlists

/-- A record that is at fault in its fields has none. -/
lemma FieldsOffence.fieldsOf_eq_error (h : FieldsOffence path name entries f)
    (hrecord : isRecordType type = true) : fieldsOf path name type entries = .error f := by
  rw [fieldsOf, if_pos hrecord]
  cases h with
  | childless hmissing => rw [hmissing]; rfl
  | unwritable hgiven hlong => rw [if_pos hgiven, namePlace_eq, hlong]; rfl
  | unlisted hgiven hshort hunlisted =>
      obtain ⟨g, hg, hvalue⟩ := ofValue_of_not_lists _ hgiven fun _ => hunlisted.not_lists
      rw [if_pos hgiven, namePlace_eq, hshort, hunlisted.unique hg]
      exact hvalue

/-- A column is no record, or it is one and at fault in its fields, or these are listed. -/
lemma fieldsOf_cases (path : Writing) (name : Value) (type : Writing)
    (entries : List (Value × Value)) :
    isRecordType type = false ∨
      isRecordType type = true ∧ ((∃ f, FieldsOffence path name entries f) ∨
        name.isTooLong = false ∧ ∃ items, Lists (Value.get entries "fields") items ∧ items ≠ []) := by
  cases hrecord : isRecordType type with
  | false => exact .inl rfl
  | true =>
      refine .inr ⟨rfl, ?_⟩
      cases hgiven : (Value.get entries "fields").isGiven with
      | false => exact .inl ⟨_, .childless hgiven⟩
      | true =>
          cases hshort : name.isTooLong with
          | true => exact .inl ⟨_, .unwritable hgiven hshort⟩
          | false =>
              by_cases hlists : ∃ items, Lists (Value.get entries "fields") items
              · obtain ⟨items, hitems⟩ := hlists
                exact .inr ⟨rfl, items, hitems, hitems.isGiven_iff.1 hgiven⟩
              · obtain ⟨f, hf, -⟩ := ofValue_of_not_lists (placeOf path name) hgiven
                  fun items hitems => hlists ⟨items, hitems⟩
                exact .inl ⟨f, .unlisted hgiven hshort hf⟩

/-! ### One item -/

lemma ofItem_of_ne (h : ∀ entries, v ≠ .mapping entries) :
    ofItem path n names v = .error (.misuse (.field (itemPlace path n) .notMapping)) := by
  unfold ofItem
  split
  · exact absurd rfl (h _)
  · rfl

/-- What has a heading with a new name becomes a field if its fields do. -/
lemma Heading.ofItem_eq {mode : Mode} (h : Heading entries name type mode) (hfresh : Fresh names name) :
    ofItem path n names (.mapping entries) = (fieldsOf path name type entries).map fun fields =>
      (name, .mk name type mode (Value.get entries "description") fields) := by
  rw [ofItem_mapping, nameOf_eq_ok_iff.2 ⟨h.named, hfresh⟩]
  dsimp only [bind, Except.bind]
  rw [typeOf_eq_ok_iff.2 ⟨h.typed, h.nonempty⟩]
  dsimp only
  rw [modeOf_eq_ok_iff.2 h.moded]
  cases fieldsOf path name type entries <;> rfl

/-- An item that is at fault does not become a field. -/
theorem Offends.ofItem_eq_error (h : Offends path n names v f) : ofItem path n names v = .error f := by
  cases h with
  | notMapping hother => exact ofItem_of_ne hother
  | name hoffence =>
      rw [ofItem_mapping, nameOf_eq_error_iff.2 hoffence]
      rfl
  | type hnamed hfresh hoffence =>
      rw [ofItem_mapping, nameOf_eq_ok_iff.2 ⟨hnamed, hfresh⟩]
      dsimp only [bind, Except.bind]
      rw [typeOf_eq_error_iff.2 hoffence]
  | mode hnamed hfresh htyped hnonempty hoffence =>
      rw [ofItem_mapping, nameOf_eq_ok_iff.2 ⟨hnamed, hfresh⟩]
      dsimp only [bind, Except.bind]
      rw [typeOf_eq_ok_iff.2 ⟨htyped, hnonempty⟩]
      dsimp only
      rw [modeOf_eq_error_iff.2 hoffence]
  | fields hheading hfresh hrecord hoffence =>
      rw [hheading.ofItem_eq hfresh, hoffence.fieldsOf_eq_error hrecord]
      rfl

/-- A mapping has a heading with a new name, or it is at fault. -/
theorem heading_or_offends (path : Writing) (n : Nat) (names : List Value)
    (entries : List (Value × Value)) :
    (∃ name type mode, Heading entries name type mode ∧ Fresh names name) ∨
      ∃ f, Offends path n names (.mapping entries) f := by
  cases hname : nameOf path (itemPlace path n) names entries with
  | error f => exact .inr ⟨f, .name (nameOf_eq_error_iff.1 hname)⟩
  | ok name =>
      obtain ⟨hnamed, hfresh⟩ := nameOf_eq_ok_iff.1 hname
      cases htype : typeOf (namePlace path name) entries with
      | error f => exact .inr ⟨f, .type hnamed hfresh (typeOf_eq_error_iff.1 htype)⟩
      | ok type =>
          obtain ⟨htyped, hnonempty⟩ := typeOf_eq_ok_iff.1 htype
          cases hmode : modeOf (namePlace path name) entries with
          | error f =>
              exact .inr ⟨f, .mode hnamed hfresh htyped hnonempty (modeOf_eq_error_iff.1 hmode)⟩
          | ok mode =>
              exact .inl ⟨name, type, mode, ⟨hnamed, htyped, hnonempty, modeOf_eq_ok_iff.1 hmode⟩,
                hfresh⟩

end TableFeed.Field
