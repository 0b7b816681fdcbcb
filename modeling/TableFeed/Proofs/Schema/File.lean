import TableFeed.Proofs.Schema.Refused
import TableFeed.Schema.File

/-!
# Which schema files are read

The fields of a schema file are those of a list that is not empty, and they are read if the list is
well formed.  Every other file is refused as a misuse, with two exceptions: the file or a scalar in it
cannot be read at all, or a field stops with one of the faults of `Field.Stops`, which is so where a
name can be no key, where no fields stand in place of those of a record, and where an integer is too
long to be written.

The main result is `SchemaFile.read_or_refused`.
-/

namespace TableFeed

open Yaml (Document Cell)

/-! ### Cells that list something -/

/-- A list has as many parts after some steps that give one for each of them. -/
lemma length_mapM {σ α β : Type} (f : α → StateM σ β) (xs : List α) (s : σ) :
    (xs.mapM f s).1.length = xs.length := by
  induction xs generalizing s with
  | nil => rfl
  | cons x xs ih =>
      rw [List.mapM_cons]
      simp only [bind, StateT.bind, pure, StateT.pure]
      exact congrArg (· + 1) (ih (f x s).2)

namespace SchemaFile

variable {source : FileSource} {path : Path} {d : Document} {n : Nat} {v : Value} {f : Failure}

/-- Pairs are listed as such. -/
lemma value_of_pairs {items : List (Nat × Nat)} (h : d.cell n = .pairs items) :
    ∃ parts, d.value n = .list parts ∧ parts.length = items.length := by
  rw [Document.value, Document.unfold]
  simp only [h, StateT.run, bind, StateT.bind, get, getThe, MonadStateOf.get, StateT.get, pure,
    StateT.pure, Document.gathered, List.contains_nil, Bool.false_eq_true, if_false,
    Std.HashMap.getElem?_empty]
  -- the walk gives a tuple for each pair, and that is all that is said of it
  generalize hfound : (List.mapM (m := StateM Document.Known) _ items : Document.Known → _) _ = found
  have hlength : found.1.length = items.length := by
    rw [← hfound]
    exact length_mapM _ _ _
  obtain ⟨parts, known⟩ := found
  refine ⟨parts.map Prod.fst, ?_, by simpa using hlength⟩
  dsimp only
  split <;> rfl

/-- What lists the fields of a document is a list, and not an empty one. -/
lemma exists_items_of_fieldList? (h : fieldList? d = some v) :
    ∃ items, v = .list items ∧ items ≠ [] := by
  obtain ⟨n, hn, rfl⟩ := Option.map_eq_some_iff.1 h
  obtain ⟨-, hlists⟩ := Option.filter_eq_some_iff.1 hn
  rw [listsFields] at hlists
  rw [listed]
  split at hlists
  · next items hcell => simpa [hcell] using hlists
  · next items hcell =>
      obtain ⟨parts, hparts, hlength⟩ := value_of_pairs hcell
      refine ⟨parts, by simp only [hcell, hparts], ?_⟩
      rintro rfl
      cases items <;> simp at hlists hlength
  · simp at hlists

/-! ### Opening a file -/

/-- What lists the fields of a schema file. -/
def opened (source : FileSource) (path : Path) : Except Failure Value :=
  match source path with
  | .error .missing => .error (.misuse (.schemaMissing path.print))
  | .error f => .error (.file path.print f)
  | .ok octets => do
    let text ← (Text.decodeWhole octets).mapError Failure.decoding
    let d ← (Yaml.read (Text.unifyLineEnds text)).mapError (documentFailure path.print)
    (d.bind fieldList?).elim (.error (.misuse (.schemaFieldless path.print))) .ok

/-- The failures with which a file, or a scalar in it, cannot be read at all. -/
inductive Unreadable : Failure → Prop where
  /-- The file has no content to read. -/
  | file (path : String) (f : FileFault) : Unreadable (.file path f)
  /-- The octets of the file are no text. -/
  | decoding (f : DecodingFault) : Unreadable (.decoding f)
  /-- The text of a scalar is no value of its kind. -/
  | scalar (f : Yaml.ScalarFault) : Unreadable (.scalar f)

/-- The fields of a schema file are those of what it lists. -/
lemma read_eq (source : FileSource) (path : Path) :
    read source path = opened source path >>= Field.ofValue "schema" := by
  unfold read opened ofOctets
  cases source path with
  | error f => cases f <;> rfl
  | ok octets =>
      dsimp only
      cases Text.decodeWhole octets with
      | error f => rfl
      | ok text =>
          simp only [Except.mapError, bind, Except.bind]
          cases Yaml.read (Text.unifyLineEnds text) with
          | error f => rfl
          | ok d =>
              dsimp only
              cases d.bind fieldList? <;> rfl

/-- A file that is opened lists something. -/
lemma exists_items_of_opened (h : opened source path = .ok v) :
    ∃ items, v = .list items ∧ items ≠ [] := by
  unfold opened at h
  split at h
  · simp at h
  · simp at h
  · obtain ⟨text, -, h⟩ := exists_of_bind_eq_ok h
    obtain ⟨d, -, h⟩ := exists_of_bind_eq_ok h
    cases hlist : d.bind fieldList? with
    | none => simp [hlist] at h
    | some u =>
        obtain rfl : u = v := by simpa [hlist] using h
        obtain ⟨d, -, hd⟩ := Option.bind_eq_some_iff.1 hlist
        exact exists_items_of_fieldList? hd

lemma of_mapError {ε α : Type} {r : Except ε α} {g : ε → Failure} (h : r.mapError g = .error f) :
    ∃ e, f = g e := by
  cases r with
  | error e => exact ⟨e, (Except.error.inj h).symm⟩
  | ok a => simp [Except.mapError] at h

/-- A file that is not opened is misused or cannot be read at all. -/
lemma of_opened_eq_error (h : opened source path = .error f) :
    (∃ m, f = .misuse m) ∨ Unreadable f := by
  unfold opened at h
  split at h
  · exact .inl ⟨_, (Except.error.inj h).symm⟩
  · obtain rfl := Except.error.inj h
    exact .inr (.file _ _)
  · rcases of_bind_eq_error h with h | ⟨text, -, h⟩
    · obtain ⟨g, rfl⟩ := of_mapError h
      exact .inr (.decoding g)
    · rcases of_bind_eq_error h with h | ⟨d, -, h⟩
      · obtain ⟨g, rfl⟩ := of_mapError h
        cases g with
        | refused stage => exact .inl ⟨_, rfl⟩
        | scalar g => exact .inr (.scalar g)
      · cases hlist : d.bind fieldList? with
        | none => exact .inl ⟨.schemaFieldless path.print, by simpa [hlist] using h.symm⟩
        | some v => simp [hlist] at h

end SchemaFile

namespace Field

/-! ### The faults of fields -/

/-- The faults with which a field stops that is not simply misused. -/
inductive Stops : Fault → Prop where
  /-- A name can be no key. -/
  | unhashable (part : Value) : Stops (.unhashable part.kind)
  /-- What stands in place of fields has no parts. -/
  | partless (v : Value) : Stops (.partless v.kind)
  /-- What stands in place of fields is part of itself. -/
  | endless : Stops .endless
  /-- An integer is too long to be written. -/
  | unwritable : Stops .unwritable

/-- A failure that is a misuse, or a fault with which a field stops. -/
def IsFieldFailure (f : Failure) : Prop := (∃ m, f = .misuse m) ∨ ∃ g, f = .fault g ∧ Stops g

variable {place : Writing} {n : Nat} {names items : List Value} {item name : Value} {f : Failure}

lemma isFieldFailure_misuse (m : Misuse) : IsFieldFailure (.misuse m) := .inl ⟨m, rfl⟩

lemma Stops.isFieldFailure {g : Fault} (h : Stops g) : IsFieldFailure (.fault g) := .inr ⟨g, rfl, h⟩

lemma isFieldFailure_misnamed (place : Writing) (name : Value) (fault : FieldFault) :
    IsFieldFailure (misnamed place name fault) := by
  rw [misnamed]
  split
  · exact Stops.unwritable.isFieldFailure
  · exact isFieldFailure_misuse _

lemma Unlisted.isFieldFailure {v : Value} (h : Unlisted place v f) : IsFieldFailure f := by
  cases h with
  | partless => exact (Stops.partless _).isFieldFailure
  | endless => exact Stops.endless.isFieldFailure
  | notMapping => exact isFieldFailure_misuse _

lemma Offends.isFieldFailure (h : Offends place n names item f) : IsFieldFailure f := by
  cases h with
  | notMapping => exact isFieldFailure_misuse _
  | name offence =>
      cases offence with
      | nameless => exact isFieldFailure_misuse _
      | unhashable => exact (Stops.unhashable _).isFieldFailure
      | duplicate => exact isFieldFailure_misnamed _ _ _
  | type _ _ offence =>
      cases offence with
      | unwritable => exact Stops.unwritable.isFieldFailure
      | typeless => exact isFieldFailure_misnamed _ _ _
  | mode _ _ _ _ offence =>
      cases offence with
      | unwritable => exact Stops.unwritable.isFieldFailure
      | unknown => exact isFieldFailure_misnamed _ _ _
  | fields _ _ _ offence =>
      cases offence with
      | childless => exact isFieldFailure_misnamed _ _ _
      | unwritable => exact Stops.unwritable.isFieldFailure
      | unlisted _ _ unlisted => exact unlisted.isFieldFailure

mutual

/-- A list of fields is refused as a misuse, or one of them stops. -/
lemma Refused.isFieldFailure {place : Writing} {n : Nat} {names items : List Value} {f : Failure} :
    Refused place n names items f → IsFieldFailure f
  | .first refused => refused.isFieldFailure
  | .later _ _ refused => refused.isFieldFailure

/-- An item of such a list is refused as a misuse, or it stops, or one of its fields does. -/
lemma ItemRefused.isFieldFailure {place : Writing} {n : Nat} {names : List Value} {item : Value}
    {f : Failure} : ItemRefused place n names item f → IsFieldFailure f
  | .own offends => offends.isFieldFailure
  | .inside _ _ _ _ _ refused => refused.isFieldFailure

end

/-- A field whose name is a list stops, though its name is given. -/
theorem ofValue_list_name :
    ofValue "schema" (.list [.mapping [(.text "name", .list [.text "a"]),
      (.text "type", .text "STRING")]]) = .error (.fault (.unhashable "list")) := by
  have hoffence : NameOffence "schema" 0 [] [(.text "name", .list [.text "a"]),
      (.text "type", .text "STRING")] (.fault (.unhashable (Value.list [.text "a"]).kind)) :=
    .unhashable rfl rfl
  exact (Refused.first (.own (.name hoffence))).ofItems_eq_error

end Field

namespace SchemaFile

/-- The fields that are read from a schema file are those of a well formed list, which is not empty.
A file that is not read is misused, or it cannot be read at all, or one of its fields stops, and it is
the first one that is at fault. -/
theorem read_or_refused (source : FileSource) (path : Path) :
    (∀ fields, read source path = .ok fields →
      ∃ items, opened source path = .ok (.list items) ∧ items ≠ [] ∧
        Field.AllWellFormed Field.Writable items ∧ List.Forall₂ Field.Holds items fields) ∧
      ∀ f, read source path = .error f →
        (∃ m, f = .misuse m) ∨ opened source path = .error f ∧ Unreadable f ∨
          ∃ items g, opened source path = .ok (.list items) ∧ f = .fault g ∧ Field.Stops g ∧
            Field.Refused "schema" 0 [] items f := by
  rw [read_eq]
  cases hopened : opened source path with
  | error f =>
      refine ⟨fun fields h => by simp [bind, Except.bind] at h, fun g h => ?_⟩
      obtain rfl : f = g := Except.error.inj h
      exact (of_opened_eq_error hopened).imp_right fun hf => .inl ⟨rfl, hf⟩
  | ok v =>
      obtain ⟨items, rfl, hne⟩ := exists_items_of_opened hopened
      dsimp only [bind, Except.bind]
      rw [Field.ofValue]
      rcases Field.allWellFormed_or_refused "schema" 0 [] items with ⟨hall, -⟩ | ⟨f, hf⟩
      · obtain ⟨fields, hfields, hholds⟩ := hall.exists_ofItems "schema"
        rw [hfields]
        refine ⟨fun fields' h => ?_, by simp⟩
        obtain rfl := Except.ok.inj h
        exact ⟨items, rfl, hne, hall, hholds⟩
      · rw [hf.ofItems_eq_error]
        refine ⟨by simp, fun g h => ?_⟩
        obtain rfl : f = g := Except.error.inj h
        refine hf.isFieldFailure.imp_right fun ⟨g, hg, hstops⟩ => .inr ?_
        exact ⟨items, g, rfl, hg, hstops, hf⟩

end SchemaFile

end TableFeed
