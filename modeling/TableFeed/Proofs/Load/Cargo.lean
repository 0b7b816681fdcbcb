import TableFeed.Load
import TableFeed.Proofs.RowFile.Objects

/-!
# What is to be loaded

Reading a schema file and a file of rows may fail in many ways, none of which gives up rows.  Where
all is read, the rows are those that the file holds, and the table is the one that the spec names.

The main results are `Load.silent_readCargo` and `Load.exists_of_readCargo`.
-/

namespace TableFeed

/-! ### Schemas -/

namespace Field

lemma silent_misplaced {α : Type} (place : Writing) (f : FieldFault) :
    Silent (misplaced place f : Except Failure α) :=
  .misuse _

lemma silent_wordAt (entries : List (Value × Value)) (key default : String) :
    Silent (wordAt entries key default) := by
  unfold wordAt
  split
  · exact .ok _
  · exact .liftFault _

lemma silent_nameOf (path place : Writing) (before : List Value) (entries : List (Value × Value)) :
    Silent (nameOf path place before entries) := by
  have hnew : ∀ name : Value, Silent (do
      if before.any (·.same name) then misplaced (← namePlace path name) .duplicate
      .ok name) := fun name =>
    .ite (.bind (.liftFault _) fun _ => .bind (silent_misplaced _ _) fun _ => .ok _) (.ok _)
  exact .ite (.bind (silent_misplaced _ _) fun _ => .bind (.liftFault _) hnew)
    (.bind (.liftFault _) hnew)

lemma silent_typeOf {place : Except Failure Writing} (hplace : Silent place)
    (entries : List (Value × Value)) : Silent (typeOf place entries) :=
  .bind (silent_wordAt _ _ _) fun _ =>
    .ite (.bind hplace fun _ => .bind (silent_misplaced _ _) fun _ => .ok _) (.ok _)

lemma silent_modeOf {place : Except Failure Writing} (hplace : Silent place)
    (entries : List (Value × Value)) : Silent (modeOf place entries) := by
  refine .bind (silent_wordAt _ _ _) fun word => ?_
  split
  · exact .ok _
  · exact .bind hplace fun _ => silent_misplaced _ _

lemma silent_ofOther (path : Writing) (v : Value) : Silent (ofOther path v) :=
  .bind (.liftFault _) fun _ => .ite (.ok _) (silent_misplaced _ _)

mutual

/-- The fields of a value are read without giving up rows. -/
lemma silent_ofValue (path : Writing) (v : Value) : Silent (ofValue path v) := by
  cases v with
  | list items =>
      rw [ofValue]
      exact silent_ofItems path 0 [] items
  | tuple items =>
      rw [ofValue]
      exact silent_ofItems path 0 [] items
  | _ => exact silent_ofOther path _

lemma silent_ofItems (path : Writing) (n : Nat) (before items : List Value) :
    Silent (ofItems path n before items) := by
  cases items with
  | nil => exact .ok _
  | cons item rest =>
      rw [ofItems]
      exact .bind (silent_ofItem path n before item) fun x =>
        .bind (silent_ofItems path (n + 1) (x.1 :: before) rest) fun _ => .ok _

lemma silent_ofItem (path : Writing) (n : Nat) (before : List Value) (item : Value) :
    Silent (ofItem path n before item) := by
  cases item with
  | mapping entries =>
      rw [ofItem]
      refine .bind (silent_nameOf _ _ _ _) fun name => ?_
      have hplace : Silent (namePlace path name) := .liftFault _
      refine .bind (silent_typeOf hplace _) fun type => .bind (silent_modeOf hplace _) fun mode => ?_
      refine .ite (.ite ?_ ?_) (.ok _)
      · exact .bind hplace fun place => .bind (silent_childrenOf place entries) fun _ => .ok _
      · exact .bind hplace fun place => .bind (silent_misplaced _ _) fun _ => .ok _
  | _ => exact silent_misplaced _ _

lemma silent_childrenOf (path : Writing) (entries : List (Value × Value)) :
    Silent (childrenOf path entries) := by
  cases entries with
  | nil => exact .ok _
  | cons entry rest =>
      obtain ⟨k, v⟩ := entry
      rw [childrenOf]
      exact .ite (silent_ofValue path v) (silent_childrenOf path rest)

end

end Field

lemma SchemaFile.silent_read (source : FileSource) (path : Path) : Silent (read source path) := by
  have hoctets : ∀ octets, Silent (ofOctets path.print octets) := by
    intro octets
    refine .bind (.mapError (by simp)) fun text => .bind (.mapError fun f => ?_) fun d => ?_
    · cases f <;> simp [documentFailure]
    · split
      · exact .misuse _
      · exact Field.silent_ofValue _ _
  unfold read
  split
  · exact .misuse _
  · exact .error (by simp)
  · exact hoctets _

/-! ### Rows -/

namespace RowFile

variable {path : String}

lemma silent_readObject (path : String) (number : Nat) (line : List Char) :
    Silent (readObject path number line) := by
  unfold readObject
  split
  · exact .ok _
  · exact .misuse _
  · split
    · exact .error (by simp)
    · exact .error (by simp)
    · exact .misuse _

lemma silent_tokenOf (path : String) (number : Nat) (field : String) (row : Row) :
    Silent (tokenOf path number field row) :=
  .ite (.misuse _) (.liftFault _)

lemma silent_readLines (path : String) (field : Option String) {failure : Option Failure}
    (hfailure : ∀ f, failure = some f → Silent (.error f : Except Failure Unit))
    (lines : List (List Char × Nat)) : Silent (readLines path field failure lines) := by
  induction lines with
  | nil =>
      cases failure with
      | none => exact .ok _
      | some f => exact (hfailure f rfl).cast
  | cons x rest ih =>
      rw [readLines]
      refine .ite ih (.bind (silent_readObject _ _ _) fun row => ?_)
      cases field with
      | none => exact .bind (.ok _) fun _ => .bind ih fun _ => .ok _
      | some name =>
          exact .bind ((silent_tokenOf _ _ _ _).map _) fun _ => .bind ih fun _ => .ok _

lemma silent_read (source : FileSource) (path : Path) (field : Option String) :
    Silent (read source path field) := by
  unfold read
  split
  · exact .error (by simp)
  · next octets _ =>
      refine .bind (silent_readLines _ _ (fun f hf => ?_) _) fun _ => .ok _
      split at hf
      · simp at hf
      · obtain rfl := Option.some.inj hf
        exact .error (by simp)

end RowFile

/-! ### A cargo -/

namespace Load

open CommandLine

lemma silent_readTable (spec : String) : Silent (readTable spec) := by
  unfold readTable
  cases TableName.read? spec with
  | none => exact .misuse _
  | some table => exact .ok _

/-- What is left to be read once the table and the schema are known. -/
def withRows (files : FileSource) (a : Arguments) (table : TableName) (schema : Option Schema) :
    Except Failure Cargo :=
  match a.rows with
  | none => .error .pathless
  | some path => (RowFile.read files (Path.read path) a.tokens).map (Cargo.mk table schema)

lemma readCargo_eq (files : FileSource) (a : Arguments) : readCargo files a =
    readTable a.table >>= fun table => (match a.schema with
      | none => .ok none
      | some path => (SchemaFile.read files (Path.read path)).map (some ∘ Schema.fields)) >>=
        withRows files a table := by
  unfold readCargo withRows
  cases a.rows <;> cases a.schema <;> rfl

/-- Reading what is to be loaded does not give up rows. -/
theorem silent_readCargo (files : FileSource) (a : Arguments) : Silent (readCargo files a) := by
  have hrows : ∀ table schema, Silent (withRows files a table schema) := by
    intro table schema
    unfold withRows
    split
    · exact .error (by simp)
    · exact (RowFile.silent_read _ _ _).map _
  rw [readCargo_eq]
  refine .bind (silent_readTable _) fun table => ?_
  cases a.schema with
  | none => exact .bind (.ok _) (hrows table)
  | some path => exact .bind ((SchemaFile.silent_read _ _).map _) (hrows table)

/-- What is read is the table that the spec names, and the rows that the file holds. -/
theorem exists_of_readCargo {files : FileSource} {a : Arguments} {cargo : Cargo}
    (h : readCargo files a = .ok cargo) :
    TableName.read? a.table = some cargo.table ∧ ∃ path octets, a.rows = some path ∧
      files (Path.read path) = .ok octets ∧ RowFile.Holds octets cargo.rows.rows := by
  rw [readCargo_eq] at h
  obtain ⟨table, htable, h⟩ := exists_of_bind_eq_ok h
  obtain ⟨schema, -, h⟩ := exists_of_bind_eq_ok h
  have hread : TableName.read? a.table = some table := by
    unfold readTable at htable
    cases hname : TableName.read? a.table with
    | none => simp [hname] at htable
    | some name =>
        rw [hname] at htable
        rw [Except.ok.inj htable]
  unfold withRows at h
  split at h
  · simp at h
  · next path hpath =>
      rcases hrows : RowFile.read files (Path.read path) a.tokens with f | rows
      · simp [hrows, Except.map] at h
      · rw [hrows] at h
        obtain rfl := Except.ok.inj h
        obtain ⟨octets, hoctets, hholds⟩ := RowFile.holds_of_read hrows
        exact ⟨hread, path, octets, hpath, hoctets, hholds⟩

end Load

end TableFeed
