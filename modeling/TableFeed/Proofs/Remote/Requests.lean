import TableFeed.Proofs.Failure.Results
import TableFeed.Proofs.Remote.Record
import TableFeed.Remote.Provision

/-!
# The requests of getting a table ready

Getting a table ready may delete a table, so it matters which requests it makes of a remote store and
in which order.  A table is deleted only if it can be created again: it is to be truncated, it has
rows, and a schema with fields is at hand.

The main results are

* `World.provision_makes`: all requests that are made, by the choices, the schema and the answers;
* `World.provision_requests`: the order of the requests, when a table is deleted or created, and where
  failures come from.
-/

namespace TableFeed

/-- A schema with at least one field. -/
def Schema.HasFields (schema : Schema) : Prop := ∃ n, 0 < n ∧ schema.length = .ok n

namespace World

variable {σ : Type}

/-! ### Each step -/

variable {c : Client σ} {table : TableName} {create : CreateChoice} {write : WriteChoice}
  {schema : Option Schema}

/-- What fetching a table comes to, by the answer of the remote store. -/
def fetched (create : CreateChoice) : Except Failure Table → Except Failure (Option Table)
  | .ok t => .ok (some t)
  | .error (.refused .notFound detail) =>
    if create = .ifNeeded then .ok none else .error (.refused .notFound detail)
  | .error f => .error f

lemma fetchTable_makes (c : Client σ) (table : TableName) (create : CreateChoice) :
    Makes (fetchTable c.recorded table create) (fetchTable c table create) fun made r =>
      ∃ answer, made = [.get table answer] ∧ r = fetched create answer := by
  refine (Makes.remotely (.get table) (c.get table)).outcome.bind ?_ ?_
  · rintro made e ⟨a, h, -⟩
    simp at h
  · rintro made answer ⟨a, h, rfl⟩
    obtain rfl := Except.ok.inj h
    split
    · exact .answer ⟨_, rfl, rfl⟩
    · by_cases hcreate : create = .ifNeeded
      · rw [if_pos hcreate, if_pos hcreate]
        exact .answer ⟨_, rfl, (if_pos hcreate).symm⟩
      · rw [if_neg hcreate, if_neg hcreate]
        exact .answer ⟨_, rfl, (if_neg hcreate).symm⟩
    · exact .answer ⟨.error _, rfl, by simp [fetched]⟩

lemma isEmpty_makes (c : Client σ) (table : TableName) :
    Makes (isEmpty c.recorded table) (isEmpty c table) fun made r =>
      ∃ answer, made = [.first table answer] ∧ r = answer.map Option.isNone := by
  refine (Makes.remotely (.first table) (c.first table)).bind ?_ ?_
  · rintro made e rfl
    exact ⟨_, rfl, rfl⟩
  · rintro made row rfl
    exact .answer ⟨_, rfl, rfl⟩

/-- What creating a table comes to, by the answer of the remote store.  There is no table to answer
with if another writer has created it. -/
def created : Except Failure Table → Except Failure (Option Table)
  | .ok t => .ok (some t)
  | .error (.refused kind detail) =>
    if kind.isConflict then .ok none else .error (.refused kind detail)
  | .error f => .error f

lemma tryCreate_makes (c : Client σ) (table : TableName) {given : Schema} {n : Nat}
    (hlength : given.length = .ok n) :
    Makes (tryCreate c.recorded table (some given)) (tryCreate c table (some given)) fun made r =>
      ∃ answer, made = [.create table (some given) answer] ∧ r = created answer := by
  refine .after_answer (a := n) (by rw [schemaLength, hlength]; rfl) (.after_note ?_)
  refine (Makes.remotely (.create table (some given)) (c.create table _)).outcome.bind ?_ ?_
  · rintro made e ⟨a, h, -⟩
    simp at h
  · rintro made answer ⟨a, h, rfl⟩
    obtain rfl := Except.ok.inj h
    split
    · exact .answer ⟨_, rfl, rfl⟩
    · next kind detail =>
        by_cases hconflict : kind.isConflict = true
        · rw [if_pos hconflict, if_pos hconflict]
          exact .after_note (.answer ⟨_, rfl, (if_pos hconflict).symm⟩)
        · rw [if_neg hconflict, if_neg hconflict]
          exact .answer ⟨_, rfl, (if_neg hconflict).symm⟩
    · exact .answer ⟨.error _, rfl, by simp [created]⟩

lemma eq_error_of_fetched {answer : Except Failure Table} {f : Failure}
    (h : fetched create answer = .error f) : answer = .error f := by
  unfold fetched at h
  split at h
  · simp at h
  · split at h
    · simp at h
    · rw [Except.error.inj h]
  · rw [Except.error.inj h]

lemma eq_notFound_of_fetched {answer : Except Failure Table} (h : fetched create answer = .ok none) :
    create = .ifNeeded ∧ ∃ detail, answer = .error (.refused .notFound detail) := by
  unfold fetched at h
  split at h
  · simp at h
  · split at h
    · next hcreate => exact ⟨hcreate, _, rfl⟩
    · simp at h
  · simp at h

lemma eq_ok_of_fetched {answer : Except Failure Table} {t : Table}
    (h : fetched create answer = .ok (some t)) : answer = .ok t := by
  unfold fetched at h
  split at h
  · rw [Option.some.inj (Except.ok.inj h)]
  · split at h <;> simp at h
  · simp at h

/-! ### The schema of a table that is created -/

lemma requireSchema_eq_ok (h : requireSchema table schema = .ok ()) :
    ∃ given, schema = some given ∧ given.HasFields := by
  cases schema with
  | none => simp [requireSchema] at h
  | some given =>
      obtain ⟨n, hn, h⟩ := exists_of_bind_eq_ok h
      refine ⟨given, rfl, n, ?_, ?_⟩
      · by_contra hzero
        simp [Nat.eq_zero_of_not_pos hzero] at h
      · cases hlength : given.length with
        | ok m => rw [← Except.ok.inj ((congrArg liftFault hlength).symm.trans hn)]
        | error cause => simp [hlength, liftFault, Except.mapError] at hn

/-- A schema that is not good enough is the caller's mistake, unless it has no length. -/
lemma requireSchema_eq_error {f : Failure} (h : requireSchema table schema = .error f) :
    (∃ m, f = .misuse m) ∨
      ∃ given cause, schema = some given ∧ given.length = .error cause ∧ f = .fault cause := by
  cases schema with
  | none => exact .inl ⟨_, (Except.error.inj h).symm⟩
  | some given =>
      cases hlength : given.length with
      | ok n =>
          rw [requireSchema, hlength] at h
          change (if n = 0 then _ else _) = _ at h
          split at h
          · exact .inl ⟨_, (Except.error.inj h).symm⟩
          · simp at h
      | error cause =>
          rw [requireSchema, hlength] at h
          exact .inr ⟨given, cause, rfl, hlength, (Except.error.inj h).symm⟩

lemma eq_some_of_or_filter {existing : Option Schema} {given : Schema}
    (h : schema.or (existing.filter Schema.isGiven) = some given) :
    schema.or existing = some given := by
  cases schema with
  | some _ => exact h
  | none => exact (Option.filter_eq_some_iff.1 h).1

/-! ### Getting a table ready -/

/-- The requests of getting a table ready with their answers, and what it comes to. -/
inductive Readies (table : TableName) (write : WriteChoice) (create : CreateChoice)
    (schema : Option Schema) : List Exchange → Except Failure (Option Table) → Prop where
  /-- The table is not fetched. -/
  | unfetched (f : Failure) : Readies table write create schema [.get table (.error f)] (.error f)
  /-- The table is missing and there is no good schema for it. -/
  | unplanned {f : Failure} (detail : Writing) (hcreate : create = .ifNeeded)
      (hschema : requireSchema table schema = .error f) :
      Readies table write create schema [.get table (.error (.refused .notFound detail))] (.error f)
  /-- The table is missing and is created. -/
  | missing {given : Schema} (detail : Writing) (answer : Except Failure Table)
      (hcreate : create = .ifNeeded) (hschema : schema = some given) (hfields : given.HasFields) :
      Readies table write create schema
        [.get table (.error (.refused .notFound detail)), .create table (some given) answer]
        (created answer)
  /-- The table stays as it is. -/
  | kept (t : Table) (hwrite : write = .append) :
      Readies table write create schema [.get table (.ok t)] (.ok (some t))
  /-- It is not known whether the table has rows. -/
  | unread (t : Table) (f : Failure) (hwrite : write ≠ .append) :
      Readies table write create schema [.get table (.ok t), .first table (.error f)] (.error f)
  /-- The table has no rows. -/
  | empty (t : Table) (hwrite : write ≠ .append) :
      Readies table write create schema [.get table (.ok t), .first table (.ok none)] (.ok (some t))
  /-- The table has rows and may not have any. -/
  | held (t : Table) (row : Row) (hwrite : write = .empty) :
      Readies table write create schema [.get table (.ok t), .first table (.ok (some row))]
        (.error (.notEmpty table))
  /-- The table has rows that are to go, and there is no good schema for it. -/
  | stuck {f : Failure} (t : Table) (row : Row) (hwrite : write = .truncate)
      (hschema : requireSchema table (schema.or (t.schema.filter Schema.isGiven)) = .error f) :
      Readies table write create schema [.get table (.ok t), .first table (.ok (some row))] (.error f)
  /-- The table is not deleted. -/
  | undeleted {given : Schema} (t : Table) (row : Row) (f : Failure) (hwrite : write = .truncate)
      (hschema : schema.or t.schema = some given) (hfields : given.HasFields) :
      Readies table write create schema
        [.get table (.ok t), .first table (.ok (some row)), .delete table (.error f)] (.error f)
  /-- The table is deleted and created again. -/
  | truncated {given : Schema} (t : Table) (row : Row) (answer : Except Failure Table)
      (hwrite : write = .truncate) (hschema : schema.or t.schema = some given)
      (hfields : given.HasFields) :
      Readies table write create schema
        [.get table (.ok t), .first table (.ok (some row)), .delete table (.ok ()),
          .create table (some given) answer] (created answer)

/-- A table is deleted and created again only with a good schema. -/
lemma recreate_makes (c : Client σ) (table : TableName) (schema : Option Schema) :
    Makes (do
        Action.answer (requireSchema table schema)
        note (.tableDeleting table)
        remotely (c.recorded.delete table)
        tryCreate c.recorded table schema)
      (do
        Action.answer (requireSchema table schema)
        note (.tableDeleting table)
        remotely (c.delete table)
        tryCreate c table schema)
      fun made r => (∃ f, requireSchema table schema = .error f ∧ made = [] ∧ r = .error f) ∨
        ∃ given, schema = some given ∧ given.HasFields ∧
          ((∃ f, made = [.delete table (.error f)] ∧ r = .error f) ∨
            ∃ answer, made = [.delete table (.ok ()), .create table (some given) answer] ∧
              r = created answer) := by
  cases hschema : requireSchema table schema with
  | error f => exact .of_failure rfl (.inl ⟨f, rfl, rfl, rfl⟩)
  | ok _ =>
      obtain ⟨given, rfl, n, hn, hlength⟩ := requireSchema_eq_ok hschema
      have hfields : given.HasFields := ⟨n, hn, hlength⟩
      refine .after_answer rfl (.after_note ?_)
      refine (Makes.remotely (.delete table) (c.delete table)).bind ?_ ?_
      · rintro made f rfl
        exact .inr ⟨given, rfl, hfields, .inl ⟨f, rfl, rfl⟩⟩
      · rintro made _ rfl
        refine (tryCreate_makes c table hlength).imp ?_
        rintro made r ⟨answer, rfl, rfl⟩
        exact .inr ⟨given, rfl, hfields, .inr ⟨answer, rfl, rfl⟩⟩

/-- These are all requests that getting a table ready makes, whatever the remote store answers. -/
theorem provision_makes (c : Client σ) (table : TableName) (write : WriteChoice)
    (create : CreateChoice) (schema : Option Schema) :
    Makes (provision c.recorded table write create schema) (provision c table write create schema)
      (Readies table write create schema) := by
  refine (fetchTable_makes c table create).bind ?_ ?_
  · rintro made f ⟨answer, rfl, h⟩
    obtain rfl := eq_error_of_fetched h.symm
    exact .unfetched f
  · rintro made found ⟨answer, rfl, h⟩
    cases found with
    | none =>
        obtain ⟨hcreate, detail, rfl⟩ := eq_notFound_of_fetched h.symm
        cases hschema : requireSchema table schema with
        | error f => exact .of_failure rfl (.unplanned detail hcreate hschema)
        | ok _ =>
            obtain ⟨given, rfl, n, hn, hlength⟩ := requireSchema_eq_ok hschema
            have hfields : given.HasFields := ⟨n, hn, hlength⟩
            refine .after_answer rfl ((tryCreate_makes c table hlength).imp ?_)
            rintro made r ⟨answer, rfl, rfl⟩
            exact .missing detail answer hcreate rfl hfields
    | some t =>
        obtain rfl := eq_ok_of_fetched h.symm
        dsimp only
        by_cases happend : write = .append
        · rw [if_pos happend, if_pos happend]
          exact .answer (.kept t happend)
        · rw [if_neg happend, if_neg happend]
          refine (isEmpty_makes c table).bind ?_ ?_
          · rintro made f ⟨answer, rfl, h⟩
            obtain rfl := eq_error_of_map h.symm
            exact .unread t f happend
          · rintro made isEmpty ⟨answer, rfl, h⟩
            obtain ⟨row, rfl, rfl⟩ := exists_of_map_eq_ok h.symm
            cases row with
            | none =>
                simp only [Option.isNone_none, if_true]
                split
                · exact .after_note (.answer (.empty t happend))
                · exact .answer (.empty t happend)
            | some row =>
                simp only [Option.isNone_some, Bool.false_eq_true, if_false]
                by_cases hempty : write = .empty
                · rw [if_pos hempty, if_pos hempty]
                  exact .of_failure rfl (.held t row hempty)
                · rw [if_neg hempty, if_neg hempty]
                  have hwrite : write = .truncate := by cases write <;> simp_all
                  refine (recreate_makes c table _).imp ?_
                  rintro made r (⟨f, hschema, rfl, rfl⟩ | ⟨given, hgiven, hfields, hdeleted⟩)
                  · exact .stuck t row hwrite hschema
                  · have hschema := eq_some_of_or_filter hgiven
                    rcases hdeleted with ⟨f, rfl, rfl⟩ | ⟨answer, rfl, rfl⟩
                    · exact .undeleted t row f hwrite hschema hfields
                    · exact .truncated t row answer hwrite hschema hfields

/-! ### What the record shows -/

/-- What holds of the requests of getting a table ready with their answers, and of what it comes to. -/
structure Protocol (table : TableName) (write : WriteChoice) (create : CreateChoice)
    (schema : Option Schema) (made : List Exchange) (r : Except Failure (Option Table)) : Prop where
  /-- The requests come in one of two orders, and may break off. -/
  order : made.map Exchange.kind <+: [.get, .first, .delete, .create] ∨
    made.map Exchange.kind <+: [.get, .create]
  /-- They are about the table. -/
  about : ∀ e ∈ made, e.table = table
  /-- A table is deleted only if it is to be truncated, has a row, and has a schema with fields or is
  given one. -/
  deletes : ∀ t answer, Exchange.delete t answer ∈ made → write = .truncate ∧
    ∃ existing row given rest, made = .get table (.ok existing) :: .first table (.ok (some row)) ::
      .delete t answer :: rest ∧ schema.or existing.schema = some given ∧ given.HasFields
  /-- A table is created once at most, with a schema that has fields: the one with which it was
  deleted, or the one that is given for a table that is missing and needed. -/
  creates : ∀ t s answer, Exchange.create t s answer ∈ made →
    ∃ given, s = some given ∧ given.HasFields ∧
      ((∃ existing row, made = [.get table (.ok existing), .first table (.ok (some row)),
          .delete table (.ok ()), .create t s answer] ∧ schema.or existing.schema = some given) ∨
        create = .ifNeeded ∧ schema = some given ∧
          ∃ detail, made = [.get table (.error (.refused .notFound detail)), .create t s answer])
  /-- A failure is that of the last request, or nothing was deleted or created and it is a mistake of
  the caller or a table that is not empty.  The one other way to fail is a schema without a length. -/
  fails : ∀ f, r = .error f → (∃ e, made.getLast? = some e ∧ e.FailsWith f) ∨
    (∀ e ∈ made, e.kind ≠ .delete ∧ e.kind ≠ .create) ∧
      ((∃ m, f = .misuse m) ∨ f = .notEmpty table ∨
        ∃ given cause, f = .fault cause ∧ given.length = .error cause ∧
          (schema = some given ∨ ∃ t, .get table (.ok t) ∈ made ∧ t.schema = some given))
  /-- There is no table to answer with if and only if the last request was to create one and met
  another writer. -/
  none_iff : r = .ok none ↔ ∃ before s kind detail,
    made = before ++ [.create table s (.error (.refused kind detail))] ∧ kind.isConflict = true

lemma eq_error_of_created {answer : Except Failure Table} {f : Failure}
    (h : created answer = .error f) : answer = .error f := by
  unfold created at h
  split at h
  · simp at h
  · split at h
    · simp at h
    · rw [Except.error.inj h]
  · rw [Except.error.inj h]

lemma created_eq_none_iff {answer : Except Failure Table} : created answer = .ok none ↔
    ∃ kind detail, answer = .error (.refused kind detail) ∧ kind.isConflict = true := by
  unfold created
  split
  · simp
  · split
    · next kind detail hconflict => simp [hconflict]
    · next kind detail hconflict => simp [hconflict]
  · next f hother =>
      simp only [reduceCtorEq, Except.error.injEq, false_iff, not_exists, not_and]
      rintro kind detail rfl
      exact absurd rfl (hother kind detail)

namespace Readies

variable {made : List Exchange} {r : Except Failure (Option Table)}

lemma order (h : Readies table write create schema made r) :
    made.map Exchange.kind <+: [.get, .first, .delete, .create] ∨
      made.map Exchange.kind <+: [.get, .create] := by
  cases h <;> simp [Exchange.kind]

lemma about (h : Readies table write create schema made r) : ∀ e ∈ made, e.table = table := by
  cases h <;> simp [Exchange.table]

lemma deletes (h : Readies table write create schema made r) {t : TableName}
    {answer : Except Failure Unit} (hmem : Exchange.delete t answer ∈ made) : write = .truncate ∧
      ∃ existing row given rest, made = .get table (.ok existing) :: .first table (.ok (some row)) ::
        .delete t answer :: rest ∧ schema.or existing.schema = some given ∧ given.HasFields := by
  cases h with
  | undeleted existing row f hwrite hschema hfields =>
      obtain ⟨rfl, rfl⟩ : t = table ∧ answer = .error f := by simpa using hmem
      exact ⟨hwrite, existing, row, _, [], rfl, hschema, hfields⟩
  | truncated existing row answer' hwrite hschema hfields =>
      obtain ⟨rfl, rfl⟩ : t = table ∧ answer = .ok () := by simpa using hmem
      exact ⟨hwrite, existing, row, _, [_], rfl, hschema, hfields⟩
  | _ => simp at hmem

lemma creates (h : Readies table write create schema made r) {t : TableName} {s : Option Schema}
    {answer : Except Failure Table} (hmem : Exchange.create t s answer ∈ made) :
    ∃ given, s = some given ∧ given.HasFields ∧
      ((∃ existing row, made = [.get table (.ok existing), .first table (.ok (some row)),
          .delete table (.ok ()), .create t s answer] ∧ schema.or existing.schema = some given) ∨
        create = .ifNeeded ∧ schema = some given ∧
          ∃ detail, made = [.get table (.error (.refused .notFound detail)), .create t s answer]) := by
  cases h with
  | @missing given detail answer' hcreate hschema hfields =>
      obtain ⟨rfl, rfl, rfl⟩ : t = table ∧ s = some given ∧ answer = answer' := by simpa using hmem
      exact ⟨given, rfl, hfields, .inr ⟨hcreate, hschema, detail, rfl⟩⟩
  | @truncated given existing row answer' hwrite hschema hfields =>
      obtain ⟨rfl, rfl, rfl⟩ : t = table ∧ s = some given ∧ answer = answer' := by simpa using hmem
      exact ⟨given, rfl, hfields, .inl ⟨existing, row, rfl, hschema⟩⟩
  | _ => simp at hmem

lemma fails (h : Readies table write create schema made r) {f : Failure} (hr : r = .error f) :
    (∃ e, made.getLast? = some e ∧ e.FailsWith f) ∨
      (∀ e ∈ made, e.kind ≠ .delete ∧ e.kind ≠ .create) ∧
        ((∃ m, f = .misuse m) ∨ f = .notEmpty table ∨
          ∃ given cause, f = .fault cause ∧ given.length = .error cause ∧
            (schema = some given ∨ ∃ t, .get table (.ok t) ∈ made ∧ t.schema = some given)) := by
  cases h with
  | unfetched f' =>
      obtain rfl := Except.error.inj hr
      exact .inl ⟨_, rfl, .get _⟩
  | unplanned detail hcreate hschema =>
      obtain rfl := Except.error.inj hr
      refine .inr ⟨by simp [Exchange.kind], ?_⟩
      rcases requireSchema_eq_error hschema with hmisuse | ⟨given, cause, hgiven, hlength, hf⟩
      · exact .inl hmisuse
      · exact .inr (.inr ⟨given, cause, hf, hlength, .inl hgiven⟩)
  | missing detail answer _ _ _ =>
      obtain rfl := eq_error_of_created hr
      exact .inl ⟨_, rfl, .create _ _⟩
  | kept t _ => simp at hr
  | unread t f' _ =>
      obtain rfl := Except.error.inj hr
      exact .inl ⟨_, rfl, .first _⟩
  | empty t _ => simp at hr
  | held t row _ =>
      obtain rfl := Except.error.inj hr
      exact .inr ⟨by simp [Exchange.kind], .inr (.inl rfl)⟩
  | stuck t row _ hschema =>
      obtain rfl := Except.error.inj hr
      refine .inr ⟨by simp [Exchange.kind], ?_⟩
      rcases requireSchema_eq_error hschema with hmisuse | ⟨given, cause, hgiven, hlength, hf⟩
      · exact .inl hmisuse
      · refine .inr (.inr ⟨given, cause, hf, hlength, ?_⟩)
        rcases Option.or_eq_some_iff.1 (eq_some_of_or_filter hgiven) with hgiven | ⟨-, hgiven⟩
        · exact .inl hgiven
        · exact .inr ⟨t, by simp, hgiven⟩
  | undeleted t row f' _ _ _ =>
      obtain rfl := Except.error.inj hr
      exact .inl ⟨_, rfl, .delete _⟩
  | truncated t row answer _ _ _ =>
      obtain rfl := eq_error_of_created hr
      exact .inl ⟨_, rfl, .create _ _⟩

lemma none_iff (h : Readies table write create schema made r) : r = .ok none ↔
    ∃ before s kind detail, made = before ++ [.create table s (.error (.refused kind detail))] ∧
      kind.isConflict = true := by
  have hlast : (∃ before s kind detail,
      made = before ++ [.create table s (.error (.refused kind detail))] ∧ kind.isConflict = true) ↔
      ∃ s kind detail, made.getLast? = some (.create table s (.error (.refused kind detail))) ∧
        kind.isConflict = true := by
    constructor
    · rintro ⟨before, s, kind, detail, rfl, hconflict⟩
      exact ⟨s, kind, detail, by simp, hconflict⟩
    · rintro ⟨s, kind, detail, hlast, hconflict⟩
      obtain ⟨before, hbefore⟩ := List.getLast?_eq_some_iff.1 hlast
      exact ⟨before, s, kind, detail, hbefore, hconflict⟩
  rw [hlast]
  cases h with
  | missing detail answer _ _ _ => simp [created_eq_none_iff]
  | truncated t row answer _ _ _ => simp [created_eq_none_iff]
  | _ => simp

lemma protocol (h : Readies table write create schema made r) :
    Protocol table write create schema made r where
  order := h.order
  about := h.about
  deletes _ _ hmem := h.deletes hmem
  creates _ _ _ hmem := h.creates hmem
  fails _ hr := h.fails hr
  none_iff := h.none_iff

end Readies

/-- The requests of getting a table ready, whatever the remote store answers to them.  A record that is
kept of them changes nothing. -/
theorem provision_requests (c : Client σ) (table : TableName) (write : WriteChoice)
    (create : CreateChoice) (schema : Option Schema) (w : World (σ × List Exchange)) :
    let q := (provision c.recorded table write create schema).run w
    (provision c table write create schema).run w.forget = (q.1, q.2.forget) ∧
      ∃ made, q.2.remote.2 = w.remote.2 ++ made ∧ Protocol table write create schema made q.1 := by
  intro q
  obtain ⟨hsame, made, hmade, hreadies⟩ := provision_makes c table write create schema w
  exact ⟨hsame, made, hmade, hreadies.protocol⟩

end World

end TableFeed
