import TableFeed.Proofs.Rehearsal.Storage

/-!
# Getting a table of a store ready

What getting a table ready does to a store that is held in memory, when no request fails.  Either it
fails and the store keeps its tables, or it leaves the table ready, and then doing it again changes
nothing.

A table that is ready is one that may keep what it holds: rows are to be appended to it, or it has
none.  Such a table is left alone (`Store.provision_of_ready`), which covers the tables that were
ready from the start as well as the second time for all others.

The main results are

* `Store.provision_comes`: what getting a table ready comes to, and the tables it leaves;
* `Store.provision_settles`: what holds of the store after that, and of a second time.
-/

namespace TableFeed.Rehearsal.Store

open World

variable {w w' w'' : World (Store Rejection)} {name : TableName} {write : WriteChoice}
  {create : CreateChoice} {schema : Option Schema} {t : Table}

/-- A store to which no request fails.  A row that it holds is never absent. -/
structure Willing (s : Store Rejection) : Prop where
  refusals_eq : s.refusals = []
  rows_given : ∀ t ∈ s.tables, ∀ row ∈ t.rows, row.isNull = false

/-- A state that was reached by requests for a table, and in which the store has given tables. -/
structure Leaves (name : TableName) (w : World (Store Rejection)) (demands : List Demand)
    (tables : List Table) (w' : World (Store Rejection)) : Prop where
  tables_eq : w'.remote.tables = tables
  requests_eq : w'.remote.requests = w.remote.requests ++ demands.map (Request.mk name)
  refusals_eq : w'.remote.refusals = w.remote.refusals

namespace Leaves

variable {demands demands' : List Demand} {tables tables' : List Table}

lemma refl (w : World (Store Rejection)) : Leaves name w [] w.remote.tables w :=
  ⟨rfl, by simp, rfl⟩

lemma trans (h : Leaves name w demands tables w') (h' : Leaves name w' demands' tables' w'') :
    Leaves name w (demands ++ demands') tables' w'' where
  tables_eq := h'.tables_eq
  requests_eq := by rw [h'.requests_eq, h.requests_eq, List.map_append, List.append_assoc]
  refusals_eq := h'.refusals_eq.trans h.refusals_eq

lemma find?_eq (h : Leaves name w demands tables w') (other : TableName) :
    w'.remote.find? other = tables.find? (·.name = other) := by
  rw [find?, h.tables_eq]

/-- The store stays willing if every table is an old one or has no rows. -/
lemma willing (h : Leaves name w demands tables w') (hw : Willing w.remote)
    (htables : ∀ t ∈ tables, t ∈ w.remote.tables ∨ t.rows = []) : Willing w'.remote where
  refusals_eq := h.refusals_eq.trans hw.refusals_eq
  rows_given t ht row hrow := by
    rw [h.tables_eq] at ht
    rcases htables t ht with hold | hrows
    · exact hw.rows_given t hold row hrow
    · simp [hrows] at hrow

lemma willing_of_same (h : Leaves name w demands w.remote.tables w') (hw : Willing w.remote) :
    Willing w'.remote := h.willing hw fun _ ht => .inl ht

/-- What the operator is told before or after the requests does not matter. -/
lemma of_note {e : Event} (h : Leaves name (Logged.note e w) demands tables w') :
    Leaves name w demands tables w' :=
  ⟨h.tables_eq, h.requests_eq, h.refusals_eq⟩

lemma note (h : Leaves name w demands tables w') (e : Event) :
    Leaves name w demands tables (Logged.note e w') :=
  ⟨h.tables_eq, h.requests_eq, h.refusals_eq⟩

end Leaves

/-! ### The requests -/

lemma remotely_run {α : Type} {x : Action (Store Rejection) α} {r : Except Failure α}
    {s : Store Rejection} (h : x.run w.remote = (r, s)) :
    (remotely x).run w = (r, { w with remote := s }) := by
  rw [remotely, Action.run_on, h]

lemma get_run (hw : Willing w.remote) (name : TableName) :
    ∃ w', (remotely (client.get name)).run w =
        ((w.remote.find? name).elim (.error (missing name)) .ok, w') ∧
      Leaves name w [.get] w.remote.tables w' := by
  refine ⟨_, remotely_run (s := asked name .get w.remote) ?_, rfl, rfl, rfl⟩
  refine (Action.run_bind_of_ok (discard_request_run hw.refusals_eq name .get)).trans ?_
  cases hfound : w.remote.find? name with
  | none => exact require_run_of_missing hfound
  | some t => exact require_run hfound

/-- A table has a first row unless it has no rows, since no row is absent. -/
lemma first_run (hw : Willing w.remote) (hfound : w.remote.find? name = some t) :
    ∃ w', (remotely (client.first name)).run w = (.ok t.rows.head?, w') ∧
      Leaves name w [.list] w.remote.tables w' := by
  have hfirst : t.rows.head?.filter (fun row => !row.isNull) = t.rows.head? := by
    cases hrows : t.rows with
    | nil => rfl
    | cons row rest =>
        have hrow := hw.rows_given t (List.mem_of_find?_eq_some hfound) row (by simp [hrows])
        simp [hrow]
  have hrequire : (require name).run (asked name .list w.remote) =
      (.ok t, asked name .list w.remote) := require_run hfound
  refine ⟨_, remotely_run (s := asked name .list w.remote) ?_, rfl, rfl, rfl⟩
  refine (Action.run_bind_of_ok (discard_request_run hw.refusals_eq name .list)).trans ?_
  rw [Action.run_bind_of_ok hrequire, hfirst]
  rfl

lemma delete_run (hw : Willing w.remote) (hfound : w.remote.find? name = some t) :
    ∃ w', (remotely (client.delete name)).run w = (.ok (), w') ∧
      Leaves name w [.delete] (w.remote.tables.filter (·.name ≠ name)) w' := by
  have hrequire : (discard (require name)).run (asked name .delete w.remote) =
      (.ok (), asked name .delete w.remote) := by
    have hfound : (asked name .delete w.remote).find? name = some t := hfound
    rw [Action.run_discard, require_run hfound]
    rfl
  refine ⟨_, remotely_run (s := { asked name .delete w.remote with
    tables := w.remote.tables.filter (·.name ≠ name) }) ?_, rfl, rfl, rfl⟩
  exact (Action.run_bind_of_ok (discard_request_run hw.refusals_eq name .delete)).trans
    (Action.run_bind_of_ok hrequire)

lemma create_run (hw : Willing w.remote) (hmissing : w.remote.find? name = none)
    (schema : Option Schema) :
    ∃ w', (remotely (client.create name schema)).run w = (.ok ⟨name, schema, []⟩, w') ∧
      Leaves name w [.create schema] (w.remote.tables ++ [⟨name, schema, []⟩]) w' := by
  have hmissing : (asked name (.create schema) w.remote).find? name = none := hmissing
  refine ⟨_, remotely_run (s := { asked name (.create schema) w.remote with
    tables := w.remote.tables ++ [⟨name, schema, []⟩] }) ?_, rfl, rfl, rfl⟩
  refine (Action.run_bind_of_ok (discard_request_run hw.refusals_eq name (.create schema))).trans ?_
  rw [Action.run_bind_of_ok (Action.run_get _), hmissing]
  rfl

/-! ### The steps of getting a table ready -/

lemma fetchTable_run (hw : Willing w.remote) (name : TableName) (create : CreateChoice) :
    ∃ w', (fetchTable client name create).run w =
        (match w.remote.find? name with
          | some t => .ok (some t)
          | none => if create = .ifNeeded then .ok none else .error (missing name), w') ∧
      Leaves name w [.get] w.remote.tables w' := by
  obtain ⟨w', hget, hleaves⟩ := get_run hw name
  refine ⟨w', ?_, hleaves⟩
  rw [fetchTable, Action.run_bind_of_ok (Action.run_outcome _ w), hget]
  cases w.remote.find? name with
  | some t => rfl
  | none =>
      simp only [Option.elim_none, missing]
      split <;> rfl

lemma isEmpty_run (hw : Willing w.remote) (hfound : w.remote.find? name = some t) :
    ∃ w', (isEmpty client name).run w = (.ok t.rows.isEmpty, w') ∧
      Leaves name w [.list] w.remote.tables w' := by
  obtain ⟨w', hfirst, hleaves⟩ := first_run hw hfound
  refine ⟨w', ?_, hleaves⟩
  rw [isEmpty, Action.run_bind_of_ok hfirst]
  cases t.rows <;> rfl

lemma tryCreate_run (hw : Willing w.remote) (hmissing : w.remote.find? name = none)
    {given : Schema} (hfields : given.HasFields) :
    ∃ w', (tryCreate client name (some given)).run w = (.ok (some ⟨name, some given, []⟩), w') ∧
      Leaves name w [.create (some given)] (w.remote.tables ++ [⟨name, some given, []⟩]) w' := by
  obtain ⟨n, -, hlength⟩ := hfields
  have hanswer : (Action.answer (liftFault (schemaLength (some given)))).run w = (.ok n, w) := by
    rw [schemaLength, hlength]
    rfl
  obtain ⟨w', hcreate, hleaves⟩ :=
    create_run (w := Logged.note (.tableCreating name n) w) hw hmissing (some given)
  refine ⟨w', ?_, hleaves.of_note⟩
  rw [tryCreate, Action.run_bind_of_ok hanswer, Action.run_bind_of_ok (Action.run_note _ w),
    Action.run_bind_of_ok (Action.run_outcome _ _), hcreate]
  rfl

/-- A table that is there is deleted and created again. -/
lemma recreate_run (hw : Willing w.remote) (hfound : w.remote.find? name = some t) {given : Schema}
    (hfields : given.HasFields) :
    ∃ w', (do
        note (.tableDeleting name)
        remotely (client.delete name)
        tryCreate client name (some given)).run w = (.ok (some ⟨name, some given, []⟩), w') ∧
      Leaves name w [.delete, .create (some given)]
        (w.remote.tables.filter (·.name ≠ name) ++ [⟨name, some given, []⟩]) w' := by
  obtain ⟨w₁, hdelete, hleaves₁⟩ := delete_run (w := Logged.note (.tableDeleting name) w) hw hfound
  have hwilling : Willing w₁.remote :=
    hleaves₁.willing hw fun t ht => .inl (List.mem_filter.1 ht).1
  have hmissing : w₁.remote.find? name = none := by
    rw [hleaves₁.find?_eq]
    simp [List.find?_filter]
  obtain ⟨w₂, hcreate, hleaves₂⟩ := tryCreate_run hwilling hmissing hfields
  refine ⟨w₂, ?_, ?_⟩
  · rw [Action.run_bind_of_ok (Action.run_note _ w), Action.run_bind_of_ok hdelete, hcreate]
  · rw [hleaves₁.tables_eq] at hleaves₂
    exact (hleaves₁.trans hleaves₂).of_note

/-! ### A table that is ready -/

/-- A table that may keep what it holds. -/
def Ready (write : WriteChoice) (t : Table) : Prop := write = .append ∨ t.rows = []

/-- A table that is ready is left alone, and so are all others. -/
theorem provision_of_ready (hw : Willing w.remote) (hfound : w.remote.find? name = some t)
    (hready : Ready write t) (create : CreateChoice) (schema : Option Schema) :
    ∃ w' demands, (provision client name write create schema).run w = (.ok (some t), w') ∧
      Leaves name w demands w.remote.tables w' ∧ ∀ d ∈ demands, d = .get ∨ d = .list := by
  obtain ⟨w₁, hfetch, hleaves₁⟩ := fetchTable_run hw name create
  rw [hfound] at hfetch
  rw [provision, Action.run_bind_of_ok hfetch]
  dsimp only
  by_cases happend : write = .append
  · rw [if_pos happend]
    exact ⟨w₁, _, rfl, hleaves₁, by simp⟩
  · rw [if_neg happend]
    have hrows : t.rows = [] := hready.resolve_left happend
    obtain ⟨w₂, hempty, hleaves₂⟩ := isEmpty_run (hleaves₁.willing_of_same hw)
      ((hleaves₁.find?_eq name).trans hfound)
    have hleaves := hleaves₁.trans hleaves₂
    rw [hleaves₁.tables_eq] at hleaves
    rw [Action.run_bind_of_ok hempty, hrows, List.isEmpty_nil, if_pos rfl]
    by_cases htruncate : write = .truncate
    · rw [if_pos htruncate]
      exact ⟨_, _, Action.run_bind_of_ok (Action.run_note _ w₂), hleaves.note _, by simp⟩
    · rw [if_neg htruncate]
      exact ⟨w₂, _, rfl, hleaves, by simp⟩

/-! ### Any table -/

/-- What getting a table ready comes to, and the tables that the store has then. -/
inductive Comes (s : Store Rejection) (name : TableName) (write : WriteChoice)
    (schema : Option Schema) : Except Failure (Option Table) → List Table → Prop where
  /-- The store keeps its tables. -/
  | refused (f : Failure) : Comes s name write schema (.error f) s.tables
  /-- The table is ready as it is. -/
  | kept {t : Table} (hfound : s.find? name = some t) (hready : Ready write t) :
      Comes s name write schema (.ok (some t)) s.tables
  /-- The table was missing and is created. -/
  | created {given : Schema} (hmissing : s.find? name = none) (hschema : schema = some given) :
      Comes s name write schema (.ok (some ⟨name, some given, []⟩))
        (s.tables ++ [⟨name, some given, []⟩])
  /-- The table had rows and is created again. -/
  | recreated {given : Schema} {old : Table} (hfound : s.find? name = some old)
      (hwrite : write = .truncate) (hrows : old.rows ≠ [])
      (hschema : schema.or old.schema = some given) :
      Comes s name write schema (.ok (some ⟨name, some given, []⟩))
        (s.tables.filter (·.name ≠ name) ++ [⟨name, some given, []⟩])

/-- A table that is missing is created if it may be and has a schema. -/
lemma provision_comes_missing (hw : Willing w.remote) (hmissing : w.remote.find? name = none)
    (write : WriteChoice) (create : CreateChoice) (schema : Option Schema) :
    ∃ r w' demands tables, (provision client name write create schema).run w = (r, w') ∧
      Leaves name w demands tables w' ∧ Comes w.remote name write schema r tables := by
  obtain ⟨w₁, hfetch, hleaves₁⟩ := fetchTable_run hw name create
  rw [hmissing] at hfetch
  rw [provision]
  by_cases hcreate : create = .ifNeeded
  · rw [if_pos hcreate] at hfetch
    rw [Action.run_bind_of_ok hfetch]
    cases hschema : requireSchema name schema with
    | error f =>
        exact ⟨_, _, _, _, Action.run_bind_of_error (Action.run_answer _ _), hleaves₁, .refused f⟩
    | ok u =>
        obtain ⟨given, rfl, hfields⟩ := requireSchema_eq_ok hschema
        obtain ⟨w₂, hrun, hleaves₂⟩ := tryCreate_run (hleaves₁.willing_of_same hw)
          ((hleaves₁.find?_eq name).trans hmissing) hfields
        refine ⟨_, _, _, _, (Action.run_bind_of_ok (Action.run_answer _ _)).trans hrun,
          hleaves₁.trans hleaves₂, ?_⟩
        rw [hleaves₁.tables_eq]
        exact .created hmissing rfl
  · rw [if_neg hcreate] at hfetch
    exact ⟨_, _, _, _, Action.run_bind_of_error hfetch, hleaves₁, .refused _⟩

/-- A table with rows that must not stay is refused, or created again if there is a schema for it. -/
lemma provision_comes_occupied (hw : Willing w.remote) {old : Table}
    (hfound : w.remote.find? name = some old) (hoccupied : ¬ Ready write old)
    (create : CreateChoice) (schema : Option Schema) :
    ∃ r w' demands tables, (provision client name write create schema).run w = (r, w') ∧
      Leaves name w demands tables w' ∧ Comes w.remote name write schema r tables := by
  obtain ⟨happend, hrows⟩ := not_or.1 hoccupied
  obtain ⟨w₁, hfetch, hleaves₁⟩ := fetchTable_run hw name create
  rw [hfound] at hfetch
  rw [provision, Action.run_bind_of_ok hfetch]
  dsimp only
  rw [if_neg happend]
  obtain ⟨w₂, hempty, hleaves₂⟩ := isEmpty_run (hleaves₁.willing_of_same hw)
    ((hleaves₁.find?_eq name).trans hfound)
  have hleaves := hleaves₁.trans hleaves₂
  rw [hleaves₁.tables_eq] at hleaves
  have hnonempty : old.rows.isEmpty = false := by simpa using hrows
  rw [Action.run_bind_of_ok hempty, hnonempty, if_neg (by simp)]
  by_cases hwrite : write = .empty
  · rw [if_pos hwrite]
    exact ⟨_, w₂, _, _, Action.run_bind_of_error (Action.run_throw _ w₂), hleaves, .refused _⟩
  · rw [if_neg hwrite]
    have htruncate : write = .truncate := by cases write <;> simp_all
    cases hschema : requireSchema name (schema.or (old.schema.filter Schema.isGiven)) with
    | error f =>
        exact ⟨_, w₂, _, _, Action.run_bind_of_error (Action.run_answer _ w₂), hleaves, .refused f⟩
    | ok u =>
        obtain ⟨given, hgiven, hfields⟩ := requireSchema_eq_ok hschema
        rw [hgiven]
        obtain ⟨w₃, hrun, hleaves₃⟩ := recreate_run (hleaves.willing_of_same hw)
          ((hleaves.find?_eq name).trans hfound) hfields
        rw [hleaves.tables_eq] at hleaves₃
        exact ⟨_, w₃, _, _, (Action.run_bind_of_ok (Action.run_answer _ w₂)).trans hrun,
          hleaves.trans hleaves₃,
          .recreated hfound htruncate hrows (eq_some_of_or_filter hgiven)⟩

/-- What getting a table ready comes to when no request fails. -/
theorem provision_comes (hw : Willing w.remote) (name : TableName) (write : WriteChoice)
    (create : CreateChoice) (schema : Option Schema) :
    ∃ r w' demands tables, (provision client name write create schema).run w = (r, w') ∧
      Leaves name w demands tables w' ∧ Comes w.remote name write schema r tables := by
  cases hfound : w.remote.find? name with
  | none => exact provision_comes_missing hw hfound write create schema
  | some old =>
      by_cases hready : Ready write old
      · obtain ⟨w', demands, hrun, hleaves, -⟩ := provision_of_ready hw hfound hready create schema
        exact ⟨_, w', demands, _, hrun, hleaves, .kept hfound hready⟩
      · exact provision_comes_occupied hw hfound hready create schema

/-! ### What holds after that -/

/-- A store after a table was got ready.  `s` is the store before. -/
structure Settles (name : TableName) (write : WriteChoice) (schema : Option Schema)
    (s s' : Store Rejection) (t : Table) : Prop where
  found : s'.find? name = some t
  others : s'.tables.filter (·.name ≠ name) = s.tables.filter (·.name ≠ name)
  appended : write = .append → ∀ old, s.find? name = some old → s'.tables = s.tables
  emptied : write ≠ .append → t.rows = []
  created : s.find? name = none → t.rows = [] ∧ schema.isSome = true ∧ t.schema = schema
  recreated : ∀ old, s.find? name = some old → write = .truncate → old.rows ≠ [] →
    t.rows = [] ∧ t.schema = schema.or old.schema
  kept : ∀ old, s.find? name = some old → old.rows = [] → s'.tables = s.tables

lemma find?_created (tables : List Table) (given : Option Schema)
    (h : tables.find? (·.name = name) = none) :
    (tables ++ [Table.mk name given []]).find? (·.name = name) = some ⟨name, given, []⟩ := by
  simp [List.find?_append, h]

lemma filter_created (tables : List Table) (given : Option Schema) :
    (tables ++ [Table.mk name given []]).filter (·.name ≠ name) =
      tables.filter (·.name ≠ name) := by
  simp

/-- A table that was got ready is ready, and what holds of the store follows. -/
lemma Comes.settles {s s' : Store Rejection} {tables : List Table} {found : Option Table}
    (h : Comes s name write schema (.ok found) tables) (htables : s'.tables = tables) :
    ∃ t, found = some t ∧ Settles name write schema s s' t ∧ Ready write t ∧
      ∀ t ∈ tables, t ∈ s.tables ∨ t.rows = [] := by
  cases h with
  | @kept t hfound hready =>
      refine ⟨t, rfl, ?_, hready, fun _ ht => .inl ht⟩
      exact {
        found := by rwa [find?, htables]
        others := by rw [htables]
        appended := fun _ _ _ => htables
        emptied := fun hwrite => hready.resolve_left hwrite
        created := fun hmissing => by simp [hfound] at hmissing
        recreated := fun old hold hwrite hrows => by
          obtain rfl := Option.some.inj (hfound.symm.trans hold)
          simp [Ready, hwrite, hrows] at hready
        kept := fun _ _ _ => htables }
  | @created given hmissing hschema =>
      refine ⟨_, rfl, ?_, .inr rfl, ?_⟩
      · exact {
          found := by rw [find?, htables, find?_created _ _ hmissing]
          others := by rw [htables, filter_created]
          appended := fun _ old hold => by simp [hmissing] at hold
          emptied := fun _ => rfl
          created := fun _ => ⟨rfl, by simp [hschema], hschema.symm⟩
          recreated := fun old hold => by simp [hmissing] at hold
          kept := fun old hold => by simp [hmissing] at hold }
      · intro t ht
        rcases List.mem_append.1 ht with ht | ht
        · exact .inl ht
        · exact .inr (by rw [List.mem_singleton.1 ht])
  | @recreated given old hfound hwrite hrows hschema =>
      have hmissing : (s.tables.filter (·.name ≠ name)).find? (·.name = name) = none := by
        simp [List.find?_filter]
      refine ⟨_, rfl, ?_, .inr rfl, ?_⟩
      · exact {
          found := by rw [find?, htables, find?_created _ _ hmissing]
          others := by rw [htables, filter_created, List.filter_filter]; simp
          appended := fun happend => by simp [hwrite] at happend
          emptied := fun _ => rfl
          created := fun hmissing => by simp [hfound] at hmissing
          recreated := fun old' hold _ _ => by
            obtain rfl := Option.some.inj (hfound.symm.trans hold)
            exact ⟨rfl, hschema.symm⟩
          kept := fun old' hold hrows' => by
            obtain rfl := Option.some.inj (hfound.symm.trans hold)
            exact absurd hrows' hrows }
      · intro t ht
        rcases List.mem_append.1 ht with ht | ht
        · exact .inl (List.mem_filter.1 ht).1
        · exact .inr (by rw [List.mem_singleton.1 ht])

/-- Where no request fails, getting a table ready fails and leaves all tables as they were, or it
leaves the table ready and all others as they were.  A second time then changes nothing. -/
theorem provision_settles (w : World (Store Rejection)) (hw : Willing w.remote) (name : TableName)
    (write : WriteChoice) (create : CreateChoice) (schema : Option Schema) :
    let q := (provision client name write create schema).run w
    (∀ f, q.1 = .error f → q.2.remote.tables = w.remote.tables) ∧
      ∀ found, q.1 = .ok found → ∃ t, found = some t ∧
        Settles name write schema w.remote q.2.remote t ∧
        let q' := (provision client name write create schema).run q.2
        q'.1 = .ok (some t) ∧ q'.2.remote.tables = q.2.remote.tables ∧
          ∃ requests, q'.2.remote.requests = q.2.remote.requests ++ requests ∧
            ∀ r ∈ requests, r.demand.kind ≠ .delete ∧ r.demand.kind ≠ .create := by
  obtain ⟨r, w', demands, tables, hrun, hleaves, hcomes⟩ :=
    provision_comes hw name write create schema
  rw [hrun]
  refine ⟨?_, ?_⟩
  · rintro f rfl
    cases hcomes
    exact hleaves.tables_eq
  · rintro found rfl
    obtain ⟨t, rfl, hsettles, hready, hrows⟩ := hcomes.settles hleaves.tables_eq
    obtain ⟨w'', again, hagain, hleaves', hkinds⟩ :=
      provision_of_ready (hleaves.willing hw hrows) hsettles.found hready create schema
    refine ⟨t, rfl, hsettles, ?_⟩
    dsimp only
    rw [hagain]
    refine ⟨rfl, hleaves'.tables_eq, _, hleaves'.requests_eq, fun r hr => ?_⟩
    obtain ⟨d, hd, rfl⟩ := List.mem_map.1 hr
    obtain rfl | rfl := hkinds d hd
    · simp [Demand.kind]
    · simp [Demand.kind]

/-- A table with a row is truncated without a schema being supplied, beside another table. -/
theorem provision_settles_truncate :
    let old : Table := ⟨⟨"p", "d", "t"⟩, some (.given (.list [.text "x"])), [.mapping []]⟩
    let other : Table := ⟨⟨"p", "d", "u"⟩, none, [.mapping []]⟩
    let w : World (Store Rejection) :=
      { remote := { tables := [old, other] }, pool := ⟨1, 1, false, false, []⟩ }
    let x := provision client old.name .truncate .never none
    Willing w.remote ∧ ∃ t, (x.run w).1 = .ok (some t) ∧ t.rows = [] ∧ t.schema = old.schema ∧
      (x.run (x.run w).2).1 = .ok (some t) ∧
      (x.run (x.run w).2).2.remote.tables = (x.run w).2.remote.tables := by
  intro old other w x
  have hwilling : Willing w.remote := ⟨rfl, by simp [w, old, other, Value.isNull]⟩
  obtain ⟨-, hdone⟩ := provision_settles w hwilling old.name .truncate .never none
  have hrun : (x.run w).1 = .ok (some ⟨old.name, old.schema, []⟩) := by rfl
  obtain ⟨t, hfound, hsettles, hagain, htables, -⟩ := hdone _ hrun
  have hrecreated := hsettles.recreated old (by rfl) rfl (by simp [old])
  exact ⟨hwilling, t, hrun.trans (by rw [hfound]), hrecreated.1, hrecreated.2, hagain, htables⟩

end TableFeed.Rehearsal.Store
