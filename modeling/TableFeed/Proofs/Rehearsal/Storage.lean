import TableFeed.Proofs.Remote.Storage
import TableFeed.Rehearsal.Store

/-!
# The store for rehearsals is a store of tables

The store that is held in memory serves its tables as `Client.Serves` asks, as long as its script
lets no request fail and its reports name rows of their batches.

The main result is `Rehearsal.Store.client_serves`: the client of the store serves it.
-/

namespace TableFeed

namespace Rehearsal.Store

variable {ε α : Type} {s : Store Rejection} {name other : TableName} {held : List Row}

/-- A reply by which an insert does not fail, and rejects no row but the first one of its batch. -/
def Tame (r : Reply Rejection) : Prop :=
  ∃ entries, r = .report entries ∧ ∀ e ∈ entries, e.index = .int 0

/-- The tables of a store.  No request to it fails, and its rows are objects. -/
def storage : Storage (Store Rejection) where
  sound s := s.refusals = [] ∧ (∀ r ∈ s.replies, Tame r) ∧
    ∀ t ∈ s.tables, ∀ row ∈ t.rows, row.IsObject
  tables s name := (s.find? name).map Table.rows

/-- A store after a request was made. -/
def asked (name : TableName) (demand : Demand) (s : Store ε) : Store ε :=
  { s with requests := s.requests ++ [⟨name, demand⟩] }

lemma request_run {s : Store ε} (h : s.refusals = []) (name : TableName) (demand : Demand) :
    (request name demand).run s = (.ok (s.countOf demand.kind), asked name demand s) := by
  simp [request, Action.run, refusal?, h, asked]

lemma discard_request_run {s : Store ε} (h : s.refusals = []) (name : TableName) (demand : Demand) :
    (discard (request name demand)).run s = (.ok (), asked name demand s) := by
  rw [Action.run_discard, request_run h]
  rfl

lemma exists_of_tables (h : storage.tables s name = some held) :
    ∃ t, s.find? name = some t ∧ t.rows = held := Option.map_eq_some_iff.1 h

lemma require_run {s : Store ε} {t : Table} (h : s.find? name = some t) :
    (require name).run s = (.ok t, s) := by
  unfold require
  rw [Action.run_bind_of_ok (Action.run_get s), h]
  rfl

lemma require_run_of_missing {s : Store ε} (h : s.find? name = none) :
    (require name : Action (Store ε) Table).run s = (.error (missing name), s) := by
  unfold require
  rw [Action.run_bind_of_ok (Action.run_get s), h]
  rfl

/-! ### What becomes of the tables -/

lemma name_of_find? {s : Store ε} {t : Table} (h : s.find? name = some t) : t.name = name := by
  simpa using List.find?_some h

lemma find?_append (s : Store ε) (name other : TableName) (rows : List Row) :
    (s.append name rows).find? other = (s.find? other).map fun t =>
      if t.name = name then { t with rows := t.rows ++ rows } else t := by
  rw [find?, append, List.find?_map, find?]
  congr 2
  funext t
  by_cases ht : t.name = name <;> simp [ht]

lemma tables_append (h : storage.tables s name = some held) (rows : List Row) :
    storage.tables (s.append name rows) =
      Function.update (storage.tables s) name (some (held ++ rows)) := by
  funext other
  by_cases hother : other = name
  · subst hother
    obtain ⟨t, ht, rfl⟩ := exists_of_tables h
    simp [storage, find?_append, ht, name_of_find? ht]
  · rw [Function.update_of_ne hother]
    simp only [storage, find?_append, Option.map_map]
    cases ht : s.find? other with
    | none => rfl
    | some t =>
        have hne : t.name ≠ name := by
          rw [name_of_find? ht]
          exact hother
        simp [hne]

lemma tables_delete (s : Store Rejection) (name : TableName) :
    storage.tables { s with tables := s.tables.filter (·.name ≠ name) } =
      Function.update (storage.tables s) name none := by
  funext other
  by_cases hother : other = name
  · subst hother
    simp [storage, find?, List.find?_filter]
  · rw [Function.update_of_ne hother]
    simp only [storage, find?, List.find?_filter]
    congr 2
    funext t
    by_cases ht : t.name = other <;> simp [ht, hother]

lemma tables_create (h : storage.tables s name = none) (schema : Option Schema) :
    storage.tables { s with tables := s.tables ++ [⟨name, schema, []⟩] } =
      Function.update (storage.tables s) name (some []) := by
  have hmissing : s.tables.find? (·.name = name) = none := Option.map_eq_none_iff.1 h
  funext other
  by_cases hother : other = name
  · subst hother
    simp only [storage, find?, List.find?_append, hmissing]
    simp
  · rw [Function.update_of_ne hother]
    simp only [storage, find?, List.find?_append]
    simp [Ne.symm hother]

lemma same_int (m n : Int) : (Value.int m).same (.int n) = (m == n) := by
  simp [Value.same, Value.number?]

/-- The rows that the store accepts are those that a report spares. -/
lemma accepted_eq {b : Batch} {entries : List Rejection} (h : ∀ e ∈ entries, e.Usable b) :
    accepted b.rows (entries.map Rejection.index) = Rejection.spared b entries := by
  refine congrArg (List.map Prod.fst) (List.filter_congr fun x _ => ?_)
  -- the store compares values, a report compares integers; the indices are integers
  have hsame : ∀ e ∈ entries, e.index.same (.int x.2) = (e.index? == some (x.2 : Int)) := by
    intro e he
    obtain ⟨l, -, hindex⟩ := h e he
    rw [hindex, same_int, Rejection.index?, hindex]
    rfl
  rw [Bool.eq_iff_iff, Bool.not_eq_true', decide_eq_true_iff, Rejection.messagesAt,
    List.map_eq_nil_iff, List.filter_eq_nil_iff, List.any_map, List.any_eq_false]
  constructor
  · intro hnone e he
    rw [← hsame e he]
    exact hnone e he
  · intro hnone e he
    rw [Function.comp_apply, hsame e he]
    exact hnone e he

/-! ### What the requests do -/

/-- A request that is made before anything else is answered does not change the tables. -/
lemma answers_asked {demand : Demand} {x : Action (Store Rejection) α} {answer : Except Failure α}
    {after : Tables} (h : storage.sound s)
    (hx : storage.Answers x (asked name demand s) answer after) :
    storage.Answers (do discard (request name demand); x) s answer after := by
  obtain ⟨s', hrun, hsound, htables⟩ := hx
  refine ⟨s', ?_, hsound, htables⟩
  rw [Action.run_bind_of_ok (discard_request_run h.1 name demand), hrun]

lemma getTable_answers (h : storage.sound s) (hheld : storage.tables s name = some held) :
    ∃ t, storage.Answers (getTable name) s (.ok t) (storage.tables s) := by
  obtain ⟨t, ht, rfl⟩ := exists_of_tables hheld
  exact ⟨t, answers_asked h ⟨_, require_run ht, h, rfl⟩⟩

lemma getTable_answers_of_missing (h : storage.sound s) (hmissing : storage.tables s name = none) :
    storage.Answers (getTable name) s (.error (missing name)) (storage.tables s) :=
  answers_asked h ⟨_, require_run_of_missing (Option.map_eq_none_iff.1 hmissing), h, rfl⟩

/-- No row counts as absent, since the rows are objects. -/
lemma firstRow_answers (h : storage.sound s) (hheld : storage.tables s name = some held) :
    storage.Answers (firstRow name) s (.ok held.head?) (storage.tables s) := by
  obtain ⟨t, ht, rfl⟩ := exists_of_tables hheld
  have hfirst : t.rows.head?.filter (fun row => !row.isNull) = t.rows.head? := by
    cases hrows : t.rows with
    | nil => rfl
    | cons row rest =>
        obtain ⟨entries, rfl⟩ := h.2.2 t (List.mem_of_find?_eq_some ht) row (by simp [hrows])
        rfl
  have hrequire : (require name).run (asked name .list s) = (.ok t, asked name .list s) :=
    require_run ht
  refine answers_asked h ⟨asked name .list s, ?_, h, rfl⟩
  rw [Action.run_bind_of_ok hrequire, hfirst]
  rfl

lemma deleteTable_answers (h : storage.sound s) (hheld : storage.tables s name = some held) :
    storage.Answers (deleteTable name) s (.ok ()) (Function.update (storage.tables s) name none) := by
  obtain ⟨t, ht, rfl⟩ := exists_of_tables hheld
  have hrequire : (require name).run (asked name .delete s) = (.ok t, asked name .delete s) :=
    require_run ht
  have hdiscard : (discard (require name)).run (asked name .delete s) =
      (.ok (), asked name .delete s) := by
    rw [Action.run_discard, hrequire]
    rfl
  refine answers_asked h ⟨_, Action.run_bind_of_ok hdiscard, ⟨h.1, h.2.1, ?_⟩, ?_⟩
  · intro t ht
    exact h.2.2 t (List.mem_filter.1 ht).1
  · exact tables_delete (asked name .delete s) name

lemma createTable_answers (h : storage.sound s) (hmissing : storage.tables s name = none)
    (schema : Option Schema) : storage.Answers (createTable name schema) s (.ok ⟨name, schema, []⟩)
      (Function.update (storage.tables s) name (some [])) := by
  have hfind : (asked name (.create schema) s).find? name = none := Option.map_eq_none_iff.1 hmissing
  refine answers_asked h ⟨{ asked name (.create schema) s with
    tables := s.tables ++ [⟨name, schema, []⟩] }, ?_, ⟨h.1, h.2.1, ?_⟩, ?_⟩
  · rw [Action.run_bind_of_ok (Action.run_get _), hfind]
    rfl
  · intro t ht
    rcases List.mem_append.1 ht with ht | ht
    · exact h.2.2 t ht
    · obtain rfl := List.mem_singleton.1 ht
      simp
  · exact tables_create (s := asked name (.create schema) s) hmissing schema

lemma exists_of_replyOf (h : storage.sound s) (n : Nat) :
    ∃ entries, s.replyOf n = .report entries ∧ ∀ e ∈ entries, e.index = .int 0 := by
  unfold replyOf
  cases hn : s.replies[n]? with
  | none => exact ⟨[], rfl, by simp⟩
  | some r => exact h.2.1 r (List.mem_of_getElem? hn)

lemma sound_append (h : storage.sound s) {rows : List Row} (hrows : ∀ row ∈ rows, row.IsObject) :
    storage.sound (s.append name rows) := by
  refine ⟨h.1, h.2.1, fun t ht row hrow => ?_⟩
  obtain ⟨t₀, ht₀, rfl⟩ := List.mem_map.1 ht
  by_cases hname : t₀.name = name
  · rw [if_pos hname] at hrow
    rcases List.mem_append.1 hrow with hrow | hrow
    · exact h.2.2 t₀ ht₀ row hrow
    · exact hrows row hrow
  · rw [if_neg hname] at hrow
    exact h.2.2 t₀ ht₀ row hrow

lemma insert_answers (h : storage.sound s) (hheld : storage.tables s name = some held) {b : Batch}
    (hb : b.Proper) : ∃ report : Option (List Rejection), (∀ e ∈ report.getD [], e.Usable b) ∧
      storage.Answers (client.insert name b) s (.ok report) (Function.update (storage.tables s) name
        (some (held ++ Rejection.spared b (report.getD [])))) := by
  let s' := asked name (.batch b) s
  obtain ⟨entries, hreply, hindex⟩ := exists_of_replyOf (s := s') h
    (s.countOf (Demand.batch b).kind)
  have husable : ∀ e ∈ entries, e.Usable b :=
    fun e he => ⟨0, List.length_pos_iff.2 hb.nonempty, hindex e he⟩
  refine ⟨some entries, husable, s'.append name (Rejection.spared b entries), ?_, ?_, ?_⟩
  · change (do
      let n ← request name (.batch b)
      insertWith name b.rows ((← get).replyOf n)).run s = _
    rw [Action.run_bind_of_ok (request_run h.1 name (.batch b)),
      Action.run_bind_of_ok (Action.run_get _), hreply, ← accepted_eq husable]
    rfl
  · exact sound_append h fun row hrow => hb.objects row (Rejection.spared_subset b _ hrow)
  · exact tables_append (s := s') hheld _

/-- The client of a store serves it. -/
theorem client_serves : client.Serves storage where
  get h hheld := getTable_answers h hheld
  get_missing h hmissing := ⟨_, getTable_answers_of_missing h hmissing⟩
  first h hheld := firstRow_answers h hheld
  delete h hheld := deleteTable_answers h hheld
  create schema h hmissing := ⟨_, createTable_answers h hmissing (some schema)⟩
  insert h hheld hb := insert_answers h hheld hb

end Rehearsal.Store

end TableFeed
