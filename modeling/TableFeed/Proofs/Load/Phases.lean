import TableFeed.Proofs.Load.Transfer
import TableFeed.Proofs.RowFile.Refusals

/-!
# The phases of a load

A load prepares, then it gets its table ready, and then it sends the rows.  All that is read and
checked is read and checked in the first phase, which makes no request.

The main results are

* `Load.transfer_eq`: a transfer is its three phases, one after the other;
* `Load.transfer_eq_ok_iff` and `Load.transfer_eq_error_iff`: how a transfer ends, by its phases;
* `Load.Refused.not_prepared`: a load of which anything is refused does not get beyond the first
  phase.
-/

namespace TableFeed

namespace Action

variable {σ α β γ : Type}

lemma bind_assoc (x : Action σ α) (f : α → Action σ β) (g : β → Action σ γ) :
    x >>= f >>= g = x >>= fun a => f a >>= g := by
  funext s
  show run (x >>= f >>= g) s = run (x >>= fun a => f a >>= g) s
  rw [run_bind, run_bind, run_bind]
  rcases run x s with ⟨e | a, t⟩
  · rfl
  · rfl

/-- An action that answers has answered in both of its steps. -/
lemma exists_of_run_bind {x : Action σ α} {f : α → Action σ β} {s t : σ} {b : β}
    (h : run (x >>= f) s = (.ok b, t)) :
    ∃ a s', run x s = (.ok a, s') ∧ run (f a) s' = (.ok b, t) := by
  rw [run_bind] at h
  rcases hx : run x s with ⟨e | a, s'⟩
  · simp [hx] at h
  · exact ⟨a, s', rfl, by rwa [hx] at h⟩

lemma answer_bind (r : Except Failure α) (f : α → Except Failure β) :
    (answer (r >>= f) : Action σ β) = answer r >>= fun a => answer (f a) := by
  cases r with
  | error e => rfl
  | ok a => rfl

end Action

namespace Load

open CommandLine

variable {σ : Type} {s : Surroundings σ} {settings : Settings} {a : Arguments} {l l' : Load σ}

/-! ### The three phases -/

/-- What a load has settled when it makes its first request. -/
structure Plan where
  /-- What is to be loaded. -/
  cargo : Cargo
  /-- How rows are inserted. -/
  options : InsertOptions
  /-- What happens to rows that the table holds already. -/
  write : WriteChoice
  /-- Whether a missing table is created. -/
  create : CreateChoice

/-- The plan for a cargo. -/
def planFor (settings : Settings) (a : Arguments) (cargo : Cargo) : Except Failure Plan := do
  let policy ← settings.policy
  let options ← (InsertOptions.make settings.limits policy).mapError .misuse
  let write ← chosen .write a.write
  let create ← chosen .create a.create
  .ok ⟨cargo, options, write, create⟩

/-- The first phase: all that is read and checked. -/
def prepare (s : Surroundings σ) (settings : Settings) (a : Arguments) : Action (Load σ) Plan := do
  let cargo ← Action.answer (readCargo s.files a)
  discard (connect s settings.connection)
  within (Retry.inner World.start)
  Action.answer (planFor settings a cargo)

/-- The second phase: the table is got ready. -/
def provide (s : Surroundings σ) (settings : Settings) (plan : Plan) : Action (Load σ) Unit :=
  discard (within (Retry.inner (World.provision (s.client settings.connection) plan.cargo.table
    plan.write plan.create plan.cargo.schema)))

/-- The third phase: the rows are inserted. -/
def send (s : Surroundings σ) (settings : Settings) (plan : Plan) : Action (Load σ) Summary :=
  within (World.insertAll (s.client settings.connection) s.schedule s.pace plan.options
    (some plan.cargo.table) plan.cargo.rows.rows plan.cargo.rows.tokens)

/-- A transfer is its three phases, one after the other. -/
theorem transfer_eq (s : Surroundings σ) (settings : Settings) (a : Arguments) :
    transfer s settings a = (do
      let plan ← prepare s settings a
      provide s settings plan
      let summary ← send s settings plan
      note (.loadCompleted plan.cargo.table summary.rows summary.attempts summary.retried)) := by
  have hconnect : ∀ k : Client σ → Action (Load σ) Unit, (connect s settings.connection >>= k) =
      discard (connect s settings.connection) >>= fun _ => k (s.client settings.connection) := by
    intro k
    unfold connect
    cases s.hindrance? settings.connection <;> rfl
  have hdone : ∀ (p : Plan) (k : Plan → Action (Load σ) Unit), Action.answer (.ok p) >>= k = k p :=
    fun _ _ => rfl
  unfold transfer prepare planFor
  simp only [Action.bind_assoc, Action.answer_bind, hconnect, hdone]
  rfl

/-- How a load goes: it breaks off in one of its phases with a failure, or the insert of its rows
returns, and the state that it leaves. -/
inductive Goes (s : Surroundings σ) (settings : Settings) (a : Arguments) (l : Load σ) :
    Except Failure Summary → Load σ → Prop where
  /-- It breaks off before the first request. -/
  | unprepared {f : Failure} {l₁ : Load σ} (hprepare : (prepare s settings a).run l = (.error f, l₁)) :
      Goes s settings a l (.error f) l₁
  /-- The table is not got ready. -/
  | unprovided {plan : Plan} {f : Failure} {l₁ l₂ : Load σ}
      (hprepare : (prepare s settings a).run l = (.ok plan, l₁))
      (hprovide : (provide s settings plan).run l₁ = (.error f, l₂)) :
      Goes s settings a l (.error f) l₂
  /-- The rows are not all inserted. -/
  | unsent {plan : Plan} {f : Failure} {l₁ l₂ l₃ : Load σ}
      (hprepare : (prepare s settings a).run l = (.ok plan, l₁))
      (hprovide : (provide s settings plan).run l₁ = (.ok (), l₂))
      (hsend : (send s settings plan).run l₂ = (.error f, l₃)) : Goes s settings a l (.error f) l₃
  /-- The rows are inserted, of which the operator is told. -/
  | sent {plan : Plan} {summary : Summary} {l₁ l₂ l₃ : Load σ}
      (hprepare : (prepare s settings a).run l = (.ok plan, l₁))
      (hprovide : (provide s settings plan).run l₁ = (.ok (), l₂))
      (hsend : (send s settings plan).run l₂ = (.ok summary, l₃)) :
      Goes s settings a l (.ok summary) (Logged.note (.loadCompleted plan.cargo.table summary.rows
        summary.attempts summary.retried) l₃)

/-- A transfer ends as its load goes. -/
lemma Goes.transfer_run {r : Except Failure Summary} (h : Goes s settings a l r l') :
    (transfer s settings a).run l = (r.map fun _ => (), l') := by
  rw [transfer_eq]
  cases h with
  | unprepared hprepare => exact Action.run_bind_of_error hprepare
  | unprovided hprepare hprovide =>
      rw [Action.run_bind_of_ok hprepare]
      exact Action.run_bind_of_error hprovide
  | unsent hprepare hprovide hsend =>
      rw [Action.run_bind_of_ok hprepare, Action.run_bind_of_ok hprovide]
      exact Action.run_bind_of_error hsend
  | sent hprepare hprovide hsend =>
      rw [Action.run_bind_of_ok hprepare, Action.run_bind_of_ok hprovide,
        Action.run_bind_of_ok hsend]
      rfl

/-- Something of which a load is told is refused. -/
inductive Refused (s : Surroundings σ) (a : Arguments) : Prop where
  /-- The environment gives no settings. -/
  | settings {f : Misuse} (hsettings : Settings.read s.environment = .error f)
  /-- The spec names no table. -/
  | table {f : Failure} (htable : readTable a.table = .error f)
  /-- The schema file gives no schema. -/
  | schema {path : String} {f : Failure} (hpath : a.schema = some path)
      (hschema : SchemaFile.read s.files (Path.read path) = .error f)
  /-- The file of rows is not read. -/
  | rows {path : String} {f : Failure} (hpath : a.rows = some path)
      (hrows : RowFile.read s.files (Path.read path) a.tokens = .error f)
  /-- A line of the file of rows is refused. -/
  | line {path : String} {octets : List UInt8} {x : List Char × Nat} (hpath : a.rows = some path)
      (hoctets : s.files (Path.read path) = .ok octets)
      (hline : x ∈ (RowFile.delivered octets).1.zipIdx 1)
      (hrefused : (RowFile.refusal? (Path.read path).print (RowFile.tokenField a.tokens) x).isSome)
  /-- The settings give no policy. -/
  | policy {given : Settings} {f : Failure} (hsettings : Settings.read s.environment = .ok given)
      (hpolicy : given.policy = .error f)
  /-- The connection that the settings ask for has no client. -/
  | connection {given : Settings} {h : Hindrance}
      (hsettings : Settings.read s.environment = .ok given)
      (hhindered : s.hindrance? given.connection = some h)

lemma discard_connect_run (s : Surroundings σ) (connection : Connection) (l : Load σ) :
    (discard (connect s connection)).run l = match s.hindrance? connection with
      | some h => (.error h.failure, l)
      | none => (.ok (), { l with connections := l.connections ++ [connection] }) := by
  rw [Action.run_discard, connect_run]
  cases s.hindrance? connection <;> rfl

/-- What is known of a load that is prepared. -/
lemma of_prepared {plan : Plan} (h : (prepare s settings a).run l = (.ok plan, l')) :
    readCargo s.files a = .ok plan.cargo ∧ s.hindrance? settings.connection = none ∧
      planFor settings a plan.cargo = .ok plan := by
  obtain ⟨cargo, l₁, hcargo, h⟩ := Action.exists_of_run_bind h
  obtain ⟨⟨⟩, l₂, hconnect, h⟩ := Action.exists_of_run_bind h
  obtain ⟨-, l₃, -, h⟩ := Action.exists_of_run_bind h
  have hplan : planFor settings a cargo = .ok plan := congrArg Prod.fst h
  -- the plan keeps the cargo for which it is made
  have hkept : plan.cargo = cargo := by
    obtain ⟨policy, -, h⟩ := exists_of_bind_eq_ok hplan
    obtain ⟨options, -, h⟩ := exists_of_bind_eq_ok h
    obtain ⟨write, -, h⟩ := exists_of_bind_eq_ok h
    obtain ⟨create, -, h⟩ := exists_of_bind_eq_ok h
    rw [← Except.ok.inj h]
  rw [hkept]
  refine ⟨congrArg Prod.fst hcargo, ?_, hplan⟩
  rw [discard_connect_run] at hconnect
  cases hhindered : s.hindrance? settings.connection with
  | none => rfl
  | some h => simp [hhindered] at hconnect

/-- A load of which anything is refused is not prepared. -/
theorem Refused.not_prepared (h : Refused s a) (hsettings : Settings.read s.environment = .ok settings)
    (plan : Plan) : (prepare s settings a).run l ≠ (.ok plan, l') := by
  intro hprepare
  obtain ⟨hcargo, hconnection, hplan⟩ := of_prepared hprepare
  rw [readCargo_eq] at hcargo
  obtain ⟨table, htable, hcargo⟩ := exists_of_bind_eq_ok hcargo
  obtain ⟨schema, hschema, hcargo⟩ := exists_of_bind_eq_ok hcargo
  obtain ⟨policy, hpolicy, -⟩ := exists_of_bind_eq_ok hplan
  have hread : ∀ path, a.rows = some path →
      ∀ f, RowFile.read s.files (Path.read path) a.tokens ≠ .error f := by
    intro path hpath f hrows
    simp [withRows, hpath, hrows, Except.map] at hcargo
  cases h with
  | settings hrefused => simp [hsettings] at hrefused
  | table hrefused => simp [htable] at hrefused
  | schema hpath hrefused => simp [hpath, hrefused, Except.map] at hschema
  | rows hpath hrefused => exact hread _ hpath _ hrefused
  | line hpath hoctets hline hrefused =>
      -- wherever the line stands, the file is not read
      obtain ⟨f, hrows⟩ := RowFile.exists_read_eq_error hoctets hline hrefused
      exact hread _ hpath f hrows
  | policy hgiven hrefused =>
      rw [hsettings] at hgiven
      obtain rfl := Except.ok.inj hgiven
      simp [hpolicy] at hrefused
  | connection hgiven hhindered =>
      rw [hsettings] at hgiven
      obtain rfl := Except.ok.inj hgiven
      simp [hconnection] at hhindered

end Load

end TableFeed
