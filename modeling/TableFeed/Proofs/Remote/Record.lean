import Mathlib
import TableFeed.Insert.World

/-!
# A record of requests

Of what an operation does to a remote store, nothing is known but the requests that it makes.
`Client.recorded` is a client that keeps a record of the requests that are made of it and of their
answers.  `World.Makes` says of an operation that the record changes nothing, and what the record
shows; the rules for it follow the ways in which operations are made up.
-/

namespace TableFeed

/-- A request that was made of a remote store, with its answer. -/
inductive Exchange where
  /-- A batch was inserted. -/
  | insert (table : TableName) (b : Batch) (answer : Except Failure (Option (List Rejection)))
  /-- A table was fetched. -/
  | get (table : TableName) (answer : Except Failure Table)
  /-- A table was deleted. -/
  | delete (table : TableName) (answer : Except Failure Unit)
  /-- A table was created. -/
  | create (table : TableName) (schema : Option Schema) (answer : Except Failure Table)
  /-- The first row of a table was fetched. -/
  | first (table : TableName) (answer : Except Failure (Option Row))

namespace Exchange

/-- What a request asks for. -/
inductive Kind where
  | insert
  | get
  | delete
  | create
  | first
deriving DecidableEq, Repr

/-- What was asked for. -/
def kind : Exchange → Kind
  | insert _ _ _ => .insert
  | get _ _ => .get
  | delete _ _ => .delete
  | create _ _ _ => .create
  | first _ _ => .first

/-- The table of a request. -/
def table : Exchange → TableName
  | insert t _ _ => t
  | get t _ => t
  | delete t _ => t
  | create t _ _ => t
  | first t _ => t

/-- A request was answered by a failure. -/
inductive FailsWith (f : Failure) : Exchange → Prop where
  | insert (t : TableName) (b : Batch) : FailsWith f (.insert t b (.error f))
  | get (t : TableName) : FailsWith f (.get t (.error f))
  | delete (t : TableName) : FailsWith f (.delete t (.error f))
  | create (t : TableName) (schema : Option Schema) : FailsWith f (.create t schema (.error f))
  | first (t : TableName) : FailsWith f (.first t (.error f))

end Exchange

variable {σ α β : Type}

/-- A request that goes into the record. -/
def recording (e : Except Failure α → Exchange) (x : Action σ α) :
    Action (σ × List Exchange) α := fun w =>
  ((x.run w.1).1, (x.run w.1).2, w.2 ++ [e (x.run w.1).1])

/-- A client that keeps a record of the requests that are made of it. -/
def Client.recorded (c : Client σ) : Client (σ × List Exchange) where
  insert table b := recording (.insert table b) (c.insert table b)
  get table := recording (.get table) (c.get table)
  delete table := recording (.delete table) (c.delete table)
  create table schema := recording (.create table schema) (c.create table schema)
  first table := recording (.first table) (c.first table)
  announces := c.announces

namespace World

/-- A state without its record. -/
def forget (w : World (σ × List Exchange)) : World σ := { w with remote := w.remote.1 }

/-- An action does what another one does on the state without the record.  It adds requests to the
record, which are as told, and so is its ending. -/
def Makes (x : Action (World (σ × List Exchange)) α) (y : Action (World σ) α)
    (Q : List Exchange → Except Failure α → Prop) : Prop :=
  ∀ w, y.run w.forget = ((x.run w).1, (x.run w).2.forget) ∧
    ∃ made, (x.run w).2.remote.2 = w.remote.2 ++ made ∧ Q made (x.run w).1

namespace Makes

variable {x : Action (World (σ × List Exchange)) α} {y : Action (World σ) α}
  {f : α → Action (World (σ × List Exchange)) β} {g : α → Action (World σ) β}
  {Q : List Exchange → Except Failure α → Prop} {R : List Exchange → Except Failure β → Prop}

lemma imp {Q' : List Exchange → Except Failure α → Prop} (h : Makes x y Q)
    (hQ : ∀ made r, Q made r → Q' made r) : Makes x y Q' := by
  intro w
  obtain ⟨hsame, made, hmade, hr⟩ := h w
  exact ⟨hsame, made, hmade, hQ _ _ hr⟩

lemma answer {r : Except Failure α} (h : Q [] r) :
    Makes (Action.answer r : Action (World (σ × List Exchange)) α) (Action.answer r) Q :=
  fun w => ⟨rfl, [], by simp, h⟩

lemma remotely (e : Except Failure α → Exchange) (z : Action σ α) :
    Makes (remotely (recording e z)) (remotely z) fun made r => made = [e r] :=
  fun w => ⟨rfl, [e (z.run w.remote.1).1], rfl, rfl⟩

lemma outcome (h : Makes x y Q) :
    Makes x.outcome y.outcome fun made r => ∃ a, r = .ok a ∧ Q made a := by
  intro w
  obtain ⟨hsame, made, hmade, hQ⟩ := h w
  exact ⟨by simp [hsame], made, hmade, _, rfl, hQ⟩

/-- Two actions, one after the other: the requests of both are made. -/
lemma bind (hx : Makes x y Q)
    (herror : ∀ made e, Q made (.error e) → R made (.error e))
    (hok : ∀ made a, Q made (.ok a) → Makes (f a) (g a) fun made' r => R (made ++ made') r) :
    Makes (x >>= f) (y >>= g) R := by
  intro w
  obtain ⟨hsame, made, hmade, hQ⟩ := hx w
  rcases hrun : x.run w with ⟨e | a, w'⟩
  · rw [hrun] at hsame hmade hQ
    rw [Action.run_bind_of_error hrun, Action.run_bind_of_error hsame]
    exact ⟨rfl, made, hmade, herror made e hQ⟩
  · rw [hrun] at hsame hmade hQ
    rw [Action.run_bind_of_ok hrun, Action.run_bind_of_ok hsame]
    obtain ⟨hsame', made', hmade', hR⟩ := hok made a hQ w'
    exact ⟨hsame', made ++ made', by rw [hmade', hmade, List.append_assoc], hR⟩

/-- What is known already needs no request. -/
lemma after_answer {r : Except Failure α} {a : α} (hr : r = .ok a) (h : Makes (f a) (g a) R) :
    Makes (Action.answer r >>= f) (Action.answer r >>= g) R := by
  subst hr
  exact h

lemma of_failure {r : Except Failure α} {e : Failure} (hr : r = .error e) (h : R [] (.error e)) :
    Makes (Action.answer r >>= f) (Action.answer r >>= g) R := by
  subst hr
  exact answer h

/-- The operator is told without any request. -/
lemma after_note {e : Event} {f : Unit → Action (World (σ × List Exchange)) β}
    {g : Unit → Action (World σ) β} (h : Makes (f ()) (g ()) R) : Makes (note e >>= f) (note e >>= g) R :=
  fun w => h (Logged.note e w)

end Makes

end World

end TableFeed
