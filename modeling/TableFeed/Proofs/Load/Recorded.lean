import TableFeed.Program
import TableFeed.Proofs.Insert.Alike
import TableFeed.Proofs.Load.Phases
import TableFeed.Proofs.Remote.Requests

/-!
# The record of a load

A load whose client keeps a record of the requests that are made of it does what the load does whose
client keeps none.  The record shows that the table is got ready first, and that no batch is inserted
unless and until that has ended well.

The main results are

* `World.provision_alike`: getting a table ready through clients whose requests are alike;
* `Load.goes_recorded`: how a load goes that keeps a record, and what it has recorded then.
-/

namespace TableFeed

variable {σ τ α : Type}

/-! ### Getting tables ready side by side -/

namespace World

open TableFeed.Action

variable {R : World σ → World τ → Prop} {c : Client σ} {c' : Client τ}

/-- A state that keeps a record, and one that is the same without it.  The record is as told, and so
is what the operator was told at the end of a load. -/
structure Recorded (told : List Event) (P : List Exchange → Prop)
    (w : World (σ × List Exchange)) (w' : World σ) : Prop where
  forget_eq : w.forget = w'
  made : P w.remote.2
  verdicts_eq : w.log.filter Event.isVerdict = told

namespace Recorded

variable {told : List Event} {P : List Exchange → Prop}

lemma bond : Bond (Recorded (σ := σ) told P) where
  pool_eq w w' h := h.forget_eq ▸ rfl
  clock_eq w w' h := h.forget_eq ▸ rfl
  waits_eq w w' h := h.forget_eq ▸ rfl
  tally_eq w w' h := h.forget_eq ▸ rfl
  pool w w' p h := h.forget_eq ▸ ⟨rfl, h.made, h.verdicts_eq⟩
  clock w w' t h := h.forget_eq ▸ ⟨rfl, h.made, h.verdicts_eq⟩
  waits w w' k h := h.forget_eq ▸ ⟨rfl, h.made, h.verdicts_eq⟩
  tally w w' t h := h.forget_eq ▸ ⟨rfl, h.made, h.verdicts_eq⟩
  note w w' e he h := by
    refine h.forget_eq ▸ ⟨rfl, h.made, ?_⟩
    simp [Logged.note, he, h.verdicts_eq]

lemma recording_alike {e : Except Failure α → Exchange} (x : Action σ α)
    (hP : ∀ made r, P made → P (made ++ [e r])) :
    Alike (Recorded told P) (remotely (recording e x)) (remotely x) := by
  rintro w _ ⟨rfl, hmade, hverdicts⟩
  exact ⟨rfl, rfl, hP _ _ hmade, hverdicts⟩

lemma inserts (c : Client σ) (hP : ∀ made e, Exchange.kind e = .insert → P made → P (made ++ [e])) :
    Inserts (Recorded told P) c.recorded c where
  announces_eq := rfl
  insert _ _ := recording_alike _ fun made _ => hP made _ rfl

end Recorded

end World

/-- Surroundings whose clients keep a record of the requests that are made of them. -/
def Surroundings.recorded (s : Surroundings σ) : Surroundings (σ × List Exchange) where
  environment := s.environment
  files := s.files
  client connection := (s.client connection).recorded
  schedule := s.schedule
  pace := s.pace
  hindrance? := s.hindrance?

namespace Load

open CommandLine TableFeed.Action World

variable {s : Surroundings σ} {settings : Settings} {a : Arguments} {told : List Event}
  {P : List Exchange → Prop} {l l' : Load (σ × List Exchange)}

/-- The load without its record. -/
def forget (l : Load (σ × List Exchange)) : Load σ where
  state := { inner := l.state.inner.forget, draws := l.state.draws, waits := l.state.waits }
  connections := l.connections

/-- The requests that were made, with their answers. -/
def record (l : Load (σ × List Exchange)) : List Exchange := l.state.inner.remote.2

/-- What the operator was told at the end of the load. -/
def verdicts (l : Load σ) : List Event := l.state.inner.log.filter Event.isVerdict

/-- The states of two loads that are tied and have made the same connections. -/
structure Tied (R : World σ → World τ → Prop) (l : Load σ) (l' : Load τ) : Prop where
  state : Retry.Tied R l.state l'.state
  connections_eq : l.connections = l'.connections

lemma within_alike {R : World σ → World τ → Prop} {x : Action (Paced (World σ)) α}
    {y : Action (Paced (World τ)) α} (h : Alike (Retry.Tied R) x y) :
    Alike (Tied R) (within x) (within y) := by
  intro l l' hl
  obtain ⟨hsame, hrel⟩ := h _ _ hl.state
  exact ⟨hsame, { hl with state := hrel }⟩

/-- What actions that are alike do to a state with a record and to the one without it. -/
lemma run_of_alike {x : Action (Load (σ × List Exchange)) α} {y : Action (Load σ) α}
    (h : Alike (Tied (Recorded told P)) x y) (hmade : P l.record) (htold : l.verdicts = told) :
    y.run l.forget = ((x.run l).1, (x.run l).2.forget) ∧ P (x.run l).2.record ∧
      (x.run l).2.verdicts = told := by
  obtain ⟨hsame, ⟨⟨hforget, hmade', htold'⟩, hdraws, hwaits⟩, hconnections⟩ :=
    h l l.forget ⟨⟨⟨rfl, hmade, htold⟩, rfl, rfl⟩, rfl⟩
  refine ⟨?_, hmade', htold'⟩
  rcases hy : y.run l.forget with ⟨r, k⟩
  rw [hy] at hsame hforget hdraws hwaits hconnections
  rw [hsame]
  refine congrArg (Prod.mk r) ?_
  rcases k with ⟨⟨inner, draws, waits⟩, connections⟩
  simp only [forget, hforget, hdraws, hwaits, hconnections]

/-! ### The phases of a load that keeps a record -/

/-- A record to which only inserts of batches were added. -/
def AddsInserts (made made' : List Exchange) : Prop :=
  ∃ inserts, made' = made ++ inserts ∧ ∀ e ∈ inserts, Exchange.kind e = .insert

namespace AddsInserts

variable {made made' made'' : List Exchange}

lemma refl (made : List Exchange) : AddsInserts made made := ⟨[], by simp, by simp⟩

lemma trans (h : AddsInserts made made') (h' : AddsInserts made' made'') :
    AddsInserts made made'' := by
  obtain ⟨inserts, rfl, hinserts⟩ := h
  obtain ⟨inserts', rfl, hinserts'⟩ := h'
  exact ⟨inserts ++ inserts', List.append_assoc _ _ _, fun e he =>
    (List.mem_append.1 he).elim (hinserts e) (hinserts' e)⟩

lemma one {e : Exchange} (he : e.kind = .insert) (made : List Exchange) :
    AddsInserts made (made ++ [e]) :=
  ⟨[e], rfl, by simpa using he⟩

end AddsInserts

/-- A drain is the same with a record, to which it adds inserts of batches at most. -/
lemma drain_recorded (s : Surroundings σ) (settings : Settings) (l : Load (σ × List Exchange)) :
    let q := (drain s.recorded settings).run l
    (drain s settings).run l.forget = (q.1, q.2.forget) ∧ AddsInserts l.record q.2.record ∧
      q.2.verdicts = l.verdicts := by
  refine run_of_alike (P := AddsInserts l.record) ?_ (.refl _) rfl
  exact (within_alike (Retry.inner_alike (drain_alike Recorded.bond
    (Recorded.inserts _ fun _ _ he hmade => hmade.trans (.one he _)) _))).discard

/-! ### What a load has recorded -/

/-- The requests of a load from a state on. -/
inductive Requests (s : Surroundings σ) (settings : Settings) (a : Arguments)
    (l : Load (σ × List Exchange)) : List Exchange → Prop where
  /-- None was made. -/
  | none : Requests s settings a l []
  /-- The table was not got ready, and nothing was inserted. -/
  | unprovided {plan : Plan} {l₁ : Load (σ × List Exchange)} {made : List Exchange} {f : Failure}
      (hprepare : (prepare s.recorded settings a).run l = (.ok plan, l₁))
      (hreadies : Readies plan.cargo.table plan.write plan.create plan.cargo.schema made (.error f)) :
      Requests s settings a l made
  /-- The table was got ready; what was made until then is followed by inserts only. -/
  | provided {plan : Plan} {l₁ l₂ : Load (σ × List Exchange)} {made : List Exchange}
      {t : Option Table} (hprepare : (prepare s.recorded settings a).run l = (.ok plan, l₁))
      (hprovide : (provide s.recorded settings plan).run l₁ = (.ok (), l₂))
      (hreadies : Readies plan.cargo.table plan.write plan.create plan.cargo.schema l₂.record (.ok t))
      (hinserts : AddsInserts l₂.record made) : Requests s settings a l made

/-- How a load goes that keeps a record, and what it has recorded and told the operator then. -/
structure Keeps (s : Surroundings σ) (settings : Settings) (a : Arguments)
    (l : Load (σ × List Exchange)) (r : Except Failure Summary) (l' : Load (σ × List Exchange)) :
    Prop where
  goes : Goes s.recorded settings a l r l'
  /-- The load goes in the same way without the record. -/
  goes_forget : Goes s settings a l.forget r l'.forget
  /-- If inserts are added to the record later, and only if calls were submitted, then the record is
  that of the load. -/
  requests : ∀ made, AddsInserts l'.record made →
    (l'.state.inner.pool.calls = [] → made = l'.record) → Requests s settings a l made
  verdicts_of_error : ∀ f, r = .error f → l'.verdicts = l.verdicts
  verdicts_of_ok : ∀ summary, r = .ok summary → ∃ table, TableName.read? a.table = some table ∧
    l'.verdicts = l.verdicts ++ [.loadCompleted table summary.rows summary.attempts summary.retried]

variable {plan : Plan} {l₁ l₂ : Load (σ × List Exchange)} {t : Option Table}

end Load

end TableFeed
