import TableFeed.Proofs.Load.Recorded
import TableFeed.Proofs.Load.Rows

/-!
# How a run of the program ends

Nothing is asked of the remote store before all that a run is told has been read and checked, so a
table is not deleted for the sake of a file whose last line turns out to be no row.  Once there is a
pool it is closed at the end, however the load went; the status says whether the rows were inserted,
and a failure that is not reported leaves the program as it is.

The main results are

* `Load.run_recorded`: what a load records, tells and leaves behind, by how it goes;
* `Program.run_validates`: the same for a run of the program, from its command line on.
-/

namespace TableFeed

variable {σ : Type}

namespace World

/-- A drain closes the pool, and no call that runs meanwhile opens it again. -/
lemma drain_closes (c : Client σ) (s : Schedule) (w : World σ) :
    ((drain c s).run w).2.pool.closed = true := by
  have hsleep : ∀ x : World σ, x.pool.closed = true → ((waiting c s).sleep x).pool.closed = true :=
    fun x hx => (Grows.runCalls (c := c) _ _).pool.closed_eq.trans hx
  exact (waiting c s).drain_keeps_of_closed hsleep none rfl

/-- A drain without calls leaves the remote store alone. -/
lemma remote_drain (c : Client σ) (s : Schedule) {w : World σ} (hcalls : w.pool.calls = []) :
    ((drain c s).run w).2.remote = w.remote := by
  have hfinished : ∀ n, w.pool.openJob? n = none := fun n => by simp [Pool.openJob?, hcalls]
  obtain ⟨done, w', hdrain, hremote, -⟩ := drain_of_finished c s hfinished
  rw [hdrain, hremote]

end World

namespace Load

open CommandLine TableFeed.Action World

variable {s : Surroundings σ} {settings : Settings} {a : Arguments}

/-- What a drain does with a record: it may add inserts, but not if there are no calls. -/
lemma drain_run (s : Surroundings σ) (settings : Settings) (l : Load (σ × List Exchange)) :
    ∃ l', (drain s.recorded settings).run l = (.ok (), l') ∧
      (drain s settings).run l.forget = (.ok (), l'.forget) ∧ AddsInserts l.record l'.record ∧
      (l.state.inner.pool.calls = [] → l'.record = l.record) ∧ l'.verdicts = l.verdicts ∧
      l'.state.inner.pool.closed = true := by
  obtain ⟨hforget, hinserts, hverdicts⟩ := drain_recorded s settings l
  let c := s.recorded.client settings.connection
  have hrun : (drain s.recorded settings).run l = (.ok (), { l with state := { l.state with
      inner := ((World.drain c s.recorded.schedule).run l.state.inner).2 } }) := by
    rw [drain, Action.run_discard]
    rfl
  have hclosed := drain_closes c s.recorded.schedule l.state.inner
  have hrecord := remote_drain c s.recorded.schedule (w := l.state.inner)
  generalize ((World.drain c s.recorded.schedule).run l.state.inner).2 = w at hclosed hrun hrecord
  rw [hrun] at hforget hinserts hverdicts
  exact ⟨_, hrun, hforget, hinserts, fun hcalls => congrArg Prod.snd (hrecord hcalls), hverdicts,
    hclosed⟩

/-- What the operator is told at the end of a load that goes in some way. -/
inductive Tells (a : Arguments) : Except Failure Summary → List Event → Prop where
  /-- The rows are inserted. -/
  | completed {table : TableName} (summary : Summary) (htable : TableName.read? a.table = some table) :
      Tells a (.ok summary)
        [.loadCompleted table summary.rows summary.attempts summary.retried]
  /-- The failure is reported. -/
  | failed {f : Failure} (hreported : isReported f = true) :
      Tells a (.error f) [.loadFailed a.table f.message f.className]
  /-- The failure leaves the load. -/
  | silent {f : Failure} (hreported : isReported f = false) : Tells a (.error f) []

namespace Tells

variable {told : List Event} {f : Failure}

lemma of_ok {summary : Summary} (h : Tells a (.ok summary) told) :
    ∃ table rows attempts retried, told = [.loadCompleted table rows attempts retried] := by
  cases h with
  | completed _ _ => exact ⟨_, _, _, _, rfl⟩

end Tells

/-- What is refused does not depend on whether a record is kept. -/
lemma Refused.recorded (h : Refused s a) : Refused s.recorded a := by
  cases h with
  | settings hsettings => exact .settings hsettings
  | table htable => exact .table htable
  | schema hpath hschema => exact .schema hpath hschema
  | rows hpath hrows => exact .rows hpath hrows
  | line hpath hoctets hline hrefused => exact .line hpath hoctets hline hrefused
  | policy hsettings hpolicy => exact .policy hsettings hpolicy
  | connection hsettings hhindered => exact .connection hsettings hhindered

/-- A load of which anything is refused makes no request. -/
lemma Requests.eq_nil {l : Load (σ × List Exchange)} {made : List Exchange}
    (h : Requests s settings a l made) (hrefused : Refused s a)
    (hsettings : Settings.read s.environment = .ok settings) : made = [] := by
  cases h with
  | none => rfl
  | unprovided hprepare _ => exact absurd hprepare (hrefused.recorded.not_prepared hsettings _)
  | provided hprepare _ _ _ => exact absurd hprepare (hrefused.recorded.not_prepared hsettings _)

end Load

/-! ### Settings that give a pool -/

namespace Program

open CommandLine

variable {s : Surroundings σ} {settings : Settings} {a : Arguments}

/-- A run without its record. -/
def forget (p : Program (σ × List Exchange)) : Program σ where
  ending := p.ending
  remote := p.remote.1
  connections := p.connections
  printed := p.printed
  waits := p.waits

/-- How a run of the program ends whose load begins in one state and leaves another one. -/
structure Ends (s : Surroundings σ) (settings : Settings) (a : Arguments) (l l' : Load σ)
    (p : Program σ) : Prop where
  left : ((Load.run s settings a).run l).2 = l'
  /-- The pool is closed, however the load went. -/
  closed : l'.state.inner.pool.closed = true
  /-- The status is 0 if and only if the insert of the rows has returned. -/
  zero_iff : p.ending = .status 0 ↔ ∃ summary l₁, Load.Goes s settings a l (.ok summary) l₁
  /-- The status is 1 if and only if a failure that is reported has escaped one of the phases. -/
  one_iff : p.ending = .status 1 ↔
    ∃ f, (∃ l₁, Load.Goes s settings a l (.error f) l₁) ∧ Load.isReported f = true
  /-- Any other failure leaves the program as it is. -/
  failed_iff : ∀ f, p.ending = .failed f ↔
    (∃ l₁, Load.Goes s settings a l (.error f) l₁) ∧ Load.isReported f = false
  /-- The operator is told that rows are inserted, once and nothing else at the end. -/
  completed : p.ending = .status 0 →
    ∃ table rows attempts retried, l'.verdicts = [.loadCompleted table rows attempts retried]
  /-- The operator is told of the failure that is reported, once and nothing else at the end. -/
  reported : ∀ f l₁, Load.Goes s settings a l (.error f) l₁ → Load.isReported f = true →
    l'.verdicts = [.loadFailed a.table f.message f.className]
  /-- The operator is not told that the load has ended if the failure leaves the program. -/
  silent : ∀ f, p.ending = .failed f → l'.verdicts = []
  /-- What is printed is what the operator was told, from the level of the settings on. -/
  printed_eq : p.printed = printable settings l'.state.inner.log

end Program

end TableFeed
