import Convergence.Poll.Await
import Convergence.Proofs.Poll.Endings
import Convergence.Proofs.Results
import Mathlib.Order.Monotone.Basic

/-! What a wait makes of its run. Every kind of outcome comes of the ending of that name
and of no other, and repeats what the plan and the report say. What an outcome says about
the number of attempts was fixed by the run: only a run with all its attempts runs out, and
one that is cancelled always has an attempt left. -/
namespace Convergence

variable {Q : Type} {A : Q → Type} {σ α β : Type}

def Failure.isAborted : Failure → Bool
  | aborted .. => true
  | _ => false

/-- The attempts that were made, whatever came of them. -/
def attemptsOf : Except Failure (Completion α) → Nat
  | .ok c => c.attempts
  | .error f => f.attempts

/-! ### Outcomes of reports -/

namespace Report

variable {r : Report α} {plan : Plan}

theorem outcome_eq_ok {c : Completion α} :
    r.outcome plan = .ok c ↔
      r.ending = .converged c.value ∧ c.attempts = r.attempts ∧ c.elapsed = r.elapsed := by
  obtain ⟨value, attempts, elapsed⟩ := c
  unfold outcome
  cases r.ending <;> simp [eq_comm]

theorem outcome_eq_timedOut {description : String} {maxAttempts attempts : Nat}
    {interval elapsed : Duration} {lastNote : Option String} :
    r.outcome plan =
        .error (.timedOut description maxAttempts interval attempts elapsed lastNote) ↔
      r.ending = .timedOut ∧ description = plan.description ∧ maxAttempts = plan.maxAttempts ∧
        interval = plan.interval ∧ attempts = r.attempts ∧ elapsed = r.elapsed ∧
        lastNote = r.lastNote := by
  unfold outcome
  cases r.ending <;> simp [eq_comm]

theorem outcome_eq_aborted {description cause : String} {attempts : Nat} {elapsed : Duration} :
    r.outcome plan = .error (.aborted description cause attempts elapsed) ↔
      description = plan.description ∧ r.ending = .aborted cause ∧ attempts = r.attempts ∧
        elapsed = r.elapsed := by
  unfold outcome
  cases r.ending <;> simp [eq_comm]

theorem outcome_eq_cancelled {description : String} {attempts : Nat} {elapsed : Duration} :
    r.outcome plan = .error (.cancelled description attempts elapsed) ↔
      r.ending = .cancelled ∧ description = plan.description ∧ attempts = r.attempts ∧
        elapsed = r.elapsed := by
  unfold outcome
  cases r.ending <;> simp [eq_comm]

theorem outcome_ne_misconfigured (r : Report α) (plan : Plan) (error : PlanError) :
    r.outcome plan ≠ .error (.misconfigured error) := by
  unfold outcome
  cases r.ending <;> nofun

theorem attemptsOf_outcome (r : Report α) (plan : Plan) :
    attemptsOf (r.outcome plan) = r.attempts := by
  unfold outcome
  cases r.ending <;> rfl

/-- The outcome repeats the report, word for word: each kind of outcome comes of the ending
of that name, and of no other. -/
structure RepeatedBy (r : Report α) (plan : Plan) (outcome : Except Failure (Completion α)) :
    Prop where
  ok : ∀ c, outcome = .ok c ↔
    r.ending = .converged c.value ∧ c.attempts = r.attempts ∧ c.elapsed = r.elapsed
  timedOut : ∀ description maxAttempts interval attempts elapsed lastNote,
    outcome = .error (.timedOut description maxAttempts interval attempts elapsed lastNote) ↔
      r.ending = .timedOut ∧ description = plan.description ∧ maxAttempts = plan.maxAttempts ∧
        interval = plan.interval ∧ attempts = r.attempts ∧ elapsed = r.elapsed ∧
        lastNote = r.lastNote
  aborted : ∀ description cause attempts elapsed,
    outcome = .error (.aborted description cause attempts elapsed) ↔
      description = plan.description ∧ r.ending = .aborted cause ∧ attempts = r.attempts ∧
        elapsed = r.elapsed
  cancelled : ∀ description attempts elapsed,
    outcome = .error (.cancelled description attempts elapsed) ↔
      r.ending = .cancelled ∧ description = plan.description ∧ attempts = r.attempts ∧
        elapsed = r.elapsed
  planned : ∀ error, outcome ≠ .error (.misconfigured error)

theorem repeatedBy_outcome (r : Report α) (plan : Plan) :
    r.RepeatedBy plan (r.outcome plan) where
  ok _ := outcome_eq_ok
  timedOut _ _ _ _ _ _ := outcome_eq_timedOut
  aborted _ _ _ _ := outcome_eq_aborted
  cancelled _ _ _ := outcome_eq_cancelled
  planned := r.outcome_ne_misconfigured plan

end Report

/-! ### What a run has spent -/

/-- What a poll can have spent that ends like this. Only a poll that is cancelled may have
made no attempt, and it has always one left. -/
def Ending.Costs (maxAttempts attempts : Nat) : Ending α → Prop
  | converged _ => 1 ≤ attempts ∧ attempts ≤ maxAttempts
  | aborted _ => 1 ≤ attempts ∧ attempts ≤ maxAttempts
  | timedOut => attempts = maxAttempts
  | cancelled => attempts < maxAttempts

theorem Job.run_costs (j : Job Q A α) (e : Setting Q A σ) (s : Scene σ) :
    (j.run e s).result.ending.Costs j.plan.maxAttempts (j.run e s).result.attempts := by
  rcases j.endsWith_or_cutBefore e s with ⟨n, h⟩ | ⟨n, h⟩
  · have hlast := h.last
    rw [h.result]
    cases hfinding : j.findingAt e s n with
    | pending note =>
      rw [hfinding] at hlast
      exact hlast.resolve_right nofun
    | met value => exact ⟨Nat.succ_pos n, h.within⟩
    | fatal cause => exact ⟨Nat.succ_pos n, h.within⟩
  · rw [h.result]
    exact h.within

/-- What an outcome tells by itself about the attempts of a wait with this plan. -/
structure Plan.Accounts (plan : Plan) (outcome : Except Failure (Completion α)) : Prop where
  ok : ∀ c, outcome = .ok c → 1 ≤ c.attempts ∧ c.attempts ≤ plan.maxAttempts
  aborted : ∀ f, outcome = .error f → f.isAborted = true →
    1 ≤ f.attempts ∧ f.attempts ≤ plan.maxAttempts
  timedOut : ∀ f, outcome = .error f → f.isTimeout = true → f.attempts = plan.maxAttempts
  cancelled : ∀ f, outcome = .error f → f.isCancelled = true → f.attempts < plan.maxAttempts
  kind : ∀ f, outcome = .error f → [f.isTimeout, f.isCancelled, f.isAborted].count true = 1

theorem Report.accounts_outcome {r : Report α} {plan : Plan}
    (h : r.ending.Costs plan.maxAttempts r.attempts) : plan.Accounts (r.outcome plan) where
  ok c hc := by
    obtain ⟨hending, hattempts, -⟩ := outcome_eq_ok.mp hc
    rw [hending] at h
    rw [hattempts]
    exact h
  aborted f hf hkind := by
    cases f with
    | aborted description cause attempts elapsed =>
      obtain ⟨-, hending, rfl, -⟩ := outcome_eq_aborted.mp hf
      rw [hending] at h
      exact h
    | _ => cases hkind
  timedOut f hf hkind := by
    cases f with
    | timedOut description maxAttempts interval attempts elapsed lastNote =>
      obtain ⟨hending, -, -, -, rfl, -⟩ := outcome_eq_timedOut.mp hf
      rw [hending] at h
      exact h
    | _ => cases hkind
  cancelled f hf hkind := by
    cases f with
    | cancelled description attempts elapsed =>
      obtain ⟨hending, -, rfl, -⟩ := outcome_eq_cancelled.mp hf
      rw [hending] at h
      exact h
    | _ => cases hkind
  kind f hf := by
    cases f with
    | misconfigured error => exact absurd hf (r.outcome_ne_misconfigured plan error)
    | _ => rfl

/-! ### How often the check was called -/

namespace Check

theorem reads_callAt_ne_nil (c : Check Q A α) (source : Source Q A σ) (state : σ) (i : Nat) :
    (c.callAt source state i).reads ≠ [] := by
  unfold callAt call
  dsimp only
  split <;> exact List.cons_ne_nil _ _

end Check

namespace Job

variable (j : Job Q A α) (e : Setting Q A σ) (s : Scene σ)

/-- The check was called `n` times in the passage: its reads are those of the first `n`
calls, each when it is due, and the source is as these calls leave it. -/
structure Called (p : Passage Q σ β) (n : Nat) : Prop where
  reads : Event.reads p.events = (List.range n).flatMap fun i =>
    (j.check.callAt e.source s.source i).reads.map fun read =>
      (read.1, j.startAt e.source s.source s.now i + read.2)
  source : p.scene.source = j.check.sourceAfter e.source s.source n

theorem cutAt_source (n : Nat) :
    (j.cutAt e s n).source = j.check.sourceAfter e.source s.source n := by
  cases n with
  | zero => rfl
  | succ n =>
    have hcut : ∀ t : Scene σ, (j.cutScene e t).source = t.source := by
      intro t
      unfold cutScene
      split <;> rfl
    rw [cutAt, hcut, ← sceneAt_source, sceneAt, rested_source]

theorem run_source :
    (j.run e s).scene.source =
      j.check.sourceAfter e.source s.source (j.run e s).result.attempts := by
  rcases j.endsWith_or_cutBefore e s with ⟨n, h⟩ | ⟨n, h⟩
  · rw [h.result, h.run, ← sceneAt_source, sceneAt, rested_source]
    rfl
  · rw [h.result, h.run]
    exact j.cutAt_source e s n

variable {j e s}

/-- The number of calls can be told from the reads, since every call makes one at least. -/
theorem Called.unique {p : Passage Q σ β} {m n : Nat} (hm : j.Called e s p m)
    (hn : j.Called e s p n) : m = n := by
  let asks := fun i => (j.check.callAt e.source s.source i).reads.map fun read =>
    (read.1, j.startAt e.source s.source s.now i + read.2)
  have hmono : StrictMono fun n => ((List.range n).flatMap asks).length := by
    refine strictMono_nat_of_lt_succ fun n => ?_
    have hpos : 0 < (asks n).length := by
      rw [List.length_map]
      exact List.length_pos_of_ne_nil (j.check.reads_callAt_ne_nil e.source s.source n)
    rw [List.range_succ, List.flatMap_append, List.flatMap_singleton, List.length_append]
    omega
  exact hmono.injective (congrArg List.length (hm.reads.symm.trans hn.reads))

theorem called_iff {p : Passage Q σ β} (hevents : p.events = (j.run e s).events)
    (hscene : p.scene = (j.run e s).scene) (n : Nat) :
    j.Called e s p n ↔ n = (j.run e s).result.attempts := by
  have hcalled : j.Called e s p (j.run e s).result.attempts :=
    { reads := hevents ▸ j.reads_run e s
      source := hscene ▸ j.run_source e s }
  constructor
  · intro h
    exact h.unique hcalled
  · rintro rfl
    exact hcalled

end Job

/-! ### Waits -/

namespace Waiter

variable {w : Waiter} {plan : Plan}

theorem wait_of_plan (hplan : w.plan = .ok plan) (check : Check Q A α) (e : Setting Q A σ)
    (s : Scene σ) :
    w.wait check e s =
      ((w.scheduler.job 0 check plan).run e s).map (·.outcome plan) := by
  unfold wait job
  rw [hplan]
  rfl

/-- A wait that has a plan is a run of it, and its outcome repeats the report of the run. So
the outcome alone tells how often the check was called, and whether attempts were left. -/
theorem wait_repeats_run (hplan : w.plan = .ok plan) (check : Check Q A α) (e : Setting Q A σ)
    (s : Scene σ) :
    let j := w.scheduler.job 0 check plan
    let wait := w.wait check e s
    wait.scene = (j.run e s).scene ∧ wait.events = (j.run e s).events ∧
      (j.run e s).result.RepeatedBy plan wait.result ∧
      plan.Accounts wait.result ∧
      ∀ n, j.Called e s wait n ↔ n = attemptsOf wait.result := by
  intro j wait
  have hwait : wait = (j.run e s).map (·.outcome plan) := wait_of_plan hplan check e s
  have hresult : wait.result = (j.run e s).result.outcome plan := congrArg Passage.result hwait
  refine ⟨congrArg Passage.scene hwait, congrArg Passage.events hwait, ?_, ?_, ?_⟩
  · rw [hresult]
    exact Report.repeatedBy_outcome _ plan
  · rw [hresult]
    exact Report.accounts_outcome (j.run_costs e s)
  · rw [hresult, Report.attemptsOf_outcome]
    exact Job.called_iff (congrArg Passage.events hwait) (congrArg Passage.scene hwait)

end Waiter

/-- A wait of three attempts whose token is cancelled in the sleep after the second. -/
theorem wait_repeats_run_rehearsal :
    let w : Waiter :=
      { description := "rehearsal"
        cadence := { interval := .ofSecs 1, limit := .attempts 3 }
        scheduler := { cancellable := true, observed := false } }
    let e : Setting Nat (fun _ => Finding Nat) (Tally Nat) :=
      { source := rehearsed, trigger := { Trigger.never with time := some 1500 } }
    let wait := w.wait (.told 0) e (e.opening [])
    w.plan = .ok (rehearsal 0).plan ∧
      wait.result = .error (.cancelled "rehearsal" 2 (.ofMillis 1500)) ∧
      (w.scheduler.job 0 (.told 0) (rehearsal 0).plan).Called e (e.opening []) wait 2 := by
  intro w e wait
  have hplan : w.plan = .ok (rehearsal 0).plan := rfl
  have hresult : wait.result = .error (.cancelled "rehearsal" 2 (.ofMillis 1500)) := by decide
  obtain ⟨-, -, -, -, hcalled⟩ := Waiter.wait_repeats_run hplan (.told 0) e (e.opening [])
  refine ⟨hplan, hresult, (hcalled 2).mpr ?_⟩
  rw [hresult]
  rfl

end Convergence
