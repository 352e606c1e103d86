import Convergence.Poll.Await
import Convergence.Poll.Script
import Convergence.Probe.Request
import Convergence.Proofs.Plans
import Convergence.Proofs.Poll.Endings
import Convergence.Proofs.Timeouts

/-! The loop of a poll as a machine counts it: up from zero in a word of 32 bits, until the
word is not below that of the plan. A plan never has zero attempts and none that has no word,
whichever way it was made. So the count is always that of the laps, it has room for one more,
and the loop is over when it has gone round as often as the plan says. -/
namespace Convergence

namespace Plan

variable {p : Plan}

/-- One can be taken from the word of a plan. -/
theorem word_pred : (p.word - 1).toNat + 1 = p.maxAttempts := by
  have hpos := p.maxAttempts_pos
  have hle : 1 ≤ p.word := by
    rw [UInt32.le_iff_toNat_le, word_toNat]
    exact hpos
  rw [UInt32.toNat_sub_of_le _ _ hle, word_toNat]
  exact Nat.sub_add_cancel hpos

/-- The ways to a plan, each from what it is asked for. -/
inductive MadeOf : Cadence → Plan → Prop
  | attempts {description : String} {interval : Duration} {n : UInt32} {p : Plan} :
    ofAttempts description interval n = .ok p → MadeOf { interval, limit := .attempts n } p
  | timeout {description : String} {timeout interval : Duration} {p : Plan} :
    ofTimeout description timeout interval = .ok p →
    MadeOf { interval, limit := .within timeout } p
  | limit {description : String} {interval : Duration} {limit : Limit} {p : Plan} :
    ofLimit description interval limit = .ok p → MadeOf { interval, limit } p
  | unnamed {interval : Duration} {n : UInt32} {p : Plan} :
    Scheduler.unnamedPlan interval n = .ok p → MadeOf { interval, limit := .attempts n } p
  | profile {profile : Profile} {description : String} {p : Plan} :
    profile.plan description = .ok p → MadeOf profile.cadence p
  | waiter {w : Waiter} {p : Plan} : w.plan = .ok p → MadeOf w.cadence p
  | request {r : ProbeRequest} {ps : Profiles} {c : Cadence} {p : Plan} :
    r.cadence ps = .ok c → r.plan ps = .ok p → MadeOf c p

theorem MadeOf.plan {c : Cadence} (h : MadeOf c p) : ∃ description, c.plan description = .ok p := by
  cases h with
  | attempts h => exact ⟨_, h⟩
  | timeout h => exact ⟨_, h⟩
  | limit h => exact ⟨_, h⟩
  | unnamed h => exact ⟨_, h⟩
  | profile h => exact ⟨_, h⟩
  | waiter h => exact ⟨_, h⟩
  | @request r _ _ _ hcadence h =>
    unfold ProbeRequest.plan at h
    rw [hcadence] at h
    exact ⟨r.description, h⟩

end Plan

/-- The attempts of a timeout are cut where they would not fit their word. -/
theorem Cadence.attempts_eq (c : Cadence) :
    c.attempts = match c.limit with
      | .attempts n => n.toNat
      | .within timeout => min (timeout.nanos / c.interval.nanos + 1) 4294967295 := by
  unfold attempts
  cases c.limit with
  | attempts n => rfl
  | within timeout => exact Plan.attemptsWithin_eq timeout c.interval

namespace Job

variable {Q : Type} {A : Q → Type} {σ α : Type}
variable {j : Job Q A α} {e : Setting Q A σ} {c : Count} {s : Scene σ} {left : Nat}

/-! ### One lap -/

/-- The word that counts has room for one more as long as a tick is left. -/
theorem succ_toNat (h : c.attempts.toNat + left + 1 = j.plan.maxAttempts) :
    (c.attempts + 1).toNat = c.attempts.toNat + 1 := by
  have hlt := j.plan.maxAttempts_lt
  rw [UInt32.toNat_add, Nat.mod_eq_of_lt]
  · rfl
  · change c.attempts.toNat + 1 < _
    omega

theorem word_le_iff (h : c.attempts.toNat + left + 1 = j.plan.maxAttempts) :
    j.plan.word ≤ c.attempts + 1 ↔ left = 0 := by
  rw [UInt32.le_iff_toNat_le, Plan.word_toNat, succ_toNat h]
  omega

theorem attempt_eq (h : c.attempts.toNat + left + 1 = j.plan.maxAttempts) :
    j.attempt left = (c.attempts + 1).toNat := by
  rw [succ_toNat h]
  unfold attempt
  omega

/-- A lap in the terms of a run that knows how many ticks are left. -/
theorem lap_of_live (h : c.attempts.toNat + left + 1 = j.plan.maxAttempts)
    (hlive : j.stops e s = false) :
    j.lap e c s =
      match (j.checkOnce e s).result.ending?.or (if left = 0 then some .timedOut else none) with
      | some ending =>
        ((j.conclude (c.course.noting (j.checkOnce e s).result) ending (j.attempt left)
          (j.shown e s)).map .inl).prepend (j.tickOnce e c.course left s)
      | none =>
        if j.stops e (j.rested e s) then
          ((j.conclude (c.course.noting (j.checkOnce e s).result) .cancelled (j.attempt left)
            (j.cutScene e (j.shown e s))).map .inl).prepend (j.roundOnce e c.course left s)
        else
          { result := .inr
              { attempts := c.attempts + 1, course := c.course.noting (j.checkOnce e s).result }
            scene := j.rested e s
            events := j.roundOnce e c.course left s } := by
  have hsleep := j.sleep_shown e s
  unfold lap roundOnce tickOnce tick pendingNotice
  simp only [hlive, Bool.false_eq_true, ↓reduceIte, word_le_iff h, attempt_eq h, Plan.word_toNat]
  cases (j.checkOnce e s).result.ending?.or (if left = 0 then some .timedOut else none) with
  | some ending => rfl
  | none =>
    unfold shown at hsleep
    cases hcut : j.stops e (j.rested e s) with
    | true =>
      rw [hcut] at hsleep
      simp only [hsleep]
      rfl
    | false =>
      rw [hcut] at hsleep
      simp only [hsleep]
      rfl

/-- A lap makes one round of the run, or ends it. -/
theorem lap_spec (h : c.attempts.toNat + left + 1 = j.plan.maxAttempts) :
    j.lap e c s = (j.runFrom e left c.course s).map .inl ∨
      ∃ rest next, left = rest + 1 ∧ (j.lap e c s).result = .inr next ∧
        next.attempts = c.attempts + 1 ∧
        j.runFrom e left c.course s =
          (j.runFrom e rest next.course (j.lap e c s).scene).prepend (j.lap e c s).events := by
  cases hstops : j.stops e s with
  | true =>
    left
    have hattempt := (attempt_eq h).trans (succ_toNat h)
    rw [j.runFrom_of_stops e hstops, hattempt, Nat.add_sub_cancel]
    exact if_pos hstops
  | false =>
    by_cases hend : left = 0 ∨ (j.checkOnce e s).result.isPending = false
    · left
      have hover : (j.checkOnce e s).result.ending?.or (if left = 0 then some .timedOut else none) =
          some ((j.checkOnce e s).result.ending?.getD .timedOut) := by
        cases hending : (j.checkOnce e s).result.ending? with
        | some ending => rfl
        | none =>
          rw [Finding.ending?_eq_none] at hending
          simpa [hending] using hend
      rw [lap_of_live h hstops, hover, j.runFrom_of_decided e hstops hend]
      rfl
    · obtain ⟨hleft, hpending⟩ := not_or.mp hend
      rw [Bool.not_eq_false] at hpending
      obtain ⟨rest, rfl⟩ := Nat.exists_eq_succ_of_ne_zero hleft
      have hover : (j.checkOnce e s).result.ending?.or
          (if rest + 1 = 0 then some .timedOut else none) = none := by
        simp [(Finding.ending?_eq_none _).mpr hpending]
      cases hcut : j.stops e (j.rested e s) with
      | true =>
        left
        rw [lap_of_live h hstops, hover, j.runFrom_of_cut e hstops hpending hcut]
        simp only [hcut]
        rfl
      | false =>
        right
        rw [lap_of_live h hstops, hover]
        simp only [hcut]
        exact ⟨rest, _, rfl, rfl, rfl, j.runFrom_of_rested e hstops hpending hcut⟩

/-! ### All laps -/

/-- The loop is over after as many laps as there are ticks left, and has done what a run does. -/
theorem laps_eq_runFrom {n : Nat} (h : c.attempts.toNat + left + 1 = j.plan.maxAttempts)
    (hn : left < n) : j.laps e n c s = (j.runFrom e left c.course s).map .inl := by
  induction n generalizing c s left with
  | zero => omega
  | succ n ih =>
    obtain hover | ⟨rest, next, rfl, hnext, hcount, hrun⟩ := lap_spec (e := e) (s := s) h
    · simp only [laps, hover]
      rfl
    · have hrest : next.attempts.toNat + rest + 1 = j.plan.maxAttempts := by
        rw [hcount, succ_toNat h]
        omega
      simp only [laps, hnext]
      rw [ih hrest (by omega), hrun]
      rfl

/-- A loop that is not over has counted its laps. -/
theorem laps_count {n : Nat} {next : Count}
    (h : c.attempts.toNat + left + 1 = j.plan.maxAttempts)
    (hlaps : (j.laps e n c s).result = .inr next) :
    n ≤ left ∧ next.attempts.toNat = c.attempts.toNat + n := by
  induction n generalizing c s left with
  | zero =>
    cases hlaps
    exact ⟨Nat.zero_le _, rfl⟩
  | succ n ih =>
    obtain hover | ⟨rest, second, rfl, hsecond, hcount, -⟩ := lap_spec (e := e) (s := s) h
    · simp only [laps, hover] at hlaps
      cases hlaps
    · have hrest : second.attempts.toNat + rest + 1 = j.plan.maxAttempts := by
        rw [hcount, succ_toNat h]
        omega
      simp only [laps, hsecond, Passage.prepend_result] at hlaps
      obtain ⟨hle, htotal⟩ := ih hrest hlaps
      omega

end Job

/-- No plan can make a counter overflow or a loop run on. Whichever way a plan was made, its
interval is some time and its attempts are one at least, so one can be taken from their word.
The loop that counts in words ends with the report of the run, after so many laps at most. As
long as it goes on, its count is the number of the laps and has room for one more. -/
theorem counters_never_wrap {c : Cadence} {plan : Plan} (h : plan.MadeOf c) :
    plan.interval = c.interval ∧ 0 < c.interval.nanos ∧
      plan.maxAttempts = c.attempts ∧ 1 ≤ c.attempts ∧ c.attempts ≤ 4294967295 ∧
      (c.attempts = match c.limit with
        | .attempts n => n.toNat
        | .within timeout => min (timeout.nanos / c.interval.nanos + 1) 4294967295) ∧
      (plan.word - 1).toNat + 1 = c.attempts ∧
      plan.sleepBudget = c.interval.timesSat (plan.word - 1).toNat ∧
      ∀ {Q : Type} {A : Q → Type} {σ α : Type} (j : Job Q A α) (e : Setting Q A σ) (s : Scene σ),
        j.plan = plan →
          (∀ n, c.attempts ≤ n → j.laps e n (.opening s) s = (j.run e s).map .inl) ∧
          (∀ n count, (j.laps e n (.opening s) s).result = .inr count →
            n < c.attempts ∧ count.attempts.toNat = n ∧ (count.attempts + 1).toNat = n + 1) ∧
          (j.run e s).result.attempts ≤ c.attempts := by
  obtain ⟨description, hplan⟩ := h.plan
  obtain ⟨-, hinterval, hattempts⟩ := Cadence.plan_ok hplan
  have hpos := plan.maxAttempts_pos
  have hlt := plan.maxAttempts_lt
  have hword := plan.word_pred
  refine ⟨hinterval, hinterval ▸ plan.interval_pos, hattempts, by omega, by omega,
    c.attempts_eq, by omega, ?_, ?_⟩
  · unfold Plan.sleepBudget
    rw [← hinterval, ← hword, Nat.add_sub_cancel]
  intro Q A σ α j e s hj
  have hopening : (Count.opening s).attempts.toNat + (c.attempts - 1) + 1 =
      j.plan.maxAttempts := by
    rw [hj]
    change 0 + (c.attempts - 1) + 1 = _
    omega
  refine ⟨fun n hn => ?_, fun n count hcount => ?_, ?_⟩
  · rw [Job.laps_eq_runFrom hopening (by omega)]
    unfold Job.run
    rw [hj, hattempts]
    rfl
  · obtain ⟨hle, htotal⟩ := Job.laps_count hopening hcount
    have hcounted : count.attempts.toNat = n := htotal.trans (Nat.zero_add n)
    have hroom : count.attempts.toNat + (c.attempts - 1 - n) + 1 = j.plan.maxAttempts := by
      rw [hj]
      omega
    exact ⟨by omega, hcounted, hcounted ▸ Job.succ_toNat hroom⟩
  · rw [← hattempts, ← hj]
    exact j.attempts_le e s

/-- The longest timeout by the shortest interval comes to all the attempts that there can be. A
poll of a condition that is never met has counted two after two laps. -/
theorem counters_never_wrap_longest :
    let c : Cadence := { interval := ⟨1⟩, limit := .within .longest }
    let e : Setting Nat (fun _ => Finding Nat) (Tally Nat) :=
      { source := .scripted fun _ _ => { answer := .pending none, delay := 0 }, trigger := .never }
    ∃ plan, Plan.ofTimeout "nodes" .longest ⟨1⟩ = .ok plan ∧ plan.MadeOf c ∧
      plan.maxAttempts = 4294967295 ∧ (plan.word - 1).toNat = 4294967294 ∧
      ∃ count, (({ rehearsal 0 with plan } : Job Nat (fun _ => Finding Nat) Nat).laps e 2
          (.opening (e.opening [])) (e.opening [])).result = .inr count ∧
        2 < plan.maxAttempts ∧ count.attempts.toNat = 2 := by
  intro c e
  obtain ⟨plan, hplan, hgoes⟩ : ∃ plan, Plan.ofTimeout "nodes" .longest ⟨1⟩ = .ok plan ∧
      (({ rehearsal 0 with plan } : Job Nat (fun _ => Finding Nat) Nat).laps e 2
        (.opening (e.opening [])) (e.opening [])).result.isRight = true :=
    ⟨_, rfl, by decide +kernel⟩
  have hmade : plan.MadeOf c := .timeout hplan
  obtain ⟨-, -, hattempts, -, -, -, hword, -, hloop⟩ := counters_never_wrap hmade
  have hall : c.attempts = 4294967295 := by decide +kernel
  obtain ⟨count, hresult⟩ := Sum.isRight_iff.mp hgoes
  obtain ⟨-, hcounts, -⟩ := hloop { rehearsal 0 with plan } e (e.opening []) rfl
  obtain ⟨hlt, hcount, -⟩ := hcounts 2 count hresult
  exact ⟨plan, hplan, hmade, by omega, by omega, count, hresult, by omega, hcount⟩

end Convergence
