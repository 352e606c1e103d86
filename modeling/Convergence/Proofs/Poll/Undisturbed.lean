import Convergence.Proofs.Poll.Rounds
import Convergence.Poll.Script
import Mathlib.Algebra.BigOperators.Group.List.Basic
import Mathlib.Algebra.GroupWithZero.Nat

/-! What a poll does that no token cuts short: which tick is its last, when each of
them begins, and what the run reports. All of it follows from what the calls of the
check find and from how long they take. -/
namespace Convergence

variable {Q : Type} {A : Q → Type} {σ α : Type}

namespace Job

variable (j : Job Q A α) (e : Setting Q A σ) (s : Scene σ)

/-- The token does not reach the poll, or nothing ever cancels it. -/
def Undisturbed : Prop := j.cancellable = false ∨ (e.trigger = .never ∧ s.cancelled = false)

/-- When the call after `i` others begins, in a run that begins at `now`. -/
def startAt (source : Source Q A σ) (state : σ) (now : Instant) : Nat → Instant
  | 0 => now
  | i + 1 =>
    wakeTime (startAt source state now i + (j.check.callAt source state i).delay) j.plan.interval

def endAt (source : Source Q A σ) (state : σ) (now : Instant) (i : Nat) : Instant :=
  j.startAt source state now i + (j.check.callAt source state i).delay

/-- How long the sleep after that call takes. -/
def pauseAt (source : Source Q A σ) (state : σ) (now : Instant) (i : Nat) : Nat :=
  j.startAt source state now (i + 1) - j.endAt source state now i

theorem checkOnce_never {e : Setting Q A σ} (h : e.trigger = .never) (s : Scene σ) :
    (j.checkOnce e s).scene.cancelled = s.cancelled := by
  unfold checkOnce Setting.ask Scene.pass
  simp only [h, Trigger.never]
  cases j.check.next (e.source j.check.query s.source).1.answer <;> simp

theorem shown_never {e : Setting Q A σ} (h : e.trigger = .never) (s : Scene σ) :
    (j.shown e s).cancelled = s.cancelled := by
  rw [← j.checkOnce_never h s]
  unfold shown afterTick Setting.observe
  split <;> simp [h, Trigger.never]

theorem sceneAt_never {e : Setting Q A σ} (h : e.trigger = .never) (s : Scene σ) (i : Nat) :
    (j.sceneAt e s i).cancelled = s.cancelled := by
  induction i with
  | zero => rfl
  | succ i ih => rw [sceneAt, rested_cancelled, j.shown_never h, ih]

theorem Undisturbed.stops_sceneAt {j : Job Q A α} {e : Setting Q A σ} {s : Scene σ}
    (h : j.Undisturbed e s) (i : Nat) : j.stops e (j.sceneAt e s i) = false := by
  unfold stops Setting.isCancelled
  rcases h with hfree | ⟨hnever, hlive⟩
  · simp [hfree]
  · simp [j.sceneAt_never hnever, hlive, hnever, Trigger.past, Trigger.never]

theorem sceneAt_source (i : Nat) :
    (j.sceneAt e s i).source = j.check.sourceAfter e.source s.source i := by
  induction i with
  | zero => rfl
  | succ i ih =>
    rw [sceneAt, rested_source, shown_source, checkOnce_source, ih]
    rfl

theorem findingAt_eq (i : Nat) :
    j.findingAt e s i = (j.check.callAt e.source s.source i).finding := by
  unfold findingAt Check.callAt
  rw [checkOnce_result, sceneAt_source]

theorem returnAt_eq (i : Nat) :
    j.returnAt e s i =
      (j.sceneAt e s i).now + (j.check.callAt e.source s.source i).delay := by
  unfold returnAt Check.callAt
  rw [shown_now, checkOnce_now, sceneAt_source]

theorem sceneAt_now (i : Nat) :
    (j.sceneAt e s i).now = j.startAt e.source s.source s.now i := by
  induction i with
  | zero => rfl
  | succ i ih =>
    rw [sceneAt, rested_now, ← returnAt, returnAt_eq, ih]
    rfl

theorem returnAt_eq_endAt (i : Nat) :
    j.returnAt e s i = j.endAt e.source s.source s.now i := by
  rw [returnAt_eq, sceneAt_now]
  rfl

theorem tickAt_eq (i : Nat) :
    j.tickAt e s i =
      (j.check.callAt e.source s.source i).events j.index (j.startAt e.source s.source s.now i) ++
        j.tickEvents (j.recordAt e s i) := by
  unfold tickAt Check.callAt
  rw [checkOnce_events, sceneAt_source, sceneAt_now]

theorem lastNote_eq (i : Nat) :
    (j.courseAt e s i).lastNote = Finding.lastNote? ((List.range i).map fun k =>
      (j.check.callAt e.source s.source k).finding) := by
  rw [courseAt_lastNote]
  exact congrArg Finding.lastNote? (List.map_congr_left fun k _ => j.findingAt_eq e s k)

theorem recordAt_eq (i : Nat) :
    j.recordAt e s i =
      { attempt := i + 1
        maxAttempts := j.plan.maxAttempts
        elapsed := elapsedBetween s.now (j.endAt e.source s.source s.now i)
        mark := (j.check.callAt e.source s.source i).finding.mark
        note := (j.check.callAt e.source s.source i).finding.shown? } := by
  unfold recordAt
  rw [returnAt_eq_endAt, findingAt_eq]

/-- The calls and the sleeps between them, put end to end. -/
theorem endAt_eq_sum (source : Source Q A σ) (state : σ) (now : Instant) (n : Nat) :
    j.endAt source state now n =
      now + (((List.range (n + 1)).map fun i => (j.check.callAt source state i).delay).sum +
        ((List.range n).map (j.pauseAt source state now)).sum) := by
  induction n with
  | zero => rfl
  | succ n ih =>
    have hwake := lt_wakeTime (j.endAt source state now n) j.plan.interval_pos
    have hpause : j.startAt source state now (n + 1) =
        j.endAt source state now n + j.pauseAt source state now n := by
      unfold pauseAt
      exact (Nat.add_sub_cancel' (Nat.le_of_lt hwake)).symm
    rw [List.sum_range_succ, List.sum_range_succ (j.pauseAt source state now)]
    unfold endAt at ih hpause ⊢
    rw [hpause, ih]
    unfold Instant
    omega

theorem endAt_elapsed (source : Source Q A σ) (state : σ) (now : Instant) (n : Nat) :
    elapsedBetween now (j.endAt source state now n) =
      .ofMillis (((List.range (n + 1)).map fun i => (j.check.callAt source state i).delay).sum +
        ((List.range n).map (j.pauseAt source state now)).sum) := by
  unfold elapsedBetween
  rw [endAt_eq_sum]
  exact congrArg Duration.ofMillis (Nat.add_sub_cancel_left _ _)

/-- The run of a poll that is left alone. One call follows the other after a sleep, up
to the first that decides or the last that may be made; no sleep follows it. Calls take
whole milliseconds, as many as their reads do. -/
theorem run_undisturbed (h : j.Undisturbed e s) :
    ∃ n < j.plan.maxAttempts,
      let call := j.check.callAt e.source s.source
      let start := j.startAt e.source s.source s.now
      let elapsed := fun i => elapsedBetween s.now (start i + (call i).delay)
      let lastNote := fun i => Finding.lastNote? ((List.range i).map fun k => (call k).finding)
      let tick := fun i => (call i).events j.index (start i) ++ j.tickEvents
        { attempt := i + 1
          maxAttempts := j.plan.maxAttempts
          elapsed := elapsed i
          mark := (call i).finding.mark
          note := (call i).finding.shown? }
      (∀ i < n, (call i).finding.isPending = true) ∧
      (n + 1 = j.plan.maxAttempts ∨ (call n).finding.isPending = false) ∧
      (j.run e s).result =
        { ending := (call n).finding.ending?.getD .timedOut
          attempts := n + 1
          elapsed := .ofMillis (((List.range (n + 1)).map fun i => (call i).delay).sum +
            ((List.range n).map (j.pauseAt e.source s.source s.now)).sum)
          lastNote := lastNote (n + 1) } ∧
      (j.run e s).scene.now = start n + (call n).delay ∧
      (j.run e s).scene.source = j.check.sourceAfter e.source s.source (n + 1) ∧
      (j.run e s).events =
        (List.range n).flatMap (fun i => tick i ++
          [.noticed (.pending j.plan.description (i + 1) j.plan.maxAttempts (elapsed i)
            (lastNote (i + 1)) j.plan.interval)]) ++
          tick n ++ (j.endNotices (j.run e s).result).map .noticed := by
  obtain ⟨n, hn, hpending, hend⟩ := j.exists_decided e s
  have hrun := j.run_of_decided e s hn hpending (fun i _ => h.stops_sceneAt i) hend
  refine ⟨n, hn, ?_, ?_, ?_, ?_, ?_, ?_⟩
  · intro i hi
    rw [← findingAt_eq]
    exact hpending i hi
  · rw [← findingAt_eq]
    exact hend
  · rw [hrun]
    dsimp only
    rw [← endAt_elapsed, ← lastNote_eq, ← findingAt_eq, ← returnAt_eq_endAt]
    unfold conclude report returnAt
    rw [courseAt_started]
    rfl
  · rw [hrun]
    exact j.returnAt_eq_endAt e s n
  · rw [hrun, ← sceneAt_source, sceneAt, rested_source]
    rfl
  · have hevents : (j.run e s).events = j.roundsBefore e s n ++ j.tickAt e s n ++
        (j.endNotices (j.run e s).result).map .noticed := by
      rw [hrun]
      rfl
    rw [hevents]
    unfold roundsBefore roundAt
    simp only [tickAt_eq, recordAt_eq, lastNote_eq, returnAt_eq_endAt]
    rfl

end Job

/-- A poll of three ticks, a second apart. -/
def rehearsal (index : Nat) : Job Nat (fun _ => Finding Nat) Nat :=
  { index
    plan :=
      { description := "rehearsal"
        interval := .ofSecs 1
        maxAttempts := 3
        interval_pos := by decide
        maxAttempts_pos := by decide
        maxAttempts_lt := by decide }
    check := .told index
    cancellable := true
    observed := true
    farewell := fun _ => [] }

/-- Its condition is met by the third call. The first takes five milliseconds. -/
def rehearsed : Source Nat (fun _ => Finding Nat) (Tally Nat) :=
  .scripted fun _ n =>
    match n with
    | 0 => { answer := .waiting "half", delay := 5 }
    | 1 => { answer := .pending none, delay := 0 }
    | _ => { answer := .met 7, delay := 0 }

theorem run_undisturbed_rehearsal :
    let e : Setting Nat (fun _ => Finding Nat) (Tally Nat) :=
      { source := rehearsed, trigger := .never }
    (rehearsal 0).Undisturbed e (e.opening []) ∧
      ∃ n < 3, (∀ i < n, ((rehearsal 0).check.callAt rehearsed [] i).finding.isPending = true) ∧
        ((rehearsal 0).run e (e.opening [])).result.attempts = n + 1 := by
  intro e
  have h : (rehearsal 0).Undisturbed e (e.opening []) := .inr ⟨rfl, rfl⟩
  obtain ⟨n, hn, hpending, -, hresult, -⟩ := (rehearsal 0).run_undisturbed e (e.opening []) h
  exact ⟨h, n, hn, hpending, congrArg Report.attempts hresult⟩

example :
    ((rehearsal 0).run { source := rehearsed, trigger := .never }
      { now := 0, source := [], reads := 0, ticks := 0, cancelled := false }).result =
      { ending := .converged 7, attempts := 3, elapsed := .ofMillis 2005
        lastNote := some "half" } := by
  decide

end Convergence
